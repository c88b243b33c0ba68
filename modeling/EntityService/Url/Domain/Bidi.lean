import EntityService.Text.Direction

/-! Domains that are in part written from right to left. So that their labels can be told apart in
any order on a page, every label then has one direction, and begins and ends so as to show it. -/
namespace EntityService.Url.Domain

open Text

def isRightToLeft (label : List Char) : Bool :=
  label.any fun c => [.right, .arabicNumber].contains (direction c)

/-- The last character that takes space. -/
def lastDirection? (directions : List Direction) : Option Direction :=
  (directions.reverse.dropWhile (· == .nonspacing)).head?

def endsIn (allowed directions : List Direction) : Bool :=
  (lastDirection? directions).any allowed.contains

/-- A label begins with a letter. From left to right it has no letters and numbers of the other
direction; from right to left it has no such letters and only one kind of numbers. -/
def keepsDirection (label : List Char) : Bool :=
  let directions := label.map direction
  match directions with
  | [] => true
  | .left :: _ =>
    directions.all [.left, .europeanNumber, .neutral, .nonspacing].contains &&
      endsIn [.left, .europeanNumber] directions
  | .right :: _ =>
    !directions.contains .left && endsIn [.right, .europeanNumber, .arabicNumber] directions &&
      !(directions.contains .europeanNumber && directions.contains .arabicNumber)
  | _ => false

/-- The rule holds for domains that have a label from right to left. -/
def keepDirections (labels : List (List Char)) : Bool :=
  !labels.any isRightToLeft || labels.all keepsDirection

end EntityService.Url.Domain
