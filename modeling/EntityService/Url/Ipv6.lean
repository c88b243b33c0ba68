import EntityService.Text.Percent

/-! Addresses of eight pieces of sixteen bits. Two colons stand for at least one piece of zeros, and
the last two pieces may be written as four octets. -/
namespace EntityService.Url.Ipv6

open Text

abbrev Address := List Nat

/-- Between one and four hexadecimal digits. -/
def piece? (cs : List Char) : Option Nat :=
  if cs.isEmpty || 4 < cs.length then none
  else cs.foldlM (fun value c => (Percent.hexDigit? c).map (value * 16 + ·)) 0

/-- A decimal number below 256 without zeros in front. -/
def octet? (cs : List Char) : Option Nat :=
  let value := Nat.ofDigitChars 10 cs 0
  if !cs.isEmpty && cs.all Char.isDigit && value < 256 && (cs.length = 1 || cs.head? != some '0')
  then some value else none

/-- Two pieces that are written as four octets. -/
def dotted? (cs : List Char) : Option (List Nat) := do
  match ← (cs.splitOn '.').mapM octet? with
  | [a, b, c, d] => return [a * 256 + b, c * 256 + d]
  | _ => none

/-- Pieces with colons between them, or no text at all. -/
def pieces? (cs : List Char) : Option (List Nat) :=
  if cs.isEmpty then some [] else (cs.splitOn ':').mapM piece?

/-- The same, and the last may be four octets. -/
def finalPieces? (cs : List Char) : Option (List Nat) :=
  match (cs.splitOn ':').reverse with
  | last :: before =>
    if last.contains '.' then do
      return (← before.reverse.mapM piece?) ++ (← dotted? last)
    else pieces? cs
  | [] => none

/-- The texts before and after the first two colons. -/
def atDoubleColon? : List Char → Option (List Char × List Char)
  | ':' :: ':' :: cs => some ([], cs)
  | c :: cs => (atDoubleColon? cs).map fun (before, after) => (c :: before, after)
  | [] => none

def address? (cs : List Char) : Option Address := do
  match atDoubleColon? cs with
  | some (before, after) =>
    let left ← pieces? before
    let right ← finalPieces? after
    let given := left.length + right.length
    if given < 8 then return left ++ List.replicate (8 - given) 0 ++ right else none
  | none =>
    let pieces ← finalPieces? cs
    if pieces.length = 8 then return pieces else none

/-- Lower-case digits without zeros in front. -/
def pieceText (piece : Nat) : List Char := Nat.toDigits 16 piece

def piecesText (pieces : List Nat) : List Char := [':'].intercalate (pieces.map pieceText)

/-- The number of zero pieces that begin at each place. -/
def zeroRuns (address : Address) : List Nat :=
  (List.range address.length).map fun i => ((address.drop i).takeWhile (· == 0)).length

/-- The first of the longest runs of zeros, if it has two pieces at least, is left out. -/
def text (address : Address) : String :=
  let longest := (zeroRuns address).foldl max 0
  if longest < 2 then String.ofList (piecesText address)
  else
    let start := (zeroRuns address).idxOf longest
    String.ofList (piecesText (address.take start) ++ ':' :: ':' ::
      piecesText (address.drop (start + longest)))

end EntityService.Url.Ipv6
