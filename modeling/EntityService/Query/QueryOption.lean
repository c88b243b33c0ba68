import EntityService.Query.Error
import EntityService.Text.Blank

/-! One query option, and how it is read from and written as the value of a pair. -/
namespace EntityService.Query

open Text

inductive QueryOption where
  | select (fields : List String)
  | filter (expression : String)
  | search (term : String)
  | orderby (expression : String)
  | skip (amount : Nat)
  | top (amount : Nat)
  | count (flag : Bool)
  | expand (expression : String)
deriving DecidableEq, Repr

namespace QueryOption

def kind : QueryOption → Kind
  | .select _ => .select
  | .filter _ => .filter
  | .search _ => .search
  | .orderby _ => .orderby
  | .skip _ => .skip
  | .top _ => .top
  | .count _ => .count
  | .expand _ => .expand

/-- Amounts have sixty-four bits. -/
def amountBound : Nat := 0x10000000000000000

def readAmount? (cs : List Char) : Option Nat :=
  if !cs.isEmpty && cs.all Char.isDigit && Nat.ofDigitChars 10 cs 0 < amountBound then
    some (Nat.ofDigitChars 10 cs 0)
  else none

def readFlag? (s : String) : Option Bool :=
  if sameIgnoringCase s "true" then some true
  else if sameIgnoringCase s "false" then some false
  else none

/-- The names between the commas, without blanks around them and without empty ones. -/
def readFields (cs : List Char) : List String :=
  (((cs.splitOn ',').map trim).filter (!·.isEmpty)).map String.ofList

/-- Quotes are taken off if they stand at both ends. -/
def unquote (cs : List Char) : List Char :=
  ((['"'].isPrefixOf? cs).bind (['"'].isSuffixOf? ·)).getD cs

/-- An option that is a text, unless the text is empty. -/
def ofText (option : String → QueryOption) (cs : List Char) : Option QueryOption :=
  if cs.isEmpty then none else some (option (String.ofList cs))

/-- The option that a value without blanks at its ends gives. The outer level is missing for a
malformed value, the inner one for a value that says nothing. -/
def ofTrimmed? (cs : List Char) : Kind → Option (Option QueryOption)
  | .select =>
    let fields := readFields cs
    some (if fields.isEmpty then none else some (.select fields))
  | .filter => some (ofText .filter cs)
  | .search => some (ofText .search (unquote cs))
  | .orderby => some (ofText .orderby cs)
  | .skip => (readAmount? cs).map (some <| .skip ·)
  | .top => (readAmount? cs).map (some <| .top ·)
  | .count => (readFlag? (String.ofList cs)).map (some <| .count ·)
  | .expand => some (ofText .expand cs)
  | .header => some none

def read (kind : Kind) (value : String) : Except QueryError (Option QueryOption) :=
  match ofTrimmed? (trim value.toList) kind with
  | some option => .ok option
  | none => .error (.malformedOption kind value)

/-- A value that the option is read from. -/
def valueText : QueryOption → String
  | .select fields => ",".intercalate fields
  | .filter expression => expression
  | .search term => "\"" ++ term ++ "\""
  | .orderby expression => expression
  | .skip amount => amount.repr
  | .top amount => amount.repr
  | .count flag => if flag then "true" else "false"
  | .expand expression => expression

end QueryOption
end EntityService.Query
