import EntityService.Http.Token
import EntityService.Text.IgnoreCase

/-! Media types, as the Content-Type header gives them. Letter case does not matter, and parameters
only have to be well-formed. -/
namespace EntityService.Http

structure MediaType where
  type : String
  subtype : String
  suffix : Option String
deriving DecidableEq, Repr

namespace MediaType

/-- What has been read of the parameters. -/
inductive ParameterState where
  | start
  | name
  | valueStart
  | value
  | quotedStart
  | quoted
  | afterQuoted
deriving DecidableEq, Repr

def isQuotable (c : Char) : Bool := 0x1F < c.toNat && c.toNat != 0x7F

/-- Spaces may stand in front of a name and behind quotes. The first character after an opening
quote never closes it. -/
def ParameterState.step : ParameterState → Char → Option ParameterState
  | .start, c => if c == ' ' then some .start else if isTokenChar c then some .name else none
  | .name, c => if c == '=' then some .valueStart else if isTokenChar c then some .name else none
  | .valueStart, c =>
    if c == '"' then some .quotedStart else if isTokenChar c then some .value else none
  | .value, c => if c == ';' then some .start else if isTokenChar c then some .value else none
  | .quotedStart, c => if isQuotable c then some .quoted else none
  | .quoted, c =>
    if c == '"' then some .afterQuoted else if isQuotable c then some .quoted else none
  | .afterQuoted, c =>
    if c == ';' then some .start else if c == ' ' then some .afterQuoted else none

/-- The parameters may end here. A value may be missing at the end. -/
def ParameterState.isFinal : ParameterState → Bool
  | .start | .valueStart | .value | .afterQuoted => true
  | .name | .quotedStart | .quoted => false

def areParameters (cs : List Char) : Bool :=
  (cs.foldlM ParameterState.step .start).any (·.isFinal)

/-- The text after the last plus sign that is not the first character. -/
def suffix? : List Char → Option (List Char)
  | [] => none
  | _ :: cs => if cs.contains '+' then some (cs.reverse.takeWhile (· != '+')).reverse else none

def ofParts (type subtype : List Char) : MediaType :=
  let small (cs : List Char) := String.ofList (cs.map Char.toLower)
  ⟨small type, small subtype, (suffix? subtype).map small⟩

/-- Without parameters the subtype may be empty. -/
def parse? (text : String) : Option MediaType :=
  let type := text.toList.takeWhile isTokenChar
  match text.toList.dropWhile isTokenChar with
  | '/' :: cs =>
    let subtype := cs.takeWhile isTokenChar
    let isValid := match cs.dropWhile isTokenChar with
      | [] => true
      | ';' :: parameters => !subtype.isEmpty && areParameters parameters
      | _ => false
    if isValid && !type.isEmpty then some (ofParts type subtype) else none
  | _ => none

def isJson (m : MediaType) : Bool :=
  (m.type == "application" && m.subtype == "json") || m.suffix == some "json"

end MediaType
end EntityService.Http
