import EntityService.Http.Header
import EntityService.Query.Pairs
import EntityService.Query.QueryOption

/-! The options of a request, filed under the kinds of their keys, and the headers that the sender of
the request chose. Of each kind there is at most one option, the last that says something. -/
namespace EntityService.Query

open Http

/-- Options stand in ascending order of the kinds that they are filed under, headers in the order of
the request. -/
structure Options where
  entries : List (Kind × QueryOption) := []
  headers : List Header := []
deriving DecidableEq, Repr

/-- A query option or a header. -/
inductive Item where
  | option (o : QueryOption)
  | header (h : Header)
deriving DecidableEq, Repr

def Item.kind : Item → Kind
  | .option o => o.kind
  | .header _ => .header

/-- Takes the place of an entry with the same kind, or comes before the first with a later one. -/
def insertEntry (k : Kind) (o : QueryOption) :
    List (Kind × QueryOption) → List (Kind × QueryOption)
  | [] => [(k, o)]
  | entry :: entries =>
    match compare k entry.1 with
    | .lt => (k, o) :: entry :: entries
    | .eq => (k, o) :: entries
    | .gt => entry :: insertEntry k o entries

namespace Options

def set (os : Options) (k : Kind) (o : QueryOption) : Options :=
  { os with entries := insertEntry k o os.entries }

def get? (os : Options) (k : Kind) : Option QueryOption := os.entries.lookup k

/-- The query options without the headers. -/
def toList (os : Options) : List QueryOption := os.entries.map (·.2)

/-- The query options as they are filed, then the headers as they were captured. -/
def items (os : Options) : List Item := os.toList.map .option ++ os.headers.map .header

def size (os : Options) : Nat := os.entries.length + os.headers.length

def isEmpty (os : Options) : Bool := os.entries.isEmpty && os.headers.isEmpty

/-- The options that pairs give, one after the other, each with the kind of its key. Pairs with other
keys do not matter. -/
def readAll : List Pair → Except QueryError (List (Kind × QueryOption))
  | [] => .ok []
  | (key, value) :: pairs =>
    match Kind.ofKey? key with
    | none => readAll pairs
    | some kind => do
      let option ← QueryOption.read kind value
      let entries ← readAll pairs
      return (option.map (kind, ·)).toList ++ entries

/-- The headers whose names are not reserved. All names have to be valid, reserved or not. -/
def chosen (reserved : List String) : List Header → Except QueryError (List Header)
  | [] => .ok []
  | h :: hs =>
    if isHeaderName h.name then do
      let rest ← chosen reserved hs
      return if isAmong reserved h.name then rest else h :: rest
    else .error .invalidHeaderName

/-- Entries are filed one after the other. -/
def ofList (entries : List (Kind × QueryOption)) (headers : List Header) : Options :=
  entries.foldl (fun os entry => os.set entry.1 entry.2) { headers }

/-- A malformed option is reported before a header. -/
def ofPairs (pairs : List Pair) (headers : Headers) (reserved : List String) :
    Except QueryError Options := do
  let entries ← readAll pairs
  let kept ← chosen reserved headers.entries
  return ofList entries kept

def read (query : String) (headers : Headers) : Except QueryError Options :=
  ofPairs (readPairs query) headers clientHeaders

/-- The pairs that say the same as some options. -/
def toPairs (options : List QueryOption) : List Pair :=
  options.map fun o => (o.kind.key, o.valueText)

end Options
end EntityService.Query
