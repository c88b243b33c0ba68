import EntityService.Text.IgnoreCase

/-! The kinds of query options and the keys that they have in a query string. Headers are a kind of
their own, which no key of a query string stands for. -/
namespace EntityService.Query

/-- Kinds are compared by the order of their declaration. -/
inductive Kind where
  | select
  | filter
  | search
  | orderby
  | skip
  | top
  | count
  | expand
  | header
deriving DecidableEq, Repr, Ord

namespace Kind

/-- All kinds in the order in which they are written. -/
def all : List Kind :=
  [.select, .filter, .search, .orderby, .skip, .top, .count, .expand, .header]

def name : Kind → String
  | .select => "select"
  | .filter => "filter"
  | .search => "search"
  | .orderby => "orderby"
  | .skip => "skip"
  | .top => "top"
  | .count => "count"
  | .expand => "expand"
  | .header => "header"

/-- The text that is shown for a kind. -/
def key : Kind → String
  | .header => "header"
  | k => "$" ++ k.name

/-- The dollar sign in front of a key may be left out. -/
def withoutDollar : List Char → List Char
  | '$' :: cs => cs
  | cs => cs

/-- The kind with a key. Letter case does not matter. -/
def ofKey? (key : String) : Option Kind :=
  (all.filter (· != .header)).find? fun k =>
    Text.sameIgnoringCase k.name (String.ofList (withoutDollar key.toList))

end Kind
end EntityService.Query
