import EntityService.Query.Dialect
import EntityService.Text.Blank

/-! The client languages and their dialects. -/
namespace EntityService.Query

inductive Language where
  | javascript
  | csharp
  | java
deriving DecidableEq, Repr

namespace Language

def all : List Language := [.javascript, .csharp, .java]

def name : Language → String
  | .javascript => "javascript"
  | .csharp => "csharp"
  | .java => "java"

/-- The names by which a language is asked for. -/
def aliases : Language → List String
  | .javascript => ["javascript", "js"]
  | .csharp => ["csharp", "c#", "cs"]
  | .java => ["java"]

/-- Blanks around the name and its letter case do not matter. -/
def ofName? (name : String) : Option Language :=
  let lowered := Text.lower (String.ofList (Text.trim name.toList))
  all.find? (·.aliases.contains lowered)

def unknownMessage (name : String) : String :=
  "Unknown language '" ++ name ++ "', expected one of: " ++ ", ".intercalate (all.map (·.name))

def capitalMethod : Kind → String
  | .select => "Select"
  | .filter => "Filter"
  | .search => "Search"
  | .orderby => "OrderBy"
  | .skip => "Skip"
  | .top => "Top"
  | .count => "Count"
  | .expand => "Expand"
  | .header => "Header"

def camelMethod : Kind → String
  | .orderby => "orderBy"
  | kind => kind.name

def dialect : Language → Dialect
  | .javascript => ⟨"'", Kind.name⟩
  | .csharp => ⟨"\"", capitalMethod⟩
  | .java => ⟨"\"", camelMethod⟩

end Language
end EntityService.Query
