import EntityService.Query.Options

/-! How a client language writes options: every item is a call, on a new line with one tab, and the
calls stand behind one another. Values are written as they are. -/
namespace EntityService.Query

open Http

structure Dialect where
  quote : String
  method : Kind → String

namespace Dialect

def quoted (d : Dialect) (text : String) : String := d.quote ++ text ++ d.quote

def call (method argument : String) : String := "\n\t." ++ method ++ "(" ++ argument ++ ")"

/-- The argument of the call for an option. Numbers and flags have no quotes. -/
def argument (d : Dialect) : QueryOption → String
  | .select fields => d.quoted (",".intercalate fields)
  | .filter expression => d.quoted expression
  | .search term => d.quoted term
  | .orderby expression => d.quoted expression
  | .skip amount => amount.repr
  | .top amount => amount.repr
  | .count flag => if flag then "true" else "false"
  | .expand expression => d.quoted expression

def fragment (d : Dialect) : Item → String
  | .option o => call (d.method o.kind) (d.argument o)
  | .header h => call (d.method .header) (d.quoted h.name ++ "," ++ d.quoted h.value)

/-- The calls for all items. -/
def querySection (d : Dialect) (os : Options) : String := String.join (os.items.map d.fragment)

end Dialect
end EntityService.Query
