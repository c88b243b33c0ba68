/-! Named members in the order in which their names were first declared. Declaring a name again
changes what it refers to and not its place. -/
namespace EntityService.Schema

/-- Refers to a type by its place in the table of types. -/
structure TypeRef where
  index : Nat
  collection : Bool
deriving DecidableEq, Repr

def TypeRef.single (index : Nat) : TypeRef := ⟨index, false⟩

structure Members where
  entries : List (String × TypeRef) := []
deriving DecidableEq, Repr

namespace Members

def putEntry (name : String) (type : TypeRef) : List (String × TypeRef) → List (String × TypeRef)
  | [] => [(name, type)]
  | entry :: rest =>
    if entry.1 = name then (name, type) :: rest else entry :: putEntry name type rest

def put (m : Members) (name : String) (type : TypeRef) : Members := ⟨putEntry name type m.entries⟩

def ofDeclared (declared : List (String × TypeRef)) : Members :=
  declared.foldl (fun m entry => m.put entry.1 entry.2) {}

def find? (m : Members) (name : String) : Option TypeRef := m.entries.lookup name

theorem lookup_putEntry (name other : String) (type : TypeRef) (es : List (String × TypeRef)) :
    (putEntry name type es).lookup other = if other = name then some type else es.lookup other := by
  induction es with
  | nil => grind [putEntry]
  | cons e es ih => by_cases h : e.1 = name <;> grind [putEntry]

theorem find?_put (m : Members) (name other : String) (type : TypeRef) :
    (m.put name type).find? other = if other = name then some type else m.find? other :=
  lookup_putEntry name other type m.entries

end Members
end EntityService.Schema
