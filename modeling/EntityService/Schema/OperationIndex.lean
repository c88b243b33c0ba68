import EntityService.Schema.Graph

/-! Operations by simple name. For every name that an operation has, the index holds the places of
the operations with that name in the list of all operations. -/
namespace EntityService.Schema

structure OperationIndex where
  entries : List (String × List Nat) := []
deriving DecidableEq, Repr

namespace OperationIndex

def addEntry (name : String) (place : Nat) : List (String × List Nat) → List (String × List Nat)
  | [] => [(name, [place])]
  | entry :: rest =>
    if entry.1 = name then (name, entry.2 ++ [place]) :: rest else entry :: addEntry name place rest

def add (i : OperationIndex) (name : String) (place : Nat) : OperationIndex :=
  ⟨addEntry name place i.entries⟩

/-- Adds operations that stand at given places. -/
def addAll (i : OperationIndex) (operations : List (Operation × Nat)) : OperationIndex :=
  operations.foldl (fun i o => i.add o.1.name o.2) i

def ofOperations (operations : List Operation) : OperationIndex :=
  addAll {} operations.zipIdx

def places (i : OperationIndex) (name : String) : List Nat := (i.entries.lookup name).getD []

theorem lookup_addEntry (name other : String) (place : Nat) (es : List (String × List Nat)) :
    (addEntry name place es).lookup other =
      if other = name then some ((es.lookup name).getD [] ++ [place]) else es.lookup other := by
  induction es with
  | nil => grind [addEntry]
  | cons e es ih => by_cases h : e.1 = name <;> grind [addEntry]

theorem places_add (i : OperationIndex) (name other : String) (place : Nat) :
    (i.add name place).places other =
      if other = name then i.places name ++ [place] else i.places other := by
  rw [places, add, lookup_addEntry]
  by_cases same : other = name
  · rw [if_pos same, if_pos same, Option.getD_some, places]
  · rw [if_neg same, if_neg same, places]

/-- What is added comes behind what was there. -/
theorem places_addAll (i : OperationIndex) (operations : List (Operation × Nat)) (name : String) :
    (i.addAll operations).places name =
      i.places name ++ (operations.filter (·.1.name == name)).map (·.2) := by
  induction operations generalizing i with
  | nil => exact (List.append_nil _).symm
  | cons o operations ih =>
    rw [addAll, List.foldl_cons, ← addAll, ih, places_add, List.filter_cons]
    by_cases same : o.1.name = name
    · simp [same]
    · simp [same, Ne.symm same]

theorem places_ofOperations (operations : List Operation) (name : String) :
    (ofOperations operations).places name =
      (operations.zipIdx.filter (·.1.name == name)).map (·.2) := by
  rw [ofOperations, places_addAll]
  rfl

end OperationIndex
end EntityService.Schema
