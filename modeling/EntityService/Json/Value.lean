import EntityService.Json.Number

/-! JSON documents. Object members are kept in the order of their names. -/
namespace EntityService

inductive Json where
  | null
  | bool (b : Bool)
  | number (n : Json.Number)
  | string (s : String)
  | array (elements : List Json)
  | object (members : List (String × Json))

namespace Json

/-- A member takes the place of another one with its name. -/
def putMember (name : String) (value : Json) : List (String × Json) → List (String × Json)
  | [] => [(name, value)]
  | member :: rest =>
    if name = member.1 then (name, value) :: rest
    else if name < member.1 then (name, value) :: member :: rest
    else member :: putMember name value rest

/-- The object with members that are given in any order. -/
def ofMembers (members : List (String × Json)) : Json :=
  .object (members.foldl (fun sorted member => putMember member.1 member.2 sorted) [])

end Json
end EntityService
