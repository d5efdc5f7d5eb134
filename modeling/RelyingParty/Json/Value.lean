import RelyingParty.Json.Number

set_option autoImplicit false

namespace RelyingParty

inductive Json
  | null
  | bool (value : Bool)
  | number (value : Json.Number)
  | string (value : String)
  | array (items : List Json)
  | object (members : List (String × Json))
  deriving Repr, Inhabited

namespace Json

/-- The members of an object in the order of their names. -/
abbrev Members := List (String × Json)

namespace Members

def get? (members : Members) (name : String) : Option Json := members.lookup name

def insert (name : String) (value : Json) : Members -> Members
  | [] => [(name, value)]
  | (other, old) :: rest =>
    if name < other then (name, value) :: (other, old) :: rest
    else if name = other then (name, value) :: rest
    else (other, old) :: insert name value rest

def ofList (members : List (String × Json)) : Members :=
  members.foldl (fun total member => insert member.1 member.2 total) []

def without (names : List String) (members : Members) : Members :=
  members.filter fun member => !names.contains member.1

end Members

def ofMembers (members : List (String × Json)) : Json := .object (Members.ofList members)

def optionalMember {A : Type} (name : String) (write : A -> Json) :
    Option A -> List (String × Json)
  | some value => [(name, write value)]
  | none => []

def string? : Json -> Option String
  | .string text => some text
  | _ => none

def strings? : Json -> Option (List String)
  | .array items => items.mapM string?
  | _ => none

end Json

end RelyingParty
