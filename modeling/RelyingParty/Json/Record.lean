import RelyingParty.Json.Tree

set_option autoImplicit false

namespace RelyingParty.Json

abbrev Fields := List (String × Tree)

namespace Fields

def ofMembers? (names : List String) : List (Option String × Tree) -> Option Fields
  | [] => some []
  | (none, _) :: _ => none
  | (some name, tree) :: rest => do
    let fields ← ofMembers? names rest
    if !names.contains name then some fields
    else if (fields.lookup name).isSome then none
    else some ((name, tree) :: fields)

def ofItems? (names : List String) (required : Nat) (items : List Tree) : Option Fields :=
  if required ≤ items.length ∧ items.length ≤ names.length then some (names.zip items) else none

def ofTree? (names : List String) (required : Nat) : Tree -> Option Fields
  | .object members => ofMembers? names members
  | .array items => ofItems? names required items
  | _ => none

def optional? {A : Type} (fields : Fields) (name : String) (read : Tree -> Option A) :
    Option (Option A) :=
  match fields.lookup name with
  | none | some .null => some none
  | some tree => (read tree).map some

def optionalText? (fields : Fields) (name : String) : Option (Option String) :=
  fields.optional? name Tree.string?

/--
A field that may hold any value: what `read` makes of it, none for the values it refuses. The whole
record is refused only if the field stands for no value at all.
-/
def lenient? {A : Type} (fields : Fields) (name : String) (read : Json -> Option A) :
    Option (Option A) :=
  match fields.lookup name with
  | none => some none
  | some tree => (tree.value? 1).map read

end Fields

end RelyingParty.Json
