import RelyingParty.Key
import RelyingParty.Json.Reading

set_option autoImplicit false

namespace RelyingParty

structure KeySet where
  keys : List Key
  deriving Repr, DecidableEq

namespace KeySet

def empty : KeySet := ⟨[]⟩

/-- Why a text is no key set: it is no JSON, or the value at a path is of the wrong shape. -/
inductive Fault
  | malformed
  | shape (path : String)
  deriving Repr, DecidableEq

def Fault.message : Fault -> String
  | .malformed => "not valid JSON"
  -- The place stands for what the parser says about it.
  | .shape path => path

def ofItems (items : List Json.Tree) : KeySet := ⟨items.filterMap Key.ofItem?⟩

def items (enclosing : Nat) (path : String) : Json.Tree -> Except Fault (List Json.Tree)
  | .array items =>
    if items.all (Json.Tree.isValue (enclosing + 1)) then .ok items else .error .malformed
  | .string none | .number none => .error .malformed
  | _ => .error (.shape path)

/--
The items of the member `keys` of an object whose members are read in order, none if it is missing.
Other members are passed over; a second one of that name is a fault.
-/
def ofMembers (enclosing : Nat) : Option (List Json.Tree) -> List (Json.Name × Json.Tree) ->
    Except Fault (Option (List Json.Tree))
  | found, [] => .ok found
  | _, (none, _) :: _ => .error .malformed
  | found, (some name, tree) :: rest =>
    if name = "keys" then
      match found with
      | some _ => .error (.shape ".")
      | none => do
        let found ← items (enclosing + 1) "keys" tree
        ofMembers enclosing (some found) rest
    else ofMembers enclosing found rest

def ofTree (enclosing : Nat) : Json.Tree -> Except Fault KeySet
  | .object members => do
    match ← ofMembers enclosing none members with
    | some found => .ok (ofItems found)
    | none => .error (.shape ".")
  | .array [] => .error (.shape ".")
  | .array (first :: rest) => do
    let found ← items (enclosing + 1) "[0]" first
    if rest.isEmpty then .ok (ofItems found) else .error .malformed
  | .string none | .number none => .error .malformed
  | _ => .error (.shape ".")

def openFault (path : String) : Option Json.Opening -> Fault
  | some .object => .shape path
  | _ => .malformed

def brokenFault : Json.Partial -> Fault
  | .scalar => .malformed
  | .array [] inner => openFault "[0]" inner
  | .array (first :: _) _ =>
    match items 1 "[0]" first with
    | .error fault => fault
    | .ok _ => .malformed
  | .object members name inner =>
    match ofMembers 0 none members, name with
    | .error fault, _ => fault
    | .ok (some _), some (some "keys") => .shape "."
    | .ok none, some (some "keys") => openFault "keys" inner
    | .ok _, _ => .malformed

def ofReading : Json.Reading -> Except Fault KeySet
  -- Reading ends with the document, and what follows it is not looked at.
  | .whole tree _ => ofTree 0 tree
  | .broken sofar => .error (brokenFault sofar)

def ofText? (text : String) : Option KeySet :=
  (Json.Tree.ofText? text).bind fun tree => (ofTree 0 tree).toOption

def toJson (set : KeySet) : Json := .object [("keys", .array (set.keys.map Key.toJson))]

def containsId (set : KeySet) (id : String) : Bool := set.keys.any fun key => key.id == some id

end KeySet

end RelyingParty
