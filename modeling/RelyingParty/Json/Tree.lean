import RelyingParty.Json.Value

set_option autoImplicit false

namespace RelyingParty.Json

/-- A document as written. A string or name that spells no text, or a number too large, is none. -/
inductive Tree
  | null
  | bool (value : Bool)
  | number (value : Option Number)
  | string (text : Option String)
  | array (items : List Tree)
  | object (members : List (Option String × Tree))
  deriving Repr, Inhabited

def maxDepth : Nat := 127

namespace Tree

mutual

def value? (enclosing : Nat) : Tree -> Option Json
  | .null => some .null
  | .bool value => some (.bool value)
  | .number value => value.map .number
  | .string text => text.map .string
  | .array items =>
    if enclosing < maxDepth then (items? (enclosing + 1) items).map .array else none
  | .object members =>
    if enclosing < maxDepth then (members? (enclosing + 1) members).map Json.ofMembers else none

def items? (enclosing : Nat) : List Tree -> Option (List Json)
  | [] => some []
  | item :: rest => do
    let value ← value? enclosing item
    let values ← items? enclosing rest
    return value :: values

def members? (enclosing : Nat) : List (Option String × Tree) -> Option (List (String × Json))
  | [] => some []
  | (name, item) :: rest => do
    let name ← name
    let value ← value? enclosing item
    let values ← members? enclosing rest
    return (name, value) :: values

end

def isValue (enclosing : Nat) (tree : Tree) : Bool := (tree.value? enclosing).isSome

def string? : Tree -> Option String
  | .string text => text
  | _ => none

end Tree

mutual

def toTree : Json -> Tree
  | .null => .null
  | .bool value => .bool value
  | .number value => .number (some value)
  | .string text => .string (some text)
  | .array items => .array (itemTrees items)
  | .object members => .object (memberTrees members)

def itemTrees : List Json -> List Tree
  | [] => []
  | item :: rest => toTree item :: itemTrees rest

def memberTrees : List (String × Json) -> List (Option String × Tree)
  | [] => []
  | (name, value) :: rest => (some name, toTree value) :: memberTrees rest

end

end RelyingParty.Json
