import RelyingParty.Json.Tree

set_option autoImplicit false

namespace RelyingParty

class Named (A : Type) where
  name : A -> String
  all : List A

namespace Named

variable {A : Type} [Named A]

def ofName? (text : String) : Option A := (all : List A).find? fun value => name value == text

/-- Reads a name: a string, or an object with the name as its only member, which is null. -/
def ofTree? : Json.Tree -> Option A
  | .string (some text) => ofName? text
  | .object [(some text, .null)] => ofName? text
  | _ => none

/-- Reads a name that is an item of a list, where an empty object may stand for null. -/
def ofItem? : Json.Tree -> Option A
  | .object [(some text, .object [])] => ofName? text
  | tree => ofTree? tree

def optionOfTree? : Json.Tree -> Option (Option A)
  | .null => some none
  | tree => (ofTree? tree).map some

def knownOfTree? : Json.Tree -> Option (List A)
  | .array items => some (items.filterMap ofItem?)
  | _ => none

def listOfTree? : Json.Tree -> Option (List A)
  | .array items => items.mapM ofTree?
  | _ => none

def toJson (value : A) : Json := .string (name value)

def listToJson (values : List A) : Json := .array (values.map toJson)

end Named

end RelyingParty
