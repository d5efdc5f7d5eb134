import RelyingParty.Algorithm
import RelyingParty.Json.Record
import RelyingParty.Json.Reading

set_option autoImplicit false

namespace RelyingParty

inductive DeclaredAlgorithm
  | unsecured
  | signing (algorithm : Signing)
  | keyManagement (algorithm : KeyManagement)
  deriving Repr, DecidableEq

structure Header where
  algorithm : DeclaredAlgorithm
  method : Option ContentEncryption
  critical : Option (List String)
  contentType : Option String
  keyId : Option String
  type : Option String
  compression : Option String
  deriving Repr, DecidableEq

namespace Header

inductive Fault
  | malformed
  | unrecognizedAlgorithm (name : String)
  deriving Repr, DecidableEq

def fieldNames : List String := ["alg", "enc", "crit", "cty", "kid", "typ", "zip"]

def algorithm? (name : String) : Option DeclaredAlgorithm :=
  if name = "none" then some .unsecured
  else
    match (Named.ofName? name : Option Signing) with
    | some algorithm => some (.signing algorithm)
    | none => (Named.ofName? name : Option KeyManagement).map .keyManagement

def text? : Json.Tree -> Option (Option String)
  | .null => some none
  | .string text => text.map some
  | _ => none

def textList? : List Json.Tree -> Option (List String)
  | [] => some []
  | .string (some text) :: rest => (textList? rest).map (text :: ·)
  | _ => none

def texts? : Json.Tree -> Option (Option (List String))
  | .null => some none
  | .array items => (textList? items).map some
  | _ => none

def readAlgorithm : Json.Tree -> Except Fault DeclaredAlgorithm
  | .string (some name) =>
    match algorithm? name with
    | some algorithm => .ok algorithm
    | none => .error (.unrecognizedAlgorithm name)
  | _ => .error .malformed

def fieldFault (name : String) (tree : Json.Tree) : Option Fault :=
  let faultUnless (ok : Bool) : Option Fault := if ok then none else some .malformed
  match name with
  | "alg" =>
    match readAlgorithm tree with
    | .ok _ => none
    | .error fault => some fault
  | "enc" => faultUnless (Named.optionOfTree? tree : Option (Option ContentEncryption)).isSome
  | "crit" => faultUnless (texts? tree).isSome
  | "cty" | "kid" | "typ" | "zip" => faultUnless (text? tree).isSome
  | _ => none

/-- The first fault among members in their order, of which `seen` have come before. -/
def firstFault : List String -> List (Json.Name × Json.Tree) -> Option Fault
  | _, [] => none
  | _, (none, _) :: _ => some .malformed
  | seen, (some name, tree) :: rest =>
    if fieldNames.contains name && seen.contains name then some .malformed
    else
      match fieldFault name tree with
      | some fault => some fault
      | none => firstFault (name :: seen) rest

def itemMembers (items : List Json.Tree) : List (Json.Name × Json.Tree) :=
  (fieldNames.map some).zip items

def ofFields? (fields : Json.Fields) : Option Header := do
  let field {A : Type} (name : String) (read : Json.Tree -> Option (Option A)) :
      Option (Option A) :=
    match fields.lookup name with
    | none => some none
    | some tree => read tree
  let algorithm ← (fields.lookup "alg").bind fun tree => (readAlgorithm tree).toOption
  let method ← field "enc" Named.optionOfTree?
  let critical ← field "crit" texts?
  let contentType ← field "cty" text?
  let keyId ← field "kid" text?
  let type ← field "typ" text?
  let compression ← field "zip" text?
  return { algorithm, method, critical, contentType, keyId, type, compression }

def ofTree? (tree : Json.Tree) : Option Header :=
  (Json.Fields.ofTree? fieldNames 1 tree).bind ofFields?

def members : Json.Reading -> List (Json.Name × Json.Tree)
  | .whole (.object members) _ => members
  | .whole (.array items) _ => itemMembers items
  | .broken (.object members _ _) => members
  | .broken (.array items _) => itemMembers items
  | _ => []

def ofBytes (text : Bytes) : Except Fault Header :=
  let reading := Json.Reading.ofBytes text
  -- A fault counts even if the text breaks off behind it.
  match firstFault [] (members reading) with
  | some fault => .error fault
  | none =>
    match reading.tree?.bind ofTree? with
    | some header => .ok header
    | none => .error .malformed

end Header

end RelyingParty
