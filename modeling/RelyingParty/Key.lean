import RelyingParty.Algorithm
import RelyingParty.Base64Url
import RelyingParty.Json.Record

set_option autoImplicit false

namespace RelyingParty

/-- A public or symmetric key. Which parts it has does not depend on its type. -/
structure Key where
  type : KeyType
  use : Option KeyUse
  id : Option String
  modulus : Option Bytes
  exponent : Option Bytes
  curve : Option Curve
  x : Option Bytes
  y : Option Bytes
  privatePart : Option Bytes
  secret : Option Bytes
  deriving Repr, DecidableEq

namespace Key

def bare (type : KeyType) (use : Option KeyUse) (id : Option String) : Key :=
  ⟨type, use, id, none, none, none, none, none, none, none⟩

def rsa (modulus exponent : Bytes) (id : Option String) : Key :=
  { bare .rsa (some .signature) id with modulus := some modulus, exponent := some exponent }

def ellipticCurve (x y : Bytes) (curve : Curve) (id : Option String) : Key :=
  { bare .ellipticCurve (some .signature) id with
    x := some x, y := some y, curve := some curve }

def octetKeyPair (x : Bytes) (curve : Curve) (id : Option String) : Key :=
  { bare .octetKeyPair (some .signature) id with x := some x, curve := some curve }

def encryption (secret : Bytes) (id : Option String) : Key :=
  { bare .symmetric (some .encryption) id with secret := some secret }

def symmetric (secret : Bytes) : Key := { bare .symmetric none none with secret := some secret }

def fieldNames : List String := ["kty", "use", "kid", "n", "e", "crv", "x", "y", "d", "k"]

def bytes? : Json -> Option Bytes
  | .string text => (Base64Url.decode text).toOption
  | _ => none

/--
Reads a key document, given how its type is read. Written as an array, it has at least type, use and
identifier.
-/
def ofTreeWith? (readType : Json.Tree -> Option KeyType) (tree : Json.Tree) : Option Key := do
  let fields ← Json.Fields.ofTree? fieldNames 3 tree
  let type ← fields.lookup "kty" >>= readType
  let use ← fields.optionalText? "use"
  let id ← fields.optionalText? "kid"
  let modulus ← fields.lenient? "n" bytes?
  let exponent ← fields.lenient? "e" bytes?
  let curve ← fields.lenient? "crv" fun value => Named.ofTree? value.toTree
  let x ← fields.lenient? "x" bytes?
  let y ← fields.lenient? "y" bytes?
  let privatePart ← fields.lenient? "d" bytes?
  let secret ← fields.lenient? "k" bytes?
  return {
    type
    use := use.map KeyUse.ofText
    id, modulus, exponent, curve, x, y, privatePart, secret }

def ofTree? (tree : Json.Tree) : Option Key := ofTreeWith? Named.ofTree? tree

def ofItem? (tree : Json.Tree) : Option Key := ofTreeWith? Named.ofItem? tree

def bytesJson (bytes : Bytes) : Json := .string (Base64Url.encode bytes)

def toJson (key : Key) : Json :=
  Json.ofMembers <|
    [("kty", Named.toJson key.type)] ++
      Json.optionalMember "use" (fun use => .string use.text) key.use ++
      Json.optionalMember "kid" .string key.id ++
      Json.optionalMember "n" bytesJson key.modulus ++
      Json.optionalMember "e" bytesJson key.exponent ++
      Json.optionalMember "crv" Named.toJson key.curve ++
      Json.optionalMember "x" bytesJson key.x ++
      Json.optionalMember "y" bytesJson key.y ++
      Json.optionalMember "d" bytesJson key.privatePart ++
      Json.optionalMember "k" bytesJson key.secret

end Key

end RelyingParty
