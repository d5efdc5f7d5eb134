import RelyingParty.Algorithm
import RelyingParty.Json.Record
import RelyingParty.Url

set_option autoImplicit false

namespace RelyingParty

structure Provider (A : Type) where
  issuer : UrlText
  keySetUrl : Option UrlText
  signing : List A
  encryptionAlgorithms : Option (List KeyManagement)
  encryptionMethods : Option (List ContentEncryption)
  additional : Json.Members
  deriving Repr

namespace Provider

variable {A : Type} [SigningAlgorithm A]

def of (issuer : UrlText) (signing : List A) : Provider A := ⟨issuer, none, signing, none, none, []⟩

inductive Setting (A : Type)
  | issuer (url : UrlText)
  | keySetUrl (url : Option UrlText)
  | signing (algorithms : List A)
  | encryptionAlgorithms (algorithms : Option (List KeyManagement))
  | encryptionMethods (methods : Option (List ContentEncryption))

def set {A : Type} (provider : Provider A) : Setting A -> Provider A
  | .issuer issuer => { provider with issuer }
  | .keySetUrl keySetUrl => { provider with keySetUrl }
  | .signing signing => { provider with signing }
  | .encryptionAlgorithms encryptionAlgorithms => { provider with encryptionAlgorithms }
  | .encryptionMethods encryptionMethods => { provider with encryptionMethods }

def fieldNames : List String :=
  ["issuer", "jwks_uri", "id_token_signing_alg_values_supported",
    "id_token_encryption_alg_values_supported", "id_token_encryption_enc_values_supported"]

def ofMembers? (members : List (Option String × Json.Tree)) : Option (Provider A) := do
  let values ← Json.Tree.members? 1 members
  let fields ← Json.Fields.ofMembers? fieldNames members
  let issuer ← fields.lookup "issuer" >>= UrlText.ofTree?
  let keySetUrl ← fields.optional? "jwks_uri" UrlText.ofTree?
  let signing ← fields.lookup "id_token_signing_alg_values_supported" >>= Named.knownOfTree?
  let encryptionAlgorithms ←
    fields.optional? "id_token_encryption_alg_values_supported" Named.knownOfTree?
  let encryptionMethods ←
    fields.optional? "id_token_encryption_enc_values_supported" Named.knownOfTree?
  let additional := (Json.Members.ofList values).without fieldNames
  return { issuer, keySetUrl, signing, encryptionAlgorithms, encryptionMethods, additional }

def ofTree? : Json.Tree -> Option (Provider A)
  | .object members => ofMembers? members
  | _ => none

def toJson (provider : Provider A) : Json :=
  Json.ofMembers <|
    [("issuer", provider.issuer.toJson)] ++
      Json.optionalMember "jwks_uri" UrlText.toJson provider.keySetUrl ++
      [("id_token_signing_alg_values_supported", Named.listToJson provider.signing)] ++
      Json.optionalMember "id_token_encryption_alg_values_supported" Named.listToJson
        provider.encryptionAlgorithms ++
      Json.optionalMember "id_token_encryption_enc_values_supported" Named.listToJson
        provider.encryptionMethods ++
      provider.additional

def signsWith [DecidableEq A] (provider : Provider A) (algorithm : A) : Bool :=
  provider.signing.contains algorithm

/-- The provider can encrypt with an algorithm and a method; what it does not list it cannot. -/
def encryptsWith (provider : Provider A) (algorithm : KeyManagement) (method : ContentEncryption) :
    Bool :=
  provider.encryptionAlgorithms.any (·.contains algorithm) &&
    provider.encryptionMethods.any (·.contains method)

end Provider

end RelyingParty
