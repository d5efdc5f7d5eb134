import RelyingParty.KeySet
import RelyingParty.Url

set_option autoImplicit false

namespace RelyingParty

structure ClientMetadata (A : Type) where
  keySetUrl : Option UrlText
  keySet : Option KeySet
  signing : Option A
  encryptionAlgorithm : Option KeyManagement
  encryptionMethod : Option ContentEncryption
  additional : Json.Members
  deriving Repr

namespace ClientMetadata

variable {A : Type} [SigningAlgorithm A]

def empty : ClientMetadata A := ⟨none, none, none, none, none, []⟩

inductive Setting (A : Type)
  | keySetUrl (url : Option UrlText)
  | keySet (set : Option KeySet)
  | signing (algorithm : Option A)
  | encryptionAlgorithm (algorithm : Option KeyManagement)
  | encryptionMethod (method : Option ContentEncryption)

def set {A : Type} (metadata : ClientMetadata A) : Setting A -> ClientMetadata A
  | .keySetUrl keySetUrl => { metadata with keySetUrl }
  | .keySet keySet => { metadata with keySet }
  | .signing signing => { metadata with signing }
  | .encryptionAlgorithm encryptionAlgorithm => { metadata with encryptionAlgorithm }
  | .encryptionMethod encryptionMethod => { metadata with encryptionMethod }

def fieldNames : List String :=
  ["jwks_uri", "jwks", "id_token_signed_response_alg", "id_token_encrypted_response_alg",
    "id_token_encrypted_response_enc"]

def ofFields? (fields : Json.Fields) (additional : Json.Members) : Option (ClientMetadata A) := do
  let keySetUrl ← fields.optional? "jwks_uri" UrlText.ofTree?
  let keySet ← fields.optional? "jwks" fun tree => (KeySet.ofTree 1 tree).toOption
  let signing ← fields.optional? "id_token_signed_response_alg" Named.ofTree?
  let encryptionAlgorithm ← fields.optional? "id_token_encrypted_response_alg" Named.ofTree?
  let encryptionMethod ← fields.optional? "id_token_encrypted_response_enc" Named.ofTree?
  return { keySetUrl, keySet, signing, encryptionAlgorithm, encryptionMethod, additional }

/-- Reads the members of a document. Members that a key set ignores need not stand for values. -/
def ofMembers? (members : List (Option String × Json.Tree)) : Option (ClientMetadata A) := do
  let values ← Json.Tree.members? 1 (members.filter fun member => member.1 != some "jwks")
  let fields ← Json.Fields.ofMembers? fieldNames members
  ofFields? fields ((Json.Members.ofList values).without fieldNames)

def ofTree? : Json.Tree -> Option (ClientMetadata A)
  | .object members => ofMembers? members
  | _ => none

def members (metadata : ClientMetadata A) : List (String × Json) :=
  Json.optionalMember "jwks_uri" UrlText.toJson metadata.keySetUrl ++
    Json.optionalMember "jwks" KeySet.toJson metadata.keySet ++
    Json.optionalMember "id_token_signed_response_alg" Named.toJson metadata.signing ++
    Json.optionalMember "id_token_encrypted_response_alg" Named.toJson
      metadata.encryptionAlgorithm ++
    Json.optionalMember "id_token_encrypted_response_enc" Named.toJson metadata.encryptionMethod ++
    metadata.additional

def toJson (metadata : ClientMetadata A) : Json := Json.ofMembers metadata.members

end ClientMetadata

structure Client (A : Type) where
  id : String
  secret : Option String
  metadata : ClientMetadata A
  deriving Repr

namespace Client

variable {A : Type} [SigningAlgorithm A]

inductive Setting (A : Type)
  | id (id : String)
  | secret (secret : Option String)
  | metadata (metadata : ClientMetadata A)

def set {A : Type} (client : Client A) : Setting A -> Client A
  | .id id => { client with id }
  | .secret secret => { client with secret }
  | .metadata metadata => { client with metadata }

def issuedNames : List String := ["client_id", "client_secret"]

def fieldNames : List String := issuedNames ++ ClientMetadata.fieldNames

def ofMembers? (members : List (Option String × Json.Tree)) : Option (Client A) := do
  let values ← Json.Tree.members? 1 members
  let fields ← Json.Fields.ofMembers? fieldNames members
  let id ← fields.lookup "client_id" >>= Json.Tree.string?
  let secret ← fields.optionalText? "client_secret"
  let metadata ← ClientMetadata.ofFields? fields ((Json.Members.ofList values).without fieldNames)
  return { id, secret, metadata }

def ofTree? : Json.Tree -> Option (Client A)
  | .object members => ofMembers? members
  | _ => none

/-- The document of a client. A further member of the metadata may stand in for an issued one. -/
def toJson (client : Client A) : Json :=
  Json.ofMembers <|
    [("client_id", .string client.id)] ++
      Json.optionalMember "client_secret" .string client.secret ++
      client.metadata.members

end Client

end RelyingParty
