import RelyingParty.Registration.Client
import RelyingParty.Registration.Provider
import RelyingParty.Verifier

set_option autoImplicit false

namespace RelyingParty

inductive PolicyFault
  | missingSigning (clientId : String)
  | signingNotOffered (algorithm : String)
  | missingKeySet (algorithm : String)
  | missingSecret (algorithm : String)
  | unsupportedSigning (algorithm : String)
  | missingMethod (clientId algorithm : String)
  | encryptionNotOffered (algorithm method : String)
  | missingDecryptionKeys (algorithm method : String)
  deriving Repr, DecidableEq

namespace PolicyFault

inductive Kind
  | missingSigningAlgorithm
  | unsupportedByProvider
  | missingKeySource
  | missingClientSecret
  | unsupportedAlgorithm
  | missingEncryptionMethod
  deriving Repr, DecidableEq

def kind : PolicyFault -> Kind
  | .missingSigning _ => .missingSigningAlgorithm
  | .signingNotOffered _ | .encryptionNotOffered _ _ => .unsupportedByProvider
  | .missingKeySet _ | .missingDecryptionKeys _ _ => .missingKeySource
  | .missingSecret _ => .missingClientSecret
  | .unsupportedSigning _ => .unsupportedAlgorithm
  | .missingMethod _ _ => .missingEncryptionMethod

def Kind.title : Kind -> String
  | .missingSigningAlgorithm => "Missing ID token signing algorithm"
  | .unsupportedByProvider => "Unsupported by provider"
  | .missingKeySource => "Missing key source"
  | .missingClientSecret => "Missing client secret"
  | .unsupportedAlgorithm => "Unsupported algorithm"
  | .missingEncryptionMethod => "Missing ID token encryption method"

def detail : PolicyFault -> String
  | .missingSigning clientId =>
    "client `" ++ clientId ++ "` has no registered `id_token_signed_response_alg`"
  | .signingNotOffered algorithm => s!"the OpenID Provider doesn't support {algorithm} ID tokens"
  | .missingKeySet algorithm => s!"missing JWK set source for {algorithm} ID tokens"
  | .missingSecret algorithm => s!"{algorithm} ID tokens are keyed with the client secret"
  | .unsupportedSigning algorithm => s!"unsupported JWS algorithm {algorithm}"
  | .missingMethod clientId algorithm =>
    "client `" ++ clientId ++ "` registered `id_token_encrypted_response_alg` " ++ algorithm ++
      " without `id_token_encrypted_response_enc`"
  | .encryptionNotOffered algorithm method =>
    s!"the OpenID Provider doesn't support {algorithm} / {method} ID tokens"
  | .missingDecryptionKeys algorithm method =>
    s!"missing decryption key source for {algorithm} / {method} ID tokens"

def message (fault : PolicyFault) : String := s!"{fault.kind.title}: {fault.detail}"

end PolicyFault

namespace Policy

variable {A : Type} [SigningAlgorithm A]

def publicKeys (metadata : ClientMetadata A) (slot : Nat) : Option (KeySource A) :=
  -- A registered key set goes before one that is fetched.
  match metadata.keySet, metadata.keySetUrl with
  | some keySet, _ => some keySet.source
  | none, some url => some (RemoteKeySet.of slot url).source
  | none, none => none

def keySource (client : Client A) (algorithm : A) (slot : Nat) :
    Except PolicyFault (Option (KeySource A)) :=
  match SigningAlgorithm.family algorithm with
  | .unsecured => .ok none
  | .publicKey =>
    (orFault (.missingKeySet (Named.name algorithm)) (publicKeys client.metadata slot)).map some
  | .sharedSecret =>
    (orFault (.missingSecret (Named.name algorithm)) client.secret).map fun secret =>
      some (ClientSecret.source secret)
  | .unsupported => .error (.unsupportedSigning (Named.name algorithm))

def signature [DecidableEq A] (provider : Provider A) (client : Client A) (slot : Nat) :
    Except PolicyFault (Option (SignatureSelector A)) := do
  let algorithm ← orFault (.missingSigning client.id) client.metadata.signing
  require (provider.signsWith algorithm) (.signingNotOffered (Named.name algorithm))
  let source ← keySource client algorithm slot
  return source.map fun source => { issuer := provider.issuer, algorithm, source }

def encryption (provider : Provider A) (client : Client A) (keys : Option (KeySource A)) :
    Except PolicyFault (Option (DecryptionSelector A)) := do
  match client.metadata.encryptionAlgorithm with
  | none => return none
  | some algorithm =>
    let algorithmName := Named.name algorithm
    let method ← orFault (.missingMethod client.id algorithmName) client.metadata.encryptionMethod
    let methodName := Named.name method
    require (provider.encryptsWith algorithm method)
      (.encryptionNotOffered algorithmName methodName)
    let source ← orFault (.missingDecryptionKeys algorithmName methodName) keys
    return some { clientId := client.id, algorithm, method, source }

end Policy

def Verifier.ofRegistration {A : Type} [SigningAlgorithm A] [DecidableEq A] (provider : Provider A)
    (client : Client A) (keys : Option (KeySource A)) (slot : Nat) :
    Except PolicyFault (Expectation A) := do
  let signature ← Policy.signature provider client slot
  let decryption ← Policy.encryption provider client keys
  return Verifier.of provider.issuer client.id signature decryption

end RelyingParty
