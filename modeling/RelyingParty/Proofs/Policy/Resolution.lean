import RelyingParty.Policy
import RelyingParty.Proofs.Checked

set_option autoImplicit false

namespace RelyingParty.Policy

variable {A : Type}

section Signature

variable [SigningAlgorithm A]

def Keyed (client : Client A) (algorithm : A) : Prop :=
  SigningAlgorithm.family algorithm = .unsecured ∨
    (SigningAlgorithm.family algorithm = .publicKey ∧
      (client.metadata.keySet.isSome ∨ client.metadata.keySetUrl.isSome)) ∨
    (SigningAlgorithm.family algorithm = .sharedSecret ∧ client.secret.isSome)

structure SignatureAgreed (provider : Provider A) (client : Client A) (algorithm : A) : Prop where
  registered : client.metadata.signing = some algorithm
  offered : algorithm ∈ provider.signing
  keyed : Keyed client algorithm

/--
How questions for the keys of an algorithm are answered, by its family: from the registered key set,
or else the one at the registered URL, or with the client secret. They are not asked of unsecured
tokens.
-/
inductive Answers (client : Client A) (algorithm : A) (slot : Nat) :
    Option (Option String -> StateM Session Candidates) -> Prop
  | unsecured (family : SigningAlgorithm.family algorithm = .unsecured) :
      Answers client algorithm slot none
  | keySet {keySet : KeySet} (family : SigningAlgorithm.family algorithm = .publicKey)
      (registered : client.metadata.keySet = some keySet) :
      Answers client algorithm slot
        (some fun id => return .ok (keySet.signatureKeys id algorithm))
  | keySetUrl {url : UrlText} (family : SigningAlgorithm.family algorithm = .publicKey)
      (absent : client.metadata.keySet = none)
      (registered : client.metadata.keySetUrl = some url) :
      Answers client algorithm slot (some fun id =>
        (RemoteKeySet.of slot url).answer id fun keySet => keySet.signatureKeys id algorithm)
  | secret {secret : String} (family : SigningAlgorithm.family algorithm = .sharedSecret)
      (issued : client.secret = some secret) :
      Answers client algorithm slot (some fun _ => return .ok [Key.symmetric (Bytes.ofText secret)])

inductive KeysMissing (client : Client A) (algorithm : A) : PolicyFault -> Prop
  | keySet (family : SigningAlgorithm.family algorithm = .publicKey)
      (absent : client.metadata.keySet = none) (absentUrl : client.metadata.keySetUrl = none) :
      KeysMissing client algorithm (.missingKeySet (Named.name algorithm))
  | secret (family : SigningAlgorithm.family algorithm = .sharedSecret)
      (absent : client.secret = none) :
      KeysMissing client algorithm (.missingSecret (Named.name algorithm))
  | unsupported (family : SigningAlgorithm.family algorithm = .unsupported) :
      KeysMissing client algorithm (.unsupportedSigning (Named.name algorithm))

inductive SignatureRefused (provider : Provider A) (client : Client A) : PolicyFault -> Prop
  | missing (absent : client.metadata.signing = none) :
      SignatureRefused provider client (.missingSigning client.id)
  | notOffered {algorithm : A} (registered : client.metadata.signing = some algorithm)
      (absent : algorithm ∉ provider.signing) :
      SignatureRefused provider client (.signingNotOffered (Named.name algorithm))
  | keys {algorithm : A} {fault : PolicyFault}
      (registered : client.metadata.signing = some algorithm)
      (offered : algorithm ∈ provider.signing) (missing : KeysMissing client algorithm fault) :
      SignatureRefused provider client fault

variable [DecidableEq A] (provider : Provider A) (client : Client A) (slot : Nat)

end Signature

section Encryption

def Offered {B : Type} (listed : Option (List B)) (value : B) : Prop :=
  ∃ values, listed = some values ∧ value ∈ values

variable (provider : Provider A) (client : Client A) (keys : Option (KeySource A))

inductive EncryptionRefused : PolicyFault -> Prop
  | noMethod {algorithm : KeyManagement}
      (registered : client.metadata.encryptionAlgorithm = some algorithm)
      (absent : client.metadata.encryptionMethod = none) :
      EncryptionRefused (.missingMethod client.id (Named.name algorithm))
  | notOffered {algorithm : KeyManagement} {method : ContentEncryption}
      (registered : client.metadata.encryptionAlgorithm = some algorithm)
      (chosen : client.metadata.encryptionMethod = some method)
      (absent : ¬ (Offered provider.encryptionAlgorithms algorithm ∧
        Offered provider.encryptionMethods method)) :
      EncryptionRefused (.encryptionNotOffered (Named.name algorithm) (Named.name method))
  | noKeys {algorithm : KeyManagement} {method : ContentEncryption}
      (registered : client.metadata.encryptionAlgorithm = some algorithm)
      (chosen : client.metadata.encryptionMethod = some method)
      (algorithmOffered : Offered provider.encryptionAlgorithms algorithm)
      (methodOffered : Offered provider.encryptionMethods method) (absent : keys = none) :
      EncryptionRefused (.missingDecryptionKeys (Named.name algorithm) (Named.name method))

end Encryption

section Verifier

variable [SigningAlgorithm A]

inductive Refused (provider : Provider A) (client : Client A) (keys : Option (KeySource A)) :
    PolicyFault -> Prop
  | signature {fault : PolicyFault} (refused : SignatureRefused provider client fault) :
      Refused provider client keys fault
  | encryption {algorithm : A} {fault : PolicyFault}
      (agreed : SignatureAgreed provider client algorithm)
      (refused : EncryptionRefused provider client keys fault) :
      Refused provider client keys fault

variable [DecidableEq A] (provider : Provider A) (client : Client A)
  (keys : Option (KeySource A)) (slot : Nat)

end Verifier

namespace Sample

def provider : Provider Signing :=
  .of ⟨"urn:op", ⟨"urn", "", none, none, "op", none, none⟩⟩ [.hmac .sha256]

def client : Client Signing where
  id := "rp-123"
  secret := some "hmac key"
  metadata :=
    { (ClientMetadata.empty : ClientMetadata Signing) with signing := some (.hmac .sha256) }

end Sample

end RelyingParty.Policy
