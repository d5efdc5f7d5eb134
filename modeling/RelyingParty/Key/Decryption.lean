import RelyingParty.Key.Signature
import RelyingParty.Crypto.Gcm

set_option autoImplicit false

namespace RelyingParty

structure SealedContent where
  aad : Bytes
  encryptedKey : Bytes
  iv : Bytes
  ciphertext : Bytes
  tag : Bytes
  deriving Repr, DecidableEq

/--
Why content is not decrypted with a key. Converting bytes to an array of another size aborts the
program; it is listed here as what must not happen.
-/
inductive DecryptionFault
  | useForbidden
  | typeMismatch
  | unsupportedKeyManagement (algorithm : KeyManagement)
  | encryptedKeyPresent
  | missingSecret
  | unsupportedContentEncryption (method : ContentEncryption)
  | keyLength
  | ivLength
  | tagLength
  | notAuthentic
  | aborted
  deriving Repr, DecidableEq

namespace DecryptionFault

inductive Kind
  | cryptographic
  | key
  | unsupported
  | program
  deriving Repr, DecidableEq

def kind : DecryptionFault -> Kind
  | .useForbidden | .typeMismatch | .missingSecret | .keyLength => .key
  | .unsupportedKeyManagement _ | .unsupportedContentEncryption _ => .unsupported
  | .encryptedKeyPresent | .ivLength | .tagLength | .notAuthentic => .cryptographic
  | .aborted => .program

def detail : DecryptionFault -> String
  | .useForbidden => "key usage not permitted for encryption"
  | .typeMismatch => "key type does not match key management algorithm"
  | .unsupportedKeyManagement algorithm => Named.name algorithm
  | .encryptedKeyPresent => "encrypted key must be empty for direct encryption"
  | .missingSecret => "Symmetric key `k` is missing"
  | .unsupportedContentEncryption method => Named.name method
  | .keyLength => "key length does not match content encryption"
  | .ivLength => "invalid initialization vector length"
  | .tagLength => "invalid authentication tag length"
  | .notAuthentic => "authenticated decryption failed"
  | .aborted => "panic"

def message (fault : DecryptionFault) : String :=
  match fault.kind with
  | .cryptographic => s!"Crypto error: {fault.detail}"
  | .key => s!"Invalid cryptographic key: {fault.detail}"
  | .unsupported => s!"Unsupported encryption algorithm: {fault.detail}"
  | .program => fault.detail

end DecryptionFault

namespace Key

def checkDecrypting (key : Key) (algorithm : KeyManagement) : Except DecryptionFault Unit := do
  require (key.use.all KeyUse.allowsEncryption) .useForbidden
  require (algorithm.keyType == some key.type) .typeMismatch

def openContent (size : Nat) (secret : Bytes) (content : SealedContent) :
    Except DecryptionFault Bytes := do
  require (secret.length == size) .keyLength
  require (content.iv.length == Gcm.ivSize) .ivLength
  require (content.tag.length == Gcm.tagSize) .tagLength
  let iv ← orFault .aborted (Bytes.array? Gcm.ivSize content.iv)
  orFault .notAuthentic
    (Gcm.openSealed? secret iv content.aad (content.ciphertext ++ content.tag))

def decrypt (key : Key) (algorithm : KeyManagement) (method : ContentEncryption)
    (content : SealedContent) : Except DecryptionFault Bytes := do
  key.checkDecrypting algorithm
  -- The secret is the content key itself, as no other management of keys is implemented.
  require (algorithm == .direct) (.unsupportedKeyManagement algorithm)
  require content.encryptedKey.isEmpty .encryptedKeyPresent
  let secret ← orFault .missingSecret key.secret
  match method with
  | .gcm .bits128 => openContent 16 secret content
  | .gcm .bits256 => openContent 32 secret content
  | other => .error (.unsupportedContentEncryption other)

end Key

end RelyingParty
