import RelyingParty.Claims.IdToken
import RelyingParty.Claims.Validation
import RelyingParty.KeySource
import RelyingParty.Token

set_option autoImplicit false

namespace RelyingParty

inductive ProtectionFault
  | unsecured
  | unsecuredContent
  | verificationNotConfigured
  | otherSigning (expected found : Signing)
  | noVerificationKey
  | notVerified
  | decryptionNotConfigured
  | otherEncryption (expected found : KeyManagement × ContentEncryption)
  | noDecryptionKey
  | notDecrypted
  | keySource (fault : KeySourceFault)
  deriving Repr, DecidableEq

namespace ProtectionFault

inductive Kind
  | signatureRequired
  | verificationNotConfigured
  | signatureInvalid
  | decryptionNotConfigured
  | decryptionFailed
  | keySourceUnavailable
  deriving Repr, DecidableEq

def kind : ProtectionFault -> Kind
  | .unsecured | .unsecuredContent => .signatureRequired
  | .verificationNotConfigured => .verificationNotConfigured
  | .otherSigning _ _ | .noVerificationKey | .notVerified => .signatureInvalid
  | .decryptionNotConfigured => .decryptionNotConfigured
  | .otherEncryption _ _ | .noDecryptionKey | .notDecrypted => .decryptionFailed
  | .keySource _ => .keySourceUnavailable

def encryptionNames (algorithms : KeyManagement × ContentEncryption) : String :=
  "`" ++ Named.name algorithms.1 ++ "` / `" ++ Named.name algorithms.2 ++ "`"

def message : ProtectionFault -> String
  | .unsecured => "Signature required: unsecured ID token rejected; a signed ID token is expected"
  | .unsecuredContent => "Signature required: encrypted ID token does not contain a signed token"
  | .verificationNotConfigured =>
    "Signature verification not configured: verification of signed ID tokens is not configured"
  | .otherSigning expected found =>
    "Invalid signature: expected signature algorithm `" ++ Named.name expected ++ "` (found `" ++
      Named.name found ++ "`)"
  | .noVerificationKey => "Invalid signature: no matching verification key found"
  | .notVerified => "Invalid signature: signature did not verify with any candidate key"
  | .decryptionNotConfigured =>
    "Decryption not configured: decryption of ID tokens is not configured"
  | .otherEncryption expected found =>
    "Decryption failed: expected encryption " ++ encryptionNames expected ++ " (found " ++
      encryptionNames found ++ ")"
  | .noDecryptionKey => "Decryption failed: no matching decryption key found"
  | .notDecrypted => "Decryption failed: content did not decrypt with any candidate key"
  | .keySource _ => "Key source unavailable"

end ProtectionFault

inductive ShapeFault
  | token (fault : Token.Fault)
  | contentNotText
  | nestedEncryption
  deriving Repr, DecidableEq

def ShapeFault.message : ShapeFault -> String
  | .token fault => fault.message
  | .contentNotText => "decrypted content is not UTF-8"
  | .nestedEncryption => "nested encryption is unsupported"

inductive ContentFault
  | payload (fault : Claims.PayloadFault)
  | claims (fault : IdToken.Fault)
  deriving Repr, DecidableEq

def ContentFault.message : ContentFault -> String
  | .payload fault => fault.message
  | .claims fault => fault.message

inductive VerificationFault
  | protection (fault : ProtectionFault)
  | claim (fault : ClaimFault)
  | shape (fault : ShapeFault)
  | content (fault : ContentFault)
  deriving Repr, DecidableEq

def VerificationFault.message : VerificationFault -> String
  | .protection fault => s!"Bad token: {fault.message}"
  | .claim fault => s!"Claims verification failed: {fault.message}"
  | .shape fault => s!"Token could not be processed: Unrecognized token: {fault.message}"
  | .content fault => s!"Token could not be processed: Malformed claims: {fault.message}"

end RelyingParty
