import RelyingParty.Key
import RelyingParty.Basic
import RelyingParty.Crypto.Sha2
import RelyingParty.Crypto.Rsa
import RelyingParty.Crypto.Ed25519

set_option autoImplicit false

namespace RelyingParty

/--
Why a signature is not accepted with a key. Converting bytes to an array of another size aborts the
program; it is listed here as what must not happen.
-/
inductive SignatureFault
  | useForbidden
  | typeMismatch
  | missingSecret
  | missingModulus
  | missingExponent
  | unusableRsaKey (fault : Rsa.KeyFault)
  | curveMismatch
  | missingX
  | missingY
  | coordinateLength (size : Nat)
  | notOnCurve
  | missingPublicPart
  | publicPartLength
  | notDecompressed
  | malformedSignature
  | badSignature
  | badMac
  | aborted
  deriving Repr, DecidableEq

namespace SignatureFault

inductive Kind
  | cryptographic
  | key
  | program
  deriving Repr, DecidableEq

def kind : SignatureFault -> Kind
  | .malformedSignature | .badSignature | .badMac => .cryptographic
  | .aborted => .program
  | _ => .key

def detail : SignatureFault -> String
  | .useForbidden => "key usage not permitted for digital signatures"
  | .typeMismatch => "key type does not match signature algorithm"
  | .missingSecret => "Symmetric key `k` is missing"
  | .missingModulus => "RSA modulus `n` is missing"
  | .missingExponent => "RSA exponent `e` is missing"
  | .unusableRsaKey fault => s!"invalid RSA public key: {fault.message}"
  | .curveMismatch => "Key uses different CRV than JWT"
  | .missingX => "EC `x` part is missing"
  | .missingY => "EC `y` part is missing"
  | .coordinateLength size => s!"EC coordinates must be {size} bytes long"
  | .notOnCurve => "signature error"
  | .missingPublicPart => "OKP `x` part is missing"
  | .publicPartLength => "Ed25519 public key must be 32 bytes"
  | .notDecompressed => "signature error: Cannot decompress Edwards point"
  | .malformedSignature => "malformed signature"
  | .badSignature => "bad signature"
  | .badMac => "bad HMAC"
  | .aborted => "panic"

def message (fault : SignatureFault) : String :=
  match fault.kind with
  | .cryptographic => s!"Crypto error: {fault.detail}"
  | .key => s!"Invalid cryptographic key: {fault.detail}"
  | .program => fault.detail

end SignatureFault

namespace Key

def checkSigning {A : Type} [SigningAlgorithm A] (key : Key) (algorithm : A) :
    Except SignatureFault Unit := do
  require (key.use.all KeyUse.allowsSignature) .useForbidden
  require (SigningAlgorithm.keyType algorithm == some key.type) .typeMismatch

def rsaKey (key : Key) : Except SignatureFault Rsa.PublicKey := do
  let modulus ← orFault .missingModulus key.modulus
  let exponent ← orFault .missingExponent key.exponent
  (Rsa.PublicKey.of (Bytes.toNat modulus) (Bytes.toNat exponent)).mapError .unusableRsaKey

def ecdsaKey (key : Key) (curve : PrimeCurve) : Except SignatureFault Ecdsa.PublicKey := do
  require (key.curve == some (.prime curve)) .curveMismatch
  let x ← orFault .missingX key.x
  let y ← orFault .missingY key.y
  require (x.length == curve.size && y.length == curve.size) (.coordinateLength curve.size)
  -- The lengths have been compared, so that neither conversion aborts.
  let x ← orFault .aborted (Bytes.array? curve.size x)
  let y ← orFault .aborted (Bytes.array? curve.size y)
  orFault .notOnCurve (Ecdsa.PublicKey.of? curve (Bytes.toNat x) (Bytes.toNat y))

def edwardsKey (key : Key) : Except SignatureFault (Bytes × Ed25519.Point) := do
  require (key.curve == some .ed25519) .curveMismatch
  let x ← orFault .missingPublicPart key.x
  require (x.length == 32) .publicPartLength
  let point ← orFault .notDecompressed (Ed25519.Point.decode? x)
  return (x, point)

def checkSignature (key : Key) (message signature : Bytes) : Signing -> Except SignatureFault Unit
  | .hmac hash => do
    let secret ← orFault .missingSecret key.secret
    require (Hmac.verify hash secret message signature) .badMac
  | .rsaBlock hash => do
    let rsa ← key.rsaKey
    require (Rsa.verifyBlock rsa hash (hash.digest message) signature) .badSignature
  | .rsaSalted hash => do
    let rsa ← key.rsaKey
    require (Rsa.verifySalted rsa hash (hash.digest message) signature) .badSignature
  | .ecdsa curve => do
    let point ← key.ecdsaKey curve
    let pair ← orFault .malformedSignature (Ecdsa.Signature.of? curve signature)
    require (Ecdsa.verify point (curve.hash.digest message) pair) .badSignature
  | .edDsa => do
    let (bytes, point) ← key.edwardsKey
    require (signature.length == 64) .malformedSignature
    require (Ed25519.verify bytes point message signature) .badSignature
  | .unsecured => .error .typeMismatch

def verifySignature (key : Key) (algorithm : Signing) (message signature : Bytes) :
    Except SignatureFault Unit := do
  key.checkSigning algorithm
  key.checkSignature message signature algorithm

end Key

end RelyingParty
