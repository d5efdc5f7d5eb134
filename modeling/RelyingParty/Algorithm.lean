import RelyingParty.Named
import RelyingParty.Crypto.Curve

set_option autoImplicit false

namespace RelyingParty

inductive KeyType
  | ellipticCurve
  | rsa
  | octetKeyPair
  | symmetric
  deriving Repr, DecidableEq

instance : Named KeyType where
  name
    | .ellipticCurve => "EC"
    | .rsa => "RSA"
    | .octetKeyPair => "OKP"
    | .symmetric => "oct"
  all := [.ellipticCurve, .rsa, .octetKeyPair, .symmetric]

inductive Curve
  | prime (curve : PrimeCurve)
  | ed25519
  deriving Repr, DecidableEq

instance : Named Curve where
  name
    | .prime .p256 => "P-256"
    | .prime .p384 => "P-384"
    | .prime .p521 => "P-521"
    | .ed25519 => "Ed25519"
  all := [.prime .p256, .prime .p384, .prime .p521, .ed25519]

inductive KeyUse
  | signature
  | encryption
  | other (text : String)
  deriving Repr, DecidableEq

namespace KeyUse

def ofText (text : String) : KeyUse :=
  if text = "sig" then .signature else if text = "enc" then .encryption else .other text

def text : KeyUse -> String
  | .signature => "sig"
  | .encryption => "enc"
  | .other text => text

def allowsSignature : KeyUse -> Bool
  | .signature => true
  | _ => false

def allowsEncryption : KeyUse -> Bool
  | .encryption => true
  | _ => false

end KeyUse

inductive Family
  | unsecured
  | sharedSecret
  | publicKey
  | unsupported
  deriving Repr, DecidableEq

class SigningAlgorithm (A : Type) extends Named A where
  family : A -> Family
  keyType : A -> Option KeyType
  standard : A

inductive Signing
  | hmac (hash : Sha2)
  | rsaBlock (hash : Sha2)
  | rsaSalted (hash : Sha2)
  | ecdsa (curve : PrimeCurve)
  | edDsa
  | unsecured
  deriving Repr, DecidableEq

instance : SigningAlgorithm Signing where
  name
    | .hmac .sha256 => "HS256"
    | .hmac .sha384 => "HS384"
    | .hmac .sha512 => "HS512"
    | .rsaBlock .sha256 => "RS256"
    | .rsaBlock .sha384 => "RS384"
    | .rsaBlock .sha512 => "RS512"
    | .rsaSalted .sha256 => "PS256"
    | .rsaSalted .sha384 => "PS384"
    | .rsaSalted .sha512 => "PS512"
    | .ecdsa .p256 => "ES256"
    | .ecdsa .p384 => "ES384"
    | .ecdsa .p521 => "ES512"
    | .edDsa => "EdDSA"
    | .unsecured => "none"
  all :=
    [.hmac .sha256, .hmac .sha384, .hmac .sha512, .rsaBlock .sha256, .rsaBlock .sha384,
      .rsaBlock .sha512, .rsaSalted .sha256, .rsaSalted .sha384, .rsaSalted .sha512,
      .ecdsa .p256, .ecdsa .p384, .ecdsa .p521, .edDsa, .unsecured]
  family
    | .unsecured => .unsecured
    | .hmac _ => .sharedSecret
    | _ => .publicKey
  keyType
    | .hmac _ => some .symmetric
    | .rsaBlock _ | .rsaSalted _ => some .rsa
    | .ecdsa _ => some .ellipticCurve
    | .edDsa => some .octetKeyPair
    | .unsecured => none
  standard := .rsaBlock .sha256

inductive AesKey
  | bits128
  | bits192
  | bits256
  deriving Repr, DecidableEq

inductive KeyManagement
  | rsaBlock
  | rsaOaep
  | rsaOaep256
  | keyWrap (key : AesKey)
  | direct
  | ecdh
  | ecdhKeyWrap (key : AesKey)
  | gcmKeyWrap (key : AesKey)
  | password (key : AesKey)
  deriving Repr, DecidableEq

instance : Named KeyManagement where
  name
    | .rsaBlock => "RSA1_5"
    | .rsaOaep => "RSA-OAEP"
    | .rsaOaep256 => "RSA-OAEP-256"
    | .keyWrap .bits128 => "A128KW"
    | .keyWrap .bits192 => "A192KW"
    | .keyWrap .bits256 => "A256KW"
    | .direct => "dir"
    | .ecdh => "ECDH-ES"
    | .ecdhKeyWrap .bits128 => "ECDH-ES+A128KW"
    | .ecdhKeyWrap .bits192 => "ECDH-ES+A192KW"
    | .ecdhKeyWrap .bits256 => "ECDH-ES+A256KW"
    | .gcmKeyWrap .bits128 => "A128GCMKW"
    | .gcmKeyWrap .bits192 => "A192GCMKW"
    | .gcmKeyWrap .bits256 => "A256GCMKW"
    | .password .bits128 => "PBES2-HS256+A128KW"
    | .password .bits192 => "PBES2-HS384+A192KW"
    | .password .bits256 => "PBES2-HS512+A256KW"
  all :=
    [.rsaBlock, .rsaOaep, .rsaOaep256, .keyWrap .bits128, .keyWrap .bits192, .keyWrap .bits256,
      .direct, .ecdh, .ecdhKeyWrap .bits128, .ecdhKeyWrap .bits192, .ecdhKeyWrap .bits256,
      .gcmKeyWrap .bits128, .gcmKeyWrap .bits192, .gcmKeyWrap .bits256, .password .bits128,
      .password .bits192, .password .bits256]

def KeyManagement.keyType : KeyManagement -> Option KeyType
  | .rsaBlock | .rsaOaep | .rsaOaep256 => some .rsa
  | .keyWrap _ | .direct | .gcmKeyWrap _ => some .symmetric
  | .ecdh | .ecdhKeyWrap _ => some .ellipticCurve
  | .password _ => none

inductive ContentEncryption
  | cbcHmac (key : AesKey)
  | gcm (key : AesKey)
  deriving Repr, DecidableEq

instance : Named ContentEncryption where
  name
    | .cbcHmac .bits128 => "A128CBC-HS256"
    | .cbcHmac .bits192 => "A192CBC-HS384"
    | .cbcHmac .bits256 => "A256CBC-HS512"
    | .gcm .bits128 => "A128GCM"
    | .gcm .bits192 => "A192GCM"
    | .gcm .bits256 => "A256GCM"
  all :=
    [.cbcHmac .bits128, .cbcHmac .bits192, .cbcHmac .bits256, .gcm .bits128, .gcm .bits192,
      .gcm .bits256]

end RelyingParty
