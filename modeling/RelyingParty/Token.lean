import RelyingParty.Base64Url
import RelyingParty.Token.Header
import RelyingParty.Key.Decryption

set_option autoImplicit false

namespace RelyingParty

structure SignedToken where
  header : Header
  algorithm : Signing
  payload : Bytes
  signingInput : String
  signature : Bytes
  deriving Repr, DecidableEq

structure EncryptedToken where
  header : Header
  algorithm : KeyManagement
  method : ContentEncryption
  protectedHeader : String
  encryptedKey : Bytes
  iv : Bytes
  ciphertext : Bytes
  tag : Bytes
  deriving Repr, DecidableEq

inductive Token
  | unsecured (payload : Bytes)
  | signed (token : SignedToken)
  | encrypted (token : EncryptedToken)
  deriving Repr, DecidableEq

def EncryptedToken.content (token : EncryptedToken) : SealedContent where
  aad := Bytes.ofText token.protectedHeader
  encryptedKey := token.encryptedKey
  iv := token.iv
  ciphertext := token.ciphertext
  tag := token.tag

namespace Token

inductive Segment
  | header
  | payload
  | signature
  | encryptedKey
  | iv
  | ciphertext
  | tag
  deriving Repr, DecidableEq

def Segment.name : Segment -> String
  | .header => "header"
  | .payload => "payload"
  | .signature => "signature"
  | .encryptedKey => "encrypted key"
  | .iv => "initialization vector"
  | .ciphertext => "ciphertext"
  | .tag => "authentication tag"

inductive Fault
  | segmentCount (count : Nat)
  | encoding (segment : Segment) (fault : Base64Url.Fault)
  | header (fault : Header.Fault)
  | criticalHeader
  | unsecuredSignature
  | keyManagementInSigned
  | compressed
  | signingInEncrypted
  | missingMethod
  deriving Repr, DecidableEq

def Fault.message : Fault -> String
  | .segmentCount count => s!"found {count} parts (expected 3 or 5)"
  | .encoding segment fault => s!"Invalid base64url {segment.name} encoding: {fault.message}"
  | .header .malformed => "Failed to parse header JSON"
  | .header (.unrecognizedAlgorithm name) =>
    "Failed to parse header JSON: unrecognized JSON Web Algorithm `" ++ name ++ "`"
  | .criticalHeader => "critical JWT header fields are unsupported"
  | .unsecuredSignature => "unsecured token must have an empty signature"
  | .keyManagementInSigned => "JWE key management algorithm in a three-part token"
  | .compressed => "compressed JWE content is unsupported"
  | .signingInEncrypted => "five-part token must use a JWE key management algorithm"
  | .missingMethod => "JWE header is missing `enc`"

def decode (segment : Segment) (text : String) : Except Fault Bytes :=
  (Base64Url.decode text).mapError (.encoding segment)

def readHeader (text : String) : Except Fault Header := do
  let bytes ← decode .header text
  let header ← (Header.ofBytes bytes).mapError .header
  -- No critical extension is known, so that any list of them is refused.
  if header.critical.isSome then .error .criticalHeader else .ok header

def readSigned (headerText payloadText signatureText : String) : Except Fault Token := do
  let header ← readHeader headerText
  let payload ← decode .payload payloadText
  match header.algorithm with
  | .unsecured =>
    if signatureText = "" then .ok (.unsecured payload) else .error .unsecuredSignature
  | .signing algorithm =>
    let signature ← decode .signature signatureText
    -- What is signed are the segments as they are written.
    let signingInput := headerText ++ "." ++ payloadText
    return .signed { header, algorithm, payload, signingInput, signature }
  | .keyManagement _ => .error .keyManagementInSigned

def readEncrypted (headerText keyText ivText ciphertextText tagText : String) :
    Except Fault Token := do
  let header ← readHeader headerText
  -- The header is judged before any of the other segments is decoded.
  if header.compression.isSome then .error .compressed
  else
    match header.algorithm, header.method with
    | .keyManagement algorithm, some method =>
      let encryptedKey ← decode .encryptedKey keyText
      let iv ← decode .iv ivText
      let ciphertext ← decode .ciphertext ciphertextText
      let tag ← decode .tag tagText
      return .encrypted {
        header, algorithm, method
        protectedHeader := headerText
        encryptedKey, iv, ciphertext, tag }
    | .keyManagement _, none => .error .missingMethod
    | _, _ => .error .signingInEncrypted

def segments (text : String) : List String := (text.toList.splitOn '.').map String.ofList

def ofText (text : String) : Except Fault Token :=
  match segments text with
  | [header, payload, signature] => readSigned header payload signature
  | [header, key, iv, ciphertext, tag] => readEncrypted header key iv ciphertext tag
  | others => .error (.segmentCount others.length)

end Token

end RelyingParty
