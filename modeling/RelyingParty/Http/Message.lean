import RelyingParty.Basic
import RelyingParty.Http.Status
import RelyingParty.Http.Uri

set_option autoImplicit false

namespace RelyingParty.Http

def mediaTypeJson : String := "application/json"

def mediaTypeKeySet : String := "application/jwk-set+json"

structure Request where
  method : String
  uri : Uri
  accept : String
  body : Bytes
  deriving Repr, DecidableEq

def Request.get (uri : Uri) : Request := ⟨"GET", uri, mediaTypeJson, []⟩

structure Response where
  status : Nat
  contentType : Option Bytes
  body : Bytes
  deriving Repr, DecidableEq

/-- A client, given by its answers to requests in order: a response, or why there is none. -/
abbrev Client := Nat -> Except String Response

namespace ContentType

def isVisible (byte : UInt8) : Bool := (32 ≤ byte && byte < 127) || byte == 9

def text? (value : Bytes) : Option String :=
  if value.all isVisible then some (String.ofList (value.map fun byte => Char.ofNat byte.toNat))
  else none

def startsWith (value : Bytes) (mediaType : String) : Bool :=
  match text? value with
  -- What comes behind the media type is not looked at.
  | some text => mediaType.toList.isPrefixOf (text.toList.map Char.toLower)
  | none => false

def isJson (value : Bytes) : Bool :=
  startsWith value mediaTypeJson || startsWith value mediaTypeKeySet

def quoteByte (byte : UInt8) : List Char :=
  if byte == 34 then ['\\', '"']
  else if isVisible byte then [Char.ofNat byte.toNat]
  else '\\' :: 'x' :: Nat.toDigits 16 byte.toNat

def quote (value : Bytes) : String :=
  String.ofList ('"' :: value.flatMap quoteByte ++ ['"'])

end ContentType

end RelyingParty.Http
