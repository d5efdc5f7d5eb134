import RelyingParty.Claims
import RelyingParty.Basic
import RelyingParty.Url

set_option autoImplicit false

namespace RelyingParty

structure IdToken where
  issuer : UrlText
  subject : String
  audiences : List String
  expiration : Instant
  issueTime : Instant
  authTime : Option Instant
  nonce : Option String
  authContext : Option String
  authMethods : Option (List String)
  authorizedParty : Option String
  additional : Json.Members
  deriving Repr

namespace IdToken

inductive Fault
  | malformed (path : String)
  | missing (name : String)
  deriving Repr, DecidableEq

def Fault.message : Fault -> String
  | .malformed path => path
  | .missing name => "missing field `" ++ name ++ "`"

def fieldNames : List String :=
  ["acr", "amr", "aud", "auth_time", "azp", "exp", "iat", "iss", "nonce", "sub"]

def claim? {A : Type} (claims : Claims) (name : String) (read : Json -> Option A) :
    Except Fault (Option A) :=
  match claims.get? name with
  | none => .ok none
  | some value => (orFault (.malformed name) (read value)).map some

def nullable {A : Type} (read : Json -> Option A) : Json -> Option (Option A)
  | .null => some none
  | value => (read value).map some

def items? {A : Type} (read : Json -> Option A) : Json -> Option (List A)
  | .array items => items.mapM read
  | _ => none

def listOrSingle? {A : Type} (read : Json -> Option A) (value : Json) : Option (List A) :=
  -- A list is tried first, and a value that is no such list may be a single item.
  match items? read value with
  | some values => some values
  | none => (read value).map fun single => [single]

def listFrom (name : String) : Nat -> List Json -> Except Fault (List String)
  | _, [] => .ok []
  | position, value :: rest => do
    let text ← orFault (.malformed s!"{name}[{position}]") value.string?
    let texts ← listFrom name (position + 1) rest
    return text :: texts

def strings? (claims : Claims) (name : String) : Except Fault (Option (List String)) :=
  match claims.get? name with
  | none | some .null => .ok none
  | some (.array items) => (listFrom name 0 items).map some
  | some _ => .error (.malformed name)

/-- Reads the claims of a token, in byte order of their names; a missing claim is noticed last. -/
def ofClaims (claims : Claims) : Except Fault IdToken := do
  let authContext ← claim? claims "acr" (nullable Json.string?)
  let authMethods ← strings? claims "amr"
  let audiences ← claim? claims "aud" (listOrSingle? Json.string?)
  let authTime ← claim? claims "auth_time" (nullable Claims.instantOf?)
  let authorizedParty ← claim? claims "azp" (nullable Json.string?)
  let expiration ← claim? claims "exp" Claims.instantOf?
  let issueTime ← claim? claims "iat" Claims.instantOf?
  let issuer ← claim? claims "iss" fun value => UrlText.ofTree? value.toTree
  let nonce ← claim? claims "nonce" (nullable Json.string?)
  let subject ← claim? claims "sub" Json.string?
  let issuer ← orFault (.missing "iss") issuer
  let subject ← orFault (.missing "sub") subject
  let audiences ← orFault (.missing "aud") audiences
  let expiration ← orFault (.missing "exp") expiration
  let issueTime ← orFault (.missing "iat") issueTime
  return {
    issuer, subject, audiences, expiration, issueTime
    authTime := authTime.join
    nonce := nonce.join
    authContext := authContext.join
    authMethods
    authorizedParty := authorizedParty.join
    additional := claims.members.without fieldNames }

def secondsJson (instant : Instant) : Json := .number (.int instant.seconds)

def stringsJson (texts : List String) : Json := .array (texts.map .string)

def toJson (token : IdToken) : Json :=
  Json.ofMembers <|
    [("iss", token.issuer.toJson), ("sub", .string token.subject),
      ("aud", stringsJson token.audiences), ("exp", secondsJson token.expiration),
      ("iat", secondsJson token.issueTime)] ++
      Json.optionalMember "auth_time" secondsJson token.authTime ++
      Json.optionalMember "nonce" .string token.nonce ++
      Json.optionalMember "acr" .string token.authContext ++
      Json.optionalMember "amr" stringsJson token.authMethods ++
      Json.optionalMember "azp" .string token.authorizedParty ++
      token.additional

end IdToken

end RelyingParty
