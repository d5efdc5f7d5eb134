import RelyingParty.Claims
import RelyingParty.Basic
import RelyingParty.Crypto.Sha2
import RelyingParty.Url

set_option autoImplicit false

namespace RelyingParty

inductive ClaimFault
  | missingIssuer
  | otherIssuer (expected found : String)
  | missingAudiences
  | otherAudiences (expected : String) (found : List String)
  | missingAuthorizedParty
  | otherAuthorizedParty (expected found : String)
  | missingExpiration
  | expired (expiration now : Instant)
  | missingIssueTime
  | issuedInFuture (issueTime now : Instant)
  | missingNonce
  | otherNonce
  | missingSubject
  | authContext (reason : String)
  | authTime (reason : String)
  deriving Repr, DecidableEq

namespace ClaimFault

inductive Kind
  | issuer
  | audience
  | ambiguousAudience
  | expiration
  | issueTime
  | nonce
  | subject
  | authContext
  | authTime
  deriving Repr, DecidableEq

def kind : ClaimFault -> Kind
  | .missingIssuer | .otherIssuer _ _ => .issuer
  | .missingAudiences | .otherAudiences _ _ => .audience
  | .missingAuthorizedParty | .otherAuthorizedParty _ _ => .ambiguousAudience
  | .missingExpiration | .expired _ _ => .expiration
  | .missingIssueTime | .issuedInFuture _ _ => .issueTime
  | .missingNonce | .otherNonce => .nonce
  | .missingSubject => .subject
  | .authContext _ => .authContext
  | .authTime _ => .authTime

def Kind.title : Kind -> String
  | .issuer => "Invalid issuer"
  | .audience => "Invalid audiences"
  | .ambiguousAudience => "Ambiguous audience"
  | .expiration => "Expired"
  | .issueTime => "Invalid issue time"
  | .nonce => "Invalid nonce"
  | .subject => "Invalid subject"
  | .authContext => "Invalid authorization context class reference"
  | .authTime => "Invalid authentication time"

def quote (text : String) : String := "`" ++ text ++ "`"

def detail : ClaimFault -> String
  | .missingIssuer => "missing issuer claim"
  | .otherIssuer expected found => s!"expected {quote expected} (found {quote found})"
  | .missingAudiences => "missing audiences claim"
  | .otherAudiences expected found =>
    let audiences := ", ".intercalate (found.map quote)
    s!"must contain {quote expected} (found audiences: {audiences})"
  | .missingAuthorizedParty => "missing authorized party claim but multiple audiences found"
  | .otherAuthorizedParty expected found =>
    s!"authorized party must match client ID {quote expected} (found {quote found})"
  | .missingExpiration => "missing expiration claim"
  | .expired expiration now =>
    s!"ID token expired at {expiration.text} (current time is {now.text})"
  | .missingIssueTime => "missing issue time claim"
  | .issuedInFuture issueTime now =>
    s!"ID token issued in the future at {issueTime.text} (current time is {now.text})"
  | .missingNonce => "missing nonce claim"
  | .otherNonce => "nonce mismatch"
  | .missingSubject => "missing subject claim"
  | .authContext reason | .authTime reason => reason

def message (fault : ClaimFault) : String := s!"{fault.kind.title}: {fault.detail}"

end ClaimFault

structure Validator where
  issuer : UrlText
  clientId : String
  skew : Duration
  deriving Repr, DecidableEq

namespace Validator

def of (issuer : UrlText) (clientId : String) : Validator := ⟨issuer, clientId, .zero⟩

def checkIssuer (validator : Validator) (claims : Claims) : Except ClaimFault Unit := do
  let issuer ← orFault .missingIssuer (claims.string? "iss")
  require (issuer == validator.issuer.text) (.otherIssuer validator.issuer.text issuer)

def checkAuthorizedParty (validator : Validator) (claims : Claims) : Except ClaimFault Unit := do
  let party ← orFault .missingAuthorizedParty (claims.string? "azp")
  require (party == validator.clientId) (.otherAuthorizedParty validator.clientId party)

def checkAudience (validator : Validator) (claims : Claims) : Except ClaimFault Unit := do
  let audiences ← orFault .missingAudiences claims.audiences?
  require (audiences.contains validator.clientId) (.otherAudiences validator.clientId audiences)
  -- With more than one audience, the claims have to say for whom the token was made.
  if 1 < audiences.length then validator.checkAuthorizedParty claims else .ok ()

/-- A sum of a time and the skew that the calendar does not reach lies on the side of the skew. -/
def hasExpired (validator : Validator) (expiration now : Instant) : Bool :=
  match expiration.add? validator.skew with
  | some deadline => !now.before deadline
  | none => decide (validator.skew.nanoseconds < 0)

def checkExpiration (validator : Validator) (claims : Claims) (now : Instant) :
    Except ClaimFault Unit := do
  let expiration ← orFault .missingExpiration (claims.timestamp? "exp")
  require (!validator.hasExpired expiration now) (.expired expiration now)

def isInFuture (validator : Validator) (issueTime now : Instant) : Bool :=
  match now.add? validator.skew with
  | some latest => latest.before issueTime
  | none => decide (validator.skew.nanoseconds < 0)

def checkIssueTime (validator : Validator) (claims : Claims) (now : Instant) :
    Except ClaimFault Unit := do
  let issueTime ← orFault .missingIssueTime (claims.timestamp? "iat")
  require (!validator.isInFuture issueTime now) (.issuedInFuture issueTime now)

def sameNonce (left right : String) : Bool :=
  -- Digests have one length, so that comparing them takes the same time for any nonce.
  Sha2.digest .sha256 (Bytes.ofText left) == Sha2.digest .sha256 (Bytes.ofText right)

def checkNonce (claims : Claims) : Option String -> Except ClaimFault Unit
  | none => .ok ()
  | some expected => do
    let nonce ← orFault .missingNonce (claims.string? "nonce")
    require (sameNonce expected nonce) .otherNonce

def checkSubject (claims : Claims) : Except ClaimFault Unit := do
  let _ ← orFault .missingSubject (claims.string? "sub")
  return ()

def validate (validator : Validator) (claims : Claims) (nonce : Option String) (now : Instant) :
    Except ClaimFault Unit := do
  validator.checkIssuer claims
  validator.checkAudience claims
  validator.checkExpiration claims now
  validator.checkIssueTime claims now
  checkNonce claims nonce
  checkSubject claims

end Validator

end RelyingParty
