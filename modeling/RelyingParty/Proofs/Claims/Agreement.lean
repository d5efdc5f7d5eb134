import RelyingParty.Proofs.Claims.IdToken
import RelyingParty.Proofs.Claims.Validation
import RelyingParty.Proofs.Json.Members
import RelyingParty.Proofs.Url
import RelyingParty.Proofs.Verification.Outcome

set_option autoImplicit false

namespace RelyingParty

theorem Claims.ofPayload_success (payload : Bytes) (claims : Claims)
    (read : Claims.ofPayload payload = .ok claims) :
    ∃ written values, Json.Tree.ofBytes? payload = some (.object written) ∧
      Json.Tree.members? 1 written = some values ∧
      claims.members = Json.Members.ofList values := by
  unfold Claims.ofPayload at read
  split at read
  next members whole =>
    cases read
    obtain ⟨tree, document, value⟩ := Option.bind_eq_some_iff.mp whole
    cases tree with
    | object written =>
      simp only [Json.Tree.value?] at value
      split at value
      next =>
        obtain ⟨values, found, made⟩ := Option.map_eq_some_iff.mp value
        cases made
        exact ⟨written, values, document, found, rfl⟩
      next => cases value
    | null | bool _ => cases value
    | number _ | string _ => simp [Json.Tree.value?] at value
    | array _ =>
      simp only [Json.Tree.value?] at value
      split at value <;> simp at value
  next => cases read
  next => cases read

namespace Verifier

variable (verifier : Verifier) (claims : Claims) (nonce : Option String) (now : Instant)

theorem accept_success :
    verifier.accept claims nonce now = .ok () ↔
      verifier.validator.Validated claims nonce now ∧
        verifier.authContext (claims.string? "acr") = .ok () ∧
        verifier.authTime (claims.timestamp? "auth_time") = .ok () := by
  simp [accept, check_success, Validator.validate_success]

/-- The claims of a token are the values that were checked, and the other members are kept. -/
structure Agrees (token : IdToken) : Prop where
  issuer : token.issuer = verifier.validator.issuer
  issuerClaim : claims.string? "iss" = some token.issuer.text
  subject : claims.string? "sub" = some token.subject
  audiences : claims.audiences? = some token.audiences
  audience : verifier.validator.clientId ∈ token.audiences
  severalAudiences : 1 < token.audiences.length ->
    token.authorizedParty = some verifier.validator.clientId
  expiration : claims.timestamp? "exp" = some token.expiration
  unexpired : verifier.validator.hasExpired token.expiration now = false
  issueTime : claims.timestamp? "iat" = some token.issueTime
  issued : verifier.validator.isInFuture token.issueTime now = false
  authTime : claims.timestamp? "auth_time" = token.authTime
  authTimeAccepted : verifier.authTime token.authTime = .ok ()
  authContext : claims.string? "acr" = token.authContext
  authContextAccepted : verifier.authContext token.authContext = .ok ()
  expectedNonce : ∀ expected, nonce = some expected ->
    ∃ found, token.nonce = some found ∧ Validator.sameNonce expected found = true
  nonce : claims.string? "nonce" = token.nonce
  authorizedParty : claims.string? "azp" = token.authorizedParty
  authMethods : (claims.get? "amr").bind Json.strings? = token.authMethods
  additional : token.additional = claims.members.without IdToken.fieldNames
  additionalClaims : ∀ name, token.additional.get? name =
    if name ∈ IdToken.fieldNames then none else claims.get? name

variable {claims nonce now}

theorem required_claims (issuerRead : verifier.validator.issuer.IsRead)
    (validated : verifier.validator.Validated claims nonce now) :
    ∃ subject audiences expiration issueTime,
      IdToken.Required claims verifier.validator.issuer subject audiences expiration issueTime := by
  obtain ⟨audiences, listed, _⟩ := validated.audience
  obtain ⟨expiration, expires, _⟩ := validated.expiration
  obtain ⟨issueTime, issued, _⟩ := validated.issueTime
  obtain ⟨subject, named⟩ := validated.subject
  refine ⟨subject, audiences, expiration, issueTime, ?_, named, listed, expires, issued⟩
  -- The claim has the text of the expected issuer, and that text was read as a URL before.
  obtain ⟨value, given, text⟩ := Option.bind_eq_some_iff.mp validated.issuer
  rw [IdToken.string?_some] at text
  subst text
  rw [given]
  change (UrlText.ofText verifier.validator.issuer.text).toOption = _
  rw [issuerRead.ofText]
  rfl

theorem agrees (issuerRead : verifier.validator.issuer.IsRead)
    (accepted : verifier.accept claims nonce now = .ok ()) (token : IdToken)
    (read : IdToken.ofClaims claims = .ok token) : Agrees verifier claims nonce now token := by
  obtain ⟨validated, contextAccepted, timeAccepted⟩ := (verifier.accept_success _ _ _).mp accepted
  obtain ⟨subject, audiences, expiration, issueTime, required⟩ :=
    verifier.required_claims issuerRead validated
  obtain ⟨_, rfl⟩ := IdToken.ofClaims_success required token read
  constructor
  case issuer => rfl
  case issuerClaim => exact validated.issuer
  case subject => exact required.subject
  case audiences => exact required.audiences
  case audience | severalAudiences =>
    -- The audiences that were checked and those that are returned are the same list.
    obtain ⟨found, listed, member, party⟩ := validated.audience
    rw [required.audiences] at listed
    cases listed
    assumption
  case expiration => exact required.expiration
  case unexpired =>
    obtain ⟨found, expires, unexpired⟩ := validated.expiration
    rw [required.expiration] at expires
    cases expires
    exact unexpired
  case issueTime => exact required.issueTime
  case issued =>
    obtain ⟨found, given, issued⟩ := validated.issueTime
    rw [required.issueTime] at given
    cases given
    exact issued
  case authTimeAccepted => exact timeAccepted
  case authContextAccepted => exact contextAccepted
  case expectedNonce => exact validated.nonce
  case additionalClaims => exact Json.Members.without_get? _ _
  case authTime | authContext | nonce | authorizedParty | authMethods | additional => rfl

theorem checked_returned (issuerRead : verifier.validator.issuer.IsRead) (payload : Bytes)
    (parsed : Claims.ofPayload payload = .ok claims) (run : Run)
    (accepted : ((verifier.checkClaims claims nonce now).run run).1 = .ok ()) :
    (∃ written values, Json.Tree.ofBytes? payload = some (.object written) ∧
        Json.Tree.members? 1 written = some values ∧
        ∀ name, claims.get? name = values.reverse.lookup name) ∧
      ((∃ token, ((verifier.verifyContent payload nonce now).run run).1 = .ok token) ↔
        IdToken.Shaped claims) ∧
      (∀ fault, ((verifier.verifyContent payload nonce now).run run).1 = .error fault ->
        ∃ path, fault = .content (.claims (.malformed path)) ∧ IdToken.Misshapen claims path) ∧
      ∀ token, ((verifier.verifyContent payload nonce now).run run).1 = .ok token ->
        Agrees verifier claims nonce now token ∧
          ((verifier.verifyContent payload nonce now).run run).2.events =
            run.events ++ [.authContext token.authContext, .authTime token.authTime] := by
  rw [checkClaims_outcome] at accepted
  obtain ⟨validated, _, _⟩ := (verifier.accept_success _ _ _).mp accepted
  obtain ⟨_, _, _, _, required⟩ := verifier.required_claims issuerRead validated
  have outcome : ((verifier.verifyContent payload nonce now).run run).1 =
      (IdToken.ofClaims claims).mapError fun fault => .content (.claims fault) := by
    rw [verifyContent_outcome]
    exact verifier.judge_accepted payload nonce now parsed accepted
  simp only [outcome, mapError_success, mapError_failure]
  refine ⟨?_, ⟨?_, IdToken.ofClaims_shaped required⟩, ?_, ?_⟩
  · obtain ⟨written, values, document, found, made⟩ :=
      Claims.ofPayload_success payload claims parsed
    refine ⟨written, values, document, found, fun name => ?_⟩
    rw [Claims.get?, made]
    exact Json.Members.ofList_get? values name
  · rintro ⟨token, read⟩
    exact (IdToken.ofClaims_success required token read).1
  · rintro _ ⟨fault, failed, rfl⟩
    obtain ⟨path, rfl, wrong⟩ := IdToken.ofClaims_fault required fault failed
    exact ⟨path, rfl, wrong⟩
  · intro token read
    have agrees := verifier.agrees issuerRead accepted token read
    refine ⟨agrees, ?_⟩
    rw [verifyContent_later verifier payload nonce now run parsed,
      checkClaims_events verifier claims nonce now run accepted, agrees.authContext,
      agrees.authTime]

end Verifier

namespace Sample

def payload : Bytes := Bytes.ofText
  "\x7b\"iss\":\"urn:op\",\"sub\":\"1\",\"aud\":\"rp\",\"exp\":9,\"iat\":1,\"aud\":\"rp-123\"\x7d"

theorem payload_returned :
    ∃ claims token, Claims.ofPayload payload = .ok claims ∧
      ((openVerifier.checkClaims claims none now).run run).1 = .ok () ∧
      Verifier.Agrees openVerifier claims none now token := by
  have issuerRead : openVerifier.validator.issuer.IsRead :=
    .inr ⟨.string (some "urn:op"), by decide +kernel⟩
  have returns : (openVerifier.judge payload none now).toOption.isSome = true := by decide +kernel
  cases outcome : openVerifier.judge payload none now with
  | error fault =>
    rw [outcome] at returns
    cases returns
  | ok token =>
    obtain ⟨claims, parsed, accepted, _⟩ := (openVerifier.judge_success _ _ _ _).mp outcome
    rw [← openVerifier.checkClaims_outcome claims none now run] at accepted
    rw [← openVerifier.verifyContent_outcome payload none now run] at outcome
    obtain ⟨_, _, _, agrees⟩ := openVerifier.checked_returned issuerRead payload parsed run accepted
    exact ⟨claims, token, parsed, accepted, (agrees token outcome).1⟩

end Sample

end RelyingParty
