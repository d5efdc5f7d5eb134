import RelyingParty.Claims.Validation
import RelyingParty.Proofs.Checked

set_option autoImplicit false

namespace RelyingParty.Validator

variable (validator : Validator) (claims : Claims) (nonce : Option String) (now : Instant)

/-- The claims name the client as an audience, and if there are more, as the authorized party. -/
def ForClient (audiences : List String) : Prop :=
  claims.audiences? = some audiences ∧ validator.clientId ∈ audiences ∧
    (1 < audiences.length -> claims.string? "azp" = some validator.clientId)

structure Validated : Prop where
  issuer : claims.string? "iss" = some validator.issuer.text
  audience : ∃ audiences, validator.ForClient claims audiences
  expiration : ∃ expiration, claims.timestamp? "exp" = some expiration ∧
    validator.hasExpired expiration now = false
  issueTime : ∃ issueTime, claims.timestamp? "iat" = some issueTime ∧
    validator.isInFuture issueTime now = false
  nonce : ∀ expected, nonce = some expected ->
    ∃ found, claims.string? "nonce" = some found ∧ sameNonce expected found = true
  subject : ∃ subject, claims.string? "sub" = some subject

theorem checkIssuer_success :
    validator.checkIssuer claims = .ok () ↔ claims.string? "iss" = some validator.issuer.text := by
  simp [checkIssuer, bind_success]

theorem checkAuthorizedParty_success :
    validator.checkAuthorizedParty claims = .ok () ↔
      claims.string? "azp" = some validator.clientId := by
  simp [checkAuthorizedParty, bind_success]

theorem checkAudience_success :
    validator.checkAudience claims = .ok () ↔
      ∃ audiences, validator.ForClient claims audiences := by
  unfold checkAudience ForClient
  simp only [bind_success, orFault_success, require_success, List.contains_iff_mem]
  apply exists_congr
  intro audiences
  by_cases several : 1 < audiences.length
  · simp [several, checkAuthorizedParty_success]
  · simp [several]

theorem checkExpiration_success :
    validator.checkExpiration claims now = .ok () ↔
      ∃ expiration, claims.timestamp? "exp" = some expiration ∧
        validator.hasExpired expiration now = false := by
  simp [checkExpiration, bind_success]

theorem checkIssueTime_success :
    validator.checkIssueTime claims now = .ok () ↔
      ∃ issueTime, claims.timestamp? "iat" = some issueTime ∧
        validator.isInFuture issueTime now = false := by
  simp [checkIssueTime, bind_success]

theorem checkNonce_success :
    checkNonce claims nonce = .ok () ↔ ∀ expected, nonce = some expected ->
      ∃ found, claims.string? "nonce" = some found ∧ sameNonce expected found = true := by
  cases nonce with
  | none => simp [checkNonce]
  | some expected => simp [checkNonce, bind_success]

theorem checkSubject_success :
    checkSubject claims = .ok () ↔ ∃ subject, claims.string? "sub" = some subject := by
  unfold checkSubject
  simp only [bind_success, orFault_success, return_success, and_true]

theorem validate_success :
    validator.validate claims nonce now = .ok () ↔ validator.Validated claims nonce now := by
  unfold validate
  simp only [check_success, checkIssuer_success, checkAudience_success, checkExpiration_success,
    checkIssueTime_success, checkNonce_success, checkSubject_success]
  constructor
  · rintro ⟨issuer, audience, expiration, issueTime, nonce, subject⟩
    exact ⟨issuer, audience, expiration, issueTime, nonce, subject⟩
  · rintro ⟨issuer, audience, expiration, issueTime, nonce, subject⟩
    exact ⟨issuer, audience, expiration, issueTime, nonce, subject⟩

end RelyingParty.Validator
