import RelyingParty.Proofs.Verification.Payload

set_option autoImplicit false

namespace RelyingParty

namespace Verifier

def reachesClaims : Except VerificationFault IdToken -> Bool
  | .ok _ => true
  | .error fault => fault.inClaims

def accept (verifier : Verifier) (claims : Claims) (nonce : Option String) (now : Instant) :
    Except ClaimFault Unit := do
  verifier.validator.validate claims nonce now
  (verifier.authContext (claims.string? "acr")).mapError .authContext
  (verifier.authTime (claims.timestamp? "auth_time")).mapError .authTime

def judge (verifier : Verifier) (payload : Bytes) (nonce : Option String) (now : Instant) :
    Except VerificationFault IdToken := do
  let claims ← (Claims.ofPayload payload).mapError fun fault => .content (.payload fault)
  (verifier.accept claims nonce now).mapError .claim
  (IdToken.ofClaims claims).mapError fun fault => .content (.claims fault)

theorem judge_accepted (verifier : Verifier) (payload : Bytes) (nonce : Option String)
    (now : Instant) {claims : Claims} (parsed : Claims.ofPayload payload = .ok claims)
    (accepted : verifier.accept claims nonce now = .ok ()) :
    verifier.judge payload nonce now =
      (IdToken.ofClaims claims).mapError fun fault => .content (.claims fault) := by
  unfold judge
  rw [parsed]
  change ((verifier.accept claims nonce now).mapError VerificationFault.claim >>= fun _ => _) = _
  rw [accepted]
  rfl

theorem judge_success (verifier : Verifier) (payload : Bytes) (nonce : Option String)
    (now : Instant) (token : IdToken) :
    verifier.judge payload nonce now = .ok token ↔
      ∃ claims, Claims.ofPayload payload = .ok claims ∧ verifier.accept claims nonce now = .ok () ∧
        IdToken.ofClaims claims = .ok token := by
  unfold judge
  rw [bind_success]
  simp only [check_success, mapError_success]

/-- The outcome is what becomes of the claims of the JSON object that a payload spells. -/
inductive Judged (verifier : Verifier) (nonce : Option String) (now : Instant) (payload : Bytes) :
    Except VerificationFault IdToken -> Prop
  | noObject (fault : Claims.PayloadFault)
      (other : ∀ members, Json.ofBytes? payload ≠ some (.object members)) :
      Judged verifier nonce now payload (.error (.content (.payload fault)))
  | refused (members : Json.Members) (fault : ClaimFault)
      (spelled : Json.ofBytes? payload = some (.object members))
      (refused : verifier.accept ⟨members⟩ nonce now = .error fault) :
      Judged verifier nonce now payload (.error (.claim fault))
  | untyped (members : Json.Members) (fault : IdToken.Fault)
      (spelled : Json.ofBytes? payload = some (.object members))
      (accepted : verifier.accept ⟨members⟩ nonce now = .ok ())
      (untyped : IdToken.ofClaims ⟨members⟩ = .error fault) :
      Judged verifier nonce now payload (.error (.content (.claims fault)))
  | returned (members : Json.Members) (token : IdToken)
      (spelled : Json.ofBytes? payload = some (.object members))
      (accepted : verifier.accept ⟨members⟩ nonce now = .ok ())
      (typed : IdToken.ofClaims ⟨members⟩ = .ok token) :
      Judged verifier nonce now payload (.ok token)

theorem ofPayload_object (payload : Bytes) (members : Json.Members) :
    Claims.ofPayload payload = .ok ⟨members⟩ ↔ Json.ofBytes? payload = some (.object members) := by
  unfold Claims.ofPayload
  split <;> simp_all

theorem judge_judged (verifier : Verifier) (payload : Bytes) (nonce : Option String)
    (now : Instant) : Judged verifier nonce now payload (verifier.judge payload nonce now) := by
  cases parsed : Claims.ofPayload payload with
  | error fault =>
    have outcome : verifier.judge payload nonce now = .error (.content (.payload fault)) := by
      rw [judge, parsed]
      rfl
    rw [outcome]
    refine .noObject fault fun members spelled => ?_
    cases parsed.symm.trans ((ofPayload_object payload members).mpr spelled)
  | ok claims =>
    have spelled := (ofPayload_object payload claims.members).mp parsed
    cases accepted : verifier.accept claims nonce now with
    | error fault =>
      have outcome : verifier.judge payload nonce now = .error (.claim fault) := by
        rw [judge, parsed]
        change ((verifier.accept claims nonce now).mapError _ >>= fun _ => _) = _
        rw [accepted]
        rfl
      rw [outcome]
      exact .refused claims.members fault spelled accepted
    | ok _ =>
      rw [verifier.judge_accepted payload nonce now parsed accepted]
      cases typed : IdToken.ofClaims claims with
      | error fault => exact .untyped claims.members fault spelled accepted typed
      | ok token => exact .returned claims.members token spelled accepted typed

theorem checkClaims_outcome (verifier : Verifier) (claims : Claims) (nonce : Option String)
    (now : Instant) (run : Run) :
    ((verifier.checkClaims claims nonce now).run run).1 = verifier.accept claims nonce now := by
  unfold checkClaims accept
  cases verifier.validator.validate claims nonce now with
  | error fault => rfl
  | ok accepted =>
    cases accepted
    dsimp only
    cases verifier.authContext (claims.string? "acr") <;> rfl

theorem verifyContent_outcome (verifier : Verifier) (payload : Bytes) (nonce : Option String)
    (now : Instant) (run : Run) :
    ((verifier.verifyContent payload nonce now).run run).1 = verifier.judge payload nonce now := by
  unfold verifyContent judge
  cases Claims.ofPayload payload with
  | error fault => rfl
  | ok claims =>
    have checked := checkClaims_outcome verifier claims nonce now run
    change _ = ((verifier.accept claims nonce now).mapError VerificationFault.claim >>= fun _ => _)
    rw [← checked]
    dsimp only
    rw [StateT.run_bind]
    rcases (verifier.checkClaims claims nonce now).run run with ⟨_ | _, later⟩ <;> rfl

theorem checkClaims_events (verifier : Verifier) (claims : Claims) (nonce : Option String)
    (now : Instant) (run : Run) (accepted : verifier.accept claims nonce now = .ok ()) :
    ((verifier.checkClaims claims nonce now).run run).2.events = run.events ++
      [.authContext (claims.string? "acr"), .authTime (claims.timestamp? "auth_time")] := by
  obtain ⟨validated, accepted⟩ := (check_success _ _ _).mp accepted
  obtain ⟨context, _⟩ := (check_success _ _ _).mp accepted
  rw [mapError_success] at context
  unfold checkClaims
  rw [validated]
  dsimp only
  rw [context]
  change run.events ++ [_] ++ [_] = _
  rw [List.append_assoc]
  rfl

theorem verifyContent_later (verifier : Verifier) (payload : Bytes) (nonce : Option String)
    (now : Instant) (run : Run) {claims : Claims} (parsed : Claims.ofPayload payload = .ok claims) :
    ((verifier.verifyContent payload nonce now).run run).2 =
      ((verifier.checkClaims claims nonce now).run run).2 := by
  unfold verifyContent
  rw [parsed]
  dsimp only
  rw [StateT.run_bind]
  rcases (verifier.checkClaims claims nonce now).run run with ⟨_ | _, later⟩ <;> rfl

theorem verify_outcome (verifier : Verifier) (text : String) (nonce : Option String)
    (now : Instant) (run : Run) :
    ((verifier.verify text nonce now).run run).1 = (do
      let token ← (Token.ofText text).mapError fun fault => .shape (.token fault)
      let payload ← ((verifier.payload token).run run).1
      verifier.judge payload nonce now) := by
  unfold verify
  cases Token.ofText text with
  | error fault => rfl
  | ok token =>
    change _ = ((verifier.payload token).run run).1 >>= fun payload => _
    simp only [StateT.run_bind]
    rcases (verifier.payload token).run run with ⟨_ | payload, later⟩
    · rfl
    · exact verifyContent_outcome verifier payload nonce now later

theorem verify_reaches (verifier : Verifier) (text : String) (nonce : Option String)
    (now : Instant) (run : Run)
    (reached : reachesClaims ((verifier.verify text nonce now).run run).1 = true) :
    ∃ token payload, Token.ofText text = .ok token ∧
      ((verifier.payload token).run run).1 = .ok payload ∧
      ((verifier.verify text nonce now).run run).1 = verifier.judge payload nonce now := by
  rw [verify_outcome] at reached ⊢
  cases read : Token.ofText text with
  | error fault =>
    rw [read] at reached
    cases reached
  | ok token =>
    rw [read] at reached
    change reachesClaims (((verifier.payload token).run run).1 >>= _) = true at reached
    cases paid : ((verifier.payload token).run run).1 with
    | error fault =>
      rw [paid] at reached
      change fault.inClaims = true at reached
      simp [payload_fault verifier run token fault paid] at reached
    | ok payload =>
      refine ⟨token, payload, rfl, paid, ?_⟩
      change ((verifier.payload token).run run).1 >>= _ = _
      rw [paid]
      rfl

end Verifier

namespace Sample

def issuer : UrlText := ⟨"urn:op", ⟨"urn", "", none, none, "op", none, none⟩⟩

def openVerifier : Verifier := .unsecured issuer "rp-123"

def now : Instant := ⟨5, 0⟩

def run : Run := .start (.start fun _ => .error "unreachable")

end Sample

end RelyingParty
