import RelyingParty.Proofs.Claims.IdToken
import RelyingParty.Proofs.Claims.Validation
import RelyingParty.Proofs.Time.Instant

set_option autoImplicit false

namespace RelyingParty

inductive FirstFailing {K : Type} (holds : K -> Prop) : List K -> K -> Prop
  | here {kind : K} {rest : List K} (fails : ¬ holds kind) : FirstFailing holds (kind :: rest) kind
  | later {first kind : K} {rest : List K} (passes : holds first)
      (found : FirstFailing holds rest kind) : FirstFailing holds (first :: rest) kind

namespace FirstFailing

variable {K : Type} {holds : K -> Prop} {left right : List K} {kind : K}

theorem fails (found : FirstFailing holds left kind) : kind ∈ left ∧ ¬ holds kind := by
  induction found with
  | here fails => exact ⟨List.mem_cons_self, fails⟩
  | later _ _ ih => exact ⟨List.mem_cons_of_mem _ ih.1, ih.2⟩

theorem unique {other : K} (found : FirstFailing holds left kind)
    (otherFound : FirstFailing holds left other) : kind = other := by
  induction found with
  | here fails =>
    cases otherFound with
    | here _ => rfl
    | later passes _ => exact absurd passes fails
  | later passes _ ih =>
    cases otherFound with
    | here fails => exact absurd passes fails
    | later _ otherFound => exact ih otherFound

theorem append_left (found : FirstFailing holds left kind) :
    FirstFailing holds (left ++ right) kind := by
  induction found with
  | here fails => exact .here fails
  | later passes _ ih => exact .later passes ih

theorem append_right (passes : ∀ first ∈ left, holds first)
    (found : FirstFailing holds right kind) : FirstFailing holds (left ++ right) kind := by
  induction left with
  | nil => exact found
  | cons first rest ih =>
    obtain ⟨first, rest⟩ := List.forall_mem_cons.mp passes
    exact .later first (ih rest)

end FirstFailing

/-- A check accepts if conditions hold, and otherwise reports the first one that fails. -/
structure Decides (holds : ClaimFault.Kind -> Prop) (outcome : Except ClaimFault Unit)
    (kinds : List ClaimFault.Kind) : Prop where
  accepts : outcome = .ok () ↔ ∀ kind ∈ kinds, holds kind
  refuses : ∀ fault, outcome = .error fault -> FirstFailing holds kinds fault.kind

namespace Decides

variable {holds : ClaimFault.Kind -> Prop} {first second : Except ClaimFault Unit}
  {left right : List ClaimFault.Kind}

theorem single {kind : ClaimFault.Kind} (accepts : first = .ok () ↔ holds kind)
    (kinds : ∀ fault, first = .error fault -> fault.kind = kind) :
    Decides holds first [kind] where
  accepts := by simpa using accepts
  refuses fault failed := by
    have refused : ¬ holds kind := by
      rw [← accepts, failed]
      simp
    rw [kinds fault failed]
    exact .here refused

theorem append (decides : Decides holds first left)
    (next : first = .ok () -> Decides holds second right) :
    Decides holds (first >>= fun _ => second) (left ++ right) where
  accepts := by
    rw [check_success, List.forall_mem_append, ← decides.accepts]
    exact and_congr_right fun accepted => (next accepted).accepts
  refuses fault failed := by
    obtain failed | ⟨_, accepted, failed⟩ := (bind_failure _ _ _).mp failed
    · exact (decides.refuses fault failed).append_left
    · exact ((next accepted).refuses fault failed).append_right (decides.accepts.mp accepted)

theorem kind_iff (decides : Decides holds first left) (kind : ClaimFault.Kind) :
    (∃ fault, first = .error fault ∧ fault.kind = kind) ↔ FirstFailing holds left kind := by
  constructor
  next =>
    rintro ⟨fault, failed, rfl⟩
    exact decides.refuses fault failed
  next =>
    intro found
    cases outcome : first with
    | ok accepted =>
      obtain ⟨member, fails⟩ := found.fails
      exact absurd (decides.accepts.mp outcome kind member) fails
    | error fault => exact ⟨fault, rfl, (decides.refuses fault outcome).unique found⟩

end Decides

theorem Claims.string?_some (claims : Claims) (name text : String) :
    claims.string? name = some text ↔ claims.get? name = some (.string text) := by
  simp [Claims.string?, Option.bind_eq_some_iff, IdToken.string?_some]

theorem Claims.audiences?_some (claims : Claims) (audiences : List String) :
    claims.audiences? = some audiences ↔
      (∃ audience, claims.get? "aud" = some (.string audience) ∧ audiences = [audience]) ∨
        claims.get? "aud" = some (.array (audiences.map .string)) := by
  unfold audiences?
  cases claims.get? "aud" with
  | none => simp
  | some value =>
    cases value with
    | array items => simp [audiencesOf?, Json.strings?, IdToken.mapM_string?]
    | string audience => simp [audiencesOf?, eq_comm]
    | null | bool _ | number _ | object _ => simp [audiencesOf?, Json.strings?]

theorem Claims.timestamp?_reached (claims : Claims) (name : String) (instant : Instant)
    (named : claims.timestamp? name = some instant)
    (regular : instant.nanoseconds < Instant.perSecond) : instant.Ordinary := by
  obtain ⟨value, _, named⟩ := Option.bind_eq_some_iff.mp named
  cases value with
  | number number =>
    obtain ⟨first, last⟩ := Instant.ofNumber?_some number instant named
    exact ⟨first, last, regular⟩
  | null | bool _ | string _ | array _ | object _ => cases named

theorem claim_kind {A : Type} {missing : ClaimFault} {found : Option A} {condition : A -> Bool}
    {other : A -> ClaimFault} (fault : ClaimFault)
    (failed : (orFault missing found >>= fun value => require (condition value) (other value)) =
      .error fault) (same : ∀ value, (other value).kind = missing.kind) :
    fault.kind = missing.kind := by
  obtain failed | ⟨value, _, failed⟩ := (bind_failure _ _ _).mp failed
  · obtain ⟨_, rfl⟩ := (orFault_failure _ _ _).mp failed
    rfl
  · obtain ⟨_, rfl⟩ := (require_failure _ _ _).mp failed
    exact same value

namespace Validator

variable (validator : Validator) (claims : Claims) (nonce : Option String) (now : Instant)

def Condition : ClaimFault.Kind -> Prop
  | .issuer => claims.get? "iss" = some (.string validator.issuer.text)
  | .audience =>
    claims.get? "aud" = some (.string validator.clientId) ∨
      ∃ audiences : List String, claims.get? "aud" = some (.array (audiences.map .string)) ∧
        validator.clientId ∈ audiences
  | .ambiguousAudience =>
    ∀ entries, claims.get? "aud" = some (.array entries) -> 2 ≤ entries.length ->
      claims.get? "azp" = some (.string validator.clientId)
  | .expiration =>
    ∃ expiration, claims.timestamp? "exp" = some expiration ∧
      now.total < expiration.total + validator.skew.nanoseconds
  | .issueTime =>
    ∃ issueTime, claims.timestamp? "iat" = some issueTime ∧
      issueTime.total ≤ now.total + validator.skew.nanoseconds
  | .nonce =>
    ∀ expected ∈ nonce, ∃ found, claims.get? "nonce" = some (.string found) ∧
      Sha2.digest .sha256 (Bytes.ofText expected) = Sha2.digest .sha256 (Bytes.ofText found)
  | .subject => ∃ subject, claims.get? "sub" = some (.string subject)
  | .authContext | .authTime => True

def order : List ClaimFault.Kind :=
  [.issuer, .audience, .ambiguousAudience, .expiration, .issueTime, .nonce, .subject]

theorem hasExpired_total (expiration : Instant) (ordinary : expiration.Ordinary)
    (current : now.Ordinary) : validator.hasExpired expiration now = false ↔
      now.total < expiration.total + validator.skew.nanoseconds := by
  unfold hasExpired
  obtain ⟨deadline, added, reached, same⟩ | ⟨added, unreached⟩ :=
    expiration.add?_cases validator.skew ordinary
  · rw [added, ← same, ← now.before_total deadline current reached]
    simp
  · -- The sum lies beyond the calendar, on the side to which the skew points.
    have expires := ordinary.reached
    have present := current.reached
    rw [added]
    simp only [Instant.Reached, decide_eq_false_iff_not] at *
    omega

theorem isInFuture_total (issueTime : Instant) (ordinary : issueTime.Ordinary)
    (current : now.Ordinary) : validator.isInFuture issueTime now = false ↔
      issueTime.total ≤ now.total + validator.skew.nanoseconds := by
  unfold isInFuture
  obtain ⟨latest, added, reached, same⟩ | ⟨added, unreached⟩ :=
    now.add?_cases validator.skew current
  · rw [added, ← same, ← Int.not_lt, ← latest.before_total issueTime reached ordinary]
    simp
  · have issued := ordinary.reached
    have present := current.reached
    rw [added]
    simp only [Instant.Reached, decide_eq_false_iff_not] at *
    omega

def checkListed : Except ClaimFault Unit := do
  let audiences ← orFault .missingAudiences claims.audiences?
  require (audiences.contains validator.clientId) (.otherAudiences validator.clientId audiences)

def checkMeant : Except ClaimFault Unit :=
  if claims.audiences?.any fun audiences => 1 < audiences.length then
    validator.checkAuthorizedParty claims
  else .ok ()

theorem checkAudience_steps : validator.checkAudience claims =
    (validator.checkListed claims >>= fun _ => validator.checkMeant claims) := by
  unfold checkAudience checkListed checkMeant
  cases claims.audiences? with
  | none => rfl
  | some audiences =>
    change (require _ _ >>= fun _ => _) = (require _ _ >>= fun _ => _)
    simp

section

variable {validator claims nonce now}

theorem checkIssuer_decides : Decides (validator.Condition claims nonce now)
    (validator.checkIssuer claims) [.issuer] := by
  refine .single ?_ fun fault failed => claim_kind fault failed fun _ => rfl
  rw [checkIssuer_success, Claims.string?_some]
  rfl

theorem checkListed_decides : Decides (validator.Condition claims nonce now)
    (validator.checkListed claims) [.audience] := by
  refine .single ?_ fun fault failed => claim_kind fault failed fun _ => rfl
  unfold checkListed Condition
  simp only [bind_success, orFault_success, require_success, List.contains_iff_mem,
    Claims.audiences?_some]
  constructor
  next =>
    rintro ⟨audiences, ⟨audience, single, rfl⟩ | several, listed⟩
    · obtain rfl := List.mem_singleton.mp listed
      exact .inl single
    · exact .inr ⟨audiences, several, listed⟩
  next =>
    rintro (single | ⟨audiences, several, listed⟩)
    · exact ⟨[validator.clientId], .inl ⟨_, single, rfl⟩, List.mem_singleton_self _⟩
    · exact ⟨audiences, .inr several, listed⟩

theorem checkMeant_decides (listed : validator.checkListed claims = .ok ()) :
    Decides (validator.Condition claims nonce now) (validator.checkMeant claims)
      [.ambiguousAudience] := by
  obtain ⟨audiences, found, _⟩ := (bind_success _ _ _).mp listed
  have found := (orFault_success _ _ _).mp found
  have shape := (claims.audiences?_some audiences).mp found
  unfold checkMeant
  rw [found]
  refine .single ?accepts ?kinds
  case accepts =>
    by_cases several : 1 < audiences.length
    next =>
      -- A single text is one audience, so that the claim is an array.
      obtain ⟨_, _, rfl⟩ | array := shape
      · simp at several
      · simp [Condition, several, checkAuthorizedParty_success, Claims.string?_some, array,
          Nat.succ_le_of_lt several]
    next =>
      simp only [Option.any_some, several, decide_false, Bool.false_eq_true, if_false, true_iff]
      intro entries array length
      obtain ⟨_, single, _⟩ | same := shape
      · cases single.symm.trans array
      · cases same.symm.trans array
        rw [List.length_map] at length
        exact absurd (Nat.lt_of_succ_le length) several
  case kinds =>
    intro fault failed
    split at failed
    next => exact claim_kind fault failed fun _ => rfl
    next => cases failed

theorem checkAudience_decides : Decides (validator.Condition claims nonce now)
    (validator.checkAudience claims) [.audience, .ambiguousAudience] := by
  rw [checkAudience_steps]
  exact checkListed_decides.append checkMeant_decides

theorem checkNonce_decides : Decides (validator.Condition claims nonce now)
    (checkNonce claims nonce) [.nonce] := by
  refine .single ?accepts ?kinds
  case accepts =>
    rw [checkNonce_success]
    simp only [Condition, Claims.string?_some, sameNonce, beq_iff_eq, Option.mem_def]
  case kinds =>
    intro fault failed
    cases nonce with
    | none => cases failed
    | some expected => exact claim_kind fault failed fun _ => rfl

theorem checkSubject_decides : Decides (validator.Condition claims nonce now)
    (checkSubject claims) [.subject] := by
  refine .single ?accepts ?kinds
  case accepts =>
    rw [checkSubject_success]
    simp only [Condition, Claims.string?_some]
  case kinds =>
    intro fault failed
    obtain failed | ⟨_, _, returned⟩ := (bind_failure _ _ _).mp failed
    · obtain ⟨_, rfl⟩ := (orFault_failure _ _ _).mp failed
      rfl
    · cases returned

variable (current : now.Ordinary)

include current

theorem checkExpiration_decides
    (regular : ∀ time, claims.timestamp? "exp" = some time ->
      time.nanoseconds < Instant.perSecond) :
    Decides (validator.Condition claims nonce now) (validator.checkExpiration claims now)
      [.expiration] := by
  refine .single ?_ fun fault failed => claim_kind fault failed fun _ => rfl
  rw [checkExpiration_success]
  refine exists_congr fun expiration => and_congr_right fun named => ?_
  exact validator.hasExpired_total now expiration
    (claims.timestamp?_reached "exp" expiration named (regular expiration named)) current

theorem checkIssueTime_decides
    (regular : ∀ time, claims.timestamp? "iat" = some time ->
      time.nanoseconds < Instant.perSecond) :
    Decides (validator.Condition claims nonce now) (validator.checkIssueTime claims now)
      [.issueTime] := by
  refine .single ?_ fun fault failed => claim_kind fault failed fun _ => rfl
  rw [checkIssueTime_success]
  refine exists_congr fun issueTime => and_congr_right fun named => ?_
  exact validator.isInFuture_total now issueTime
    (claims.timestamp?_reached "iat" issueTime named (regular issueTime named)) current

end

theorem validate_decides (current : now.Ordinary)
    (expiration : ∀ time, claims.timestamp? "exp" = some time ->
      time.nanoseconds < Instant.perSecond)
    (issueTime : ∀ time, claims.timestamp? "iat" = some time ->
      time.nanoseconds < Instant.perSecond) :
    (validator.validate claims nonce now = .ok () ↔
      ∀ kind ∈ order, validator.Condition claims nonce now kind) ∧
    ∀ kind, (∃ fault, validator.validate claims nonce now = .error fault ∧ fault.kind = kind) ↔
      FirstFailing (validator.Condition claims nonce now) order kind := by
  -- The order of the checks is that of the kinds, of which the audience has two.
  have decides : Decides (validator.Condition claims nonce now)
      (validator.validate claims nonce now) order :=
    checkIssuer_decides.append fun _ => checkAudience_decides.append fun _ =>
      (checkExpiration_decides current expiration).append fun _ =>
        (checkIssueTime_decides current issueTime).append fun _ =>
          checkNonce_decides.append fun _ => checkSubject_decides
  exact ⟨decides.accepts, decides.kind_iff⟩

namespace Sample

def lasting : Claims where
  members :=
    [("aud", .array [.string "rp-123", .string "other"]), ("azp", .string "rp-123"),
      ("exp", .number (.int Instant.lastSecond)), ("iat", .number (.int 0)),
      ("iss", .string "urn:op"), ("sub", .string "alice")]

def skewed (seconds : Int) : Validator where
  issuer := ⟨"urn:op", ⟨"urn", "", none, none, "op", none, none⟩⟩
  clientId := "rp-123"
  skew := .of seconds 0

def last : Instant := ⟨Instant.lastSecond, 999999999⟩

theorem lasting_decided :
    last.Ordinary ∧ (skewed 1).validate lasting none last = .ok () ∧
      (∀ kind ∈ order, (skewed 1).Condition lasting none last kind) ∧
      FirstFailing ((skewed (-1)).Condition lasting none last) order .expiration := by
  have current : last.Ordinary := ⟨by decide, by decide, by decide⟩
  have regular (name : String) (listed : name ∈ ["exp", "iat"]) (time : Instant)
      (named : lasting.timestamp? name = some time) : time.nanoseconds < Instant.perSecond := by
    simp only [List.mem_cons, List.not_mem_nil, or_false] at listed
    obtain rfl | rfl := listed <;>
    · cases named
      decide
  have decides (seconds : Int) := (skewed seconds).validate_decides lasting none last current
    (regular "exp" (by simp)) (regular "iat" (by simp))
  have accepted : (skewed 1).validate lasting none last = .ok () := by rfl
  refine ⟨current, accepted, (decides 1).1.mp accepted, ((decides (-1)).2 .expiration).mp ?_⟩
  exact ⟨.expired ⟨Instant.lastSecond, 0⟩ last, by rfl, rfl⟩

end Sample

end Validator

end RelyingParty
