import RelyingParty.Claims.IdToken
import RelyingParty.Proofs.Checked

set_option autoImplicit false

namespace RelyingParty.IdToken

variable {A : Type} (claims : Claims) (name : String)

def LeftOut : Prop := claims.get? name = none ∨ claims.get? name = some .null

def Readable (read : Json -> Option A) : Prop :=
  LeftOut claims name ∨ ∃ value, (claims.get? name).bind read = some value

theorem claim?_given (read : Json -> Option A) (value : A)
    (given : (claims.get? name).bind read = some value) :
    claim? claims name read = .ok (some value) := by
  obtain ⟨json, found, readValue⟩ := Option.bind_eq_some_iff.mp given
  simp [claim?, found, readValue]

theorem nullable_other (read : Json -> Option A) (json : Json) (other : json ≠ .null) :
    nullable read json = (read json).map some := by
  cases json with
  | null => exact absurd rfl other
  | bool _ | number _ | string _ | array _ | object _ => rfl

theorem nullable_readable (read : Json -> Option A) :
    (∃ value, claim? claims name (nullable read) = .ok value) ↔ Readable claims name read := by
  unfold claim? Readable LeftOut
  cases found : claims.get? name with
  | none => simp
  | some json =>
    dsimp only
    rw [orFault_available]
    by_cases null : json = .null
    · simp [null, nullable]
    · simp [null, nullable_other read json null, Option.isSome_iff_exists]

theorem nullable_value (read : Json -> Option A) (noNull : read .null = none)
    (value : Option (Option A))
    (success : claim? claims name (nullable read) = .ok value) :
    value.join = (claims.get? name).bind read := by
  unfold claim? at success
  cases found : claims.get? name with
  | none =>
    simp only [found] at success
    cases success
    rfl
  | some json =>
    simp only [found, map_success, orFault_success] at success
    obtain ⟨result, readJson, rfl⟩ := success
    by_cases null : json = .null
    · subst null
      cases readJson
      exact noNull.symm
    · rw [nullable_other read json null] at readJson
      obtain ⟨text, given, rfl⟩ := Option.map_eq_some_iff.mp readJson
      exact given.symm

theorem nullable_fault (read : Json -> Option A) (fault : Fault)
    (failed : claim? claims name (nullable read) = .error fault) :
    ¬ Readable claims name read ∧ fault = .malformed name := by
  constructor
  · rw [← nullable_readable, failed]
    simp
  · unfold claim? at failed
    split at failed
    next => cases failed
    next =>
      simp only [map_failure, orFault_failure] at failed
      exact failed.2.symm

theorem listFrom_success (position : Nat) (items : List Json) (texts : List String) :
    listFrom name position items = .ok texts ↔ items.mapM Json.string? = some texts := by
  induction items generalizing position texts with
  | nil => simp [listFrom]
  | cons item rest ih =>
    unfold listFrom
    simp only [bind_success, orFault_success, ih, return_success, List.mapM_cons]
    simp [Option.bind_eq_some_iff]

theorem listFrom_fault (position : Nat) (items : List Json) (fault : Fault)
    (failed : listFrom name position items = .error fault) :
    ∃ offset item, items[offset]? = some item ∧ item.string? = none ∧
      fault = .malformed s!"{name}[{position + offset}]" := by
  induction items generalizing position with
  | nil => cases failed
  | cons item rest ih =>
    obtain failed | ⟨text, _, failed⟩ := (bind_failure _ _ _).mp failed
    · obtain ⟨other, rfl⟩ := (orFault_failure _ _ _).mp failed
      exact ⟨0, item, rfl, other, rfl⟩
    · obtain failed | ⟨texts, _, returned⟩ := (bind_failure _ _ _).mp failed
      · obtain ⟨offset, found, given, other, rfl⟩ := ih (position + 1) failed
        exact ⟨offset + 1, found, by simpa using given, other, by rw [Nat.add_right_comm]; rfl⟩
      · cases returned

theorem string?_some (json : Json) (text : String) :
    json.string? = some text ↔ json = .string text := by
  cases json <;> simp [Json.string?]

theorem mapM_string? (items : List Json) (texts : List String) :
    items.mapM Json.string? = some texts ↔ items = texts.map .string := by
  induction items generalizing texts with
  | nil => cases texts <;> simp
  | cons item rest ih =>
    cases texts <;> simp [List.mapM_cons, Option.bind_eq_some_iff, string?_some, ih]

theorem strings?_some (json : Json) (texts : List String) :
    json.strings? = some texts ↔ json = .array (texts.map .string) := by
  cases json <;> simp [Json.strings?, mapM_string?]

theorem listOrSingle?_audiences (json : Json) :
    listOrSingle? Json.string? json = Claims.audiencesOf? json := by
  cases json with
  | array items =>
    -- A list that is refused is not read as a single text either.
    cases read : items.mapM Json.string? <;>
      simp [listOrSingle?, items?, Claims.audiencesOf?, Json.strings?, Json.string?, read]
  | null | bool _ | number _ | string _ | object _ => rfl

theorem listOrSingle?_claim (claims : Claims) :
    (claims.get? "aud").bind (listOrSingle? Json.string?) = claims.audiences? := by
  rw [funext listOrSingle?_audiences]
  rfl

theorem strings?_value (value : Option (List String)) (success : strings? claims name = .ok value) :
    value = (claims.get? name).bind Json.strings? := by
  unfold strings? at success
  split at success
  next absent =>
    cases success
    simp [absent]
  next null =>
    cases success
    simp [null, Json.strings?]
  next items given =>
    obtain ⟨texts, read, rfl⟩ := (map_success _ _ _).mp success
    simpa [given, Json.strings?] using ((listFrom_success name 0 items texts).mp read).symm
  next => cases success

theorem strings?_readable :
    (∃ value, strings? claims name = .ok value) ↔ Readable claims name Json.strings? := by
  unfold strings? Readable LeftOut
  split
  next absent => simp [absent]
  next null => simp [null]
  next items given =>
    simp only [map_success, listFrom_success]
    rw [exists_comm]
    simp [given, Json.strings?]
  next value notNull notArray given =>
    cases value with
    | null => exact absurd rfl notNull
    | array items => exact absurd rfl (notArray items)
    | bool _ | number _ | string _ | object _ => simp [given, Json.strings?]

/-- The path at which a list of strings is of the wrong shape. -/
inductive NoStrings : String -> Prop
  | list (unreadable : ¬ Readable claims name Json.strings?) : NoStrings name
  | item {items : List Json} {position : Nat} {item : Json}
      (given : claims.get? name = some (.array items)) (found : items[position]? = some item)
      (other : item.string? = none) : NoStrings s!"{name}[{position}]"

theorem strings?_fault (fault : Fault) (failed : strings? claims name = .error fault) :
    ∃ path, fault = .malformed path ∧ NoStrings claims name path := by
  have unreadable : ¬ Readable claims name Json.strings? := by
    rw [← strings?_readable, failed]
    simp
  unfold strings? at failed
  split at failed
  next => cases failed
  next => cases failed
  next items given =>
    obtain ⟨offset, item, found, other, rfl⟩ :=
      listFrom_fault name 0 items fault ((map_failure _ _ _).mp failed)
    rw [Nat.zero_add]
    exact ⟨_, rfl, .item given found other⟩
  next =>
    cases failed
    exact ⟨name, rfl, .list unreadable⟩

structure Required (issuer : UrlText) (subject : String) (audiences : List String)
    (expiration issueTime : Instant) : Prop where
  issuer : (claims.get? "iss").bind (fun value => UrlText.ofTree? value.toTree) = some issuer
  subject : claims.string? "sub" = some subject
  audiences : claims.audiences? = some audiences
  expiration : claims.timestamp? "exp" = some expiration
  issueTime : claims.timestamp? "iat" = some issueTime

structure Shaped : Prop where
  authContext : LeftOut claims "acr" ∨ ∃ text, claims.get? "acr" = some (.string text)
  authMethods : LeftOut claims "amr" ∨
    ∃ texts : List String, claims.get? "amr" = some (.array (texts.map .string))
  authTime : LeftOut claims "auth_time" ∨ ∃ time, claims.timestamp? "auth_time" = some time
  authorizedParty : LeftOut claims "azp" ∨ ∃ text, claims.get? "azp" = some (.string text)
  nonce : LeftOut claims "nonce" ∨ ∃ text, claims.get? "nonce" = some (.string text)

theorem readable_text :
    Readable claims name Json.string? ↔
      LeftOut claims name ∨ ∃ text, claims.get? name = some (.string text) := by
  simp [Readable, Option.bind_eq_some_iff, string?_some]

theorem readable_texts :
    Readable claims name Json.strings? ↔
      LeftOut claims name ∨
        ∃ texts : List String, claims.get? name = some (.array (texts.map .string)) := by
  simp [Readable, Option.bind_eq_some_iff, strings?_some]

inductive Misshapen : String -> Prop
  | text {name : String} (known : name ∈ ["acr", "azp", "nonce"])
      (unreadable : ¬ Readable claims name Json.string?) : Misshapen name
  | time (unreadable : ¬ Readable claims "auth_time" Claims.instantOf?) : Misshapen "auth_time"
  | strings {path : String} (wrong : NoStrings claims "amr" path) : Misshapen path

section Required

variable {claims} {issuer : UrlText} {subject : String} {audiences : List String}
  {expiration issueTime : Instant}
  (required : Required claims issuer subject audiences expiration issueTime)

include required

theorem ofClaims_required :
    ofClaims claims = (do
      let authContext ← claim? claims "acr" (nullable Json.string?)
      let authMethods ← strings? claims "amr"
      let authTime ← claim? claims "auth_time" (nullable Claims.instantOf?)
      let authorizedParty ← claim? claims "azp" (nullable Json.string?)
      let nonce ← claim? claims "nonce" (nullable Json.string?)
      return {
        issuer, subject, audiences, expiration, issueTime
        authTime := authTime.join
        nonce := nonce.join
        authContext := authContext.join
        authMethods
        authorizedParty := authorizedParty.join
        additional := claims.members.without fieldNames }) := by
  unfold ofClaims
  have audiencesRead := (listOrSingle?_claim claims).trans required.audiences
  rw [claim?_given claims "aud" _ audiences audiencesRead,
    claim?_given claims "exp" _ expiration required.expiration,
    claim?_given claims "iat" _ issueTime required.issueTime,
    claim?_given claims "iss" _ issuer required.issuer,
    claim?_given claims "sub" _ subject required.subject]
  rfl

theorem ofClaims_success (token : IdToken) (read : ofClaims claims = .ok token) :
    Shaped claims ∧ token = {
      issuer, subject, audiences, expiration, issueTime
      authTime := claims.timestamp? "auth_time"
      nonce := claims.string? "nonce"
      authContext := claims.string? "acr"
      authMethods := (claims.get? "amr").bind Json.strings?
      authorizedParty := claims.string? "azp"
      additional := claims.members.without fieldNames } := by
  rw [ofClaims_required required] at read
  obtain ⟨authContext, contextRead, read⟩ := (bind_success _ _ _).mp read
  obtain ⟨authMethods, methodsRead, read⟩ := (bind_success _ _ _).mp read
  obtain ⟨authTime, timeRead, read⟩ := (bind_success _ _ _).mp read
  obtain ⟨authorizedParty, partyRead, read⟩ := (bind_success _ _ _).mp read
  obtain ⟨nonce, nonceRead, returned⟩ := (bind_success _ _ _).mp read
  constructor
  · exact ⟨(readable_text _ _).mp ((nullable_readable _ _ _).mp ⟨_, contextRead⟩),
      (readable_texts _ _).mp ((strings?_readable _ _).mp ⟨_, methodsRead⟩),
      (nullable_readable _ _ _).mp ⟨_, timeRead⟩,
      (readable_text _ _).mp ((nullable_readable _ _ _).mp ⟨_, partyRead⟩),
      (readable_text _ _).mp ((nullable_readable _ _ _).mp ⟨_, nonceRead⟩)⟩
  · -- Each claim is read as what the checks take it for.
    cases returned
    rw [nullable_value _ _ _ rfl _ contextRead, strings?_value _ _ _ methodsRead,
      nullable_value _ _ _ rfl _ timeRead, nullable_value _ _ _ rfl _ partyRead,
      nullable_value _ _ _ rfl _ nonceRead]
    rfl

theorem ofClaims_shaped (shaped : Shaped claims) : ∃ token, ofClaims claims = .ok token := by
  obtain ⟨authContext, contextRead⟩ :=
    (nullable_readable _ _ _).mpr ((readable_text claims "acr").mpr shaped.authContext)
  obtain ⟨authMethods, methodsRead⟩ :=
    (strings?_readable _ _).mpr ((readable_texts claims "amr").mpr shaped.authMethods)
  obtain ⟨authTime, timeRead⟩ :=
    (nullable_readable claims "auth_time" Claims.instantOf?).mpr shaped.authTime
  obtain ⟨authorizedParty, partyRead⟩ :=
    (nullable_readable _ _ _).mpr ((readable_text claims "azp").mpr shaped.authorizedParty)
  obtain ⟨nonce, nonceRead⟩ :=
    (nullable_readable _ _ _).mpr ((readable_text claims "nonce").mpr shaped.nonce)
  rw [ofClaims_required required, contextRead, methodsRead, timeRead, partyRead, nonceRead]
  exact ⟨_, rfl⟩

theorem ofClaims_fault (fault : Fault) (failed : ofClaims claims = .error fault) :
    ∃ path, fault = .malformed path ∧ Misshapen claims path := by
  rw [ofClaims_required required] at failed
  -- Only the claims that may be left out are still to be read, in the order of their names.
  have text (name : String) (known : name ∈ ["acr", "azp", "nonce"])
      (failed : claim? claims name (nullable Json.string?) = .error fault) :
      ∃ path, fault = .malformed path ∧ Misshapen claims path := by
    obtain ⟨unreadable, rfl⟩ := nullable_fault claims name Json.string? fault failed
    exact ⟨name, rfl, .text known unreadable⟩
  obtain failed | ⟨_, _, failed⟩ := (bind_failure _ _ _).mp failed
  · exact text "acr" (by simp) failed
  obtain failed | ⟨_, _, failed⟩ := (bind_failure _ _ _).mp failed
  · obtain ⟨path, rfl, wrong⟩ := strings?_fault claims "amr" fault failed
    exact ⟨path, rfl, .strings wrong⟩
  obtain failed | ⟨_, _, failed⟩ := (bind_failure _ _ _).mp failed
  · obtain ⟨unreadable, rfl⟩ := nullable_fault claims "auth_time" Claims.instantOf? fault failed
    exact ⟨"auth_time", rfl, .time unreadable⟩
  obtain failed | ⟨_, _, failed⟩ := (bind_failure _ _ _).mp failed
  · exact text "azp" (by simp) failed
  obtain failed | ⟨_, _, returned⟩ := (bind_failure _ _ _).mp failed
  · exact text "nonce" (by simp) failed
  · cases returned

end Required

end RelyingParty.IdToken
