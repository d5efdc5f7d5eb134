import RelyingParty.Proofs.Claims.Agreement
import RelyingParty.Proofs.Json.Document
import RelyingParty.Proofs.Time.Conversion

set_option autoImplicit false

namespace RelyingParty

def Json.Number.floor : Json.Number -> Int
  | .int value => value
  | .float value => value.toRat.floor

def Instant.whole (instant : Instant) : Instant := ⟨instant.seconds, 0⟩

theorem Instant.ofNumber?_floor (number : Json.Number) (instant : Instant)
    (named : ofNumber? number = some instant) : instant.seconds = number.floor := by
  rw [(ofNumber?_made number instant named).1]
  cases number with
  | int value => exact Rat.floor_intCast value
  | float value => rfl

theorem Claims.timestamp?_number (claims : Claims) (name : String) (instant : Instant)
    (named : claims.timestamp? name = some instant) :
    ∃ number, claims.get? name = some (.number number) ∧
      Instant.ofNumber? number = some instant := by
  obtain ⟨value, given, named⟩ := Option.bind_eq_some_iff.mp named
  cases value with
  | number number => exact ⟨number, given, named⟩
  | null | bool _ | string _ | array _ | object _ => cases named

namespace IdToken

def Timely (instant : Instant) : Prop :=
  Instant.firstSecond ≤ instant.seconds ∧ instant.seconds ≤ Instant.lastSecond

theorem instantOf?_secondsJson (instant : Instant) (timely : Timely instant) :
    Claims.instantOf? (secondsJson instant) = some instant.whole := by
  have read : Claims.instantOf? (secondsJson instant) = Instant.of? instant.seconds 0 :=
    Instant.ofNumber?_int instant.seconds
  rw [read]
  exact if_pos ⟨timely.1, timely.2, .inl (by decide)⟩

theorem claim?_value {A : Type} (claims : Claims) (name : String) (read : Json -> Option A)
    (value : A) (success : claim? claims name read = .ok (some value)) :
    (claims.get? name).bind read = some value := by
  unfold claim? at success
  split at success
  next => cases success
  next json given =>
    obtain ⟨_, readJson, made⟩ := (map_success _ _ _).mp success
    cases made
    simpa [given] using (orFault_success _ _ _).mp readJson

theorem ofClaims_reads (claims : Claims) (token : IdToken) (read : ofClaims claims = .ok token) :
    Required claims token.issuer token.subject token.audiences token.expiration
      token.issueTime := by
  obtain ⟨authContext, _, read⟩ := (bind_success _ _ _).mp read
  obtain ⟨authMethods, _, read⟩ := (bind_success _ _ _).mp read
  obtain ⟨audiences, audiencesRead, read⟩ := (bind_success _ _ _).mp read
  obtain ⟨authTime, _, read⟩ := (bind_success _ _ _).mp read
  obtain ⟨authorizedParty, _, read⟩ := (bind_success _ _ _).mp read
  obtain ⟨expiration, expirationRead, read⟩ := (bind_success _ _ _).mp read
  obtain ⟨issueTime, issueTimeRead, read⟩ := (bind_success _ _ _).mp read
  obtain ⟨issuer, issuerRead, read⟩ := (bind_success _ _ _).mp read
  obtain ⟨nonce, _, read⟩ := (bind_success _ _ _).mp read
  obtain ⟨subject, subjectRead, read⟩ := (bind_success _ _ _).mp read
  -- What is still to do is to find the claims that have to be there.
  obtain ⟨_, issuerFound, read⟩ := (orFault_bind_success _ _ _ _).mp read
  obtain ⟨_, subjectFound, read⟩ := (orFault_bind_success _ _ _ _).mp read
  obtain ⟨_, audiencesFound, read⟩ := (orFault_bind_success _ _ _ _).mp read
  obtain ⟨_, expirationFound, read⟩ := (orFault_bind_success _ _ _ _).mp read
  obtain ⟨_, issueTimeFound, returned⟩ := (orFault_bind_success _ _ _ _).mp read
  cases returned
  subst issuerFound subjectFound audiencesFound expirationFound issueTimeFound
  exact ⟨claim?_value _ _ _ _ issuerRead, claim?_value _ _ _ _ subjectRead,
    (listOrSingle?_claim claims).symm.trans (claim?_value _ _ _ _ audiencesRead),
    claim?_value _ _ _ _ expirationRead, claim?_value _ _ _ _ issueTimeRead⟩

def normal (token : IdToken) : IdToken :=
  { token with
    expiration := token.expiration.whole
    issueTime := token.issueTime.whole
    authTime := token.authTime.map Instant.whole }

theorem normal_toJson (token : IdToken) : token.normal.toJson = token.toJson := by
  obtain ⟨issuer, subject, audiences, expiration, issueTime, authTime, _, _, _, _, _⟩ := token
  cases authTime <;> rfl

def ownMembers (token : IdToken) : List (String × Json) :=
  [("iss", token.issuer.toJson), ("sub", .string token.subject),
    ("aud", stringsJson token.audiences), ("exp", secondsJson token.expiration),
    ("iat", secondsJson token.issueTime)] ++
    Json.optionalMember "auth_time" secondsJson token.authTime ++
    Json.optionalMember "nonce" .string token.nonce ++
    Json.optionalMember "acr" .string token.authContext ++
    Json.optionalMember "amr" stringsJson token.authMethods ++
    Json.optionalMember "azp" .string token.authorizedParty

def document (token : IdToken) : Json.Members :=
  Json.Members.ofList (token.ownMembers ++ token.additional)

theorem toJson_document (token : IdToken) : token.toJson = .object token.document := rfl

/-- The document states every claim of a token, and those only. -/
structure States (members : Json.Members) (token : IdToken) : Prop where
  issuer : members.get? "iss" = some token.issuer.toJson
  subject : members.get? "sub" = some (.string token.subject)
  audiences : members.get? "aud" = some (.array (token.audiences.map .string))
  expiration : members.get? "exp" = some (secondsJson token.expiration)
  issueTime : members.get? "iat" = some (secondsJson token.issueTime)
  authTime : members.get? "auth_time" = token.authTime.map secondsJson
  nonce : members.get? "nonce" = token.nonce.map .string
  authContext : members.get? "acr" = token.authContext.map .string
  authMethods : members.get? "amr" = token.authMethods.map stringsJson
  authorizedParty : members.get? "azp" = token.authorizedParty.map .string
  additional : ∀ name, name ∉ fieldNames -> members.get? name = token.additional.get? name

theorem stringsJson_stable (texts : List String) : (stringsJson texts).Stable 1 := by
  refine Json.stable_array 1 _ (by decide) fun item found => ?_
  obtain ⟨text, _, rfl⟩ := List.mem_map.mp found
  exact Json.stable_string _ _

theorem secondsJson_stable (instant : Instant) : (secondsJson instant).Stable 1 := rfl

theorem ownMembers_written (token : IdToken) : Json.Written 1 fieldNames token.ownMembers := by
  have required : Json.Written 1 fieldNames [("iss", token.issuer.toJson),
      ("sub", .string token.subject), ("aud", stringsJson token.audiences),
      ("exp", secondsJson token.expiration), ("iat", secondsJson token.issueTime)] := by
    constructor
    · simp [fieldNames]
    · simp only [List.forall_mem_cons]
      exact ⟨Json.stable_string _ _, Json.stable_string _ _, stringsJson_stable _,
        secondsJson_stable _, secondsJson_stable _, nofun⟩
  exact ((((required.append (.optional (by decide) secondsJson_stable)).append
    (.optional (by decide) fun _ => Json.stable_string _ _)).append
    (.optional (by decide) fun _ => Json.stable_string _ _)).append
    (.optional (by decide) stringsJson_stable)).append
    (.optional (by decide) fun _ => Json.stable_string _ _)

theorem document_states (token : IdToken)
    (additional : Json.Additional fieldNames token.additional) : States token.document token := by
  -- The further claims are written last, but none of them has the name of a field.
  have found (name : String) : token.document.get? name =
      (token.additional.get? name).or ((Json.Members.ofList token.ownMembers).get? name) := by
    rw [document, Json.Members.ofList_append_get?,
      Json.Members.ofList_of_ordered _ additional.ordered]
  have own (name : String) (listed : name ∈ fieldNames) :
      token.document.get? name = (Json.Members.ofList token.ownMembers).get? name := by
    rw [found, additional.get? name listed, Option.none_or]
  simp only [ownMembers, Json.Members.ofList_append_get?, Json.Members.ofList_cons_get?,
    Json.ofList_optionalMember_get?] at own
  constructor
  case additional =>
    intro name other
    rw [found, token.ownMembers_written.absent name other, Option.or_none]
  case issuer => simp [own "iss" (by decide), Json.Members.ofList]
  case subject => simp [own "sub" (by decide), Json.Members.ofList]
  case audiences => simp [own "aud" (by decide), Json.Members.ofList, stringsJson]
  case expiration => simp [own "exp" (by decide), Json.Members.ofList]
  case issueTime => simp [own "iat" (by decide), Json.Members.ofList]
  case authTime => simp [own "auth_time" (by decide), Json.Members.ofList]
  case nonce => simp [own "nonce" (by decide), Json.Members.ofList]
  case authContext => simp [own "acr" (by decide), Json.Members.ofList]
  case authMethods => simp [own "amr" (by decide), Json.Members.ofList]
  case authorizedParty => simp [own "azp" (by decide), Json.Members.ofList]

theorem document_further (token : IdToken)
    (additional : Json.Additional fieldNames token.additional) :
    token.document.without fieldNames = token.additional := by
  rw [← Json.Members.ofList_of_ordered token.document (Json.Members.ofList_ordered _)]
  exact Json.document_additional additional token.ownMembers_written

/-- What the claims of a token were read from, as far as it matters for writing them. -/
structure WellRead (token : IdToken) : Prop where
  issuer : token.issuer.IsRead
  expiration : Timely token.expiration
  issueTime : Timely token.issueTime
  authTime : ∀ time ∈ token.authTime, Timely time
  additional : Json.Additional fieldNames token.additional

theorem leftOut_or_given {A : Type} (claims : Claims) (name : String) (write : A -> Json)
    (value : Option A) (stated : claims.get? name = value.map write) :
    LeftOut claims name ∨ ∃ given, value = some given ∧ claims.get? name = some (write given) := by
  cases value with
  | none => exact .inl (.inl stated)
  | some given => exact .inr ⟨given, rfl, stated⟩

theorem string?_stated (claims : Claims) (name : String) (value : Option String)
    (stated : claims.get? name = value.map .string) : claims.string? name = value := by
  rw [Claims.string?, stated]
  cases value <;> rfl

section States

variable {members : Json.Members} {token : IdToken} (states : States members token)
  (wellRead : token.WellRead)

include states wellRead

theorem States.required : Required ⟨members⟩ token.issuer token.subject token.audiences
    token.expiration.whole token.issueTime.whole where
  issuer := by
    rw [Claims.get?, states.issuer]
    exact wellRead.issuer.ofTree?_toJson
  subject := by
    rw [Claims.string?, Claims.get?, states.subject]
    rfl
  audiences := by
    rw [Claims.audiences?, Claims.get?, states.audiences]
    exact (strings?_some _ _).mpr rfl
  expiration := by
    rw [Claims.timestamp?, Claims.get?, states.expiration]
    exact instantOf?_secondsJson _ wellRead.expiration
  issueTime := by
    rw [Claims.timestamp?, Claims.get?, states.issueTime]
    exact instantOf?_secondsJson _ wellRead.issueTime

theorem States.authTime_read :
    Claims.timestamp? ⟨members⟩ "auth_time" = token.authTime.map Instant.whole := by
  rw [Claims.timestamp?, Claims.get?, states.authTime]
  cases given : token.authTime with
  | none => rfl
  | some time => exact instantOf?_secondsJson time (wellRead.authTime time given)

theorem States.shaped : Shaped ⟨members⟩ := by
  have text (name : String) (value : Option String)
      (stated : Claims.get? ⟨members⟩ name = value.map .string) :=
    (leftOut_or_given ⟨members⟩ name .string value stated).imp_right
      fun ⟨given, _, found⟩ => Exists.intro given found
  constructor
  case authContext => exact text "acr" token.authContext states.authContext
  case authorizedParty => exact text "azp" token.authorizedParty states.authorizedParty
  case nonce => exact text "nonce" token.nonce states.nonce
  case authMethods =>
    obtain leftOut | ⟨methods, _, given⟩ :=
      leftOut_or_given ⟨members⟩ "amr" stringsJson token.authMethods states.authMethods
    · exact .inl leftOut
    · exact .inr ⟨methods, given⟩
  case authTime =>
    obtain leftOut | ⟨time, given, _⟩ :=
      leftOut_or_given ⟨members⟩ "auth_time" secondsJson token.authTime states.authTime
    · exact .inl leftOut
    · exact .inr ⟨time.whole, by rw [states.authTime_read wellRead, given]; rfl⟩

theorem States.ofClaims (further : members.without fieldNames = token.additional) :
    ofClaims ⟨members⟩ = .ok token.normal := by
  have required := states.required wellRead
  obtain ⟨found, read⟩ := ofClaims_shaped required (states.shaped wellRead)
  obtain ⟨_, rfl⟩ := ofClaims_success required found read
  have authMethods : (Claims.get? ⟨members⟩ "amr").bind Json.strings? = token.authMethods := by
    rw [Claims.get?, states.authMethods]
    cases token.authMethods with
    | none => rfl
    | some texts => exact (strings?_some _ texts).mpr rfl
  rw [read, states.authTime_read wellRead, authMethods, further,
    string?_stated ⟨members⟩ "nonce" token.nonce states.nonce,
    string?_stated ⟨members⟩ "acr" token.authContext states.authContext,
    string?_stated ⟨members⟩ "azp" token.authorizedParty states.authorizedParty]
  rfl

end States

theorem Timely.read (claims : Claims) (name : String) (instant : Instant)
    (named : claims.timestamp? name = some instant) : Timely instant := by
  obtain ⟨number, _, named⟩ := claims.timestamp?_number name instant named
  exact Instant.ofNumber?_some number instant named

theorem ofClaims_wellRead (claims : Claims) (token : IdToken) (read : ofClaims claims = .ok token)
    (additional : Json.Additional fieldNames (claims.members.without fieldNames)) :
    WellRead token := by
  have required := ofClaims_reads claims token read
  obtain ⟨_, same⟩ := ofClaims_success required token read
  constructor
  case issuer =>
    obtain ⟨value, _, issuerRead⟩ := Option.bind_eq_some_iff.mp required.issuer
    exact .inr ⟨_, issuerRead⟩
  case expiration => exact .read claims "exp" _ required.expiration
  case issueTime => exact .read claims "iat" _ required.issueTime
  case authTime =>
    intro time given
    rw [same] at given
    exact .read claims "auth_time" time given
  case additional => rwa [same]

theorem secondsJson_floor (claims : Claims) (name : String) (instant : Instant)
    (named : claims.timestamp? name = some instant) (number : Json.Number)
    (given : claims.get? name = some (.number number)) :
    secondsJson instant = .number (.int number.floor) := by
  rw [Claims.timestamp?, given] at named
  rw [secondsJson, Instant.ofNumber?_floor number instant named]

structure Normalizes (claims : Claims) (token : IdToken) : Prop where
  read : ofClaims claims = .ok token
  document : token.toJson = .object token.document
  states : States token.document token
  rounded : ∀ name ∈ ["exp", "iat", "auth_time"], ∀ number,
    claims.get? name = some (.number number) ->
      token.document.get? name = some (.number (.int number.floor))
  unchanged : ∀ name, name ∉ fieldNames -> token.document.get? name = claims.get? name
  converted : ofClaims ⟨token.document⟩ = .ok token.normal
  again : token.normal.toJson = token.toJson

theorem ofClaims_normalizes (claims : Claims) (token : IdToken) (read : ofClaims claims = .ok token)
    (additional : Json.Additional fieldNames (claims.members.without fieldNames)) :
    Normalizes claims token := by
  have wellRead := ofClaims_wellRead claims token read additional
  have states := token.document_states wellRead.additional
  have required := ofClaims_reads claims token read
  obtain ⟨shaped, same⟩ := ofClaims_success required token read
  constructor
  case read => exact read
  case document => exact token.toJson_document
  case states => exact states
  case rounded =>
    intro name listed number given
    obtain rfl | rfl | rfl : name = "exp" ∨ name = "iat" ∨ name = "auth_time" := by
      simpa using listed
    · rw [states.expiration, secondsJson_floor claims _ _ required.expiration number given]
    · rw [states.issueTime, secondsJson_floor claims _ _ required.issueTime number given]
    · obtain (absent | null) | ⟨time, named⟩ := shaped.authTime
      · cases given.symm.trans absent
      · cases given.symm.trans null
      · have authTime : token.authTime = some time := by rw [same, named]
        rw [states.authTime, authTime, Option.map_some,
          secondsJson_floor claims _ _ named number given]
  case unchanged =>
    intro name other
    rw [states.additional name other, same, Json.Members.without_get?, if_neg other]
    rfl
  case converted => exact states.ofClaims wellRead (token.document_further wellRead.additional)
  case again => exact token.normal_toJson

end IdToken

namespace Verifier

variable (verifier : Verifier) (text : String) (nonce : Option String) (now : Instant) (run : Run)

theorem claims_normalized (token : IdToken)
    (returned : ((verifier.verify text nonce now).run run).1 = .ok token) :
    ∃ secured payload claims, Token.ofText text = .ok secured ∧
      ((verifier.payload secured).run run).1 = .ok payload ∧
      Claims.ofPayload payload = .ok claims ∧ IdToken.Normalizes claims token := by
  obtain ⟨secured, payload, read, paid, same⟩ :=
    verifier.verify_reaches text nonce now run (by rw [returned]; rfl)
  rw [returned] at same
  obtain ⟨claims, parsed, _, made⟩ := (verifier.judge_success _ _ _ _).mp same.symm
  refine ⟨secured, payload, claims, read, paid, parsed, ?_⟩
  obtain ⟨written, values, _, found, members⟩ := Claims.ofPayload_success payload claims parsed
  exact IdToken.ofClaims_normalizes claims token made
    (members ▸ Json.Additional.read written values found)

end Verifier

namespace Sample

/-- An unsecured token that was issued half a second before the first second of 1970. -/
def fractionText : String := "eyJhbGciOiJub25lIn0." ++
  "eyJpc3MiOiJ1cm46b3AiLCJzdWIiOiIxIiwiYXVkIjoicnAtMTIzIiwiZXhwIjo5LCJpYXQi" ++
    "Oi0wLjUsIm5vbmNlIjpudWxsLCJ4IjpbXX0."

theorem fraction_normalized :
    ∃ token claims, ((openVerifier.verify fractionText none now).run run).1 = .ok token ∧
      IdToken.Normalizes claims token ∧ token.issueTime = ⟨-1, 500000000⟩ ∧
      token.normal.issueTime = ⟨-1, 0⟩ := by
  have issued : ((openVerifier.verify fractionText none now).run run).1.toOption.map
      IdToken.issueTime = some ⟨-1, 500000000⟩ := by
    decide +kernel
  obtain ⟨token, returned, issueTime⟩ := Option.map_eq_some_iff.mp issued
  have returned := (toOption_success _ _).mp returned
  obtain ⟨_, _, claims, _, _, _, normalizes⟩ :=
    openVerifier.claims_normalized fractionText none now run token returned
  exact ⟨token, claims, returned, normalizes, issueTime, congrArg Instant.whole issueTime⟩

end Sample

end RelyingParty
