import RelyingParty.Proofs.Claims.NormalForm
import RelyingParty.Proofs.Json.Ordered
import RelyingParty.Proofs.Time.Conversion

set_option autoImplicit false

namespace RelyingParty

namespace Claims

def Held (claims : Claims) : Prop :=
  ∀ name number, claims.get? name = some (.number number) -> number.Held

theorem ofPayload_held (payload : Bytes) (claims : Claims)
    (read : ofPayload payload = .ok claims) : claims.Held := by
  intro name number given
  obtain ⟨written, values, document, found, members⟩ := ofPayload_success payload claims read
  rw [get?, members, Json.Members.ordered_get? _ (Json.Members.ofList_ordered _)] at given
  have stated := Json.Tree.members?_number 1 written values found name number
    (Json.Members.ofList_mem _ _ given)
  cases Json.Tree.ofBytes?_held payload _ document with
  | object _ held =>
    cases held _ stated with
    | number _ held => exact held number rfl

/-- A claim names a point in time just if it is a number that the calendar reaches, and a reader of
checked claims finds the same one. -/
structure Dated (claims : Claims) (name : String) : Prop where
  reached : ∀ number, claims.get? name = some (.number number) ->
    ((∃ instant, claims.timestamp? name = some instant) ↔
      -8334601228800 ≤ number.toRat.floor ∧ number.toRat.floor ≤ 8210266876799)
  converts : ∀ number instant, claims.get? name = some (.number number) ->
    claims.timestamp? name = some instant -> Instant.Converts number instant
  other : (∀ number, claims.get? name ≠ some (.number number)) -> claims.timestamp? name = none
  required : ∀ instant, IdToken.claim? claims name instantOf? = .ok (some instant) ↔
    claims.timestamp? name = some instant
  optional : ∀ instant,
    IdToken.claim? claims name (IdToken.nullable instantOf?) = .ok (some (some instant)) ↔
      claims.timestamp? name = some instant

theorem timestamp?_given (claims : Claims) (name : String) (number : Json.Number)
    (given : claims.get? name = some (.number number)) :
    claims.timestamp? name = Instant.ofNumber? number := by
  rw [timestamp?, given]
  rfl

theorem required_timestamp (claims : Claims) (name : String) (instant : Instant) :
    IdToken.claim? claims name instantOf? = .ok (some instant) ↔
      claims.timestamp? name = some instant :=
  ⟨IdToken.claim?_value claims name instantOf? instant,
    IdToken.claim?_given claims name instantOf? instant⟩

theorem optional_timestamp (claims : Claims) (name : String) (instant : Instant) :
    IdToken.claim? claims name (IdToken.nullable instantOf?) = .ok (some (some instant)) ↔
      claims.timestamp? name = some instant := by
  constructor
  next =>
    intro read
    exact (IdToken.nullable_value claims name instantOf? rfl _ read).symm
  next =>
    intro named
    obtain ⟨number, given, converted⟩ := claims.timestamp?_number name instant named
    refine IdToken.claim?_given claims name _ (some instant) ?_
    rw [given]
    exact congrArg (Option.map some) converted

theorem Held.dated {claims : Claims} (held : claims.Held) (name : String) : Dated claims name := by
  constructor
  case reached =>
    intro number given
    rw [claims.timestamp?_given name number given]
    exact Instant.ofNumber?_reached number (held name number given)
  case converts =>
    intro number instant given named
    rw [claims.timestamp?_given name number given] at named
    exact Instant.ofNumber?_converts number (held name number given) instant named
  case other =>
    intro noNumber
    by_contra named
    obtain ⟨instant, named⟩ := Option.ne_none_iff_exists'.mp named
    obtain ⟨number, given, _⟩ := claims.timestamp?_number name instant named
    exact noNumber number given
  case required => exact claims.required_timestamp name
  case optional => exact claims.optional_timestamp name

theorem timestamp?_monotone (left right : Claims) (leftName rightName : String)
    (leftNumber rightNumber : Json.Number) (earlier later : Instant)
    (leftGiven : left.get? leftName = some (.number leftNumber))
    (rightGiven : right.get? rightName = some (.number rightNumber))
    (le : leftNumber.toRat ≤ rightNumber.toRat)
    (leftNamed : left.timestamp? leftName = some earlier)
    (rightNamed : right.timestamp? rightName = some later) : later.before earlier = false := by
  rw [left.timestamp?_given leftName leftNumber leftGiven] at leftNamed
  rw [right.timestamp?_given rightName rightNumber rightGiven] at rightNamed
  exact Instant.ofNumber?_monotone leftNumber rightNumber earlier later le leftNamed rightNamed

theorem timestamps_exact :
    (∀ payload claims, ofPayload payload = .ok claims -> claims.Held) ∧
    (∀ claims : Claims, claims.Held -> ∀ name, claims.Dated name) ∧
    (∀ (left right : Claims) (leftName rightName : String) (leftNumber rightNumber : Json.Number)
      (earlier later : Instant), left.get? leftName = some (.number leftNumber) ->
        right.get? rightName = some (.number rightNumber) ->
        leftNumber.toRat ≤ rightNumber.toRat -> left.timestamp? leftName = some earlier ->
        right.timestamp? rightName = some later -> later.before earlier = false) ∧
    ∀ claims token, IdToken.ofClaims claims = .ok token ->
      claims.timestamp? "exp" = some token.expiration ∧
      claims.timestamp? "iat" = some token.issueTime ∧
      claims.timestamp? "auth_time" = token.authTime := by
  refine ⟨ofPayload_held, fun claims held name => held.dated name, timestamp?_monotone,
    fun claims token read => ?_⟩
  have required := IdToken.ofClaims_reads claims token read
  obtain ⟨_, same⟩ := IdToken.ofClaims_success required token read
  exact ⟨required.expiration, required.issueTime, by rw [same]⟩

end Claims

namespace Sample

/-- Claims of a token that was issued just before 1970, so little that the second is filled. -/
def edgePayload : Bytes := Bytes.ofText
  "\x7b\"exp\":0,\"iat\":-1e-17,\"nbf\":9223372036854775808\x7d"

theorem edge_timestamps :
    ∃ claims issued expires, Claims.ofPayload edgePayload = .ok claims ∧
      claims.get? "iat" = some (.number issued) ∧ claims.get? "exp" = some (.number expires) ∧
      Instant.Converts issued ⟨-1, 1000000000⟩ ∧ Instant.Converts expires ⟨0, 0⟩ ∧
      issued.toRat ≤ expires.toRat ∧
      Instant.before ⟨0, 0⟩ ⟨-1, 1000000000⟩ = false ∧ claims.timestamp? "nbf" = none := by
  have named : (Claims.ofPayload edgePayload).toOption.map (fun claims =>
      (claims.timestamp? "iat", claims.timestamp? "exp", claims.timestamp? "nbf")) =
        some (some ⟨-1, 1000000000⟩, some ⟨0, 0⟩, none) := by decide +kernel
  obtain ⟨claims, parsed, named⟩ := (toOption_map_success _ _ _).mp named
  simp only [Prod.mk.injEq] at named
  obtain ⟨issuedNamed, expiresNamed, refused⟩ := named
  obtain ⟨issued, issuedGiven, _⟩ := claims.timestamp?_number _ _ issuedNamed
  obtain ⟨expires, expiresGiven, _⟩ := claims.timestamp?_number _ _ expiresNamed
  obtain ⟨read, dated, monotone, _⟩ := Claims.timestamps_exact
  have dated := dated claims (read edgePayload claims parsed)
  have issuedConverts := (dated "iat").converts issued _ issuedGiven issuedNamed
  have expiresConverts := (dated "exp").converts expires _ expiresGiven expiresNamed
  have le : issued.toRat ≤ expires.toRat := by
    -- Only a time before 1970 can fill its second.
    have negative := (issuedConverts.full.mp rfl).2
    have whole : (0 : ℤ) ≤ expires.toRat.floor := expiresConverts.seconds.le
    have nonneg := Rat.le_floor_iff.mp whole
    exact negative.le.trans nonneg
  exact ⟨claims, issued, expires, parsed, issuedGiven, expiresGiven, issuedConverts,
    expiresConverts, le,
    monotone claims claims "iat" "exp" issued expires _ _ issuedGiven expiresGiven le issuedNamed
      expiresNamed, refused⟩

end Sample

end RelyingParty
