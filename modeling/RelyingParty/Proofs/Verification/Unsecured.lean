import RelyingParty.Proofs.Verification.Authenticity

set_option autoImplicit false

namespace RelyingParty

def Run.Unasked (before after : Run) : Prop :=
  after.session = before.session ∧ after.questions = before.questions

theorem Run.unasked_record (before after : Run) (event : Event) (unasked : before.Unasked after)
    (other : event.isQuestion = false) : before.Unasked ((Run.record event).run after).2 := by
  obtain ⟨session, questions⟩ := unasked
  refine ⟨session, ?_⟩
  change (after.events ++ [event]).filter Event.isQuestion = _
  simpa [Run.questions, other] using questions

namespace Verifier

variable (verifier : Verifier) (text : String) (nonce : Option String) (now : Instant) (run : Run)

theorem checkClaims_unasked (claims : Claims) :
    run.Unasked ((verifier.checkClaims claims nonce now).run run).2 := by
  have begun : run.Unasked run := ⟨rfl, rfl⟩
  have context := run.unasked_record run (.authContext (claims.string? "acr")) begun rfl
  have time := run.unasked_record _ (.authTime (claims.timestamp? "auth_time")) context rfl
  unfold checkClaims
  cases verifier.validator.validate claims nonce now with
  | error fault => exact begun
  | ok accepted =>
    cases accepted
    dsimp only
    cases verifier.authContext (claims.string? "acr") with
    | error reason => exact context
    | ok accepted => exact time

theorem verifyContent_unasked (payload : Bytes) :
    run.Unasked ((verifier.verifyContent payload nonce now).run run).2 := by
  cases parsed : Claims.ofPayload payload with
  | error fault =>
    unfold verifyContent
    rw [parsed]
    exact ⟨rfl, rfl⟩
  | ok claims =>
    rw [verifyContent_later verifier payload nonce now run parsed]
    exact verifier.checkClaims_unasked nonce now run claims

theorem payload_unasked (token : Token) (unsigned : verifier.signature = none) :
    ∃ outcome, (verifier.payload token).run run = (outcome, run) := by
  cases token with
  | unsecured content => exact ⟨_, rfl⟩
  | signed token =>
    rw [payload_signed, signedPayload_unconfigured verifier run token unsigned]
    exact ⟨_, rfl⟩
  | encrypted token => exact ⟨_, encryptedPayload_unconfigured verifier run token (.inr unsigned)⟩

theorem verify_unasked (unsigned : verifier.signature = none) :
    run.Unasked ((verifier.verify text nonce now).run run).2 := by
  unfold verify
  cases Token.ofText text with
  | error fault => exact ⟨rfl, rfl⟩
  | ok token =>
    obtain ⟨outcome, paid⟩ := verifier.payload_unasked run token unsigned
    dsimp only
    rw [StateT.run_bind, paid]
    cases outcome with
    | error fault => exact ⟨rfl, rfl⟩
    | ok payload => exact verifier.verifyContent_unasked nonce now run payload

def Refused (outcome : Except VerificationFault IdToken) (kind : ProtectionFault.Kind) : Prop :=
  ∃ fault : ProtectionFault, outcome = .error (.protection fault) ∧ fault.kind = kind

theorem verify_fault (token : Token) (fault : VerificationFault)
    (read : Token.ofText text = .ok token)
    (failed : ((verifier.payload token).run run).1 = .error fault) :
    ((verifier.verify text nonce now).run run).1 = .error fault := by
  rw [verify_outcome, read]
  change ((verifier.payload token).run run).1 >>= _ = _
  rw [failed]
  rfl

theorem Refused.not_accepted {outcome : Except VerificationFault IdToken}
    {kind : ProtectionFault.Kind} (refused : Refused outcome kind) (token : IdToken) :
    outcome ≠ .ok token := by
  obtain ⟨fault, rfl, _⟩ := refused
  simp

structure AcceptsUnsecured : Prop where
  reached : reachesClaims ((verifier.verify text nonce now).run run).1 = true ->
    ∃ headerText payloadText, Token.segments text = [headerText, payloadText, ""] ∧
      Header.Declares headerText "none"
  signed : ∀ token, Token.ofText text = .ok (.signed token) ->
    Refused ((verifier.verify text nonce now).run run).1 .verificationNotConfigured
  encrypted : ∀ token, Token.ofText text = .ok (.encrypted token) ->
    Refused ((verifier.verify text nonce now).run run).1
      (if verifier.decryption.isNone then .decryptionNotConfigured else .verificationNotConfigured)
  unasked : run.Unasked ((verifier.verify text nonce now).run run).2

theorem verify_unsigned (unsigned : verifier.signature = none) :
    AcceptsUnsecured verifier text nonce now run := by
  have signed (token : SignedToken) :
      ((verifier.payload (.signed token)).run run).1 =
        .error (.protection .verificationNotConfigured) := by
    rw [payload_signed, signedPayload_unconfigured verifier run token unsigned]
    rfl
  constructor
  case reached =>
    intro reached
    obtain ⟨token, payload, read, paid, _⟩ := verifier.verify_reaches text nonce now run reached
    cases Token.ofText_reads text token read with
    | unsecured reads => exact ⟨_, _, reads.cut, reads.declares⟩
    | @signed _ _ _ token _ =>
      rw [signed token] at paid
      cases paid
    | @encrypted _ _ _ _ _ token _ =>
      rw [encryptedPayload_unconfigured verifier run token (.inr unsigned)] at paid
      cases paid
  case signed =>
    intro token read
    exact ⟨_, verifier.verify_fault text nonce now run _ _ read (signed token), rfl⟩
  case encrypted =>
    intro token read
    have refused := encryptedPayload_unconfigured verifier run token (.inr unsigned)
    refine ⟨_, verifier.verify_fault text nonce now run _ _ read (by rw [refused]), ?_⟩
    split <;> rfl
  case unasked => exact verifier.verify_unasked text nonce now run unsigned

/-- An outcome that no claims come from, and that asks for a signature if a text is a token. -/
def WantsSignature (outcome : Except VerificationFault IdToken) (text : String) : Prop :=
  (∀ token, outcome ≠ .ok token) ∧
    ∀ token, Token.ofText text = .ok token -> Refused outcome .signatureRequired

structure RefusesNone : Prop where
  outer : Token.Declares text "none" ->
    WantsSignature ((verifier.verify text nonce now).run run).1 text
  inner : ∀ decrypter token content inner, verifier.decryption = some decrypter ->
    Token.ofText text = .ok (.encrypted token) ->
    ((decrypter.decrypt token).run run).1 = .ok content -> Bytes.text? content = some inner ->
    Token.Declares inner "none" -> WantsSignature ((verifier.verify text nonce now).run run).1 inner

theorem verify_none (selector : SignatureSelector Signing)
    (configured : verifier.signature = some selector) (declares : Token.Declares text "none") :
    WantsSignature ((verifier.verify text nonce now).run run).1 text := by
  cases read : Token.ofText text with
  | error fault =>
    refine ⟨fun token => ?_, fun token found => by cases found.symm.trans read⟩
    rw [verify_outcome, read]
    exact nofun
  | ok token =>
    -- A text that declares the name can only be read as an unsecured token.
    obtain ⟨content, rfl⟩ := Token.declares_none text token declares read
    have refused : Refused ((verifier.verify text nonce now).run run).1 .signatureRequired := by
      refine ⟨.unsecured, verifier.verify_fault text nonce now run _ _ read ?_, rfl⟩
      rw [payload_unsecured verifier run content selector configured]
    exact ⟨refused.not_accepted, fun _ _ => refused⟩

theorem verify_inner_none (selector : SignatureSelector Signing)
    (configured : verifier.signature = some selector) (decrypter : DecryptionSelector Signing)
    (decrypts : verifier.decryption = some decrypter) (token : EncryptedToken) (content : Bytes)
    (inner : String) (read : Token.ofText text = .ok (.encrypted token))
    (decrypted : ((decrypter.decrypt token).run run).1 = .ok content)
    (plain : Bytes.text? content = some inner) (declares : Token.Declares inner "none") :
    WantsSignature ((verifier.verify text nonce now).run run).1 inner := by
  have opened : ∃ later, ((verifier.payload (.encrypted token)).run run).1 =
      ((verifier.contentPayload content).run later).1 := by
    rw [encryptedPayload_configured verifier run token decrypter selector decrypts configured]
    rcases answer : (decrypter.decrypt token).run run with ⟨outcome, later⟩
    rw [answer] at decrypted
    cases decrypted
    exact ⟨later, rfl⟩
  obtain ⟨later, opened⟩ := opened
  -- What is left depends on the shape of the inner text alone, and asks no source.
  unfold contentPayload at opened
  rw [plain] at opened
  cases readInner : Token.ofText inner with
  | error fault =>
    simp only [readInner] at opened
    have outcome := verifier.verify_fault text nonce now run _ _ read opened
    refine ⟨fun token => ?_, fun token found => by cases found.symm.trans readInner⟩
    rw [outcome]
    exact nofun
  | ok token =>
    obtain ⟨payload, rfl⟩ := Token.declares_none inner token declares readInner
    simp only [readInner] at opened
    have refused : Refused ((verifier.verify text nonce now).run run).1 .signatureRequired :=
      ⟨.unsecuredContent, verifier.verify_fault text nonce now run _ _ read opened, rfl⟩
    exact ⟨refused.not_accepted, fun _ _ => refused⟩

theorem verify_selector_none (selector : SignatureSelector Signing)
    (configured : verifier.signature = some selector) (expects : selector.algorithm = .unsecured)
    (token : IdToken) : ((verifier.verify text nonce now).run run).1 ≠ .ok token := by
  intro accepted
  have reached : reachesClaims ((verifier.verify text nonce now).run run).1 = true := by
    rw [accepted]
    rfl
  obtain ⟨found, payload, read, paid, _⟩ := verifier.verify_reaches text nonce now run reached
  obtain ⟨inner, session, attestation, _, _⟩ :=
    verifier.payload_carried selector configured text found run payload read paid
  -- A signed token never has this algorithm, whatever its header says.
  exact attestation.reads.declares.2 (attestation.expected.trans expects)

theorem unsecured_opt_in :
    (verifier.signature = none -> AcceptsUnsecured verifier text nonce now run) ∧
      ∀ selector, verifier.signature = some selector ->
        RefusesNone verifier text nonce now run ∧
          (selector.algorithm = .unsecured ->
            ∀ token, ((verifier.verify text nonce now).run run).1 ≠ .ok token) := by
  refine ⟨verifier.verify_unsigned text nonce now run, fun selector configured => ⟨⟨?_, ?_⟩, ?_⟩⟩
  · exact verifier.verify_none text nonce now run selector configured
  · intro decrypter token content inner decrypts read decrypted plain declares
    exact verifier.verify_inner_none text nonce now run selector configured decrypter decrypts token
      content inner read decrypted plain declares
  · exact verifier.verify_selector_none text nonce now run selector configured

end Verifier

namespace Sample

def unsecuredText : String := "eyJhbGciOiJub25lIn0.e30."

def noneVerifier : Verifier := .ofSource issuer "rp-123" .unsecured (ClientSecret.source "hmac key")

theorem unsecured_refused :
    Verifier.reachesClaims ((openVerifier.verify unsecuredText none now).run run).1 = true ∧
      Token.Declares unsecuredText "none" ∧
      Verifier.Refused ((verifier.verify unsecuredText none now).run run).1 .signatureRequired ∧
      ∀ token, ((noneVerifier.verify unsecuredText none now).run run).1 ≠ .ok token := by
  have reached : Verifier.reachesClaims ((openVerifier.verify unsecuredText none now).run run).1 =
      true := by
    decide +kernel
  have reads : (Token.ofText unsecuredText).toOption.isSome = true := by decide +kernel
  obtain ⟨accepts, _⟩ := openVerifier.unsecured_opt_in unsecuredText none now run
  obtain ⟨_, refuses⟩ := verifier.unsecured_opt_in unsecuredText none now run
  obtain ⟨_, others⟩ := noneVerifier.unsecured_opt_in unsecuredText none now run
  obtain ⟨headerText, payloadText, cut, named⟩ := (accepts rfl).reached reached
  have declares : Token.Declares unsecuredText "none" := ⟨_, _, cut, named⟩
  refine ⟨reached, declares, ?_, (others _ rfl).2 rfl⟩
  cases read : Token.ofText unsecuredText with
  | error fault =>
    rw [read] at reads
    cases reads
  | ok token => exact ((refuses selector rfl).1.outer declares).2 token read

end Sample

end RelyingParty
