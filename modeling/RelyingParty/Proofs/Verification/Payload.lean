import RelyingParty.Proofs.Verification.Selector
import RelyingParty.Verifier

set_option autoImplicit false

namespace RelyingParty

def VerificationFault.inClaims : VerificationFault -> Bool
  | .claim _ | .content _ => true
  | .protection _ | .shape _ => false

namespace Verifier

variable (verifier : Verifier) (run : Run)

theorem signedPayload_unconfigured (token : SignedToken) (absent : verifier.signature = none) :
    (verifier.signedPayload token).run run = (.error .verificationNotConfigured, run) := by
  unfold signedPayload
  rw [absent]
  rfl

theorem signedPayload_configured (token : SignedToken) (selector : SignatureSelector Signing)
    (configured : verifier.signature = some selector) :
    (verifier.signedPayload token).run run =
      let verified := (selector.verify token).run run
      (verified.1.map fun _ => token.payload, verified.2) := by
  unfold signedPayload
  rw [configured]
  simp only [StateT.run_bind]
  rcases (selector.verify token).run run with ⟨_ | _, _⟩ <;> rfl

theorem payload_unsecured (content : Bytes) (selector : SignatureSelector Signing)
    (configured : verifier.signature = some selector) :
    (verifier.payload (.unsecured content)).run run = (.error (.protection .unsecured), run) := by
  change ((verifier.unsecuredPayload content).mapError _, run) = _
  unfold unsecuredPayload
  rw [configured]
  rfl

theorem payload_signed (token : SignedToken) :
    (verifier.payload (.signed token)).run run =
      let signed := (verifier.signedPayload token).run run
      (signed.1.mapError .protection, signed.2) := rfl

def HoldsSigned (content : Bytes) (text : String) (token : SignedToken) : Prop :=
  Bytes.text? content = some text ∧ Token.ofText text = .ok (.signed token)

theorem contentPayload_cases (content : Bytes) :
    (∃ text token, HoldsSigned content text token ∧
      (verifier.contentPayload content).run run = (verifier.payload (.signed token)).run run) ∨
    ∃ fault : VerificationFault, fault.inClaims = false ∧
      (verifier.contentPayload content).run run = (.error fault, run) := by
  -- Whatever is not a signed token is refused before a source is asked, so the run stays the same.
  unfold contentPayload
  cases plain : Bytes.text? content with
  | none => exact .inr ⟨_, rfl, rfl⟩
  | some text =>
    dsimp only
    cases read : Token.ofText text with
    | error fault => exact .inr ⟨_, rfl, rfl⟩
    | ok token =>
      cases token with
      | unsecured payload => exact .inr ⟨_, rfl, rfl⟩
      | encrypted token => exact .inr ⟨_, rfl, rfl⟩
      | signed token => exact .inl ⟨text, token, ⟨plain, read⟩, rfl⟩

theorem contentPayload_success (content payload : Bytes)
    (paid : ((verifier.contentPayload content).run run).1 = .ok payload) :
    ∃ text token, HoldsSigned content text token ∧
      ((verifier.payload (.signed token)).run run).1 = .ok payload := by
  obtain ⟨text, token, holds, same⟩ | ⟨fault, _, refused⟩ :=
    contentPayload_cases verifier run content
  · rw [same] at paid
    exact ⟨text, token, holds, paid⟩
  · rw [refused] at paid
    cases paid

theorem encryptedPayload_unconfigured (token : EncryptedToken)
    (absent : verifier.decryption = none ∨ verifier.signature = none) :
    ((verifier.payload (.encrypted token)).run run) =
      (.error (.protection (if verifier.decryption.isNone then .decryptionNotConfigured
        else .verificationNotConfigured)), run) := by
  change (verifier.encryptedPayload token).run run = _
  unfold encryptedPayload
  cases decrypter : verifier.decryption with
  | none => rfl
  | some selector =>
    have unsigned : verifier.signature = none := by simpa [decrypter] using absent
    rw [unsigned]
    rfl

theorem encryptedPayload_configured (token : EncryptedToken)
    (decrypter : DecryptionSelector Signing) (selector : SignatureSelector Signing)
    (decrypts : verifier.decryption = some decrypter)
    (configured : verifier.signature = some selector) :
    (verifier.payload (.encrypted token)).run run =
      match (decrypter.decrypt token).run run with
      | (.error fault, later) => (.error (.protection fault), later)
      | (.ok content, later) => (verifier.contentPayload content).run later := by
  change (verifier.encryptedPayload token).run run = _
  unfold encryptedPayload
  rw [decrypts, configured]
  simp only [StateT.run_bind]
  rcases (decrypter.decrypt token).run run with ⟨_ | _, _⟩ <;> rfl

theorem payload_signed_fault (token : SignedToken) (fault : VerificationFault)
    (failed : ((verifier.payload (.signed token)).run run).1 = .error fault) :
    fault.inClaims = false := by
  rw [payload_signed] at failed
  obtain ⟨cause, _, rfl⟩ := (mapError_failure _ _ _).mp failed
  rfl

theorem contentPayload_fault (content : Bytes) (fault : VerificationFault)
    (failed : ((verifier.contentPayload content).run run).1 = .error fault) :
    fault.inClaims = false := by
  obtain ⟨text, token, _, same⟩ | ⟨other, outside, refused⟩ :=
    contentPayload_cases verifier run content
  · rw [same] at failed
    exact payload_signed_fault verifier run token fault failed
  · rw [refused] at failed
    cases failed
    exact outside

theorem payload_fault (token : Token) (fault : VerificationFault)
    (failed : ((verifier.payload token).run run).1 = .error fault) : fault.inClaims = false := by
  cases token with
  | unsecured content =>
    obtain ⟨cause, _, rfl⟩ := (mapError_failure _ _ _).mp failed
    rfl
  | signed token => exact payload_signed_fault verifier run token fault failed
  | encrypted token =>
    cases decrypts : verifier.decryption with
    | none =>
      rw [encryptedPayload_unconfigured verifier run token (.inl decrypts)] at failed
      cases failed
      rfl
    | some decrypter =>
      cases configured : verifier.signature with
      | none =>
        rw [encryptedPayload_unconfigured verifier run token (.inr configured)] at failed
        cases failed
        rfl
      | some selector =>
        rw [encryptedPayload_configured verifier run token decrypter selector decrypts configured]
          at failed
        rcases opened : (decrypter.decrypt token).run run with ⟨_ | content, later⟩ <;>
          rw [opened] at failed
        · cases failed
          rfl
        · exact contentPayload_fault verifier later content fault failed

end Verifier

end RelyingParty
