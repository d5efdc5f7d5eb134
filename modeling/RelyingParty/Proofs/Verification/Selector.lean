import RelyingParty.Proofs.Checked
import RelyingParty.Verification.Selector

set_option autoImplicit false

namespace RelyingParty

def Event.isQuestion : Event -> Bool
  | .signatureKeys _ _ _ | .decryptionKeys _ _ _ _ => true
  | .authContext _ | .authTime _ => false

def Run.questions (run : Run) : List Event := run.events.filter Event.isQuestion

theorem firstSuccess?_success {F K A : Type} (attempt : K -> Except F A) (keys : List K)
    (result : A) (found : firstSuccess? attempt keys = some result) :
    ∃ key ∈ keys, attempt key = .ok result := by
  induction keys with
  | nil => cases found
  | cons key rest ih =>
    unfold firstSuccess? at found
    split at found
    next value success =>
      cases found
      exact ⟨key, List.mem_cons_self, success⟩
    next =>
      obtain ⟨other, member, success⟩ := ih found
      exact ⟨other, List.mem_cons_of_mem key member, success⟩

/-- A source that always has an answer about signatures, if only that there are no keys. -/
def KeySource.Answers {A : Type} (source : KeySource A) : Prop :=
  ∀ id algorithm session, ∃ keys, ((source.signatureKeys id algorithm).run session).1 = .ok keys

theorem KeySet.source_answers {A : Type} [SigningAlgorithm A] (set : KeySet) :
    (set.source : KeySource A).Answers := fun _ _ _ => ⟨_, rfl⟩

theorem ClientSecret.source_answers {A : Type} [SigningAlgorithm A] (secret : String) :
    (ClientSecret.source secret : KeySource A).Answers := fun _ _ _ => ⟨_, rfl⟩

namespace SignatureSelector

theorem verify_run (selector : SignatureSelector Signing) (token : SignedToken) (run : Run) :
    (selector.verify token).run run =
      let asked := (selector.selectKeys token.algorithm token.header.keyId).run run
      (asked.1 >>= selector.verifyWith token, asked.2) := by
  simp only [verify, StateT.run_bind]
  rcases (selector.selectKeys token.algorithm token.header.keyId).run run with ⟨_ | _, _⟩ <;> rfl

theorem verify_outcome (selector : SignatureSelector Signing) (token : SignedToken) (run : Run) :
    ((selector.verify token).run run).1 =
      if token.algorithm = selector.algorithm then
        ((selector.source.signatureKeys token.header.keyId selector.algorithm).run
          run.session).1.mapError .keySource >>= selector.verifyWith token
      else .error (.otherSigning selector.algorithm token.algorithm) := by
  rw [verify_run]
  unfold selectKeys
  split <;> rfl

theorem selectKeys_success (selector : SignatureSelector Signing) (declared : Signing)
    (id : Option String) (run : Run) (candidates : List Key)
    (selected : ((selector.selectKeys declared id).run run).1 = .ok candidates) :
    declared = selector.algorithm ∧
      ((selector.source.signatureKeys id selector.algorithm).run run.session).1 =
        .ok candidates := by
  unfold selectKeys at selected
  split at selected
  next same => exact ⟨same, (mapError_success _ _ _).mp selected⟩
  next => cases selected

theorem verify_success (selector : SignatureSelector Signing) (token : SignedToken) (run : Run)
    (verified : ((selector.verify token).run run).1 = .ok ()) :
    token.algorithm = selector.algorithm ∧
      ∃ candidates,
        ((selector.source.signatureKeys token.header.keyId selector.algorithm).run run.session).1 =
          .ok candidates ∧
        ∃ key ∈ candidates, key.verifySignature selector.algorithm
          (Bytes.ofText token.signingInput) token.signature = .ok () := by
  rw [verify_run] at verified
  obtain ⟨candidates, selected, verified⟩ := (bind_success _ _ _).mp verified
  obtain ⟨same, answered⟩ := selectKeys_success selector _ _ run candidates selected
  obtain ⟨key, member, accepted⟩ :=
    firstSuccess?_success _ _ _ ((orFault_success _ _ _).mp verified)
  exact ⟨same, candidates, answered, key, member, accepted⟩

theorem verifyWith_kind (selector : SignatureSelector Signing) (token : SignedToken)
    (candidates : List Key) (fault : ProtectionFault)
    (failed : selector.verifyWith token candidates = .error fault) :
    fault.kind = .signatureInvalid := by
  obtain ⟨_, rfl⟩ := (orFault_failure _ _ _).mp failed
  split <;> rfl

theorem verify_answered (selector : SignatureSelector Signing)
    (answers : selector.source.Answers) (token : SignedToken) (run : Run) (fault : ProtectionFault)
    (failed : ((selector.verify token).run run).1 = .error fault) :
    fault.kind = .signatureInvalid := by
  rw [verify_outcome] at failed
  split at failed
  next =>
    obtain ⟨keys, answered⟩ := answers token.header.keyId selector.algorithm run.session
    rw [answered] at failed
    exact selector.verifyWith_kind token keys fault failed
  next =>
    cases failed
    rfl

end SignatureSelector

namespace DecryptionSelector

theorem decrypt_run (selector : DecryptionSelector Signing) (token : EncryptedToken) (run : Run) :
    (selector.decrypt token).run run =
      let asked := (selector.selectKeys (token.algorithm, token.method) token.header.keyId).run run
      (asked.1 >>= selector.decryptWith token, asked.2) := by
  simp only [decrypt, StateT.run_bind]
  rcases (selector.selectKeys (token.algorithm, token.method) token.header.keyId).run run with
    ⟨_ | _, _⟩ <;> rfl

theorem decryptWith_kind (selector : DecryptionSelector Signing) (token : EncryptedToken)
    (candidates : List Key) (fault : ProtectionFault)
    (failed : selector.decryptWith token candidates = .error fault) :
    fault.kind = .decryptionFailed := by
  obtain ⟨_, rfl⟩ := (orFault_failure _ _ _).mp failed
  split <;> rfl

theorem selectKeys_success (selector : DecryptionSelector Signing)
    (declared : KeyManagement × ContentEncryption) (id : Option String) (run : Run)
    (candidates : List Key)
    (selected : ((selector.selectKeys declared id).run run).1 = .ok candidates) :
    declared = (selector.algorithm, selector.method) ∧
      let asked := (selector.source.decryptionKeys id selector.algorithm selector.method).run
        run.session
      asked.1 = .ok candidates ∧
        ((selector.selectKeys declared id).run run).2.session = asked.2 := by
  unfold selectKeys at selected ⊢
  dsimp only at selected ⊢
  split at selected
  next same =>
    rw [if_pos same]
    exact ⟨same, (mapError_success _ _ _).mp selected, rfl⟩
  next => cases selected

theorem decrypt_success (selector : DecryptionSelector Signing) (token : EncryptedToken) (run : Run)
    (content : Bytes) (decrypted : ((selector.decrypt token).run run).1 = .ok content) :
    (token.algorithm, token.method) = (selector.algorithm, selector.method) ∧
      let asked := (selector.source.decryptionKeys token.header.keyId selector.algorithm
        selector.method).run run.session
      ((selector.decrypt token).run run).2.session = asked.2 ∧
        ∃ candidates, asked.1 = .ok candidates ∧
          ∃ key ∈ candidates,
            key.decrypt selector.algorithm selector.method token.content = .ok content := by
  rw [decrypt_run] at decrypted ⊢
  obtain ⟨candidates, selected, decrypted⟩ := (bind_success _ _ _).mp decrypted
  obtain ⟨same, answered, later⟩ := selectKeys_success selector _ _ run candidates selected
  obtain ⟨key, member, opened⟩ :=
    firstSuccess?_success _ _ _ ((orFault_success _ _ _).mp decrypted)
  exact ⟨same, later, candidates, answered, key, member, opened⟩

end DecryptionSelector

end RelyingParty
