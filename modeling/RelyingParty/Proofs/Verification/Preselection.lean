import RelyingParty.Proofs.Verification.Authenticity

set_option autoImplicit false

namespace RelyingParty

section

variable {F K A : Type} (attempt : K -> Except F A) (keep : K -> Bool) (keys : List K)

theorem firstSuccess?_filter :
    firstSuccess? attempt (keys.filter keep) =
      keys.findSome? fun key => if keep key then (attempt key).toOption else none := by
  induction keys with
  | nil => rfl
  | cons key rest ih =>
    by_cases kept : keep key = true
    next =>
      rw [List.filter_cons_of_pos kept, List.findSome?_cons, if_pos kept]
      unfold firstSuccess?
      cases attempt key with
      | ok result => rfl
      | error fault => exact ih
    next =>
      rw [List.filter_cons_of_neg kept, List.findSome?_cons, if_neg kept]
      exact ih

theorem kept_attempt_some (key : K) (result : A) :
    (if keep key then (attempt key).toOption else none) = some result ↔
      keep key = true ∧ attempt key = .ok result := by
  by_cases kept : keep key = true <;> simp [kept]

theorem kept_attempt_none (key : K) :
    (if keep key then (attempt key).toOption else none) = none ↔
      ∀ result, ¬ (keep key = true ∧ attempt key = .ok result) := by
  rw [Option.eq_none_iff_forall_ne_some]
  exact forall_congr' fun result => not_congr (kept_attempt_some attempt keep key result)

theorem firstSuccess?_filter_some (result : A) :
    firstSuccess? attempt (keys.filter keep) = some result ↔
      ∃ before key after, keys = before ++ key :: after ∧
        (keep key = true ∧ attempt key = .ok result) ∧
        ∀ earlier ∈ before, ∀ other, ¬ (keep earlier = true ∧ attempt earlier = .ok other) := by
  rw [firstSuccess?_filter, List.findSome?_eq_some_iff]
  simp only [kept_attempt_some, kept_attempt_none]

theorem firstSuccess?_filter_none :
    firstSuccess? attempt (keys.filter keep) = none ↔
      ∀ key ∈ keys, ∀ result, ¬ (keep key = true ∧ attempt key = .ok result) := by
  rw [firstSuccess?_filter, List.findSome?_eq_none_iff]
  simp only [kept_attempt_none]

theorem firstSuccess?_filter_unit (attempt : K -> Except F Unit) :
    firstSuccess? attempt (keys.filter keep) = some () ↔
      ∃ key ∈ keys, keep key = true ∧ attempt key = .ok () := by
  constructor
  next =>
    intro found
    -- All keys that succeed give the same here, so it does not matter which one comes first.
    obtain ⟨before, key, after, rfl, success, _⟩ :=
      (firstSuccess?_filter_some attempt keep keys ()).mp found
    exact ⟨key, by simp, success⟩
  next =>
    rintro ⟨key, member, success⟩
    cases found : firstSuccess? attempt (keys.filter keep) with
    | some result => rfl
    | none =>
      have fails := (firstSuccess?_filter_none attempt keep keys).mp found
      exact absurd success (fails key member ())

end

namespace Key

variable (key : Key) (id : Option String)

theorem hasId_iff : key.hasId id = true ↔ id = none ∨ key.id = id := by
  cases id <;> simp [hasId]

theorem verifySignature_forward (algorithm : Signing) (message signature : Bytes) :
    (key.hasId id && (key.checkSigning algorithm).isOk) = true ∧
        key.verifySignature algorithm message signature = .ok () ↔
      (id = none ∨ key.id = id) ∧
        key.verifySignature algorithm message signature = .ok () := by
  -- What is done with the key repeats the check by which it was chosen.
  have forward (verified : key.verifySignature algorithm message signature = .ok ()) :
      (key.checkSigning algorithm).isOk = true := by
    obtain ⟨checked, _⟩ := (check_success _ _ _).mp verified
    rw [checked]
    rfl
  rw [Bool.and_eq_true, and_assoc, hasId_iff]
  exact and_congr_right fun _ => and_iff_right_of_imp forward

theorem decrypt_forward (algorithm : KeyManagement) (method : ContentEncryption)
    (content : SealedContent) (plaintext : Bytes) :
    (key.hasId id && (key.checkDecrypting algorithm).isOk) = true ∧
        key.decrypt algorithm method content = .ok plaintext ↔
      (id = none ∨ key.id = id) ∧ key.decrypt algorithm method content = .ok plaintext := by
  have forward (decrypted : key.decrypt algorithm method content = .ok plaintext) :
      (key.checkDecrypting algorithm).isOk = true := by
    obtain ⟨checked, _⟩ := (check_success _ _ _).mp decrypted
    rw [checked]
    rfl
  rw [Bool.and_eq_true, and_assoc, hasId_iff]
  exact and_congr_right fun _ => and_iff_right_of_imp forward

end Key

def SignedToken.VerifiedBy (token : SignedToken) (algorithm : Signing) (key : Key) : Prop :=
  (token.header.keyId = none ∨ key.id = token.header.keyId) ∧
    key.verifySignature algorithm (Bytes.ofText token.signingInput) token.signature = .ok ()

def EncryptedToken.OpenedBy (token : EncryptedToken) (algorithm : KeyManagement)
    (method : ContentEncryption) (content : Bytes) (key : Key) : Prop :=
  (token.header.keyId = none ∨ key.id = token.header.keyId) ∧
    key.decrypt algorithm method token.content = .ok content

namespace KeySet

section

variable (issuer : UrlText) (algorithm : Signing) (token : SignedToken) (run : Run)

def verification (set : KeySet) : Except ProtectionFault Unit :=
  ((SignatureSelector.verify ⟨issuer, algorithm, set.source⟩ token).run run).1

/--
The keys of a set that matter for a token are those that verify it. Their order, their number and
all other keys are of no consequence, but that a set without a key to try is reported as such.
-/
structure VerifiesExactly (set : KeySet) : Prop where
  accepted : set.verification issuer algorithm token run = .ok () ↔
    token.algorithm = algorithm ∧ ∃ key ∈ set.keys, token.VerifiedBy algorithm key
  refused : ∀ fault, set.verification issuer algorithm token run = .error fault ->
    fault.kind = .signatureInvalid
  rearranged : ∀ other : KeySet, (∀ key, key ∈ other.keys ↔ key ∈ set.keys) ->
    other.verification issuer algorithm token run = set.verification issuer algorithm token run
  extended : ∀ other : KeySet,
    (∀ key, token.VerifiedBy algorithm key -> (key ∈ other.keys ↔ key ∈ set.keys)) ->
      (other.verification issuer algorithm token run).mapError ProtectionFault.kind =
        (set.verification issuer algorithm token run).mapError ProtectionFault.kind

theorem signatureKeys_success (set : KeySet) :
    firstSuccess? (fun key => key.verifySignature algorithm (Bytes.ofText token.signingInput)
        token.signature) (set.signatureKeys token.header.keyId algorithm) = some () ↔
      ∃ key ∈ set.keys, token.VerifiedBy algorithm key := by
  unfold signatureKeys
  rw [firstSuccess?_filter_unit]
  simp only [Key.verifySignature_forward]
  rfl

theorem verification_cases (set : KeySet) :
    set.verification issuer algorithm token run =
      if token.algorithm = algorithm then
        (SignatureSelector.mk issuer algorithm set.source).verifyWith token
          (set.signatureKeys token.header.keyId algorithm)
      else .error (.otherSigning algorithm token.algorithm) := by
  unfold verification
  rw [SignatureSelector.verify_outcome]
  rfl

theorem verification_success (set : KeySet) :
    set.verification issuer algorithm token run = .ok () ↔
      token.algorithm = algorithm ∧ ∃ key ∈ set.keys, token.VerifiedBy algorithm key := by
  rw [verification_cases]
  split
  next same =>
    unfold SignatureSelector.verifyWith
    rw [orFault_success, signatureKeys_success]
    exact (and_iff_right same).symm
  next other => simp [other]

theorem verification_failure (set : KeySet) (fault : ProtectionFault)
    (failed : set.verification issuer algorithm token run = .error fault) :
    fault.kind = .signatureInvalid :=
  SignatureSelector.verify_answered _ set.source_answers token run fault failed

theorem signatureKeys_isEmpty (set other : KeySet) (id : Option String)
    (same : ∀ key, key ∈ other.keys ↔ key ∈ set.keys) :
    (other.signatureKeys id algorithm).isEmpty = (set.signatureKeys id algorithm).isEmpty := by
  rw [Bool.eq_iff_iff]
  simp only [signatureKeys, List.isEmpty_iff, List.filter_eq_nil_iff, same]

theorem verifiesExactly (set : KeySet) : set.VerifiesExactly issuer algorithm token run where
  accepted := set.verification_success issuer algorithm token run
  refused := set.verification_failure issuer algorithm token run
  rearranged other same := by
    -- From outside it is seen only whether a key verifies and whether there is one to try.
    have found : firstSuccess? (fun key => key.verifySignature algorithm
          (Bytes.ofText token.signingInput) token.signature)
          (other.signatureKeys token.header.keyId algorithm) =
        firstSuccess? (fun key => key.verifySignature algorithm
          (Bytes.ofText token.signingInput) token.signature)
          (set.signatureKeys token.header.keyId algorithm) := by
      apply Option.ext
      rintro ⟨⟩
      simp only [signatureKeys_success, same]
    have empty := set.signatureKeys_isEmpty algorithm other token.header.keyId same
    rw [verification_cases, verification_cases]
    unfold SignatureSelector.verifyWith
    dsimp only
    rw [found, empty]
  extended other same := by
    have accepted : other.verification issuer algorithm token run = .ok () ↔
        set.verification issuer algorithm token run = .ok () := by
      rw [verification_success, verification_success]
      have keys (key : Key) : key ∈ other.keys ∧ token.VerifiedBy algorithm key ↔
          key ∈ set.keys ∧ token.VerifiedBy algorithm key :=
        and_congr_left fun verified => same key verified
      simp only [keys]
    cases otherOutcome : other.verification issuer algorithm token run with
    | ok _ => rw [accepted.mp otherOutcome]
    | error otherFault =>
      cases outcome : set.verification issuer algorithm token run with
      | ok _ => simp [outcome, otherOutcome] at accepted
      | error fault =>
        change Except.error otherFault.kind = Except.error fault.kind
        rw [other.verification_failure issuer algorithm token run otherFault otherOutcome,
          set.verification_failure issuer algorithm token run fault outcome]

end

section

variable (clientId : String) (algorithm : KeyManagement) (method : ContentEncryption)
  (token : EncryptedToken) (run : Run)

def decryption (set : KeySet) : Except ProtectionFault Bytes :=
  ((DecryptionSelector.decrypt ⟨clientId, algorithm, method, set.source⟩ token).run run).1

structure DecryptsExactly (set : KeySet) : Prop where
  decrypted : ∀ content, set.decryption clientId algorithm method token run = .ok content ↔
    (token.algorithm = algorithm ∧ token.method = method) ∧
      ∃ before key after, set.keys = before ++ key :: after ∧
        token.OpenedBy algorithm method content key ∧
        ∀ earlier ∈ before, ∀ other, ¬ token.OpenedBy algorithm method other earlier
  available : (∃ content, set.decryption clientId algorithm method token run = .ok content) ↔
    (token.algorithm = algorithm ∧ token.method = method) ∧
      ∃ key ∈ set.keys, ∃ content, token.OpenedBy algorithm method content key
  refused : ∀ fault, set.decryption clientId algorithm method token run = .error fault ->
    fault.kind = .decryptionFailed

theorem decryptionKeys_success (set : KeySet) (content : Bytes) :
    firstSuccess? (fun key => key.decrypt algorithm method token.content)
        (set.decryptionKeys token.header.keyId algorithm) = some content ↔
      ∃ before key after, set.keys = before ++ key :: after ∧
        token.OpenedBy algorithm method content key ∧
        ∀ earlier ∈ before, ∀ other, ¬ token.OpenedBy algorithm method other earlier := by
  unfold decryptionKeys
  rw [firstSuccess?_filter_some]
  simp only [Key.decrypt_forward]
  rfl

theorem decryptionKeys_failure (set : KeySet) :
    firstSuccess? (fun key => key.decrypt algorithm method token.content)
        (set.decryptionKeys token.header.keyId algorithm) = none ↔
      ∀ key ∈ set.keys, ∀ content, ¬ token.OpenedBy algorithm method content key := by
  unfold decryptionKeys
  rw [firstSuccess?_filter_none]
  simp only [Key.decrypt_forward]
  rfl

theorem decryption_cases (set : KeySet) :
    set.decryption clientId algorithm method token run =
      if token.algorithm = algorithm ∧ token.method = method then
        (DecryptionSelector.mk clientId algorithm method set.source).decryptWith token
          (set.decryptionKeys token.header.keyId algorithm)
      else .error (.otherEncryption (algorithm, method) (token.algorithm, token.method)) := by
  unfold decryption
  rw [DecryptionSelector.decrypt_run]
  unfold DecryptionSelector.selectKeys
  simp only [Prod.mk.injEq]
  split <;> rfl

theorem decryption_success (set : KeySet) (content : Bytes) :
    set.decryption clientId algorithm method token run = .ok content ↔
      (token.algorithm = algorithm ∧ token.method = method) ∧
        firstSuccess? (fun key => key.decrypt algorithm method token.content)
          (set.decryptionKeys token.header.keyId algorithm) = some content := by
  rw [decryption_cases]
  split
  next same =>
    unfold DecryptionSelector.decryptWith
    rw [orFault_success]
    exact (and_iff_right same).symm
  next other => simp [other]

theorem decryptsExactly (set : KeySet) :
    set.DecryptsExactly clientId algorithm method token run where
  decrypted content := by rw [decryption_success, decryptionKeys_success]
  available := by
    simp only [decryption_success, exists_and_left]
    refine and_congr_right fun _ => ?_
    rw [← Option.isSome_iff_exists, ← Option.ne_none_iff_isSome, ne_eq, decryptionKeys_failure]
    simp only [Classical.not_forall, Classical.not_not, exists_prop]
  refused fault failed := by
    rw [decryption_cases] at failed
    split at failed
    next => exact DecryptionSelector.decryptWith_kind _ token _ fault failed
    next =>
      cases failed
      rfl

end

theorem selection_exact (set : KeySet) (run : Run) :
    (∀ issuer algorithm token, set.VerifiesExactly issuer algorithm token run) ∧
      ∀ clientId algorithm method token,
        set.DecryptsExactly clientId algorithm method token run :=
  ⟨fun issuer algorithm token => set.verifiesExactly issuer algorithm token run,
    fun clientId algorithm method token =>
      set.decryptsExactly clientId algorithm method token run⟩

end KeySet

namespace Sample

def secrets : KeySet :=
  ⟨[Key.symmetric (Bytes.ofText "old key"), Key.symmetric (Bytes.ofText "hmac key")]⟩

def secretsAccept (text : String) : Bool :=
  match Token.ofText text with
  | .ok (.signed token) =>
    (secrets.verification issuer (.hmac .sha256) token run).toOption == some ()
  | _ => false

theorem secrets_selected : ∃ token, Token.ofText signedText = .ok (.signed token) ∧
    (∃ key ∈ secrets.keys, token.VerifiedBy (.hmac .sha256) key) ∧
      ∀ other : KeySet, (∀ key, key ∈ other.keys ↔ key ∈ secrets.keys) ->
        other.verification issuer (.hmac .sha256) token run = .ok () := by
  have accepts : secretsAccept signedText = true := by decide +kernel
  unfold secretsAccept at accepts
  split at accepts
  next token read =>
    have accepted := (toOption_success _ _).mp (eq_of_beq accepts)
    have verifies := (secrets.selection_exact run).1 issuer (.hmac .sha256) token
    refine ⟨token, read, (verifies.accepted.mp accepted).2, fun other same => ?_⟩
    exact (verifies.rearranged other same).trans accepted
  next => cases accepts

end Sample

end RelyingParty
