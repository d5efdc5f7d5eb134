import RelyingParty.Proofs.Bytes
import RelyingParty.Proofs.Key.Purpose
import RelyingParty.Proofs.Token.Writing
import RelyingParty.Proofs.Verification.Preselection
import RelyingParty.Proofs.Verification.Unsecured

set_option autoImplicit false

namespace RelyingParty

def KeySource.Steady {A : Type} (source : KeySource A) : Prop :=
  ∀ id algorithm session other, ((source.signatureKeys id algorithm).run session).1 =
    ((source.signatureKeys id algorithm).run other).1

theorem KeySet.source_steady {A : Type} [SigningAlgorithm A] (set : KeySet) :
    (set.source : KeySource A).Steady := fun _ _ _ _ => rfl

theorem ClientSecret.source_steady {A : Type} [SigningAlgorithm A] (secret : String) :
    (ClientSecret.source secret : KeySource A).Steady := fun _ _ _ _ => rfl

def Event.isDecryption : Event -> Bool
  | .decryptionKeys _ _ _ _ => true
  | .signatureKeys _ _ _ | .authContext _ | .authTime _ => false

namespace Run

def decryptions (run : Run) : List Event := run.events.filter Event.isDecryption

theorem questions_decryptions (run : Run) :
    run.questions.filter Event.isDecryption = run.decryptions := by
  have narrower (event : Event) :
      (event.isDecryption && event.isQuestion) = event.isDecryption := by
    cases event <;> rfl
  simp [questions, decryptions, List.filter_filter, narrower]

theorem Unasked.decryptions {before after : Run} (unasked : before.Unasked after) :
    after.decryptions = before.decryptions := by
  rw [← questions_decryptions, unasked.2, questions_decryptions]

theorem ask_decryptions (question : StateM Session Candidates) (event : Option Nat -> Event)
    (run : Run) : ∃ count, ((ask question event).run run).2.decryptions =
      run.decryptions ++ [event count].filter Event.isDecryption :=
  ⟨_, List.filter_append ..⟩

end Run

theorem SignatureSelector.verify_steady (selector : SignatureSelector Signing)
    (steady : selector.source.Steady) (token : SignedToken) (run other : Run) :
    ((selector.verify token).run run).1 = ((selector.verify token).run other).1 := by
  rw [verify_outcome, verify_outcome, steady _ _ run.session other.session]

theorem SignatureSelector.verify_kind (selector : SignatureSelector Signing) (token : SignedToken)
    (run : Run) (fault : ProtectionFault)
    (failed : ((selector.verify token).run run).1 = .error fault) :
    fault.kind = .signatureInvalid ∨ fault.kind = .keySourceUnavailable := by
  rw [verify_outcome] at failed
  split at failed
  next =>
    obtain unanswered | ⟨candidates, _, unverified⟩ := (bind_failure _ _ _).mp failed
    · obtain ⟨cause, _, rfl⟩ := (mapError_failure _ _ _).mp unanswered
      exact .inr rfl
    · exact .inl (selector.verifyWith_kind token candidates fault unverified)
  next =>
    cases failed
    exact .inl rfl

theorem SignatureSelector.verify_decryptions (selector : SignatureSelector Signing)
    (token : SignedToken) (run : Run) :
    ((selector.verify token).run run).2.decryptions = run.decryptions := by
  rw [verify_run]
  unfold selectKeys
  dsimp only
  split
  next =>
    obtain ⟨count, asked⟩ := run.ask_decryptions
      (selector.source.signatureKeys token.header.keyId selector.algorithm)
      (Event.signatureKeys token.header.keyId selector.algorithm)
    exact asked.trans (List.append_nil _)
  next => rfl

theorem DecryptionSelector.decrypt_kind (selector : DecryptionSelector Signing)
    (token : EncryptedToken) (run : Run) (fault : ProtectionFault)
    (failed : ((selector.decrypt token).run run).1 = .error fault) :
    fault.kind = .decryptionFailed ∨ fault.kind = .keySourceUnavailable := by
  rw [decrypt_run] at failed
  obtain unselected | ⟨candidates, _, undecrypted⟩ := (bind_failure _ _ _).mp failed
  · unfold selectKeys at unselected
    dsimp only at unselected
    split at unselected
    next =>
      obtain ⟨cause, _, rfl⟩ := (mapError_failure _ _ _).mp unselected
      exact .inr rfl
    next =>
      cases unselected
      exact .inl rfl
  · exact .inl (selector.decryptWith_kind token candidates fault undecrypted)

theorem DecryptionSelector.decrypt_decryptions (selector : DecryptionSelector Signing)
    (token : EncryptedToken) (run : Run) :
    ((selector.decrypt token).run run).2.decryptions.length ≤ run.decryptions.length + 1 := by
  rw [decrypt_run]
  unfold selectKeys
  dsimp only
  split
  next =>
    obtain ⟨count, asked⟩ := run.ask_decryptions
      (selector.source.decryptionKeys token.header.keyId selector.algorithm selector.method)
      (Event.decryptionKeys token.header.keyId selector.algorithm selector.method)
    have length := congrArg List.length asked
    rw [List.length_append] at length
    exact Nat.le_of_eq length
  next => exact Nat.le_succ _

namespace Verifier

variable (verifier : Verifier) (text : String) (nonce : Option String) (now : Instant) (run : Run)

theorem verify_read (token : Token) (read : Token.ofText text = .ok token) :
    (verifier.verify text nonce now).run run =
      match (verifier.payload token).run run with
      | (.error fault, later) => (.error fault, later)
      | (.ok payload, later) => (verifier.verifyContent payload nonce now).run later := by
  unfold verify
  rw [read]
  dsimp only
  rw [StateT.run_bind]
  rcases (verifier.payload token).run run with ⟨_ | _, _⟩ <;> rfl

theorem payload_signed_decryptions (token : SignedToken) :
    ((verifier.payload (.signed token)).run run).2.decryptions = run.decryptions := by
  rw [payload_signed]
  cases configured : verifier.signature with
  | none => rw [signedPayload_unconfigured verifier run token configured]
  | some selector =>
    rw [signedPayload_configured verifier run token selector configured]
    exact selector.verify_decryptions token run

theorem contentPayload_decryptions (content : Bytes) :
    ((verifier.contentPayload content).run run).2.decryptions = run.decryptions := by
  obtain ⟨_, token, _, same⟩ | ⟨_, _, refused⟩ := verifier.contentPayload_cases run content
  · rw [same]
    exact verifier.payload_signed_decryptions run token
  · rw [refused]

theorem verify_encrypted_decryptions (token : EncryptedToken)
    (decrypter : DecryptionSelector Signing) (selector : SignatureSelector Signing)
    (decrypts : verifier.decryption = some decrypter)
    (configured : verifier.signature = some selector)
    (read : Token.ofText text = .ok (.encrypted token)) :
    ((verifier.verify text nonce now).run run).2.decryptions =
      ((decrypter.decrypt token).run run).2.decryptions := by
  rw [verify_read verifier text nonce now run _ read,
    encryptedPayload_configured verifier run token decrypter selector decrypts configured]
  rcases (decrypter.decrypt token).run run with ⟨_ | content, later⟩
  · rfl
  · have kept := verifier.contentPayload_decryptions later content
    dsimp only
    rcases paid : (verifier.contentPayload content).run later with ⟨_ | payload, last⟩ <;>
      rw [paid] at kept
    · exact kept
    · exact (verifier.verifyContent_unasked nonce now last payload).decryptions.trans kept

theorem payload_signed_steady (token : SignedToken) (selector : SignatureSelector Signing)
    (configured : verifier.signature = some selector) (steady : selector.source.Steady)
    (other : Run) :
    ((verifier.payload (.signed token)).run run).1 =
      ((verifier.payload (.signed token)).run other).1 := by
  rw [payload_signed, payload_signed,
    signedPayload_configured verifier run token selector configured,
    signedPayload_configured verifier other token selector configured]
  dsimp only
  rw [selector.verify_steady steady token run other]

theorem verify_signed_steady (token : SignedToken) (selector : SignatureSelector Signing)
    (configured : verifier.signature = some selector) (steady : selector.source.Steady)
    (read : Token.ofText text = .ok (.signed token)) (other : Run) :
    ((verifier.verify text nonce now).run run).1 =
      ((verifier.verify text nonce now).run other).1 := by
  rw [verify_outcome, verify_outcome, read]
  change ((verifier.payload (.signed token)).run run).1 >>= _ = _
  rw [verifier.payload_signed_steady run token selector configured steady other]
  rfl

theorem verify_unverified (token : SignedToken) (selector : SignatureSelector Signing)
    (configured : verifier.signature = some selector)
    (read : Token.ofText text = .ok (.signed token)) (fault : ProtectionFault)
    (failed : ((selector.verify token).run run).1 = .error fault) :
    ((verifier.verify text nonce now).run run).1 = .error (.protection fault) := by
  refine verifier.verify_fault text nonce now run _ _ read ?_
  rw [payload_signed, signedPayload_configured verifier run token selector configured]
  dsimp only
  rw [failed]
  rfl

theorem judge_protected (payload : Bytes) (fault : ProtectionFault) :
    verifier.judge payload nonce now ≠ .error (.protection fault) := by
  intro judged
  -- Reading the payload, accepting it and typing it each have faults of their own kind.
  obtain unparsed | ⟨claims, _, judged⟩ := (bind_failure _ _ _).mp judged
  · obtain ⟨_, _, other⟩ := (mapError_failure _ _ _).mp unparsed
    cases other
  · obtain unaccepted | ⟨_, _, untyped⟩ := (bind_failure _ _ _).mp judged
    · obtain ⟨_, _, other⟩ := (mapError_failure _ _ _).mp unaccepted
      cases other
    · obtain ⟨_, _, other⟩ := (mapError_failure _ _ _).mp untyped
      cases other

theorem verify_signed_kind (token : SignedToken) (selector : SignatureSelector Signing)
    (configured : verifier.signature = some selector)
    (read : Token.ofText text = .ok (.signed token)) (fault : ProtectionFault)
    (failed : ((verifier.verify text nonce now).run run).1 = .error (.protection fault)) :
    fault.kind = .signatureInvalid ∨ fault.kind = .keySourceUnavailable := by
  cases verified : ((selector.verify token).run run).1 with
  | error cause =>
    rw [verifier.verify_unverified text nonce now run token selector configured read cause verified]
      at failed
    cases failed
    exact selector.verify_kind token run fault verified
  | ok accepted =>
    rw [verify_outcome, read] at failed
    change ((verifier.payload (.signed token)).run run).1 >>= _ = _ at failed
    rw [payload_signed, signedPayload_configured verifier run token selector configured] at failed
    dsimp only at failed
    rw [verified] at failed
    exact absurd failed (verifier.judge_protected nonce now token.payload fault)

section Encrypted

variable (token : EncryptedToken) (decrypter : DecryptionSelector Signing)
  (selector : SignatureSelector Signing) (decrypts : verifier.decryption = some decrypter)
  (configured : verifier.signature = some selector)
  (read : Token.ofText text = .ok (.encrypted token))

include decrypts configured read

theorem verify_sealed (fault : ProtectionFault)
    (closed : ((decrypter.decrypt token).run run).1 = .error fault) :
    ((verifier.verify text nonce now).run run).1 = .error (.protection fault) := by
  refine verifier.verify_fault text nonce now run _ _ read ?_
  rw [encryptedPayload_configured verifier run token decrypter selector decrypts configured]
  rcases answer : (decrypter.decrypt token).run run with ⟨outcome, later⟩
  rw [answer] at closed
  cases closed
  rfl

theorem verify_opened (content : Bytes)
    (opened : ((decrypter.decrypt token).run run).1 = .ok content) :
    ∃ later, ((verifier.verify text nonce now).run run).1 =
      ((verifier.contentPayload content).run later).1 >>= fun payload =>
        verifier.judge payload nonce now := by
  refine ⟨((decrypter.decrypt token).run run).2, ?_⟩
  rw [verify_outcome, read]
  change ((verifier.payload (.encrypted token)).run run).1 >>= _ = _
  rw [encryptedPayload_configured verifier run token decrypter selector decrypts configured]
  rcases answer : (decrypter.decrypt token).run run with ⟨outcome, later⟩
  rw [answer] at opened
  cases opened
  rfl

theorem verify_contained (inner : String)
    (opened : ((decrypter.decrypt token).run run).1 = .ok (Bytes.ofText inner)) :
    ∃ later, ((verifier.verify text nonce now).run run).1 =
      match Token.ofText inner with
      | .error fault => .error (.shape (.token fault))
      | .ok (.unsecured _) => .error (.protection .unsecuredContent)
      | .ok (.encrypted _) => .error (.shape .nestedEncryption)
      | .ok (.signed _) => ((verifier.verify inner nonce now).run later).1 := by
  obtain ⟨later, outcome⟩ := verifier.verify_opened text nonce now run token decrypter selector
    decrypts configured read _ opened
  refine ⟨later, outcome.trans ?_⟩
  unfold contentPayload
  rw [(Bytes.text?_ofText _ inner).mpr rfl, verify_outcome]
  dsimp only
  cases Token.ofText inner with
  | error fault => rfl
  | ok found => cases found <;> rfl

theorem verify_unreadable (content : Bytes)
    (opened : ((decrypter.decrypt token).run run).1 = .ok content)
    (notText : ∀ inner, content ≠ Bytes.ofText inner) :
    ((verifier.verify text nonce now).run run).1 = .error (.shape .contentNotText) := by
  obtain ⟨later, outcome⟩ := verifier.verify_opened text nonce now run token decrypter selector
    decrypts configured read content opened
  rw [outcome]
  unfold contentPayload
  cases plain : Bytes.text? content with
  | none => rfl
  | some inner => exact absurd ((Bytes.text?_ofText content inner).mp plain) (notText inner)

theorem verify_content (content : Bytes)
    (opened : ((decrypter.decrypt token).run run).1 = .ok content) :
    (∃ inner found, content = Bytes.ofText inner ∧ Token.ofText inner = .ok (.signed found)) ∨
      (∃ fault, ((verifier.verify text nonce now).run run).1 = .error (.shape fault)) ∨
      Refused ((verifier.verify text nonce now).run run).1 .signatureRequired := by
  -- Only content that is a text is read as a token, and only a signed one is looked into.
  by_cases plain : ∃ inner, content = Bytes.ofText inner
  next =>
    obtain ⟨inner, rfl⟩ := plain
    obtain ⟨later, outcome⟩ := verifier.verify_contained text nonce now run token decrypter selector
      decrypts configured read inner opened
    cases readInner : Token.ofText inner with
    | error fault => exact .inr (.inl ⟨_, by rw [outcome, readInner]⟩)
    | ok found =>
      cases found with
      | unsecured payload => exact .inr (.inr ⟨_, by rw [outcome, readInner], rfl⟩)
      | signed found => exact .inl ⟨inner, found, rfl, readInner⟩
      | encrypted other => exact .inr (.inl ⟨_, by rw [outcome, readInner]⟩)
  next =>
    have notText (inner : String) : content ≠ Bytes.ofText inner := fun same => plain ⟨inner, same⟩
    exact .inr (.inl ⟨_, verifier.verify_unreadable text nonce now run token decrypter selector
      decrypts configured read content opened notText⟩)

theorem verify_nested (steady : selector.source.Steady) (inner : String) (found : SignedToken)
    (opened : ((decrypter.decrypt token).run run).1 = .ok (Bytes.ofText inner))
    (readInner : Token.ofText inner = .ok (.signed found)) (other : Run) :
    ((verifier.verify text nonce now).run run).1 =
      ((verifier.verify inner nonce now).run other).1 := by
  obtain ⟨later, outcome⟩ := verifier.verify_contained text nonce now run token decrypter selector
    decrypts configured read inner opened
  rw [outcome, readInner]
  exact verifier.verify_signed_steady inner nonce now later found selector configured steady
    readInner other

theorem verify_nested_accepted (steady : selector.source.Steady) (claims : IdToken)
    (accepted : ((verifier.verify text nonce now).run run).1 = .ok claims) :
    ∃ inner found, ((decrypter.decrypt token).run run).1 = .ok (Bytes.ofText inner) ∧
      Token.ofText inner = .ok (.signed found) ∧
      ((verifier.verify inner nonce now).run run).1 = .ok claims := by
  cases opened : ((decrypter.decrypt token).run run).1 with
  | error fault =>
    rw [verifier.verify_sealed text nonce now run token decrypter selector decrypts configured read
      fault opened] at accepted
    cases accepted
  | ok content =>
    -- Content that is no signed text was refused, one way or another.
    obtain ⟨inner, found, rfl, readInner⟩ | ⟨fault, refused⟩ | refused :=
      verifier.verify_content text nonce now run token decrypter selector decrypts configured read
        content opened
    · have same := verifier.verify_nested text nonce now run token decrypter selector decrypts
        configured read steady inner found opened readInner run
      exact ⟨inner, found, rfl, readInner, same.symm.trans accepted⟩
    · cases accepted.symm.trans refused
    · exact absurd accepted (refused.not_accepted claims)

theorem verify_nested_decrypted (steady : selector.source.Steady) (content : Bytes)
    (opened : ((decrypter.decrypt token).run run).1 = .ok content) :
    ¬ Refused ((verifier.verify text nonce now).run run).1 .decryptionFailed := by
  rintro ⟨fault, refused, kind⟩
  obtain ⟨inner, found, rfl, readInner⟩ | ⟨other, shape⟩ | ⟨other, wanted, otherKind⟩ :=
    verifier.verify_content text nonce now run token decrypter selector decrypts configured read
      content opened
  · rw [verifier.verify_nested text nonce now run token decrypter selector decrypts configured read
      steady inner found opened readInner run] at refused
    -- A signed text is never decrypted, so its faults are of other kinds.
    have allowed := verifier.verify_signed_kind inner nonce now run found selector configured
      readInner fault refused
    simp [kind] at allowed
  · cases refused.symm.trans shape
  · cases refused.symm.trans wanted
    cases kind.symm.trans otherKind

end Encrypted

/-- An encrypted token, with what it is opened to, is judged by the signed text it contains. -/
structure Transparent (decrypter : DecryptionSelector Signing)
    (selector : SignatureSelector Signing) (token : EncryptedToken)
    (opened : Except ProtectionFault Bytes) (outcome : Except VerificationFault IdToken)
    (after : Run) : Prop where
  undecrypted : ∀ fault, opened = .error fault -> outcome = .error (.protection fault) ∧
    (fault.kind = .decryptionFailed ∨ fault.kind = .keySourceUnavailable)
  notText : ∀ content, opened = .ok content -> (∀ inner, content ≠ Bytes.ofText inner) ->
    outcome = .error (.shape .contentNotText)
  noToken : ∀ inner fault, opened = .ok (Bytes.ofText inner) ->
    Token.ofText inner = .error fault -> outcome = .error (.shape (.token fault))
  nested : ∀ inner other, opened = .ok (Bytes.ofText inner) ->
    Token.ofText inner = .ok (.encrypted other) -> outcome = .error (.shape .nestedEncryption)
  unsecured : ∀ inner payload, opened = .ok (Bytes.ofText inner) ->
    Token.ofText inner = .ok (.unsecured payload) -> Refused outcome .signatureRequired
  signed : ∀ inner token, opened = .ok (Bytes.ofText inner) ->
    Token.ofText inner = .ok (.signed token) ->
      ∀ other, outcome = ((verifier.verify inner nonce now).run other).1
  accepted : ∀ claims, outcome = .ok claims ↔
    ∃ inner token, opened = .ok (Bytes.ofText inner) ∧ Token.ofText inner = .ok (.signed token) ∧
      ((verifier.verify inner nonce now).run run).1 = .ok claims
  unverified : ∀ inner token other fault, opened = .ok (Bytes.ofText inner) ->
    Token.ofText inner = .ok (.signed token) ->
    ((selector.verify token).run other).1 = .error fault ->
      outcome = .error (.protection fault) ∧
        (selector.source.Answers -> fault.kind = .signatureInvalid) ∧
        (fault.kind = .signatureInvalid ∨ fault.kind = .keySourceUnavailable)
  decrypted : ∀ content, opened = .ok content -> ¬ Refused outcome .decryptionFailed
  once : after.decryptions = ((decrypter.decrypt token).run run).2.decryptions ∧
    after.decryptions.length ≤ run.decryptions.length + 1

theorem encryption_transparent (token : EncryptedToken) (decrypter : DecryptionSelector Signing)
    (selector : SignatureSelector Signing) (decrypts : verifier.decryption = some decrypter)
    (configured : verifier.signature = some selector) (steady : selector.source.Steady)
    (read : Token.ofText text = .ok (.encrypted token)) :
    Transparent verifier nonce now run decrypter selector token
      ((decrypter.decrypt token).run run).1 ((verifier.verify text nonce now).run run).1
      ((verifier.verify text nonce now).run run).2 := by
  have contained (inner : String) := verifier.verify_contained text nonce now run token decrypter
    selector decrypts configured read inner
  have signed := verifier.verify_nested text nonce now run token decrypter selector decrypts
    configured read steady
  constructor
  case undecrypted =>
    intro fault closed
    exact ⟨verifier.verify_sealed text nonce now run token decrypter selector decrypts configured
      read fault closed, decrypter.decrypt_kind token run fault closed⟩
  case notText =>
    exact verifier.verify_unreadable text nonce now run token decrypter selector decrypts configured
      read
  case noToken =>
    intro inner fault opened readInner
    obtain ⟨later, outcome⟩ := contained inner opened
    rw [outcome, readInner]
  case nested =>
    intro inner other opened readInner
    obtain ⟨later, outcome⟩ := contained inner opened
    rw [outcome, readInner]
  case unsecured =>
    intro inner payload opened readInner
    obtain ⟨later, outcome⟩ := contained inner opened
    rw [outcome, readInner]
    exact ⟨_, rfl, rfl⟩
  case signed => exact signed
  case accepted =>
    intro claims
    constructor
    · exact verifier.verify_nested_accepted text nonce now run token decrypter selector decrypts
        configured read steady claims
    · rintro ⟨inner, found, opened, readInner, accepted⟩
      exact (signed inner found opened readInner run).trans accepted
  case unverified =>
    intro inner found other fault opened readInner failed
    rw [signed inner found opened readInner other]
    have refused := verifier.verify_unverified inner nonce now other found selector configured
      readInner fault failed
    exact ⟨refused, fun answers => selector.verify_answered answers found other fault failed,
      selector.verify_kind found other fault failed⟩
  case decrypted =>
    exact verifier.verify_nested_decrypted text nonce now run token decrypter selector decrypts
      configured read steady
  case once =>
    have same := verifier.verify_encrypted_decryptions text nonce now run token decrypter selector
      decrypts configured read
    exact ⟨same, same ▸ decrypter.decrypt_decryptions token run⟩

end Verifier

namespace Sample

def decrypter : DecryptionSelector Signing where
  clientId := "rp-123"
  algorithm := .direct
  method := .gcm .bits128
  source := KeySet.source ⟨[Key.encryption (Bytes.ofText "0123456789abcdef") none]⟩

def nestingVerifier : Verifier := Verifier.of issuer "rp-123" (some selector) (some decrypter)

def unverifiedText : String := "eyJhbGciOiJIUzI1NiJ9.e30."

def nestedText : String :=
  "eyJhbGciOiJkaXIiLCJlbmMiOiJBMTI4R0NNIn0..AAAAAAAAAAAAAAAA." ++
    "J5tgLZvN76rAP9v58NZxs_CA9IcdToZ-wQ.cqL4qB9fcSjrfZXshuKeFg"

def isSigned (text : String) : Bool :=
  match Token.ofText text with
  | .ok (.signed _) => true
  | _ => false

theorem isSigned_token {text : String} (signed : isSigned text = true) :
    ∃ token, Token.ofText text = .ok (.signed token) := by
  unfold isSigned at signed
  split at signed
  next token read => exact ⟨token, read⟩
  next => cases signed

def opensTo (text inner : String) : Bool :=
  match Token.ofText text with
  | .ok (.encrypted token) =>
    ((decrypter.decrypt token).run run).1.toOption == some (Bytes.ofText inner)
  | _ => false

theorem opensTo_token {text inner : String} (opens : opensTo text inner = true) :
    ∃ token, Token.ofText text = .ok (.encrypted token) ∧
      ((decrypter.decrypt token).run run).1 = .ok (Bytes.ofText inner) := by
  unfold opensTo at opens
  split at opens
  next token read => exact ⟨token, read, (toOption_success _ _).mp (eq_of_beq opens)⟩
  next => cases opens

def enveloped (inner : String) : EncryptedToken :=
  let protectedHeader := "eyJhbGciOiJkaXIiLCJlbmMiOiJBMTI4R0NNIn0"
  let iv := List.replicate 12 0
  let keys := Aes.roundKeys (Bytes.ofText "0123456789abcdef")
  let ciphertext := Gcm.stream keys iv 2 (Bytes.chunks 16 (Bytes.ofText inner))
  { header := ⟨.keyManagement .direct, some (.gcm .bits128), none, none, none, none, none⟩
    algorithm := .direct
    method := .gcm .bits128
    protectedHeader
    encryptedKey := []
    iv
    ciphertext
    tag := Gcm.tag keys iv (Bytes.ofText protectedHeader) ciphertext }

def envelope (inner : String) : String :=
  Token.compact (enveloped inner).protectedHeader (.encrypted (enveloped inner))

theorem envelope_read (inner : String) :
    Token.ofText (envelope inner) = .ok (.encrypted (enveloped inner)) := by
  have header : (Token.readHeader "eyJhbGciOiJkaXIiLCJlbmMiOiJBMTI4R0NNIn0").toOption =
      some (enveloped "").header := by
    decide +kernel
  have heads : Token.Heads (enveloped inner).protectedHeader (.encrypted (enveloped inner)) :=
    ⟨(toOption_success _ _).mp header, rfl, rfl, rfl, rfl⟩
  exact heads.ofText_compact

theorem enveloped_opened (inner : String) (run : Run) :
    ((decrypter.decrypt (enveloped inner)).run run).1 = .ok (Bytes.ofText inner) := by
  have size : (Bytes.ofText "0123456789abcdef").length = 4 * 4 := by decide +kernel
  have tagLength : (enveloped inner).tag.length = 16 :=
    Gcm.tag_length _ _ (Aes.encipher_length _ · 4 (by decide) size) _ _
  have opens : (Key.encryption (Bytes.ofText "0123456789abcdef") none).decrypt .direct
      (.gcm .bits128) (enveloped inner).content = .ok (Bytes.ofText inner) := by
    refine (Key.decrypt_opens _ _ _ _ _).mpr ⟨.inr rfl, Bytes.ofText "0123456789abcdef",
      rfl, rfl, rfl, congrArg some size.symm, rfl, rfl, tagLength, ?_⟩
    exact (Gcm.openSealed?_exact _ _ _ _ _ 4 (by decide) size).mpr rfl
  have decrypts := KeySet.decryptsExactly "rp-123" .direct (.gcm .bits128) (enveloped inner) run
    ⟨[Key.encryption (Bytes.ofText "0123456789abcdef") none]⟩
  refine (decrypts.decrypted _).mpr ⟨⟨rfl, rfl⟩, [], _, [], rfl, ⟨.inl rfl, opens⟩, ?_⟩
  exact fun _ member => absurd member List.not_mem_nil

theorem nested_transparent :
    nestingVerifier.decryption = some decrypter ∧ nestingVerifier.signature = some selector ∧
      selector.source.Steady ∧ selector.source.Answers ∧
      (∃ claims, claims.subject = "1" ∧
        ((nestingVerifier.verify (envelope signedText) none now).run run).1 = .ok claims) ∧
      ∃ token, Token.ofText nestedText = .ok (.encrypted token) ∧
        ((decrypter.decrypt token).run run).1 = .ok (Bytes.ofText unverifiedText) ∧
        Verifier.Transparent nestingVerifier none now run decrypter selector token
          ((decrypter.decrypt token).run run).1
          ((nestingVerifier.verify nestedText none now).run run).1
          ((nestingVerifier.verify nestedText none now).run run).2 := by
  have opens : opensTo nestedText unverifiedText = true := by decide +kernel
  have steady : selector.source.Steady := ClientSecret.source_steady "hmac key"
  have returned : ((nestingVerifier.verify signedText none now).run run).1.toOption.map
      (·.subject) = some "1" := by
    decide +kernel
  obtain ⟨claims, accepted, subject⟩ := (toOption_map_success _ _ _).mp returned
  have accepts := (nestingVerifier.encryption_transparent (envelope signedText) none now run
    (enveloped signedText) decrypter selector rfl rfl steady (envelope_read signedText)).accepted
    claims
  have signed : isSigned signedText = true := by decide +kernel
  obtain ⟨inner, readInner⟩ := isSigned_token signed
  refine ⟨rfl, rfl, steady, ClientSecret.source_answers "hmac key", ⟨claims, subject,
    accepts.mpr ⟨signedText, inner, enveloped_opened signedText run, readInner, accepted⟩⟩, ?_⟩
  obtain ⟨token, read, opened⟩ := opensTo_token opens
  exact ⟨token, read, opened, nestingVerifier.encryption_transparent nestedText none now run token
    decrypter selector rfl rfl steady read⟩

end Sample

end RelyingParty
