import RelyingParty.Proofs.KeySource.Requests
import RelyingParty.Proofs.Verification.Nesting

set_option autoImplicit false

namespace RelyingParty

def Question.event : Question Signing -> Option Nat -> Event
  | .signature id algorithm => .signatureKeys id algorithm
  | .decryption id algorithm method => .decryptionKeys id algorithm method

structure Call where
  source : KeySource Signing
  question : Question Signing

namespace Run

def put (run : Run) (call : Call) : Run :=
  let (answer, session) := (call.question.put call.source).run run.session
  ⟨session, run.events ++ [call.question.event (answer.toOption.map List.length)]⟩

def puts (run : Run) (calls : List Call) : Run := calls.foldl put run

theorem puts_append (run : Run) (first second : List Call) :
    run.puts (first ++ second) = (run.puts first).puts second := List.foldl_append

theorem puts_requests (run : Run) (call : Option Call)
    (builtIn : ∀ made ∈ call, made.source.BuiltIn) :
    ∃ sent : Option Http.Request,
      (run.puts call.toList).session.requests = run.session.requests ++ sent.toList ∧
        (sent.isSome -> call.isSome) := by
  cases call with
  | none => exact ⟨none, (List.append_nil _).symm, nofun⟩
  | some made =>
    obtain ⟨sent, requests⟩ := (builtIn made rfl).put_requests made.question run.session
    exact ⟨sent, requests, fun _ => rfl⟩

end Run

namespace SignatureSelector

variable (selector : SignatureSelector Signing) (token : SignedToken) (run : Run)

def call : Call := ⟨selector.source, .signature token.header.keyId selector.algorithm⟩

theorem verify_call (declared : token.algorithm = selector.algorithm) :
    ((selector.verify token).run run).2 = run.put (selector.call token) := by
  rw [verify_run]
  unfold selectKeys
  rw [if_pos declared]
  rfl

theorem verify_other (other : token.algorithm ≠ selector.algorithm) :
    ((selector.verify token).run run).2 = run := by
  rw [verify_run]
  unfold selectKeys
  rw [if_neg other]
  rfl

end SignatureSelector

namespace DecryptionSelector

variable (selector : DecryptionSelector Signing) (token : EncryptedToken) (run : Run)

def call : Call :=
  ⟨selector.source, .decryption token.header.keyId selector.algorithm selector.method⟩

def Expects : Prop := token.algorithm = selector.algorithm ∧ token.method = selector.method

instance : Decidable (selector.Expects token) := inferInstanceAs (Decidable (_ ∧ _))

theorem expects_iff : selector.Expects token ↔
    (token.algorithm, token.method) = (selector.algorithm, selector.method) := by
  simp [Expects]

theorem decrypt_call (expected : selector.Expects token) :
    ((selector.decrypt token).run run).2 = run.put (selector.call token) := by
  rw [decrypt_run]
  unfold selectKeys
  rw [(selector.expects_iff token).mp expected]
  simp only [if_true]
  rfl

theorem decrypt_other (other : ¬ selector.Expects token) :
    ∃ fault, (selector.decrypt token).run run = (.error fault, run) := by
  rw [decrypt_run]
  unfold selectKeys
  dsimp only
  rw [if_neg fun same => other ((selector.expects_iff token).mpr same)]
  exact ⟨_, rfl⟩

end DecryptionSelector

def contained? (content : Bytes) : Option SignedToken :=
  match (Bytes.text? content).map Token.ofText with
  | some (.ok (.signed token)) => some token
  | _ => none

namespace Verifier

variable (verifier : Verifier) (text : String) (nonce : Option String) (now : Instant) (run : Run)

theorem contained?_some (content : Bytes) (token : SignedToken) :
    contained? content = some token ↔ ∃ inner, HoldsSigned content inner token := by
  unfold contained? HoldsSigned
  cases plain : Bytes.text? content with
  | none => simp
  | some inner =>
    dsimp only [Option.map_some]
    cases read : Token.ofText inner with
    | error fault => simp [read]
    | ok found => cases found <;> simp [read]

def signatureCall? (token : SignedToken) : Option Call := do
  let selector ← verifier.signature
  if token.algorithm = selector.algorithm then some (selector.call token) else none

def decryptionCall? : Token -> Option Call
  | .encrypted token => do
    let decrypter ← verifier.decryption
    let _ ← verifier.signature
    if decrypter.Expects token then some (decrypter.call token) else none
  | .unsecured _ | .signed _ => none

def reached? : Token -> Option SignedToken
  | .unsecured _ => none
  | .signed token => some token
  | .encrypted token => do
    let decrypter ← verifier.decryption
    let content ← ((decrypter.decrypt token).run run).1.toOption
    contained? content

theorem payload_signed_puts (token : SignedToken) :
    ((verifier.payload (.signed token)).run run).2 =
      run.puts (verifier.signatureCall? token).toList := by
  rw [payload_signed]
  cases configured : verifier.signature with
  | none =>
    rw [signedPayload_unconfigured verifier run token configured]
    simp [signatureCall?, configured, Run.puts]
  | some selector =>
    rw [signedPayload_configured verifier run token selector configured]
    by_cases declared : token.algorithm = selector.algorithm
    next =>
      simp [selector.verify_call token run declared, signatureCall?, configured, declared, Run.puts]
    next =>
      simp [selector.verify_other token run declared, signatureCall?, configured, declared,
        Run.puts]

theorem contentPayload_puts (content : Bytes) :
    ((verifier.contentPayload content).run run).2 =
      run.puts ((contained? content).bind verifier.signatureCall?).toList := by
  unfold contentPayload contained?
  cases Bytes.text? content with
  | none => rfl
  | some inner =>
    dsimp only [Option.map_some]
    cases Token.ofText inner with
    | error fault => rfl
    | ok found =>
      cases found with
      | unsecured _ | encrypted _ => rfl
      | signed token => exact verifier.payload_signed_puts run token

theorem payload_expected_puts (token : EncryptedToken) (decrypter : DecryptionSelector Signing)
    (selector : SignatureSelector Signing) (decrypts : verifier.decryption = some decrypter)
    (configured : verifier.signature = some selector) (expected : decrypter.Expects token) :
    ((verifier.payload (.encrypted token)).run run).2 = run.puts (decrypter.call token ::
      ((verifier.reached? run (.encrypted token)).bind verifier.signatureCall?).toList) := by
  have called := decrypter.decrypt_call token run expected
  rw [encryptedPayload_configured verifier run token decrypter selector decrypts configured]
  rcases opened : (decrypter.decrypt token).run run with ⟨outcome, later⟩
  rw [opened] at called
  have first : later = run.put (decrypter.call token) := called
  cases outcome with
  | error fault =>
    have closed : verifier.reached? run (.encrypted token) = none := by
      simp [reached?, decrypts, opened, Except.toOption]
    rw [closed]
    exact first
  | ok content =>
    have holds : verifier.reached? run (.encrypted token) = contained? content := by
      simp [reached?, decrypts, opened, Except.toOption]
    rw [holds]
    subst first
    exact verifier.contentPayload_puts _ content

theorem payload_puts (token : Token) :
    ((verifier.payload token).run run).2 = run.puts ((verifier.decryptionCall? token).toList ++
      ((verifier.reached? run token).bind verifier.signatureCall?).toList) := by
  cases token with
  | unsecured content => rfl
  | signed token => exact verifier.payload_signed_puts run token
  | encrypted token =>
    cases decrypts : verifier.decryption with
    | none =>
      rw [encryptedPayload_unconfigured verifier run token (.inl decrypts)]
      simp [decryptionCall?, reached?, decrypts, Run.puts]
    | some decrypter =>
      cases configured : verifier.signature with
      | none =>
        -- What the token would be decrypted to does not matter, as nothing is verified.
        rw [encryptedPayload_unconfigured verifier run token (.inr configured)]
        have unverified : verifier.signatureCall? = fun _ => none := by
          funext token
          simp [signatureCall?, configured]
        simp [decryptionCall?, configured, unverified, Run.puts]
      | some selector =>
        by_cases expected : decrypter.Expects token
        next =>
          have called : verifier.decryptionCall? (.encrypted token) =
              some (decrypter.call token) := by
            simp [decryptionCall?, decrypts, configured, expected]
          rw [called]
          exact verifier.payload_expected_puts run token decrypter selector decrypts configured
            expected
        next =>
          obtain ⟨fault, refused⟩ := decrypter.decrypt_other token run expected
          rw [encryptedPayload_configured verifier run token decrypter selector decrypts configured,
            refused]
          simp [decryptionCall?, reached?, decrypts, configured, expected, refused,
            Except.toOption, Run.puts]

inductive Reaches (token : SignedToken) : Prop
  | itself (read : Token.ofText text = .ok (.signed token))
  | contained (outer : EncryptedToken) (decrypter : DecryptionSelector Signing) (content : Bytes)
      (inner : String) (read : Token.ofText text = .ok (.encrypted outer))
      (decrypts : verifier.decryption = some decrypter)
      (opened : ((decrypter.decrypt outer).run run).1 = .ok content)
      (holds : HoldsSigned content inner token)

inductive DecryptionCall : Call -> Prop
  | mk (token : EncryptedToken) (decrypter : DecryptionSelector Signing)
      (read : Token.ofText text = .ok (.encrypted token))
      (decrypts : verifier.decryption = some decrypter)
      (configured : verifier.signature.isSome) (expected : decrypter.Expects token) :
      DecryptionCall (decrypter.call token)

inductive SignatureCall : Call -> Prop
  | mk (token : SignedToken) (selector : SignatureSelector Signing)
      (configured : verifier.signature = some selector) (reached : verifier.Reaches text run token)
      (declared : token.algorithm = selector.algorithm) : SignatureCall (selector.call token)

theorem decryptionCall?_some (call : Call) :
    (Token.ofText text).toOption.bind verifier.decryptionCall? = some call ↔
      verifier.DecryptionCall text call := by
  constructor
  next =>
    intro called
    obtain ⟨token, read, called⟩ := Option.bind_eq_some_iff.mp called
    have read := (toOption_success _ _).mp read
    cases token with
    | unsecured _ | signed _ => cases called
    | encrypted token =>
      obtain ⟨decrypter, decrypts, called⟩ := Option.bind_eq_some_iff.mp called
      obtain ⟨selector, configured, called⟩ := Option.bind_eq_some_iff.mp called
      split at called
      next expected =>
        cases called
        exact .mk token decrypter read decrypts (Option.isSome_of_eq_some configured) expected
      next => cases called
  next =>
    rintro ⟨token, decrypter, read, decrypts, configured, expected⟩
    obtain ⟨selector, configured⟩ := Option.isSome_iff_exists.mp configured
    simp [read, Except.toOption, decryptionCall?, decrypts, configured, expected]

theorem reached?_some (token : SignedToken) :
    (Token.ofText text).toOption.bind (verifier.reached? run) = some token ↔
      verifier.Reaches text run token := by
  constructor
  next =>
    intro reached
    obtain ⟨outer, read, reached⟩ := Option.bind_eq_some_iff.mp reached
    have read := (toOption_success _ _).mp read
    cases outer with
    | unsecured _ => cases reached
    | signed _ =>
      cases reached
      exact .itself read
    | encrypted outer =>
      obtain ⟨decrypter, decrypts, reached⟩ := Option.bind_eq_some_iff.mp reached
      obtain ⟨content, opened, reached⟩ := Option.bind_eq_some_iff.mp reached
      obtain ⟨inner, holds⟩ := (contained?_some content token).mp reached
      exact .contained outer decrypter content inner read decrypts
        ((toOption_success _ _).mp opened) holds
  next =>
    rintro (read | ⟨outer, decrypter, content, inner, read, decrypts, opened, holds⟩)
    · simp [read, Except.toOption, reached?]
    · have found := (contained?_some content token).mpr ⟨inner, holds⟩
      simp [read, Except.toOption, reached?, decrypts, opened, found]

theorem signatureCall?_some (call : Call) :
    ((Token.ofText text).toOption.bind (verifier.reached? run)).bind verifier.signatureCall? =
        some call ↔ verifier.SignatureCall text run call := by
  constructor
  next =>
    intro called
    obtain ⟨token, reached, called⟩ := Option.bind_eq_some_iff.mp called
    obtain ⟨selector, configured, called⟩ := Option.bind_eq_some_iff.mp called
    split at called
    next declared =>
      cases called
      exact .mk token selector configured ((verifier.reached?_some text run token).mp reached)
        declared
    next => cases called
  next =>
    rintro ⟨token, selector, configured, reached, declared⟩
    rw [(verifier.reached?_some text run token).mpr reached]
    simp [signatureCall?, configured, declared]

/-- A text that a verifier has no use for: no token, or one that is not of the expected kind. -/
inductive Foreign : Prop
  | malformed (fault : Token.Fault) (read : Token.ofText text = .error fault)
  | unsecured (payload : Bytes) (read : Token.ofText text = .ok (.unsecured payload))
  | unverifiable (token : SignedToken) (read : Token.ofText text = .ok (.signed token))
      (absent : verifier.signature = none)
  | otherSigning (token : SignedToken) (read : Token.ofText text = .ok (.signed token))
      (selector : SignatureSelector Signing) (configured : verifier.signature = some selector)
      (other : token.algorithm ≠ selector.algorithm)
  | undecryptable (token : EncryptedToken) (read : Token.ofText text = .ok (.encrypted token))
      (absent : verifier.decryption = none ∨ verifier.signature = none)
  | otherEncryption (token : EncryptedToken) (read : Token.ofText text = .ok (.encrypted token))
      (decrypter : DecryptionSelector Signing) (decrypts : verifier.decryption = some decrypter)
      (other : ¬ decrypter.Expects token)

theorem Foreign.undecrypted {verifier : Verifier} {text : String}
    (foreign : verifier.Foreign text) (call : Call) : ¬ verifier.DecryptionCall text call := by
  rintro ⟨token, decrypter, read, decrypts, configured, expected⟩
  cases foreign with
  | malformed _ other | unsecured _ other => cases read.symm.trans other
  | unverifiable _ other _ | otherSigning _ other _ _ _ => cases read.symm.trans other
  | undecryptable _ _ absent => simp [decrypts, Option.isSome_iff_ne_none.mp configured] at absent
  | otherEncryption found same selector given other =>
    cases read.symm.trans same
    cases decrypts.symm.trans given
    exact other expected

theorem Foreign.unverified {verifier : Verifier} {text : String} (foreign : verifier.Foreign text)
    (call : Call) : ¬ verifier.SignatureCall text run call := by
  rintro ⟨token, selector, configured, reached, declared⟩
  obtain read | ⟨outer, decrypter, content, inner, read, decrypts, opened, _⟩ := reached
  · cases foreign with
    | malformed _ other | unsecured _ other => cases read.symm.trans other
    | undecryptable _ other _ | otherEncryption _ other _ _ _ => cases read.symm.trans other
    | unverifiable _ _ absent => cases configured.symm.trans absent
    | otherSigning found same chosen given other =>
      cases read.symm.trans same
      cases configured.symm.trans given
      exact other declared
  · cases foreign with
    | malformed _ other | unsecured _ other => cases read.symm.trans other
    | unverifiable _ other _ | otherSigning _ other _ _ _ => cases read.symm.trans other
    | undecryptable _ _ absent => simp [decrypts, configured] at absent
    | otherEncryption found same chosen given other =>
      cases read.symm.trans same
      cases decrypts.symm.trans given
      obtain ⟨fault, refused⟩ := decrypter.decrypt_other outer run other
      rw [refused] at opened
      cases opened

/-- What a verification asks of sources: at most one question for keys of each kind. -/
structure Consulted (decryption signature : Option Call) (after : Run) : Prop where
  calls : (run.puts (decryption.toList ++ signature.toList)).Unasked after
  decrypting : ∀ call, decryption = some call ↔ verifier.DecryptionCall text call
  verifying : ∀ call, signature = some call ↔ verifier.SignatureCall text run call

def BuiltIn : Prop :=
  (∀ selector ∈ verifier.decryption, selector.source.BuiltIn) ∧
    ∀ selector ∈ verifier.signature, selector.source.BuiltIn

namespace Consulted

variable {verifier text run} {decryption signature : Option Call} {after : Run}

theorem requests (consulted : verifier.Consulted text run decryption signature after)
    (builtIn : verifier.BuiltIn) :
    ∃ first second : Option Http.Request,
      after.session.requests = run.session.requests ++ first.toList ++ second.toList ∧
        (first.isSome -> verifier.decryption.isSome) ∧
        (second.isSome -> verifier.signature.isSome) := by
  have decrypted (call : Call) (made : decryption = some call) :
      call.source.BuiltIn ∧ verifier.decryption.isSome := by
    obtain ⟨token, decrypter, _, decrypts, _, _⟩ := (consulted.decrypting call).mp made
    exact ⟨builtIn.1 decrypter decrypts, Option.isSome_of_eq_some decrypts⟩
  have verified (call : Call) (made : signature = some call) :
      call.source.BuiltIn ∧ verifier.signature.isSome := by
    obtain ⟨token, selector, configured, _, _⟩ := (consulted.verifying call).mp made
    exact ⟨builtIn.2 selector configured, Option.isSome_of_eq_some configured⟩
  obtain ⟨first, sent, firstCalled⟩ :=
    run.puts_requests decryption fun call made => (decrypted call made).1
  obtain ⟨second, sentLater, secondCalled⟩ :=
    (run.puts decryption.toList).puts_requests signature fun call made => (verified call made).1
  refine ⟨first, second, ?_, fun made => ?_, fun made => ?_⟩
  · rw [consulted.calls.1, Run.puts_append, sentLater, sent]
  · obtain ⟨call, called⟩ := Option.isSome_iff_exists.mp (firstCalled made)
    exact (decrypted call called).2
  · obtain ⟨call, called⟩ := Option.isSome_iff_exists.mp (secondCalled made)
    exact (verified call called).2

theorem foreign (consulted : verifier.Consulted text run decryption signature after)
    (foreign : verifier.Foreign text) : run.Unasked after := by
  have undecrypted : decryption = none :=
    Option.eq_none_iff_forall_ne_some.mpr fun call made =>
      foreign.undecrypted call ((consulted.decrypting call).mp made)
  have unverified : signature = none :=
    Option.eq_none_iff_forall_ne_some.mpr fun call made =>
      foreign.unverified run call ((consulted.verifying call).mp made)
  have calls := consulted.calls
  rwa [undecrypted, unverified] at calls

end Consulted

theorem verify_calls :
    (run.puts (((Token.ofText text).toOption.bind verifier.decryptionCall?).toList ++
      (((Token.ofText text).toOption.bind (verifier.reached? run)).bind
        verifier.signatureCall?).toList)).Unasked ((verifier.verify text nonce now).run run).2 := by
  cases read : Token.ofText text with
  | error fault =>
    unfold verify
    rw [read]
    exact ⟨rfl, rfl⟩
  | ok token =>
    have paid := verifier.payload_puts run token
    rw [verify_read verifier text nonce now run token read]
    change (run.puts ((verifier.decryptionCall? token).toList ++
      ((verifier.reached? run token).bind verifier.signatureCall?).toList)).Unasked _
    rw [← paid]
    -- Whatever is left to do when there is a payload concerns claims only.
    rcases (verifier.payload token).run run with ⟨_ | payload, later⟩
    · exact ⟨rfl, rfl⟩
    · exact verifier.verifyContent_unasked nonce now later payload

theorem sources_consulted : ∃ decryption signature : Option Call,
    verifier.Consulted text run decryption signature
      ((verifier.verify text nonce now).run run).2 ∧
    (verifier.BuiltIn -> ∃ first second : Option Http.Request,
      ((verifier.verify text nonce now).run run).2.session.requests =
        run.session.requests ++ first.toList ++ second.toList ∧
        (first.isSome -> verifier.decryption.isSome) ∧
        (second.isSome -> verifier.signature.isSome)) ∧
    (verifier.Foreign text -> run.Unasked ((verifier.verify text nonce now).run run).2) := by
  have consulted : verifier.Consulted text run _ _ ((verifier.verify text nonce now).run run).2 :=
    ⟨verifier.verify_calls text nonce now run, verifier.decryptionCall?_some text,
      verifier.signatureCall?_some text run⟩
  exact ⟨_, _, consulted, consulted.requests, consulted.foreign⟩

end Verifier

namespace Sample

def declaresExpected (text : String) : Bool :=
  match Token.ofText text with
  | .ok (.signed token) => token.algorithm == selector.algorithm
  | _ => false

theorem nested_consulted : ∃ decryption signature : Call,
    nestingVerifier.Consulted nestedText run (some decryption) (some signature)
      ((nestingVerifier.verify nestedText none now).run run).2 := by
  have opens : opensTo nestedText unverifiedText = true := by decide +kernel
  have declares : declaresExpected unverifiedText = true := by decide +kernel
  obtain ⟨outer, read, opened⟩ := opensTo_token opens
  unfold declaresExpected at declares
  split at declares
  next token readInner =>
    have holds : Verifier.HoldsSigned (Bytes.ofText unverifiedText) unverifiedText token :=
      ⟨(Bytes.text?_ofText _ _).mpr rfl, readInner⟩
    obtain ⟨decryption, signature, consulted, _⟩ :=
      nestingVerifier.sources_consulted nestedText none now run
    have expected : decrypter.Expects outer :=
      (decrypter.expects_iff outer).mpr (decrypter.decrypt_success outer run _ opened).1
    have decrypting := (consulted.decrypting _).mpr (.mk outer decrypter read rfl rfl expected)
    have verifying := (consulted.verifying _).mpr (.mk token selector rfl
      (.contained outer decrypter _ unverifiedText read rfl opened holds) (eq_of_beq declares))
    rw [decrypting, verifying] at consulted
    exact ⟨_, _, consulted⟩
  next => cases declares

end Sample

end RelyingParty
