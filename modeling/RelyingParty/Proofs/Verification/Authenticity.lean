import RelyingParty.Proofs.Token.Declared
import RelyingParty.Proofs.Verification.Outcome

set_option autoImplicit false

namespace RelyingParty

/-- A signed text, with a key from the source of a selector that verifies its signature. -/
structure Attestation (selector : SignatureSelector Signing) (session : Session)
    (text : String) where
  headerText : String
  payloadText : String
  signatureText : String
  token : SignedToken
  candidates : List Key
  key : Key
  reads : Token.ReadsSigned text headerText payloadText signatureText token
  expected : token.algorithm = selector.algorithm
  declared : Header.Declares headerText (Named.name selector.algorithm)
  answered : ((selector.source.signatureKeys token.header.keyId selector.algorithm).run session).1 =
    .ok candidates
  member : key ∈ candidates
  verified : key.verifySignature selector.algorithm (Bytes.ofText (Token.covered text))
    token.signature = .ok ()

/-- An encrypted text, with a key from the source of a selector that decrypts an inner text. -/
structure Opening (selector : DecryptionSelector Signing) (session : Session) (text : String)
    (inner : String) (later : Session) where
  headerText : String
  keyText : String
  ivText : String
  ciphertextText : String
  tagText : String
  token : EncryptedToken
  content : Bytes
  candidates : List Key
  key : Key
  reads : Token.ReadsEncrypted text headerText keyText ivText ciphertextText tagText token
  expected : (token.algorithm, token.method) = (selector.algorithm, selector.method)
  answered : (selector.source.decryptionKeys token.header.keyId selector.algorithm
    selector.method).run session = (.ok candidates, later)
  member : key ∈ candidates
  decrypted : key.decrypt selector.algorithm selector.method token.content = .ok content
  plain : Bytes.text? content = some inner

/-- The texts that a verifier may find a signed token in, each with the session by then. -/
inductive Carries (verifier : Verifier) (session : Session) (text : String) :
    String -> Session -> Prop
  | itself : Carries verifier session text text session
  | opened {decrypter : DecryptionSelector Signing} {inner : String} {later : Session}
      (configured : verifier.decryption = some decrypter)
      (opening : Opening decrypter session text inner later) :
      Carries verifier session text inner later

namespace Verifier

theorem payload_attested (verifier : Verifier) (selector : SignatureSelector Signing)
    (configured : verifier.signature = some selector) (text : String) (token : SignedToken)
    (run : Run) (payload : Bytes) (read : Token.ofText text = .ok (.signed token))
    (paid : ((verifier.payload (.signed token)).run run).1 = .ok payload) :
    ∃ attestation : Attestation selector run.session text, attestation.token.payload = payload := by
  rw [payload_signed, signedPayload_configured verifier run token selector configured] at paid
  obtain ⟨_, verified, rfl⟩ := (map_success _ _ _).mp ((mapError_success _ _ _).mp paid)
  obtain ⟨same, candidates, answered, key, member, accepted⟩ :=
    selector.verify_success token run verified
  cases Token.ofText_reads text (.signed token) read with
  | signed reads =>
    have declared := reads.declares.1
    rw [same] at declared
    rw [← reads.covered] at accepted
    exact ⟨⟨_, _, _, token, candidates, key, reads, same, declared, answered, member,
      accepted⟩, rfl⟩

theorem payload_opened (verifier : Verifier) (decrypter : DecryptionSelector Signing)
    (selector : SignatureSelector Signing) (decrypts : verifier.decryption = some decrypter)
    (configured : verifier.signature = some selector) (text : String) (token : EncryptedToken)
    (run : Run) (payload : Bytes) (read : Token.ofText text = .ok (.encrypted token))
    (paid : ((verifier.payload (.encrypted token)).run run).1 = .ok payload) :
    ∃ inner later signed, Nonempty (Opening decrypter run.session text inner later.session) ∧
      Token.ofText inner = .ok (.signed signed) ∧
      ((verifier.payload (.signed signed)).run later).1 = .ok payload := by
  rw [encryptedPayload_configured verifier run token decrypter selector decrypts configured]
    at paid
  rcases opened : (decrypter.decrypt token).run run with ⟨_ | content, later⟩ <;>
    rw [opened] at paid
  · cases paid
  · obtain ⟨inner, signed, ⟨plain, readInner⟩, paid⟩ :=
      contentPayload_success verifier later content payload paid
    obtain ⟨expected, after, candidates, answered, key, member, decrypted⟩ :=
      decrypter.decrypt_success token run content (by rw [opened])
    rw [opened] at after
    cases Token.ofText_reads text (.encrypted token) read with
    | encrypted reads =>
      -- The source of verification keys is asked in the session that decryption leaves behind.
      have opening : Opening decrypter run.session text inner later.session :=
        ⟨_, _, _, _, _, token, content, candidates, key, reads, expected,
          Prod.ext answered after.symm, member, decrypted, plain⟩
      exact ⟨inner, later, signed, ⟨opening⟩, readInner, paid⟩

theorem payload_carried (verifier : Verifier) (selector : SignatureSelector Signing)
    (configured : verifier.signature = some selector) (text : String) (token : Token) (run : Run)
    (payload : Bytes) (read : Token.ofText text = .ok token)
    (paid : ((verifier.payload token).run run).1 = .ok payload) :
    ∃ inner session, ∃ attestation : Attestation selector session inner,
      Carries verifier run.session text inner session ∧ attestation.token.payload = payload := by
  cases token with
  | unsecured content =>
    rw [payload_unsecured verifier run content selector configured] at paid
    cases paid
  | signed token =>
    obtain ⟨attestation, same⟩ :=
      payload_attested verifier selector configured text token run payload read paid
    exact ⟨text, run.session, attestation, .itself, same⟩
  | encrypted token =>
    cases decrypts : verifier.decryption with
    | none =>
      rw [encryptedPayload_unconfigured verifier run token (.inl decrypts)] at paid
      cases paid
    | some decrypter =>
      obtain ⟨inner, later, signed, ⟨opening⟩, readInner, paid⟩ := payload_opened verifier decrypter
        selector decrypts configured text token run payload read paid
      obtain ⟨attestation, same⟩ :=
        payload_attested verifier selector configured inner signed later payload readInner paid
      exact ⟨inner, later.session, attestation, .opened decrypts opening, same⟩

theorem claims_attested (verifier : Verifier) (selector : SignatureSelector Signing)
    (configured : verifier.signature = some selector) (text : String) (nonce : Option String)
    (now : Instant) (run : Run)
    (reached : reachesClaims ((verifier.verify text nonce now).run run).1 = true) :
    ∃ inner session, ∃ attestation : Attestation selector session inner,
      Carries verifier run.session text inner session ∧
        ((verifier.verify text nonce now).run run).1 =
          verifier.judge attestation.token.payload nonce now ∧
        Judged verifier nonce now attestation.token.payload
          ((verifier.verify text nonce now).run run).1 := by
  obtain ⟨token, payload, read, paid, outcome⟩ := verifier.verify_reaches text nonce now run reached
  obtain ⟨inner, session, attestation, carries, rfl⟩ :=
    payload_carried verifier selector configured text token run payload read paid
  exact ⟨inner, session, attestation, carries, outcome, outcome ▸ verifier.judge_judged _ nonce now⟩

end Verifier

namespace Sample

def selector : SignatureSelector Signing where
  issuer
  algorithm := .hmac .sha256
  source := ClientSecret.source "hmac key"

def verifier : Verifier := Verifier.of issuer "rp-123" (some selector) none

def signedText : String :=
  "eyJhbGciOiJIUzI1NiJ9." ++
    "eyJpc3MiOiJ1cm46b3AiLCJzdWIiOiIxIiwiYXVkIjoicnAtMTIzIiwiZXhwIjo5LCJpYXQiOjF9." ++
    "6UEmc8aUhtMrXEuOPPgDFrYDsM9ZNiFvXj6mrXx4OGo"

theorem signed_attested :
    ∃ claims, ((verifier.verify signedText none now).run run).1 = .ok claims ∧
      claims.subject = "1" ∧
      ∃ inner session, ∃ attestation : Attestation selector session inner,
        Carries verifier run.session signedText inner session ∧
          ((verifier.verify signedText none now).run run).1 =
            verifier.judge attestation.token.payload none now ∧
          ∃ members, Json.ofBytes? attestation.token.payload = some (.object members) ∧
            IdToken.ofClaims ⟨members⟩ = .ok claims := by
  have returned : ((verifier.verify signedText none now).run run).1.toOption.map (·.subject) =
      some "1" := by
    decide +kernel
  obtain ⟨claims, accepted, subject⟩ := (toOption_map_success _ _ _).mp returned
  obtain ⟨inner, session, attestation, carries, outcome, judged⟩ :=
    verifier.claims_attested selector rfl signedText none now run (by rw [accepted]; rfl)
  refine ⟨claims, accepted, subject, inner, session, attestation, carries, outcome, ?_⟩
  rw [accepted] at judged
  cases judged with
  | returned members _ spelled _ typed => exact ⟨members, spelled, typed⟩

end Sample

end RelyingParty
