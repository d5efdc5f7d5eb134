import RelyingParty.Proofs.Token.Writing
import RelyingParty.Proofs.Verification.Unsecured

set_option autoImplicit false

namespace RelyingParty

open Base64Url (encode)

namespace Token

theorem segments_append (front rest : String) :
    segments (front ++ "." ++ rest) = segments front ++ segments rest := by
  have cut := List.splitOn_append_cons_self (a := '.') front.toList rest.toList
  simp [segments, cut]

theorem segments_single (text : String) (dotless : '.' ∉ text.toList) : segments text = [text] := by
  rw [segments, List.splitOn_eq_singleton dotless]
  simp

theorem parts_head (headerText : String) (token : Token) :
    (parts headerText token).head? = some headerText := by
  cases token <;> rfl

theorem Heads.signed_only {headerText : String} {token : SignedToken} {other : Token}
    (heads : Heads headerText (.signed token)) (others : Heads headerText other) :
    ∃ signed, other = .signed signed ∧ signed.algorithm = token.algorithm := by
  obtain ⟨read, declared, _⟩ := heads
  cases other with
  | unsecured content =>
    obtain ⟨header, readOther, unsecured⟩ := others
    cases read.symm.trans readOther
    cases declared.symm.trans unsecured
  | signed signed =>
    obtain ⟨readOther, declaredOther, _⟩ := others
    have same := Except.ok.inj (readOther.symm.trans read)
    rw [same, declared] at declaredOther
    exact ⟨signed, rfl, (DeclaredAlgorithm.signing.inj declaredOther).symm⟩
  | encrypted encrypted =>
    obtain ⟨readOther, _, keyManagement, _⟩ := others
    rw [Except.ok.inj (readOther.symm.trans read), declared] at keyManagement
    cases keyManagement

end Token

namespace Verifier

variable (issuer : UrlText) (clientId : String) (hash : Sha2) (secret : String) (skew : Duration)
  (context : Option String -> Except String Unit) (time : Option Instant -> Except String Unit)

def authenticated : Verifier :=
  (((ofClientSecret issuer clientId (.hmac hash) secret).withSkew skew).withAuthContext
    context).withAuthTime time

def codeOf (text : String) : Bytes := Hmac.code hash (Bytes.ofText secret) (Bytes.ofText text)

theorem verifyWith_secret (token : SignedToken) :
    (SignatureSelector.mk issuer (.hmac hash) (ClientSecret.source secret)).verifyWith token
        [Key.symmetric (Bytes.ofText secret)] =
      if codeOf hash secret token.signingInput = token.signature then .ok ()
      else .error .notVerified := by
  -- The secret is a key without use or identifier, so its code is all that is compared.
  have attempted : (Key.symmetric (Bytes.ofText secret)).verifySignature (.hmac hash)
      (Bytes.ofText token.signingInput) token.signature =
      require (codeOf hash secret token.signingInput == token.signature) .badMac := rfl
  simp only [SignatureSelector.verifyWith, firstSuccess?, attempted]
  by_cases same : codeOf hash secret token.signingInput = token.signature <;>
    simp [same, require, orFault]

theorem payload_authenticated (token : SignedToken) (run : Run) :
    (((authenticated issuer clientId hash secret skew context time).payload (.signed token)).run
        run).1 =
      if token.algorithm = .hmac hash then
        if codeOf hash secret token.signingInput = token.signature then .ok token.payload
        else .error (.protection .notVerified)
      else .error (.protection (.otherSigning (.hmac hash) token.algorithm)) := by
  rw [payload_signed, signedPayload_configured _ run token
    { issuer, algorithm := .hmac hash, source := ClientSecret.source secret } rfl]
  dsimp only
  rw [SignatureSelector.verify_outcome]
  dsimp only
  split
  next expected =>
    change (((SignatureSelector.mk issuer (.hmac hash) (ClientSecret.source secret)).verifyWith
      token [Key.symmetric (Bytes.ofText secret)]).map _).mapError _ = _
    rw [verifyWith_secret]
    split <;> rfl
  next => rfl

theorem accepted_coded (text : String) (nonce : Option String) (now : Instant) (run : Run)
    (accepted : reachesClaims (((authenticated issuer clientId hash secret skew context time).verify
      text nonce now).run run).1 = true) :
    ∃ token, Token.ofText text = .ok (.signed token) ∧ token.algorithm = .hmac hash ∧
      token.signature = codeOf hash secret token.signingInput := by
  obtain ⟨token, payload, read, paid, _⟩ := verify_reaches _ text nonce now run accepted
  cases token with
  | unsecured content =>
    rw [payload_unsecured _ run content _ rfl] at paid
    cases paid
  | encrypted token =>
    rw [encryptedPayload_unconfigured _ run token (.inl rfl)] at paid
    cases paid
  | signed token =>
    rw [payload_authenticated] at paid
    split at paid
    next expected =>
      split at paid
      next same => exact ⟨token, read, expected, same.symm⟩
      next => cases paid
    next => cases paid

/-- An outcome for a text whose protection is not what it says, or that is no token at all. -/
def NotAuthentic (outcome : Except VerificationFault IdToken) : Prop :=
  Refused outcome .signatureInvalid ∨ ∃ fault, outcome = .error (.shape fault)

theorem NotAuthentic.unreached {outcome : Except VerificationFault IdToken}
    (unproven : NotAuthentic outcome) : reachesClaims outcome = false := by
  obtain ⟨_, rfl, _⟩ | ⟨_, rfl⟩ := unproven <;> rfl

theorem altered_refused (front signature other : String) (token : SignedToken)
    (dotless : '.' ∉ signature.toList)
    (read : Token.ofText (front ++ "." ++ signature) = .ok (.signed token))
    (expected : token.algorithm = .hmac hash)
    (coded : token.signature = codeOf hash secret token.signingInput) (altered : other ≠ signature)
    (nonce : Option String) (now : Instant) (run : Run) :
    NotAuthentic (((authenticated issuer clientId hash secret skew context time).verify
      (front ++ "." ++ other) nonce now).run run).1 := by
  cases readOther : Token.ofText (front ++ "." ++ other) with
  | error fault =>
    right
    rw [verify_outcome, readOther]
    exact ⟨_, rfl⟩
  | ok found =>
    obtain ⟨headerText, heads, cut, _⟩ := Token.ofText_parts _ _ read
    obtain ⟨otherHeader, headsOther, cutOther, _⟩ := Token.ofText_parts _ _ readOther
    rw [Token.segments_append, Token.segments_single signature dotless] at cut
    obtain ⟨frontCut, spelled⟩ : Token.segments front = [headerText, encode token.payload] ∧
        [signature] = [encode token.signature] := List.append_inj' cut rfl
    rw [Token.segments_append, frontCut] at cutOther
    -- Both texts have one header, so the other one is signed with the same algorithm too.
    have sameHeader : headerText = otherHeader := by
      have first := Token.parts_head otherHeader found
      rw [← cutOther] at first
      exact Option.some.inj first
    subst sameHeader
    obtain ⟨signed, rfl, sameAlgorithm⟩ := heads.signed_only headsOther
    obtain ⟨payload, last⟩ : encode token.payload = encode signed.payload ∧
        Token.segments other = [encode signed.signature] := by
      simpa [Token.parts] using cutOther
    have sameInput : signed.signingInput = token.signingInput := by
      rw [heads.2.2, headsOther.2.2, payload]
    have uncoded : codeOf hash secret signed.signingInput ≠ signed.signature := by
      intro same
      rw [sameInput, ← coded] at same
      have joined := Token.intercalate_segments other
      rw [last, ← same, ← spelled] at joined
      exact altered joined.symm
    have refused := payload_authenticated issuer clientId hash secret skew context time signed run
    rw [if_pos (sameAlgorithm.trans expected), if_neg uncoded] at refused
    exact .inl ⟨.notVerified, verify_fault _ _ nonce now run _ _ readOther refused, rfl⟩

theorem tampering_refused (front signature other : String) (nonce otherNonce : Option String)
    (now otherNow : Instant) (run otherRun : Run) (dotless : '.' ∉ signature.toList)
    (accepted : reachesClaims (((authenticated issuer clientId hash secret skew context time).verify
      (front ++ "." ++ signature) nonce now).run run).1 = true) :
    let outcome := (((authenticated issuer clientId hash secret skew context time).verify
      (front ++ "." ++ other) otherNonce otherNow).run otherRun).1
    (other ≠ signature -> NotAuthentic outcome) ∧
      (reachesClaims outcome = true -> front ++ "." ++ signature = front ++ "." ++ other) := by
  obtain ⟨token, read, expected, coded⟩ := accepted_coded issuer clientId hash secret skew context
    time _ nonce now run accepted
  have refused (altered : other ≠ signature) := altered_refused issuer clientId hash secret skew
    context time front signature other token dotless read expected coded altered otherNonce otherNow
    otherRun
  refine ⟨refused, fun reached => ?_⟩
  by_cases same : other = signature
  next => rw [same]
  next =>
    rw [(refused same).unreached] at reached
    cases reached

end Verifier

namespace Sample

def secretVerifier : Verifier :=
  Verifier.authenticated issuer "rp-123" .sha256 "hmac key" .zero
    (fun _ => .ok ()) (fun _ => .ok ())

def coveredText : String :=
  "eyJhbGciOiJIUzI1NiJ9." ++
    "eyJpc3MiOiJ1cm46b3AiLCJzdWIiOiIxIiwiYXVkIjoicnAtMTIzIiwiZXhwIjo5LCJpYXQiOjF9"

def codeText : String := "6UEmc8aUhtMrXEuOPPgDFrYDsM9ZNiFvXj6mrXx4OGo"

theorem altered_code_refused :
    '.' ∉ codeText.toList ∧
      Verifier.reachesClaims
        ((secretVerifier.verify (coveredText ++ "." ++ codeText) none now).run run).1 = true ∧
      ∀ other, other ≠ codeText -> Verifier.NotAuthentic
        ((secretVerifier.verify (coveredText ++ "." ++ other) none now).run run).1 := by
  have dotless : '.' ∉ codeText.toList := by decide
  have accepted : Verifier.reachesClaims
      ((secretVerifier.verify (coveredText ++ "." ++ codeText) none now).run run).1 = true := by
    decide +kernel
  refine ⟨dotless, accepted, fun other altered => ?_⟩
  exact (Verifier.tampering_refused issuer "rp-123" .sha256 "hmac key" .zero _ _
    coveredText codeText other none none now now run run dotless accepted).1 altered

end Sample

end RelyingParty
