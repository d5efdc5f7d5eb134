import RelyingParty.Proofs.Token.Repetition
import RelyingParty.Proofs.Verification.Consultation

set_option autoImplicit false

namespace RelyingParty

def Header.Asks (header : Header) : Question Signing -> Prop
  | .signature id algorithm => header.keyId = id ∧ header.algorithm = .signing algorithm
  | .decryption id algorithm method => header.keyId = id ∧
    header.algorithm = .keyManagement algorithm ∧ header.method = some method

/-- The only members of the header of a text call for a question, if the header is an object. -/
def Token.Asks (text : String) (question : Question Signing) : Prop :=
  ∀ members, Token.Spells text members ->
    ∃ header, Header.Names members header ∧ header.Asks question

theorem Token.asks_signature (text : String) (token : SignedToken)
    (read : Token.ofText text = .ok (.signed token)) :
    Token.Asks text (.signature token.header.keyId token.algorithm) := by
  intro members spells
  obtain ⟨_, found, rfl, algorithm⟩ := Token.ofText_header text _ read
  exact ⟨token.header, spells.names found, rfl, algorithm⟩

theorem Token.asks_decryption (text : String) (token : EncryptedToken)
    (read : Token.ofText text = .ok (.encrypted token)) :
    Token.Asks text (.decryption token.header.keyId token.algorithm token.method) := by
  intro members spells
  obtain ⟨_, found, rfl, algorithm, method⟩ := Token.ofText_header text _ read
  exact ⟨token.header, spells.names found, rfl, algorithm, method⟩

namespace Verifier

variable (verifier : Verifier) (text : String) (nonce : Option String) (now : Instant) (run : Run)

inductive Considers (inner : String) : Prop
  | itself (same : inner = text)
  | contained (token : EncryptedToken) (decrypter : DecryptionSelector Signing)
      (read : Token.ofText text = .ok (.encrypted token))
      (decrypts : verifier.decryption = some decrypter)
      (opened : ((decrypter.decrypt token).run run).1 = .ok (Bytes.ofText inner))

structure ReadsOnce : Prop where
  outer : Token.Repeats text -> ∃ fault, Token.ofText text = .error fault ∧
    (verifier.verify text nonce now).run run = (.error (.shape (.token fault)), run)
  inner : ∀ inner, verifier.Considers text run inner -> verifier.signature.isSome ->
    Token.Repeats inner -> ∃ fault, Token.ofText inner = .error fault ∧
      ((verifier.verify text nonce now).run run).1 = .error (.shape (.token fault))
  classified : ∀ token members, Token.ofText text = .ok token -> Token.Spells text members ->
    ∃ header, Header.Names members header ∧ Token.HasHeader header token
  asked : ∃ decryption signature, verifier.Consulted text run decryption signature
      ((verifier.verify text nonce now).run run).2 ∧
    (∀ call ∈ decryption, Token.Asks text call.question) ∧
    ∀ call ∈ signature, ∃ inner, verifier.Considers text run inner ∧ Token.Asks inner call.question
  surrounded : ∀ other members others, Token.Spells text members -> Token.Spells other others ->
    Json.Fields.Alike Header.fieldNames members others -> Token.header? other = Token.header? text

theorem verify_repeats (repeats : Token.Repeats text) : ∃ fault, Token.ofText text = .error fault ∧
    (verifier.verify text nonce now).run run = (.error (.shape (.token fault)), run) := by
  obtain ⟨fault, read⟩ := Token.ofText_repeats text repeats
  refine ⟨fault, read, ?_⟩
  unfold verify
  rw [read]
  rfl

theorem header_read_once : ReadsOnce verifier text nonce now run := by
  constructor
  case outer => exact verifier.verify_repeats text nonce now run
  case inner =>
    rintro inner (rfl | ⟨token, decrypter, read, decrypts, opened⟩) signed repeats
    · obtain ⟨fault, read, refused⟩ := verifier.verify_repeats inner nonce now run repeats
      exact ⟨fault, read, congrArg Prod.fst refused⟩
    · obtain ⟨selector, configured⟩ := Option.isSome_iff_exists.mp signed
      obtain ⟨fault, readInner⟩ := Token.ofText_repeats inner repeats
      obtain ⟨later, outcome⟩ := verifier.verify_contained text nonce now run token decrypter
        selector decrypts configured read inner opened
      exact ⟨fault, readInner, by rw [outcome, readInner]⟩
  case classified =>
    intro token members read spells
    obtain ⟨header, found, classified⟩ := Token.ofText_header text token read
    exact ⟨header, spells.names found, classified⟩
  case asked =>
    obtain ⟨decryption, signature, consulted, _⟩ := verifier.sources_consulted text nonce now run
    refine ⟨decryption, signature, consulted, fun call made => ?_, fun call made => ?_⟩
    · obtain ⟨token, decrypter, read, _, _, algorithm, method⟩ :=
        (consulted.decrypting call).mp made
      have asks := Token.asks_decryption text token read
      rwa [algorithm, method] at asks
    · obtain ⟨token, selector, configured, reached, declared⟩ := (consulted.verifying call).mp made
      -- The token that was reached is the text itself or the content of the one around it.
      have asks (inner : String) (read : Token.ofText inner = .ok (.signed token)) :
          Token.Asks inner (selector.call token).question := by
        have asks := Token.asks_signature inner token read
        rwa [declared] at asks
      obtain read | ⟨outer, decrypter, content, inner, read, decrypts, opened, plain, readInner⟩ :=
        reached
      · exact ⟨text, .itself rfl, asks text read⟩
      · rw [(Bytes.text?_ofText content inner).mp plain] at opened
        exact ⟨inner, .contained outer decrypter read decrypts opened, asks inner readInner⟩
  case surrounded => exact fun other members others => Token.Spells.alike

end Verifier

namespace Sample

/-- A text whose header repeats a field, under a name that is written otherwise. -/
def repeatedText : String := "eyJhbGciOjAsIlx1MDA2MWxnIjowfQ.."

def repeatsField (bytes : Bytes) : Bool :=
  match Json.Tree.ofBytes? bytes with
  | some (.object members) =>
    Header.fieldNames.any fun name => decide (Json.Fields.Repeated name members)
  | _ => false

def nestedRepeatedText : String :=
  "eyJhbGciOiJkaXIiLCJlbmMiOiJBMTI4R0NNIn0..AAAAAAAAAAAAAAAA." ++
    "J5tgLZvN76rAPNDD7MBAs_Ot_4x-fM0gpvkrSj8P8eU.REXixhqfxASB5klmIg8dhw"

def surroundedText : String := "eyJhbGciOiJub25lIiwieCI6bnVsbCwieCI6bnVsbH0.e30."

def surroundedMembers : List (Json.Name × Json.Tree) :=
  [(some "alg", .string (some "none")), (some "x", .null), (some "x", .null)]

theorem repeatedText_repeats : Token.Repeats repeatedText := by
  have cut : Token.segments repeatedText = ["eyJhbGciOjAsIlx1MDA2MWxnIjowfQ", "", ""] := by
    decide +kernel
  have decoded : (Base64Url.decode "eyJhbGciOjAsIlx1MDA2MWxnIjowfQ").toOption =
      some (Bytes.ofText "\x7b\"alg\":0,\"\\u0061lg\":0\x7d") := by
    decide +kernel
  have twice : repeatsField (Bytes.ofText "\x7b\"alg\":0,\"\\u0061lg\":0\x7d") = true := by
    decide +kernel
  unfold repeatsField at twice
  split at twice
  next members document =>
    exact ⟨members, ⟨_, _, _, cut, (toOption_success _ _).mp decoded, document⟩,
      by simpa using twice⟩
  next => cases twice

set_option maxRecDepth 10000 in
theorem surrounded_spelled : Token.Spells surroundedText surroundedMembers := by
  have cut : Token.segments surroundedText =
      ["eyJhbGciOiJub25lIiwieCI6bnVsbCwieCI6bnVsbH0", "e30", ""] := by
    decide +kernel
  have decoded : (Base64Url.decode "eyJhbGciOiJub25lIiwieCI6bnVsbCwieCI6bnVsbH0").toOption =
      some (Bytes.ofText "\x7b\"alg\":\"none\",\"x\":null,\"x\":null\x7d") := by
    decide +kernel
  exact ⟨_, _, _, cut, (toOption_success _ _).mp decoded, by with_unfolding_all rfl⟩

theorem repeated_refused :
    (∃ fault, (verifier.verify repeatedText none now).run run =
      (.error (.shape (.token fault)), run)) ∧
    (∃ fault, ((nestingVerifier.verify nestedRepeatedText none now).run run).1 =
      .error (.shape (.token fault))) ∧
    ∃ token header, Token.ofText surroundedText = .ok token ∧
      Header.Names surroundedMembers header ∧ Token.HasHeader header token := by
  have repeats := repeatedText_repeats
  have opens : opensTo nestedRepeatedText repeatedText = true := by decide +kernel
  have accepted : (Token.ofText surroundedText).toOption.isSome = true := by decide +kernel
  refine ⟨?_, ?_, ?_⟩
  · obtain ⟨fault, _, refused⟩ :=
      (verifier.header_read_once repeatedText none now run).outer repeats
    exact ⟨fault, refused⟩
  · obtain ⟨token, read, opened⟩ := opensTo_token opens
    obtain ⟨fault, _, refused⟩ :=
      (nestingVerifier.header_read_once nestedRepeatedText none now run).inner repeatedText
        (.contained token decrypter read rfl opened) rfl repeats
    exact ⟨fault, refused⟩
  · obtain ⟨token, read⟩ := Option.isSome_iff_exists.mp accepted
    have read := (toOption_success _ _).mp read
    obtain ⟨header, names, classified⟩ :=
      (openVerifier.header_read_once surroundedText none now run).classified token _ read
        surrounded_spelled
    exact ⟨token, header, read, names, classified⟩

end Sample

end RelyingParty
