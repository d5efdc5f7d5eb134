import RelyingParty.Proofs.Verification.Nesting

set_option autoImplicit false

namespace RelyingParty

namespace Token

def Extended (text : String) : Prop :=
  ∃ value, value ≠ Json.Tree.null ∧
    (Gives text "crit" value ∨ (segments text).length = 5 ∧ Gives text "zip" value)

theorem readHeader_critical (segment : String) (header : Header)
    (read : readHeader segment = .ok header) (value : Json.Tree)
    (given : Header.Gives segment "crit" value) : value = .null := by
  obtain ⟨fields, holds, critical, gives⟩ := readHeader_fields segment header read
  have found := holds.critical.given ((gives "crit" (by decide) value).mp given)
  exact (Header.texts?_none value).mp (critical ▸ found)

theorem readHeader_compression (segment : String) (header : Header)
    (read : readHeader segment = .ok header) (uncompressed : header.compression = none)
    (value : Json.Tree) (given : Header.Gives segment "zip" value) : value = .null := by
  obtain ⟨fields, holds, _, gives⟩ := readHeader_fields segment header read
  have found := holds.compression.given ((gives "zip" (by decide) value).mp given)
  exact (Header.text?_none value).mp (uncompressed ▸ found)

theorem ofText_extended (text : String) (extended : Extended text) :
    ∃ fault, ofText text = .error fault := by
  cases read : ofText text with
  | error fault => exact ⟨fault, rfl⟩
  | ok token =>
    obtain ⟨value, present, given⟩ := extended
    obtain ⟨segment, rest, header, cut, headerRead, _, uncompressed⟩ :=
      (ofText_reads text token read).header
    -- A header that is accepted gives no other value than null.
    obtain ⟨_, _, otherCut, given⟩ | ⟨five, _, _, otherCut, given⟩ := given
    · obtain ⟨rfl, _⟩ := List.cons.inj (cut.symm.trans otherCut)
      exact absurd (readHeader_critical segment header headerRead value given) present
    · obtain ⟨rfl, _⟩ := List.cons.inj (cut.symm.trans otherCut)
      exact absurd
        (readHeader_compression segment header headerRead (uncompressed five) value given) present

def Fault.Extension (fault : Fault) : Prop := fault = .criticalHeader ∨ fault = .compressed

theorem decode_step {A : Type} {segment : Segment} {text : String}
    {next : Bytes -> Except Fault A} {fault : Fault} (extension : fault.Extension)
    (failed : (decode segment text >>= next) = .error fault) :
    ∃ bytes, Base64Url.decode text = .ok bytes ∧ next bytes = .error fault := by
  obtain undecoded | ⟨bytes, decoded, failed⟩ := (bind_failure _ _ _).mp failed
  · obtain ⟨cause, _, rfl⟩ := (mapError_failure _ _ _).mp undecoded
    simp [Fault.Extension] at extension
  · exact ⟨bytes, (decode_success _ _ _).mp decoded, failed⟩

theorem readHeader_refused (segment : String) (fault : Fault)
    (failed : readHeader segment = .error fault) (extension : fault.Extension) :
    ∃ value, value ≠ Json.Tree.null ∧ Header.Gives segment "crit" value := by
  obtain ⟨bytes, decoded, failed⟩ := decode_step extension failed
  obtain unread | ⟨header, read, failed⟩ := (bind_failure _ _ _).mp failed
  · obtain ⟨cause, _, rfl⟩ := (mapError_failure _ _ _).mp unread
    simp [Fault.Extension] at extension
  rw [mapError_success] at read
  split at failed
  next critical =>
    obtain ⟨fields, holds, gives⟩ := Header.ofBytes_fields segment bytes header decoded read
    obtain ⟨value, present, found⟩ := holds.critical.present rfl critical
    exact ⟨value, present, (gives "crit" (by decide) value).mpr found⟩
  next => cases failed

theorem readSigned_refused (headerText payloadText signatureText : String) (fault : Fault)
    (failed : readSigned headerText payloadText signatureText = .error fault)
    (extension : fault.Extension) :
    ∃ value, value ≠ Json.Tree.null ∧ Header.Gives headerText "crit" value := by
  obtain unread | ⟨header, _, failed⟩ := (bind_failure _ _ _).mp failed
  · exact readHeader_refused headerText fault unread extension
  -- Once the header is accepted, no fault is one of an extension.
  exfalso
  obtain ⟨payload, _, failed⟩ := decode_step extension failed
  split at failed
  next =>
    split at failed
    next => cases failed
    next =>
      cases failed
      simp [Fault.Extension] at extension
  next =>
    obtain ⟨signature, _, returned⟩ := decode_step extension failed
    cases returned
  next =>
    cases failed
    simp [Fault.Extension] at extension

theorem readEncrypted_refused (headerText keyText ivText ciphertextText tagText : String)
    (fault : Fault)
    (failed : readEncrypted headerText keyText ivText ciphertextText tagText = .error fault)
    (extension : fault.Extension) :
    ∃ value, value ≠ Json.Tree.null ∧
      (Header.Gives headerText "crit" value ∨ Header.Gives headerText "zip" value) := by
  obtain unread | ⟨header, headerRead, failed⟩ := (bind_failure _ _ _).mp failed
  · obtain ⟨value, present, given⟩ := readHeader_refused headerText fault unread extension
    exact ⟨value, present, .inl given⟩
  split at failed
  next compressed =>
    obtain ⟨fields, holds, _, gives⟩ := readHeader_fields headerText header headerRead
    obtain ⟨value, present, found⟩ := holds.compression.present rfl compressed
    exact ⟨value, present, .inr ((gives "zip" (by decide) value).mpr found)⟩
  next =>
    exfalso
    split at failed
    next =>
      obtain ⟨key, _, failed⟩ := decode_step extension failed
      obtain ⟨iv, _, failed⟩ := decode_step extension failed
      obtain ⟨ciphertext, _, failed⟩ := decode_step extension failed
      obtain ⟨tag, _, returned⟩ := decode_step extension failed
      cases returned
    next =>
      cases failed
      simp [Fault.Extension] at extension
    next =>
      cases failed
      simp [Fault.Extension] at extension

theorem ofText_refused (text : String) (fault : Fault) (failed : ofText text = .error fault)
    (extension : fault.Extension) : Extended text := by
  unfold ofText at failed
  split at failed
  next headerText payloadText signatureText cut =>
    obtain ⟨value, present, given⟩ := readSigned_refused _ _ _ fault failed extension
    exact ⟨value, present, .inl ⟨_, _, cut, given⟩⟩
  next headerText keyText ivText ciphertextText tagText cut =>
    obtain ⟨value, present, critical | compressed⟩ :=
      readEncrypted_refused _ _ _ _ _ fault failed extension
    · exact ⟨value, present, .inl ⟨_, _, cut, critical⟩⟩
    · exact ⟨value, present, .inr ⟨by simp [cut], _, _, cut, compressed⟩⟩
  next =>
    cases failed
    simp [Fault.Extension] at extension

end Token

namespace Verifier

variable (verifier : Verifier) (text : String) (nonce : Option String) (now : Instant) (run : Run)

/--
What a verifier makes of an extended text, by itself or as the content of an encrypted token. A text
is refused for an extension only if it has one.
-/
structure RefusesExtended : Prop where
  outer : Token.Extended text -> ∃ fault, Token.ofText text = .error fault ∧
    (verifier.verify text nonce now).run run = (.error (.shape (.token fault)), run)
  inner : ∀ decrypter selector token inner, verifier.decryption = some decrypter ->
    verifier.signature = some selector -> Token.ofText text = .ok (.encrypted token) ->
    ((decrypter.decrypt token).run run).1 = .ok (Bytes.ofText inner) -> Token.Extended inner ->
      ∃ fault, Token.ofText inner = .error fault ∧
        ((verifier.verify text nonce now).run run).1 = .error (.shape (.token fault))
  only : ∀ fault, Token.ofText text = .error fault -> fault.Extension -> Token.Extended text

theorem extensions_refused : RefusesExtended verifier text nonce now run := by
  constructor
  case outer =>
    intro extended
    obtain ⟨fault, read⟩ := Token.ofText_extended text extended
    refine ⟨fault, read, ?_⟩
    unfold verify
    rw [read]
    rfl
  case inner =>
    intro decrypter selector token inner decrypts configured read opened extended
    obtain ⟨fault, readInner⟩ := Token.ofText_extended inner extended
    obtain ⟨later, outcome⟩ := verifier.verify_contained text nonce now run token decrypter selector
      decrypts configured read inner opened
    exact ⟨fault, readInner, by rw [outcome, readInner]⟩
  case only => exact Token.ofText_refused text

end Verifier

namespace Sample

def criticalText : String := "eyJhbGciOiJIUzI1NiIsImNyaXQiOlsiZXhwIl19.e30."

def textFault? (text : String) : Option Token.Fault :=
  match Token.ofText text with
  | .error fault => some fault
  | .ok _ => none

def nestedCriticalText : String :=
  "eyJhbGciOiJkaXIiLCJlbmMiOiJBMTI4R0NNIn0..AAAAAAAAAAAAAAAA." ++
    "J5tgLZvN76rAP9v58NZxs_CA9816Rvs3jssVVBYyrKJf6Jz0CA_U5iRiU3O1.cNcBakemI1kTqUi3Ac1tsw"

theorem critical_refused :
    Token.Extended criticalText ∧
      (verifier.verify criticalText none now).run run =
        (.error (.shape (.token .criticalHeader)), run) ∧
      ((nestingVerifier.verify nestedCriticalText none now).run run).1 =
        .error (.shape (.token .criticalHeader)) := by
  have found : textFault? criticalText = some .criticalHeader := by decide +kernel
  have read : Token.ofText criticalText = .error .criticalHeader := by
    unfold textFault? at found
    split at found <;> simp_all
  have opens : opensTo nestedCriticalText criticalText = true := by decide +kernel
  have refuses := verifier.extensions_refused criticalText none now run
  have nested := nestingVerifier.extensions_refused nestedCriticalText none now run
  have extended := refuses.only _ read (.inl rfl)
  obtain ⟨fault, same, refused⟩ := refuses.outer extended
  obtain rfl := Except.error.inj (same.symm.trans read)
  refine ⟨extended, refused, ?_⟩
  obtain ⟨token, readNested, opened⟩ := opensTo_token opens
  obtain ⟨fault, same, refused⟩ :=
    nested.inner decrypter selector token criticalText rfl rfl readNested opened extended
  obtain rfl := Except.error.inj (same.symm.trans read)
  exact refused

def nullCriticalText : String :=
  "eyJhbGciOiJub25lIiwiY3JpdCI6bnVsbH0." ++
    "eyJpc3MiOiJ1cm46b3AiLCJzdWIiOiIxIiwiYXVkIjoicnAtMTIzIiwiZXhwIjo5LCJpYXQiOjF9."

def givesNull (bytes : Bytes) (name : String) : Bool :=
  match Json.Tree.ofBytes? bytes with
  | some (.object members) =>
    match members.lookup (some name) with
    | some .null => true
    | _ => false
  | _ => false

theorem null_critical_accepted :
    (∃ segment rest bytes members, Token.segments nullCriticalText = segment :: rest ∧
      Base64Url.decode segment = .ok bytes ∧ Json.Tree.ofBytes? bytes = some (.object members) ∧
      members.lookup (some "crit") = some .null) ∧
      ∃ claims, ((openVerifier.verify nullCriticalText none now).run run).1 = .ok claims := by
  have cut : Token.segments nullCriticalText = ["eyJhbGciOiJub25lIiwiY3JpdCI6bnVsbH0",
      "eyJpc3MiOiJ1cm46b3AiLCJzdWIiOiIxIiwiYXVkIjoicnAtMTIzIiwiZXhwIjo5LCJpYXQiOjF9", ""] := by
    decide +kernel
  have decoded : (Base64Url.decode "eyJhbGciOiJub25lIiwiY3JpdCI6bnVsbH0").toOption =
      some (Bytes.ofText "\x7b\"alg\":\"none\",\"crit\":null\x7d") := by
    decide +kernel
  have given : givesNull (Bytes.ofText "\x7b\"alg\":\"none\",\"crit\":null\x7d") "crit" = true := by
    decide +kernel
  have accepted :
      ((openVerifier.verify nullCriticalText none now).run run).1.toOption.isSome = true := by
    decide +kernel
  obtain ⟨claims, accepted⟩ := Option.isSome_iff_exists.mp accepted
  refine ⟨?_, claims, (toOption_success _ _).mp accepted⟩
  unfold givesNull at given
  split at given
  next members document =>
    split at given
    next null => exact ⟨_, _, _, members, cut, (toOption_success _ _).mp decoded, document, null⟩
    next => cases given
  next => cases given

end Sample

end RelyingParty
