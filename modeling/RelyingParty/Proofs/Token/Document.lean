import RelyingParty.Proofs.Token.Declared

set_option autoImplicit false

namespace RelyingParty

structure Header.Spelled (segment : String) (document : Json.Tree) (members : Json.Fields)
    (header : Header) : Prop where
  decoded : ∃ bytes, Base64Url.decode segment = .ok bytes ∧
    Json.Tree.ofBytes? bytes = some document
  stands : Header.Stands document members
  makes : Header.Makes members header
  understood : header.critical = none

theorem Header.Makes.algorithm {members : Json.Fields} {header : Header}
    (makes : Header.Makes members header) :
    ∃ name, (∀ value, ("alg", value) ∈ members ↔ value = .string (some name)) ∧
      Header.algorithm? name = some header.algorithm := by
  obtain ⟨name, found, named⟩ := makes.holds.algorithm
  refine ⟨name, fun value => ?_, named⟩
  have once := Json.Fields.ofMembers?_lookup _ _ _ makes.read "alg" (by decide) value
  rw [Json.Fields.known_lookup _ members "alg" (by decide), found] at once
  simpa [eq_comm] using once.symm

namespace Token

theorem readHeader_spelled (segment : String) (header : Header) :
    readHeader segment = .ok header ↔
      ∃ document members, Header.Spelled segment document members header := by
  rw [readHeader_success]
  constructor
  · rintro ⟨bytes, document, decoded, read, whole, critical⟩
    obtain ⟨members, stands, makes⟩ := (Header.ofTree?_success document header).mp whole
    exact ⟨document, members, ⟨bytes, decoded, read⟩, stands, makes, critical⟩
  · rintro ⟨document, members, ⟨bytes, decoded, read⟩, stands, makes, critical⟩
    have whole := (Header.ofTree?_success document header).mpr ⟨members, stands, makes⟩
    exact ⟨bytes, document, decoded, read, whole, critical⟩

def Headed (text : String) (algorithm : DeclaredAlgorithm) : Prop :=
  ∃ segment rest document members header, segments text = segment :: rest ∧
    Header.Spelled segment document members header ∧ header.algorithm = algorithm ∧
    algorithm ≠ .signing .unsecured ∧
    ∀ value, ("alg", value) ∈ members ↔ value = Json.Tree.string (some algorithm.name)

theorem Reads.headed {text : String} {token : Token} (reads : Reads text token) :
    Headed text token.declared := by
  obtain ⟨segment, rest, header, cut, read, declared, _⟩ := reads.header
  obtain ⟨document, members, spelled⟩ := (readHeader_spelled segment header).mp read
  obtain ⟨name, given, named⟩ := spelled.makes.algorithm
  obtain ⟨rfl, signed⟩ := (Header.algorithm?_success name header.algorithm).mp named
  rw [declared] at signed given
  exact ⟨segment, rest, document, members, header, cut, spelled, declared, signed, given⟩

theorem header_documents (text : String) :
    (∀ segment header, readHeader segment = .ok header ↔
        ∃ document members, Header.Spelled segment document members header) ∧
      ∀ token, ofText text = .ok token -> Headed text token.declared :=
  ⟨readHeader_spelled, fun token read => (ofText_reads text token read).headed⟩

namespace Sample

def hmacText : String := "eyJhbGciOiJIUzI1NiJ9.e30."

theorem hmac_headed : ∃ token, ofText hmacText = .ok token ∧
    token.declared = .signing (.hmac .sha256) ∧ Headed hmacText (.signing (.hmac .sha256)) := by
  have reads : (ofText hmacText).toOption.map declared = some (.signing (.hmac .sha256)) := by
    decide +kernel
  obtain ⟨token, read, algorithm⟩ := Option.map_eq_some_iff.mp reads
  rw [toOption_success] at read
  exact ⟨token, read, algorithm, algorithm ▸ (header_documents hmacText).2 token read⟩

def arrayText : String := "WyJub25lIl0.e30."

def items? (bytes : Bytes) : Option (List Json.Tree) :=
  match Json.Tree.ofBytes? bytes with
  | some (.array items) => some items
  | _ => none

theorem array_accepted :
    (∃ segment rest bytes items, segments arrayText = segment :: rest ∧
      Base64Url.decode segment = .ok bytes ∧ Json.Tree.ofBytes? bytes = some (.array items)) ∧
      ∃ token, ofText arrayText = .ok token := by
  have cut : segments arrayText = ["WyJub25lIl0", "e30", ""] := by decide +kernel
  have decoded : (Base64Url.decode "WyJub25lIl0").toOption = some (Bytes.ofText "[\"none\"]") := by
    decide +kernel
  have listed : (items? (Bytes.ofText "[\"none\"]")).isSome = true := by decide +kernel
  have accepted : (ofText arrayText).toOption.isSome = true := by decide +kernel
  obtain ⟨token, read⟩ := Option.isSome_iff_exists.mp accepted
  refine ⟨?_, token, (toOption_success _ _).mp read⟩
  unfold items? at listed
  split at listed
  next items document => exact ⟨_, _, _, items, cut, (toOption_success _ _).mp decoded, document⟩
  next => cases listed

end Sample

end Token

end RelyingParty
