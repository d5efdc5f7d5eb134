import RelyingParty.Proofs.Named
import RelyingParty.Proofs.Token.Compact
import RelyingParty.Proofs.Token.Fields

set_option autoImplicit false

namespace RelyingParty

def DeclaredAlgorithm.name : DeclaredAlgorithm -> String
  | .unsecured => "none"
  | .signing algorithm => Named.name algorithm
  | .keyManagement algorithm => Named.name algorithm

namespace Header

def Gives (segment name : String) (value : Json.Tree) : Prop :=
  ∃ bytes tree, Base64Url.decode segment = .ok bytes ∧ Json.Tree.ofBytes? bytes = some tree ∧
    (some name, value) ∈ Json.Fields.given fieldNames tree

def Declares (segment name : String) : Prop :=
  ∃ bytes tree, Base64Url.decode segment = .ok bytes ∧ Json.Tree.ofBytes? bytes = some tree ∧
    (some "alg", Json.Tree.string (some name)) ∈ Json.Fields.given fieldNames tree

theorem algorithm?_success (name : String) (algorithm : DeclaredAlgorithm) :
    algorithm? name = some algorithm ↔
      algorithm.name = name ∧ algorithm ≠ .signing .unsecured := by
  constructor
  · intro found
    unfold algorithm? at found
    split at found
    next same =>
      cases found
      exact ⟨same.symm, nofun⟩
    next other =>
      split at found
      next listed =>
        cases found
        have named := Named.name_ofName? name _ listed
        refine ⟨named, ?_⟩
        rintro ⟨⟩
        exact other named.symm
      next =>
        obtain ⟨_, listed, rfl⟩ := Option.map_eq_some_iff.mp found
        exact ⟨Named.name_ofName? name _ listed, nofun⟩
  · rintro ⟨rfl, signed⟩
    cases algorithm with
    | unsecured => rfl
    | signing algorithm =>
      have listed : Named.ofName? (Named.name algorithm) = some algorithm :=
        Named.Lawful.ofName?_name algorithm
      have other : Named.name algorithm ≠ "none" := by
        intro same
        rw [same] at listed
        exact signed (congrArg DeclaredAlgorithm.signing (Option.some.inj listed).symm)
      simp only [algorithm?, DeclaredAlgorithm.name, if_neg other, listed]
    | keyManagement algorithm =>
      have listed : Named.ofName? (Named.name algorithm) = some algorithm :=
        Named.Lawful.ofName?_name algorithm
      -- Signing algorithms are tried first, but none has a name of the other list.
      have unsigned : (Named.ofName? (Named.name algorithm) : Option Signing) = none := by
        rcases algorithm with
          _ | _ | _ | ⟨_ | _ | _⟩ | _ | _ | ⟨_ | _ | _⟩ | ⟨_ | _ | _⟩ | ⟨_ | _ | _⟩ <;> decide
      have other : Named.name algorithm ≠ "none" := by
        intro same
        rw [same] at unsigned
        cases unsigned
      simp only [algorithm?, DeclaredAlgorithm.name, if_neg other, unsigned, listed,
        Option.map_some]

theorem algorithm?_unsecured (name : String) :
    algorithm? name = some .unsecured ↔ name = "none" := by
  rw [algorithm?_success]
  simp [DeclaredAlgorithm.name, eq_comm]

theorem algorithm?_signing (name : String) (algorithm : Signing)
    (found : algorithm? name = some (.signing algorithm)) :
    name = Named.name algorithm ∧ algorithm ≠ .unsecured := by
  obtain ⟨rfl, signed⟩ := (algorithm?_success name _).mp found
  exact ⟨rfl, fun same => signed (congrArg DeclaredAlgorithm.signing same)⟩

theorem ofBytes_fields (segment : String) (bytes : Bytes) (header : Header)
    (decoded : Base64Url.decode segment = .ok bytes) (read : ofBytes bytes = .ok header) :
    ∃ fields, Holds fields header ∧
      ∀ name ∈ fieldNames, ∀ value, Gives segment name value ↔ fields.lookup name = some value := by
  obtain ⟨tree, document, whole⟩ := (ofBytes_success bytes header).mp read
  obtain ⟨fields, fieldsRead, made⟩ := Option.bind_eq_some_iff.mp whole
  refine ⟨fields, (ofFields?_success fields header).mp made, fun name listed value => ?_⟩
  rw [Json.Fields.ofTree?_lookup fieldNames (by decide) 1 tree fields fieldsRead name listed]
  simp [Gives, decoded, document]

end Header

namespace Token

theorem readHeader_success (segment : String) (header : Header) :
    readHeader segment = .ok header ↔
      ∃ bytes tree, Base64Url.decode segment = .ok bytes ∧ Json.Tree.ofBytes? bytes = some tree ∧
        Header.ofTree? tree = some header ∧ header.critical = none := by
  constructor
  · intro read
    obtain ⟨bytes, decoded, read⟩ := (bind_success _ _ _).mp read
    obtain ⟨found, headerRead, read⟩ := (bind_success _ _ _).mp read
    rw [decode_success] at decoded
    rw [mapError_success, Header.ofBytes_success] at headerRead
    obtain ⟨tree, document, whole⟩ := headerRead
    split at read
    next => cases read
    next critical =>
      cases read
      exact ⟨bytes, tree, decoded, document, whole, by simpa using critical⟩
  · rintro ⟨bytes, tree, decoded, document, whole, critical⟩
    have headerRead := (Header.ofBytes_success bytes header).mpr ⟨tree, document, whole⟩
    refine (bind_success _ _ _).mpr ⟨bytes, (decode_success _ _ _).mpr decoded, ?_⟩
    refine (bind_success _ _ _).mpr ⟨header, (mapError_success _ _ _).mpr headerRead, ?_⟩
    simp [critical]

theorem readHeader_fields (segment : String) (header : Header)
    (read : readHeader segment = .ok header) :
    ∃ fields, Header.Holds fields header ∧ header.critical = none ∧
      ∀ name ∈ Header.fieldNames, ∀ value,
        Header.Gives segment name value ↔ fields.lookup name = some value := by
  obtain ⟨bytes, tree, decoded, document, whole, critical⟩ := (readHeader_success _ _).mp read
  have headerRead := (Header.ofBytes_success bytes header).mpr ⟨tree, document, whole⟩
  obtain ⟨fields, holds, gives⟩ := Header.ofBytes_fields segment bytes header decoded headerRead
  exact ⟨fields, holds, critical, gives⟩

theorem readHeader_declares (segment : String) (header : Header)
    (read : readHeader segment = .ok header) :
    ∃ name, Header.algorithm? name = some header.algorithm ∧
      ∀ other, Header.Declares segment other ↔ other = name := by
  obtain ⟨fields, holds, _, gives⟩ := readHeader_fields segment header read
  obtain ⟨name, given, found⟩ := holds.algorithm
  refine ⟨name, found, fun other => (gives "alg" (by decide) _).trans ?_⟩
  simp [given, eq_comm]

def declared : Token -> DeclaredAlgorithm
  | .unsecured _ => .unsecured
  | .signed token => .signing token.algorithm
  | .encrypted token => .keyManagement token.algorithm

theorem Reads.header {text : String} {token : Token} (reads : Reads text token) :
    ∃ segment rest header, segments text = segment :: rest ∧ readHeader segment = .ok header ∧
      header.algorithm = token.declared ∧
      ((segments text).length = 5 -> header.compression = none) := by
  cases reads with
  | unsecured reads =>
    obtain ⟨header, read, algorithm⟩ := reads.header
    exact ⟨_, _, header, reads.cut, read, algorithm, by simp [reads.cut]⟩
  | signed reads =>
    exact ⟨_, _, _, reads.cut, reads.header, reads.algorithm, by simp [reads.cut]⟩
  | encrypted reads =>
    exact ⟨_, _, _, reads.cut, reads.header, reads.algorithm, fun _ => reads.uncompressed⟩

def Gives (text name : String) (value : Json.Tree) : Prop :=
  ∃ segment rest, segments text = segment :: rest ∧ Header.Gives segment name value

def Declares (text name : String) : Prop :=
  ∃ segment rest, segments text = segment :: rest ∧ Header.Declares segment name

theorem declares_none (text : String) (token : Token) (declares : Declares text "none")
    (read : ofText text = .ok token) : ∃ payload, token = .unsecured payload := by
  obtain ⟨segment, rest, cut, named⟩ := declares
  have unsecured (header : Header) (headerRead : readHeader segment = .ok header) :
      header.algorithm = .unsecured := by
    obtain ⟨name, found, only⟩ := readHeader_declares segment header headerRead
    rw [← (only "none").mp named] at found
    rw [(Header.algorithm?_unsecured "none").mpr rfl] at found
    exact (Option.some.inj found).symm
  cases ofText_reads text token read with
  | unsecured reads => exact ⟨_, rfl⟩
  | signed reads =>
    obtain ⟨rfl, _⟩ := List.cons.inj (reads.cut.symm.trans cut)
    simpa [reads.algorithm] using unsecured _ reads.header
  | encrypted reads =>
    obtain ⟨rfl, _⟩ := List.cons.inj (reads.cut.symm.trans cut)
    simpa [reads.algorithm] using unsecured _ reads.header

theorem ReadsUnsecured.declares {text headerText payloadText : String} {content : Bytes}
    (reads : ReadsUnsecured text headerText payloadText content) :
    Header.Declares headerText "none" := by
  obtain ⟨header, headerRead, algorithm⟩ := reads.header
  obtain ⟨name, found, only⟩ := readHeader_declares headerText header headerRead
  rw [algorithm, Header.algorithm?_unsecured] at found
  exact (only "none").mpr found.symm

theorem ReadsSigned.declares {text headerText payloadText signatureText : String}
    {token : SignedToken} (reads : ReadsSigned text headerText payloadText signatureText token) :
    Header.Declares headerText (Named.name token.algorithm) ∧ token.algorithm ≠ .unsecured := by
  obtain ⟨name, found, only⟩ := readHeader_declares headerText token.header reads.header
  rw [reads.algorithm] at found
  obtain ⟨rfl, other⟩ := Header.algorithm?_signing name token.algorithm found
  exact ⟨(only _).mpr rfl, other⟩

end Token

end RelyingParty
