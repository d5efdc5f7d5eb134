import RelyingParty.Proofs.Json.Repetition
import RelyingParty.Proofs.Token.Document

set_option autoImplicit false

namespace RelyingParty

namespace Header

structure Names (members : List (Json.Name × Json.Tree)) (header : Header) : Prop where
  once : ∀ name ∈ fieldNames, ¬ Json.Fields.Repeated name members
  algorithm : ∀ tree, (some "alg", tree) ∈ members ↔
    tree = .string (some header.algorithm.name)
  method : ∀ method, header.method = some method ↔
    ∃ tree, (some "enc", tree) ∈ members ∧ Named.ofTree? tree = some method
  keyId : ∀ id, header.keyId = some id ↔ (some "kid", .string (some id)) ∈ members

theorem Optional.given_iff {A : Type} {fields : Json.Fields} {name : String}
    {readField : Json.Tree -> Option (Option A)} {value : Option A}
    (field : Optional fields name readField value) (given : A) :
    value = some given ↔
      ∃ tree, fields.lookup name = some tree ∧ readField tree = some (some given) := by
  unfold Optional at field
  split at field
  next absent => simp [field, absent]
  next tree found => simp [found, field]

theorem text?_some (tree : Json.Tree) (text : String) :
    text? tree = some (some text) ↔ tree = .string (some text) := by
  cases tree <;> simp [text?]

theorem optionOfTree?_some {A : Type} [Named A] (tree : Json.Tree) (value : A) :
    Named.optionOfTree? tree = some (some value) ↔ Named.ofTree? tree = some value := by
  cases tree <;> simp [Named.optionOfTree?, Named.ofTree?]

theorem ofTree?_fields (members : List (Json.Name × Json.Tree)) (header : Header) :
    ofTree? (.object members) = some header ↔
      ∃ fields, Json.Fields.ofMembers? fieldNames members = some fields ∧ Holds fields header := by
  simp only [← ofFields?_success]
  exact Option.bind_eq_some_iff

theorem ofTree?_names (members : List (Json.Name × Json.Tree)) (header : Header)
    (read : ofTree? (.object members) = some header) : Names members header := by
  obtain ⟨fields, readFields, holds⟩ := (ofTree?_fields members header).mp read
  have given := Json.Fields.ofMembers?_lookup fieldNames members fields readFields
  constructor
  case once => exact ((Json.Fields.ofMembers?_readable _ _).mp ⟨fields, readFields⟩).2
  case algorithm =>
    obtain ⟨name, found, named⟩ := holds.algorithm
    obtain ⟨rfl, _⟩ := (algorithm?_success name header.algorithm).mp named
    intro tree
    rw [← given "alg" (by decide), found, Option.some.injEq, eq_comm]
  case method =>
    intro method
    simp only [holds.method.given_iff, optionOfTree?_some, given "enc" (by decide)]
  case keyId =>
    intro id
    simp only [holds.keyId.given_iff, text?_some, given "kid" (by decide), exists_eq_right]

theorem ofTree?_alike {members others : List (Json.Name × Json.Tree)}
    (alike : Json.Fields.Alike fieldNames members others) :
    ofTree? (.object others) = ofTree? (.object members) :=
  alike.read_eq (fun members => ofTree? (.object members)) Holds ofTree?_fields
    fun _ _ _ holds same => holds.congr same

end Header

namespace Token

def Spells (text : String) (members : List (Json.Name × Json.Tree)) : Prop :=
  ∃ segment rest bytes, segments text = segment :: rest ∧ Base64Url.decode segment = .ok bytes ∧
    Json.Tree.ofBytes? bytes = some (.object members)

def Repeats (text : String) : Prop :=
  ∃ members, Spells text members ∧
    ∃ name ∈ Header.fieldNames, Json.Fields.Repeated name members

def header? (text : String) : Option Header :=
  (segments text).head?.bind fun segment => (readHeader segment).toOption

theorem Spells.header? {text : String} {members : List (Json.Name × Json.Tree)}
    (spells : Spells text members) :
    Token.header? text =
      (Header.ofTree? (.object members)).filter fun header => header.critical.isNone := by
  obtain ⟨segment, rest, bytes, cut, decoded, document⟩ := spells
  refine Option.ext fun header => ?_
  simp [Token.header?, cut, readHeader_success, decoded, document, Option.filter_eq_some_iff]

/-- The header of a text protects a token in the way that the token was classified. -/
def HasHeader (header : Header) : Token -> Prop
  | .unsecured _ => header.algorithm = .unsecured
  | .signed token => token.header = header ∧ header.algorithm = .signing token.algorithm
  | .encrypted token => token.header = header ∧
    header.algorithm = .keyManagement token.algorithm ∧ header.method = some token.method

theorem ofText_header (text : String) (token : Token) (read : ofText text = .ok token) :
    ∃ header, header? text = some header ∧ HasHeader header token := by
  have found {segment : String} {rest : List String} {header : Header}
      (cut : segments text = segment :: rest) (readSegment : readHeader segment = .ok header) :
      header? text = some header := by
    simp [header?, cut, readSegment, Except.toOption]
  cases ofText_reads text token read with
  | unsecured reads =>
    obtain ⟨header, readSegment, algorithm⟩ := reads.header
    exact ⟨header, found reads.cut readSegment, algorithm⟩
  | signed reads => exact ⟨_, found reads.cut reads.header, rfl, reads.algorithm⟩
  | encrypted reads => exact ⟨_, found reads.cut reads.header, rfl, reads.algorithm, reads.method⟩

theorem Spells.names {text : String} {members : List (Json.Name × Json.Tree)}
    (spells : Spells text members) {header : Header} (read : Token.header? text = some header) :
    Header.Names members header := by
  rw [spells.header?, Option.filter_eq_some_iff] at read
  exact Header.ofTree?_names members header read.1

theorem Spells.alike {text other : String} {members others : List (Json.Name × Json.Tree)}
    (spells : Spells text members) (otherSpells : Spells other others)
    (alike : Json.Fields.Alike Header.fieldNames members others) :
    Token.header? other = Token.header? text := by
  rw [spells.header?, otherSpells.header?, Header.ofTree?_alike alike]

theorem ofText_repeats (text : String) (repeats : Repeats text) :
    ∃ fault, ofText text = .error fault := by
  cases read : ofText text with
  | error fault => exact ⟨fault, rfl⟩
  | ok token =>
    obtain ⟨members, spells, name, listed, twice⟩ := repeats
    obtain ⟨header, found, _⟩ := ofText_header text token read
    exact absurd twice ((spells.names found).once name listed)

end Token

end RelyingParty
