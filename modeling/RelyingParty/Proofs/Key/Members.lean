import RelyingParty.Proofs.Json.Repetition
import RelyingParty.Proofs.Json.Value
import RelyingParty.Proofs.Key.Fields
import RelyingParty.Proofs.Named

set_option autoImplicit false

namespace RelyingParty

namespace Json.Fields

variable {fields : Fields} {name : String}

theorem found_iff {A : Type} (found value : Option A) :
    found = value ↔ ∀ given, value = some given ↔ found = some given :=
  eq_comm.trans Option.ext_iff

theorem optionalText?_success (value : Option String) :
    fields.optionalText? name = some value ↔
      (∀ tree, fields.lookup name = some tree ->
        tree = .null ∨ ∃ text, tree = .string (some text)) ∧
      ∀ text, value = some text ↔ fields.lookup name = some (.string (some text)) := by
  unfold optionalText? optional?
  cases fields.lookup name with
  | none => simpa using found_iff none value
  | some tree =>
    cases tree with
    | null => simpa using found_iff none value
    | string text =>
      cases text with
      | none => simp [Tree.string?]
      | some text => simpa [Tree.string?] using found_iff (some text) value
    | bool _ | number _ | array _ | object _ => simp [Tree.string?]

theorem lenient?_success {A : Type} (read : Json -> Option A) (value : Option A) :
    fields.lenient? name read = some value ↔
      (∀ tree, fields.lookup name = some tree -> tree.isValue 1) ∧
      ∀ given, value = some given ↔
        ∃ tree json, fields.lookup name = some tree ∧ tree.value? 1 = some json ∧
          read json = some given := by
  unfold lenient?
  cases fields.lookup name with
  | none => simpa using found_iff none value
  | some tree =>
    cases standsFor : tree.value? 1 with
    | none => simp [Tree.isValue, standsFor]
    | some json => simpa [Tree.isValue, standsFor] using found_iff (read json) value

theorem optionalText?_readable :
    (∃ value, fields.optionalText? name = some value) ↔ ∀ tree, fields.lookup name = some tree ->
      tree = .null ∨ ∃ text, tree = .string (some text) := by
  constructor
  next =>
    rintro ⟨value, read⟩
    exact ((optionalText?_success value).mp read).1
  next =>
    intro textual
    unfold optionalText? optional?
    cases found : fields.lookup name with
    | none => exact ⟨none, rfl⟩
    | some tree =>
      obtain rfl | ⟨text, rfl⟩ := textual tree found
      · exact ⟨none, rfl⟩
      · exact ⟨some text, rfl⟩

theorem lenient?_readable {A : Type} (read : Json -> Option A) :
    (∃ value, fields.lenient? name read = some value) ↔
      ∀ tree, fields.lookup name = some tree -> tree.isValue 1 := by
  constructor
  next =>
    rintro ⟨value, found⟩
    exact ((lenient?_success read value).mp found).1
  next =>
    intro legible
    unfold lenient?
    cases found : fields.lookup name with
    | none => exact ⟨none, rfl⟩
    | some tree =>
      obtain ⟨json, standsFor⟩ := Option.isSome_iff_exists.mp (legible tree found)
      exact ⟨read json, by simp [standsFor]⟩

end Json.Fields

namespace Key

theorem ofTree?_success (members : List (Json.Name × Json.Tree)) (key : Key) :
    ofTree? (.object members) = some key ↔
      ∃ fields, Json.Fields.ofMembers? fieldNames members = some fields ∧
        Holds Named.ofTree? fields key :=
  ofTreeWith?_success _ _ key

theorem string_value (tree : Json.Tree) (text : String) :
    tree.value? 1 = some (.string text) ↔ tree = .string (some text) := by
  cases tree with
  | null | bool _ => simp [Json.Tree.value?]
  | number value => cases value <;> simp [Json.Tree.value?]
  | string found => cases found <;> simp [Json.Tree.value?]
  | array items => cases Json.Tree.items? 2 items <;> simp [Json.Tree.value?]
  | object members => cases Json.Tree.members? 2 members <;> simp [Json.Tree.value?, Json.ofMembers]

variable (members : List (Json.Name × Json.Tree))

def Textual (name : String) : Prop :=
  ∀ tree, (some name, tree) ∈ members -> tree = .null ∨ ∃ text, tree = .string text

/-- A document that is to be read as a key, whatever its further members and parts hold. -/
structure WellFormed : Prop where
  once : ∀ name ∈ fieldNames, ¬ Json.Fields.Repeated name members
  type : ∃ type : KeyType, (some "kty", .string (some (Named.name type))) ∈ members
  use : Textual members "use"
  id : Textual members "kid"

structure Legible : Prop where
  names : ∀ member ∈ members, member.1.isSome
  values : ∀ name ∈ fieldNames, ∀ tree, (some name, tree) ∈ members -> tree.isValue 1

structure Parts (key : Key) : Prop where
  type : ∃ tree, (some "kty", tree) ∈ members ∧ Named.ofTree? tree = some key.type
  use : ∀ use, key.use = some use ↔
    ∃ text, (some "use", .string (some text)) ∈ members ∧ KeyUse.ofText text = use
  id : ∀ text, key.id = some text ↔ (some "kid", .string (some text)) ∈ members
  bytes : ∀ part ∈ byteParts, ∀ bytes, part.2 key = some bytes ↔
    (some part.1, .string (some (Base64Url.encode bytes))) ∈ members
  curve : ∀ curve, key.curve = some curve ↔ ∃ tree value, (some "crv", tree) ∈ members ∧
    tree.value? 1 = some value ∧ curve? value = some curve

structure ReadByMember : Prop where
  accepted : WellFormed members ->
    ((∃ key, ofTree? (.object members) = some key) ↔ Legible members)
  parts : ∀ key, ofTree? (.object members) = some key -> Parts members key
  unaffected : ∀ others, Json.Fields.Alike fieldNames members others ->
    ofTree? (.object others) = ofTree? (.object members)
  mistyped : ∀ name ∈ ["use", "kid"], ¬ Textual members name -> ofTree? (.object members) = none
  repeated : ∀ name ∈ fieldNames, Json.Fields.Repeated name members ->
    ofTree? (.object members) = none

section Read

variable {members} {fields : Json.Fields} {key : Key}
  (found : Json.Fields.ofMembers? fieldNames members = some fields)

include found

theorem given_iff (name : String) (listed : name ∈ fieldNames) (tree : Json.Tree) :
    fields.lookup name = some tree ↔ (some name, tree) ∈ members :=
  Json.Fields.ofMembers?_lookup fieldNames members fields found name listed tree

theorem Holds.parts (holds : Holds Named.ofTree? fields key) : Parts members key := by
  have given := given_iff found
  constructor
  case type =>
    obtain ⟨tree, given?, named⟩ := Option.bind_eq_some_iff.mp holds.type
    exact ⟨tree, (given "kty" (by decide) tree).mp given?, named⟩
  case use =>
    obtain ⟨text, read, named⟩ := holds.use
    have spelled := ((Json.Fields.optionalText?_success text).mp read).2
    intro use
    rw [named, Option.map_eq_some_iff]
    simp only [spelled, given "use" (by decide)]
  case id =>
    intro text
    rw [((Json.Fields.optionalText?_success _).mp holds.id).2 text]
    exact given "kid" (by decide) _
  case bytes =>
    intro part listed bytes
    have known := byteParts_named part listed
    rw [((Json.Fields.lenient?_success _ _).mp (holds.bytes part listed)).2 bytes]
    simp only [bytes?_some, given part.1 known]
    constructor
    next =>
      rintro ⟨tree, _, member, standsFor, rfl⟩
      rwa [(string_value tree _).mp standsFor] at member
    next => exact fun member => ⟨_, _, member, rfl, rfl⟩
  case curve =>
    intro curve
    rw [((Json.Fields.lenient?_success _ _).mp holds.curve).2 curve]
    simp only [given "crv" (by decide)]

theorem Holds.legible (holds : Holds Named.ofTree? fields key) (wellFormed : WellFormed members) :
    Legible members := by
  have given := given_iff found
  have text (name : String) (listed : name ∈ fieldNames)
      (read : ∃ value, fields.optionalText? name = some value) (tree : Json.Tree)
      (member : (some name, tree) ∈ members) : tree.isValue 1 := by
    obtain rfl | ⟨_, rfl⟩ :=
      Json.Fields.optionalText?_readable.mp read tree ((given name listed tree).mpr member)
    all_goals rfl
  have lenient {A : Type} (name : String) (listed : name ∈ fieldNames) (read : Json -> Option A)
      (value : Option A) (readable : fields.lenient? name read = some value) (tree : Json.Tree)
      (member : (some name, tree) ∈ members) : tree.isValue 1 :=
    ((Json.Fields.lenient?_success read value).mp readable).1 tree
      ((given name listed tree).mpr member)
  have bytes (part : String × (Key -> Option Bytes)) (listed : part ∈ byteParts) :=
    lenient part.1 (byteParts_named part listed) bytes? (part.2 key) (holds.bytes part listed)
  have type (tree : Json.Tree) (member : (some "kty", tree) ∈ members) : tree.isValue 1 := by
    obtain ⟨type, named⟩ := wellFormed.type
    rw [← given "kty" (by decide)] at named member
    obtain rfl := Option.some.inj (named.symm.trans member)
    rfl
  refine ⟨((Json.Fields.ofMembers?_readable _ _).mp ⟨fields, found⟩).1, ?_⟩
  obtain ⟨use, useRead, _⟩ := holds.use
  simp only [fieldNames, List.forall_mem_cons]
  exact ⟨type, text "use" (by decide) ⟨use, useRead⟩, text "kid" (by decide) ⟨_, holds.id⟩,
    bytes ("n", modulus) (by simp [byteParts]),
    bytes ("e", exponent) (by simp [byteParts]),
    lenient "crv" (by decide) curve? key.curve holds.curve,
    bytes ("x", x) (by simp [byteParts]),
    bytes ("y", y) (by simp [byteParts]),
    bytes ("d", privatePart) (by simp [byteParts]),
    bytes ("k", secret) (by simp [byteParts]), List.forall_mem_nil _⟩

theorem Legible.holds (legible : Legible members) (wellFormed : WellFormed members) :
    ∃ key, Holds Named.ofTree? fields key := by
  have given := given_iff found
  have stands (name : String) (listed : name ∈ fieldNames) (tree : Json.Tree)
      (looked : fields.lookup name = some tree) : tree.isValue 1 :=
    legible.values name listed tree ((given name listed tree).mp looked)
  -- A string that stands for a value spells a text.
  have text (name : String) (listed : name ∈ fieldNames) (textual : Textual members name) :
      ∃ value, fields.optionalText? name = some value := by
    refine Json.Fields.optionalText?_readable.mpr fun tree looked => ?_
    obtain rfl | ⟨_ | text, rfl⟩ := textual tree ((given name listed tree).mp looked)
    · exact .inl rfl
    · cases stands name listed _ looked
    · exact .inr ⟨text, rfl⟩
  have lenient {A : Type} (name : String) (listed : name ∈ fieldNames) (read : Json -> Option A) :
      ∃ value, fields.lenient? name read = some value :=
    (Json.Fields.lenient?_readable read).mpr (stands name listed)
  obtain ⟨type, named⟩ := wellFormed.type
  obtain ⟨use, useRead⟩ := text "use" (by decide) wellFormed.use
  obtain ⟨id, idRead⟩ := text "kid" (by decide) wellFormed.id
  obtain ⟨modulus, modulusRead⟩ := lenient "n" (by decide) bytes?
  obtain ⟨exponent, exponentRead⟩ := lenient "e" (by decide) bytes?
  obtain ⟨curve, curveRead⟩ := lenient "crv" (by decide) curve?
  obtain ⟨x, xRead⟩ := lenient "x" (by decide) bytes?
  obtain ⟨y, yRead⟩ := lenient "y" (by decide) bytes?
  obtain ⟨privatePart, privateRead⟩ := lenient "d" (by decide) bytes?
  obtain ⟨secret, secretRead⟩ := lenient "k" (by decide) bytes?
  refine ⟨⟨type, use.map KeyUse.ofText, id, modulus, exponent, curve, x, y, privatePart, secret⟩,
    ?_, ⟨use, useRead, rfl⟩, idRead, ?_, curveRead⟩
  · rw [(given "kty" (by decide) _).mpr named]
    exact Named.Lawful.ofName?_name type
  · simpa [byteParts] using ⟨modulusRead, exponentRead, xRead, yRead, privateRead, secretRead⟩

end Read

theorem ofTree?_alike {members others : List (Json.Name × Json.Tree)}
    (alike : Json.Fields.Alike fieldNames members others) :
    ofTree? (.object others) = ofTree? (.object members) :=
  alike.read_eq (fun members => ofTree? (.object members)) (Holds Named.ofTree?) ofTree?_success
    fun _ _ _ holds same => holds.congr same

theorem members_read (text : String) (members : List (Json.Name × Json.Tree))
    (document : Json.Tree.ofText? text = some (.object members)) :
    ((Json.ofText? text).isSome -> Legible members) ∧ ReadByMember members := by
  constructor
  next =>
    intro standsFor
    obtain ⟨value, whole⟩ := Option.isSome_iff_exists.mp standsFor
    obtain ⟨tree, read, inner⟩ := Option.bind_eq_some_iff.mp whole
    obtain rfl := Option.some.inj (read.symm.trans document)
    obtain ⟨values, inner, _⟩ := Option.map_eq_some_iff.mp inner
    have legible := (Json.Tree.members?_isSome 1 members).mp (Option.isSome_of_eq_some inner)
    exact ⟨fun member found => (legible member found).1,
      fun name _ tree found => (legible _ found).2⟩
  next =>
    constructor
    case accepted =>
      intro wellFormed
      constructor
      next =>
        rintro ⟨key, read⟩
        obtain ⟨fields, found, holds⟩ := (ofTree?_success members key).mp read
        exact holds.legible found wellFormed
      next =>
        intro legible
        obtain ⟨fields, found⟩ := (Json.Fields.ofMembers?_readable fieldNames members).mpr
          ⟨legible.names, wellFormed.once⟩
        obtain ⟨key, holds⟩ := legible.holds found wellFormed
        exact ⟨key, (ofTree?_success members key).mpr ⟨fields, found, holds⟩⟩
    case parts =>
      intro key read
      obtain ⟨fields, found, holds⟩ := (ofTree?_success members key).mp read
      exact holds.parts found
    case unaffected => exact fun others alike => ofTree?_alike alike
    case mistyped =>
      intro name listed mistyped
      refine Option.eq_none_iff_forall_ne_some.mpr fun key read => mistyped fun tree member => ?_
      obtain ⟨fields, found, holds⟩ := (ofTree?_success members key).mp read
      obtain ⟨use, useRead, _⟩ := holds.use
      have readable : ∃ value, fields.optionalText? name = some value := by
        obtain rfl | rfl : name = "use" ∨ name = "kid" := by simpa using listed
        · exact ⟨use, useRead⟩
        · exact ⟨_, holds.id⟩
      have known : name ∈ fieldNames := by
        revert name
        simp [fieldNames]
      obtain null | ⟨text, string⟩ := Json.Fields.optionalText?_readable.mp readable tree
        ((given_iff found name known tree).mpr member)
      · exact .inl null
      · exact .inr ⟨some text, string⟩
    case repeated =>
      intro name listed twice
      refine Option.eq_none_iff_forall_ne_some.mpr fun key read => ?_
      obtain ⟨fields, found, _⟩ := (ofTree?_success members key).mp read
      exact ((Json.Fields.ofMembers?_readable _ _).mp ⟨fields, found⟩).2 name listed twice

namespace Sample

def oddText : String :=
  "\x7b\"x\":[null],\"kty\":\"oct\",\"p\":1e400,\"use\":null,\"k\":\"AQID\"\x7d"

def oddMembers : List (Json.Name × Json.Tree) :=
  [(some "x", .array [.null]), (some "kty", .string (some "oct")),
    (some "p", .number none), (some "use", .null), (some "k", .string (some "AQID"))]

set_option maxRecDepth 10000 in
theorem odd_members_read :
    Json.Tree.ofText? oddText = some (.object oddMembers) ∧ WellFormed oddMembers ∧
      ∃ key, ofTree? (.object oddMembers) = some key ∧ key.secret = some [1, 2, 3] ∧
        key.x = none := by
  have document : Json.Tree.ofText? oddText = some (.object oddMembers) := by
    with_unfolding_all rfl
  have wellFormed : WellFormed oddMembers := by
    constructor
    case once => decide
    case type => exact ⟨.symmetric, by simp [oddMembers, Named.name]⟩
    case use | id => simp [Textual, oddMembers]
  have legible : Legible oddMembers := by
    constructor
    · simp [oddMembers]
    · simp [oddMembers, fieldNames, Json.Tree.isValue, Json.Tree.value?, Json.Tree.items?,
        Json.maxDepth]
  obtain ⟨_, reads⟩ := members_read oddText oddMembers document
  obtain ⟨key, read⟩ := (reads.accepted wellFormed).mpr legible
  have parts := reads.parts key read
  have encoded : Base64Url.encode [1, 2, 3] = "AQID" := by decide +kernel
  have secret := parts.bytes ("k", secret) (by simp [byteParts]) [1, 2, 3]
  have x := parts.bytes ("x", x) (by simp [byteParts])
  refine ⟨document, wellFormed, key, read, secret.mpr (by simp [oddMembers, encoded]), ?_⟩
  refine Option.eq_none_iff_forall_ne_some.mpr fun bytes given => ?_
  simpa [oddMembers] using (x bytes).mp given

def largeText : String := "\x7b\"kty\":\"oct\",\"n\":1e400\x7d"

def largeMembers : List (Json.Name × Json.Tree) :=
  [(some "kty", .string (some "oct")), (some "n", .number none)]

theorem large_number_refused :
    Json.Tree.ofText? largeText = some (.object largeMembers) ∧ WellFormed largeMembers ∧
      ofTree? (.object largeMembers) = none := by
  refine ⟨by with_unfolding_all rfl, ?_, rfl⟩
  constructor
  case once => decide
  case type => exact ⟨.symmetric, by simp [largeMembers, Named.name]⟩
  case use | id => simp [Textual, largeMembers]

end Sample

end Key

end RelyingParty
