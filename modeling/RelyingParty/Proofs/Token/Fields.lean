import RelyingParty.Proofs.Checked
import RelyingParty.Proofs.Json.Record
import RelyingParty.Token.Header

set_option autoImplicit false

namespace RelyingParty.Header

theorem readAlgorithm_success (tree : Json.Tree) (algorithm : DeclaredAlgorithm)
    (read : readAlgorithm tree = .ok algorithm) :
    ∃ name, tree = .string (some name) ∧ algorithm? name = some algorithm := by
  unfold readAlgorithm at read
  split at read
  next name =>
    split at read
    next found =>
      cases read
      exact ⟨name, rfl, found⟩
    next => cases read
  next => cases read

theorem texts?_none (tree : Json.Tree) : texts? tree = some none ↔ tree = .null := by
  cases tree <;> simp [texts?]

theorem text?_none (tree : Json.Tree) : text? tree = some none ↔ tree = .null := by
  cases tree <;> simp [text?]

/-- A field that may be missing is read to a value, which is none if it is missing. -/
def Optional {A : Type} (fields : Json.Fields) (name : String)
    (read : Json.Tree -> Option (Option A)) (value : Option A) : Prop :=
  match fields.lookup name with
  | none => value = none
  | some tree => read tree = some value

structure Holds (fields : Json.Fields) (header : Header) : Prop where
  algorithm : ∃ name, fields.lookup "alg" = some (.string (some name)) ∧
    algorithm? name = some header.algorithm
  method : Optional fields "enc" Named.optionOfTree? header.method
  critical : Optional fields "crit" texts? header.critical
  contentType : Optional fields "cty" text? header.contentType
  keyId : Optional fields "kid" text? header.keyId
  type : Optional fields "typ" text? header.type
  compression : Optional fields "zip" text? header.compression

theorem optional_read {A : Type} {fields : Json.Fields} {name : String}
    {read : Json.Tree -> Option (Option A)} {value : Option A} :
    (match fields.lookup name with
      | none => some none
      | some tree => read tree) = some value ↔ Optional fields name read value := by
  unfold Optional
  split <;> simp [eq_comm]

theorem Optional.given {A : Type} {fields : Json.Fields} {name : String}
    {readField : Json.Tree -> Option (Option A)} {value : Option A}
    (field : Optional fields name readField value) {tree : Json.Tree}
    (found : fields.lookup name = some tree) : readField tree = some value := by
  simpa only [Optional, found] using field

theorem Optional.present {A : Type} {fields : Json.Fields} {name : String}
    {readField : Json.Tree -> Option (Option A)} {value : Option A}
    (field : Optional fields name readField value) (null : readField .null = some none)
    (present : value.isSome) : ∃ tree, tree ≠ .null ∧ fields.lookup name = some tree := by
  unfold Optional at field
  split at field
  next => simp [field] at present
  next tree found =>
    refine ⟨tree, ?_, found⟩
    rintro rfl
    simp [← Option.some.inj (null.symm.trans field)] at present

theorem ofFields?_success (fields : Json.Fields) (header : Header) :
    ofFields? fields = some header ↔ Holds fields header := by
  constructor
  · intro read
    obtain ⟨algorithm, declared, read⟩ := Option.bind_eq_some_iff.mp read
    obtain ⟨tree, found, declared⟩ := Option.bind_eq_some_iff.mp declared
    obtain ⟨name, rfl, named⟩ :=
      readAlgorithm_success tree algorithm ((toOption_success _ _).mp declared)
    obtain ⟨method, methodRead, read⟩ := Option.bind_eq_some_iff.mp read
    obtain ⟨critical, criticalRead, read⟩ := Option.bind_eq_some_iff.mp read
    obtain ⟨contentType, contentTypeRead, read⟩ := Option.bind_eq_some_iff.mp read
    obtain ⟨keyId, keyIdRead, read⟩ := Option.bind_eq_some_iff.mp read
    obtain ⟨type, typeRead, read⟩ := Option.bind_eq_some_iff.mp read
    obtain ⟨compression, compressionRead, read⟩ := Option.bind_eq_some_iff.mp read
    cases read
    exact ⟨⟨name, found, named⟩, optional_read.mp methodRead, optional_read.mp criticalRead,
      optional_read.mp contentTypeRead, optional_read.mp keyIdRead, optional_read.mp typeRead,
      optional_read.mp compressionRead⟩
  · rintro ⟨⟨name, found, named⟩, method, critical, contentType, keyId, type, compression⟩
    rw [← optional_read] at method critical contentType keyId type compression
    have declared : ((fields.lookup "alg").bind fun tree => (readAlgorithm tree).toOption) =
        some header.algorithm := by
      simp [found, readAlgorithm, named, Except.toOption]
    refine Option.bind_eq_some_iff.mpr ⟨_, declared, ?_⟩
    refine Option.bind_eq_some_iff.mpr ⟨_, method, ?_⟩
    refine Option.bind_eq_some_iff.mpr ⟨_, critical, ?_⟩
    refine Option.bind_eq_some_iff.mpr ⟨_, contentType, ?_⟩
    refine Option.bind_eq_some_iff.mpr ⟨_, keyId, ?_⟩
    refine Option.bind_eq_some_iff.mpr ⟨_, type, ?_⟩
    refine Option.bind_eq_some_iff.mpr ⟨_, compression, ?_⟩
    rfl

theorem fieldFault_unknown (name : String) (unknown : name ∉ fieldNames) (tree : Json.Tree) :
    fieldFault name tree = none := by
  unfold fieldFault
  split <;> simp_all [fieldNames]

theorem Holds.fieldFault {fields : Json.Fields} {header : Header} (holds : Holds fields header)
    (name : String) (tree : Json.Tree) (found : fields.lookup name = some tree) :
    fieldFault name tree = none := by
  unfold Header.fieldFault
  split
  next =>
    obtain ⟨text, given, named⟩ := holds.algorithm
    obtain rfl := Option.some.inj (found.symm.trans given)
    simp [readAlgorithm, named]
  next => simp [holds.method.given found]
  next => simp [holds.critical.given found]
  next => simp [holds.contentType.given found]
  next => simp [holds.keyId.given found]
  next => simp [holds.type.given found]
  next => simp [holds.compression.given found]
  next => rfl

theorem firstFault_readable (members : List (Json.Name × Json.Tree)) (fields : Json.Fields)
    (seen : List String) (read : Json.Fields.ofMembers? fieldNames members = some fields)
    (readable : ∀ name tree, fields.lookup name = some tree -> fieldFault name tree = none)
    (fresh : ∀ name ∈ seen, name ∈ fieldNames -> fields.lookup name = none) :
    firstFault seen members = none := by
  -- The names that have been seen are not among the fields that are still to come.
  induction members generalizing fields seen with
  | nil => rfl
  | cons member rest ih =>
    obtain ⟨_ | name, tree⟩ := member
    case none => cases read
    obtain ⟨others, readOthers, read⟩ := Option.bind_eq_some_iff.mp read
    unfold firstFault
    split at read
    next unknown =>
      obtain rfl := Option.some.inj read
      have unknown : name ∉ fieldNames := by simpa using unknown
      rw [if_neg (by simp [unknown]), fieldFault_unknown name unknown]
      refine ih others (name :: seen) readOthers readable fun other member known => ?_
      obtain rfl | member := List.mem_cons.mp member
      · exact absurd known unknown
      · exact fresh other member known
    next known =>
      split at read
      next => cases read
      next absent =>
        obtain rfl := Option.some.inj read
        have known : name ∈ fieldNames := by simpa using known
        have absent : others.lookup name = none := by
          cases found : others.lookup name <;> simp_all
        have unseen : name ∉ seen := by
          intro member
          simpa using fresh name member known
        rw [if_neg (by simp [unseen]), readable name tree (by simp)]
        refine ih others (name :: seen) readOthers (fun other value found => ?_)
          fun other member known => ?_
        · have different : other ≠ name := by
            rintro rfl
            simp [absent] at found
          exact readable other value ((Json.Fields.lookup_other different tree others).trans found)
        · obtain rfl | member := List.mem_cons.mp member
          · exact absent
          · have different : other ≠ name := fun same => unseen (same ▸ member)
            exact (Json.Fields.lookup_other different tree others).symm.trans
              (fresh other member known)

/-- The members that a document stands for: its own, or up to seven items as the first fields. -/
inductive Stands : Json.Tree -> Json.Fields -> Prop
  | object (members : Json.Fields) : Stands (.object (members.map (Prod.map some id))) members
  | array (items : List Json.Tree) (given : items ≠ [])
      (few : items.length ≤ fieldNames.length) :
      Stands (.array items) (fieldNames.zip items)

/-- Members make up a header: no field comes twice, and all of them are read as the header has. -/
structure Makes (members : Json.Fields) (header : Header) : Prop where
  once : ((Json.Fields.known fieldNames members).map Prod.fst).Nodup
  holds : Holds members header

theorem Holds.congr {fields others : Json.Fields} {header : Header} (holds : Holds fields header)
    (same : ∀ name ∈ fieldNames, others.lookup name = fields.lookup name) :
    Holds others header := by
  obtain ⟨algorithm, method, critical, contentType, keyId, type, compression⟩ := holds
  constructor
  case algorithm => rwa [same "alg" (by decide)]
  case method => rwa [Optional, same "enc" (by decide)]
  case critical => rwa [Optional, same "crit" (by decide)]
  case contentType => rwa [Optional, same "cty" (by decide)]
  case keyId => rwa [Optional, same "kid" (by decide)]
  case type => rwa [Optional, same "typ" (by decide)]
  case compression => rwa [Optional, same "zip" (by decide)]

theorem holds_known (members : Json.Fields) (header : Header) :
    Holds (Json.Fields.known fieldNames members) header ↔ Holds members header := by
  have same (name : String) (listed : name ∈ fieldNames) :=
    Json.Fields.known_lookup fieldNames members name listed
  exact ⟨fun holds => holds.congr fun name listed => (same name listed).symm,
    fun holds => holds.congr same⟩

theorem Makes.read {members : Json.Fields} {header : Header} (makes : Makes members header) :
    Json.Fields.ofMembers? fieldNames (members.map (Prod.map some id)) =
      some (Json.Fields.known fieldNames members) :=
  (Json.Fields.ofMembers?_success _ _ _).mpr ⟨members, rfl, makes.once, rfl⟩

theorem Stands.members {tree : Json.Tree} {members : Json.Fields} (stands : Stands tree members) :
    Header.members (.whole tree []) = members.map (Prod.map some id) := by
  cases stands with
  | object => rfl
  | array items given few =>
    simp [Header.members, itemMembers, List.zip_map_left]

theorem ofItems_known (items : List Json.Tree) :
    Json.Fields.known fieldNames (fieldNames.zip items) = fieldNames.zip items := by
  refine List.filter_eq_self.mpr fun ⟨name, _⟩ member => ?_
  simpa using (List.of_mem_zip member).1

theorem ofTree?_success (tree : Json.Tree) (header : Header) :
    ofTree? tree = some header ↔ ∃ members, Stands tree members ∧ Makes members header := by
  constructor
  · intro read
    obtain ⟨fields, fieldsRead, made⟩ := Option.bind_eq_some_iff.mp read
    rw [ofFields?_success] at made
    cases tree with
    | object members =>
      obtain ⟨named, rfl, once, rfl⟩ := (Json.Fields.ofMembers?_success _ _ _).mp fieldsRead
      exact ⟨named, .object named, once, (holds_known named header).mp made⟩
    | array items =>
      simp only [Json.Fields.ofTree?, Json.Fields.ofItems?] at fieldsRead
      split at fieldsRead
      next few =>
        cases fieldsRead
        have given : items ≠ [] := List.length_pos_iff.mp few.1
        have once := Json.Fields.zip_distinct fieldNames (by decide) items
        exact ⟨_, .array items given few.2, (ofItems_known items).symm ▸ once, made⟩
      next => cases fieldsRead
    | null | bool _ | number _ | string _ => cases fieldsRead
  · rintro ⟨members, stands, makes⟩
    cases stands with
    | object =>
      have made := (ofFields?_success _ header).mpr ((holds_known members header).mpr makes.holds)
      exact Option.bind_eq_some_iff.mpr ⟨_, makes.read, made⟩
    | array items given few =>
      have fieldsRead : Json.Fields.ofItems? fieldNames 1 items = some (fieldNames.zip items) :=
        if_pos ⟨List.length_pos_iff.mpr given, few⟩
      have made := (ofFields?_success _ header).mpr makes.holds
      exact Option.bind_eq_some_iff.mpr ⟨_, fieldsRead, made⟩

theorem ofBytes_success (bytes : Bytes) (header : Header) :
    ofBytes bytes = .ok header ↔
      ∃ tree, Json.Tree.ofBytes? bytes = some tree ∧ ofTree? tree = some header := by
  constructor
  · intro read
    unfold ofBytes at read
    dsimp only at read
    split at read
    next => cases read
    next =>
      split at read
      next whole =>
        cases read
        exact Option.bind_eq_some_iff.mp whole
      next => cases read
  · rintro ⟨tree, document, read⟩
    have whole : Json.Reading.ofBytes bytes = .whole tree [] := by
      unfold Json.Tree.ofBytes? Json.Reading.tree? at document
      split at document
      next same =>
        cases document
        exact same
      next => cases document
    obtain ⟨members, stands, makes⟩ := (ofTree?_success tree header).mp read
    have faultless : firstFault [] (Header.members (.whole tree [])) = none := by
      have holds := (holds_known members header).mpr makes.holds
      rw [stands.members]
      exact firstFault_readable _ _ [] makes.read holds.fieldFault nofun
    unfold ofBytes
    simp only [whole, faultless, Json.Reading.tree?, Option.bind_some, read]

end RelyingParty.Header
