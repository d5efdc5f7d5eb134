import RelyingParty.Json.Record

set_option autoImplicit false

namespace RelyingParty.Json.Fields

/-- What a document gives for fields: members with names, or items for the first of the names. -/
def given (names : List String) : Tree -> List (Option String × Tree)
  | .object members => members
  | .array items => (names.map some).zip items
  | _ => []

theorem lookup_other {A : Type} {name head : String} (different : name ≠ head) (value : A)
    (rest : List (String × A)) : ((head, value) :: rest).lookup name = rest.lookup name := by
  have test : (name == head) = false := beq_eq_false_iff_ne.mpr different
  rw [List.lookup_cons, test]

theorem ofMembers?_lookup (names : List String) (members : List (Option String × Tree))
    (fields : Fields) (read : ofMembers? names members = some fields) (name : String)
    (known : name ∈ names) (value : Tree) :
    fields.lookup name = some value ↔ (some name, value) ∈ members := by
  induction members generalizing fields with
  | nil =>
    cases read
    simp
  | cons member rest ih =>
    obtain ⟨_ | head, tree⟩ := member
    case none => cases read
    obtain ⟨others, readOthers, read⟩ := Option.bind_eq_some_iff.mp read
    have same := ih others readOthers
    split at read
    next unknown =>
      have other : name ≠ head := by
        rintro rfl
        simp [known] at unknown
      cases read
      simp [same, other]
    next =>
      split at read
      next => cases read
      next absent =>
        cases read
        by_cases equal : name = head
        · -- The name comes once, so that no later member has it.
          subst equal
          have fresh : (some name, value) ∉ rest := by
            rw [← same]
            intro found
            simp [found] at absent
          simp [fresh, eq_comm]
        · simp [lookup_other equal, same, equal]

def known (names : List String) (members : Fields) : Fields :=
  members.filter fun member => names.contains member.1

theorem known_lookup (names : List String) (members : Fields) (name : String)
    (listed : name ∈ names) : (known names members).lookup name = members.lookup name := by
  induction members with
  | nil => rfl
  | cons member rest ih =>
    obtain ⟨head, tree⟩ := member
    by_cases equal : name = head
    · subst equal
      simp [known, listed]
    · rw [lookup_other equal, ← ih]
      by_cases kept : names.contains head
      · simp only [known, List.filter_cons, kept, if_true]
        exact lookup_other equal tree _
      · simp only [known, List.filter_cons, kept]
        rfl

theorem ofMembers?_known (names : List String) (members : Fields) :
    ofMembers? names (members.map (Prod.map some id)) =
      if ((known names members).map Prod.fst).Nodup then some (known names members) else none := by
  induction members with
  | nil => simp [ofMembers?, known]
  | cons member rest ih =>
    obtain ⟨name, tree⟩ := member
    have step : ofMembers? names (((name, tree) :: rest).map (Prod.map some id)) =
        (ofMembers? names (rest.map (Prod.map some id))).bind fun fields =>
          if !names.contains name then some fields
          else if (fields.lookup name).isSome then none
          else some ((name, tree) :: fields) := rfl
    rw [step, ih]
    by_cases listed : names.contains name
    · have kept : known names ((name, tree) :: rest) = (name, tree) :: known names rest :=
        List.filter_cons_of_pos listed
      simp only [kept, List.map_cons, List.nodup_cons]
      by_cases twice : name ∈ (known names rest).map Prod.fst <;> split <;> simp_all
    · have passed : known names ((name, tree) :: rest) = known names rest :=
        List.filter_cons_of_neg listed
      rw [passed]
      split <;> simp_all

theorem ofMembers?_named (names : List String) (members : List (Option String × Tree))
    (fields : Fields) (read : ofMembers? names members = some fields) :
    ∃ named : Fields, members = named.map (Prod.map some id) := by
  induction members generalizing fields with
  | nil => exact ⟨[], rfl⟩
  | cons member rest ih =>
    obtain ⟨_ | name, tree⟩ := member
    case none => cases read
    obtain ⟨others, readOthers, _⟩ := Option.bind_eq_some_iff.mp read
    obtain ⟨named, rfl⟩ := ih others readOthers
    exact ⟨(name, tree) :: named, rfl⟩

theorem ofMembers?_success (names : List String) (members : List (Option String × Tree))
    (fields : Fields) :
    ofMembers? names members = some fields ↔
      ∃ named : Fields, members = named.map (Prod.map some id) ∧
        ((known names named).map Prod.fst).Nodup ∧ known names named = fields := by
  constructor
  · intro read
    obtain ⟨named, rfl⟩ := ofMembers?_named names members fields read
    rw [ofMembers?_known] at read
    exact ⟨named, rfl, by simpa using read⟩
  · rintro ⟨named, rfl, distinct, rfl⟩
    rw [ofMembers?_known, if_pos distinct]

theorem zip_lookup (names : List String) (distinct : names.Nodup) (items : List Tree)
    (name : String) (value : Tree) :
    (names.zip items).lookup name = some value ↔
      (some name, value) ∈ (names.map some).zip items := by
  induction names generalizing items with
  | nil => simp
  | cons head rest ih =>
    cases items with
    | nil => simp
    | cons item others =>
      obtain ⟨fresh, distinct⟩ := List.nodup_cons.mp distinct
      by_cases equal : name = head
      · subst equal
        have later : (some name, value) ∉ (rest.map some).zip others := by
          intro member
          simpa [fresh] using (List.of_mem_zip member).1
        simp [later, eq_comm]
      · simp [lookup_other equal, ih distinct, equal]

theorem zip_distinct (names : List String) (distinct : names.Nodup) (items : List Tree) :
    ((names.zip items).map Prod.fst).Nodup := by
  induction names generalizing items with
  | nil => simp
  | cons head rest ih =>
    cases items with
    | nil => simp
    | cons item others =>
      obtain ⟨fresh, distinct⟩ := List.nodup_cons.mp distinct
      have unlisted : head ∉ (rest.zip others).map Prod.fst := by
        intro member
        obtain ⟨pair, zipped, rfl⟩ := List.mem_map.mp member
        exact fresh (List.of_mem_zip zipped).1
      exact List.nodup_cons.mpr ⟨unlisted, ih distinct others⟩

theorem ofTree?_lookup (names : List String) (distinct : names.Nodup) (required : Nat) (tree : Tree)
    (fields : Fields) (read : ofTree? names required tree = some fields) (name : String)
    (known : name ∈ names) (value : Tree) :
    fields.lookup name = some value ↔ (some name, value) ∈ given names tree := by
  cases tree with
  | object members => exact ofMembers?_lookup names members fields read name known value
  | array items =>
    simp only [ofTree?, ofItems?] at read
    split at read
    next =>
      cases read
      exact zip_lookup names distinct items name value
    next => cases read
  | null | bool _ | number _ | string _ => cases read

theorem optional?_read {A : Type} (fields : Fields) (name : String) (read : Tree -> Option A)
    (value : Option A) (success : fields.optional? name read = some value) :
    ∀ given ∈ value, ∃ tree, read tree = some given := by
  unfold optional? at success
  split at success
  next =>
    cases success
    exact nofun
  next =>
    cases success
    exact nofun
  next tree _ _ =>
    obtain ⟨given, readTree, rfl⟩ := Option.map_eq_some_iff.mp success
    rintro _ ⟨⟩
    exact ⟨tree, readTree⟩

section

variable {A : Type} {fields others : Fields} {name : String}

theorem optional?_congr (same : others.lookup name = fields.lookup name)
    (read : Tree -> Option A) : others.optional? name read = fields.optional? name read := by
  rw [optional?, same]
  rfl

theorem lenient?_congr (same : others.lookup name = fields.lookup name)
    (read : Json -> Option A) : others.lenient? name read = fields.lenient? name read := by
  rw [lenient?, same]
  rfl

theorem optional?_given {tree : Tree} (found : fields.lookup name = some tree)
    (present : tree ≠ .null) (read : Tree -> Option A) :
    fields.optional? name read = (read tree).map some := by
  rw [optional?, found]
  cases tree with
  | null => contradiction
  | bool _ | number _ | string _ | array _ | object _ => rfl

end

end RelyingParty.Json.Fields
