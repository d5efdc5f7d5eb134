import RelyingParty.Proofs.Json.Stable

set_option autoImplicit false

namespace RelyingParty.Json

@[simp] theorem ofList_member_get? (name other : String) (value : Json) :
    (Members.ofList [(name, value)]).get? other = if other = name then some value else none :=
  Members.insert_get? name other value []

@[simp] theorem ofList_optionalMember_get? {A : Type} (name other : String) (write : A -> Json)
    (value : Option A) :
    (Members.ofList (optionalMember name write value)).get? other =
      if other = name then value.map write else none := by
  cases value with
  | none => simp [optionalMember, Members.ofList]
  | some given => exact Members.insert_get? name other (write given) []

structure Additional (names : List String) (members : Members) : Prop where
  ordered : members.Ordered
  stable : ∀ member ∈ members, Stable 1 member.2
  unnamed : ∀ member ∈ members, member.1 ∉ names

namespace Additional

variable {names : List String} {members : Members}

theorem empty : Additional names [] := ⟨List.Pairwise.nil, by simp, by simp⟩

theorem get? (additional : Additional names members) (name : String) (listed : name ∈ names) :
    members.get? name = none := by
  cases found : members.get? name with
  | none => rfl
  | some value =>
    have member := (Members.ordered_get? members additional.ordered name value).mp found
    exact absurd listed (additional.unnamed _ member)

theorem read (written : List (Option String × Tree)) (values : List (String × Json))
    (read : Tree.members? 1 written = some values) :
    Additional names ((Members.ofList values).without names) where
  ordered := (Members.ofList_ordered values).filter _
  stable member found :=
    members?_stable 1 written values read member
      (Members.ofList_mem values member (List.mem_filter.mp found).1)
  unnamed member found := by simpa using (List.mem_filter.mp found).2

theorem wider (additional : Additional names members) (others : List String)
    (unnamed : ∀ name ∈ others, members.get? name = none) :
    Additional (others ++ names) members where
  ordered := additional.ordered
  stable := additional.stable
  unnamed member found listed := by
    obtain other | known := List.mem_append.mp listed
    · have present := (Members.ordered_get? members additional.ordered member.1 member.2).mpr found
      rw [unnamed member.1 other] at present
      cases present
    · exact additional.unnamed member found known

theorem narrower (additional : Additional names members) {fewer : List String}
    (listed : fewer ⊆ names) : Additional fewer members where
  ordered := additional.ordered
  stable := additional.stable
  unnamed member found known := additional.unnamed member found (listed known)

end Additional

/-- The members of a document, as written, whose names are not those of its fields. -/
def Further (names : List String) (tree : Tree) (members : Members) : Prop :=
  ∃ written others, tree = .object written ∧
    Tree.members? 1 (written.filter fun member => !(names.map some).contains member.1) =
      some others ∧
    members = Members.ofList others

theorem further_read (names : List String) (keep : Option String -> Bool)
    (wide : ∀ name, keep name = false -> name ∈ names.map some)
    (written : List (Option String × Tree)) (values : List (String × Json))
    (read : Tree.members? 1 (written.filter fun member => keep member.1) = some values) :
    Further names (.object written) ((Members.ofList values).without names) := by
  have further := members?_filter 1 (fun name => !(names.map some).contains name) _ values read
  have narrower (name : Option String) :
      (!(names.map some).contains name && keep name) = !(names.map some).contains name := by
    cases kept : keep name with
    | true => simp
    | false => simpa using wide name kept
  rw [List.filter_filter] at further
  simp only [narrower] at further
  refine ⟨written, _, rfl, further, ?_⟩
  rw [Members.without_ofList]
  simp

theorem further_kept {S T : Type} (names : List String) (tree : Tree) (additional : S -> Members)
    (set : S -> T -> S) (keeps : ∀ value setting, additional (set value setting) = additional value)
    (value : S) (further : Further names tree (additional value)) (settings : List T) :
    Further names tree (additional (settings.foldl set value)) := by
  induction settings generalizing value with
  | nil => exact further
  | cons setting rest ih => exact ih (set value setting) (keeps value setting ▸ further)

/-- Members that write the fields of a document, within `enclosing` arrays and objects. -/
structure Written (enclosing : Nat) (names : List String) (own : List (String × Json)) :
    Prop where
  named : ∀ member ∈ own, member.1 ∈ names
  stable : ∀ member ∈ own, Stable enclosing member.2

namespace Written

variable {enclosing : Nat} {names : List String}

theorem member {name : String} {value : Json} (listed : name ∈ names)
    (stable : Stable enclosing value) : Written enclosing names [(name, value)] := by
  constructor <;> simpa

theorem optional {A : Type} {name : String} {write : A -> Json} {value : Option A}
    (listed : name ∈ names) (stable : ∀ given, Stable enclosing (write given)) :
    Written enclosing names (optionalMember name write value) := by
  cases value with
  | none => constructor <;> exact nofun
  | some given => exact member listed (stable given)

theorem append {left right : List (String × Json)} (first : Written enclosing names left)
    (second : Written enclosing names right) : Written enclosing names (left ++ right) where
  named := List.forall_mem_append.mpr ⟨first.named, second.named⟩
  stable := List.forall_mem_append.mpr ⟨first.stable, second.stable⟩

theorem wider {own : List (String × Json)} (written : Written enclosing names own)
    {more : List String} (listed : names ⊆ more) : Written enclosing more own where
  named member found := listed (written.named member found)
  stable := written.stable

theorem absent {own : List (String × Json)} (written : Written enclosing names own)
    (name : String) (other : name ∉ names) : (Members.ofList own).get? name = none := by
  cases found : (Members.ofList own).get? name with
  | none => rfl
  | some value =>
    have member := (Members.ordered_get? _ (Members.ofList_ordered own) name value).mp found
    exact absurd (written.named _ (Members.ofList_mem own _ member)) other

end Written

section

variable {names : List String} {own : List (String × Json)} {additional : Members}
  (kept : Additional names additional)

include kept

variable (own) in
theorem document_fields :
    ∃ fields, Fields.ofMembers? names (memberTrees (Members.ofList (own ++ additional))) =
        some fields ∧
      ∀ name ∈ names, fields.lookup name = ((Members.ofList own).get? name).map toTree := by
  obtain ⟨fields, read, found⟩ :=
    Fields.ofMembers?_memberTrees names _ (Members.ofList_ordered (own ++ additional))
  refine ⟨fields, read, fun name listed => ?_⟩
  -- Further members come last and would count, but none has the name of a field.
  rw [found name listed, Members.ofList_append_get?,
    Members.ofList_of_ordered additional kept.ordered, kept.get? name listed, Option.none_or]

variable (written : Written 1 names own)

include written

theorem document_members :
    Tree.members? 1 (memberTrees (Members.ofList (own ++ additional))) =
      some (Members.ofList (own ++ additional)) := by
  refine members?_memberTrees 1 _ fun member found => ?_
  obtain field | further := List.mem_append.mp (Members.ofList_mem _ member found)
  · exact written.stable member field
  · exact kept.stable member further

theorem document_additional :
    (Members.ofList (Members.ofList (own ++ additional))).without names = additional := by
  have fields : own.filter (fun member => !names.contains member.1) = [] := by
    simpa using written.named
  have further : additional.filter (fun member => !names.contains member.1) = additional := by
    simpa using kept.unnamed
  rw [Members.ofList_of_ordered _ (Members.ofList_ordered _), Members.without_ofList,
    List.filter_append, fields, further, List.nil_append,
    Members.ofList_of_ordered additional kept.ordered]

end

end RelyingParty.Json
