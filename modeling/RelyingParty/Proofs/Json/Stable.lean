import RelyingParty.Json.Record
import RelyingParty.Proofs.Json.Ordered

set_option autoImplicit false

namespace RelyingParty.Json

/-- Within `enclosing` arrays and objects, the value is what reading its own tree gives. -/
def Stable (enclosing : Nat) (value : Json) : Prop := value.toTree.value? enclosing = some value

theorem stable_string (enclosing : Nat) (text : String) : Stable enclosing (.string text) := rfl

theorem itemTrees_map (items : List Json) : itemTrees items = items.map toTree := by
  induction items with
  | nil => rfl
  | cons item rest ih => rw [itemTrees, ih, List.map_cons]

theorem items?_itemTrees (enclosing : Nat) (items : List Json)
    (stable : ∀ item ∈ items, Stable enclosing item) :
    Tree.items? enclosing (itemTrees items) = some items := by
  induction items with
  | nil => rfl
  | cons item rest ih =>
    have first : item.toTree.value? enclosing = some item := stable item List.mem_cons_self
    have later := ih fun other found => stable other (List.mem_cons_of_mem item found)
    simp [itemTrees, Tree.items?, first, later]

theorem members?_memberTrees (enclosing : Nat) (members : List (String × Json))
    (stable : ∀ member ∈ members, Stable enclosing member.2) :
    Tree.members? enclosing (memberTrees members) = some members := by
  induction members with
  | nil => rfl
  | cons member rest ih =>
    have first : member.2.toTree.value? enclosing = some member.2 :=
      stable member List.mem_cons_self
    have later := ih fun other found => stable other (List.mem_cons_of_mem member found)
    simp [memberTrees, Tree.members?, first, later]

theorem stable_array (enclosing : Nat) (items : List Json) (shallow : enclosing < maxDepth)
    (stable : ∀ item ∈ items, Stable (enclosing + 1) item) : Stable enclosing (.array items) := by
  simp [Stable, toTree, Tree.value?, shallow, items?_itemTrees _ items stable]

theorem stable_object (enclosing : Nat) (members : Members) (shallow : enclosing < maxDepth)
    (ordered : members.Ordered) (stable : ∀ member ∈ members, Stable (enclosing + 1) member.2) :
    Stable enclosing (.object members) := by
  simp [Stable, toTree, Tree.value?, shallow, members?_memberTrees _ members stable, ofMembers,
    Members.ofList_of_ordered members ordered]

theorem stable_ofMembers (enclosing : Nat) (members : List (String × Json))
    (shallow : enclosing < maxDepth)
    (stable : ∀ member ∈ members, Stable (enclosing + 1) member.2) :
    Stable enclosing (ofMembers members) :=
  stable_object enclosing _ shallow (Members.ofList_ordered members) fun member found =>
    stable member (Members.ofList_mem members member found)

mutual

theorem value?_stable (enclosing : Nat) (tree : Tree) (value : Json)
    (read : tree.value? enclosing = some value) : Stable enclosing value := by
  cases tree with
  | null | bool _ =>
    cases read
    rfl
  | number _ | string _ =>
    obtain ⟨_, _, rfl⟩ := Option.map_eq_some_iff.mp read
    rfl
  | array items =>
    rw [Tree.value?] at read
    split at read
    next shallow =>
      obtain ⟨values, readItems, rfl⟩ := Option.map_eq_some_iff.mp read
      exact stable_array enclosing values shallow (items?_stable _ items values readItems)
    next => cases read
  | object members =>
    rw [Tree.value?] at read
    split at read
    next shallow =>
      obtain ⟨values, readMembers, rfl⟩ := Option.map_eq_some_iff.mp read
      exact stable_ofMembers enclosing values shallow
        (members?_stable _ members values readMembers)
    next => cases read

theorem items?_stable (enclosing : Nat) (items : List Tree) (values : List Json)
    (read : Tree.items? enclosing items = some values) :
    ∀ value ∈ values, Stable enclosing value := by
  cases items with
  | nil =>
    cases read
    simp
  | cons item rest =>
    obtain ⟨first, readFirst, read⟩ := Option.bind_eq_some_iff.mp read
    obtain ⟨others, readOthers, read⟩ := Option.bind_eq_some_iff.mp read
    cases read
    intro value found
    obtain rfl | later := List.mem_cons.mp found
    · exact value?_stable enclosing item value readFirst
    · exact items?_stable enclosing rest others readOthers value later

theorem members?_stable (enclosing : Nat) (members : List (Option String × Tree))
    (values : List (String × Json)) (read : Tree.members? enclosing members = some values) :
    ∀ member ∈ values, Stable enclosing member.2 := by
  cases members with
  | nil =>
    cases read
    simp
  | cons member rest =>
    obtain ⟨name, named, read⟩ := Option.bind_eq_some_iff.mp read
    obtain ⟨first, readFirst, read⟩ := Option.bind_eq_some_iff.mp read
    obtain ⟨others, readOthers, read⟩ := Option.bind_eq_some_iff.mp read
    cases read
    intro value found
    obtain rfl | later := List.mem_cons.mp found
    · exact value?_stable enclosing member.2 first readFirst
    · exact members?_stable enclosing rest others readOthers value later

end

theorem members?_filter (enclosing : Nat) (keep : Option String -> Bool)
    (members : List (Option String × Tree)) (values : List (String × Json))
    (read : Tree.members? enclosing members = some values) :
    Tree.members? enclosing (members.filter fun member => keep member.1) =
      some (values.filter fun member => keep (some member.1)) := by
  induction members generalizing values with
  | nil =>
    cases read
    rfl
  | cons member rest ih =>
    obtain ⟨name, tree⟩ := member
    obtain ⟨text, rfl, readValue⟩ := Option.bind_eq_some_iff.mp read
    obtain ⟨first, readFirst, readRest⟩ := Option.bind_eq_some_iff.mp readValue
    obtain ⟨others, readOthers, made⟩ := Option.bind_eq_some_iff.mp readRest
    cases made
    rw [List.filter_cons, List.filter_cons]
    by_cases kept : keep (some text)
    next => simp [kept, Tree.members?, readFirst, ih others readOthers]
    next => simp [kept, ih others readOthers]

namespace Fields

theorem ofMembers?_memberTrees (names : List String) (members : Members)
    (ordered : members.Ordered) :
    ∃ fields, ofMembers? names (memberTrees members) = some fields ∧
      ∀ name ∈ names, fields.lookup name = (members.get? name).map toTree := by
  induction members with
  | nil => exact ⟨[], rfl, fun _ _ => rfl⟩
  | cons member rest ih =>
    obtain ⟨head, value⟩ := member
    obtain ⟨least, restOrdered⟩ := List.pairwise_cons.mp ordered
    obtain ⟨fields, read, found⟩ := ih restOrdered
    by_cases known : head ∈ names
    next =>
      -- No later member has the name, so the field is not given twice.
      have absent : fields.lookup head = none := by
        rw [found head known, Members.get?_later head rest least]
        rfl
      refine ⟨(head, value.toTree) :: fields, ?_, fun name listed => ?_⟩
      · simp [memberTrees, ofMembers?, read, known, absent]
      · rw [Members.get?_cons]
        by_cases same : name = head
        next => simp [same]
        next => rw [lookup_other same, found name listed, if_neg same]
    next =>
      refine ⟨fields, ?_, fun name listed => ?_⟩
      · simp [memberTrees, ofMembers?, read, known]
      · have different : name ≠ head := fun same => known (same ▸ listed)
        rw [found name listed, Members.get?_cons, if_neg different]

variable {A : Type} (fields : Fields) (name : String)

theorem optional?_written (read : Tree -> Option A) (write : A -> Json) (value : Option A)
    (found : fields.lookup name = (value.map write).map toTree) (noNull : read .null = none)
    (reads : ∀ given ∈ value, read (write given).toTree = some given) :
    fields.optional? name read = some value := by
  unfold optional?
  cases value with
  | none =>
    rw [found]
    rfl
  | some given =>
    have back := reads given rfl
    rw [found]
    dsimp only [Option.map_some]
    cases written : (write given).toTree with
    | null =>
      rw [written, noNull] at back
      cases back
    | bool _ | number _ | string _ | array _ | object _ =>
      rw [written] at back
      simp [back]

theorem lenient?_written (read : Json -> Option A) (write : A -> Json) (value : Option A)
    (found : fields.lookup name = (value.map write).map toTree)
    (stable : ∀ given ∈ value, Stable 1 (write given))
    (reads : ∀ given ∈ value, read (write given) = some given) :
    fields.lenient? name read = some value := by
  unfold lenient?
  rw [found]
  cases value with
  | none => rfl
  | some given =>
    have back : (write given).toTree.value? 1 = some (write given) := stable given rfl
    simp [back, reads given rfl]

end Fields

end RelyingParty.Json
