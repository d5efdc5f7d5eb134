import RelyingParty.Proofs.Json.Members

set_option autoImplicit false

namespace RelyingParty.Json.Members

def Ordered (members : Members) : Prop := members.Pairwise fun left right => left.1 < right.1

theorem insert_mem (name : String) (value : Json) (members : Members) (member : String × Json)
    (found : member ∈ insert name value members) : member = (name, value) ∨ member ∈ members := by
  induction members with
  | nil => simpa [insert] using found
  | cons head rest ih =>
    unfold insert at found
    grind

theorem insert_ordered (name : String) (value : Json) (members : Members)
    (ordered : Ordered members) : Ordered (insert name value members) := by
  induction members with
  | nil => simp [insert, Ordered]
  | cons head rest ih =>
    obtain ⟨other, old⟩ := head
    obtain ⟨least, restOrdered⟩ := List.pairwise_cons.mp ordered
    unfold insert
    by_cases before : name < other
    next =>
      rw [if_pos before]
      refine List.pairwise_cons.mpr ⟨?_, ordered⟩
      intro member found
      obtain rfl | later := List.mem_cons.mp found
      · exact before
      · exact String.lt_trans before (least member later)
    next =>
      rw [if_neg before]
      by_cases same : name = other
      next =>
        rw [if_pos same]
        subst same
        exact List.pairwise_cons.mpr ⟨least, restOrdered⟩
      next =>
        rw [if_neg same]
        have after : other < name := by grind
        refine List.pairwise_cons.mpr ⟨?_, ih restOrdered⟩
        intro member found
        obtain rfl | later := insert_mem name value rest member found
        · exact after
        · exact least member later

theorem ofList_ordered (members : List (String × Json)) : Ordered (ofList members) := by
  have keeps (before : Members) (ordered : Ordered before) :
      Ordered (members.foldl (fun total member => insert member.1 member.2 total) before) := by
    induction members generalizing before with
    | nil => exact ordered
    | cons member rest ih => exact ih _ (insert_ordered member.1 member.2 before ordered)
  exact keeps [] List.Pairwise.nil

theorem ofList_mem (members : List (String × Json)) (member : String × Json)
    (found : member ∈ ofList members) : member ∈ members := by
  have comes (before : Members) :
      member ∈ members.foldl (fun total next => insert next.1 next.2 total) before ->
        member ∈ members ∨ member ∈ before := by
    clear found
    induction members generalizing before with
    | nil => exact .inr
    | cons next rest ih =>
      intro found
      obtain later | earlier := ih (insert next.1 next.2 before) found
      · exact .inl (List.mem_cons_of_mem next later)
      · obtain rfl | old := insert_mem next.1 next.2 before member earlier
        · exact .inl List.mem_cons_self
        · exact .inr old
  simpa using comes [] found

theorem get?_later (name : String) (members : Members)
    (later : ∀ member ∈ members, name < member.1) : members.get? name = none := by
  induction members with
  | nil => rfl
  | cons head rest ih =>
    have different : name ≠ head.1 := by
      have before := later head List.mem_cons_self
      grind
    rw [get?_cons, if_neg different]
    exact ih fun member found => later member (List.mem_cons_of_mem head found)

theorem ordered_get? (members : Members) (ordered : Ordered members) (name : String)
    (value : Json) : members.get? name = some value ↔ (name, value) ∈ members := by
  induction members with
  | nil => simp
  | cons head rest ih =>
    obtain ⟨least, restOrdered⟩ := List.pairwise_cons.mp ordered
    obtain ⟨first, found⟩ := head
    rw [get?_cons]
    by_cases same : name = first
    next =>
      subst same
      have absent : (name, value) ∉ rest := fun member =>
        String.lt_irrefl name (least (name, value) member)
      simp [absent, eq_comm]
    next => simp [same, ih restOrdered]

theorem ordered_ext (left right : Members) (leftOrdered : Ordered left)
    (rightOrdered : Ordered right) (same : ∀ name, left.get? name = right.get? name) :
    left = right := by
  induction left generalizing right with
  | nil =>
    cases right with
    | nil => rfl
    | cons head rest =>
      have found := same head.1
      rw [get?_cons, if_pos rfl] at found
      cases found
  | cons head rest ih =>
    cases right with
    | nil =>
      have found := same head.1
      rw [get?_cons, if_pos rfl] at found
      cases found
    | cons other others =>
      obtain ⟨least, restOrdered⟩ := List.pairwise_cons.mp leftOrdered
      obtain ⟨otherLeast, othersOrdered⟩ := List.pairwise_cons.mp rightOrdered
      -- The first member of each list is a member of the other, so neither comes before the other.
      have member : head ∈ other :: others := by
        rw [← ordered_get? _ rightOrdered head.1 head.2, ← same, get?_cons, if_pos rfl]
      have otherMember : other ∈ head :: rest := by
        rw [← ordered_get? _ leftOrdered other.1 other.2, same, get?_cons, if_pos rfl]
      have equal : head = other := by
        obtain equal | later := List.mem_cons.mp member
        · exact equal
        · obtain equal | otherLater := List.mem_cons.mp otherMember
          · exact equal.symm
          · exact absurd (otherLeast _ later) (String.lt_asymm (least _ otherLater))
      subst equal
      rw [ih others restOrdered othersOrdered]
      intro name
      have sameRest := same name
      rw [get?_cons, get?_cons] at sameRest
      by_cases first : name = head.1
      next =>
        subst first
        rw [get?_later _ _ least, get?_later _ _ otherLeast]
      next => simpa [first] using sameRest

theorem ordered_reverse_get? (members : Members) (ordered : Ordered members) (name : String) :
    get? members.reverse name = members.get? name := by
  induction members with
  | nil => rfl
  | cons head rest ih =>
    obtain ⟨least, restOrdered⟩ := List.pairwise_cons.mp ordered
    have last : get? (rest.reverse ++ [head]) name =
        (get? rest.reverse name).or (get? [head] name) := List.lookup_append
    rw [List.reverse_cons, last, ih restOrdered, get?_cons, get?_cons]
    by_cases first : name = head.1
    next =>
      subst first
      simp [get?_later _ _ least]
    next => simp [first]

theorem ofList_of_ordered (members : Members) (ordered : Ordered members) :
    ofList members = members := by
  refine ordered_ext _ _ (ofList_ordered members) ordered fun name => ?_
  rw [ofList_get?, ordered_reverse_get? members ordered]

theorem ofList_append_get? (left right : List (String × Json)) (name : String) :
    (ofList (left ++ right)).get? name =
      ((ofList right).get? name).or ((ofList left).get? name) := by
  have last : get? (right.reverse ++ left.reverse) name =
      (get? right.reverse name).or (get? left.reverse name) := List.lookup_append
  rw [ofList_get?, ofList_get?, ofList_get?, List.reverse_append, last]

theorem ofList_cons_get? (head name : String) (value : Json) (rest : List (String × Json)) :
    (ofList ((head, value) :: rest)).get? name =
      ((ofList rest).get? name).or (if name = head then some value else none) := by
  have single : (ofList [(head, value)]).get? name = if name = head then some value else none :=
    insert_get? head name value []
  rw [← single]
  exact ofList_append_get? [(head, value)] rest name

theorem without_ofList (names : List String) (members : List (String × Json)) :
    (ofList members).without names =
      ofList (members.filter fun member => !names.contains member.1) := by
  refine ordered_ext _ _ ((ofList_ordered members).filter _) (ofList_ordered _) fun name => ?_
  rw [without_get?, ofList_get?, ofList_get?, ← List.filter_reverse,
    filter_get? fun name => !names.contains name]
  by_cases listed : name ∈ names <;> simp [listed]

theorem without_filter (names : List String) (keep : String -> Bool)
    (wide : ∀ name, keep name = false -> name ∈ names) (members : List (String × Json)) :
    (ofList (members.filter fun member => keep member.1)).without names =
      (ofList members).without names := by
  have narrower (name : String) : (!names.contains name && keep name) = !names.contains name := by
    cases kept : keep name with
    | true => simp
    | false => simpa using wide name kept
  rw [without_ofList, without_ofList, List.filter_filter]
  simp only [narrower]

end RelyingParty.Json.Members
