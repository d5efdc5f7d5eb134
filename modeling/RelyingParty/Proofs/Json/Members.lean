import RelyingParty.Json.Value
import RelyingParty.Proofs.Json.Record

set_option autoImplicit false

namespace RelyingParty.Json.Members

@[simp] theorem get?_nil (name : String) : get? [] name = none := rfl

@[simp] theorem get?_cons (head name : String) (value : Json) (rest : Members) :
    get? ((head, value) :: rest) name = if name = head then some value else get? rest name := by
  by_cases same : name = head
  · simp [get?, same]
  · rw [if_neg same]
    exact Fields.lookup_other same value rest

theorem insert_get? (name other : String) (value : Json) (members : Members) :
    (insert name value members).get? other =
      if other = name then some value else members.get? other := by
  induction members with
  | nil => simp [insert]
  | cons member rest ih =>
    obtain ⟨head, old⟩ := member
    unfold insert
    split
    next => simp
    next =>
      split
      next same =>
        subst same
        simp only [get?_cons]
        split <;> rfl
      next different =>
        simp only [get?_cons, ih]
        by_cases found : other = head
        · simp [found, Ne.symm different]
        · simp [found]

theorem foldl_insert_get? (members : List (String × Json)) (before : Members) (name : String) :
    (members.foldl (fun total member => insert member.1 member.2 total) before).get? name =
      (get? members.reverse name).or (before.get? name) := by
  induction members generalizing before with
  | nil => simp
  | cons member rest ih =>
    -- A later member with the name takes the place of this one.
    have last : get? (rest.reverse ++ [member]) name =
        (get? rest.reverse name).or (get? [member] name) := List.lookup_append
    rw [List.foldl_cons, ih, insert_get?, List.reverse_cons, last, Option.or_assoc, get?_cons]
    split <;> rfl

theorem ofList_get? (members : List (String × Json)) (name : String) :
    (ofList members).get? name = get? members.reverse name := by
  simp [ofList, foldl_insert_get?]

theorem filter_get? (keep : String -> Bool) (members : List (String × Json)) (name : String) :
    get? (members.filter fun member => keep member.1) name =
      if keep name then get? members name else none := by
  induction members with
  | nil => simp
  | cons head rest ih =>
    obtain ⟨first, value⟩ := head
    rw [List.filter_cons, get?_cons]
    by_cases kept : keep first
    next =>
      rw [if_pos kept, get?_cons, ih]
      by_cases same : name = first <;> simp [same, kept]
    next =>
      rw [if_neg kept, ih]
      by_cases same : name = first <;> simp [same, kept]

theorem without_get? (names : List String) (members : Members) (name : String) :
    (members.without names).get? name = if name ∈ names then none else members.get? name := by
  have kept := filter_get? (fun name => !names.contains name) members name
  by_cases listed : name ∈ names
  · simpa [without, listed] using kept
  · simpa [without, listed] using kept

end RelyingParty.Json.Members
