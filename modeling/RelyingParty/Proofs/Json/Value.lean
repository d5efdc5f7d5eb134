import RelyingParty.Json.Reading

set_option autoImplicit false

namespace RelyingParty.Json.Tree

theorem items?_isSome (enclosing : Nat) (items : List Tree) :
    (items? enclosing items).isSome ↔ ∀ item ∈ items, item.isValue enclosing := by
  induction items with
  | nil => simp [items?]
  | cons item rest ih =>
    rw [List.forall_mem_cons, ← ih]
    cases read : value? enclosing item <;> cases later : items? enclosing rest <;>
      simp [items?, isValue, read, later]

theorem members?_isSome (enclosing : Nat) (members : List (Option String × Tree)) :
    (members? enclosing members).isSome ↔
      ∀ member ∈ members, member.1.isSome ∧ member.2.isValue enclosing := by
  induction members with
  | nil => simp [members?]
  | cons member rest ih =>
    obtain ⟨name, tree⟩ := member
    rw [List.forall_mem_cons, ← ih]
    cases name <;> cases read : value? enclosing tree <;> cases later : members? enclosing rest <;>
      simp [members?, isValue, read, later]

theorem isValue_array (enclosing : Nat) (items : List Tree) :
    (array items).isValue enclosing ↔
      enclosing < maxDepth ∧ ∀ item ∈ items, item.isValue (enclosing + 1) := by
  rw [← items?_isSome]
  by_cases shallow : enclosing < maxDepth <;> simp [isValue, value?, shallow]

theorem isValue_object (enclosing : Nat) (members : List (Option String × Tree)) :
    (object members).isValue enclosing ↔
      enclosing < maxDepth ∧
        ∀ member ∈ members, member.1.isSome ∧ member.2.isValue (enclosing + 1) := by
  rw [← members?_isSome]
  by_cases shallow : enclosing < maxDepth <;> simp [isValue, value?, shallow]

end RelyingParty.Json.Tree
