import Mathlib.Data.List.Count
import Mathlib.Data.List.Nodup
import RelyingParty.Proofs.Json.Record

set_option autoImplicit false

namespace RelyingParty.Json.Fields

def Repeated (name : String) (members : List (Option String × Tree)) : Prop :=
  1 < (members.map Prod.fst).count (some name)

instance (name : String) (members : List (Option String × Tree)) :
    Decidable (Repeated name members) :=
  inferInstanceAs (Decidable (_ < _))

theorem named_of_isSome (members : List (Option String × Tree))
    (isNamed : ∀ member ∈ members, member.1.isSome) :
    ∃ named : Fields, members = named.map (Prod.map some id) := by
  induction members with
  | nil => exact ⟨[], rfl⟩
  | cons member rest ih =>
    obtain ⟨first, later⟩ := List.forall_mem_cons.mp isNamed
    obtain ⟨name, tree⟩ := member
    obtain ⟨text, rfl⟩ := Option.isSome_iff_exists.mp first
    obtain ⟨named, rfl⟩ := ih later
    exact ⟨(text, tree) :: named, rfl⟩

theorem known_count (names : List String) (named : Fields) (name : String)
    (listed : name ∈ names) :
    ((known names named).map Prod.fst).count name =
      ((named.map (Prod.map some id)).map Prod.fst).count (some name) := by
  have kept : (known names named).map Prod.fst =
      (named.map Prod.fst).filter fun name => names.contains name := by
    rw [List.filter_map]
    rfl
  have spelled : (named.map (Prod.map some id)).map Prod.fst = (named.map Prod.fst).map some := by
    simp
  rw [kept, List.count_filter (by simpa using listed), spelled,
    List.count_map_of_injective _ some fun _ _ => Option.some.inj]

theorem known_nodup (names : List String) (named : Fields) :
    ((known names named).map Prod.fst).Nodup ↔
      ∀ name ∈ names, ¬ Repeated name (named.map (Prod.map some id)) := by
  rw [List.nodup_iff_count_le_one]
  constructor
  next =>
    intro counts name listed
    rw [Repeated, ← known_count names named name listed]
    exact Nat.not_lt.mpr (counts name)
  next =>
    intro unrepeated name
    by_cases listed : name ∈ names
    next =>
      rw [known_count names named name listed]
      exact Nat.not_lt.mp (unrepeated name listed)
    next =>
      -- A name that is no field is dropped, so it is not found even once.
      have absent : name ∉ (known names named).map Prod.fst := by
        intro found
        obtain ⟨member, kept, rfl⟩ := List.mem_map.mp found
        exact listed (by simpa using (List.mem_filter.mp kept).2)
      rw [List.count_eq_zero_of_not_mem absent]
      exact Nat.zero_le 1

theorem ofMembers?_readable (names : List String) (members : List (Option String × Tree)) :
    (∃ fields, ofMembers? names members = some fields) ↔
      (∀ member ∈ members, member.1.isSome) ∧ ∀ name ∈ names, ¬ Repeated name members := by
  constructor
  next =>
    rintro ⟨fields, read⟩
    obtain ⟨named, rfl, distinct, _⟩ := (ofMembers?_success names members fields).mp read
    refine ⟨fun member found => ?_, (known_nodup names named).mp distinct⟩
    obtain ⟨_, _, rfl⟩ := List.mem_map.mp found
    rfl
  next =>
    rintro ⟨isNamed, unrepeated⟩
    obtain ⟨named, rfl⟩ := named_of_isSome members isNamed
    have distinct := (known_nodup names named).mpr unrepeated
    exact ⟨_, (ofMembers?_success names _ _).mpr ⟨named, rfl, distinct, rfl⟩⟩

/-- Members that give the same fields, each of them once, in any order and among any others. -/
structure Alike (names : List String) (members others : List (Option String × Tree)) : Prop where
  isNamed : ∀ member ∈ members ++ others, member.1.isSome
  once : ∀ name ∈ names, ¬ Repeated name members ∧ ¬ Repeated name others
  same : ∀ name ∈ names, ∀ tree, (some name, tree) ∈ members ↔ (some name, tree) ∈ others

theorem Alike.lookup {names : List String} {members others : List (Option String × Tree)}
    (alike : Alike names members others) :
    ∃ fields changed, ofMembers? names members = some fields ∧
      ofMembers? names others = some changed ∧
      ∀ name ∈ names, changed.lookup name = fields.lookup name := by
  obtain ⟨isNamed, once, same⟩ := alike
  obtain ⟨isNamed, othersNamed⟩ := List.forall_mem_append.mp isNamed
  obtain ⟨fields, read⟩ := (ofMembers?_readable names members).mpr
    ⟨isNamed, fun name listed => (once name listed).1⟩
  obtain ⟨changed, readOthers⟩ := (ofMembers?_readable names others).mpr
    ⟨othersNamed, fun name listed => (once name listed).2⟩
  refine ⟨fields, changed, read, readOthers, fun name listed => Option.ext fun tree => ?_⟩
  rw [ofMembers?_lookup names others changed readOthers name listed, ← same name listed,
    ofMembers?_lookup names members fields read name listed]

theorem Alike.read_eq {A : Type} {names : List String}
    {members others : List (Option String × Tree)} (alike : Alike names members others)
    (read : List (Option String × Tree) -> Option A) (Holds : Fields -> A -> Prop)
    (success : ∀ members value, read members = some value ↔
      ∃ fields, ofMembers? names members = some fields ∧ Holds fields value)
    (congr : ∀ fields changed value, Holds fields value ->
      (∀ name ∈ names, changed.lookup name = fields.lookup name) -> Holds changed value) :
    read others = read members := by
  obtain ⟨fields, changed, found, foundOthers, same⟩ := alike.lookup
  refine Option.ext fun value => ?_
  simp only [success, found, foundOthers, Option.some.injEq, exists_eq_left']
  exact ⟨fun holds => congr _ _ _ holds fun name listed => (same name listed).symm,
    fun holds => congr _ _ _ holds same⟩

end RelyingParty.Json.Fields
