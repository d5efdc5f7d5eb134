import RelyingParty.Proofs.Json.Ordered
import RelyingParty.Proofs.Json.Repetition
import RelyingParty.Proofs.Json.Value

set_option autoImplicit false

namespace RelyingParty.Json

structure Around where
  before : List (Name × Tree)
  after : List (Name × Tree)

namespace Around

def members (around : Around) (name : String) (tree : Tree) : List (Name × Tree) :=
  around.before ++ (some name, tree) :: around.after

variable (around : Around) (name : String)

theorem fields_given (names : List String) (listed : name ∈ names) (tree : Tree)
    (fields : Fields) (read : Fields.ofMembers? names (around.members name tree) = some fields) :
    fields.lookup name = some tree :=
  (Fields.ofMembers?_lookup names _ fields read name listed tree).mpr (by simp [members])

theorem fields_refilled (names : List String) (listed : name ∈ names) (tree other : Tree)
    (fields : Fields) (read : Fields.ofMembers? names (around.members name tree) = some fields) :
    ∃ refilled, Fields.ofMembers? names (around.members name other) = some refilled ∧
      refilled.lookup name = some other ∧
      ∀ field ∈ names, field ≠ name -> refilled.lookup field = fields.lookup field := by
  -- Whether the members have names, and each field once, is seen from the names alone.
  have sameNames : (around.members name other).map Prod.fst =
      (around.members name tree).map Prod.fst := by simp [members]
  obtain ⟨isNamed, unrepeated⟩ := (Fields.ofMembers?_readable _ _).mp ⟨fields, read⟩
  obtain ⟨refilled, readOther⟩ : ∃ refilled,
      Fields.ofMembers? names (around.members name other) = some refilled := by
    refine (Fields.ofMembers?_readable _ _).mpr ⟨?_, ?_⟩
    · simpa [members, or_imp, forall_and] using isNamed
    · simpa only [Fields.Repeated, sameNames] using unrepeated
  refine ⟨refilled, readOther, around.fields_given name names listed other refilled readOther, ?_⟩
  intro field known different
  refine Option.ext fun value => ?_
  rw [Fields.ofMembers?_lookup names _ refilled readOther field known,
    Fields.ofMembers?_lookup names _ fields read field known]
  simp [members, different]

theorem members?_around (enclosing : Nat) (tree : Tree) (values : List (String × Json)) :
    Tree.members? enclosing (around.members name tree) = some values ↔
      ∃ first value later, Tree.members? enclosing around.before = some first ∧
        tree.value? enclosing = some value ∧
        Tree.members? enclosing around.after = some later ∧
        values = first ++ (name, value) :: later := by
  obtain ⟨before, after⟩ := around
  induction before generalizing values with
  | nil =>
    cases first : tree.value? enclosing <;> cases rest : Tree.members? enclosing after <;>
      simp [members, Tree.members?, first, rest, eq_comm]
  | cons member rest ih =>
    obtain ⟨text, item⟩ := member
    constructor
    next =>
      intro read
      obtain ⟨head, rfl, read⟩ := Option.bind_eq_some_iff.mp read
      obtain ⟨value, readValue, read⟩ := Option.bind_eq_some_iff.mp read
      obtain ⟨others, readOthers, read⟩ := Option.bind_eq_some_iff.mp read
      cases read
      obtain ⟨first, middle, later, before, standsFor, after, rfl⟩ := (ih others).mp readOthers
      exact ⟨(head, value) :: first, middle, later, by simp [Tree.members?, readValue, before],
        standsFor, after, rfl⟩
    next =>
      rintro ⟨first, middle, later, before, standsFor, after, rfl⟩
      obtain ⟨head, rfl, read⟩ := Option.bind_eq_some_iff.mp before
      obtain ⟨value, readValue, read⟩ := Option.bind_eq_some_iff.mp read
      obtain ⟨others, readOthers, read⟩ := Option.bind_eq_some_iff.mp read
      cases read
      have whole := (ih _).mpr ⟨others, middle, later, readOthers, standsFor, after, rfl⟩
      simp only [members] at whole
      simp [members, Tree.members?, readValue, whole]

theorem values_refilled (enclosing : Nat) (names : List String) (listed : name ∈ names)
    (tree other : Tree) (isValue : other.isValue enclosing) (values : List (String × Json))
    (read : Tree.members? enclosing (around.members name tree) = some values) :
    ∃ refilled, Tree.members? enclosing (around.members name other) = some refilled ∧
      (Members.ofList refilled).without names = (Members.ofList values).without names := by
  obtain ⟨first, value, later, before, _, after, rfl⟩ := (members?_around ..).mp read
  obtain ⟨given, standsFor⟩ := Option.isSome_iff_exists.mp isValue
  refine ⟨first ++ (name, given) :: later,
    (members?_around ..).mpr ⟨first, given, later, before, standsFor, after, rfl⟩, ?_⟩
  simp [Members.without_ofList, listed]

end Around

/-- How a list in a document is read, and what became of it in the result. -/
structure Listing (A D : Type) where
  enclosing : Nat
  element? : Tree -> Option A
  elements : D -> List A
  put : List A -> D -> D

namespace Listing

variable {A D : Type} (listing : Listing A D)

def Legible (trees : List Tree) : Prop := ∀ tree ∈ trees, tree.isValue listing.enclosing

def understood (trees : List Tree) : List A := trees.filterMap listing.element?

/-- A document with a list of trees in it is read element by element. -/
structure ReadsEach (read : List Tree -> Option D) : Prop where
  result : ∀ trees document, read trees = some document ↔
    listing.Legible trees ∧
      ∃ empty, read [] = some empty ∧ document = listing.put (listing.understood trees) empty
  elements : ∀ trees document, read trees = some document ->
    listing.elements document = listing.understood trees
  joined : ∀ left right first second, read left = some first -> read right = some second ->
    read (left ++ right) =
      some (listing.put (listing.elements first ++ listing.elements second) first)
  passedOver : ∀ before after tree, tree.isValue listing.enclosing ->
    listing.element? tree = none -> read (before ++ tree :: after) = read (before ++ after)

variable {listing} {read : List Tree -> Option D}

theorem ReadsEach.of_refilled
    (legible : ∀ trees document, read trees = some document ->
      listing.Legible trees ∧ listing.elements document = listing.understood trees)
    (refilled : ∀ trees others document, read trees = some document -> listing.Legible others ->
      read others = some (listing.put (listing.understood others) document)) :
    listing.ReadsEach read := by
  have none : listing.Legible [] := by simp [Legible]
  have result (trees : List Tree) (document : D) :
      read trees = some document ↔ listing.Legible trees ∧ ∃ empty,
        read [] = some empty ∧ document = listing.put (listing.understood trees) empty := by
    constructor
    next =>
      intro success
      -- The list is emptied and filled with the same trees again.
      obtain ⟨values, _⟩ := legible trees document success
      have cleared := refilled trees [] document success none
      have again := refilled [] trees _ cleared values
      exact ⟨values, _, cleared, Option.some.inj (success.symm.trans again)⟩
    next =>
      rintro ⟨values, empty, readEmpty, rfl⟩
      exact refilled [] trees empty readEmpty values
  constructor
  case result => exact result
  case elements => exact fun trees document success => (legible trees document success).2
  case joined =>
    intro left right first second readLeft readRight
    obtain ⟨leftValues, leftElements⟩ := legible left first readLeft
    obtain ⟨rightValues, rightElements⟩ := legible right second readRight
    rw [leftElements, rightElements, understood, understood, ← List.filterMap_append]
    exact refilled left _ first readLeft (List.forall_mem_append.mpr ⟨leftValues, rightValues⟩)
  case passedOver =>
    intro before after tree isValue unknown
    have sameElements : listing.understood (before ++ tree :: after) =
        listing.understood (before ++ after) := by
      simp [understood, unknown]
    have sameValues : listing.Legible (before ++ tree :: after) ↔
        listing.Legible (before ++ after) := by
      simp [Legible, isValue, or_imp, forall_and]
    refine Option.ext fun document => ?_
    rw [result, result, sameElements, sameValues]

end Listing

end RelyingParty.Json
