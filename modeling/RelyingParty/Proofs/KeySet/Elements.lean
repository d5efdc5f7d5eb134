import RelyingParty.KeySet.Fetch
import RelyingParty.Proofs.Checked
import RelyingParty.Proofs.Json.Elements

set_option autoImplicit false

namespace RelyingParty.KeySet

inductive Place
  | member (around : Json.Around)
  | item

def Place.document : Place -> List Json.Tree -> Json.Tree
  | .member around, items => .object (around.members "keys" (.array items))
  | .item, items => .array [.array items]

def listing (enclosing : Nat) : Json.Listing Key KeySet where
  enclosing := enclosing + 2
  element? := Key.ofItem?
  elements := keys
  put keys _ := ⟨keys⟩

def Place.Sound : Place -> Prop
  | .member around =>
    ∀ member ∈ around.before ++ around.after, member.1.isSome ∧ member.1 ≠ some "keys"
  | .item => True

theorem items_array (enclosing : Nat) (path : String) (trees found : List Json.Tree) :
    items enclosing path (.array trees) = .ok found ↔
      (∀ tree ∈ trees, tree.isValue (enclosing + 1)) ∧ trees = found := by
  have values : trees.all (Json.Tree.isValue (enclosing + 1)) = true ↔
      ∀ tree ∈ trees, tree.isValue (enclosing + 1) := List.all_eq_true
  rw [← values, items]
  split
  next legible => simp [legible]
  next refused => simp [refused]

theorem ofMembers_given (enclosing : Nat) (given : List Json.Tree)
    (members : List (Json.Name × Json.Tree)) (found : Option (List Json.Tree)) :
    ofMembers enclosing (some given) members = .ok found ↔
      (∀ member ∈ members, member.1.isSome ∧ member.1 ≠ some "keys") ∧ some given = found := by
  induction members with
  | nil => simp [ofMembers]
  | cons member rest ih =>
    obtain ⟨_ | name, tree⟩ := member
    case none => simp [ofMembers]
    by_cases keys : name = "keys"
    next => simp [ofMembers, keys]
    next => simp [ofMembers, keys, ih]

theorem ofMembers_around (enclosing : Nat) (around : Json.Around) (tree : Json.Tree)
    (found : Option (List Json.Tree)) :
    ofMembers enclosing none (around.members "keys" tree) = .ok found ↔
      (Place.member around).Sound ∧
        ∃ given, items (enclosing + 1) "keys" tree = .ok given ∧ some given = found := by
  obtain ⟨before, after⟩ := around
  induction before with
  | nil =>
    have first : ofMembers enclosing none (Json.Around.members ⟨[], after⟩ "keys" tree) =
        items (enclosing + 1) "keys" tree >>= fun given =>
          ofMembers enclosing (some given) after := rfl
    rw [first, bind_success]
    simp only [ofMembers_given, Place.Sound, List.nil_append]
    tauto
  | cons member rest ih =>
    obtain ⟨_ | name, other⟩ := member
    case none => simp [Json.Around.members, ofMembers, Place.Sound]
    by_cases keys : name = "keys"
    next =>
      -- The member that was to be the array of keys is a second one of that name.
      subst keys
      have second : (some "keys", tree) ∈ Json.Around.members ⟨rest, after⟩ "keys" tree := by
        simp [Json.Around.members]
      have first : ofMembers enclosing none
          (Json.Around.members ⟨(some "keys", other) :: rest, after⟩ "keys" tree) =
          items (enclosing + 1) "keys" other >>= fun given =>
            ofMembers enclosing (some given) (Json.Around.members ⟨rest, after⟩ "keys" tree) := rfl
      rw [first, bind_success]
      simp only [ofMembers_given]
      constructor
      next =>
        rintro ⟨_, _, others, _⟩
        exact absurd rfl (others _ second).2
      next =>
        rintro ⟨sound, _⟩
        exact absurd rfl (sound _ List.mem_cons_self).2
    next =>
      have passed : ofMembers enclosing none
          (Json.Around.members ⟨(some name, other) :: rest, after⟩ "keys" tree) =
          ofMembers enclosing none (Json.Around.members ⟨rest, after⟩ "keys" tree) := by
        simp [Json.Around.members, ofMembers, keys]
      rw [passed, ih]
      simp [Place.Sound, keys]

theorem ofTree_success (enclosing : Nat) (place : Place) (trees : List Json.Tree) (set : KeySet) :
    ofTree enclosing (place.document trees) = .ok set ↔
      place.Sound ∧ (listing enclosing).Legible trees ∧ ofItems trees = set := by
  cases place with
  | member around =>
    change (ofMembers enclosing none (around.members "keys" (.array trees)) >>= _) = .ok set ↔ _
    rw [bind_success]
    simp only [ofMembers_around, items_array]
    constructor
    next =>
      rintro ⟨_, ⟨sound, _, ⟨legible, rfl⟩, rfl⟩, made⟩
      exact ⟨sound, legible, Except.ok.inj made⟩
    next =>
      rintro ⟨sound, legible, rfl⟩
      exact ⟨_, ⟨sound, _, ⟨legible, rfl⟩, rfl⟩, rfl⟩
  | item =>
    have read : ofTree enclosing (Place.item.document trees) =
        items (enclosing + 1) "[0]" (.array trees) >>= fun found => .ok (ofItems found) := rfl
    rw [read, bind_success]
    simp only [items_array]
    constructor
    next =>
      rintro ⟨_, ⟨legible, rfl⟩, made⟩
      exact ⟨trivial, legible, Except.ok.inj made⟩
    next =>
      rintro ⟨_, legible, rfl⟩
      exact ⟨_, ⟨legible, rfl⟩, rfl⟩

theorem ofTree_elements (enclosing : Nat) (place : Place) :
    (listing enclosing).ReadsEach fun trees =>
      (ofTree enclosing (place.document trees)).toOption := by
  refine .of_refilled (fun trees set read => ?_) fun trees others set read legible => ?_
  · obtain ⟨_, legible, rfl⟩ := (ofTree_success ..).mp ((toOption_success _ _).mp read)
    exact ⟨legible, rfl⟩
  · obtain ⟨sound, _⟩ := (ofTree_success ..).mp ((toOption_success _ _).mp read)
    exact (toOption_success _ _).mpr ((ofTree_success ..).mpr ⟨sound, legible, rfl⟩)

theorem document_isValue (enclosing : Nat) (place : Place) (trees others : List Json.Tree)
    (value : (place.document trees).isValue enclosing) :
    (listing enclosing).Legible trees ∧
      ((listing enclosing).Legible others -> (place.document others).isValue enclosing) := by
  cases place with
  | member around =>
    simp only [Place.document, Json.Tree.isValue_object, Json.Around.members,
      List.forall_mem_append, List.forall_mem_cons, Json.Tree.isValue_array] at value ⊢
    tauto
  | item =>
    simp only [Place.document, Json.Tree.isValue_array, List.forall_mem_singleton] at value ⊢
    tauto

structure Carries (response : Http.Response) (document : Json.Tree) : Prop where
  faultless : responseFault? response = none
  body : ∃ rest, Json.Reading.ofBytes response.body = .whole document rest

theorem ofResponse_carried (response : Http.Response) (document : Json.Tree)
    (carries : Carries response document) :
    ofResponse response = (ofTree 0 document).mapError .document := by
  obtain ⟨rest, body⟩ := carries.body
  rw [ofResponse, carries.faultless, body]
  rfl

end RelyingParty.KeySet
