import RelyingParty.KeySet
import RelyingParty.Proofs.Json.Document
import RelyingParty.Proofs.Key.Fields
import RelyingParty.Proofs.Named

set_option autoImplicit false

namespace RelyingParty

theorem KeyUse.ofText_text (text : String) :
    KeyUse.ofText (KeyUse.ofText text).text = KeyUse.ofText text := by
  unfold KeyUse.ofText
  by_cases signature : text = "sig"
  next => simp [signature, KeyUse.text]
  next =>
    by_cases encryption : text = "enc"
    · simp [encryption, KeyUse.text]
    · simp [signature, encryption, KeyUse.text]

namespace Key

inductive Made : Key -> Prop
  | read {key : Key} (tree : Json.Tree) (read : ofTree? tree = some key) : Made key
  | item {key : Key} (tree : Json.Tree) (read : ofItem? tree = some key) : Made key
  | rsa (modulus exponent : Bytes) (id : Option String) : Made (.rsa modulus exponent id)
  | ellipticCurve (x y : Bytes) (curve : Curve) (id : Option String) :
      Made (.ellipticCurve x y curve id)
  | octetKeyPair (x : Bytes) (curve : Curve) (id : Option String) : Made (.octetKeyPair x curve id)
  | encryption (secret : Bytes) (id : Option String) : Made (.encryption secret id)
  | symmetric (secret : Bytes) : Made (.symmetric secret)

def UseNamed (key : Key) : Prop := ∀ use ∈ key.use, KeyUse.ofText use.text = use

theorem ofTreeWith?_useNamed (readType : Json.Tree -> Option KeyType) (tree : Json.Tree) (key : Key)
    (read : ofTreeWith? readType tree = some key) : key.UseNamed := by
  obtain ⟨fields, _, holds⟩ := (ofTreeWith?_success readType tree key).mp read
  obtain ⟨use, _, named⟩ := holds.use
  intro given found
  rw [named] at found
  obtain ⟨text, _, rfl⟩ := Option.map_eq_some_iff.mp found
  exact KeyUse.ofText_text text

theorem Made.useNamed {key : Key} (made : key.Made) : key.UseNamed := by
  cases made with
  | read tree read => exact ofTreeWith?_useNamed _ tree key read
  | item tree read => exact ofTreeWith?_useNamed _ tree key read
  | rsa _ _ _ | ellipticCurve _ _ _ _ | octetKeyPair _ _ _ | encryption _ _ | symmetric _ =>
    rintro _ ⟨⟩ <;> rfl

def members (key : Key) : List (String × Json) :=
  [("kty", Named.toJson key.type)] ++
    Json.optionalMember "use" (fun use => .string use.text) key.use ++
    Json.optionalMember "kid" .string key.id ++
    Json.optionalMember "n" bytesJson key.modulus ++
    Json.optionalMember "e" bytesJson key.exponent ++
    Json.optionalMember "crv" Named.toJson key.curve ++
    Json.optionalMember "x" bytesJson key.x ++
    Json.optionalMember "y" bytesJson key.y ++
    Json.optionalMember "d" bytesJson key.privatePart ++
    Json.optionalMember "k" bytesJson key.secret

theorem toJson_members (key : Key) : key.toJson = Json.ofMembers key.members := rfl

theorem members_written (key : Key) (enclosing : Nat) :
    Json.Written enclosing fieldNames key.members :=
  (((((((((Json.Written.member (by decide) (Json.stable_string _ _)).append
    (.optional (by decide) fun _ => Json.stable_string _ _)).append
    (.optional (by decide) fun _ => Json.stable_string _ _)).append
    (.optional (by decide) fun _ => Json.stable_string _ _)).append
    (.optional (by decide) fun _ => Json.stable_string _ _)).append
    (.optional (by decide) fun _ => Json.stable_string _ _)).append
    (.optional (by decide) fun _ => Json.stable_string _ _)).append
    (.optional (by decide) fun _ => Json.stable_string _ _)).append
    (.optional (by decide) fun _ => Json.stable_string _ _)).append
    (.optional (by decide) fun _ => Json.stable_string _ _)

theorem ofTreeWith?_toJson (readType : Json.Tree -> Option KeyType)
    (reads : ∀ type, readType (Named.toJson type).toTree = some type) (key : Key)
    (named : key.UseNamed) : ofTreeWith? readType key.toJson.toTree = some key := by
  obtain ⟨fields, read, found⟩ := Json.document_fields key.members
    (Json.Additional.empty : Json.Additional fieldNames [])
  rw [List.append_nil] at read
  have given (name : String) (listed : name ∈ fieldNames) := found name listed
  simp only [members, Json.Members.ofList_append_get?, Json.ofList_member_get?,
    Json.ofList_optionalMember_get?] at given
  have bytes (name : String) (value : Option Bytes)
      (field : fields.lookup name = (value.map bytesJson).map Json.toTree) :
      fields.lenient? name bytes? = some value :=
    fields.lenient?_written name bytes? bytesJson value field
      (fun _ _ => Json.stable_string _ _) fun given _ => (bytes?_some _ given).mpr rfl
  have text (name : String) (value : Option String)
      (field : fields.lookup name = (value.map Json.string).map Json.toTree) :
      fields.optionalText? name = some value :=
    fields.optional?_written name Json.Tree.string? .string value field rfl fun _ _ => rfl
  have type : (fields.lookup "kty").bind readType = some key.type := by
    rw [given "kty" (by decide)]
    exact reads key.type
  have use : fields.optionalText? "use" = some (key.use.map KeyUse.text) := by
    refine text "use" _ ?_
    simp [given "use" (by decide), Function.comp_def]
  have id := text "kid" key.id (by simp [given "kid" (by decide)])
  have modulus := bytes "n" key.modulus (by simp [given "n" (by decide)])
  have exponent := bytes "e" key.exponent (by simp [given "e" (by decide)])
  have curve : fields.lenient? "crv" (fun value => Named.ofTree? value.toTree) = some key.curve :=
    fields.lenient?_written "crv" _ Named.toJson key.curve (by simp [given "crv" (by decide)])
      (fun _ _ => Json.stable_string _ _) fun _ _ => Named.ofTree?_toJson _
  have x := bytes "x" key.x (by simp [given "x" (by decide)])
  have y := bytes "y" key.y (by simp [given "y" (by decide)])
  have privatePart := bytes "d" key.privatePart (by simp [given "d" (by decide)])
  have secret := bytes "k" key.secret (by simp [given "k" (by decide)])
  have uses : (key.use.map KeyUse.text).map KeyUse.ofText = key.use := by
    cases stated : key.use with
    | none => rfl
    | some use => exact congrArg some (named use stated)
  exact (ofTreeWith?_success readType _ key).mpr ⟨fields, read, type, ⟨_, use, uses.symm⟩, id,
    by simpa [byteParts] using ⟨modulus, exponent, x, y, privatePart, secret⟩, curve⟩

theorem ofTree?_toJson (key : Key) (named : key.UseNamed) :
    ofTree? key.toJson.toTree = some key :=
  ofTreeWith?_toJson _ Named.ofTree?_toJson key named

theorem ofItem?_toJson (key : Key) (named : key.UseNamed) :
    ofItem? key.toJson.toTree = some key :=
  ofTreeWith?_toJson _ Named.ofItem?_toJson key named

end Key

namespace KeySet

inductive Made : KeySet -> Prop
  | read {set : KeySet} (enclosing : Nat) (tree : Json.Tree)
      (read : ofTree enclosing tree = .ok set) : Made set
  | of (keys : List Key) (made : ∀ key ∈ keys, key.Made) : Made ⟨keys⟩

theorem ofItems_useNamed (items : List Json.Tree) : ∀ key ∈ (ofItems items).keys, key.UseNamed := by
  intro key found
  obtain ⟨tree, _, read⟩ := List.mem_filterMap.mp found
  exact Key.ofTreeWith?_useNamed _ tree key read

theorem ofTree_items (enclosing : Nat) (tree : Json.Tree) (set : KeySet)
    (read : ofTree enclosing tree = .ok set) : ∃ items, set = ofItems items := by
  cases tree with
  | object members =>
    obtain ⟨found, _, read⟩ := (bind_success _ _ _).mp read
    cases found with
    | none => cases read
    | some found =>
      cases read
      exact ⟨found, rfl⟩
  | array items =>
    cases items with
    | nil => cases read
    | cons first rest =>
      obtain ⟨found, _, read⟩ := (bind_success _ _ _).mp read
      split at read
      next =>
        cases read
        exact ⟨found, rfl⟩
      next => cases read
  | string text => cases text <;> cases read
  | number value => cases value <;> cases read
  | null | bool _ => cases read

theorem Made.useNamed {set : KeySet} (made : set.Made) : ∀ key ∈ set.keys, key.UseNamed := by
  cases made with
  | read enclosing tree read =>
    obtain ⟨items, rfl⟩ := ofTree_items enclosing tree set read
    exact ofItems_useNamed items
  | of keys made => exact fun key found => (made key found).useNamed

theorem keyJson_stable (key : Key) (enclosing : Nat) (shallow : enclosing < Json.maxDepth) :
    key.toJson.Stable enclosing :=
  Json.stable_ofMembers enclosing key.members shallow (key.members_written _).stable

theorem toJson_stable (set : KeySet) : set.toJson.Stable 1 := by
  refine Json.stable_object 1 _ (by decide) (List.pairwise_singleton _ _) fun member found => ?_
  obtain rfl := List.mem_singleton.mp found
  refine Json.stable_array 2 _ (by decide) fun item listed => ?_
  obtain ⟨key, _, rfl⟩ := List.mem_map.mp listed
  exact keyJson_stable key 3 (by decide)

theorem keys_kept (keys : List Key) (named : ∀ key ∈ keys, key.UseNamed) :
    (keys.map fun key => key.toJson.toTree).filterMap Key.ofItem? = keys := by
  induction keys with
  | nil => rfl
  | cons key rest ih =>
    obtain ⟨first, later⟩ := List.forall_mem_cons.mp named
    have kept := ih later
    simp [key.ofItem?_toJson first, kept]

theorem ofTree_toJson (set : KeySet) (enclosing : Nat) (shallow : enclosing + 2 < Json.maxDepth)
    (named : ∀ key ∈ set.keys, key.UseNamed) : ofTree enclosing set.toJson.toTree = .ok set := by
  -- The keys lie two levels deeper than the set, within its object and its array.
  have values : (set.keys.map fun key => key.toJson.toTree).all
      (Json.Tree.isValue (enclosing + 2)) = true := by
    simp only [List.all_map, List.all_eq_true]
    intro key _
    have stable : key.toJson.toTree.value? (enclosing + 2) = some key.toJson :=
      keyJson_stable key _ shallow
    simp [Json.Tree.isValue, stable]
  have keys := keys_kept set.keys named
  have written : set.toJson.toTree =
      .object [(some "keys", .array (set.keys.map fun key => key.toJson.toTree))] := by
    simp [toJson, Json.toTree, Json.memberTrees, Json.itemTrees_map, Function.comp_def]
  simp [written, ofTree, ofMembers, items, values, ofItems, keys, bind, Except.bind]

end KeySet

end RelyingParty
