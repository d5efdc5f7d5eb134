import RelyingParty.Algorithm
import RelyingParty.Proofs.Json.Stable

set_option autoImplicit false

namespace RelyingParty.Named

variable {A : Type} [Named A]

theorem name_ofName? (text : String) (value : A) (found : ofName? text = some value) :
    name value = text := by
  simpa using List.find?_some found

variable (A) in
class Lawful : Prop where
  ofName?_name : ∀ value : A, ofName? (name value) = some value

instance : Lawful KeyType where
  ofName?_name value := by cases value <;> decide

instance : Lawful Curve where
  ofName?_name value := by rcases value with ⟨_ | _ | _⟩ | _ <;> decide

instance : Lawful Signing where
  ofName?_name value := by
    rcases value with ⟨_ | _ | _⟩ | ⟨_ | _ | _⟩ | ⟨_ | _ | _⟩ | ⟨_ | _ | _⟩ | _ | _ <;> decide

instance : Lawful KeyManagement where
  ofName?_name value := by
    rcases value with _ | _ | _ | ⟨_ | _ | _⟩ | _ | _ | ⟨_ | _ | _⟩ | ⟨_ | _ | _⟩ | ⟨_ | _ | _⟩ <;>
      decide

instance : Lawful ContentEncryption where
  ofName?_name value := by rcases value with ⟨_ | _ | _⟩ | ⟨_ | _ | _⟩ <;> decide

variable [Lawful A]

theorem ofTree?_toJson (value : A) : ofTree? (toJson value).toTree = some value :=
  Lawful.ofName?_name value

theorem ofItem?_toJson (value : A) : ofItem? (toJson value).toTree = some value :=
  Lawful.ofName?_name value

theorem knownOfTree?_listToJson (values : List A) :
    knownOfTree? (listToJson values).toTree = some values := by
  change some ((Json.itemTrees (values.map toJson)).filterMap ofItem?) = some values
  simp [Json.itemTrees_map, List.filterMap_map, Function.comp_def, ofItem?_toJson]

omit [Lawful A] in
theorem listToJson_stable (values : List A) : (listToJson values).Stable 1 := by
  refine Json.stable_array 1 _ (by decide) fun item found => ?_
  obtain ⟨value, _, rfl⟩ := List.mem_map.mp found
  exact Json.stable_string _ _

theorem optional?_written (fields : Json.Fields) (name : String) (value : Option A)
    (found : fields.lookup name = (value.map toJson).map Json.toTree) :
    fields.optional? name ofTree? = some value :=
  fields.optional?_written name _ _ value found rfl fun given _ => ofTree?_toJson given

theorem optional?_writtenList (fields : Json.Fields) (name : String) (values : Option (List A))
    (found : fields.lookup name = (values.map listToJson).map Json.toTree) :
    fields.optional? name knownOfTree? = some values :=
  fields.optional?_written name _ _ values found rfl fun given _ => knownOfTree?_listToJson given

end RelyingParty.Named
