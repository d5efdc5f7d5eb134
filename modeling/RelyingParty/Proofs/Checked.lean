import RelyingParty.Basic

set_option autoImplicit false

namespace RelyingParty

variable {F G A B : Type}

@[simp] theorem toOption_success (step : Except F A) (value : A) :
    step.toOption = some value ↔ step = .ok value := by
  cases step <;> simp [Except.toOption]

theorem toOption_map_success (step : Except F A) (convert : A -> B) (result : B) :
    step.toOption.map convert = some result ↔ ∃ value, step = .ok value ∧ convert value = result := by
  simp [Option.map_eq_some_iff]

theorem bind_success (step : Except F A) (next : A -> Except F B) (result : B) :
    (step >>= next) = .ok result ↔ ∃ value, step = .ok value ∧ next value = .ok result := by
  cases step <;> simp [bind, Except.bind]

theorem bind_failure (step : Except F A) (next : A -> Except F B) (fault : F) :
    (step >>= next) = .error fault ↔
      step = .error fault ∨ ∃ value, step = .ok value ∧ next value = .error fault := by
  cases step <;> simp [bind, Except.bind]

theorem check_success (check : Except F Unit) (next : Except F B) (result : B) :
    (check >>= fun _ => next) = .ok result ↔ check = .ok () ∧ next = .ok result := by
  cases check <;> simp [bind, Except.bind]

@[simp] theorem return_success (value result : A) :
    (return value : Except F A) = .ok result ↔ value = result := by
  simp [pure, Except.pure]

@[simp] theorem return_failure (value : A) (fault : F) :
    (return value : Except F A) ≠ .error fault := nofun

@[simp] theorem map_success (step : Except F A) (convert : A -> B) (result : B) :
    step.map convert = .ok result ↔ ∃ value, step = .ok value ∧ convert value = result := by
  cases step <;> simp [Except.map]

@[simp] theorem map_failure (step : Except F A) (convert : A -> B) (fault : F) :
    step.map convert = .error fault ↔ step = .error fault := by
  cases step <;> simp [Except.map]

@[simp] theorem mapError_success (step : Except F A) (convert : F -> G) (value : A) :
    step.mapError convert = .ok value ↔ step = .ok value := by
  cases step with
  | error cause => exact ⟨nofun, nofun⟩
  | ok found =>
    change Except.ok found = .ok value ↔ _
    simp

@[simp] theorem mapError_failure (step : Except F A) (convert : F -> G) (fault : G) :
    step.mapError convert = .error fault ↔
      ∃ cause, step = .error cause ∧ convert cause = fault := by
  cases step with
  | error cause =>
    change Except.error (convert cause) = .error fault ↔ _
    simp
  | ok found => exact ⟨nofun, nofun⟩

@[simp] theorem orFault_success (fault : F) (found : Option A) (value : A) :
    orFault fault found = .ok value ↔ found = some value := by
  cases found <;> simp [orFault]

@[simp] theorem orFault_failure (fault other : F) (found : Option A) :
    orFault fault found = .error other ↔ found = none ∧ fault = other := by
  cases found <;> simp [orFault]

theorem orFault_bind_success (fault : F) (found : Option A) (next : A -> Except F B) (result : B) :
    (orFault fault found >>= next) = .ok result ↔
      ∃ value, found = some value ∧ next value = .ok result := by
  simp only [bind_success, orFault_success]

theorem orFault_available (fault : F) (found : Option A) (convert : A -> B) :
    (∃ result, (orFault fault found).map convert = .ok result) ↔ found.isSome := by
  cases found <;> simp [orFault]

@[simp] theorem require_success (condition : Bool) (fault : F) (result : Unit) :
    require condition fault = .ok result ↔ condition = true := by
  cases condition <;> simp [require]

@[simp] theorem require_failure (condition : Bool) (fault other : F) :
    require condition fault = .error other ↔ condition = false ∧ fault = other := by
  cases condition <;> simp [require]

end RelyingParty
