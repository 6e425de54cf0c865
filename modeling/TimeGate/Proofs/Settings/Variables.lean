import TimeGate.Settings.Load

/-! What an environment file adds to the variables of the process. A variable that is set keeps its
value, even an empty one. -/

set_option autoImplicit false

namespace TimeGate

namespace EnvFile

/-- The value that the names of a file give a variable. -/
def bound (names : Names) (name : String) : Option String :=
  names.findSome? fun entry => if entry.1 = name then entry.2 else none

@[simp] theorem bound_nil (name : String) : bound [] name = none := rfl

theorem bound_cons (key name : String) (value : Option String) (rest : Names) :
    bound ((key, value) :: rest) name = (if key = name then value else none).or (bound rest name) := by
  unfold bound
  rw [List.findSome?_cons]
  cases (if key = name then value else none) <;> rfl

/-- The bindings up to the first that no environment can hold are taken, each if its variable is not set
yet. -/
theorem exists_taken (environment : Environment) (names : Names) :
    ∃ taken rest, names = taken ++ rest ∧ ((apply environment names).1 = true → rest = []) ∧
      ∀ name, (apply environment names).2.get? name = (environment.get? name).or (bound taken name) := by
  -- What is set on the way counts as set for the names after it, so the environment varies.
  induction names generalizing environment with
  | nil => exact ⟨[], [], rfl, fun _ => rfl, fun name => by simp [apply]⟩
  | cons entry later ih =>
    obtain ⟨key, value⟩ := entry
    cases value with
    | none =>
      obtain ⟨taken, rest, rfl, complete, after⟩ := ih environment
      refine ⟨(key, none) :: taken, rest, rfl, complete, fun name => ?_⟩
      rw [bound_cons, ite_self, Option.none_or]
      exact after name
    | some value =>
      by_cases held : environment.contains key
      · obtain ⟨taken, rest, rfl, complete, after⟩ := ih environment
        simp only [apply, if_pos held]
        refine ⟨(key, some value) :: taken, rest, rfl, complete, fun name => ?_⟩
        rw [after, bound_cons]
        by_cases same : key = name
        · obtain ⟨before, found⟩ := Option.isSome_iff_exists.mp held
          rw [← same, found]
          rfl
        · rw [if_neg same, Option.none_or]
      · by_cases possible : Environment.canHold key value
        · obtain ⟨taken, rest, rfl, complete, after⟩ := ih (environment.set key value)
          simp only [apply, if_neg held, if_pos possible]
          refine ⟨(key, some value) :: taken, rest, rfl, complete, fun name => ?_⟩
          rw [after, bound_cons]
          by_cases same : key = name
          · have unset : environment.get? key = none := by
              simpa [Environment.contains] using held
            rw [← same, Environment.get?_set_self, unset, if_pos rfl]
            rfl
          · rw [Environment.get?_set_of_ne _ _ (Ne.symm same), if_neg same, Option.none_or]
        · simp only [apply, if_neg held, if_neg possible]
          refine ⟨[], (key, some value) :: later, rfl, fun complete => ?_, fun name => ?_⟩
          · contradiction
          · simp

theorem get?_of_apply {environment result : Environment} {names : Names}
    (applied : apply environment names = (true, result)) (name : String) :
    result.get? name = (environment.get? name).or (bound names name) := by
  obtain ⟨taken, rest, rfl, complete, after⟩ := exists_taken environment names
  rw [applied] at complete after
  rw [complete rfl, List.append_nil]
  exact after name

end EnvFile

namespace Settings

/-- What the environment file at a path binds. Only a file of text binds anything. -/
def bindingsAt (surroundings : Surroundings) (path : Path) : EnvFile.Names :=
  match surroundings.look path with
  | .file (.text text) => EnvFile.names surroundings.environment (Text.unifyLines text.toList)
  | _ => []

theorem get?_of_loadEnvironment {surroundings : Surroundings} {path : Path} {environment : Environment}
    {notices : List Notice} (loaded : loadEnvironment surroundings path = (.ok (), environment, notices))
    (name : String) :
    environment.get? name =
      (surroundings.environment.get? name).or (EnvFile.bound (bindingsAt surroundings path) name) := by
  unfold loadEnvironment at loaded
  unfold bindingsAt
  match found : surroundings.look path with
  | .absent | .folder =>
    simp only [found, Prod.mk.injEq, true_and] at loaded
    simp [loaded.1]
  | .unreachable | .file .garbled => simp [found] at loaded
  | .file (.text text) =>
    simp only [found] at loaded
    split at loaded
    · next applied =>
      simp only [Prod.mk.injEq, true_and] at loaded
      rw [← loaded.1]
      exact EnvFile.get?_of_apply applied name
    · simp at loaded

end Settings

end TimeGate
