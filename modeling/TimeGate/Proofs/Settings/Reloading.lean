import TimeGate.Proofs.Settings.Precedence

/-! Loading twice. The environment file only adds variables, and the settings file none. What a second load
meets is the environment that the first one left: the names of the environment file and their order are the
same, though values with references may differ, and those that the first load came past are all set. -/

set_option autoImplicit false

namespace TimeGate

namespace EnvFile

/-! ## Names that are bound, whatever their values -/

/-- The name of an entry, and whether it is bound. -/
def outline (entry : String × Option String) : String × Bool := (entry.1, entry.2.isSome)

theorem map_outline_putName (names : Names) (name : String) (value : Option String) :
    (putName names name value).map outline =
      if (names.map outline).any (fun entry => entry.1 == name) then
        (names.map outline).map fun entry => if entry.1 == name then (name, value.isSome) else entry
      else names.map outline ++ [(name, value.isSome)] := by
  have same : (names.map outline).any (fun entry => entry.1 == name) =
      names.any fun entry => entry.1 == name := by
    rw [List.any_map]
    rfl
  unfold putName
  rw [same]
  split
  · rw [List.map_map, List.map_map]
    apply List.map_congr_left
    intro entry _
    by_cases here : entry.1 = name <;> simp [outline, here]
  · rw [List.map_append]
    rfl

theorem map_outline_foldl (environment other : Environment) (bindings : List Binding) {met others : Names}
    (same : met.map outline = others.map outline) :
    (bindings.foldl (expandBinding environment) met).map outline =
      (bindings.foldl (expandBinding other) others).map outline := by
  -- The values met so far may come to differ. What carries the induction is that the outlines do not.
  induction bindings generalizing met others with
  | nil => exact same
  | cons binding rest ih =>
    refine ih ?_
    unfold expandBinding
    rw [map_outline_putName, map_outline_putName, same, Option.isSome_map, Option.isSome_map]

/-- The environment has a part in the values of a file, but none in its names. -/
theorem map_outline_names (environment other : Environment) (text : List Char) :
    (names environment text).map outline = (names other text).map outline :=
  map_outline_foldl environment other (read text) rfl

theorem mem_putName {names : Names} {name : String} {value : Option String} {entry : String × Option String}
    (member : entry ∈ putName names name value) : entry ∈ names ∨ entry = (name, value) := by
  unfold putName at member
  split at member
  · obtain ⟨old, found, replaced⟩ := List.mem_map.mp member
    split at replaced
    · exact .inr replaced.symm
    · exact .inl (replaced ▸ found)
  · rcases List.mem_append.mp member with old | new
    · exact .inl old
    · exact .inr (List.mem_singleton.mp new)

theorem mem_foldl {environment : Environment} {bindings : List Binding} {met : Names}
    {entry : String × Option String} (member : entry ∈ bindings.foldl (expandBinding environment) met) :
    entry ∈ met ∨
      ∃ binding ∈ bindings, binding.name = entry.1 ∧ binding.value.isSome = entry.2.isSome := by
  induction bindings generalizing met with
  | nil => exact .inl member
  | cons binding rest ih =>
    rcases ih member with old | ⟨later, found, same⟩
    · rcases mem_putName old with before | rfl
      · exact .inl before
      · exact .inr ⟨binding, List.mem_cons_self, rfl, Option.isSome_map.symm⟩
    · exact .inr ⟨later, List.mem_cons_of_mem _ found, same⟩

theorem exists_binding {environment : Environment} {text : List Char} {entry : String × Option String}
    (member : entry ∈ names environment text) :
    ∃ binding ∈ read text, binding.name = entry.1 ∧ binding.value.isSome = entry.2.isSome :=
  (mem_foldl member).resolve_left List.not_mem_nil

/-! ## Names that are set -/

/-- Every name with a value is a variable of the environment. -/
def Held (environment : Environment) (names : Names) : Prop :=
  ∀ entry ∈ names, entry.2.isSome = true → environment.contains entry.1 = true

theorem Held.of_outline {environment : Environment} {names others : Names} (held : Held environment names)
    (same : others.map outline = names.map outline) : Held environment others := by
  intro entry member bound
  have outlined : outline entry ∈ names.map outline := same ▸ List.mem_map_of_mem member
  obtain ⟨twin, found, alike⟩ := List.mem_map.mp outlined
  obtain ⟨name, isBound⟩ := Prod.mk.inj alike
  rw [← name]
  exact held twin found (isBound.trans bound)

theorem apply_of_held {environment : Environment} {names : Names} (held : Held environment names) :
    apply environment names = (true, environment) := by
  induction names with
  | nil => rfl
  | cons entry rest ih =>
    obtain ⟨name, value⟩ := entry
    have later := ih fun other member => held other (List.mem_cons_of_mem _ member)
    cases value with
    | none => exact later
    | some value =>
      have here : environment.contains name = true := held _ List.mem_cons_self rfl
      rw [apply, if_pos here, later]

theorem held_of_apply {environment left : Environment} {names : Names}
    (applied : apply environment names = (true, left)) : Held left names := by
  intro entry member bound
  obtain ⟨value, valued⟩ := Option.isSome_iff_exists.mp bound
  have found : (EnvFile.bound names entry.1).isSome = true :=
    List.findSome?_isSome_iff.mpr ⟨entry, member, by rw [if_pos rfl, bound]⟩
  rw [Environment.contains, get?_of_apply applied, Option.isSome_or, found, Bool.or_true]

theorem apply_append (environment : Environment) (first rest : Names) :
    apply environment (first ++ rest) =
      match apply environment first with
      | (true, next) => apply next rest
      | (false, left) => (false, left) := by
  induction first generalizing environment with
  | nil => rfl
  | cons entry first ih =>
    obtain ⟨name, value⟩ := entry
    cases value with
    | none => exact ih environment
    | some value =>
      simp only [List.cons_append, apply]
      split
      · exact ih environment
      · split
        · exact ih _
        · rfl

/-- Names that cannot all be set are set up to one whose value no environment can hold. -/
theorem exists_stop {environment left : Environment} {names : Names}
    (stopped : apply environment names = (false, left)) :
    ∃ before name value after, names = before ++ (name, some value) :: after ∧
      apply environment before = (true, left) ∧ left.contains name = false ∧
      Environment.canHold name value = false := by
  induction names generalizing environment with
  | nil => cases stopped
  | cons entry rest ih =>
    obtain ⟨key, value⟩ := entry
    -- What is found among the rest is found here, once the first entry is passed.
    have pass {next : Environment} (step : ∀ others, apply environment ((key, value) :: others) = apply next others) :
        ∃ before name value' after, (key, value) :: rest = before ++ (name, some value') :: after ∧
          apply environment before = (true, left) ∧ left.contains name = false ∧
          Environment.canHold name value' = false := by
      obtain ⟨before, name, value', after, rfl, applied, absent, impossible⟩ := ih ((step rest).symm.trans stopped)
      exact ⟨(key, value) :: before, name, value', after, rfl, (step before).trans applied, absent, impossible⟩
    cases value with
    | none => exact pass fun others => rfl
    | some value =>
      by_cases held : environment.contains key
      · exact pass fun others => by rw [apply, if_pos held]
      · by_cases possible : Environment.canHold key value
        · exact pass fun others => by rw [apply, if_neg held, if_pos possible]
        · rw [apply, if_neg held, if_neg possible] at stopped
          cases stopped
          exact ⟨[], key, value, rest, rfl, rfl, by simpa using held, by simpa using possible⟩

/-! ## Loading a file again -/

/-- Loading a file stops at a value that no environment can hold, and in the environment left by then the
binding has a value that can be held. -/
inductive Recovers (environment : Environment) (text : List Char) : Prop where
  | stopped {before after beforeThen afterThen : Names} {name value valueThen : String} {left : Environment} :
      names environment text = before ++ (name, some value) :: after →
      apply environment before = (true, left) → left.contains name = false →
      Environment.canHold name value = false →
      names left text = beforeThen ++ (name, some valueThen) :: afterThen →
      beforeThen.length = before.length → Environment.canHold name valueThen = true →
      Recovers environment text

/-- The names up to a given one are the same in two environments. -/
theorem names_split {environment : Environment} {text : List Char} {before after : Names}
    {name value : String} (split : names environment text = before ++ (name, some value) :: after)
    (other : Environment) :
    ∃ beforeThen valueThen afterThen,
      names other text = beforeThen ++ (name, some valueThen) :: afterThen ∧
      beforeThen.map outline = before.map outline := by
  have outlined := map_outline_names other environment text
  rw [split, List.map_append, List.map_cons] at outlined
  obtain ⟨beforeThen, rest, same, front, back⟩ := List.map_eq_append_iff.mp outlined
  obtain ⟨⟨nameThen, valueThen⟩, afterThen, rfl, entry, -⟩ := List.map_eq_cons_iff.mp back
  obtain ⟨rfl, isBound⟩ := Prod.mk.inj entry
  obtain ⟨valueThen, rfl⟩ := Option.isSome_iff_exists.mp isBound
  exact ⟨beforeThen, valueThen, afterThen, same, front⟩

/-- Names that are all set are passed over, and the next one decides. -/
theorem apply_past_held {environment : Environment} {before : Names} (held : Held environment before)
    {name : String} (absent : environment.contains name = false) (value : String) (after : Names) :
    apply environment (before ++ (name, some value) :: after) =
      if Environment.canHold name value then apply (environment.set name value) after
      else (false, environment) := by
  rw [apply_append, apply_of_held held]
  dsimp only
  rw [apply, if_neg (Bool.eq_false_iff.mp absent)]

theorem load_again_of_complete {environment left : Environment} {text : List Char}
    (complete : load environment text = (true, left)) : load left text = (true, left) :=
  apply_of_held ((held_of_apply complete).of_outline (map_outline_names _ _ _))

theorem load_again_of_stopped {environment left : Environment} {text : List Char}
    (stopped : load environment text = (false, left)) (firm : ¬ Recovers environment text) :
    load left text = (false, left) := by
  obtain ⟨before, name, value, after, split, applied, absent, impossible⟩ := exists_stop stopped
  obtain ⟨beforeThen, valueThen, afterThen, splitThen, same⟩ := names_split split left
  have held : Held left beforeThen := (held_of_apply applied).of_outline same
  have still : ¬ Environment.canHold name valueThen = true := fun possible =>
    firm (.stopped split applied absent impossible splitThen
      (by simpa using congrArg List.length same) possible)
  rw [load, splitThen, apply_past_held held absent, if_neg still]

/-- A variable that is set keeps its value. -/
theorem get?_apply_of_set {environment : Environment} {name value : String} (names : Names)
    (set : environment.get? name = some value) : (apply environment names).2.get? name = some value := by
  obtain ⟨taken, rest, -, -, after⟩ := exists_taken environment names
  rw [after, set]
  rfl

/-- A variable that is newly set is bound in the file. -/
theorem exists_binding_of_set {environment : Environment} {text : List Char} {name : String}
    (unset : environment.get? name = none) (set : ((load environment text).2.get? name).isSome = true) :
    ∃ binding ∈ read text, binding.name = name ∧ binding.value.isSome = true := by
  obtain ⟨taken, rest, split, -, after⟩ := exists_taken environment (names environment text)
  rw [load, after, unset, Option.none_or] at set
  obtain ⟨entry, member, found⟩ := List.findSome?_isSome_iff.mp set
  have among : entry ∈ names environment text := split ▸ List.mem_append_left rest member
  obtain ⟨binding, holds, named, same⟩ := exists_binding among
  split at found
  · next here => exact ⟨binding, holds, named.trans here, same.trans found⟩
  · cases found

/-- Where a file recovers, loading it again sets one more variable at least. -/
theorem Recovers.load_again {environment : Environment} {text : List Char}
    (recovers : Recovers environment text) :
    ∃ left name value, load environment text = (false, left) ∧ left.get? name = none ∧
      (load left text).2.get? name = some value := by
  obtain @⟨before, after, beforeThen, afterThen, name, value, valueThen, left, split, applied, absent,
    impossible, splitThen, long, possible⟩ := recovers
  have outlined := map_outline_names left environment text
  rw [split, splitThen, List.map_append, List.map_append] at outlined
  have same : beforeThen.map outline = before.map outline :=
    List.append_inj_left outlined (by simpa using long)
  have held : Held left beforeThen := (held_of_apply applied).of_outline same
  refine ⟨left, name, valueThen, ?_, by simpa [Environment.contains] using absent, ?_⟩
  · rw [load, split, apply_append, applied]
    dsimp only
    rw [apply, if_neg (Bool.eq_false_iff.mp absent), if_neg (Bool.eq_false_iff.mp impossible)]
  · rw [load, splitThen, apply_past_held held absent, if_pos possible]
    exact get?_apply_of_set afterThen (Environment.get?_set_self left name valueThen)

end EnvFile

namespace Settings

/-- The text that a path leads to, if it leads to one. -/
def textAt? (look : Path → Found) (path : Path) : Option (List Char) :=
  match look path with
  | .file (.text text) => some (Text.unifyLines text.toList)
  | _ => none

/-- What loading does once it is through with the environment file. -/
def afterVariables (look : Path → Found) (path : Path) :
    Except LoadError Unit × Environment × List Notice → Loaded
  | (.error e, environment, notices) => ⟨.error e, environment, notices⟩
  | (.ok (), environment, notices) =>
    ⟨(loadDocument environment look path).1, environment, notices ++ (loadDocument environment look path).2⟩

section Loading

variable {surroundings : Surroundings} {path : Path} {settingsPath environmentPath : String}

theorem loadEnvironment_of_text {text : List Char} (found : textAt? surroundings.look path = some text) :
    loadEnvironment surroundings path =
      match EnvFile.load surroundings.environment text with
      | (true, environment) => (.ok (), environment, [.environmentLoaded path.text])
      | (false, environment) => (.error .unsettable, environment, []) := by
  unfold textAt? at found
  split at found
  · next content leads =>
    cases found
    cases loaded : EnvFile.load surroundings.environment (Text.unifyLines content.toList) with
    | mk complete left => cases complete <;> simp only [loadEnvironment, leads, loaded]
  · cases found

theorem loadEnvironment_of_no_text (none : textAt? surroundings.look path = none) :
    (loadEnvironment surroundings path).2.1 = surroundings.environment := by
  unfold textAt? at none
  unfold loadEnvironment
  match leads : surroundings.look path with
  | .absent | .unreachable | .folder | .file .garbled => simp only
  | .file (.text text) => simp [leads] at none

theorem loadEnvironment_environment :
    (loadEnvironment surroundings path).2.1 =
      match textAt? surroundings.look path with
      | some text => (EnvFile.load surroundings.environment text).2
      | none => surroundings.environment := by
  cases found : textAt? surroundings.look path with
  | none => exact loadEnvironment_of_no_text found
  | some text =>
    rw [loadEnvironment_of_text found]
    dsimp only
    rcases EnvFile.load surroundings.environment text with ⟨_ | _, left⟩ <;> rfl

/-- The environment file is done with after one load, unless it recovers. -/
theorem loadEnvironment_again
    (firm : ∀ text, textAt? surroundings.look path = some text →
      ¬ EnvFile.Recovers surroundings.environment text) :
    loadEnvironment { surroundings with environment := (loadEnvironment surroundings path).2.1 } path =
      loadEnvironment surroundings path := by
  cases found : textAt? surroundings.look path with
  | none => rw [loadEnvironment_of_no_text found]
  | some text =>
    have again : EnvFile.load (EnvFile.load surroundings.environment text).2 text =
        EnvFile.load surroundings.environment text := by
      cases loaded : EnvFile.load surroundings.environment text with
      | mk complete left =>
        cases complete with
        | true => exact EnvFile.load_again_of_complete loaded
        | false => exact EnvFile.load_again_of_stopped loaded (firm text found)
    have left : (loadEnvironment surroundings path).2.1 =
        (EnvFile.load surroundings.environment text).2 := by
      rw [loadEnvironment_environment, found]
    have there := @loadEnvironment_of_text
      { surroundings with environment := (EnvFile.load surroundings.environment text).2 } path text found
    rw [left, there, again, loadEnvironment_of_text found]

theorem afterVariables_environment (look : Path → Found)
    (outcome : Except LoadError Unit × Environment × List Notice) :
    (afterVariables look path outcome).environment = outcome.2.1 := by
  obtain ⟨_ | _, environment, notices⟩ := outcome <;> rfl

theorem load_of_unknown (unknown : home? surroundings.environment surroundings.accountHome = none) :
    load surroundings (some settingsPath) (some environmentPath) =
      ⟨.error .homeUnknown, surroundings.environment, []⟩ := by
  simp only [load, sources?, unknown, Option.map_none]

theorem load_of_known {home : Path}
    (known : home? surroundings.environment surroundings.accountHome = some home) :
    load surroundings (some settingsPath) (some environmentPath) =
      afterVariables surroundings.look (.ofText settingsPath)
        (loadEnvironment surroundings (.ofText environmentPath)) := by
  simp only [load, sources?, known, Option.map_some, Option.getD_some]
  rcases loadEnvironment surroundings (.ofText environmentPath) with ⟨_ | _, environment, notices⟩ <;> rfl

theorem load_environment :
    (load surroundings (some settingsPath) (some environmentPath)).environment =
      match home? surroundings.environment surroundings.accountHome,
        textAt? surroundings.look (.ofText environmentPath) with
      | some _, some text => (EnvFile.load surroundings.environment text).2
      | _, _ => surroundings.environment := by
  cases known : home? surroundings.environment surroundings.accountHome with
  | none => rw [load_of_unknown known]
  | some home =>
    rw [load_of_known known, afterVariables_environment, loadEnvironment_environment]
    cases textAt? surroundings.look (.ofText environmentPath) <;> rfl

/-- Only two variables have a part in where the home folder is. -/
theorem home?_congr {environment other : Environment} {accountHome : Path}
    (folder : environment.get? homeVariable = other.get? homeVariable)
    (user : environment.get? "HOME" = other.get? "HOME") :
    home? environment accountHome = home? other accountHome := by
  simp only [home?, expandHome, userHome?, folder, user]

theorem load_keeps {name value : String} (set : surroundings.environment.get? name = some value) :
    (load surroundings (some settingsPath) (some environmentPath)).environment.get? name = some value := by
  rw [load_environment]
  split
  · exact EnvFile.get?_apply_of_set _ set
  · exact set

theorem exists_binding_of_load {name : String} (unset : surroundings.environment.get? name = none)
    (set : ((load surroundings (some settingsPath) (some environmentPath)).environment.get? name).isSome = true) :
    ∃ text, textAt? surroundings.look (.ofText environmentPath) = some text ∧
      ∃ binding ∈ EnvFile.read text, binding.name = name ∧ binding.value.isSome = true := by
  rw [load_environment] at set
  split at set
  · next text known found => exact ⟨text, found, EnvFile.exists_binding_of_set unset set⟩
  · rw [unset] at set
    cases set

/-- A home folder that is lost is named by a variable that the environment file sets. -/
theorem exists_set_of_home_lost
    (known : (home? surroundings.environment surroundings.accountHome).isSome = true)
    (lost : home? (load surroundings (some settingsPath) (some environmentPath)).environment
      surroundings.accountHome = none) :
    ∃ name ∈ [homeVariable, "HOME"], surroundings.environment.get? name = none ∧
      ((load surroundings (some settingsPath) (some environmentPath)).environment.get? name).isSome = true := by
  by_contra none
  have same (name : String) (member : name ∈ [homeVariable, "HOME"]) :
      (load surroundings (some settingsPath) (some environmentPath)).environment.get? name =
        surroundings.environment.get? name := by
    cases before : surroundings.environment.get? name with
    | some value => exact load_keeps before
    | none => exact Option.not_isSome_iff_eq_none.mp fun set => none ⟨name, member, before, set⟩
  rw [home?_congr (same _ (by simp)) (same _ (by simp))] at lost
  rw [lost] at known
  cases known

/-- Loading again does the same once more where the home folder stays known and the environment file does
not recover. -/
theorem load_again_of_firm
    (stays : (home? surroundings.environment surroundings.accountHome).isSome = true →
      (home? (load surroundings (some settingsPath) (some environmentPath)).environment
        surroundings.accountHome).isSome = true)
    (firm : (home? surroundings.environment surroundings.accountHome).isSome = true →
      ∀ text, textAt? surroundings.look (.ofText environmentPath) = some text →
        ¬ EnvFile.Recovers surroundings.environment text) :
    load { surroundings with
          environment := (load surroundings (some settingsPath) (some environmentPath)).environment }
        (some settingsPath) (some environmentPath) =
      load surroundings (some settingsPath) (some environmentPath) := by
  cases folder : home? surroundings.environment surroundings.accountHome with
  | none => rw [load_of_unknown folder, load_of_unknown folder]
  | some home =>
    rw [folder] at stays firm
    obtain ⟨homeThen, folderThen⟩ := Option.isSome_iff_exists.mp (stays rfl)
    rw [load_of_known folderThen, load_of_known folder, afterVariables_environment]
    dsimp only
    rw [loadEnvironment_again (firm rfl)]

/-- Loading fails on an environment file that recovers, and loading again sets a variable that the first
load left unset. -/
theorem load_again_of_recovers {text : List Char}
    (folder : (home? surroundings.environment surroundings.accountHome).isSome = true)
    (folderThen : (home? (load surroundings (some settingsPath) (some environmentPath)).environment
      surroundings.accountHome).isSome = true)
    (found : textAt? surroundings.look (.ofText environmentPath) = some text)
    (recovers : EnvFile.Recovers surroundings.environment text) :
    (load surroundings (some settingsPath) (some environmentPath)).result = .error .unsettable ∧
      ∃ name, (load surroundings (some settingsPath) (some environmentPath)).environment.get? name = none ∧
        ((load { surroundings with
            environment := (load surroundings (some settingsPath) (some environmentPath)).environment }
          (some settingsPath) (some environmentPath)).environment.get? name).isSome = true := by
  obtain ⟨home, known⟩ := Option.isSome_iff_exists.mp folder
  obtain ⟨homeThen, knownThen⟩ := Option.isSome_iff_exists.mp folderThen
  obtain ⟨left, name, value, stopped, unset, set⟩ := recovers.load_again
  have once : load surroundings (some settingsPath) (some environmentPath) = ⟨.error .unsettable, left, []⟩ := by
    rw [load_of_known known, loadEnvironment_of_text found, stopped]
    rfl
  rw [once] at knownThen ⊢
  refine ⟨rfl, name, unset, ?_⟩
  rw [load_environment, knownThen, found]
  exact Option.isSome_of_eq_some set

end Loading

/-- Loading sets variables that are not set yet and that the environment file binds, and no others, whether
it succeeds or fails; the settings file has no part in that. Loading again does the same once more, with two
exceptions: the home folder is no longer known, or the first load stopped at a binding whose value can be
held by now. -/
theorem load_adds_and_repeats (surroundings : Surroundings) (settingsPath environmentPath : String) :
    let file := Path.ofText environmentPath
    let first := load surroundings (some settingsPath) (some environmentPath)
    let again := load { surroundings with environment := first.environment } (some settingsPath)
      (some environmentPath)
    let recovers := ∃ text, textAt? surroundings.look file = some text ∧
      EnvFile.Recovers surroundings.environment text
    let known (environment : Environment) := (home? environment surroundings.accountHome).isSome = true
    (∀ name value, surroundings.environment.get? name = some value →
      first.environment.get? name = some value) ∧
    (∀ name, surroundings.environment.get? name = none → (first.environment.get? name).isSome = true →
      ∃ text, textAt? surroundings.look file = some text ∧
        ∃ binding ∈ EnvFile.read text, binding.name = name ∧ binding.value.isSome = true) ∧
    (∀ look otherPath, look file = surroundings.look file →
      (load { surroundings with look := look } (some otherPath) (some environmentPath)).environment =
        first.environment) ∧
    ((known surroundings.environment → known first.environment ∧ ¬ recovers) → again = first) ∧
    (known surroundings.environment → ¬ known first.environment →
      again = ⟨.error .homeUnknown, first.environment, []⟩ ∧
      ∃ name ∈ [homeVariable, "HOME"], surroundings.environment.get? name = none ∧
        (first.environment.get? name).isSome = true) ∧
    (known surroundings.environment → known first.environment → recovers →
      first.result = .error .unsettable ∧
      ∃ name, first.environment.get? name = none ∧ (again.environment.get? name).isSome = true) := by
  intro file first again recovers known
  refine ⟨fun name value => load_keeps, fun name => exists_binding_of_load, fun look otherPath same => ?_,
    fun unspoilt => ?_, fun before lost => ?_, fun before after => ?_⟩
  · have texts : textAt? look file = textAt? surroundings.look file := by rw [textAt?, textAt?, same]
    rw [load_environment, load_environment]
    dsimp only
    rw [texts]
  · exact load_again_of_firm (fun before => (unspoilt before).1) fun before text found recovering =>
      (unspoilt before).2 ⟨text, found, recovering⟩
  · have unknown : home? first.environment surroundings.accountHome = none :=
      Option.not_isSome_iff_eq_none.mp lost
    exact ⟨load_of_unknown unknown, exists_set_of_home_lost before unknown⟩
  · rintro ⟨text, found, recovering⟩
    exact load_again_of_recovers before after found recovering

theorem load_oneFile {environment : Environment} {accountHome folder : Path}
    (known : home? environment accountHome = some folder) (body : String) :
    load ⟨environment, accountHome, oneFile "vars.env" body⟩ (some "config.yaml") (some "vars.env") =
      afterVariables (oneFile "vars.env" body) (.ofText "config.yaml")
        (match EnvFile.load environment (Text.unifyLines body.toList) with
        | (true, left) => (.ok (), left, [.environmentLoaded "vars.env"])
        | (false, left) => (.error .unsettable, left, [])) := by
  have found : textAt? (oneFile "vars.env" body) (.ofText "vars.env") =
      some (Text.unifyLines body.toList) := by
    rw [textAt?, oneFile, if_pos rfl]
  exact (load_of_known known).trans (congrArg _ (loadEnvironment_of_text found))

/-- Loading twice may differ. The environment file moves the home folder to a user nobody knows; or a value
that refers to an earlier name cannot be held at first, as the name is bound once more further down. -/
theorem load_twice_differs :
    let once (environment : Environment) (body : String) :=
      load ⟨environment, .ofText "/root", oneFile "vars.env" body⟩ (some "config.yaml") (some "vars.env")
    let twice (environment : Environment) (body : String) := once (once environment body).environment body
    let moving := "CRONRANGE_HOME=~nosuchuser99"
    let recovering := "N=\x00\nA=$\x7bN\x7d\nN=ok"
    let home : Environment := ⟨[("CRONRANGE_HOME", "home")]⟩
    ((once .empty moving).result.toOption = some default ∧ (twice .empty moving).result = .error .homeUnknown) ∧
    (once home recovering).result = .error .unsettable ∧ (once home recovering).environment.get? "A" = none ∧
    (twice home recovering).result.toOption = some default ∧
    (twice home recovering).environment.get? "A" = some "ok" := by
  intro once twice moving recovering home
  refine ⟨?_, ?_⟩
  · let moved : Environment := ⟨[("CRONRANGE_HOME", "~nosuchuser99")]⟩
    have names : EnvFile.names .empty (Text.unifyLines moving.toList) =
        [("CRONRANGE_HOME", some "~nosuchuser99")] := by decide +kernel
    have possible : Environment.canHold "CRONRANGE_HOME" "~nosuchuser99" = true := by
      simp [Environment.canHold]
    have loaded : EnvFile.load .empty (Text.unifyLines moving.toList) = (true, moved) := by
      simp only [EnvFile.load, names, EnvFile.apply, possible]
      rfl
    have first : once .empty moving = afterVariables (oneFile "vars.env" moving) (.ofText "config.yaml")
        (.ok (), moved, [.environmentLoaded "vars.env"]) :=
      (load_oneFile (by decide +kernel : home? .empty (.ofText "/root") = some (.ofText "/root/.cronrange"))
        moving).trans
        (by rw [loaded])
    have left : (once .empty moving).environment = moved := by rw [first, afterVariables_environment]
    have unknown : home? moved (.ofText "/root") = none := by decide +kernel
    refine ⟨?_, ?_⟩
    · rw [first]
      decide +kernel
    · change (once (once .empty moving).environment moving).result = _
      rw [left]
      exact congrArg Loaded.result (load_of_unknown unknown)
  · let stuck : Environment := ⟨[("N", "ok"), ("CRONRANGE_HOME", "home")]⟩
    let done : Environment := ⟨[("A", "ok"), ("N", "ok"), ("CRONRANGE_HOME", "home")]⟩
    have names : EnvFile.names home (Text.unifyLines recovering.toList) =
        [("N", some "ok"), ("A", some "\x00")] := by decide +kernel
    have namesThen : EnvFile.names stuck (Text.unifyLines recovering.toList) =
        [("N", some "ok"), ("A", some "ok")] := by decide +kernel
    have impossible : Environment.canHold "A" "\x00" = false := by simp [Environment.canHold]
    have plain : Environment.canHold "N" "ok" = true := by simp [Environment.canHold]
    have possible : Environment.canHold "A" "ok" = true := by simp [Environment.canHold]
    have loaded : EnvFile.load home (Text.unifyLines recovering.toList) = (false, stuck) := by
      simp only [EnvFile.load, names, EnvFile.apply, plain, impossible]
      rfl
    have loadedThen : EnvFile.load stuck (Text.unifyLines recovering.toList) = (true, done) := by
      simp only [EnvFile.load, namesThen, EnvFile.apply, possible]
      rfl
    have first : once home recovering = ⟨.error .unsettable, stuck, []⟩ :=
      (load_oneFile (by decide +kernel : home? home (.ofText "/root") = some (.ofText "home")) recovering).trans
        (by rw [loaded]; rfl)
    have second : twice home recovering = afterVariables (oneFile "vars.env" recovering)
        (.ofText "config.yaml") (.ok (), done, [.environmentLoaded "vars.env"]) := by
      change once (once home recovering).environment recovering = _
      rw [first]
      exact (load_oneFile (by decide +kernel : home? stuck (.ofText "/root") = some (.ofText "home"))
        recovering).trans (by rw [loadedThen])
    rw [first, second, afterVariables_environment]
    refine ⟨rfl, ?_, ?_, ?_⟩ <;> decide +kernel

end Settings

end TimeGate
