import Mathlib.Data.List.Induction
import TimeGate.Gate.Session
import TimeGate.Proofs.Gate.Building

/-! Sessions free of interference. A gate is told by the last recipe under its name of which a gate is built:
whatever else happens before or between, it answers as one freshly built from that recipe. The provider is
asked once for each evaluation of a moment and never otherwise, and what it was asked is all that the answers
depend on. -/

set_option autoImplicit false

namespace TimeGate.Session

/-- What a gate is to be built from. -/
structure Recipe where
  expression : Value
  zone : Value
  strict : Bool

namespace Recipe

def build (provider : Provider) (recipe : Recipe) : Except BuildError Gate :=
  Gate.build provider recipe.expression recipe.zone recipe.strict

def isBuilt (provider : Provider) (recipe : Recipe) : Bool := (recipe.build provider).isOk

def step (recipe : Recipe) (name : String) : Step :=
  .build name recipe.expression recipe.zone recipe.strict

end Recipe

namespace Step

/-- The recipe that a step gives under a name. -/
def recipe? (name : String) : Step → Option Recipe
  | .build other expression zone strict => if other = name then some ⟨expression, zone, strict⟩ else none
  | _ => none

/-- The name of the gate that a step asks or writes to. -/
def subject? : Step → Option String
  | .allows name _ | .explain name _ | .read name _ | .assign name _ => some name
  | .build .. | .calls => none

/-- The moment that a step evaluates, with the name of the gate. -/
def evaluated? : Step → Option (String × DateTime)
  | .allows name (.moment moment) | .explain name (.moment moment) => some (name, moment)
  | _ => none

end Step

/-- The last recipe under a name of which a gate is built. -/
def lastRecipe? (provider : Provider) (steps : List Step) (name : String) : Option Recipe :=
  ((steps.filterMap (Step.recipe? name)).filter (Recipe.isBuilt provider)).getLast?

/-- What a step asks the provider after the steps before it: an evaluation of a moment asks for that moment
in the zone of the gate's recipe. -/
def asked (provider : Provider) (before : List Step) (next : Step) : Gate.Calls :=
  match next.evaluated? with
  | none => []
  | some (name, moment) =>
    match (lastRecipe? provider before name).map Recipe.zone with
    | some (.text zone) => [(moment, zone)]
    | _ => []

/-- What is asked by steps that follow others, in order. -/
def askedAfter (provider : Provider) : List Step → List Step → Gate.Calls
  | _, [] => []
  | before, next :: rest => asked provider before next ++ askedAfter provider (before ++ [next]) rest

/-- The state after some steps. -/
def ending (provider : Provider) (state : State) (steps : List Step) : State :=
  steps.foldl (fun state next => (step provider state next).1) state

/-! ## Gates under names -/

namespace State

variable (state : State) (name : String)

theorem find?_erase (other : String) :
    (state.erase other).find? name = if other = name then none else state.find? name := by
  unfold find? erase
  rw [List.find?_filter]
  split
  · next same =>
    simp [same]
  · next distinct =>
    congr 2
    funext entry
    by_cases here : entry.1 = name <;> simp [here, Ne.symm distinct]

theorem find?_insert (other : String) (gate : Gate) :
    (state.insert other gate).find? name = if other = name then some gate else state.find? name := by
  have erased := state.find?_erase name other
  unfold find? at erased ⊢
  unfold insert
  rw [List.find?_cons]
  split
  · next same => simp_all
  · next distinct => simp_all

end State

section Running

variable {provider : Provider} {state : State} {name : String}

/-- An evaluation changes nothing about gates. -/
theorem find?_evaluate {α : Type} (gate : Gate) (answer : Components → α) (tell : α → Answer)
    (candidate : Candidate) :
    (state.evaluate provider gate answer tell candidate).1.find? name = state.find? name := by
  cases candidate with
  | other kind => rfl
  | moment moment =>
    rw [State.evaluate_moment]
    rfl

/-- One step changes what is found under a name only if a gate is built under that name. -/
theorem find?_step (next : Step) :
    (step provider state next).1.find? name =
      ((next.recipe? name).bind fun recipe => (recipe.build provider).toOption).or (state.find? name) := by
  cases next with
  | build other expression zone strict =>
    simp only [step, Step.recipe?]
    cases built : Gate.build provider expression zone strict with
    | ok gate =>
      simp only [State.find?_insert]
      split <;> simp [Recipe.build, built, Except.toOption]
    | error e =>
      dsimp only
      split <;> simp [Recipe.build, built, Except.toOption]
  | allows other candidate | explain other candidate =>
    simp only [step, Step.recipe?]
    split
    · rfl
    · exact find?_evaluate _ _ _ candidate
  | read other member | assign other member =>
    simp only [step, Step.recipe?]
    split <;> rfl
  | calls => rfl

theorem Recipe.isBuilt_iff {recipe : Recipe} :
    recipe.isBuilt provider = true ↔ ∃ gate, recipe.build provider = .ok gate := by
  rw [isBuilt]
  cases recipe.build provider <;> simp [Except.isOk, Except.toBool]

theorem lastRecipe?_concat (before : List Step) (next : Step) (name : String) :
    lastRecipe? provider (before ++ [next]) name =
      ((next.recipe? name).filter (Recipe.isBuilt provider)).or (lastRecipe? provider before name) := by
  unfold lastRecipe?
  rw [List.filterMap_append, List.filter_append, List.getLast?_append]
  cases found : next.recipe? name with
  | none => simp [found]
  | some recipe =>
    rw [Option.filter_some]
    cases built : recipe.isBuilt provider <;> simp [found, built]

theorem exists_gate_of_lastRecipe? {steps : List Step} {recipe : Recipe}
    (given : lastRecipe? provider steps name = some recipe) : ∃ gate, recipe.build provider = .ok gate :=
  Recipe.isBuilt_iff.mp (List.mem_filter.mp (List.mem_of_getLast? given)).2

theorem ending_concat (before : List Step) (next : Step) :
    ending provider state (before ++ [next]) = (step provider (ending provider state before) next).1 := by
  rw [ending, List.foldl_append]
  rfl

/-- The gate under a name is the one built from the last recipe given for it. -/
theorem find?_ending (steps : List Step) (name : String) :
    (ending provider empty steps).find? name =
      (lastRecipe? provider steps name).bind fun recipe => (recipe.build provider).toOption := by
  -- From the end, since the last step has the first say.
  induction steps using List.reverseRecOn with
  | nil => rfl
  | append_singleton before next ih =>
    rw [ending_concat, find?_step, lastRecipe?_concat, ih]
    cases next.recipe? name with
    | none => rfl
    | some recipe =>
      rw [Option.filter_some, Recipe.isBuilt]
      cases built : recipe.build provider <;> simp [built, Except.isOk, Except.toBool, Except.toOption]

/-! ## Answers -/

/-- What an evaluation answers does not hang on earlier calls. -/
theorem evaluate_answer (other : State) {α : Type} (gate : Gate) (answer : Components → α) (tell : α → Answer)
    (candidate : Candidate) :
    (state.evaluate provider gate answer tell candidate).2 =
      (other.evaluate provider gate answer tell candidate).2 := by
  cases candidate with
  | other kind => rfl
  | moment moment => rw [State.evaluate_moment, State.evaluate_moment]

/-- What is answered about a name hangs on the gate found under it alone. -/
theorem step_congr {other : State} {next : Step} (subject : next.subject? = some name)
    (same : state.find? name = other.find? name) :
    (step provider state next).2 = (step provider other next).2 := by
  cases next with
  | build | calls => exact nomatch subject
  | allows named candidate | explain named candidate =>
    cases subject
    simp only [step, same]
    split
    · rfl
    · exact evaluate_answer other _ _ _ candidate
  | read named member | assign named member =>
    cases subject
    simp only [step, same]
    split <;> rfl

theorem step_of_absent {next : Step} (subject : next.subject? = some name)
    (absent : state.find? name = none) : step provider state next = (state, .noGate) := by
  cases next <;> cases subject <;> simp only [step, absent]

theorem assignment_cases (member : PublicName) :
    assignment member = .noMember ∨ ∃ known, assignment member = .readOnly known := by
  unfold assignment
  split
  · exact .inr ⟨_, rfl⟩
  · exact .inl rfl

theorem step_of_refused {recipe : Recipe} {e : BuildError} (refused : recipe.build provider = .error e) :
    step provider state (recipe.step name) = (state, .notBuilt e) := by
  have failed : Gate.build provider recipe.expression recipe.zone recipe.strict = .error e := refused
  simp only [Recipe.step, step, failed]

theorem answer_recipe (name : String) (recipe : Recipe) :
    (step provider state (recipe.step name)).2 =
      match recipe.build provider with
      | .ok gate => .built gate
      | .error e => .notBuilt e := by
  simp only [Recipe.step, step, Recipe.build]
  cases Gate.build provider recipe.expression recipe.zone recipe.strict <;> rfl

theorem lastRecipe?_step {recipe : Recipe} {gate : Gate} (built : recipe.build provider = .ok gate)
    (name : String) : lastRecipe? provider [recipe.step name] name = some recipe := by
  have isBuilt := Recipe.isBuilt_iff.mpr ⟨gate, built⟩
  simp [lastRecipe?, Recipe.step, Step.recipe?, isBuilt]

theorem run_append (before rest : List Step) :
    run provider state (before ++ rest) =
      run provider state before ++ run provider (ending provider state before) rest := by
  induction before generalizing state with
  | nil => rfl
  | cons first before ih =>
    rw [List.cons_append, run, run, ih]
    rfl

theorem length_run (steps : List Step) : (run provider state steps).length = steps.length := by
  induction steps generalizing state with
  | nil => rfl
  | cons first rest ih => rw [run, List.length_cons, ih, List.length_cons]

theorem getElem?_run (before : List Step) (next : Step) (after : List Step) :
    (run provider state (before ++ next :: after))[before.length]? =
      some (step provider (ending provider state before) next).2 := by
  rw [run_append, List.getElem?_append_right (Nat.le_of_eq (length_run before)), length_run, Nat.sub_self]
  rfl

/-- A step that leaves the state as it is may be left out of the run. -/
theorem run_of_unchanged {before : List Step} {next : Step} {answer : Answer}
    (unchanged : step provider (ending provider state before) next = (ending provider state before, answer))
    (after : List Step) :
    run provider state (before ++ next :: after) =
      run provider state before ++ answer :: (run provider state (before ++ after)).drop before.length := by
  have rest : (run provider state (before ++ after)).drop before.length =
      run provider (ending provider state before) after := by
    rw [run_append]
    exact List.drop_left' (length_run before)
  rw [rest, run_append, run, unchanged]

/-! ## Calls -/

theorem calls_step (next : Step) :
    (step provider state next).1.calls = state.calls ++
      match next.evaluated? with
      | none => []
      | some (name, moment) =>
        match state.find? name with
        | none => []
        | some gate => [(moment, gate.zone)] := by
  cases next with
  | build other expression zone strict =>
    simp only [step, Step.evaluated?, List.append_nil]
    split <;> rfl
  | allows other candidate | explain other candidate =>
    cases found : state.find? other <;> cases candidate <;>
      simp [step, Step.evaluated?, found, State.evaluate_other, State.evaluate_moment]
  | read other member | assign other member =>
    simp only [step, Step.evaluated?, List.append_nil]
    split <;> rfl
  | calls => exact (List.append_nil _).symm

theorem zone_of_build {recipe : Recipe} {gate : Gate} (built : recipe.build provider = .ok gate) :
    recipe.zone = .text gate.zone := by
  obtain ⟨schedule, name, -, zone, -, rfl⟩ := Gate.build_eq_ok_iff.mp built
  exact zone

theorem calls_concat (before : List Step) (next : Step) :
    (ending provider empty (before ++ [next])).calls =
      (ending provider empty before).calls ++ asked provider before next := by
  rw [ending_concat, calls_step]
  congr 1
  unfold asked
  split
  · rfl
  · next name moment _ =>
    rw [find?_ending]
    cases given : lastRecipe? provider before name with
    | none => rfl
    | some recipe =>
      obtain ⟨gate, built⟩ := exists_gate_of_lastRecipe? given
      simp [built, Except.toOption, zone_of_build built]

theorem calls_ending_append (before steps : List Step) :
    (ending provider empty (before ++ steps)).calls =
      (ending provider empty before).calls ++ askedAfter provider before steps := by
  induction steps generalizing before with
  | nil => simp [askedAfter]
  | cons next rest ih =>
    rw [List.append_cons, ih, calls_concat, askedAfter, List.append_assoc]

theorem calls_ending (steps : List Step) :
    (ending provider empty steps).calls = askedAfter provider [] steps :=
  calls_ending_append [] steps

theorem mem_calls_ending {call : DateTime × String} (member : call ∈ state.calls) (steps : List Step) :
    call ∈ (ending provider state steps).calls := by
  induction steps generalizing state with
  | nil => exact member
  | cons next rest ih =>
    refine ih ?_
    rw [calls_step]
    exact List.mem_append_left _ member

/-! ## What the answers depend on -/

section Agreeing

variable {other : Provider}

theorem build_of_same_names (names : other.knows = provider.knows) (expression zone : Value) (strict : Bool) :
    Gate.build other expression zone strict = Gate.build provider expression zone strict := by
  simp only [Gate.build, names]

theorem evaluate_of_agree {α : Type} {gate : Gate} {answer : Components → α} {tell : α → Answer}
    {candidate : Candidate}
    (agree : ∀ call ∈ (state.evaluate provider gate answer tell candidate).1.calls,
      other.project call.2 call.1 = provider.project call.2 call.1) :
    state.evaluate other gate answer tell candidate = state.evaluate provider gate answer tell candidate := by
  cases candidate with
  | other kind => rfl
  | moment moment =>
    rw [State.evaluate_moment] at agree ⊢
    have same := agree (moment, gate.zone) (List.mem_append_right _ (List.mem_singleton.mpr rfl))
    rw [State.evaluate_moment]
    simp only [Gate.components, same]

/-- A step goes as with another provider that knows the same names and shows the same where it is asked. -/
theorem step_of_agree (names : other.knows = provider.knows) {next : Step}
    (agree : ∀ call ∈ (step provider state next).1.calls,
      other.project call.2 call.1 = provider.project call.2 call.1) :
    step other state next = step provider state next := by
  cases next with
  | build name expression zone strict => simp only [step, build_of_same_names names]
  | allows name candidate | explain name candidate =>
    cases found : state.find? name with
    | none => simp only [step, found]
    | some gate =>
      simp only [step, found] at agree ⊢
      exact evaluate_of_agree agree
  | read name member | assign name member => rfl
  | calls => rfl

theorem run_of_agree (names : other.knows = provider.knows) {steps : List Step}
    (agree : ∀ call ∈ (ending provider state steps).calls,
      other.project call.2 call.1 = provider.project call.2 call.1) :
    run other state steps = run provider state steps := by
  induction steps generalizing state with
  | nil => rfl
  | cons next rest ih =>
    -- Calls are only added, so those of this step are among all of them.
    have now : step other state next = step provider state next :=
      step_of_agree names fun call member => agree call (mem_calls_ending member rest)
    rw [run, run, now, ih agree]

end Agreeing

end Running

/-- Whatever is built, evaluated, read or written to in a session, each answer about a gate is that of a
gate freshly built from the same recipe. Writing to a gate fails and might as well not have been tried, and
so might a recipe of which no gate is built: it leaves all gates as they are, the one under its own name
included. The provider is asked once for each moment that an existing gate evaluates, in order, with the
moment and the zone of the recipe; nothing else that it could be asked makes a difference. -/
theorem run_free_of_interference (provider : Provider) :
    (∀ before next after name (recipe : Recipe), next.subject? = some name →
      lastRecipe? provider before name = some recipe →
      (run provider empty (before ++ next :: after))[before.length]? =
        (run provider empty [recipe.step name, next])[1]?) ∧
    (∀ before next after name, next.subject? = some name → lastRecipe? provider before name = none →
      (run provider empty (before ++ next :: after))[before.length]? = some .noGate) ∧
    (∀ before after name (recipe : Recipe),
      (run provider empty (before ++ recipe.step name :: after))[before.length]? =
        (run provider empty [recipe.step name])[0]?) ∧
    (∀ before after name member (recipe : Recipe), lastRecipe? provider before name = some recipe →
      ∃ refusal, (refusal = .noMember ∨ ∃ known, refusal = .readOnly known) ∧
        run provider empty (before ++ .assign name member :: after) =
          run provider empty before ++
            refusal :: (run provider empty (before ++ after)).drop before.length) ∧
    (∀ before after name (recipe : Recipe) e, recipe.build provider = .error e →
      (∀ other, (ending provider empty (before ++ [recipe.step name])).find? other =
        (ending provider empty before).find? other) ∧
      run provider empty (before ++ recipe.step name :: after) =
        run provider empty before ++
          .notBuilt e :: (run provider empty (before ++ after)).drop before.length) ∧
    (∀ before after, (run provider empty (before ++ .calls :: after))[before.length]? =
      some (.calls (askedAfter provider [] before))) ∧
    ∀ (other : Provider) steps, other.knows = provider.knows →
      (∀ call ∈ askedAfter provider [] steps,
        other.project call.2 call.1 = provider.project call.2 call.1) →
      run other empty steps = run provider empty steps := by
  refine ⟨?answer, ?absent, ?built, ?written, ?refused, ?asked, ?agreeing⟩
  case answer =>
    intro before next after name recipe subject given
    have fresh : (run provider empty [recipe.step name, next])[1]? =
        some (step provider (ending provider empty [recipe.step name]) next).2 :=
      getElem?_run [recipe.step name] next []
    obtain ⟨gate, built⟩ := exists_gate_of_lastRecipe? given
    have same : (ending provider empty before).find? name =
        (ending provider empty [recipe.step name]).find? name := by
      rw [find?_ending, find?_ending, given, lastRecipe?_step built]
    rw [getElem?_run, step_congr subject same, fresh]
  case absent =>
    intro before next after name subject given
    have absent : (ending provider empty before).find? name = none := by
      rw [find?_ending, given]
      rfl
    rw [getElem?_run, step_of_absent subject absent]
  case built =>
    intro before after name recipe
    have fresh : (run provider empty [recipe.step name])[0]? =
        some (step provider empty (recipe.step name)).2 := getElem?_run [] (recipe.step name) []
    rw [getElem?_run, fresh, answer_recipe, answer_recipe]
  case written =>
    intro before after name member recipe given
    obtain ⟨gate, built⟩ := exists_gate_of_lastRecipe? given
    have found : (ending provider empty before).find? name = some gate := by
      rw [find?_ending, given, Option.bind_some, built]
      rfl
    exact ⟨assignment member, assignment_cases member, run_of_unchanged (by simp only [step, found]) after⟩
  case refused =>
    intro before after name recipe e refused
    have unchanged : step provider (ending provider empty before) (recipe.step name) =
        (ending provider empty before, .notBuilt e) := step_of_refused refused
    refine ⟨fun other => ?_, run_of_unchanged unchanged after⟩
    rw [ending_concat, unchanged]
  case asked =>
    intro before after
    rw [getElem?_run, ← calls_ending]
    rfl
  case agreeing =>
    intro other steps names agree
    rw [← calls_ending] at agree
    exact run_of_agree names agree

example :
    let moment : DateTime := ⟨⟨2019, 10, 23, by decide⟩, Clock.midnight, none⟩
    let strict : PublicName := ⟨"strict", by decide⟩
    askedAfter Atlas.provider [] [.build "gate" (.text "* 22-6 * * *") (.text "utc") true,
      .allows "gate" (.other "date"), .assign "gate" strict, .build "gate" (.text "*") (.text "GMT") true,
      .explain "odd" (.moment moment), .explain "gate" (.moment moment), .read "gate" strict] =
    [(moment, "utc")] := by
  decide +kernel

end TimeGate.Session
