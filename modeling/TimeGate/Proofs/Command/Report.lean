import TimeGate.Proofs.Command.Levels
import TimeGate.Proofs.Command.Verbosity
import TimeGate.Proofs.Gate.Explanation
import TimeGate.Proofs.Schedule.Meaning
import TimeGate.Proofs.Schedule.Printing

/-! The report of a decided run. It consists of six lines: one for each field, which shows in columns what the
field has, what it asks for and what comes of it, and one that sums the others up and says the same as the
status of the run. A run that is not asked for a report ends in the same way. -/

set_option autoImplicit false

namespace TimeGate

/-- A specification wraps if some range of it starts behind its end. -/
theorem FieldSpec.wraps_iff (spec : FieldSpec) :
    spec.wraps = true ↔ ∃ set, spec = .union set ∧ ∃ range ∈ set.ranges, range.last < range.first := by
  cases spec with
  | any => simp [wraps, ranges]
  | union set => simp [wraps, ranges, Range.wraps]

namespace Command

open TimeGate.Text TimeGate.Traversal

/-! ## What a report looks like -/

/-- The line is the entries, in order, each behind at least one space. -/
inductive Columns : List Char → List (List Char) → Prop where
  | done : Columns [] []
  | entry {gap entry line : List Char} {entries : List (List Char)} :
      gap ≠ [] → (∀ c ∈ gap, c = ' ') → Columns line entries →
      Columns (gap ++ (entry ++ line)) (entry :: entries)

/-- What the line of a field shows: the label, the number, the specification in full and a verdict, and a
mark if it wraps. -/
def entriesOf (field : Field) (value : Int) (spec : FieldSpec) (admitted wraps : Bool) : List (List Char) :=
  [field.domain.label.toList, Decimal.signedDigits value, spec.chars,
    if admitted then "ok".toList else "no".toList] ++ if wraps then ["(wraps)".toList] else []

structure FieldLine (field : Field) (value : Int) (spec : FieldSpec) (admitted : Bool) (line : List Char) :
    Prop where
  verdict : admitted = true ↔ spec.admits value = true
  shows : ∃ wraps, Columns line (entriesOf field value spec admitted wraps) ∧
    (wraps = true ↔ ∃ set, spec = .union set ∧ ∃ range ∈ set.ranges, range.last < range.first)

def lastLine (allowed : Bool) : List Char :=
  if allowed then "  allowed".toList else "  denied".toList

/-- The text is a line for each field, in order, and a last one that says if all of them say `ok`. Every line
is ended. -/
def Reports (schedule : Schedule) (components : Components) (allowed : Bool) (text : String) : Prop :=
  ∃ (lines : PerField (List Char)) (admitted : Field → Bool),
    Split '\n' text.toList (lines.toList ++ [lastLine allowed, []]) ∧
    (∀ field, FieldLine field (components.get field) (schedule.get field) (admitted field) (lines.get field)) ∧
    (allowed = true ↔ ∀ field, admitted field = true)

/-! ## Lines -/

theorem Columns.not_mem {c : Char} {line : List Char} {entries : List (List Char)}
    (columns : Columns line entries) (noSpace : c ≠ ' ') (free : ∀ entry ∈ entries, c ∉ entry) : c ∉ line := by
  induction columns with
  | done => exact List.not_mem_nil
  | entry _ spaces _ ih =>
    rw [List.forall_mem_cons] at free
    rw [List.mem_append, List.mem_append, not_or, not_or]
    exact ⟨fun member => noSpace (spaces c member), free.1, ih free.2⟩

theorem not_mem_entriesOf (field : Field) (value : Int) (spec : FieldSpec) (admitted wraps : Bool) :
    ∀ entry ∈ entriesOf field value spec admitted wraps, '\n' ∉ entry := by
  have label : '\n' ∉ field.domain.label.toList := by cases field <;> decide
  have number : '\n' ∉ Decimal.signedDigits value := fun member =>
    absurd (Decimal.mem_signedDigits member) (by decide)
  have specification : '\n' ∉ spec.chars := fun member =>
    absurd (FieldSpec.solid_chars member) (by decide)
  rw [entriesOf, List.forall_mem_append]
  constructor
  · simp only [List.forall_mem_cons]
    refine ⟨label, number, specification, ?_, by simp⟩
    cases admitted <;> decide
  · cases wraps <;> decide

theorem not_mem_lastLine (allowed : Bool) : '\n' ∉ lastLine allowed := by
  cases allowed <;> decide

theorem toList_padRight (width : Nat) (text : String) :
    (padRight width text).toList = text.toList ++ List.replicate (width - text.length) ' ' := by
  rw [padRight, String.toList_append, String.toList_ofList]

theorem toList_padLeft (width : Nat) (text : String) :
    (padLeft width text).toList = List.replicate (width - text.length) ' ' ++ text.toList := by
  rw [padLeft, String.toList_append, String.toList_ofList]

theorem columns_mark (wraps : Bool) :
    Columns (if wraps then "  (wraps)" else "").toList (if wraps then ["(wraps)".toList] else []) := by
  cases wraps with
  | false => exact .done
  | true =>
    have mark : Columns ([' ', ' '] ++ ("(wraps)".toList ++ [])) ["(wraps)".toList] :=
      .entry (by simp) (by simp) .done
    exact mark

/-- The columns of a line stand apart however long their entries are. -/
theorem exists_fieldLine (schedule : Schedule) (row : Row)
    (judged : row.admitted = (schedule.get row.field).admits row.value) :
    ∃ line, (rowLine schedule row).toList = line ++ ['\n'] ∧ '\n' ∉ line ∧
      FieldLine row.field row.value (schedule.get row.field) row.admitted line := by
  let spec := schedule.get row.field
  let label := row.field.domain.label
  let number := Decimal.signedDigits row.value
  let verdict := if row.admitted then "ok" else "no"
  let mark := if spec.wraps then "  (wraps)" else ""
  let behindLabel := List.replicate (17 - label.length) ' ' ++
    ' ' :: List.replicate (2 - (String.ofList number).length) ' '
  let behindSpec := List.replicate (12 - spec.text.length) ' ' ++ [' ']
  let line : List Char := [' ', ' '] ++ (label.toList ++ (behindLabel ++ (number ++ ([' ', ' '] ++
    (spec.chars ++ (behindSpec ++ (verdict.toList ++ mark.toList)))))))
  have whole : (rowLine schedule row).toList = line ++ ['\n'] := by
    simp [rowLine, toList_padRight, toList_padLeft, FieldSpec.text, line, spec, label, number, verdict, mark,
      behindLabel, behindSpec]
  -- The fill of a column may be empty, but a space of its own stands behind it.
  have columns : Columns line (entriesOf row.field row.value spec row.admitted spec.wraps) := by
    have shown : verdict.toList = if row.admitted then "ok".toList else "no".toList := apply_ite ..
    rw [entriesOf, ← shown]
    refine .entry (by simp) (by simp) (.entry (by simp [behindLabel]) ?_ (.entry (by simp) (by simp)
      (.entry (by simp [behindSpec]) ?_ (columns_mark spec.wraps))))
    · rw [List.forall_mem_append, List.forall_mem_cons]
      exact ⟨fun c => List.eq_of_mem_replicate, rfl, fun c => List.eq_of_mem_replicate⟩
    · rw [List.forall_mem_append, List.forall_mem_singleton]
      exact ⟨fun c => List.eq_of_mem_replicate, rfl⟩
  have free := not_mem_entriesOf row.field row.value spec row.admitted spec.wraps
  refine ⟨line, whole, columns.not_mem (by decide) free, ?_, spec.wraps, columns, spec.wraps_iff⟩
  rw [judged]

/-! ## The whole report -/

/-- Lines that are all ended leave nothing behind the last end. -/
theorem joined_ended (ending : Char) (lines : List (List Char)) :
    joined [ending] (lines ++ [[]]) = lines.flatMap fun line => line ++ [ending] := by
  induction lines with
  | nil => rfl
  | cons line rest ih =>
    obtain ⟨next, others, split⟩ := List.exists_cons_of_ne_nil (List.append_ne_nil_of_right_ne_nil rest
      (List.cons_ne_nil [] []))
    rw [List.cons_append, split, joined_cons_cons, ← split, ih, List.flatMap_cons]

theorem split_ended {ending : Char} {lines : List (List Char)} (free : ∀ line ∈ lines, ending ∉ line) :
    Split ending (lines.flatMap fun line => line ++ [ending]) (lines ++ [[]]) where
  inhabited := List.append_ne_nil_of_right_ne_nil lines (List.cons_ne_nil [] [])
  free := by
    rw [List.forall_mem_append, List.forall_mem_singleton]
    exact ⟨free, List.not_mem_nil⟩
  joins := joined_ended ending lines

theorem toList_report (schedule : Schedule) (rows : List Row) (allowed : Bool) :
    (report schedule rows allowed).toList = (rows.flatMap fun row => (rowLine schedule row).toList) ++
      (lastLine allowed ++ ['\n']) := by
  rw [report, String.toList_append, String.toList_append, String.toList_append, String.toList_join,
    List.flatMap_map, List.append_assoc, List.append_assoc]
  cases allowed <;> rfl

theorem reports_report (gate : Gate) (components : Components) :
    Reports gate.schedule components (gate.schedule.admits components)
      (report gate.schedule (gate.rows components) (gate.schedule.admits components)) := by
  let row (field : Field) : Row :=
    ⟨field, components.get field, (gate.schedule.get field).admits (components.get field)⟩
  choose line ended free shows using fun field => exists_fieldLine gate.schedule (row field) rfl
  let lines : PerField (List Char) := .ofFn line
  let last := lastLine (gate.schedule.admits components)
  have text : (report gate.schedule (gate.rows components) (gate.schedule.admits components)).toList =
      (lines.toList ++ [last]).flatMap fun line => line ++ ['\n'] := by
    rw [toList_report, Gate.rows, List.flatMap_map, List.flatMap_append, List.flatMap_singleton]
    simp only [row] at ended
    simp only [ended]
    rfl
  have six : ∀ line ∈ lines.toList ++ [last], '\n' ∉ line := by
    rw [List.forall_mem_append, List.forall_mem_singleton]
    constructor
    · rw [PerField.toList_eq, List.forall_mem_map]
      intro field _
      rw [PerField.get_ofFn]
      exact free field
    · exact not_mem_lastLine _
  refine ⟨lines, fun field => (row field).admitted, ?_, fun field => ?_, ?_⟩
  · have split := split_ended six
    rw [← text, List.append_assoc] at split
    exact split
  · rw [PerField.get_ofFn]
    exact shows field
  · exact Schedule.admits_iff

/-! ## Decided runs -/

/-- The report is the explanation of the gate, and its last line the decision. -/
theorem judge_stdout {provider : Provider} {plan : Plan} {gate : Gate} {allowed : Bool} {rows : List Row}
    (built : Gate.build provider plan.expression (.text plan.zone) plan.strict = .ok gate)
    (decides : gate.allows provider (.moment plan.occasion.current) = .ok allowed)
    (explains : gate.explain provider (.moment plan.occasion.current) = .ok rows) :
    (judge provider plan).stdout = if plan.verbose then report gate.schedule rows allowed else "" := by
  obtain ⟨components, looked, rfl⟩ := map_eq_ok_iff.mp decides
  obtain ⟨again, lookedAgain, rfl⟩ := map_eq_ok_iff.mp explains
  obtain rfl := Except.ok.inj (looked.symm.trans lookedAgain)
  simp only [judge, built, looked]

section Decided

variable {setting : Setting} {arguments : Arguments} {code : Nat}

/-- A level that breaks a run off leaves it no status. -/
theorem isLevelText_of_status (ended : (runArguments setting arguments).ending = .status code)
    {settings : Settings} (loads : Loads setting arguments (.ok settings)) :
    IsLevelText (chosenLevel arguments settings) := by
  obtain ⟨environment, early, run⟩ := runArguments_of_settings loads
  have ranked (e : LevelError) : ¬ Misleads (chosenLevel arguments settings) e := by
    intro misleads
    rw [run, runWith, levelRank_eq_error_iff.mpr misleads] at ended
    contradiction
  exact ⟨fun same => ranked _ (.notLevel same), fun same => ranked _ (.notNamed same)⟩

/-- A run with the status of a decision has come to one. -/
theorem exists_decided (given : arguments.instant ≠ none)
    (ended : (runArguments setting arguments).ending = .status code) (decided : code = 0 ∨ code = 1) :
    ∃ settings occasion gate components, Reaches setting arguments settings occasion ∧
      Gate.build setting.provider (Given.value arguments.expression)
        (.text (chosenZone arguments settings)) (asksStrict arguments settings) = .ok gate ∧
      gate.components setting.provider (.moment occasion.current) = .ok components ∧
      (gate.schedule.admits components = true ↔ code = 0) ∧
      (arguments.verbose = true → (runArguments setting arguments).stdout =
        report gate.schedule (gate.rows components) (gate.schedule.admits components)) := by
  have level (settings : Settings) (loads : Loads setting arguments (.ok settings)) :=
    isLevelText_of_status ended loads
  -- Every stage but the last one ends with a usage error.
  have usage : code ≠ 2 := by omega
  obtain ⟨message, concludes⟩ := exists_concludes level given ended
  cases concludes with
  | settings | instant | schedule | zone => contradiction
  | @decided settings occasion zone gate allowed reaches asks built decides =>
    obtain rfl := asksZone_iff.mp asks
    obtain ⟨components, looked, rfl⟩ := map_eq_ok_iff.mp decides
    refine ⟨settings, occasion, gate, components, reaches, built, looked, ?_, fun verbose => ?_⟩
    · cases gate.schedule.admits components <;> simp
    · rw [asksStrict_eq] at built
      obtain ⟨environment, said, run⟩ := runArguments_of_reaches (level settings reaches.loads) reaches
      have decision : gate.allows setting.provider
          (.moment (planOf arguments settings occasion).occasion.current) = _ := decides
      have explains : gate.explain setting.provider (.moment occasion.current) =
          .ok (gate.rows components) := map_eq_ok_iff.mpr ⟨components, looked, rfl⟩
      have printed : (judge setting.provider (planOf arguments settings occasion)).stdout = _ :=
        judge_stdout built decides explains
      rw [judge_of_gate (planOf arguments settings occasion) built, decision] at run
      rw [run]
      exact printed.trans (if_pos verbose)

end Decided

/-- The report of a run that decides about a given instant shows, field by field, what the instant has in the
zone that is asked for and what the schedule asks for, and its last line says what the status says. Without the
demand for a report, be it taken out of the words or never made, the run ends in the same way. -/
theorem report_agrees_with_status (setting : Setting) (words : List String) (arguments : Arguments) (code : Nat)
    (read : readArguments words = .read arguments []) (verbose : arguments.verbose = true)
    (given : arguments.instant ≠ none) (ended : (run setting words).ending = .status code)
    (decided : code = 0 ∨ code = 1) :
    (∃ settings occasion zone schedule components allowed, Reaches setting arguments settings occasion ∧
      AsksZone arguments settings zone ∧
      Schedule.readValue (asksStrict arguments settings) (Given.value arguments.expression) = .ok schedule ∧
      setting.provider.project zone occasion.current = some components ∧
      Reports schedule components allowed (run setting words).stdout ∧ (allowed = true ↔ code = 0)) ∧
    (∀ others silent, readArguments others = .read (arguments.withVerbose silent) [] →
      (run setting others).ending = .status code) ∧
    ∀ others, Relation.ReflTransGen Erases words others → (run setting others).ending = .status code := by
  have same : run setting words = runArguments setting arguments := by rw [run, read]
  have alike (others : List String) (silent : Bool)
      (readOthers : readArguments others = .read (arguments.withVerbose silent) []) :
      (run setting others).ending = .status code := by
    rw [run, readOthers, ← ended, same]
    exact runArguments_withVerbose setting arguments silent
  refine ⟨?report, alike, ?erased⟩
  case report =>
    rw [same] at ended ⊢
    obtain ⟨settings, occasion, gate, components, reaches, built, looked, agrees, stdout⟩ :=
      exists_decided given ended decided
    obtain ⟨schedule, zone, accepted, asked, -, rfl⟩ := Gate.build_eq_ok_iff.mp built
    cases asked
    obtain ⟨moment, shown, projected⟩ := Gate.components_eq_ok_iff.mp looked
    cases shown
    refine ⟨settings, occasion, _, schedule, components, _, reaches, asksZone_iff.mpr rfl, accepted, projected,
      ?_, agrees⟩
    rw [stdout verbose]
    exact reports_report _ components
  case erased =>
    intro others erases
    obtain ⟨silent, readOthers⟩ := exists_read_of_erases erases read
    exact alike others silent readOthers

/-- A Sunday is denied where the days of the week end on Friday, with a report or without. -/
theorem report_of_denied_sunday :
    let setting : Setting := ⟨Atlas.provider, ⟨⟨[("CRONRANGE_HOME", "home")]⟩, .ofText "/root",
      fun _ => .absent⟩, ⟨⟨2024, 1, 1, by decide⟩, Clock.midnight, none⟩, "", fun _ => ""⟩
    let words (option : String) := [option, "* 9-17 * 9-6,8 1-5", "--at", "1995-12-17T09:24:00Z"]
    ∃ arguments schedule components, readArguments (words "-ve") = .read arguments [] ∧
      arguments.verbose = true ∧ arguments.instant ≠ none ∧ (run setting (words "-ve")).ending = .status 1 ∧
      Reports schedule components false (run setting (words "-ve")).stdout ∧
      (run setting (words "-e")).ending = .status 1 := by
  intro setting words
  let arguments : Arguments := ⟨some (.text "* 9-17 * 9-6,8 1-5"), none, some (.text "1995-12-17T09:24:00Z"),
    false, none, none, true, none⟩
  have read : readArguments (words "-ve") = .read arguments [] := by decide +kernel
  have given : arguments.instant ≠ none := by decide
  have ended : (run setting (words "-ve")).ending = .status 1 :=
    Ending.code?_eq_some_iff.mp (by decide +kernel)
  obtain ⟨⟨_, _, _, schedule, components, allowed, _, _, _, _, reports, agrees⟩, -, erased⟩ :=
    report_agrees_with_status setting (words "-ve") arguments 1 read rfl given ended (.inr rfl)
  have denied : allowed = false := by simpa using agrees
  have spelled : Flag.ofSpelling? ['-', 'e'] = some .expression := by decide
  have erases : Erases (words "-ve") (words "-e") :=
    .letter [] ["* 9-17 * 9-6,8 1-5", "--at", "1995-12-17T09:24:00Z"] spelled (by decide : [].head? ≠ some '=')
  exact ⟨arguments, schedule, components, read, rfl, given, ended, denied ▸ reports, erased _ (.single erases)⟩

end Command

end TimeGate
