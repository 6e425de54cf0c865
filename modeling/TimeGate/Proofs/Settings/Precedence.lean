import TimeGate.Proofs.Settings.Choice
import TimeGate.Proofs.Settings.Variables

/-! Loading as a whole. It comes as far as the check of the settings, or it breaks off before that; what
it yields or is refused for is told by the variables and the entries that the check works with. -/

set_option autoImplicit false

namespace TimeGate.Settings

/-- Loading comes as far as the check, with the variables and entries that it works with. -/
inductive Prepares (surroundings : Surroundings) (settingsPath environmentPath : Option String) :
    Environment → Shape.Entries → Prop where
  | reached {sources : Sources} {environment : Environment} {notices : List Notice}
      {document : Option Value} {entries : Shape.Entries} :
      sources? surroundings.environment surroundings.accountHome settingsPath environmentPath = some sources →
      loadEnvironment surroundings sources.environment = (.ok (), environment, notices) →
      readDocument surroundings.look sources.settings = .ok document →
      entriesOf sources.settings document = .ok entries →
      Value.someEntryEndless entries = false → entries.all isTextKey = true →
      Prepares surroundings settingsPath environmentPath environment entries

section Loading

variable {surroundings : Surroundings} {settingsPath environmentPath : Option String}
  {environment : Environment} {entries : Shape.Entries}

theorem Prepares.get?_eq
    (prepares : Prepares surroundings settingsPath environmentPath environment entries) {sources : Sources}
    (found : sources? surroundings.environment surroundings.accountHome settingsPath environmentPath =
      some sources) (name : String) :
    environment.get? name = (surroundings.environment.get? name).or
      (EnvFile.bound (bindingsAt surroundings sources.environment) name) := by
  obtain ⟨same, loaded, -, -, -, -⟩ := prepares
  cases found.symm.trans same
  exact get?_of_loadEnvironment loaded name

theorem Prepares.result_eq
    (prepares : Prepares surroundings settingsPath environmentPath environment entries) :
    (load surroundings settingsPath environmentPath).result =
      match checkEntries (effective environment entries) with
      | .ok settings => .ok settings
      | .error issues => .error (.invalid issues) := by
  obtain ⟨found, loaded, read, taken, finite, named⟩ := prepares
  simp only [load, found, loaded, loadDocument, read, taken, ofEntries_eq, finite, named]
  rfl

theorem Prepares.result_eq_ok_iff
    (prepares : Prepares surroundings settingsPath environmentPath environment entries)
    {settings : Settings} :
    (load surroundings settingsPath environmentPath).result = .ok settings ↔
      Yields environment entries settings := by
  rw [← checkEntries_eq_ok_iff, prepares.result_eq]
  cases checkEntries _ <;> simp

theorem Prepares.result_invalid_iff
    (prepares : Prepares surroundings settingsPath environmentPath environment entries) :
    (∃ issues, (load surroundings settingsPath environmentPath).result = .error (.invalid issues)) ↔
      Amiss environment entries := by
  rw [← fails_checkEntries_iff, prepares.result_eq]
  cases checkEntries _ <;> simp

theorem ne_invalid_of_loadEnvironment {path : Path} {e : LoadError} {notices : List Notice}
    (failed : loadEnvironment surroundings path = (.error e, environment, notices)) (issues : List Issue) :
    e ≠ .invalid issues := by
  rintro rfl
  unfold loadEnvironment at failed
  dsimp only at failed
  split at failed
  case h_5 => split at failed <;> simp at failed
  all_goals simp at failed

theorem ne_invalid_of_readDocument {look : Path → Found} {path : Path} {e : LoadError}
    (failed : readDocument look path = .error e) (issues : List Issue) : e ≠ .invalid issues := by
  rintro rfl
  unfold readDocument at failed
  split at failed
  case h_5 => split at failed <;> simp at failed
  all_goals simp at failed

theorem ne_invalid_of_entriesOf {path : Path} {document : Option Value} {e : LoadError}
    (failed : entriesOf path document = .error e) (issues : List Issue) : e ≠ .invalid issues := by
  rintro rfl
  unfold entriesOf at failed
  split at failed
  case h_3 => split at failed <;> simp at failed
  all_goals simp at failed

/-- Loading that does not come as far as the check fails, and not for what the check finds. -/
theorem prepares_or_broken (surroundings : Surroundings) (settingsPath environmentPath : Option String) :
    (∃ environment entries, Prepares surroundings settingsPath environmentPath environment entries) ∨
      ∃ e, (load surroundings settingsPath environmentPath).result = .error e ∧
        ∀ issues, e ≠ .invalid issues := by
  -- The stages in order: loading fails with what the first of them fails with.
  cases found : sources? surroundings.environment surroundings.accountHome settingsPath environmentPath with
  | none => exact .inr ⟨.homeUnknown, by simp only [load, found], by simp⟩
  | some sources =>
    match loaded : loadEnvironment surroundings sources.environment with
    | (.error e, environment, notices) =>
      exact .inr ⟨e, by simp only [load, found, loaded], ne_invalid_of_loadEnvironment loaded⟩
    | (.ok (), environment, notices) =>
      cases read : readDocument surroundings.look sources.settings with
      | error e =>
        exact .inr ⟨e, by simp only [load, found, loaded, loadDocument, read],
          ne_invalid_of_readDocument read⟩
      | ok document =>
        cases taken : entriesOf sources.settings document with
        | error e =>
          exact .inr ⟨e, by simp only [load, found, loaded, loadDocument, read, taken],
            ne_invalid_of_entriesOf taken⟩
        | ok entries =>
          cases endless : Value.someEntryEndless entries with
          | true =>
            refine .inr ⟨.endless, ?_, by simp⟩
            simp [load, found, loaded, loadDocument, read, taken, ofEntries_eq, endless]
          | false =>
            cases named : entries.all isTextKey with
            | true => exact .inl ⟨environment, entries, .reached found loaded read taken endless named⟩
            | false =>
              refine .inr ⟨.keyNotText, ?_, by simp⟩
              simp [load, found, loaded, loadDocument, read, taken, ofEntries_eq, endless, named]

theorem exists_prepares_of_ok {settings : Settings}
    (loaded : (load surroundings settingsPath environmentPath).result = .ok settings) :
    ∃ environment entries, Prepares surroundings settingsPath environmentPath environment entries := by
  rcases prepares_or_broken surroundings settingsPath environmentPath with prepared | ⟨e, failed, -⟩
  · exact prepared
  · cases failed.symm.trans loaded

theorem exists_prepares_of_invalid {issues : List Issue}
    (refused : (load surroundings settingsPath environmentPath).result = .error (.invalid issues)) :
    ∃ environment entries, Prepares surroundings settingsPath environmentPath environment entries := by
  rcases prepares_or_broken surroundings settingsPath environmentPath with prepared | ⟨e, failed, other⟩
  · exact prepared
  · exact absurd (Except.error.inj (failed.symm.trans refused)) (other issues)

end Loading

/-- Where one file lies and nothing else. -/
def oneFile (name body : String) (path : Path) : Found :=
  if path = .ofText name then .file (.text body) else .absent

/-- Loading that comes as far as the check yields, for each setting, what its variable says, else what the
document says, else the default, and is refused exactly if one of these fails its check. The variables
are those of the process and, where it has none, of the environment file. The variable of the zone is taken
as it stands, and nothing else in the document matters. -/
theorem load_by_precedence (surroundings : Surroundings) (settingsPath environmentPath : Option String) :
    (∀ settings, (load surroundings settingsPath environmentPath).result = .ok settings ↔
      ∃ environment entries, Prepares surroundings settingsPath environmentPath environment entries ∧
        Yields environment entries settings) ∧
    ((∃ issues, (load surroundings settingsPath environmentPath).result = .error (.invalid issues)) ↔
      ∃ environment entries, Prepares surroundings settingsPath environmentPath environment entries ∧
        Amiss environment entries) ∧
    ∀ environment entries, Prepares surroundings settingsPath environmentPath environment entries →
      (∀ sources,
        sources? surroundings.environment surroundings.accountHome settingsPath environmentPath =
          some sources →
        ∀ name, environment.get? name = (surroundings.environment.get? name).or
          (EnvFile.bound (bindingsAt surroundings sources.environment) name)) ∧
      (∀ settings text, (load surroundings settingsPath environmentPath).result = .ok settings →
        environment.get? "CRONRANGE_TIMEZONE" = some text → settings.timezone = text) ∧
      ∀ changed others, Prepares changed settingsPath environmentPath environment others →
        SayAlike entries others → ∀ settings,
          (load changed settingsPath environmentPath).result = .ok settings ↔
            (load surroundings settingsPath environmentPath).result = .ok settings := by
  refine ⟨fun settings => ⟨fun loaded => ?_, ?_⟩, ⟨?_, ?_⟩, fun environment entries prepares =>
    ⟨fun sources found => prepares.get?_eq found, fun settings text loaded => ?_, ?_⟩⟩
  · obtain ⟨environment, entries, prepares⟩ := exists_prepares_of_ok loaded
    exact ⟨environment, entries, prepares, prepares.result_eq_ok_iff.mp loaded⟩
  · rintro ⟨environment, entries, prepares, yields⟩
    exact prepares.result_eq_ok_iff.mpr yields
  · rintro ⟨issues, refused⟩
    obtain ⟨environment, entries, prepares⟩ := exists_prepares_of_invalid refused
    exact ⟨environment, entries, prepares, prepares.result_invalid_iff.mp ⟨issues, refused⟩⟩
  · rintro ⟨environment, entries, prepares, amiss⟩
    exact prepares.result_invalid_iff.mpr amiss
  · exact (prepares.result_eq_ok_iff.mp loaded).timezone_of_variable
  · intro changed others prepared alike settings
    rw [prepared.result_eq_ok_iff, prepares.result_eq_ok_iff, alike.yields_iff]

example : (load ⟨⟨[("CRONRANGE_TIMEZONE", ""), ("CRONRANGE_HOME", "home"), ("LEVEL", "INFO")]⟩,
      .ofText "/root",
      oneFile "config.yaml" "timezone: 5\nstrict: on\nlogging:\n  level: $\x7bLEVEL\x7d\nzone: 7\n"⟩
      (some "config.yaml") none).result.toOption = some ⟨"", true, "INFO"⟩ := by
  decide +kernel

/-- What decides the strictness is no truth value, and still loading is not refused for it: it breaks off
before the check, for an unknown home folder, for a variable that no environment can hold, or for a list of
the document that holds itself. -/
theorem load_breaks_off_unchecked :
    let home := ("CRONRANGE_HOME", "home")
    let strict := ("CRONRANGE_STRICT", "maybe")
    let body := "strict: maybe\nloop: &a [*a]\n"
    let result (environment : Environment) (look : Path → Found) :=
      (load ⟨environment, .ofText "/root", look⟩ (some "config.yaml") (some "vars.env")).result
    (Amiss ⟨[("CRONRANGE_HOME", "~nosuchuser99"), strict]⟩ [] ∧
      result ⟨[("CRONRANGE_HOME", "~nosuchuser99"), strict]⟩ (fun _ => .absent) = .error .homeUnknown) ∧
    (Amiss ⟨[home, strict]⟩ [] ∧
      result ⟨[home, strict]⟩ (oneFile "vars.env" "A=\x00") = .error .unsettable) ∧
    ∃ entries,
      readDocument (oneFile "config.yaml" body) (.ofText "config.yaml") = .ok (some (.map entries)) ∧
      entries.all isTextKey = true ∧ Amiss ⟨[home]⟩ entries ∧
      result ⟨[home]⟩ (oneFile "config.yaml" body) = .error .endless := by
  intro home strict body result
  have noTruth : (Shape.truth (.text "maybe")).Fails := ⟨_, rfl⟩
  refine ⟨⟨.strict rfl noTruth, ?_⟩, ⟨.strict rfl noTruth, ?_⟩, ?_⟩
  · have unknown : sources? ⟨[("CRONRANGE_HOME", "~nosuchuser99"), strict]⟩ (.ofText "/root")
        (some "config.yaml") (some "vars.env") = none := by decide +kernel
    simp only [result, load, unknown]
  · have found : sources? ⟨[home, strict]⟩ (.ofText "/root") (some "config.yaml") (some "vars.env") =
        some ⟨.ofText "vars.env", .ofText "config.yaml"⟩ := by decide +kernel
    have names : EnvFile.names ⟨[home, strict]⟩ (Text.unifyLines "A=\x00".toList) =
        [("A", some "\x00")] := by decide +kernel
    have impossible : Environment.canHold "A" "\x00" = false := by simp [Environment.canHold]
    have stopped : EnvFile.load ⟨[home, strict]⟩ (Text.unifyLines "A=\x00".toList) =
        (false, ⟨[home, strict]⟩) := by
      simp only [EnvFile.load, names, EnvFile.apply, impossible]
      rfl
    simp only [result, load, found, loadEnvironment, oneFile, if_pos, stopped]
  · have found : sources? ⟨[home]⟩ (.ofText "/root") (some "config.yaml") (some "vars.env") =
        some ⟨.ofText "vars.env", .ofText "config.yaml"⟩ := by decide +kernel
    have absent : oneFile "config.yaml" body (.ofText "vars.env") = .absent := by decide +kernel
    -- Values cannot be compared by evaluation, so what is evaluated is a test of the document.
    have tested : (((readDocument (oneFile "config.yaml" body) (.ofText "config.yaml")).toOption.bind id).bind
        fun document => (Shape.record document).toOption).any (fun entries =>
          Value.someEntryEndless entries && entries.all isTextKey &&
            (deciding ⟨[home]⟩ "CRONRANGE_STRICT" (lookupText "strict" entries)).any fun value =>
              (Shape.truth value).toOption.isNone) = true := by decide +kernel
    obtain ⟨entries, holds, passed⟩ := (Option.any_eq_true _ _).mp tested
    obtain ⟨document, isDocument, isRecord⟩ := Option.bind_eq_some_iff.mp holds
    obtain ⟨_, read, rfl⟩ := Option.bind_eq_some_iff.mp isDocument
    obtain rfl := Shape.record_eq_ok_iff.mp (Traversal.eq_ok_of_toOption isRecord)
    have same := Traversal.eq_ok_of_toOption read
    rw [Bool.and_eq_true, Bool.and_eq_true] at passed
    obtain ⟨⟨endless, named⟩, said⟩ := passed
    obtain ⟨value, decides, noValue⟩ := (Option.any_eq_true _ _).mp said
    have fails : (Shape.truth value).Fails :=
      Checked.fails_iff_toOption.mpr (Option.isNone_iff_eq_none.mp noValue)
    refine ⟨entries, same, named, .strict decides fails, ?_⟩
    simp only [result, load, found, loadEnvironment, absent, loadDocument, same, entriesOf, ofEntries,
      endless, if_true]

end TimeGate.Settings
