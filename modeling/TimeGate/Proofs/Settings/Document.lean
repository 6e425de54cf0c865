import TimeGate.Proofs.Settings.Precedence

/-! What becomes of the document of a settings file. A mapping goes on to the check. Any other document is
refused, under the name of its file and its own kind, unless it counts as nothing: then it does as much
as a file that is missing. -/

set_option autoImplicit false

namespace TimeGate

/-- Documents that count as nothing. -/
inductive Value.Nothing : Value → Prop where
  | null : Nothing .null
  | no : Nothing (.bool false)
  | zero : Nothing (.int 0)
  | zeroFloat (negative : Bool) (exponent : Int) : Nothing (.float (.finite negative 0 exponent))
  | emptyText : Nothing (.text "")
  | emptyBytes : Nothing (.scalar (.foreign (.bytes [])))
  | emptySet : Nothing (.scalar (.foreign (.set true)))
  | emptyList : Nothing (.list [])
  | emptyMap : Nothing (.map [])

def Value.IsMap (value : Value) : Prop := ∃ entries, value = .map entries

theorem Value.isFalsy_iff {value : Value} : value.isFalsy = true ↔ value.Nothing := by
  constructor
  · intro falsy
    match value with
    | .null => exact .null
    | .bool false => exact .no
    | .int n =>
      obtain rfl : n = 0 := by simpa [isFalsy] using falsy
      exact .zero
    | .float (.finite negative significand exponent) =>
      obtain rfl : significand = 0 := by simpa [isFalsy, Decimal.Binary64.isZero] using falsy
      exact .zeroFloat negative exponent
    | .text s =>
      obtain rfl : s = "" := by simpa [isFalsy] using falsy
      exact .emptyText
    | .scalar (.foreign (.bytes [])) => exact .emptyBytes
    | .scalar (.foreign (.set true)) => exact .emptySet
    | .list [] => exact .emptyList
    | .map [] => exact .emptyMap
  · rintro ⟨⟩ <;> rfl

namespace Settings

theorem entriesOf_of_nothing {document : Value} (nothing : document.Nothing) (path : Path) :
    entriesOf path (some document) = .ok [] := by
  cases nothing <;> rfl

theorem entriesOf_of_other {document : Value} (noMap : ¬ document.IsMap) (something : ¬ document.Nothing)
    (path : Path) : entriesOf path (some document) = .error (.notMapping path.text document.kindName) := by
  have solid : document.isFalsy = false := Bool.eq_false_iff.mpr fun falsy =>
    something (Value.isFalsy_iff.mp falsy)
  cases document with
  | scalar leaf => simp [entriesOf, solid]
  | list items => simp [entriesOf, solid]
  | map entries => exact absurd ⟨entries, rfl⟩ noMap

theorem ne_notMapping_of_ofEntries {environment : Environment} {entries : Shape.Entries} {e : LoadError}
    (failed : ofEntries environment entries = .error e) (path kind : String) : e ≠ .notMapping path kind := by
  rintro rfl
  unfold ofEntries at failed
  dsimp only at failed
  split at failed
  · simp at failed
  · split at failed
    · simp at failed
    · split at failed <;> simp at failed

theorem readDocument_of_empty {look : Path → Found} {path : Path} (empty : look path = .file (.text "")) :
    readDocument look path = .ok (some .null) := by
  rw [readDocument, empty]
  rfl

/-- Loading comes to the document of the settings file: the home folder is known, the environment file
loads if there is one, and the settings file is there and can be read. -/
structure Finds (surroundings : Surroundings) (settingsPath environmentPath : Option String)
    (sources : Sources) (environment : Environment) (notices : List Notice) (text : String)
    (document : Value) : Prop where
  located : sources? surroundings.environment surroundings.accountHome settingsPath environmentPath =
    some sources
  loads : loadEnvironment surroundings sources.environment = (.ok (), environment, notices)
  holds : surroundings.look sources.settings = .file (.text text)
  reads : Yaml.read (Text.unifyLines text.toList) = .ok document

section Finding

variable {surroundings : Surroundings} {settingsPath environmentPath : Option String} {sources : Sources}
  {environment : Environment} {notices : List Notice} {text : String} {document : Value}

theorem Finds.readDocument_eq
    (finds : Finds surroundings settingsPath environmentPath sources environment notices text document) :
    readDocument surroundings.look sources.settings = .ok (some document) := by
  simp only [readDocument, finds.holds, finds.reads]

theorem Finds.load_of_refused
    (finds : Finds surroundings settingsPath environmentPath sources environment notices text document)
    {e : LoadError} (refused : entriesOf sources.settings (some document) = .error e) :
    load surroundings settingsPath environmentPath =
      ⟨.error e, environment, notices ++ [.settingsLoaded sources.settings.text]⟩ := by
  simp only [load, finds.located, finds.loads, loadDocument, finds.readDocument_eq, refused]
  rfl

theorem Finds.load_of_taken
    (finds : Finds surroundings settingsPath environmentPath sources environment notices text document)
    {entries : Shape.Entries} (taken : entriesOf sources.settings (some document) = .ok entries) :
    load surroundings settingsPath environmentPath =
      ⟨ofEntries environment entries, environment, notices ++ .settingsLoaded sources.settings.text ::
        (Interpolation.unsetInEntries environment entries).map Notice.variableUnset⟩ := by
  simp only [load, finds.located, finds.loads, loadDocument, finds.readDocument_eq, taken]
  rfl

theorem Finds.load_of_missing
    (finds : Finds surroundings settingsPath environmentPath sources environment notices text document)
    {look : Path → Found} (same : look sources.environment = surroundings.look sources.environment)
    (missing : look sources.settings = .absent) :
    load { surroundings with look := look } settingsPath environmentPath =
      ⟨ofEntries environment [], environment, notices ++ [.settingsAbsent sources.settings.text]⟩ := by
  have loads : loadEnvironment { surroundings with look := look } sources.environment =
      (.ok (), environment, notices) := by
    rw [← finds.loads]
    simp only [loadEnvironment, same]
  simp only [load, finds.located, loads, loadDocument, readDocument, missing, entriesOf]
  rfl

end Finding

/-- Loading that comes to a document refuses it for its kind exactly if it is no mapping and does not count
as nothing, whatever the variables are; nothing is checked then, and the file and the kind are named. A
document that counts as nothing, like that of an empty file, gives the same settings or the same error as a
file that is missing. -/
theorem load_refuses_document_by_kind (surroundings : Surroundings)
    (settingsPath environmentPath : Option String) (sources : Sources) (environment : Environment)
    (notices : List Notice) (text : String) (document : Value)
    (finds : Finds surroundings settingsPath environmentPath sources environment notices text document) :
    let outcome := load surroundings settingsPath environmentPath
    let file := sources.settings.text
    let refusal := LoadError.notMapping file document.kindName
    (¬ document.IsMap → ¬ document.Nothing →
      outcome = ⟨.error refusal, environment, notices ++ [.settingsLoaded file]⟩ ∧
      refusal.message? = some ("Config file " ++ file ++ " must hold a mapping, got " ++ document.kindName)) ∧
    ((∃ path kind, outcome.result = .error (.notMapping path kind)) ↔
      ¬ document.IsMap ∧ ¬ document.Nothing) ∧
    (document.Nothing → ∀ look, look sources.environment = surroundings.look sources.environment →
      look sources.settings = .absent →
      let missing := load { surroundings with look := look } settingsPath environmentPath
      outcome.result = missing.result ∧ outcome.environment = missing.environment) ∧
    (text = "" → document = .null) := by
  intro outcome file refusal
  refine ⟨fun noMap something => ⟨?_, rfl⟩, ⟨?_, ?_⟩, fun nothing look same absent => ?_, ?_⟩
  · exact finds.load_of_refused (entriesOf_of_other noMap something sources.settings)
  · rintro ⟨path, kind, refused⟩
    -- What is taken goes to the check, which refuses nothing for its kind.
    have untaken (entries : Shape.Entries) :
        entriesOf sources.settings (some document) ≠ .ok entries := fun taken => by
      have failed := (congrArg Loaded.result (finds.load_of_taken taken)).symm.trans refused
      exact ne_notMapping_of_ofEntries failed path kind rfl
    refine ⟨?_, fun nothing => untaken _ (entriesOf_of_nothing nothing _)⟩
    rintro ⟨entries, rfl⟩
    exact untaken entries rfl
  · rintro ⟨noMap, something⟩
    have refused := finds.load_of_refused (entriesOf_of_other noMap something sources.settings)
    exact ⟨_, _, congrArg Loaded.result refused⟩
  · have here := finds.load_of_taken (entriesOf_of_nothing nothing sources.settings)
    have there := finds.load_of_missing same absent
    exact ⟨(congrArg Loaded.result here).trans (congrArg Loaded.result there).symm,
      (congrArg Loaded.environment here).trans (congrArg Loaded.environment there).symm⟩
  · rintro rfl
    have same := finds.readDocument_eq.symm.trans (readDocument_of_empty finds.holds)
    exact Option.some.inj (Except.ok.inj same)

/-- A settings file that stands alone is found, with its document. -/
theorem finds_of_oneFile {environment : Environment} {accountHome folder : Path}
    (known : home? environment accountHome = some folder) {body : String} {document : Value}
    (reads : Yaml.read (Text.unifyLines body.toList) = .ok document) :
    Finds ⟨environment, accountHome, oneFile "config.yaml" body⟩ (some "config.yaml") (some "vars.env")
      ⟨.ofText "vars.env", .ofText "config.yaml"⟩ environment [.environmentAbsent "vars.env"] body document where
  located := by simp only [sources?, known, Option.map_some, Option.getD_some]
  loads := by
    have absent : oneFile "config.yaml" body (.ofText "vars.env") = .absent :=
      if_neg (by decide +kernel)
    have named : (Path.ofText "vars.env").text = "vars.env" := by decide +kernel
    simp only [loadEnvironment, absent, named]
  holds := by simp only [oneFile, if_true]
  reads := reads

/-- A list is refused, although variables stand for every setting and one of them says nothing sensible. -/
theorem load_refuses_list :
    let body := "- UTC\n- strict\n"
    let environment : Environment :=
      ⟨[("CRONRANGE_HOME", "home"), ("CRONRANGE_TIMEZONE", "Asia/Tokyo"), ("CRONRANGE_STRICT", "maybe")]⟩
    let surroundings : Surroundings := ⟨environment, .ofText "/root", oneFile "config.yaml" body⟩
    ∃ document,
      Finds surroundings (some "config.yaml") (some "vars.env")
        ⟨.ofText "vars.env", .ofText "config.yaml"⟩ environment [.environmentAbsent "vars.env"] body document ∧
      ¬ document.IsMap ∧ ¬ document.Nothing ∧
      load surroundings (some "config.yaml") (some "vars.env") =
        ⟨.error (.notMapping "config.yaml" "list"), environment,
          [.environmentAbsent "vars.env", .settingsLoaded "config.yaml"]⟩ := by
  intro body environment surroundings
  have known : home? environment (.ofText "/root") = some (.ofText "home") := by decide +kernel
  -- Values cannot be compared by evaluation, so what is evaluated is a test of the document.
  have tested : ((Yaml.read (Text.unifyLines body.toList)).toOption.any fun document =>
      document.kindName == "list" && !document.isFalsy) = true := by decide +kernel
  obtain ⟨document, read, passed⟩ := (Option.any_eq_true _ _).mp tested
  rw [Bool.and_eq_true, beq_iff_eq, Bool.not_eq_true'] at passed
  obtain ⟨kind, solid⟩ := passed
  have noMap : ¬ document.IsMap := by
    rintro ⟨entries, rfl⟩
    simp [Value.kindName] at kind
  have something : ¬ document.Nothing := fun nothing => by
    rw [Value.isFalsy_iff.mpr nothing] at solid
    contradiction
  have finds := finds_of_oneFile known (Traversal.eq_ok_of_toOption read)
  have outcome := ((load_refuses_document_by_kind _ _ _ _ _ _ _ _ finds).1 noMap something).1
  have named : (Path.ofText "config.yaml").text = "config.yaml" := by decide +kernel
  rw [kind, named] at outcome
  exact ⟨document, finds, noMap, something, outcome⟩

/-- An empty list, an empty text, zeros and `false` are no mappings and not null, and still loading takes
each of them for nothing and yields the defaults. -/
theorem load_takes_blank_documents :
    let environment : Environment := ⟨[("CRONRANGE_HOME", "home")]⟩
    let surroundings (body : String) : Surroundings :=
      ⟨environment, .ofText "/root", oneFile "config.yaml" body⟩
    ∀ written ∈ [("[]\n", "list"), ("''\n", "str"), ("0\n", "int"), ("0.0\n", "float"), ("false\n", "bool")],
      ∃ document,
        Finds (surroundings written.1) (some "config.yaml") (some "vars.env")
          ⟨.ofText "vars.env", .ofText "config.yaml"⟩ environment [.environmentAbsent "vars.env"]
          written.1 document ∧
        document.kindName = written.2 ∧
        (load (surroundings written.1) (some "config.yaml") (some "vars.env")).result =
          .ok default := by
  intro environment surroundings written member
  have known : home? environment (.ofText "/root") = some (.ofText "home") := by decide +kernel
  have tested : ((Yaml.read (Text.unifyLines written.1.toList)).toOption.any fun document =>
      document.kindName == written.2 && document.isFalsy) = true := by
    revert written
    decide +kernel
  obtain ⟨document, read, passed⟩ := (Option.any_eq_true _ _).mp tested
  rw [Bool.and_eq_true, beq_iff_eq] at passed
  have finds := finds_of_oneFile known (Traversal.eq_ok_of_toOption read)
  have taken := entriesOf_of_nothing (Value.isFalsy_iff.mp passed.2) (.ofText "config.yaml")
  refine ⟨document, finds, passed.1, ?_⟩
  rw [finds.load_of_taken taken]
  exact Traversal.eq_ok_of_toOption (by decide +kernel)

end Settings

end TimeGate
