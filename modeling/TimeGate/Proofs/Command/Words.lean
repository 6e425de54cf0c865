import TimeGate.Command.Arguments

/-! Command lines that differ in the text of one level option. What stands before an option can be sorted and
read on its own, so the lines come apart at the level only: the same arguments are read from both, the level
aside, or reading ends without arguments for both. -/

set_option autoImplicit false

namespace TimeGate.Command

/-- The word that gives a text as the level. -/
def levelWord (text : String) : String := "--log-level=" ++ text

def levelOption (text : List Char) : Word := .option "--log-level".toList .level (some text)

/-! ## Sorting -/

theorem sortWords_separator (rest : List (List Char)) :
    sortWords (['-', '-'] :: rest) = .ok (.separator :: rest.map .plain) := rfl

theorem sortWords_cons {word : List Char} (noSeparator : word ≠ ['-', '-']) (rest : List (List Char)) :
    sortWords (word :: rest) =
      (sortWord word).bind fun first => (sortWords rest).map fun others => first :: others := by
  rw [sortWords, if_neg (by simpa using noSeparator)]
  rfl

theorem sortWords_append {front : List (List Char)} (noSeparator : ['-', '-'] ∉ front)
    (rest : List (List Char)) :
    sortWords (front ++ rest) =
      (sortWords front).bind fun first => (sortWords rest).map fun others => first ++ others := by
  induction front with
  | nil =>
    rw [List.nil_append]
    cases sortWords rest <;> rfl
  | cons word front ih =>
    rw [List.mem_cons, not_or] at noSeparator
    obtain ⟨other, behind⟩ := noSeparator
    rw [List.cons_append, sortWords_cons (Ne.symm other), sortWords_cons (Ne.symm other), ih behind]
    cases sortWord word with
    | error e => rfl
    | ok first =>
      cases sortWords front with
      | error e => rfl
      | ok sorted => cases sortWords rest <;> rfl

theorem sortWords_levelWord (text : String) (rest : List (List Char)) :
    sortWords ((levelWord text).toList :: rest) =
      (sortWords rest).map fun others => levelOption text.toList :: others := by
  rw [levelWord, String.toList_append]
  rfl

/-! ## Reading -/

def Arguments.withLevel (arguments : Arguments) (level : Option Given) : Arguments :=
  { arguments with level := level }

section WithLevel

variable (arguments : Arguments) (level : Option Given)

@[simp] theorem Arguments.withLevel_expression :
    (arguments.withLevel level).expression = arguments.expression := rfl

@[simp] theorem Arguments.withLevel_instant : (arguments.withLevel level).instant = arguments.instant := rfl

@[simp] theorem Arguments.withLevel_settings :
    (arguments.withLevel level).settings = arguments.settings := rfl

@[simp] theorem Arguments.withLevel_environment :
    (arguments.withLevel level).environment = arguments.environment := rfl

end WithLevel

theorem expand_levelOption (text : List Char) :
    expand "--log-level".toList .level (some text) = .ok ([], .holds .level text) := by
  cases text <;> rfl

theorem readWords_levelOption (arguments : Arguments) (unknown : List String) (text : List Char)
    (rest : List Word) : readWords arguments unknown (levelOption text :: rest) =
      readWords (arguments.withLevel (some (.ofChars text))) unknown rest := by
  rw [levelOption, readWords, expand_levelOption]
  rfl

theorem noValue_levelOption (text : List Char) (value : List Char) : levelOption text ≠ .plain value :=
  Word.noConfusion

theorem readWords_plain (arguments : Arguments) (unknown : List String) (words : List (List Char)) :
    readWords arguments unknown (words.map .plain) =
      .read arguments (unknown ++ words.map String.ofList) := by
  induction words generalizing unknown with
  | nil => simp [readWords]
  | cons word rest ih => simp [readWords, ih]

/-- Words are read up to one that is no value, and then from there. -/
theorem readWords_append {word : Word} (noValue : ∀ value, word ≠ .plain value) (arguments : Arguments)
    (unknown : List String) (front rest : List Word) :
    readWords arguments unknown (front ++ word :: rest) =
      match readWords arguments unknown front with
      | .read arguments unknown => readWords arguments unknown (word :: rest)
      | ended => ended := by
  -- Cases 2 to 4 leave a word over, 5 fails, 6, 8 and 10 ask for help, 7, 9 and 11 take an option.
  fun_induction readWords arguments unknown front with
  | case1 => rfl
  | case2 | case3 | case4 =>
    rw [List.cons_append, readWords]
    assumption
  | case5 _ _ _ _ _ _ _ failed => simp only [List.cons_append, readWords, failed]
  | case6 _ _ _ _ _ _ _ expanded help | case8 _ _ _ _ _ _ _ _ _ expanded help
  | case10 _ _ _ _ _ _ _ expanded _ _ help =>
    simp only [List.cons_append, readWords, expanded, help, if_true]
  | case7 _ _ _ _ _ _ _ expanded noHelp ih | case9 _ _ _ _ _ _ _ _ _ expanded noHelp ih
  | case11 _ _ _ _ _ _ _ expanded _ _ noHelp ih =>
    simp only [List.cons_append, readWords, expanded, noHelp]
    exact ih
  | case12 _ _ _ _ _ tail _ _ expanded noPlain =>
    -- An option that awaits a value gets none from the word either.
    match tail with
    | [] =>
      cases word with
      | plain value => exact absurd rfl (noValue value)
      | _ => simp only [List.cons_append, List.nil_append, readWords, expanded]
    | .plain value :: tail => exact (noPlain value tail rfl).elim
    | .separator :: _ | .option .. :: _ | .unknownOption _ :: _ =>
      simp only [List.cons_append, readWords, expanded]

/-! ## Words for arguments that look alike -/

/-- What a view shows of arguments after a flag is taken, it has shown of them before. -/
def Tracks {α : Type} (view : Arguments → α) : Prop :=
  ∀ ⦃arguments others⦄, view arguments = view others →
    ∀ flag value, view (arguments.take flag value) = view (others.take flag value)

/-- Readings that end in the same way, with arguments that look the same if any are read. -/
inductive Reading.Alike {α : Type} (view : Arguments → α) : Reading → Reading → Prop where
  | help : Alike view .help .help
  | failed (e : ArgumentError) : Alike view (.failed e) (.failed e)
  | read {arguments others : Arguments} (unknown : List String) : view arguments = view others →
      Alike view (.read arguments unknown) (.read others unknown)

section Alike

variable {α : Type} {view : Arguments → α} (tracks : Tracks view)
include tracks

theorem takeFlags_alike {arguments others : Arguments} (seen : view arguments = view others)
    (flags : List Flag) : view (takeFlags arguments flags) = view (takeFlags others flags) := by
  induction flags generalizing arguments others with
  | nil => exact seen
  | cons flag rest ih =>
    rw [takeFlags, takeFlags, List.foldl_cons, List.foldl_cons]
    exact ih (tracks seen flag .nothing)

/-- Words are read alike for arguments that look alike. -/
theorem readWords_alike {arguments others : Arguments} (seen : view arguments = view others)
    (unknown : List String) (words : List Word) :
    (readWords arguments unknown words).Alike view (readWords others unknown words) := by
  -- How a word is taken hangs on the words alone, so both readings go through the same cases.
  fun_induction readWords arguments unknown words generalizing others with
  | case1 arguments unknown => exact .read unknown seen
  | case2 _ _ _ _ ih | case3 _ _ _ ih | case4 _ _ _ _ ih => exact ih seen
  | case5 _ _ _ _ _ _ e failed =>
    simp only [readWords, failed]
    exact .failed e
  | case6 _ _ _ _ _ _ _ expanded help | case8 _ _ _ _ _ _ _ _ _ expanded help
  | case10 _ _ _ _ _ _ _ expanded _ _ help =>
    simp only [readWords, expanded, help, if_true]
    exact .help
  | case7 _ _ _ _ _ _ flags expanded noHelp ih =>
    simp only [readWords, expanded, noHelp]
    exact ih (takeFlags_alike tracks seen flags)
  | case9 _ _ _ _ _ _ flags last value expanded noHelp ih
  | case11 _ _ _ _ _ flags last expanded value _ noHelp ih =>
    simp only [readWords, expanded, noHelp]
    exact ih (tracks (takeFlags_alike tracks seen flags) last (.ofChars value))
  | case12 _ _ _ _ _ tail _ last expanded noPlain =>
    rw [readWords, expanded]
    dsimp only
    split
    · next value rest => exact (noPlain value rest rfl).elim
    · exact .failed _

end Alike

/-! ## Lines that differ in the level -/

/-- Readings that end in the same way, with the same arguments if any are read, the level aside. -/
inductive Reading.LevelApart : Reading → Reading → Prop where
  | help : LevelApart .help .help
  | failed (e other : ArgumentError) : LevelApart (.failed e) (.failed other)
  | read (arguments : Arguments) (level : Option Given) {unknown others : List String} :
      unknown.isEmpty = others.isEmpty →
      LevelApart (.read arguments unknown) (.read (arguments.withLevel level) others)

/-- No word is read otherwise for the level that was read before. -/
theorem readWords_withLevel (arguments : Arguments) (level : Option Given) (unknown : List String)
    (words : List Word) :
    (readWords arguments unknown words).LevelApart
      (readWords (arguments.withLevel level) unknown words) := by
  have tracks : Tracks fun arguments => arguments.withLevel none := by
    rintro ⟨⟩ ⟨⟩ ⟨⟩ flag value
    cases flag <;> rfl
  have seen : arguments.withLevel none = (arguments.withLevel level).withLevel none := rfl
  have alike := readWords_alike tracks seen unknown words
  generalize readWords arguments unknown words = reading at alike ⊢
  generalize readWords (arguments.withLevel level) unknown words = other at alike ⊢
  cases alike with
  | help => exact .help
  | failed e => exact .failed e e
  | @read found again unknown seen =>
    have same : again = found.withLevel again.level :=
      congrArg (fun arguments => arguments.withLevel again.level) seen.symm
    rw [same]
    exact .read found again.level rfl

/-- What is left over fails a reading, and so does an expression that is not given. -/
def Reading.completed : Reading → Reading
  | .read arguments unknown =>
    if arguments.expression.isNone then .failed .expressionMissing
    else if !unknown.isEmpty then .failed (.unknown unknown)
    else .read arguments []
  | ended => ended

theorem readArguments_eq (words : List String) :
    readArguments words =
      match sortWords (words.map String.toList) with
      | .error e => .failed e
      | .ok sorted => (readWords .empty [] sorted).completed := by
  rw [readArguments]
  cases sortWords (words.map String.toList) with
  | error e => rfl
  | ok sorted =>
    dsimp only
    cases readWords .empty [] sorted <;> rfl

theorem Reading.completed_eq_read_iff {reading : Reading} {arguments : Arguments} :
    reading.completed = .read arguments [] ↔
      reading = .read arguments [] ∧ arguments.expression.isSome = true := by
  cases reading with
  | help => simp [completed]
  | failed e => simp [completed]
  | read found unknown =>
    rw [completed]
    cases given : found.expression with
    | none =>
      refine iff_of_false (by simp) ?_
      rintro ⟨⟨⟩, present⟩
      simp [given] at present
    | some expression =>
      cases unknown with
      | cons word rest => simp
      | nil =>
        constructor
        · rintro ⟨⟩
          exact ⟨rfl, by rw [given]; rfl⟩
        · rintro ⟨⟨⟩, -⟩
          rfl

theorem Reading.eq_nil_of_completed {reading : Reading} {arguments : Arguments} {unknown : List String}
    (completed : reading.completed = .read arguments unknown) : unknown = [] := by
  cases reading with
  | help => contradiction
  | failed e => contradiction
  | read found left =>
    rw [Reading.completed] at completed
    split at completed
    · contradiction
    · split at completed
      · contradiction
      · exact (Reading.read.inj completed).2.symm

theorem eq_nil_of_read {words : List String} {arguments : Arguments} {unknown : List String}
    (read : readArguments words = .read arguments unknown) : unknown = [] := by
  rw [readArguments_eq] at read
  split at read
  · contradiction
  · exact Reading.eq_nil_of_completed read

theorem readArguments_eq_read_iff {words : List String} {arguments : Arguments} :
    readArguments words = .read arguments [] ↔
      ∃ sorted, sortWords (words.map String.toList) = .ok sorted ∧
        readWords .empty [] sorted = .read arguments [] ∧ arguments.expression.isSome = true := by
  rw [readArguments_eq]
  cases sortWords (words.map String.toList) with
  | error e => simp
  | ok sorted => simp [Reading.completed_eq_read_iff]

theorem Reading.LevelApart.completed {reading other : Reading} (apart : reading.LevelApart other) :
    reading.completed.LevelApart other.completed := by
  cases apart with
  | help => exact .help
  | failed e other => exact .failed e other
  | @read arguments level unknown others alike =>
    rw [Reading.completed, Reading.completed, Arguments.withLevel_expression, alike]
    cases arguments.expression.isNone with
    | true => exact .failed _ _
    | false =>
      cases others.isEmpty with
      | true => exact .read arguments level rfl
      | false => exact .failed _ _

theorem readArguments_append {front : List String} (noSeparator : ['-', '-'] ∉ front.map String.toList)
    (rest : List String) :
    readArguments (front ++ rest) =
      match sortWords (front.map String.toList), sortWords (rest.map String.toList) with
      | .error e, _ => .failed e
      | .ok _, .error e => .failed e
      | .ok first, .ok others => (readWords .empty [] (first ++ others)).completed := by
  rw [readArguments_eq, List.map_append, sortWords_append noSeparator]
  cases sortWords (front.map String.toList) with
  | error e => rfl
  | ok first => cases sortWords (rest.map String.toList) <;> rfl

theorem exists_first_separator {words : List String} (member : ['-', '-'] ∈ words.map String.toList) :
    ∃ front rest, words = front ++ "--" :: rest ∧ ['-', '-'] ∉ front.map String.toList := by
  have separator (word : String) : word.toList = "--".toList ↔ word = "--" := String.toList_inj
  obtain ⟨word, listed, same⟩ := List.mem_map.mp member
  obtain rfl := (separator word).mp same
  obtain ⟨front, rest, split, first⟩ := List.eq_append_cons_of_mem listed
  refine ⟨front, rest, split, fun early => ?_⟩
  obtain ⟨word, before, same⟩ := List.mem_map.mp early
  exact first ((separator word).mp same ▸ before)

/-- With a separator among the words no arguments are read, whatever stands behind it. -/
theorem readArguments_separator {front : List String} (noSeparator : ['-', '-'] ∉ front.map String.toList) :
    (∀ rest, readArguments (front ++ "--" :: rest) = .help) ∨
      ∀ rest, ∃ e, readArguments (front ++ "--" :: rest) = .failed e := by
  have sorted (rest : List String) : sortWords (("--" :: rest).map String.toList) =
      .ok (.separator :: (rest.map String.toList).map .plain) := sortWords_separator _
  simp only [readArguments_append noSeparator, sorted]
  cases sortWords (front.map String.toList) with
  | error e => exact .inr fun _ => ⟨e, rfl⟩
  | ok first =>
    have noValue (value : List Char) : Word.separator ≠ .plain value := Word.noConfusion
    simp only [readWords_append noValue]
    cases readWords .empty [] first with
    | help => exact .inl fun _ => rfl
    | failed e => exact .inr fun _ => ⟨e, rfl⟩
    | read arguments unknown =>
      refine .inr fun rest => ?_
      simp only [readWords, readWords_plain, Reading.completed]
      cases arguments.expression.isNone with
      | true => exact ⟨_, rfl⟩
      | false => exact ⟨.unknown (unknown ++ ["--"] ++ (rest.map String.toList).map String.ofList), by simp⟩

theorem no_separator_of_read {words : List String} {arguments : Arguments} {unknown : List String}
    (read : readArguments words = .read arguments unknown) : ['-', '-'] ∉ words.map String.toList := by
  intro member
  obtain ⟨front, rest, rfl, noSeparator⟩ := exists_first_separator member
  obtain help | failed := readArguments_separator noSeparator
  · rw [help rest] at read
    contradiction
  · obtain ⟨e, failed⟩ := failed rest
    rw [failed] at read
    contradiction

/-- Lines with two texts for the level at one place are read alike, the level aside. -/
theorem readArguments_apart (level other : String) (before after : List String) :
    (readArguments (before ++ levelWord level :: after)).LevelApart
      (readArguments (before ++ levelWord other :: after)) := by
  by_cases separator : ['-', '-'] ∈ before.map String.toList
  · -- Behind a separator the level is a word like any other, and no line with one is read.
    obtain ⟨front, rest, rfl, noSeparator⟩ := exists_first_separator separator
    simp only [List.append_assoc, List.cons_append]
    obtain help | failed := readArguments_separator noSeparator
    · rw [help, help]
      exact .help
    · obtain ⟨e, here⟩ := failed (rest ++ levelWord level :: after)
      obtain ⟨f, there⟩ := failed (rest ++ levelWord other :: after)
      rw [here, there]
      exact .failed e f
  · simp only [readArguments_append separator, List.map_cons, sortWords_levelWord]
    cases sortWords (before.map String.toList) with
    | error e => exact .failed e e
    | ok first =>
      cases sortWords (after.map String.toList) with
      | error e => exact .failed e e
      | ok rest =>
        simp only [Except.map, readWords_append (noValue_levelOption _)]
        cases readWords .empty [] first with
        | help => exact .help
        | failed e => exact .failed e e
        | read arguments unknown =>
          simp only [readWords_levelOption]
          exact (readWords_withLevel (arguments.withLevel (some (.ofChars level.toList)))
            (some (.ofChars other.toList)) unknown rest).completed

/-- A level given after words that are read takes the place of theirs. -/
theorem readArguments_concat {words : List String} {arguments : Arguments}
    (read : readArguments words = .read arguments []) (text : String) :
    readArguments (words ++ [levelWord text]) =
      .read (arguments.withLevel (some (.ofChars text.toList))) [] := by
  obtain ⟨sorted, first, taken, given⟩ := readArguments_eq_read_iff.mp read
  refine readArguments_eq_read_iff.mpr ⟨sorted ++ [levelOption text.toList], ?_, ?_, given⟩
  · rw [List.map_append, sortWords_append (no_separator_of_read read), first, List.map_singleton,
      sortWords_levelWord]
    rfl
  · rw [readWords_append (noValue_levelOption _), taken]
    exact readWords_levelOption arguments [] text.toList []

end TimeGate.Command
