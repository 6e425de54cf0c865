import Mathlib.Logic.Relation
import TimeGate.Proofs.Command.Ending
import TimeGate.Proofs.Command.Words
import TimeGate.Proofs.Traversal

/-! Command lines that ask for a report and ones that do not. The option for it can be taken out of the words,
where it is a word or the first letter of one. The same arguments are then read, the report aside, and a run
with them ends in the same way. -/

set_option autoImplicit false

namespace TimeGate.Command

open TimeGate.Traversal

/-- The words that ask for a report and say nothing else. -/
def verboseWords : List String :=
  ["-v", "--v", "--ve", "--ver", "--verb", "--verbo", "--verbos", "--verbose"]

/-- The words with one demand for a report taken out. The letter for it stands in front of the letter of
another option, which may have more joined to it. -/
inductive Erases : List String → List String → Prop where
  | word (before after : List String) {word : String} : word ∈ verboseWords →
      Erases (before ++ word :: after) (before ++ after)
  | letter (before after : List String) {letter : Char} {joined : List Char} {flag : Flag} :
      Flag.ofSpelling? ['-', letter] = some flag → joined.head? ≠ some '=' →
      Erases (before ++ .ofList ('-' :: 'v' :: letter :: joined) :: after)
        (before ++ .ofList ('-' :: letter :: joined) :: after)

/-! ## Sorting -/

def wordVerbose (word : String) : Word :=
  .option (if word = "-v" then "-v".toList else "--verbose".toList) .verbose none

theorem sortWord_verbose {word : String} (member : word ∈ verboseWords) :
    (sortWord word.toList).toOption = some (wordVerbose word) := by
  revert word
  decide +kernel

/-- The letters of options. -/
theorem ofSpelling?_short {letter : Char} {flag : Flag} (spelled : Flag.ofSpelling? ['-', letter] = some flag) :
    (letter, flag) ∈ [('h', Flag.help), ('e', Flag.expression), ('t', Flag.timezone), ('c', Flag.settings),
      ('v', Flag.verbose)] := by
  have short : ∀ entry ∈ Flag.bySpelling, entry.1.length = 2 → (entry.1.drop 1, entry.2) ∈
      [(['h'], Flag.help), (['e'], Flag.expression), (['t'], Flag.timezone), (['c'], Flag.settings),
        (['v'], Flag.verbose)] := by decide
  obtain ⟨⟨spelling, found⟩, listed, same⟩ := Option.map_eq_some_iff.mp spelled
  obtain rfl : found = flag := same
  obtain rfl : spelling = ['-', letter] := by simpa using List.find?_some listed
  simpa using short _ (List.mem_of_find?_eq_some listed) rfl

/-- The letter of an option makes a word the option, with the rest of the word joined to it. -/
theorem sortWord_letter {letter c : Char} {joined : List Char} {flag : Flag}
    (spelled : Flag.ofSpelling? ['-', letter] = some flag) (noEquals : c ≠ '=') :
    sortWord ('-' :: letter :: c :: joined) = .ok (.option ['-', letter] flag (some (c :: joined))) := by
  have front : letter ≠ '=' → beforeEquals ('-' :: letter :: c :: joined) =
      '-' :: letter :: c :: beforeEquals joined := by
    intro other
    simp [beforeEquals, other, noEquals]
  -- No other spelling starts with the same letter, so the word can mean nothing else.
  have listed := ofSpelling?_short spelled
  simp only [List.mem_cons, Prod.mk.injEq, List.not_mem_nil, or_false] at listed
  rcases listed with ⟨rfl, rfl⟩ | ⟨rfl, rfl⟩ | ⟨rfl, rfl⟩ | ⟨rfl, rfl⟩ | ⟨rfl, rfl⟩ <;>
  · have whole := front (by decide)
    simp only [sortWord, sortDashed, whole]
    cases afterEquals? _ <;> rfl

/-! ## Reading -/

def Arguments.withVerbose (arguments : Arguments) (verbose : Bool) : Arguments :=
  { arguments with verbose := verbose }

theorem tracks_withVerbose : Tracks fun arguments => arguments.withVerbose false := by
  rintro ⟨⟩ ⟨⟩ ⟨⟩ flag value
  cases flag <;> rfl

/-- A demand for a report that was taken before has no part in what is read but the report. -/
theorem exists_read_of_take {arguments found : Arguments} {unknown left : List String} {words : List Word}
    (read : readWords (arguments.take .verbose .nothing) unknown words = .read found left) :
    ∃ verbose, readWords arguments unknown words = .read (found.withVerbose verbose) left := by
  have seen : (arguments.take .verbose .nothing).withVerbose false = arguments.withVerbose false := rfl
  have alike := readWords_alike tracks_withVerbose seen unknown words
  rw [read] at alike
  generalize readWords arguments unknown words = other at alike ⊢
  cases alike with
  | @read _ again _ seen =>
    have same : again = found.withVerbose again.verbose :=
      congrArg (fun found => found.withVerbose again.verbose) seen.symm
    exact ⟨again.verbose, congrArg (Reading.read · left) same⟩

/-- Words that are read to the end can be followed by any others, values too: none of them awaits one. -/
theorem readWords_append_of_read {arguments found : Arguments} {unknown left : List String} {front : List Word}
    (read : readWords arguments unknown front = .read found left) (rest : List Word) :
    readWords arguments unknown (front ++ rest) = readWords found left rest := by
  -- In order: the end of the words, a word left over, an end that is no reading, an option that is taken.
  fun_induction readWords arguments unknown front with
  | case1 =>
    cases read
    rfl
  | case2 _ _ _ _ ih | case3 _ _ _ ih | case4 _ _ _ _ ih =>
    rw [List.cons_append, readWords]
    exact ih read
  | case5 | case6 | case8 | case10 | case12 => contradiction
  | case7 _ _ _ _ _ _ _ expanded noHelp ih | case9 _ _ _ _ _ _ _ _ _ expanded noHelp ih
  | case11 _ _ _ _ _ _ _ expanded _ _ noHelp ih =>
    simp only [List.cons_append, readWords, expanded, noHelp]
    exact ih read

theorem readWords_wordVerbose (word : String) (arguments : Arguments) (unknown : List String)
    (rest : List Word) : readWords arguments unknown (wordVerbose word :: rest) =
      readWords (arguments.take .verbose .nothing) unknown rest := by
  rw [wordVerbose, readWords]
  rfl

/-- What the letter of an option is with more joined to it, or alone. -/
def wordLetter (letter : Char) (flag : Flag) (joined : List Char) : Word :=
  .option ['-', letter] flag (if joined.isEmpty then none else some joined)

theorem sortWord_wordLetter {letter : Char} {joined : List Char} {flag : Flag}
    (spelled : Flag.ofSpelling? ['-', letter] = some flag) (noEquals : joined.head? ≠ some '=') :
    sortWord ('-' :: letter :: joined) = .ok (wordLetter letter flag joined) := by
  cases joined with
  | nil =>
    rw [sortWord, sortDashed, spelled]
    rfl
  | cons c joined => exact sortWord_letter spelled (by simpa using noEquals)

/-- The letter for a report in front of another one takes the report, and leaves the rest as it was. -/
theorem expand_verbose {letter : Char} {joined : List Char} {flag : Flag}
    (spelled : Flag.ofSpelling? ['-', letter] = some flag) :
    expand "-v".toList .verbose (some (letter :: joined)) =
      (expand ['-', letter] flag (if joined.isEmpty then none else some joined)).map
        fun found => (.verbose :: found.1, found.2) := by
  have whole : expand "-v".toList .verbose (some (letter :: joined)) =
      cluster .verbose true (letter :: joined) := rfl
  have short : (letter != '-') = true := by
    rw [bne_iff_ne]
    rintro rfl
    exact nomatch spelled
  cases joined with
  | nil =>
    rw [whole, cluster, spelled]
    cases flag <;> rfl
  | cons c joined =>
    have rest : expand ['-', letter] flag (some (c :: joined)) = cluster flag true (c :: joined) :=
      congrArg (cluster flag · (c :: joined)) short
    rw [whole, cluster, spelled]
    exact congrArg (Except.map _) rest.symm

/-- A word that starts with the letter for a report is read as if the demand came before it. -/
theorem readWords_letter {letter : Char} {joined : List Char} {flag : Flag}
    (spelled : Flag.ofSpelling? ['-', letter] = some flag) (arguments : Arguments) (unknown : List String)
    (rest : List Word) :
    readWords arguments unknown (.option "-v".toList .verbose (some (letter :: joined)) :: rest) =
      readWords (arguments.take .verbose .nothing) unknown (wordLetter letter flag joined :: rest) := by
  rw [wordLetter, readWords, readWords, expand_verbose spelled]
  cases expand ['-', letter] flag (if joined.isEmpty then none else some joined) with
  | error e => rfl
  | ok found =>
    obtain ⟨flags, ending⟩ := found
    have help : (Flag.verbose :: flags).contains .help = flags.contains .help := rfl
    cases ending <;> simp only [Except.map, help] <;> rfl

/-! ## Erasing -/

/-- A word demands a report, and other words say the rest of it. -/
structure Demands (word : String) (others : List String) (sorted : Word) (left : List Word) : Prop where
  sorts : sortWord word.toList = .ok sorted
  isOption : ∀ value, sorted ≠ .plain value
  sortsOthers : ∀ rest, sortWords (others.map String.toList ++ rest) =
    (sortWords rest).map fun words => left ++ words
  reads : ∀ arguments unknown rest, readWords arguments unknown (sorted :: rest) =
    readWords (arguments.take .verbose .nothing) unknown (left ++ rest)

theorem demands_word {word : String} (member : word ∈ verboseWords) :
    Demands word [] (wordVerbose word) [] where
  sorts := eq_ok_of_toOption (sortWord_verbose member)
  isOption _ := Word.noConfusion
  sortsOthers rest := by
    rw [List.map_nil, List.nil_append]
    cases sortWords rest <;> rfl
  reads := readWords_wordVerbose word

theorem demands_letter {letter : Char} {joined : List Char} {flag : Flag}
    (spelled : Flag.ofSpelling? ['-', letter] = some flag) (noEquals : joined.head? ≠ some '=') :
    Demands (.ofList ('-' :: 'v' :: letter :: joined)) [.ofList ('-' :: letter :: joined)]
      (.option "-v".toList .verbose (some (letter :: joined))) [wordLetter letter flag joined] where
  sorts := by
    rw [String.toList_ofList]
    refine sortWord_letter rfl ?_
    rintro rfl
    exact nomatch spelled
  isOption _ := Word.noConfusion
  sortsOthers rest := by
    have dashed : '-' :: letter :: joined ≠ ['-', '-'] := by
      rintro ⟨⟩
      exact nomatch spelled
    rw [List.map_singleton, String.toList_ofList, List.singleton_append, sortWords_cons dashed,
      sortWord_wordLetter spelled noEquals]
    rfl
  reads := readWords_letter spelled

theorem Demands.exists_read {word : String} {others : List String} {sorted : Word} {left : List Word}
    (demands : Demands word others sorted left) {before after : List String} {arguments : Arguments}
    (read : readArguments (before ++ word :: after) = .read arguments []) :
    ∃ verbose, readArguments (before ++ (others ++ after)) = .read (arguments.withVerbose verbose) [] := by
  -- What stands before the word is sorted and read on its own, and so is what stands behind it.
  have noSeparator := no_separator_of_read read
  rw [List.map_append, List.map_cons, List.mem_append, List.mem_cons, not_or, not_or] at noSeparator
  obtain ⟨early, other, -⟩ := noSeparator
  obtain ⟨words, sorts, takes, given⟩ := readArguments_eq_read_iff.mp read
  rw [List.map_append, sortWords_append early, List.map_cons, sortWords_cons (Ne.symm other),
    demands.sorts] at sorts
  obtain ⟨first, sortsFirst, behind⟩ := bind_eq_ok_iff.mp sorts
  obtain ⟨tail, sortsTail, rfl⟩ := map_eq_ok_iff.mp behind
  obtain ⟨rest, sortsRest, rfl⟩ := map_eq_ok_iff.mp sortsTail
  rw [readWords_append demands.isOption] at takes
  split at takes
  case h_2 ended =>
    rw [takes] at ended
    exact absurd rfl (ended _ _)
  next found unknown readFirst =>
    rw [demands.reads] at takes
    obtain ⟨verbose, readLeft⟩ := exists_read_of_take takes
    refine ⟨verbose, readArguments_eq_read_iff.mpr ⟨first ++ (left ++ rest), ?_, ?_, given⟩⟩
    · rw [List.map_append, List.map_append, sortWords_append early, sortsFirst, demands.sortsOthers, sortsRest]
      rfl
    · rw [readWords_append_of_read readFirst, readLeft]

theorem Erases.exists_read {words others : List String} (erases : Erases words others) {arguments : Arguments}
    (read : readArguments words = .read arguments []) :
    ∃ verbose, readArguments others = .read (arguments.withVerbose verbose) [] := by
  cases erases with
  | word before after member => exact (demands_word member).exists_read read
  | letter before after spelled noEquals => exact (demands_letter spelled noEquals).exists_read read

/-- However many demands are taken out, the same arguments are read, the report aside. -/
theorem exists_read_of_erases {words others : List String} (erases : Relation.ReflTransGen Erases words others)
    {arguments : Arguments} (read : readArguments words = .read arguments []) :
    ∃ verbose, readArguments others = .read (arguments.withVerbose verbose) [] := by
  -- Whether a report is asked for is lost at every step, and nothing else.
  induction erases with
  | refl => exact ⟨arguments.verbose, read⟩
  | tail _ erased ih =>
    obtain ⟨_, readSome⟩ := ih
    obtain ⟨verbose, readOthers⟩ := erased.exists_read readSome
    exact ⟨verbose, readOthers⟩

/-! ## Runs -/

theorem judge_withVerbose (provider : Provider) (plan : Plan) (verbose : Bool) :
    (judge provider { plan with verbose := verbose }).ending = (judge provider plan).ending := by
  simp only [judge]
  split
  · rfl
  · rfl
  · rfl
  · split <;> rfl

theorem runWith_withVerbose (setting : Setting) (arguments : Arguments) (settings : Settings)
    (environment : Environment) (early : String) (verbose : Bool) :
    (runWith setting (arguments.withVerbose verbose) settings environment early).ending =
      (runWith setting arguments settings environment early).ending := by
  have level : chosenLevel (arguments.withVerbose verbose) settings = chosenLevel arguments settings := rfl
  have instant : (arguments.withVerbose verbose).instant = arguments.instant := rfl
  simp only [runWith, level, instant]
  cases levelRank (chosenLevel arguments settings) with
  | error e => rfl
  | ok least =>
    cases readOccasion setting.now arguments.instant with
    | absent => rfl
    | unreadable text => rfl
    | read occasion =>
      have same : (judge setting.provider (planOf (arguments.withVerbose verbose) settings occasion)).ending =
          (judge setting.provider (planOf arguments settings occasion)).ending :=
        judge_withVerbose setting.provider (planOf arguments settings occasion) verbose
      simp only [← planOf.eq_def, same]
      cases (judge setting.provider (planOf arguments settings occasion)).ending <;> rfl

/-- The report has no part in how a run ends. -/
theorem runArguments_withVerbose (setting : Setting) (arguments : Arguments) (verbose : Bool) :
    (runArguments setting (arguments.withVerbose verbose)).ending = (runArguments setting arguments).ending := by
  have settingsPath : (arguments.withVerbose verbose).settings = arguments.settings := rfl
  have environmentPath : (arguments.withVerbose verbose).environment = arguments.environment := rfl
  simp only [runArguments, settingsPath, environmentPath]
  split
  · split
    · split <;> rfl
    · exact runWith_withVerbose _ _ _ _ _ verbose
  · rfl

end TimeGate.Command
