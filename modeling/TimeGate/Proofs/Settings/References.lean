import TimeGate.Notice
import TimeGate.Proofs.Text.CodePoints
import TimeGate.Settings.Interpolation

/-! References and what is put in their place, said without a reader. A text is gone through once, from left
to right; a value is gone through text by text and keeps its shape. The reader of references does exactly
this, and tells of every place where a reference without a variable stands. -/

set_option autoImplicit false

namespace TimeGate

open TimeGate.Text (CodePoints isWordCharacter)

namespace Interpolation

/-! ## References -/

/-- A name that a reference can have. -/
structure IsName (name : List Char) : Prop where
  inhabited : name ≠ []
  word : ∀ c ∈ name, isWordCharacter c = true

/-- The text of the reference to a name. -/
def reference (name : List Char) : CodePoints :=
  CodePoints.ofChars ('$' :: '\x7b' :: (name ++ ['\x7d']))

/-- The text starts with the reference to a name, and this is what stands behind it. -/
structure Refers (text : CodePoints) (name : List Char) (behind : CodePoints) : Prop where
  isName : IsName name
  splits : text = reference name ++ behind

section References

variable {text rest behind : CodePoints} {name : List Char} {point : Nat}

theorem mark_no_word : isWordCharacter '\ufffd' = false := by decide +kernel

theorem dollar_no_word : isWordCharacter '$' = false := by decide +kernel

theorem brace_no_word : isWordCharacter '\x7d' = false := by decide +kernel

theorem IsName.not_mem {c : Char} (isName : IsName name) (other : isWordCharacter c = false) :
    c ∉ name := by
  intro member
  rw [isName.word c member] at other
  contradiction

theorem reference_append (name : List Char) (behind : CodePoints) :
    reference name ++ behind = 0x24 :: 0x7B :: (CodePoints.ofChars (name ++ ['\x7d']) ++ behind) := rfl

/-- What is found at the start of a text is the name of the reference that stands there. -/
theorem referenceAt?_eq_some_iff : referenceAt? text = some name ↔ ∃ behind, Refers text name behind := by
  constructor
  · intro found
    unfold referenceAt? at found
    split at found
    · next rest =>
      dsimp only at found
      split at found
      · next present =>
        rw [Bool.and_eq_true, Bool.not_eq_true', List.isEmpty_eq_false_iff, decide_eq_true_eq] at present
        obtain ⟨inhabited, closed⟩ := present
        obtain ⟨tail, dropped⟩ := List.head?_eq_some_iff.mp closed
        have whole : (CodePoints.marked rest).takeWhile isWordCharacter ++
            (CodePoints.marked rest).dropWhile isWordCharacter = CodePoints.marked rest :=
          List.takeWhile_append_dropWhile
        rw [Option.some.inj found] at inhabited whole
        have isName : IsName name :=
          ⟨inhabited, List.all_eq_true.mp (Option.some.inj found ▸ List.all_takeWhile)⟩
        rw [dropped, ← List.singleton_append, ← List.append_assoc] at whole
        -- Word characters and the brace are never the mark, so what was matched stands for itself.
        have unmarked : '\ufffd' ∉ name ++ ['\x7d'] := by
          rw [List.mem_append, not_or]
          exact ⟨isName.not_mem mark_no_word, by decide⟩
        obtain ⟨behind, rfl⟩ := CodePoints.exists_of_marked unmarked whole.symm
        exact ⟨behind, isName, rfl⟩
      · contradiction
    · contradiction
  · rintro ⟨behind, isName, rfl⟩
    have marked : CodePoints.marked (CodePoints.ofChars (name ++ ['\x7d']) ++ behind) =
        name ++ '\x7d' :: CodePoints.marked behind := by
      rw [CodePoints.marked_ofChars_append, List.append_assoc, List.singleton_append]
    have closes : ¬ isWordCharacter '\x7d' = true := by simp [brace_no_word]
    simp only [reference_append, referenceAt?, marked, List.takeWhile_append_of_pos isName.word,
      List.dropWhile_append_of_pos isName.word, List.takeWhile_cons_of_neg closes,
      List.dropWhile_cons_of_neg closes, List.append_nil]
    simp [isName.inhabited]

theorem Refers.referenceAt?_eq (refers : Refers text name behind) : referenceAt? text = some name :=
  referenceAt?_eq_some_iff.mpr ⟨behind, refers⟩

theorem referenceAt?_eq_none (plain : ∀ name behind, ¬ Refers text name behind) :
    referenceAt? text = none := by
  rw [Option.eq_none_iff_forall_ne_some]
  intro name found
  obtain ⟨behind, refers⟩ := referenceAt?_eq_some_iff.mp found
  exact plain name behind refers

/-- A text is taken apart reference by reference, and code point by code point between them. -/
theorem induction_by_reference {motive : CodePoints → Prop} (done : motive [])
    (refers : ∀ text name behind, Refers text name behind → motive behind → motive text)
    (plain : ∀ point rest, (∀ name behind, ¬ Refers (point :: rest) name behind) → motive rest →
      motive (point :: rest)) (text : CodePoints) : motive text := by
  by_cases here : ∃ name behind, Refers text name behind
  · obtain ⟨name, behind, found⟩ := here
    have shorter : behind.length < text.length := by
      rw [found.splits, reference_append]
      simp
      omega
    exact refers text name behind found (induction_by_reference done refers plain behind)
  · simp only [not_exists] at here
    match text with
    | [] => exact done
    | point :: rest => exact plain point rest here (induction_by_reference done refers plain rest)
termination_by text.length

/-! ## Segments -/

theorem segmentsAfter_append (front rest : CodePoints) :
    segmentsAfter front.length (front ++ rest) = segments rest := by
  induction front with
  | nil => rfl
  | cons point front ih => exact ih

theorem Refers.segments_eq (refers : Refers text name behind) :
    segments text = .reference name :: segments behind := by
  have found := refers.referenceAt?_eq
  obtain ⟨isName, rfl⟩ := refers
  have skipped : name.length + 2 = (0x7B :: CodePoints.ofChars (name ++ ['\x7d'])).length := by
    simp [CodePoints.ofChars]
  rw [reference_append] at found ⊢
  rw [segments, segmentsAfter, found]
  dsimp only
  rw [skipped, ← List.cons_append, segmentsAfter_append]

theorem segments_cons_plain (plain : ∀ name behind, ¬ Refers (point :: rest) name behind) :
    segments (point :: rest) = .plain point :: segments rest := by
  rw [segments, segmentsAfter, referenceAt?_eq_none plain]
  rfl

end References

/-! ## Texts -/

/-- One pass over a text from left to right: the text with its references replaced, and the names without a
variable. What is put in is behind the pass and not read again. -/
inductive Replaces (environment : Environment) : CodePoints → CodePoints → List String → Prop where
  | done : Replaces environment [] [] []
  | set {text behind result : CodePoints} {name : List Char} {value : String} {unset : List String} :
      Refers text name behind → environment.get? (.ofList name) = some value →
      Replaces environment behind result unset →
      Replaces environment text (CodePoints.ofChars value.toList ++ result) unset
  | unset {text behind result : CodePoints} {name : List Char} {unset : List String} :
      Refers text name behind → environment.get? (.ofList name) = none →
      Replaces environment behind result unset →
      Replaces environment text (reference name ++ result) (.ofList name :: unset)
  | plain {point : Nat} {rest result : CodePoints} {unset : List String} :
      (∀ name behind, ¬ Refers (point :: rest) name behind) → Replaces environment rest result unset →
      Replaces environment (point :: rest) (point :: result) unset

section Texts

variable {environment : Environment} {text rest behind : CodePoints} {name : List Char} {point : Nat}

theorem Refers.resolvePoints_eq (refers : Refers text name behind) :
    resolvePoints environment text =
      (match environment.get? (.ofList name) with
        | some value => CodePoints.ofChars value.toList
        | none => reference name) ++ resolvePoints environment behind := by
  rw [resolvePoints, refers.segments_eq, List.flatMap_cons]
  rfl

theorem Refers.unsetInPoints_eq (refers : Refers text name behind) :
    unsetInPoints environment text =
      if environment.contains (.ofList name) then unsetInPoints environment behind
      else .ofList name :: unsetInPoints environment behind := by
  rw [unsetInPoints, refers.segments_eq, List.filterMap_cons]
  dsimp only
  cases environment.contains (.ofList name) <;> rfl

theorem resolvePoints_cons_plain (plain : ∀ name behind, ¬ Refers (point :: rest) name behind) :
    resolvePoints environment (point :: rest) = point :: resolvePoints environment rest := by
  rw [resolvePoints, segments_cons_plain plain, List.flatMap_cons]
  rfl

theorem unsetInPoints_cons_plain (plain : ∀ name behind, ¬ Refers (point :: rest) name behind) :
    unsetInPoints environment (point :: rest) = unsetInPoints environment rest := by
  rw [unsetInPoints, segments_cons_plain plain, List.filterMap_cons]
  rfl

/-- The pass is the one that the reader makes, and there is no other. -/
theorem replaces_iff {result : CodePoints} {unset : List String} :
    Replaces environment text result unset ↔
      resolvePoints environment text = result ∧ unsetInPoints environment text = unset := by
  constructor
  · intro replaces
    induction replaces with
    | done => exact ⟨rfl, rfl⟩
    | set refers found _ ih =>
      rw [refers.resolvePoints_eq, refers.unsetInPoints_eq, Environment.contains, found]
      exact ⟨congrArg _ ih.1, ih.2⟩
    | unset refers missing _ ih =>
      rw [refers.resolvePoints_eq, refers.unsetInPoints_eq, Environment.contains, missing]
      exact ⟨congrArg _ ih.1, congrArg (String.ofList _ :: ·) ih.2⟩
    | plain plain _ ih =>
      rw [resolvePoints_cons_plain plain, unsetInPoints_cons_plain plain]
      exact ⟨congrArg _ ih.1, ih.2⟩
  · rintro ⟨rfl, rfl⟩
    -- A reference is passed in one step, so points are no good to recurse on.
    induction text using induction_by_reference with
    | done => exact .done
    | refers text name behind refers ih =>
      rw [refers.resolvePoints_eq, refers.unsetInPoints_eq, Environment.contains]
      cases found : environment.get? (.ofList name) with
      | some value => exact .set refers found ih
      | none => exact .unset refers found ih
    | plain point rest plain ih =>
      rw [resolvePoints_cons_plain plain, unsetInPoints_cons_plain plain]
      exact .plain plain ih

/-! ## Places -/

/-- The names of the references in a text, one for each place where one stands. -/
def namesIn : CodePoints → List String
  | [] => []
  | point :: rest =>
    match referenceAt? (point :: rest) with
    | some name => .ofList name :: namesIn rest
    | none => namesIn rest

/-- A reference to the name stands somewhere in the text. -/
def Mentions (text : CodePoints) (name : List Char) : Prop :=
  IsName name ∧ ∃ before behind, text = before ++ reference name ++ behind

/-- References do not overlap: there is none that starts inside another. -/
theorem namesIn_append {front : List Char} (plain : '$' ∉ front) (rest : CodePoints) :
    namesIn (CodePoints.ofChars front ++ rest) = namesIn rest := by
  induction front with
  | nil => rfl
  | cons c front ih =>
    rw [List.mem_cons, not_or] at plain
    have none_here (name : List Char) (behind : CodePoints) :
        ¬ Refers (c.toNat :: (CodePoints.ofChars front ++ rest)) name behind := by
      rintro ⟨-, splits⟩
      rw [reference_append, List.cons.injEq] at splits
      exact plain.1 (Char.toNat_inj.mp splits.1).symm
    have step : namesIn (c.toNat :: (CodePoints.ofChars front ++ rest)) =
        namesIn (CodePoints.ofChars front ++ rest) := by
      rw [namesIn, referenceAt?_eq_none none_here]
    exact step.trans (ih plain.2)

theorem Refers.namesIn_eq (refers : Refers text name behind) :
    namesIn text = .ofList name :: namesIn behind := by
  have found := refers.referenceAt?_eq
  obtain ⟨isName, rfl⟩ := refers
  have inside : '$' ∉ '\x7b' :: (name ++ ['\x7d']) := by
    simpa using isName.not_mem dollar_no_word
  rw [reference_append] at found ⊢
  rw [namesIn, found]
  exact congrArg _ (namesIn_append inside behind)

theorem namesIn_cons_plain (plain : ∀ name behind, ¬ Refers (point :: rest) name behind) :
    namesIn (point :: rest) = namesIn rest := by
  rw [namesIn, referenceAt?_eq_none plain]

/-- Each place with a reference that has no variable is told of once, in order. -/
theorem unsetInPoints_eq_filter (environment : Environment) (text : CodePoints) :
    unsetInPoints environment text = (namesIn text).filter fun name => !environment.contains name := by
  induction text using induction_by_reference with
  | done => rfl
  | refers text name behind refers ih =>
    rw [refers.unsetInPoints_eq, refers.namesIn_eq, List.filter_cons, ih]
    cases environment.contains (.ofList name) <;> rfl
  | plain point rest plain ih => rw [unsetInPoints_cons_plain plain, namesIn_cons_plain plain, ih]

theorem resolvePoints_eq_self (unset : ∀ name, Mentions text name → environment.get? (.ofList name) = none) :
    resolvePoints environment text = text := by
  induction text using induction_by_reference with
  | done => rfl
  | refers text name behind refers ih =>
    obtain ⟨isName, splits⟩ := refers
    have missing : environment.get? (.ofList name) = none :=
      unset name ⟨isName, [], behind, by simpa using splits⟩
    have later : resolvePoints environment behind = behind := by
      refine ih fun other ⟨otherName, before, after, inside⟩ => unset other ⟨otherName, ?_⟩
      exact ⟨reference name ++ before, after, by rw [splits, inside]; simp⟩
    rw [Refers.resolvePoints_eq ⟨isName, splits⟩, missing, later, splits]
  | plain point rest plain ih =>
    rw [resolvePoints_cons_plain plain, ih]
    rintro name ⟨isName, before, after, inside⟩
    exact unset name ⟨isName, point :: before, after, by rw [inside]; simp⟩

end Texts

/-! ## Values -/

end Interpolation

/-- The code points of a scalar that is a text, of characters or not. -/
def Scalar.points? : Scalar → Option CodePoints
  | .text s => some (CodePoints.ofChars s.toList)
  | .foreign (.ragged points) => some points
  | _ => none

namespace Interpolation

mutual

/-- The texts in a value, in the order in which it is gone through. Keys are not among them. -/
def texts : Value → List CodePoints
  | .scalar leaf => leaf.points?.toList
  | .list items => textsOfItems items
  | .map entries => textsOfEntries entries

def textsOfItems : List Value → List CodePoints
  | [] => []
  | item :: rest => texts item ++ textsOfItems rest

def textsOfEntries : List (Scalar × Value) → List CodePoints
  | [] => []
  | (_, value) :: rest => texts value ++ textsOfEntries rest

end

mutual

/-- A value, the value of the same shape with the references in its texts replaced, and the names without a
variable. Keys, the order of entries and leaves that are no texts stay as they are. -/
inductive Resolves (environment : Environment) : Value → Value → List String → Prop where
  | text {s result : String} {unset : List String} :
      Replaces environment (CodePoints.ofChars s.toList) (CodePoints.ofChars result.toList) unset →
      Resolves environment (.scalar (.text s)) (.scalar (.text result)) unset
  | ragged {points result : CodePoints} {unset : List String} : Replaces environment points result unset →
      Resolves environment (.scalar (.foreign (.ragged points))) (.scalar (.foreign (.ragged result))) unset
  | leaf {leaf : Scalar} : leaf.points? = none → Resolves environment (.scalar leaf) (.scalar leaf) []
  | list {items others : List Value} {unset : List String} : ResolvesItems environment items others unset →
      Resolves environment (.list items) (.list others) unset
  | map {entries others : List (Scalar × Value)} {unset : List String} :
      ResolvesEntries environment entries others unset →
      Resolves environment (.map entries) (.map others) unset

inductive ResolvesItems (environment : Environment) : List Value → List Value → List String → Prop where
  | nil : ResolvesItems environment [] [] []
  | cons {item other : Value} {rest others : List Value} {unset later : List String} :
      Resolves environment item other unset → ResolvesItems environment rest others later →
      ResolvesItems environment (item :: rest) (other :: others) (unset ++ later)

inductive ResolvesEntries (environment : Environment) :
    List (Scalar × Value) → List (Scalar × Value) → List String → Prop where
  | nil : ResolvesEntries environment [] [] []
  | cons {key : Scalar} {value other : Value} {rest others : List (Scalar × Value)}
      {unset later : List String} :
      Resolves environment value other unset → ResolvesEntries environment rest others later →
      ResolvesEntries environment ((key, value) :: rest) ((key, other) :: others) (unset ++ later)

end

section Values

variable {environment : Environment}

/-- A text of characters stays one. -/
theorem exists_resolvePoints_ofChars (environment : Environment) (text : List Char) :
    ∃ result, resolvePoints environment (CodePoints.ofChars text) = CodePoints.ofChars result := by
  -- What is behind a reference has to be seen to come from characters again, hence the length below.
  generalize same : CodePoints.ofChars text = points
  induction points using induction_by_reference generalizing text with
  | done => exact ⟨[], rfl⟩
  | refers points name behind refers ih =>
    have tail : CodePoints.ofChars (text.drop (name.length + 3)) = behind := by
      have length : (reference name).length = name.length + 3 := by simp [reference, CodePoints.ofChars]
      have drops : CodePoints.ofChars (text.drop (name.length + 3)) =
          (CodePoints.ofChars text).drop (name.length + 3) := List.map_drop
      rw [drops, same, refers.splits, ← length, List.drop_left]
    obtain ⟨result, later⟩ := ih _ tail
    rw [refers.resolvePoints_eq, later]
    cases environment.get? (.ofList name) with
    | none => exact ⟨_, (CodePoints.ofChars_append _ result).symm⟩
    | some value => exact ⟨_, (CodePoints.ofChars_append _ result).symm⟩
  | plain point rest plain ih =>
    cases text with
    | nil => contradiction
    | cons c text =>
      obtain ⟨rfl, tail⟩ := List.cons.inj same
      obtain ⟨result, later⟩ := ih text tail
      exact ⟨c :: result, by rw [resolvePoints_cons_plain plain, later]; rfl⟩

theorem ofChars_resolveText (environment : Environment) (text : String) :
    CodePoints.ofChars (resolveText environment text).toList =
      resolvePoints environment (CodePoints.ofChars text.toList) := by
  obtain ⟨result, same⟩ := exists_resolvePoints_ofChars environment text.toList
  rw [resolveText, String.toList_ofList, same, CodePoints.marked_ofChars]

theorem resolveText_eq_iff {text result : String} :
    resolveText environment text = result ↔
      resolvePoints environment (CodePoints.ofChars text.toList) = CodePoints.ofChars result.toList := by
  rw [← ofChars_resolveText]
  constructor
  · rintro rfl
    rfl
  · intro same
    have chars := congrArg CodePoints.marked same
    rw [CodePoints.marked_ofChars, CodePoints.marked_ofChars] at chars
    exact String.toList_inj.mp chars

theorem resolveLeaf_of_points?_eq_none (environment : Environment) {leaf : Scalar} (other : leaf.points? = none) :
    resolveLeaf environment leaf = leaf ∧ unsetInLeaf environment leaf = [] := by
  cases leaf with
  | text s => contradiction
  | foreign leaf =>
    cases leaf with
    | ragged points => contradiction
    | _ => exact ⟨rfl, rfl⟩
  | _ => exact ⟨rfl, rfl⟩

theorem resolves_scalar_iff {leaf : Scalar} {other : Value} {names : List String} :
    Resolves environment (.scalar leaf) other names ↔
      .scalar (resolveLeaf environment leaf) = other ∧ unsetInLeaf environment leaf = names := by
  constructor
  · intro resolves
    cases resolves with
    | text replaces =>
      obtain ⟨result, unset⟩ := replaces_iff.mp replaces
      exact ⟨by rw [resolveLeaf, resolveText_eq_iff.mpr result], unset⟩
    | ragged replaces =>
      obtain ⟨result, unset⟩ := replaces_iff.mp replaces
      exact ⟨by rw [resolveLeaf, result], unset⟩
    | leaf other =>
      obtain ⟨same, silent⟩ := resolveLeaf_of_points?_eq_none environment other
      exact ⟨congrArg _ same, silent⟩
  · rintro ⟨rfl, rfl⟩
    cases found : leaf.points? with
    | none =>
      obtain ⟨same, silent⟩ := resolveLeaf_of_points?_eq_none environment found
      rw [same, silent]
      exact .leaf found
    | some points =>
      match leaf, found with
      | .text s, _ => exact .text (replaces_iff.mpr ⟨(ofChars_resolveText environment s).symm, rfl⟩)
      | .foreign (.ragged points), _ => exact .ragged (replaces_iff.mpr ⟨rfl, rfl⟩)

mutual

theorem resolves_iff (value : Value) {other : Value} {names : List String} :
    Resolves environment value other names ↔
      resolve environment value = other ∧ unset environment value = names := by
  cases value with
  | scalar leaf => exact resolves_scalar_iff
  | list items =>
    rw [resolve, unset]
    constructor
    · rintro (_ | _ | _ | resolves)
      obtain ⟨rfl, rfl⟩ := (resolvesItems_iff items).mp resolves
      exact ⟨rfl, rfl⟩
    · rintro ⟨rfl, rfl⟩
      exact .list ((resolvesItems_iff items).mpr ⟨rfl, rfl⟩)
  | map entries =>
    rw [resolve, unset]
    constructor
    · rintro (_ | _ | _ | _ | resolves)
      obtain ⟨rfl, rfl⟩ := (resolvesEntries_iff entries).mp resolves
      exact ⟨rfl, rfl⟩
    · rintro ⟨rfl, rfl⟩
      exact .map ((resolvesEntries_iff entries).mpr ⟨rfl, rfl⟩)

theorem resolvesItems_iff (items : List Value) {others : List Value} {names : List String} :
    ResolvesItems environment items others names ↔
      resolveItems environment items = others ∧ unsetInItems environment items = names := by
  cases items with
  | nil =>
    constructor
    · rintro ⟨⟩
      exact ⟨rfl, rfl⟩
    · rintro ⟨rfl, rfl⟩
      exact .nil
  | cons item rest =>
    rw [resolveItems, unsetInItems]
    constructor
    · rintro (_ | ⟨now, later⟩)
      obtain ⟨rfl, rfl⟩ := (resolves_iff item).mp now
      obtain ⟨rfl, rfl⟩ := (resolvesItems_iff rest).mp later
      exact ⟨rfl, rfl⟩
    · rintro ⟨rfl, rfl⟩
      exact .cons ((resolves_iff item).mpr ⟨rfl, rfl⟩) ((resolvesItems_iff rest).mpr ⟨rfl, rfl⟩)

theorem resolvesEntries_iff (entries : List (Scalar × Value)) {others : List (Scalar × Value)}
    {names : List String} :
    ResolvesEntries environment entries others names ↔
      resolveEntries environment entries = others ∧ unsetInEntries environment entries = names := by
  match entries with
  | [] =>
    constructor
    · rintro ⟨⟩
      exact ⟨rfl, rfl⟩
    · rintro ⟨rfl, rfl⟩
      exact .nil
  | (key, value) :: rest =>
    rw [resolveEntries, unsetInEntries]
    constructor
    · rintro (_ | ⟨now, later⟩)
      obtain ⟨rfl, rfl⟩ := (resolves_iff value).mp now
      obtain ⟨rfl, rfl⟩ := (resolvesEntries_iff rest).mp later
      exact ⟨rfl, rfl⟩
    · rintro ⟨rfl, rfl⟩
      exact .cons ((resolves_iff value).mpr ⟨rfl, rfl⟩) ((resolvesEntries_iff rest).mpr ⟨rfl, rfl⟩)

end

theorem unsetInLeaf_eq (leaf : Scalar) :
    unsetInLeaf environment leaf = leaf.points?.toList.flatMap (unsetInPoints environment) := by
  cases found : leaf.points? with
  | none => exact (resolveLeaf_of_points?_eq_none environment found).2
  | some points =>
    rw [Option.toList_some, List.flatMap_singleton]
    match leaf, found with
    | .text s, found => exact congrArg (unsetInPoints environment) (Option.some.inj found)
    | .foreign (.ragged _), found => exact congrArg (unsetInPoints environment) (Option.some.inj found)

mutual

theorem unset_eq_filter (value : Value) :
    unset environment value =
      ((texts value).flatMap namesIn).filter fun name => !environment.contains name := by
  cases value with
  | scalar leaf =>
    rw [unset, texts, List.filter_flatMap, unsetInLeaf_eq]
    have each := funext (unsetInPoints_eq_filter environment)
    rw [each]
  | list items => exact unsetInItems_eq_filter items
  | map entries => exact unsetInEntries_eq_filter entries

theorem unsetInItems_eq_filter (items : List Value) :
    unsetInItems environment items =
      ((textsOfItems items).flatMap namesIn).filter fun name => !environment.contains name := by
  cases items with
  | nil => rfl
  | cons item rest =>
    rw [unsetInItems, textsOfItems, List.flatMap_append, List.filter_append, unset_eq_filter item,
      unsetInItems_eq_filter rest]

theorem unsetInEntries_eq_filter (entries : List (Scalar × Value)) :
    unsetInEntries environment entries =
      ((textsOfEntries entries).flatMap namesIn).filter fun name => !environment.contains name := by
  match entries with
  | [] => rfl
  | (key, value) :: rest =>
    rw [unsetInEntries, textsOfEntries, List.flatMap_append, List.filter_append, unset_eq_filter value,
      unsetInEntries_eq_filter rest]

end

theorem resolveLeaf_eq_self {leaf : Scalar}
    (unset : ∀ text ∈ leaf.points?.toList, resolvePoints environment text = text) :
    resolveLeaf environment leaf = leaf := by
  cases found : leaf.points? with
  | none => exact (resolveLeaf_of_points?_eq_none environment found).1
  | some points =>
    have same : resolvePoints environment points = points := unset points (by rw [found]; exact .head _)
    match leaf, found with
    | .text s, found =>
      cases found
      exact congrArg _ (resolveText_eq_iff.mpr same)
    | .foreign (.ragged _), found =>
      cases found
      exact congrArg (fun points => Scalar.foreign (.ragged points)) same

mutual

/-- A value stays as it is if all its texts do. -/
theorem resolve_eq_self (value : Value)
    (same : ∀ text ∈ texts value, resolvePoints environment text = text) :
    resolve environment value = value := by
  cases value with
  | scalar leaf => exact congrArg _ (resolveLeaf_eq_self same)
  | list items => exact congrArg _ (resolveItems_eq_self items same)
  | map entries => exact congrArg _ (resolveEntries_eq_self entries same)

theorem resolveItems_eq_self (items : List Value)
    (same : ∀ text ∈ textsOfItems items, resolvePoints environment text = text) :
    resolveItems environment items = items := by
  cases items with
  | nil => rfl
  | cons item rest =>
    have now := resolve_eq_self item fun text member => same text (List.mem_append_left _ member)
    have later := resolveItems_eq_self rest fun text member => same text (List.mem_append_right _ member)
    rw [resolveItems, now, later]

theorem resolveEntries_eq_self (entries : List (Scalar × Value))
    (same : ∀ text ∈ textsOfEntries entries, resolvePoints environment text = text) :
    resolveEntries environment entries = entries := by
  match entries with
  | [] => rfl
  | (key, value) :: rest =>
    have now := resolve_eq_self value fun text member => same text (List.mem_append_left _ member)
    have later := resolveEntries_eq_self rest fun text member => same text (List.mem_append_right _ member)
    rw [resolveEntries, now, later]

end

end Values

/-- References are replaced in one pass over the texts of a value, which keeps its shape, its keys and all of
its other leaves. There is one warning for each place where a reference without a variable stands, in the
order of the places. A value is left as it is unless some variable that it mentions is set. -/
theorem references_are_replaced_once (environment : Environment) (value : Value) :
    (∀ other names, resolve environment value = other ∧ unset environment value = names ↔
      Resolves environment value other names) ∧
    unset environment value =
      ((texts value).flatMap namesIn).filter (fun name => !environment.contains name) ∧
    (∀ notice ∈ (unset environment value).map Notice.variableUnset, notice.severity = .warning) ∧
    ((∀ text ∈ texts value, ∀ name, Mentions text name → environment.get? (.ofList name) = none) →
      resolve environment value = value) := by
  refine ⟨fun other names => (resolves_iff value).symm, unset_eq_filter value, fun notice told => ?_,
    fun unset => resolve_eq_self value fun text member => resolvePoints_eq_self (unset text member)⟩
  obtain ⟨name, -, rfl⟩ := List.mem_map.mp told
  rfl

/-- What is put in is not read again, and a reference may stand inside what only looks like one. -/
example : resolveText ⟨[("A", "$\x7bB\x7d"), ("B", "x")]⟩ "$\x7bA\x7d$\x7bA$\x7bB\x7d\x7d$" =
    "$\x7bB\x7d$\x7bAx\x7d$" := by
  decide +kernel

end Interpolation

end TimeGate
