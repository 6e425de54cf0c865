import TimeGate.Proofs.Schedule.RoundTrip

/-! Canonical texts. Reading forgets how a text is spaced, the zeros in front of its numbers, that one value
was written as a range, and what stands beside a star; it forgets nothing else. A text with none of these is
printed as it was written. -/

set_option autoImplicit false

namespace TimeGate

open TimeGate.Decimal TimeGate.Text

namespace Grammar

/-- No number has a superfluous zero, and the two bounds of a range are different numbers. -/
structure NeatPiece (piece : List Char) : Prop where
  unpadded : ∀ segments, Split '-' piece segments → ∀ numeral ∈ segments, Unpadded numeral
  apart : ∀ first last, Split '-' piece [first, last] → value first ≠ value last

/-- The token is a star, or it has no piece that is one and all its pieces are neat. -/
def NeatToken (token : List Char) : Prop :=
  token = ['*'] ∨
    ∃ parts, Split ',' token parts ∧ ['*'] ∉ parts ∧ ∀ piece ∈ parts, NeatPiece piece

/-- Five neat tokens with one plain blank between neighbours, and nothing before or behind them. -/
def Canonical (text : List Char) : Prop :=
  ∃ tokens : PerField (List Char), Spaced text tokens.toList ∧ text = joined [' '] tokens.toList ∧
    ∀ field, NeatToken (tokens.get field)

variable {piece : List Char}

theorem neatPiece_iff_of_single {only : List Char} (split : Split '-' piece [only]) :
    NeatPiece piece ↔ Unpadded only := by
  constructor
  · intro neat
    exact neat.unpadded _ split only List.mem_cons_self
  · refine fun unpadded => ⟨fun segments other numeral member => ?_, fun first last other => ?_⟩
    · rw [other.unique split] at member
      rwa [List.mem_singleton.mp member]
    · cases other.unique split

theorem neatPiece_iff_of_pair {first last : List Char} (split : Split '-' piece [first, last]) :
    NeatPiece piece ↔ (Unpadded first ∧ Unpadded last) ∧ value first ≠ value last := by
  constructor
  · intro neat
    have unpadded := neat.unpadded _ split
    exact ⟨⟨unpadded first (by simp), unpadded last (by simp)⟩, neat.apart first last split⟩
  · refine fun ⟨unpadded, apart⟩ => ⟨fun segments other numeral member => ?_, fun start stop other => ?_⟩
    · rw [other.unique split, List.mem_pair] at member
      rcases member with rfl | rfl
      · exact unpadded.1
      · exact unpadded.2
    · cases other.unique split
      exact apart

end Grammar

open Grammar

namespace Range

theorem chars_of_same (n : Nat) : Range.chars ⟨n, n⟩ = digits n := by
  simp [chars, isSingleton, signedDigits]

theorem chars_of_apart {n m : Nat} (apart : n ≠ m) : Range.chars ⟨n, m⟩ = digits n ++ '-' :: digits m := by
  have several : isSingleton ⟨n, m⟩ = false := beq_eq_false_iff_ne.mpr fun same => apart (Int.ofNat.inj same)
  rw [chars, several]
  rfl

/-- Two numerals with a dash between them are told apart by it. -/
theorem dash_inj {first last start stop : List Char} (numerals : Numeral first ∧ Numeral last)
    (others : Numeral start ∧ Numeral stop) :
    first ++ '-' :: last = start ++ '-' :: stop ↔ first = start ∧ last = stop := by
  rw [(FieldSpec.split_dash numerals.1 numerals.2).eq_iff (FieldSpec.split_dash others.1 others.2)]
  simp

theorem chars_eq_iff {piece : List Char} {range : Range} (written : Piece piece range) :
    range.chars = piece ↔ NeatPiece piece := by
  cases written with
  | single bound =>
    rw [neatPiece_iff_of_single (FieldSpec.split_single bound.numeral), chars_of_same,
      digits_value_iff bound.numeral]
  | @pair first last start stop =>
    have split := FieldSpec.split_dash start.numeral stop.numeral
    rw [neatPiece_iff_of_pair split, ← digits_value_iff start.numeral, ← digits_value_iff stop.numeral]
    by_cases same : value first = value last
    · -- A single value is printed without a dash.
      have plain : '-' ∉ digits (value last) := (numeral_digits _).not_mem (by decide)
      refine iff_of_false (fun printed => plain ?_) fun neat => neat.2 same
      rw [same, chars_of_same] at printed
      rw [printed]
      simp
    · rw [chars_of_apart same, and_iff_left same]
      exact dash_inj ⟨numeral_digits _, numeral_digits _⟩ ⟨start.numeral, stop.numeral⟩

theorem short_of_written {piece : List Char} {range : Range} (written : Piece piece range) : range.Short := by
  have fits {numeral : List Char} (bound : Bound numeral) :
      (digits (value numeral)).length ≤ digitLimit :=
    Nat.le_trans (length_digits_value_le bound.numeral) bound.short
  cases written with
  | single bound => exact ⟨fits bound, fits bound⟩
  | pair start stop => exact ⟨fits start, fits stop⟩

theorem map_chars_eq_iff {parts : List (List Char)} {ranges : List Range}
    (written : List.Forall₂ Piece parts ranges) :
    ranges.map Range.chars = parts ↔ ∀ piece ∈ parts, NeatPiece piece := by
  induction written with
  | nil => simp
  | cons now _ ih => rw [List.map_cons, List.cons.injEq, chars_eq_iff now, ih, List.forall_mem_cons]

end Range

namespace FieldSpec

theorem chars_eq_iff {token : List Char} {spec : FieldSpec} (written : Token token spec) :
    spec.chars = token ↔ NeatToken token := by
  cases written with
  | @any parts split star =>
    constructor
    · rintro rfl
      exact .inl rfl
    · rintro (rfl | ⟨others, otherSplit, plain, -⟩)
      · rfl
      · exact absurd star (otherSplit.unique split ▸ plain)
  | @union parts set split plain written =>
    rw [FieldSpec.chars, set.split_chars.eq_iff split, Range.map_chars_eq_iff written]
    constructor
    · intro neat
      exact .inr ⟨parts, split, plain, neat⟩
    · rintro (rfl | ⟨others, otherSplit, -, neat⟩)
      · rw [← split_iff.mp split] at plain
        exact absurd List.mem_cons_self plain
      · rwa [otherSplit.unique split] at neat

theorem nonneg_of_written {token : List Char} {spec : FieldSpec} (written : Token token spec) :
    spec.Nonneg := by
  intro range member
  cases written with
  | any => cases member
  | union _ _ written =>
    obtain ⟨piece, -, now⟩ := Traversal.exists_related written.flip member
    exact now.nonneg

theorem short_of_written {token : List Char} {spec : FieldSpec} (written : Token token spec) :
    spec.Short := by
  intro range member
  cases written with
  | any => cases member
  | union _ _ written =>
    obtain ⟨piece, -, now⟩ := Traversal.exists_related written.flip member
    exact range.short_of_written now

end FieldSpec

namespace Schedule

variable {strict : Bool} {text : String} {schedule : Schedule}

theorem chars_eq_joined (schedule : Schedule) : schedule.chars = joined [' '] schedule.tokens.toList := rfl

theorem text_eq_iff (read : Schedule.read strict text = .ok schedule) :
    schedule.text = text ↔ Canonical text.toList := by
  obtain ⟨tokens, spaced, written⟩ := read_eq_ok_iff.mp read
  have each (field : Field) : schedule.tokens.get field = tokens.get field ↔ NeatToken (tokens.get field) := by
    rw [Schedule.tokens, PerField.get_ofFn]
    exact FieldSpec.chars_eq_iff (written field).1
  constructor
  · intro same
    have printed := schedule.spaced_tokens
    rw [same] at printed
    have tokensSame : schedule.tokens = tokens :=
      PerField.toList_injective (printed.unique spaced)
    refine ⟨tokens, spaced, ?_, fun field => (each field).mp (by rw [tokensSame])⟩
    rw [← tokensSame, ← chars_eq_joined, ← same, Schedule.text, String.toList_ofList]
  · rintro ⟨others, otherSpaced, joins, neat⟩
    obtain rfl : others = tokens := PerField.toList_injective (otherSpaced.unique spaced)
    have tokensSame : schedule.tokens = others := PerField.eq_of_get fun field => (each field).mpr (neat field)
    apply String.toList_inj.mp
    rw [Schedule.text, String.toList_ofList, chars_eq_joined, tokensSame, joins]

/-- What was read is read again from its printed text, under the same strictness. -/
theorem read_text (read : Schedule.read strict text = .ok schedule) :
    Schedule.read strict schedule.text = .ok schedule := by
  obtain ⟨tokens, spaced, written⟩ := read_eq_ok_iff.mp read
  refine read_eq_ok_iff.mpr ⟨schedule.tokens, schedule.spaced_tokens, fun field => ⟨?_, (written field).2⟩⟩
  rw [Schedule.tokens, PerField.get_ofFn]
  have token := (written field).1
  exact FieldSpec.token_chars (FieldSpec.short_of_written token) (FieldSpec.nonneg_of_written token)

/-- A text that is read is printed as it stands exactly if it is canonical. What is printed is canonical and
is read again as what was printed, and it is the same for two texts exactly if they are read alike. -/
theorem printed_as_written_iff_canonical (strict : Bool) (text : String) (schedule : Schedule)
    (read : Schedule.read strict text = .ok schedule) :
    (schedule.text = text ↔ Canonical text.toList) ∧
    Canonical schedule.text.toList ∧
    Schedule.read strict schedule.text = .ok schedule ∧
    ∀ otherStrict otherText other, Schedule.read otherStrict otherText = .ok other →
      (schedule = other ↔ schedule.text = other.text) :=
  ⟨text_eq_iff read, (text_eq_iff (read_text read)).mp rfl, read_text read,
    fun _ _ _ _ => text_injective.eq_iff.symm⟩

/-- Blanks, zeros, a range of one value and a neighbour of a star are all forgotten. -/
theorem printed_without_what_is_forgotten :
    let schedule : Schedule :=
      ⟨.union ⟨⟨0, 0⟩, []⟩, .union ⟨⟨5, 5⟩, [⟨7, 7⟩]⟩, .any, .union ⟨⟨1, 2⟩, []⟩, .any⟩
    Schedule.read false "\t00 5-05,7  *,x 1-2 * " = .ok schedule ∧
      ¬ Canonical "\t00 5-05,7  *,x 1-2 * ".toList ∧ Canonical "0 5,7 * 1-2 *".toList ∧
      Schedule.read false "0 5,7 * 1-2 *" = .ok schedule := by
  intro schedule
  have read : Schedule.read false "\t00 5-05,7  *,x 1-2 * " = .ok schedule := rfl
  have printed : schedule.text = "0 5,7 * 1-2 *" := by decide
  obtain ⟨asWritten, canonical, again, -⟩ := printed_as_written_iff_canonical false _ schedule read
  rw [printed] at asWritten canonical again
  exact ⟨read, fun own => absurd (asWritten.mpr own) (by decide), canonical, again⟩

end Schedule

end TimeGate
