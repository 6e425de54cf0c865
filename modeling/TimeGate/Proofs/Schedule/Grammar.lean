import TimeGate.Proofs.Decimal.Numeral
import TimeGate.Proofs.Text.Splitting
import TimeGate.Proofs.Traversal
import TimeGate.Schedule.Reader

/-! The language of tokens and what they write, said without a reader. Reading a token succeeds
exactly on this language and yields what is written; strict reading asks, in addition, that every
bound is a legal value. -/

set_option autoImplicit false

namespace TimeGate

open TimeGate.Decimal TimeGate.Text TimeGate.Traversal

namespace Grammar

/-- A numeral that is short enough to be read. -/
structure Bound (text : List Char) : Prop where
  numeral : Numeral text
  short : text.length ≤ digitLimit

/-- A piece and the range it writes. -/
inductive Piece : List Char → Range → Prop where
  | single {only : List Char} : Bound only → Piece only ⟨value only, value only⟩
  | pair {first last : List Char} :
      Bound first → Bound last → Piece (first ++ '-' :: last) ⟨value first, value last⟩

/-- A token and the specification it writes. A piece `*` makes its neighbours irrelevant; without
one, every piece writes a range, in order. -/
inductive Token : List Char → FieldSpec → Prop where
  | any {token : List Char} {parts : List (List Char)} :
      Split ',' token parts → ['*'] ∈ parts → Token token .any
  | union {token : List Char} {parts : List (List Char)} {set : RangeSet} :
      Split ',' token parts → ['*'] ∉ parts → List.Forall₂ Piece parts set.ranges →
      Token token (.union set)

/-- A token that has a piece `*` or else writes a range with each of its pieces. -/
def Readable (token : List Char) : Prop :=
  ∃ parts, Split ',' token parts ∧ (['*'] ∈ parts ∨ ∀ part ∈ parts, ∃ range, Piece part range)

theorem Piece.nonneg {piece : List Char} {range : Range} (written : Piece piece range) :
    0 ≤ range.first ∧ 0 ≤ range.last := by
  cases written <;> simp

theorem readable_iff {token : List Char} : Readable token ↔ ∃ spec, Token token spec := by
  constructor
  · rintro ⟨parts, split, star | pieces⟩
    · exact ⟨.any, .any split star⟩
    · -- No piece that writes a range is a star, but there is no need to know it here.
      by_cases star : ['*'] ∈ parts
      · exact ⟨.any, .any split star⟩
      · obtain ⟨ranges, written⟩ := exists_forall₂ pieces
        cases written with
        | nil => exact absurd rfl split.inhabited
        | @cons _ first _ others now later =>
          exact ⟨.union ⟨first, others⟩, .union split star (.cons now later)⟩
  · rintro ⟨spec, written⟩
    cases written with
    | any split star => exact ⟨_, split, .inl star⟩
    | union split _ written =>
      refine ⟨_, split, .inr fun part member => ?_⟩
      obtain ⟨range, -, now⟩ := exists_related written member
      exact ⟨range, now⟩

theorem Token.union_ranges {token : List Char} {set : RangeSet} (written : Token token (.union set)) :
    set.ranges.length = token.count ',' + 1 ∧ ∀ range ∈ set.ranges, 0 ≤ range.first ∧ 0 ≤ range.last := by
  cases written with
  | @union parts _ split _ written =>
    constructor
    · rw [← written.length_eq, ← split_iff.mp split, length_pieces]
    · intro range member
      obtain ⟨piece, -, now⟩ := exists_related written.flip member
      exact now.nonneg

end Grammar

def Domain.Holds (domain : Domain) (value : Int) : Prop := domain.low ≤ value ∧ value ≤ domain.high

instance (domain : Domain) (value : Int) : Decidable (domain.Holds value) :=
  inferInstanceAs (Decidable (_ ∧ _))

/-- What strict reading asks of a range, where a domain is given. -/
def Range.Legal (domain : Option Domain) (strict : Bool) (range : Range) : Prop :=
  strict = true → ∀ d ∈ domain, d.Holds range.first ∧ d.Holds range.last

namespace FieldSpec

open TimeGate.Grammar

variable {domain : Option Domain} {strict : Bool} {field : Option String} {part pair : List Char}

/-! ## Bounds and pieces -/

theorem readBound_eq_ok_iff {side : Side} {segment : List Char} {bound : Int} :
    readBound field part pair side segment = .ok bound ↔ Bound segment ∧ bound = value segment := by
  unfold readBound
  by_cases numeral : isNumeral segment = true
  · rw [if_pos numeral]
    by_cases short : segment.length ≤ digitLimit
    · have isBound : Bound segment := ⟨(isNumeral_iff segment).mp numeral, short⟩
      simp [short, isBound, eq_comm]
    · have notBound : ¬ Bound segment := fun bound => short bound.short
      simp [short, notBound]
  · have notBound : ¬ Bound segment := fun bound => numeral ((isNumeral_iff segment).mpr bound.numeral)
    simp [numeral, notBound]

/-- A piece has one segment, two, or more than a range can have. -/
theorem segments_cases (piece : List Char) :
    Split '-' piece [piece] ∨ (∃ first last, Split '-' piece [first, last]) ∨
      ∃ segments, Split '-' piece segments ∧ 3 ≤ segments.length := by
  have split := split_pieces '-' piece
  generalize pieces '-' piece = segments at split
  match segments, split with
  | [], split => exact absurd rfl split.inhabited
  | [only], split =>
    have same : only = piece := split.joins
    exact .inl (same ▸ split)
  | [first, last], split => exact .inr (.inl ⟨first, last, split⟩)
  | first :: last :: next :: rest, split => exact .inr (.inr ⟨_, split, by simp⟩)

theorem split_single {only : List Char} (numeral : Numeral only) : Split '-' only [only] :=
  split_iff.mpr (pieces_of_not_mem (numeral.not_mem (by decide)))

theorem split_dash {first last : List Char} (start : Numeral first) (stop : Numeral last) :
    Split '-' (first ++ '-' :: last) [first, last] := by
  rw [split_iff, pieces_append, split_iff.mp (split_single start), split_iff.mp (split_single stop)]
  rfl

theorem readPair_of_single {piece : List Char} (split : Split '-' piece [piece]) :
    readPair field part piece =
      (readBound field part piece .start piece).map fun bound => ⟨bound, bound⟩ := by
  unfold readPair
  rw [split_iff.mp split]
  dsimp only
  cases readBound field part piece .start piece <;> rfl

theorem readPair_of_two {piece first last : List Char} (split : Split '-' piece [first, last]) :
    readPair field part piece =
      (readBound field part piece .start first).bind fun start =>
        (readBound field part piece .stop last).map fun stop => ⟨start, stop⟩ := by
  unfold readPair
  rw [split_iff.mp split]
  dsimp only
  cases readBound field part piece .start first with
  | error e => rfl
  | ok start => cases readBound field part piece .stop last <;> rfl

theorem readPair_of_more {piece : List Char} {segments : List (List Char)}
    (split : Split '-' piece segments) (more : 3 ≤ segments.length) :
    readPair field part piece = .error (.refused (.pairShape field (.ofList part) (.ofList piece))) := by
  unfold readPair
  rw [split_iff.mp split]
  match segments, more with
  | _ :: _ :: _ :: _, _ => rfl

theorem readPair_eq_ok_iff {range : Range} :
    readPair field part pair = .ok range ↔ Piece pair range := by
  constructor
  · intro read
    rcases segments_cases pair with one | ⟨first, last, two⟩ | ⟨segments, many, more⟩
    · rw [readPair_of_single one] at read
      obtain ⟨bound, ok, rfl⟩ := map_eq_ok_iff.mp read
      obtain ⟨isBound, rfl⟩ := readBound_eq_ok_iff.mp ok
      exact .single isBound
    · rw [readPair_of_two two] at read
      obtain ⟨start, startOk, rest⟩ := bind_eq_ok_iff.mp read
      obtain ⟨stop, stopOk, rfl⟩ := map_eq_ok_iff.mp rest
      obtain ⟨startBound, rfl⟩ := readBound_eq_ok_iff.mp startOk
      obtain ⟨stopBound, rfl⟩ := readBound_eq_ok_iff.mp stopOk
      have same : first ++ '-' :: last = pair := by simpa [joined] using two.joins
      exact same ▸ .pair startBound stopBound
    · rw [readPair_of_more many more] at read
      contradiction
  · intro piece
    cases piece with
    | single bound =>
      rw [readPair_of_single (split_single bound.numeral), readBound_eq_ok_iff.mpr ⟨bound, rfl⟩]
      rfl
    | @pair first last startBound stopBound =>
      rw [readPair_of_two (split_dash startBound.numeral stopBound.numeral),
        readBound_eq_ok_iff.mpr ⟨startBound, rfl⟩, readBound_eq_ok_iff.mpr ⟨stopBound, rfl⟩]
      rfl

theorem checkWithin_eq (d : Domain) (range : Range) :
    checkWithin d part range =
      if d.Holds range.first then
        if d.Holds range.last then .ok range
        else .error (.refused (.outsideDomain d.name (.ofList part) d.low d.high range.last))
      else .error (.refused (.outsideDomain d.name (.ofList part) d.low d.high range.first)) := by
  have outside_iff (value : Int) : (value < d.low || d.high < value) = true ↔ ¬ d.Holds value := by
    rw [Domain.Holds, Bool.or_eq_true, decide_eq_true_eq, decide_eq_true_eq]
    omega
  simp only [checkWithin, outside_iff, ite_not]

theorem checkWithin_eq_ok_iff {d : Domain} {range other : Range} :
    checkWithin d part range = .ok other ↔ range = other ∧ d.Holds range.first ∧ d.Holds range.last := by
  rw [checkWithin_eq]
  split
  · next start => split <;> simp [*]
  · next start => simp [start]

/-- A piece writes one range. -/
theorem piece_unique {range other : Range} (written : Piece pair range) (again : Piece pair other) :
    range = other := by
  have read : readPair none [] pair = .ok range := readPair_eq_ok_iff.mpr written
  rw [readPair_eq_ok_iff.mpr again] at read
  exact (Except.ok.inj read).symm

theorem readPiece_eq_ok_iff {range : Range} :
    readPiece domain strict part pair = .ok range ↔ Piece pair range ∧ range.Legal domain strict := by
  unfold readPiece
  cases read : readPair (domain.map Domain.name) part pair with
  | error e =>
    have unwritten : ¬ Piece pair range := fun piece => by
      rw [readPair_eq_ok_iff.mpr piece] at read
      contradiction
    simp [unwritten]
  | ok found =>
    have written : Piece pair range ↔ found = range := by
      rw [← readPair_eq_ok_iff, read, Except.ok.injEq]
    rw [written]
    cases strict with
    | false => simp [Range.Legal]
    | true =>
      cases domain with
      | none => simp [Range.Legal]
      | some d =>
        simp only [checkWithin_eq_ok_iff, Range.Legal, Option.mem_some_iff, forall_const, forall_eq']
        exact and_congr_right fun same => by rw [same]

/-! ## Tokens -/

theorem readPieces_eq_mapM (items : List (List Char)) :
    readPieces domain strict part items = items.mapM (readPiece domain strict part) := by
  induction items with
  | nil => rfl
  | cons piece rest ih =>
    rw [readPieces, ih]
    cases now : readPiece domain strict part piece with
    | error e => rw [mapM_cons_error now]
    | ok range =>
      rw [mapM_cons_ok now]
      cases rest.mapM (readPiece domain strict part) <;> rfl

theorem readPieces_eq_ok_iff {items : List (List Char)} {ranges : List Range} :
    readPieces domain strict part items = .ok ranges ↔
      List.Forall₂ Piece items ranges ∧ ∀ range ∈ ranges, range.Legal domain strict := by
  rw [readPieces_eq_mapM, mapM_eq_ok_iff, ← forall₂_and_right_iff]
  simp only [readPiece_eq_ok_iff]

theorem readChars_of_star (star : ['*'] ∈ pieces ',' part) : readChars domain strict part = .ok .any := by
  simp [readChars, star]

/-- Without a piece `*`, the ranges of a token are those of its pieces, and there is at least one. -/
theorem readChars_of_no_star (plain : ['*'] ∉ pieces ',' part) :
    (readChars domain strict part).map FieldSpec.ranges =
      readPieces domain strict part (pieces ',' part) := by
  simp only [readChars, List.contains_eq_mem, plain, decide_false, Bool.false_eq_true, if_false]
  cases readPieces domain strict part (pieces ',' part) with
  | error e => rfl
  | ok ranges => cases ranges <;> rfl

theorem eq_union_of_ranges {spec : FieldSpec} {set : RangeSet} (same : spec.ranges = set.ranges) :
    spec = .union set := by
  cases spec with
  | any => simp [FieldSpec.ranges, RangeSet.ranges] at same
  | union other =>
    simp only [FieldSpec.ranges, RangeSet.ranges, List.cons.injEq] at same
    cases other; cases set
    simpa using same

theorem readChars_eq_ok_iff {spec : FieldSpec} :
    readChars domain strict part = .ok spec ↔
      Token part spec ∧ ∀ range ∈ spec.ranges, range.Legal domain strict := by
  -- A star among the pieces decides at once, and the others are not read then.
  by_cases star : ['*'] ∈ pieces ',' part
  · rw [readChars_of_star star]
    constructor
    · intro read
      cases read
      exact ⟨.any (split_pieces ',' part) star, by simp [FieldSpec.ranges]⟩
    · rintro ⟨token, -⟩
      cases token with
      | any => rfl
      | union split plain => exact absurd (split_iff.mp split ▸ star) plain
  · have whole : (readChars domain strict part).map FieldSpec.ranges = _ := readChars_of_no_star star
    constructor
    · intro read
      rw [read] at whole
      obtain ⟨related, legal⟩ := readPieces_eq_ok_iff.mp whole.symm
      cases spec with
      | any => exact absurd (List.forall₂_nil_right_iff.mp related) (pieces_ne_nil ',' part)
      | union set => exact ⟨.union (split_pieces ',' part) star related, legal⟩
    · rintro ⟨token, legal⟩
      cases token with
      | any split found => exact absurd (split_iff.mp split ▸ found) star
      | @union parts set split plain related =>
        rw [split_iff.mp split, readPieces_eq_ok_iff.mpr ⟨related, legal⟩] at whole
        obtain ⟨spec, read, same⟩ := map_eq_ok_iff.mp whole
        rw [read, eq_union_of_ranges same]

end FieldSpec

end TimeGate
