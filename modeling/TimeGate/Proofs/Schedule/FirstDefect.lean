import TimeGate.Proofs.Schedule.Reading

/-! Where a refused text is wrong. Defects are ordered by the field, the piece and, inside a piece,
by what is looked at first; reading reports the least of them and nothing of the others. -/

set_option autoImplicit false

namespace TimeGate

open TimeGate.Decimal TimeGate.Text TimeGate.Traversal

namespace Grammar

/-- What is wrong with a segment that has to be a bound. -/
inductive BoundDefect (field : Option String) (part piece : List Char) (side : Side)
    (segment : List Char) : ReadError → Prop where
  | text : ¬ Numeral segment → BoundDefect field part piece side segment
      (.refused (.boundText field (.ofList part) (.ofList piece) side (.ofList segment)))
  | length : Numeral segment → digitLimit < segment.length →
      BoundDefect field part piece side segment .numeralTooLong

/-- The first thing wrong with the writing of a piece: too many segments, then the start, then the
end. -/
inductive PairDefect (field : Option String) (part piece : List Char) : ReadError → Prop where
  | shape {segments : List (List Char)} : Split '-' piece segments → 3 ≤ segments.length →
      PairDefect field part piece (.refused (.pairShape field (.ofList part) (.ofList piece)))
  | start {start : List Char} {rest : List (List Char)} {e : ReadError} :
      Split '-' piece (start :: rest) → rest.length ≤ 1 →
      BoundDefect field part piece .start start e → PairDefect field part piece e
  | stop {start stop : List Char} {e : ReadError} : Split '-' piece [start, stop] → Bound start →
      BoundDefect field part piece .stop stop e → PairDefect field part piece e

/-- The first thing wrong with a piece. Legal values are asked for last, and only by strict reading
where a domain is given. -/
inductive PieceDefect (domain : Option Domain) (strict : Bool) (part piece : List Char) :
    ReadError → Prop where
  | pair {e : ReadError} : PairDefect (domain.map Domain.name) part piece e →
      PieceDefect domain strict part piece e
  | startOutside {d : Domain} {range : Range} : strict = true → domain = some d → Piece piece range →
      ¬ d.Holds range.first → PieceDefect domain strict part piece
        (.refused (.outsideDomain d.name (.ofList part) d.low d.high range.first))
  | stopOutside {d : Domain} {range : Range} : strict = true → domain = some d → Piece piece range →
      d.Holds range.first → ¬ d.Holds range.last → PieceDefect domain strict part piece
        (.refused (.outsideDomain d.name (.ofList part) d.low d.high range.last))

/-- What is wrong with the first wrong piece of a token. A token with a piece `*` is never wrong. -/
def TokenDefect (domain : Option Domain) (strict : Bool) (token : List Char) (e : ReadError) : Prop :=
  ∃ parts piece, Split ',' token parts ∧ ['*'] ∉ parts ∧
    IsFirst (fun other => ∃ cause, PieceDefect domain strict token other cause) parts piece ∧
    PieceDefect domain strict token piece e

/-- What is wrong with the first wrong token. -/
def LineDefect (strict : Bool) (tokens : PerField (List Char)) (e : ReadError) : Prop :=
  ∃ field : Field,
    IsFirst (fun other : Field => ∃ cause, TokenDefect (some other.domain) strict (tokens.get other) cause)
      Field.all field ∧
    TokenDefect (some field.domain) strict (tokens.get field) e

end Grammar

namespace FieldSpec

open TimeGate.Grammar

variable {domain : Option Domain} {strict : Bool} {field : Option String} {part piece : List Char}
  {e : ReadError}

theorem readBound_eq_error_iff {side : Side} {segment : List Char} :
    readBound field part piece side segment = .error e ↔ BoundDefect field part piece side segment e := by
  unfold readBound
  by_cases numeral : isNumeral segment = true
  · have isNumeral := (isNumeral_iff segment).mp numeral
    rw [if_pos numeral]
    by_cases short : segment.length ≤ digitLimit
    · rw [if_pos short]
      constructor
      · intro read
        contradiction
      · rintro (notNumeral | ⟨-, long⟩)
        · exact absurd isNumeral notNumeral
        · exact absurd short (Nat.not_le.mpr long)
    · rw [if_neg short]
      constructor
      · intro read
        cases read
        exact .length isNumeral (Nat.not_le.mp short)
      · rintro (notNumeral | -)
        · exact absurd isNumeral notNumeral
        · rfl
  · have notNumeral : ¬ Numeral segment := fun isNumeral => numeral ((isNumeral_iff segment).mpr isNumeral)
    rw [if_neg numeral]
    constructor
    · intro read
      cases read
      exact .text notNumeral
    · rintro (- | ⟨isNumeral, -⟩)
      · rfl
      · exact absurd isNumeral notNumeral

theorem readPair_eq_error_iff : readPair field part piece = .error e ↔ PairDefect field part piece e := by
  constructor
  · intro read
    rcases segments_cases piece with one | ⟨start, stop, two⟩ | ⟨segments, many, more⟩
    · rw [readPair_of_single one, map_eq_error_iff] at read
      exact .start one (Nat.zero_le 1) (readBound_eq_error_iff.mp read)
    · rw [readPair_of_two two, bind_eq_error_iff] at read
      rcases read with read | ⟨first, ok, read⟩
      · exact .start two (Nat.le_refl 1) (readBound_eq_error_iff.mp read)
      · have bound := (readBound_eq_ok_iff.mp ok).1
        exact .stop two bound (readBound_eq_error_iff.mp (map_eq_error_iff.mp read))
    · rw [readPair_of_more many more] at read
      cases read
      exact .shape many more
  · intro defect
    cases defect with
    | shape many more => exact readPair_of_more many more
    | @start start rest _ split short defect =>
      -- With one segment the start is the piece itself; with two, the end is not looked at.
      match rest, short with
      | [], _ =>
        have same : start = piece := split.joins
        subst same
        rw [readPair_of_single split, readBound_eq_error_iff.mpr defect]
        rfl
      | [stop], _ =>
        rw [readPair_of_two split, readBound_eq_error_iff.mpr defect]
        rfl
    | stop two bound defect =>
      rw [readPair_of_two two, readBound_eq_ok_iff.mpr ⟨bound, rfl⟩, Except.bind,
        readBound_eq_error_iff.mpr defect]
      rfl

theorem checkWithin_eq_error_iff {d : Domain} {range : Range} :
    checkWithin d part range = .error e ↔
      (¬ d.Holds range.first ∧
        e = .refused (.outsideDomain d.name (.ofList part) d.low d.high range.first)) ∨
      (d.Holds range.first ∧ ¬ d.Holds range.last ∧
        e = .refused (.outsideDomain d.name (.ofList part) d.low d.high range.last)) := by
  rw [checkWithin_eq]
  split
  · next start => split <;> simp [eq_comm, *]
  · next start => simp [start, eq_comm]

theorem readPiece_eq_error_iff :
    readPiece domain strict part piece = .error e ↔ PieceDefect domain strict part piece e := by
  unfold readPiece
  cases read : readPair (domain.map Domain.name) part piece with
  | error cause =>
    -- The writing is wrong, so there is no range that could be outside the domain.
    have unwritten (range : Range) : ¬ Piece piece range := fun written => by
      rw [readPair_eq_ok_iff.mpr written] at read
      contradiction
    constructor
    · intro same
      cases same
      exact .pair (readPair_eq_error_iff.mp read)
    · intro defect
      cases defect with
      | pair defect =>
        rw [readPair_eq_error_iff.mpr defect] at read
        rw [Except.error.inj read]
      | startOutside _ _ written => exact absurd written (unwritten _)
      | stopOutside _ _ written => exact absurd written (unwritten _)
  | ok found =>
    have written := readPair_eq_ok_iff.mp read
    constructor
    · intro failed
      dsimp only at failed
      split at failed
      · rcases checkWithin_eq_error_iff.mp failed with ⟨outside, rfl⟩ | ⟨inside, outside, rfl⟩
        · exact .startOutside rfl rfl written outside
        · exact .stopOutside rfl rfl written inside outside
      · contradiction
    · intro defect
      cases defect with
      | pair defect =>
        rw [readPair_eq_error_iff.mpr defect] at read
        contradiction
      | startOutside isStrict given again outside =>
        subst isStrict given
        rw [piece_unique again written] at outside ⊢
        exact checkWithin_eq_error_iff.mpr (.inl ⟨outside, rfl⟩)
      | stopOutside isStrict given again inside outside =>
        subst isStrict given
        rw [piece_unique again written] at inside outside ⊢
        exact checkWithin_eq_error_iff.mpr (.inr ⟨inside, outside, rfl⟩)

theorem readChars_eq_error_iff :
    readChars domain strict part = .error e ↔ TokenDefect domain strict part e := by
  by_cases star : ['*'] ∈ pieces ',' part
  · rw [readChars_of_star star]
    constructor
    · intro read
      contradiction
    · rintro ⟨parts, piece, split, plain, -⟩
      exact absurd (split_iff.mp split ▸ star) plain
  · rw [← map_eq_error_iff, readChars_of_no_star star, readPieces_eq_mapM, mapM_eq_error_iff]
    simp only [readPiece_eq_error_iff]
    constructor
    · rintro ⟨piece, isFirst, defect⟩
      exact ⟨_, piece, split_pieces ',' part, star, isFirst, defect⟩
    · rintro ⟨parts, piece, split, -, isFirst, defect⟩
      rw [← split_iff.mp split] at isFirst
      exact ⟨piece, isFirst, defect⟩

end FieldSpec

namespace Refusal

/-- A cause in a part of a text. The part stands in the named field, or in none. -/
def StandsIn (name : Option String) : Refusal → Prop
  | .pairShape field .. | .boundText field .. => field = name
  | .outsideDomain field .. => some field = name
  | .notText _ | .fieldCount .. | .unknownZone _ => False

variable {name : Option String} {cause : Refusal}

theorem StandsIn.name_unique {other : Option String} (standsIn : cause.StandsIn name)
    (again : cause.StandsIn other) : name = other := by
  cases cause with
  | pairShape | boundText | outsideDomain => exact standsIn.symm.trans again
  | notText | fieldCount | unknownZone => exact standsIn.elim

theorem StandsIn.wholeText? (standsIn : cause.StandsIn name) : cause.wholeText? = none := by
  cases cause with
  | fieldCount => exact standsIn.elim
  | _ => rfl

theorem StandsIn.expected? (standsIn : cause.StandsIn name) : cause.expected? = none := by
  cases cause with
  | notText | fieldCount => exact standsIn.elim
  | _ => rfl

end Refusal

namespace Schedule

open TimeGate.Grammar

variable {strict : Bool} {text : String} {e : ReadError}

theorem read_five_eq_error_iff {tokens : PerField (List Char)} (spaced : Spaced text.toList tokens.toList) :
    read strict text = .error e ↔ LineDefect strict tokens e := by
  rw [← map_eq_error_iff, read_of_five spaced, mapM_eq_error_iff]
  simp only [readField, FieldSpec.readChars_eq_error_iff]
  rfl

/-- A text is refused exactly if it has not five tokens, and then for their number, or if a token
has a defect, and then for the first defect of the first such token. -/
theorem read_eq_error_iff :
    read strict text = .error e ↔
      (∃ tokens, Spaced text.toList tokens ∧ tokens.length ≠ Field.all.length ∧
        e = .refused (.fieldCount text tokens.length)) ∨
      ∃ tokens : PerField (List Char), Spaced text.toList tokens.toList ∧ LineDefect strict tokens e := by
  constructor
  · intro failed
    by_cases count : (words text.toList).length = Field.all.length
    · obtain ⟨tokens, same⟩ := PerField.exists_toList count
      have spaced : Spaced text.toList tokens.toList := same ▸ spaced_words text.toList
      exact .inr ⟨tokens, spaced, (read_five_eq_error_iff spaced).mp failed⟩
    · rw [read_of_other (spaced_words text.toList) count] at failed
      cases failed
      exact .inl ⟨_, spaced_words text.toList, count, rfl⟩
  · rintro (⟨tokens, spaced, count, rfl⟩ | ⟨tokens, spaced, defect⟩)
    · exact read_of_other spaced count
    · exact (read_five_eq_error_iff spaced).mpr defect

/-- Defects of a token are told with the field that the token stands in. -/
theorem standsIn_of_tokenDefect {domain : Option Domain} {token : List Char} {cause : Refusal}
    (defect : TokenDefect domain strict token (.refused cause)) : cause.StandsIn (domain.map Domain.name) := by
  obtain ⟨parts, piece, -, -, -, defect⟩ := defect
  cases defect with
  | pair defect =>
    cases defect with
    | shape => rfl
    | start _ _ defect => cases defect; rfl
    | stop _ _ defect => cases defect; rfl
  | startOutside _ given => exact congrArg (Option.map Domain.name) given.symm
  | stopOutside _ given => exact congrArg (Option.map Domain.name) given.symm

/-- Reading fails on a text that has not five tokens, whatever they hold, and blames their number;
on five tokens it fails if one of them is defective, and blames the first defective piece of the
first such token for the first thing that is wrong with it. -/
theorem refusal_blames_first_defect (strict : Bool) (text : String) (e : ReadError) :
    read strict text = .error e ↔
      (∃ tokens, Spaced text.toList tokens ∧ tokens.length ≠ 5 ∧ ∃ cause, e = .refused cause ∧
        cause = .fieldCount text tokens.length ∧ cause.wholeText? = some text ∧
        cause.expected? = some 5) ∨
      ∃ tokens : PerField (List Char), Spaced text.toList tokens.toList ∧ LineDefect strict tokens e ∧
        ∀ cause, e = .refused cause → cause.wholeText? = none := by
  rw [read_eq_error_iff]
  constructor
  · rintro (⟨tokens, spaced, count, rfl⟩ | ⟨tokens, spaced, defect⟩)
    · exact .inl ⟨tokens, spaced, count, _, rfl, rfl, rfl, rfl⟩
    · refine .inr ⟨tokens, spaced, defect, ?_⟩
      rintro cause rfl
      obtain ⟨field, -, defect⟩ := defect
      exact (standsIn_of_tokenDefect defect).wholeText?
  · rintro (⟨tokens, spaced, count, cause, rfl, rfl, -⟩ | ⟨tokens, spaced, defect, -⟩)
    · exact .inl ⟨tokens, spaced, count, rfl⟩
    · exact .inr ⟨tokens, spaced, defect⟩

end Schedule

end TimeGate
