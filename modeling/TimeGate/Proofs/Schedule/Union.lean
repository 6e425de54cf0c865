import TimeGate.Proofs.Gate.Building
import TimeGate.Proofs.Schedule.Meaning

/-! Commas are unions. Whether a part can be read, and what it then admits, is decided by which pieces it has,
and neither by their order nor by how often they stand there. More pieces admit more. -/

set_option autoImplicit false

namespace TimeGate

open TimeGate.Text TimeGate.Traversal TimeGate.Grammar

namespace FieldSpec

variable {domain : Option Domain} {strict : Bool} {part other : List Char} {spec otherSpec : FieldSpec}

/-- A part can be read if one of its pieces is a star, or if every piece writes a legal range. -/
theorem exists_readChars_iff :
    (∃ spec, readChars domain strict part = .ok spec) ↔
      ['*'] ∈ pieces ',' part ∨
        ∀ piece ∈ pieces ',' part, ∃ range, Piece piece range ∧ range.Legal domain strict := by
  by_cases star : ['*'] ∈ pieces ',' part
  · exact iff_of_true ⟨_, readChars_of_star star⟩ (.inl star)
  · rw [or_iff_right star]
    have ranges : (readChars domain strict part).map FieldSpec.ranges = _ := readChars_of_no_star star
    constructor
    · rintro ⟨spec, read⟩ piece member
      rw [read] at ranges
      obtain ⟨written, legal⟩ := readPieces_eq_ok_iff.mp ranges.symm
      obtain ⟨range, found, now⟩ := exists_related written member
      exact ⟨range, now, legal range found⟩
    · intro each
      obtain ⟨found, related⟩ := exists_forall₂ each
      obtain ⟨written, legal⟩ := forall₂_and_right_iff.mp related
      rw [readPieces_eq_ok_iff.mpr ⟨written, legal⟩] at ranges
      obtain ⟨spec, read, -⟩ := map_eq_ok_iff.mp ranges
      exact ⟨spec, read⟩

/-- What a part admits is what some piece of it does. -/
theorem admits_iff_piece (read : readChars domain strict part = .ok spec) (value : Int) :
    spec.admits value = true ↔
      ∃ piece ∈ pieces ',' part,
        piece = ['*'] ∨ ∃ range, Piece piece range ∧ Between range.first range.last value := by
  rw [tokenAdmits_iff (readChars_eq_ok_iff.mp read).1 value, TokenAdmits]
  constructor
  · rintro ⟨parts, piece, split, member, admits⟩
    rw [← split_iff.mp split] at member
    exact ⟨piece, member, admits⟩
  · rintro ⟨piece, member, admits⟩
    exact ⟨_, piece, split_pieces ',' part, member, admits⟩

theorem readChars_append (read : readChars domain strict part = .ok spec)
    (otherRead : readChars domain strict other = .ok otherSpec) :
    ∃ both, readChars domain strict (part ++ ',' :: other) = .ok both ∧
      ∀ value, both.admits value = true ↔ spec.admits value = true ∨ otherSpec.admits value = true := by
  have all := pieces_append ',' part other
  obtain ⟨both, bothRead⟩ : ∃ both, readChars domain strict (part ++ ',' :: other) = .ok both := by
    rw [exists_readChars_iff, all]
    rcases exists_readChars_iff.mp ⟨spec, read⟩ with star | legal
    · exact .inl (List.mem_append_left _ star)
    · rcases exists_readChars_iff.mp ⟨otherSpec, otherRead⟩ with star | otherLegal
      · exact .inl (List.mem_append_right _ star)
      · exact .inr (List.forall_mem_append.mpr ⟨legal, otherLegal⟩)
  refine ⟨both, bothRead, fun value => ?_⟩
  rw [admits_iff_piece bothRead, admits_iff_piece read, admits_iff_piece otherRead, all]
  simp only [List.mem_append, or_and_right, exists_or]

/-- Parts with the same pieces are read alike, or neither is. -/
theorem readChars_of_same_pieces (same : ∀ piece, piece ∈ pieces ',' other ↔ piece ∈ pieces ',' part)
    (read : readChars domain strict part = .ok spec) :
    ∃ otherSpec, readChars domain strict other = .ok otherSpec ∧
      ∀ value, otherSpec.admits value = true ↔ spec.admits value = true := by
  obtain ⟨otherSpec, otherRead⟩ : ∃ otherSpec, readChars domain strict other = .ok otherSpec := by
    simp only [exists_readChars_iff, same]
    exact exists_readChars_iff.mp ⟨spec, read⟩
  refine ⟨otherSpec, otherRead, fun value => ?_⟩
  simp only [admits_iff_piece otherRead, admits_iff_piece read, same]

end FieldSpec

namespace Grammar

theorem Bound.solid {numeral : List Char} (bound : Bound numeral) : ∀ c ∈ numeral, isBlank c = false :=
  fun c member => isBlank_of_isDigit ((Decimal.isDigit_iff c).mpr (bound.numeral.2 c member))

theorem Piece.solid {piece : List Char} {range : Range} (written : Piece piece range) :
    ∀ c ∈ piece, isBlank c = false := by
  cases written with
  | single bound => exact bound.solid
  | pair first last =>
    rw [List.forall_mem_append, List.forall_mem_cons]
    exact ⟨first.solid, by decide, last.solid⟩

/-- A single piece that can be read has no blank in it. -/
theorem solid_of_read {domain : Option Domain} {strict : Bool} {piece : List Char} {spec : FieldSpec}
    (read : FieldSpec.readChars domain strict piece = .ok spec) (single : ',' ∉ piece) :
    ∀ c ∈ piece, isBlank c = false := by
  have alone := pieces_of_not_mem single
  rcases FieldSpec.exists_readChars_iff.mp ⟨spec, read⟩ with star | legal
  · rw [alone, List.mem_singleton] at star
    rw [← star]
    exact List.forall_mem_singleton.mpr (by decide)
  · obtain ⟨range, written, -⟩ := legal piece (by rw [alone]; exact List.mem_cons_self)
    exact written.solid

end Grammar

namespace PerField

variable {α : Type}

/-- The items with another one for one field. -/
def set (items : PerField α) (field : Field) (item : α) : PerField α :=
  ofFn fun other => if other = field then item else items.get other

theorem get_set (items : PerField α) (field other : Field) (item : α) :
    (items.set field item).get other = if other = field then item else items.get other :=
  get_ofFn _ _

theorem exists_toList_set (items : PerField α) (field : Field) :
    ∃ before after, items.toList = before ++ items.get field :: after ∧
      ∀ item, (items.set field item).toList = before ++ item :: after := by
  cases field with
  | minute => exact ⟨[], _, rfl, fun _ => rfl⟩
  | hour => exact ⟨[_], _, rfl, fun _ => rfl⟩
  | dayOfMonth => exact ⟨[_, _], _, rfl, fun _ => rfl⟩
  | month => exact ⟨[_, _, _], _, rfl, fun _ => rfl⟩
  | dayOfWeek => exact ⟨[_, _, _, _], [], rfl, fun _ => rfl⟩

end PerField

namespace Text

theorem Spaced.solid {text : List Char} {tokens : List (List Char)} (spaced : Spaced text tokens) :
    ∀ token ∈ tokens, token ≠ [] ∧ ∀ c ∈ token, isBlank c = false := by
  induction spaced with
  | done => simp
  | blank _ _ ih => exact ih
  | token inhabited solid _ _ ih => exact List.forall_mem_cons.mpr ⟨⟨inhabited, solid⟩, ih⟩

/-- A token can be replaced by another word where it stands. -/
theorem Spaced.exists_replaced {text token : List Char} {before after : List (List Char)}
    (spaced : Spaced text (before ++ token :: after)) :
    ∃ front back, text = front ++ token ++ back ∧
      ∀ word, word ≠ [] → (∀ c ∈ word, isBlank c = false) →
        Spaced (front ++ word ++ back) (before ++ word :: after) := by
  -- Blanks and tokens in front are kept, until no tokens are left before the one to be replaced.
  generalize same : before ++ token :: after = tokens at spaced
  induction spaced generalizing before with
  | done => simp at same
  | @blank c text tokens blank _ ih =>
    obtain ⟨front, back, rfl, replaced⟩ := ih same
    exact ⟨c :: front, back, rfl, fun word inhabited solid => .blank blank (replaced word inhabited solid)⟩
  | @token first text tokens inhabited solid ends spaced ih =>
    cases before with
    | nil =>
      obtain ⟨rfl, rfl⟩ := List.cons.inj same
      exact ⟨[], text, rfl, fun word some solid => .token some solid ends spaced⟩
    | cons head before =>
      obtain ⟨rfl, rest⟩ := List.cons.inj same
      obtain ⟨front, back, rfl, replaced⟩ := ih rest
      refine ⟨head ++ front, back, by simp, fun word some wordSolid => ?_⟩
      cases front with
      | nil =>
        -- Two tokens never touch, so something stands in front of the one that is replaced.
        obtain ⟨tokenInhabited, tokenSolid⟩ := spaced.solid token (by rw [← rest]; simp)
        obtain ⟨c, tail, rfl⟩ := List.exists_cons_of_ne_nil tokenInhabited
        have blank : isBlank c = true := ends c (by simp)
        rw [tokenSolid c List.mem_cons_self] at blank
        contradiction
      | cons c front =>
        have again := Spaced.token inhabited solid (by simpa using ends) (replaced word some wordSolid)
        simpa using again

end Text

/-! ## Schedules that admit more -/

namespace Grammar

/-- The tokens of a text, with a comma and a further piece behind the one of a field. -/
def extend (tokens : PerField (List Char)) (field : Field) (piece : List Char) : PerField (List Char) :=
  tokens.set field (tokens.get field ++ ',' :: piece)

/-- The longer text is the text but for its spacing and for a piece that is appended to a field. -/
def Extends (field : Field) (piece text longer : List Char) : Prop :=
  ∃ tokens : PerField (List Char), Spaced text tokens.toList ∧ Spaced longer (extend tokens field piece).toList

/-- A piece without blanks can be appended where the token of the field stands. -/
theorem exists_extends {text piece : List Char} {tokens : PerField (List Char)}
    (spaced : Spaced text tokens.toList) (field : Field) (solid : ∀ c ∈ piece, isBlank c = false) :
    ∃ front back, text = front ++ tokens.get field ++ back ∧
      Extends field piece text (front ++ (tokens.get field ++ ',' :: piece) ++ back) := by
  obtain ⟨before, after, listed, replacedList⟩ := tokens.exists_toList_set field
  have tokenSpaced := spaced
  rw [listed] at tokenSpaced
  obtain ⟨front, back, split, replaced⟩ := tokenSpaced.exists_replaced
  refine ⟨front, back, split, tokens, spaced, ?_⟩
  rw [extend, replacedList]
  refine replaced _ (by simp) ?_
  obtain ⟨-, tokenSolid⟩ := spaced.solid (tokens.get field) (by rw [listed]; simp)
  rw [List.forall_mem_append, List.forall_mem_cons]
  exact ⟨tokenSolid, by decide, solid⟩

end Grammar

namespace Schedule

variable {strict : Bool} {text longer : String} {schedule : Schedule} {field : Field} {piece : List Char}

theorem readField_get {tokens : PerField (List Char)} (spaced : Spaced text.toList tokens.toList)
    (accepted : read strict text = .ok schedule) (field : Field) :
    readField strict field (tokens.get field) = .ok (schedule.get field) := by
  have whole : (read strict text).map PerField.toList = _ := read_of_five spaced
  rw [accepted] at whole
  exact mapM_all_eq_ok_iff.mp whole.symm field

theorem read_of_readField {tokens : PerField (List Char)} (spaced : Spaced text.toList tokens.toList)
    (each : ∀ field, readField strict field (tokens.get field) = .ok (schedule.get field)) :
    read strict text = .ok schedule :=
  read_eq_ok_iff.mpr ⟨tokens, spaced, fun field => FieldSpec.readChars_eq_ok_iff.mp (each field)⟩

/-- A schedule with a piece more admits what it admitted before. -/
theorem read_of_extends (accepted : read strict text = .ok schedule) {extra : FieldSpec}
    (pieceRead : FieldSpec.readChars (some field.domain) strict piece = .ok extra)
    (grown : Extends field piece text.toList longer.toList) :
    ∃ extended, read strict longer = .ok extended ∧
      ∀ components, schedule.admits components = true → extended.admits components = true := by
  obtain ⟨tokens, spaced, longerSpaced⟩ := grown
  have each := readField_get spaced accepted
  obtain ⟨both, bothRead, admits⟩ := FieldSpec.readChars_append (each field) pieceRead
  refine ⟨schedule.set field both, read_of_readField longerSpaced fun other => ?_, fun components => ?_⟩
  · rw [extend, PerField.get_set, PerField.get_set]
    split
    · next same =>
      rw [same]
      exact bothRead
    · exact each other
  · rw [admits_iff, admits_iff]
    intro all other
    rw [PerField.get_set]
    split
    · next same => exact (admits _).mpr (.inl (same ▸ all other))
    · exact all other

end Schedule

namespace FieldSpec

/-- Parts joined by a comma are read if each of them is, and then admit what one of them does. Pieces in
another order, or repeated, are read as before and admit the same. An expression with one more piece, which
can be appended to a field where it stands, is read again, and no gate denies for it what was allowed. -/
theorem comma_is_union (strict : Bool) :
    (∀ domain part other spec otherSpec, read domain strict part = .ok spec →
      read domain strict other = .ok otherSpec →
      ∃ both, read domain strict (part ++ "," ++ other) = .ok both ∧
        ∀ value, both.admits value = true ↔ spec.admits value = true ∨ otherSpec.admits value = true) ∧
    (∀ domain part other spec parts others, read domain strict part = .ok spec →
      Split ',' part.toList parts → Split ',' other.toList others →
      (∀ piece, piece ∈ others ↔ piece ∈ parts) →
      ∃ otherSpec, read domain strict other = .ok otherSpec ∧
        ∀ value, otherSpec.admits value = true ↔ spec.admits value = true) ∧
    (∀ text schedule field piece extra, Schedule.read strict text = .ok schedule →
      read (some field.domain) strict piece = .ok extra →
      (',' ∉ piece.toList → ∃ front token back, text = front ++ token ++ back ∧
        Extends field piece.toList text.toList (front ++ token ++ "," ++ piece ++ back).toList) ∧
      ∀ longer, Extends field piece.toList text.toList longer.toList →
        ∀ provider zone gate, Gate.build provider (.text text) zone strict = .ok gate →
          ∃ widened, Gate.build provider (.text longer) zone strict = .ok widened ∧
            ∀ candidate, (gate.allows provider candidate = .ok true →
                widened.allows provider candidate = .ok true) ∧
              ∀ e, gate.allows provider candidate = .error e ↔
                widened.allows provider candidate = .error e) := by
  refine ⟨?union, ?pieces, fun text schedule field piece extra accepted pieceRead => ⟨?place, ?gates⟩⟩
  case union =>
    intro domain part other spec otherSpec partRead otherRead
    obtain ⟨both, bothRead, admits⟩ := readChars_append partRead otherRead
    refine ⟨both, ?_, admits⟩
    rw [read, String.toList_append, String.toList_append, List.append_assoc]
    exact bothRead
  case pieces =>
    intro domain part other spec parts others partRead split otherSplit same
    rw [← split_iff.mp split, ← split_iff.mp otherSplit] at same
    exact readChars_of_same_pieces same partRead
  case place =>
    intro single
    obtain ⟨tokens, spaced, -⟩ := Schedule.read_eq_ok_iff.mp accepted
    obtain ⟨front, back, split, extended⟩ := exists_extends spaced field (solid_of_read pieceRead single)
    refine ⟨.ofList front, .ofList (tokens.get field), .ofList back, ?_, ?_⟩
    · apply String.toList_inj.mp
      simpa using split
    · simpa using extended
  case gates =>
    intro longer grown provider zone gate built
    obtain ⟨found, name, foundRead, rfl, known, rfl⟩ := Gate.build_eq_ok_iff.mp built
    obtain ⟨extended, longerRead, more⟩ := Schedule.read_of_extends foundRead pieceRead grown
    refine ⟨⟨extended, name, strict⟩,
      Gate.build_eq_ok_iff.mpr ⟨extended, name, longerRead, rfl, known, rfl⟩, fun candidate => ?_⟩
    -- Both gates stand in one zone, so they look at the same numbers.
    have same : Gate.components provider ⟨extended, name, strict⟩ candidate =
        Gate.components provider ⟨found, name, strict⟩ candidate := by
      cases candidate <;> rfl
    rw [Gate.allows, Gate.allows, same]
    refine ⟨fun allowed => ?_, fun e => ?_⟩
    · obtain ⟨components, looked, admitted⟩ := map_eq_ok_iff.mp allowed
      exact map_eq_ok_iff.mpr ⟨components, looked, more components admitted⟩
    · rw [map_eq_error_iff, map_eq_error_iff]

end FieldSpec

end TimeGate
