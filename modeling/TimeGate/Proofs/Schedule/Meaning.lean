import TimeGate.Proofs.Schedule.Reading

/-! What a schedule text admits, said about the text itself. A token admits a value if one of its
pieces does; a text admits five values if each token admits the value in its place. -/

set_option autoImplicit false

namespace TimeGate

open TimeGate.Decimal TimeGate.Text TimeGate.Traversal

/-- Inclusive membership between two bounds. Bounds in descending order wrap around. -/
def Between (first last value : Int) : Prop :=
  (first = last ∧ value = first) ∨ (first < last ∧ first ≤ value ∧ value ≤ last) ∨
    (last < first ∧ (first ≤ value ∨ value ≤ last))

theorem Range.admits_iff (range : Range) (value : Int) :
    range.admits value = true ↔ Between range.first range.last value := by
  unfold Range.admits Between
  split
  · next same => rw [beq_iff_eq]; omega
  · split
    · simp only [Bool.and_eq_true, decide_eq_true_eq]; omega
    · simp only [Bool.or_eq_true, decide_eq_true_eq]; omega

namespace Grammar

/-- The token has a piece `*`, or a piece that writes a range with the value in it. -/
def TokenAdmits (token : List Char) (value : Int) : Prop :=
  ∃ parts piece, Split ',' token parts ∧ piece ∈ parts ∧
    (piece = ['*'] ∨ ∃ range, Piece piece range ∧ Between range.first range.last value)

theorem tokenAdmits_iff {token : List Char} {spec : FieldSpec} (written : Token token spec)
    (value : Int) : spec.admits value = true ↔ TokenAdmits token value := by
  cases written with
  | any split star => exact iff_of_true rfl ⟨_, _, split, star, .inl rfl⟩
  | @union parts set split plain related =>
    rw [FieldSpec.admits, List.any_eq_true]
    constructor
    · rintro ⟨range, member, admits⟩
      obtain ⟨piece, found, now⟩ := exists_related related.flip member
      exact ⟨parts, piece, split, found, .inr ⟨range, now, (range.admits_iff value).mp admits⟩⟩
    · -- A token falls apart in one way only, so the piece is one of those that were read.
      rintro ⟨others, piece, otherSplit, found, star | ⟨range, now, between⟩⟩
      · subst star
        exact absurd (split.unique otherSplit ▸ found) plain
      · rw [otherSplit.unique split] at found
        obtain ⟨other, member, again⟩ := exists_related related found
        refine ⟨other, member, (other.admits_iff value).mpr ?_⟩
        rwa [← FieldSpec.piece_unique now again]

end Grammar

theorem Schedule.admits_iff {schedule : Schedule} {components : Components} :
    schedule.admits components = true ↔
      ∀ field, (schedule.get field).admits (components.get field) = true := by
  rw [Schedule.admits, List.all_eq_true]
  exact ⟨fun all field => all field field.mem_all, fun all field _ => all field⟩

/-- A schedule admits what its text admits, each token being asked for the value in its own place. -/
theorem Schedule.admits_iff_tokens {strict : Bool} {text : String} {schedule : Schedule}
    (ok : Schedule.read strict text = .ok schedule) :
    ∃ tokens, Spaced text.toList tokens ∧ ∀ components : Components,
      schedule.admits components = true ↔
        List.Forall₂ Grammar.TokenAdmits tokens components.toList := by
  obtain ⟨tokens, spaced, written⟩ := Schedule.read_eq_ok_iff.mp ok
  refine ⟨tokens.toList, spaced, fun components => ?_⟩
  rw [Schedule.admits_iff, PerField.forall₂_toList_iff]
  exact forall_congr' fun field => Grammar.tokenAdmits_iff (written field).1 _

end TimeGate
