import TimeGate.Proofs.Text.Quoted
import TimeGate.Proofs.Text.Splitting
import TimeGate.Value

/-! Displayed values stay in one line, however deep they are and whatever their texts hold. Only texts are
under the control of who writes a value, and they are quoted; the rest is digits, signs and brackets. -/

set_option autoImplicit false

namespace TimeGate

open TimeGate.Text

namespace Text

theorem InLine.of_subset {text other : List Char} (inLine : InLine other) (subset : text ⊆ other) :
    InLine text := fun c member => inLine c (subset member)

theorem inLine_replicate {c : Char} (isInLine : IsInLine c) (count : Nat) :
    InLine (List.replicate count c) := fun _ member => List.eq_of_mem_replicate member ▸ isInLine

theorem inLine_joined {separator : List Char} {texts : List (List Char)} (apart : InLine separator)
    (each : ∀ text ∈ texts, InLine text) : InLine (joined separator texts) := by
  intro c member
  rcases mem_joined member with between | ⟨text, listed, inside⟩
  · exact apart c between
  · exact each text listed c inside

end Text

namespace Decimal

theorem inLine_digits (n : Nat) : InLine (digits n) := fun c member =>
  isInLine_of_isDigit ((isDigit_iff c).mpr ((numeral_digits n).2 c member))

theorem inLine_padded (width n : Nat) : InLine (padded width n) := fun _ member =>
  isInLine_of_isDigit (isDigit_of_mem_padded member)

theorem inLine_signedDigits (n : Int) : InLine (signedDigits n) := by
  intro c member
  rcases mem_signedDigits member with rfl | digit
  · decide
  · exact isInLine_of_isDigit digit

theorem Scientific.inLine_text (s : Scientific) : InLine s.text := by
  -- The digits without the zeros at their end are some of the digits.
  have trimmed : InLine ((digits s.significand).reverse.dropWhile (· == '0')).reverse :=
    (inLine_digits s.significand).of_subset fun c member =>
      List.mem_reverse.mp ((List.dropWhile_sublist _).subset (List.mem_reverse.mp member))
  unfold Scientific.text
  generalize ((digits s.significand).reverse.dropWhile (· == '0')).reverse = ds at trimmed
  have zeros (count : Nat) := inLine_replicate (c := '0') (by decide) count
  have front (count : Nat) : InLine (ds.take count) := trimmed.of_subset (List.take_subset count ds)
  have back (count : Nat) : InLine (ds.drop count) := trimmed.of_subset (List.drop_subset count ds)
  have point : IsInLine '.' := by decide
  dsimp only
  split
  · split
    · simp +decide [zeros, trimmed]
    split
    · simp [front, back, point]
    · simp +decide [zeros, trimmed]
  · rw [inLine_append_iff, inLine_append_iff]
    refine ⟨⟨?_, ?_⟩, inLine_padded 2 _⟩
    · split
      · decide
      · exact trimmed
      · simpa [point] using trimmed
    · split <;> decide

theorem Binary64.inLine_text (x : Binary64) : InLine x.text := by
  cases x with
  | nan => decide
  | infinite negative => cases negative <;> decide
  | finite negative significand exponent =>
    rw [Binary64.text, inLine_append_iff]
    constructor
    · split <;> decide
    · split
      · decide
      · exact (shortest significand exponent).inLine_text

end Decimal

theorem Foreign.inLine_kindName (leaf : Foreign) : InLine leaf.kindName.toList := by
  unfold Foreign.kindName
  split <;> decide

theorem Scalar.inLine_display (leaf : Scalar) : InLine leaf.display := by
  cases leaf with
  | null => decide
  | bool b => cases b <;> decide
  | int n => exact Decimal.inLine_signedDigits n
  | float x => exact x.inLine_text
  | text s => exact inLine_quoteChars s.toList
  | foreign leaf => exact leaf.inLine_kindName

namespace Value

mutual

/-- A displayed value never leaves its line. -/
theorem inLine_display : (value : Value) → InLine value.display
  | .scalar leaf => leaf.inLine_display
  | .list items => by
    rw [display, inLine_cons_iff, inLine_append_iff]
    exact ⟨by decide, inLine_joined (by decide) (inLine_displayItems items), by decide⟩
  | .map entries => by
    rw [display, inLine_cons_iff, inLine_append_iff]
    exact ⟨by decide, inLine_joined (by decide) (inLine_displayEntries entries), by decide⟩

theorem inLine_displayItems : (items : List Value) → ∀ shown ∈ displayItems items, InLine shown
  | [] => by simp [displayItems]
  | item :: rest => by
    rw [displayItems, List.forall_mem_cons]
    exact ⟨inLine_display item, inLine_displayItems rest⟩

theorem inLine_displayEntries :
    (entries : List (Scalar × Value)) → ∀ shown ∈ displayEntries entries, InLine shown
  | [] => by simp [displayEntries]
  | (key, value) :: rest => by
    rw [displayEntries, List.forall_mem_cons, inLine_append_iff, inLine_append_iff]
    exact ⟨⟨⟨key.inLine_display, by decide⟩, inLine_display value⟩, inLine_displayEntries rest⟩

end

end Value

end TimeGate
