import Mathlib.Logic.Function.Defs
import TimeGate.Decimal.Numeral

/-! Numerals as a language, and their numbers. Writing a number gives a numeral that is read back as
that number; a sign is one dash in front. -/

set_option autoImplicit false

namespace TimeGate.Decimal

/-- A non-empty run of the digits `0` to `9`. -/
def Numeral (text : List Char) : Prop := text ≠ [] ∧ ∀ c ∈ text, '0' ≤ c ∧ c ≤ '9'

theorem isDigit_iff (c : Char) : c.isDigit = true ↔ '0' ≤ c ∧ c ≤ '9' := by
  simp [Char.isDigit, Char.le_def]

theorem isNumeral_iff (text : List Char) : isNumeral text = true ↔ Numeral text := by
  simp [isNumeral, Numeral, isDigit_iff]

theorem numeral_digits (n : Nat) : Numeral (digits n) :=
  ⟨Nat.toDigits_ne_nil, fun c member =>
    (isDigit_iff c).mp (Nat.isDigit_of_mem_toDigits (by decide) (by decide) member)⟩

theorem Numeral.not_mem {text : List Char} (numeral : Numeral text) {c : Char}
    (other : c.isDigit = false) : c ∉ text := by
  intro member
  rw [(isDigit_iff c).mpr (numeral.2 c member)] at other
  contradiction

@[simp] theorem value_digits (n : Nat) : value (digits n) = n := Nat.ofDigitChars_ten_toDigits

theorem digits_injective : Function.Injective digits :=
  Function.LeftInverse.injective value_digits

/-- Zeros in front of a numeral do not change its number. -/
theorem value_zeros (count : Nat) (numeral : List Char) :
    value (List.replicate count '0' ++ numeral) = value numeral := by
  rw [value, Nat.ofDigitChars_append, Nat.ofDigitChars_replicate_zero, Nat.mul_zero, value]

theorem signedDigits_of_nonneg {n : Int} (nonneg : 0 ≤ n) : signedDigits n = digits n.natAbs := by
  cases n with
  | ofNat n => rfl
  | negSucc n => simp at nonneg

theorem signedDigits_of_neg {n : Int} (negative : n < 0) :
    signedDigits n = '-' :: digits n.natAbs := by
  cases n with
  | ofNat n => exact absurd negative (Int.not_lt.mpr (Int.natCast_nonneg n))
  | negSucc n => rfl

theorem signedDigits_ne_nil (n : Int) : signedDigits n ≠ [] := by
  cases n with
  | ofNat n => exact (numeral_digits n).1
  | negSucc n => exact List.cons_ne_nil _ _

theorem mem_signedDigits {n : Int} {c : Char} (member : c ∈ signedDigits n) :
    c = '-' ∨ c.isDigit = true := by
  by_cases negative : n < 0
  · rw [signedDigits_of_neg negative] at member
    rcases List.mem_cons.mp member with same | member
    · exact .inl same
    · exact .inr ((isDigit_iff c).mpr ((numeral_digits _).2 c member))
  · rw [signedDigits_of_nonneg (Int.not_lt.mp negative)] at member
    exact .inr ((isDigit_iff c).mpr ((numeral_digits _).2 c member))

/-! ## Superfluous zeros -/

/-- No zero stands in front of another digit. -/
def Unpadded (numeral : List Char) : Prop := numeral.head? = some '0' → numeral = ['0']

instance (numeral : List Char) : Decidable (Unpadded numeral) :=
  inferInstanceAs (Decidable (_ → _))

theorem Numeral.tail {c : Char} {rest : List Char} (numeral : Numeral (c :: rest)) (more : rest ≠ []) :
    Numeral rest :=
  ⟨more, fun other member => numeral.2 other (List.mem_cons_of_mem _ member)⟩

theorem exists_digitChar {c : Char} (digit : '0' ≤ c ∧ c ≤ '9') : ∃ d < 10, Nat.digitChar d = c := by
  have low : 48 ≤ c.toNat := digit.1
  have high : c.toNat ≤ 57 := digit.2
  have all : ∀ d : Fin 10, (Nat.digitChar d).toNat = d + 48 := by decide
  refine ⟨c.toNat - 48, by omega, Char.toNat_inj.mp ?_⟩
  rw [all ⟨c.toNat - 48, by omega⟩]
  exact Nat.sub_add_cancel low

/-- Digits behind those of a number that is not zero write the number that they continue. -/
theorem digits_append {n : Nat} (positive : 0 < n) {rest : List Char}
    (digit : ∀ c ∈ rest, '0' ≤ c ∧ c ≤ '9') : digits n ++ rest = digits (Nat.ofDigitChars 10 rest n) := by
  -- Each digit continues the number before it, so the number varies.
  induction rest generalizing n with
  | nil => rw [List.append_nil, Nat.ofDigitChars_nil]
  | cons c rest ih =>
    obtain ⟨d, small, rfl⟩ := exists_digitChar (digit c List.mem_cons_self)
    have step : digits n ++ [Nat.digitChar d] = digits (10 * n + d) := by
      rw [digits, ← Nat.toDigits_of_lt_base small]
      exact Nat.toDigits_append_toDigits (by decide) positive small
    rw [Nat.ofDigitChars_cons_digitChar_of_lt_ten small, List.append_cons, step]
    exact ih (by omega) fun other member => digit other (List.mem_cons_of_mem _ member)

theorem digits_value {numeral : List Char} (isNumeral : Numeral numeral) (unpadded : Unpadded numeral) :
    digits (value numeral) = numeral := by
  cases numeral with
  | nil => exact absurd rfl isNumeral.1
  | cons c rest =>
    obtain ⟨d, small, rfl⟩ := exists_digitChar (isNumeral.2 c List.mem_cons_self)
    -- Nothing can be put behind a zero; any other first digit is a number to continue.
    cases d with
    | zero =>
      rw [unpadded rfl]
      rfl
    | succ d =>
      have continued := digits_append (Nat.succ_pos d) fun other member =>
        isNumeral.2 other (List.mem_cons_of_mem _ member)
      rw [digits, Nat.toDigits_of_lt_base small] at continued
      rw [value, Nat.ofDigitChars_cons_digitChar_of_lt_ten small, Nat.mul_zero, Nat.zero_add]
      exact continued.symm

/-- Writing a number takes no more digits than were read. -/
theorem length_digits_value_le {numeral : List Char} (isNumeral : Numeral numeral) :
    (digits (value numeral)).length ≤ numeral.length := by
  induction numeral with
  | nil => exact absurd rfl isNumeral.1
  | cons c rest ih =>
    by_cases unpadded : Unpadded (c :: rest)
    · exact Nat.le_of_eq (congrArg List.length (digits_value isNumeral unpadded))
    · -- The first digit is a zero and counts for nothing.
      obtain ⟨zero, more⟩ := Classical.not_imp.mp unpadded
      obtain rfl : c = '0' := Option.some.inj zero
      exact Nat.le_succ_of_le (ih (isNumeral.tail fun empty => more (by rw [empty])))

/-- A numeral is written as it was read exactly if it has no superfluous zero. -/
theorem digits_value_iff {numeral : List Char} (isNumeral : Numeral numeral) :
    digits (value numeral) = numeral ↔ Unpadded numeral := by
  refine ⟨fun same zero => ?_, digits_value isNumeral⟩
  obtain ⟨rest, rfl⟩ := List.head?_eq_some_iff.mp zero
  by_cases more : rest = []
  · rw [more]
  · have equal : value ('0' :: rest) = value rest := value_zeros 1 rest
    have short := length_digits_value_le (isNumeral.tail more)
    rw [← equal, same] at short
    exact absurd short (Nat.not_succ_le_self _)

/-! ## Zeros up to a width -/

section Padded

variable {width n : Nat}

theorem length_padded (positive : 0 < width) (small : n < Nat.pow 10 width) :
    (padded width n).length = width := by
  have fits : (digits n).length ≤ width := (Nat.length_toDigits_le_iff (by decide) positive).mpr small
  rw [padded, List.length_append, List.length_replicate, Nat.sub_add_cancel fits]

theorem isDigit_of_mem_padded {c : Char} (member : c ∈ padded width n) : c.isDigit = true := by
  rcases List.mem_append.mp member with zero | digit
  · rw [List.eq_of_mem_replicate zero]
    rfl
  · exact (isDigit_iff c).mpr ((numeral_digits n).2 c digit)

theorem value_padded : value (padded width n) = n := by rw [padded, value_zeros, value_digits]

end Padded

end TimeGate.Decimal
