import TimeGate.Proofs.Decimal.Numeral
import TimeGate.Text.Quoted

/-! Quoted text. It keeps to its line, whatever text is quoted, and where it ends and what it quotes can be told
from it: every character has one spelling of at least one character, no spelling is the beginning of
another, and none starts like the quote that ends the text. -/

set_option autoImplicit false

namespace TimeGate.Text

/-! ## Keeping to a line -/

/-- A character that neither ends a line nor steers a terminal. -/
def IsInLine (c : Char) : Prop :=
  0x20 ≤ c.toNat ∧ ¬ (0x7F ≤ c.toNat ∧ c.toNat ≤ 0xA0) ∧ c.toNat ≠ 0x2028 ∧ c.toNat ≠ 0x2029

instance (c : Char) : Decidable (IsInLine c) := inferInstanceAs (Decidable (_ ∧ _))

def InLine (text : List Char) : Prop := ∀ c ∈ text, IsInLine c

instance (text : List Char) : Decidable (InLine text) := List.decidableBAll IsInLine text

@[simp] theorem inLine_nil : InLine [] := by simp [InLine]

@[simp] theorem inLine_cons_iff {c : Char} {text : List Char} :
    InLine (c :: text) ↔ IsInLine c ∧ InLine text := List.forall_mem_cons

@[simp] theorem inLine_append_iff {text other : List Char} :
    InLine (text ++ other) ↔ InLine text ∧ InLine other := List.forall_mem_append

theorem isInLine_of_isPrintable {c : Char} (printable : isPrintable c = true) : IsInLine c := by
  rw [isPrintable, Bool.and_eq_true, Bool.not_eq_true'] at printable
  simpa [isControl, IsInLine, and_assoc] using printable.1

theorem isInLine_of_isDigit {c : Char} (digit : c.isDigit = true) : IsInLine c := by
  have low : 48 ≤ c.toNat := ((Decimal.isDigit_iff c).mp digit).1
  have high : c.toNat ≤ 57 := ((Decimal.isDigit_iff c).mp digit).2
  unfold IsInLine
  omega

theorem isInLine_digitChar : ∀ n < 16, IsInLine (Nat.digitChar n) := by decide

theorem inLine_hexDigits (count n : Nat) : InLine (hexDigits count n) := by
  induction count generalizing n with
  | zero => exact inLine_nil
  | succ count ih =>
    rw [hexDigits, inLine_append_iff, inLine_cons_iff]
    exact ⟨ih _, isInLine_digitChar _ (Nat.mod_lt n (by decide)), inLine_nil⟩

/-! ## Spellings -/

theorem length_hexDigits (count n : Nat) : (hexDigits count n).length = count := by
  induction count generalizing n with
  | zero => rfl
  | succ count ih => rw [hexDigits, List.length_append, ih, List.length_singleton]

theorem digitChar_injective_below : ∀ n < 16, ∀ m < 16, Nat.digitChar n = Nat.digitChar m → n = m := by
  decide

theorem hexDigits_injective {count n m : Nat} (small : n < Nat.pow 16 count) (otherSmall : m < Nat.pow 16 count)
    (same : hexDigits count n = hexDigits count m) : n = m := by
  induction count generalizing n m with
  | zero => exact (Nat.lt_one_iff.mp small).trans (Nat.lt_one_iff.mp otherSmall).symm
  | succ count ih =>
    have fits : n / 16 < Nat.pow 16 count := Nat.div_lt_of_lt_mul (Nat.mul_comm _ _ ▸ small)
    have otherFits : m / 16 < Nat.pow 16 count := Nat.div_lt_of_lt_mul (Nat.mul_comm _ _ ▸ otherSmall)
    obtain ⟨front, last⟩ := List.append_inj same (by rw [length_hexDigits, length_hexDigits])
    have low : n % 16 = m % 16 :=
      digitChar_injective_below _ (Nat.mod_lt n (by decide)) _ (Nat.mod_lt m (by decide)) (List.cons.inj last).1
    have high : n / 16 = m / 16 := ih fits otherFits front
    omega

/-- The letters that stand behind a backslash for a character of their own. -/
def marks : List (Char × Char) := [('\\', '\\'), ('\t', 't'), ('\n', 'n'), ('\r', 'r')]

/-- The letters that announce the number of a character, with how many digits follow. -/
def widths : List (Char × Nat) := [('x', 2), ('u', 4), ('U', 8)]

/-- The spellings of a character between quotes. -/
inductive Spelled (quote c : Char) : List Char → Prop where
  | plain : c ≠ quote → c ≠ '\\' → IsInLine c → Spelled quote c [c]
  | mark {m : Char} : (c, m) ∈ (quote, quote) :: marks → Spelled quote c ['\\', m]
  | number {letter : Char} {width : Nat} : (letter, width) ∈ widths → c.toNat < Nat.pow 16 width →
      Spelled quote c ('\\' :: letter :: hexDigits width c.toNat)

theorem toNat_lt_limit (c : Char) : c.toNat < 0x110000 := by
  have valid : c.val.toNat < 0xD800 ∨ 0xDFFF < c.val.toNat ∧ c.val.toNat < 0x110000 := c.valid
  have : c.toNat = c.val.toNat := rfl
  omega

theorem spelled_quoteChar (quote c : Char) : Spelled quote c (quoteChar quote c) := by
  unfold quoteChar
  split
  · next same =>
    rw [Bool.or_eq_true, decide_eq_true_iff, decide_eq_true_iff] at same
    rcases same with rfl | rfl
    · exact .mark List.mem_cons_self
    · exact .mark (List.mem_cons_of_mem _ (by decide))
  · next other =>
    rw [Bool.or_eq_true, decide_eq_true_iff, decide_eq_true_iff, not_or] at other
    split
    · next same => exact .mark (List.mem_cons_of_mem _ (by subst same; decide))
    split
    · next same => exact .mark (List.mem_cons_of_mem _ (by subst same; decide))
    split
    · next same => exact .mark (List.mem_cons_of_mem _ (by subst same; decide))
    split
    · next printable => exact .plain other.1 other.2 (isInLine_of_isPrintable printable)
    · unfold hexEscape
      split
      · next small => exact .number (by decide) small
      split
      · next small => exact .number (by decide) small
      · exact .number (by decide) (Nat.lt_of_lt_of_le (toNat_lt_limit c) (by decide))

/-- The quotes that are put around a text. -/
def IsQuote (c : Char) : Prop := c = '\'' ∨ c = '"'

theorem isQuote_quoteFor (text : List Char) : IsQuote (quoteFor text) := by
  unfold quoteFor IsQuote
  split <;> simp

section
variable {quote : Char} (isQuote : IsQuote quote)
include isQuote

theorem IsQuote.isInLine : IsInLine quote := by
  rcases isQuote with rfl | rfl <;> decide

theorem IsQuote.ne_backslash : quote ≠ '\\' := by
  rcases isQuote with rfl | rfl <;> decide

theorem isInLine_of_mark {c m : Char} (member : (c, m) ∈ (quote, quote) :: marks) : IsInLine m := by
  rcases List.mem_cons.mp member with same | member
  · obtain ⟨-, rfl⟩ := Prod.mk.inj same
    exact isQuote.isInLine
  · exact (by decide : ∀ p ∈ marks, IsInLine p.2) _ member

/-- The letter of a mark tells its character and announces no number. -/
theorem mark_unique {c d m : Char} (member : (c, m) ∈ (quote, quote) :: marks)
    (other : (d, m) ∈ (quote, quote) :: marks) : c = d := by
  have apart : ∀ q, IsQuote q → ∀ p ∈ (q, q) :: marks, ∀ p' ∈ (q, q) :: marks, p.2 = p'.2 → p.1 = p'.1 := by
    rintro q (rfl | rfl) <;> decide
  exact apart quote isQuote _ member _ other rfl

theorem mark_ne_letter {c m letter : Char} {width : Nat} (member : (c, m) ∈ (quote, quote) :: marks)
    (other : (letter, width) ∈ widths) : m ≠ letter := by
  have apart : ∀ q, IsQuote q → ∀ p ∈ (q, q) :: marks, ∀ p' ∈ widths, p.2 ≠ p'.1 := by
    rintro q (rfl | rfl) <;> decide
  exact apart quote isQuote _ member _ other

theorem Spelled.inLine {c : Char} {spelling : List Char} (spelled : Spelled quote c spelling) :
    InLine spelling := by
  have backslash : IsInLine '\\' := by decide
  cases spelled with
  | plain _ _ isInLine => simpa using isInLine
  | mark member => simpa [backslash] using isInLine_of_mark isQuote member
  | number member small =>
    have letter : ∀ p ∈ widths, IsInLine p.1 := by decide
    simpa [backslash, inLine_hexDigits] using letter _ member

/-- A spelling does not start like the end of the text. -/
theorem Spelled.head_ne {c : Char} {spelling : List Char} (spelled : Spelled quote c spelling) :
    ∃ first more, spelling = first :: more ∧ first ≠ quote := by
  cases spelled with
  | plain unlike => exact ⟨_, _, rfl, unlike⟩
  | mark => exact ⟨_, _, rfl, isQuote.ne_backslash.symm⟩
  | number => exact ⟨_, _, rfl, isQuote.ne_backslash.symm⟩

/-- What was spelled can be told from the beginning of the text. -/
theorem Spelled.cancel {c d : Char} {left right rest others : List Char} (first : Spelled quote c left)
    (second : Spelled quote d right) (same : left ++ rest = right ++ others) : c = d ∧ rest = others := by
  -- A backslash tells the escapes from what is plain, and the character behind it one escape from another.
  cases first with
  | plain _ unescaped =>
    cases second with
    | plain => simpa using same
    | mark | number => exact absurd (List.cons.inj same).1 unescaped
  | mark member =>
    cases second with
    | plain _ unescaped => exact absurd (List.cons.inj same).1.symm unescaped
    | mark other =>
      obtain ⟨rfl, tail⟩ := List.cons.inj (List.cons.inj same).2
      exact ⟨mark_unique isQuote member other, tail⟩
    | number other =>
      exact absurd (List.cons.inj (List.cons.inj same).2).1 (mark_ne_letter isQuote member other)
  | number member small =>
    cases second with
    | plain _ unescaped => exact absurd (List.cons.inj same).1.symm unescaped
    | mark other =>
      exact absurd (List.cons.inj (List.cons.inj same).2).1.symm (mark_ne_letter isQuote other member)
    | number other otherSmall =>
      obtain ⟨rfl, tail⟩ := List.cons.inj (List.cons.inj same).2
      have apart : ∀ p ∈ widths, ∀ p' ∈ widths, p.1 = p'.1 → p.2 = p'.2 := by decide
      obtain rfl := apart _ member _ other rfl
      obtain ⟨digits, tail⟩ := List.append_inj tail (by rw [length_hexDigits, length_hexDigits])
      exact ⟨Char.toNat_inj.mp (hexDigits_injective small otherSmall digits), tail⟩

/-! ## The whole text -/

theorem inLine_flatMap_quoteChar (text : List Char) : InLine (text.flatMap (quoteChar quote)) := by
  induction text with
  | nil => exact inLine_nil
  | cons c text ih =>
    rw [List.flatMap_cons, inLine_append_iff]
    exact ⟨(spelled_quoteChar quote c).inLine isQuote, ih⟩

/-- Spellings up to the quote that ends them tell what was spelled and what follows. -/
theorem flatMap_quoteChar_cancel {text other rest others : List Char}
    (same : text.flatMap (quoteChar quote) ++ quote :: rest = other.flatMap (quoteChar quote) ++ quote :: others) :
    text = other ∧ rest = others := by
  -- No spelling starts with the quote, so neither text ends where the other goes on.
  induction text generalizing other with
  | nil =>
    cases other with
    | nil => exact ⟨rfl, (List.cons.inj same).2⟩
    | cons d other =>
      obtain ⟨first, more, spelling, unlike⟩ := (spelled_quoteChar quote d).head_ne isQuote
      rw [List.flatMap_cons, spelling] at same
      exact absurd (List.cons.inj same).1.symm unlike
  | cons c text ih =>
    cases other with
    | nil =>
      obtain ⟨first, more, spelling, unlike⟩ := (spelled_quoteChar quote c).head_ne isQuote
      rw [List.flatMap_cons, spelling] at same
      exact absurd (List.cons.inj same).1 unlike
    | cons d other =>
      rw [List.flatMap_cons, List.flatMap_cons, List.append_assoc, List.append_assoc] at same
      obtain ⟨rfl, remaining⟩ := (spelled_quoteChar quote c).cancel isQuote (spelled_quoteChar quote d) same
      obtain ⟨rfl, follows⟩ := ih remaining
      exact ⟨rfl, follows⟩

end

/-- Whatever is quoted stays in its line. -/
theorem inLine_quoteChars (text : List Char) : InLine (quoteChars text) := by
  have isQuote := isQuote_quoteFor text
  rw [quoteChars, inLine_cons_iff, inLine_append_iff, inLine_cons_iff]
  exact ⟨isQuote.isInLine, inLine_flatMap_quoteChar isQuote text, isQuote.isInLine, inLine_nil⟩

/-- A quoted text at the beginning of a text tells what was quoted and what follows it. -/
theorem quoteChars_cancel {text other rest others : List Char}
    (same : quoteChars text ++ rest = quoteChars other ++ others) : text = other ∧ rest = others := by
  rw [quoteChars, quoteChars, List.cons_append, List.cons_append, List.append_assoc, List.append_assoc] at same
  obtain ⟨quote, body⟩ := List.cons.inj same
  rw [← quote] at body
  exact flatMap_quoteChar_cancel (isQuote_quoteFor text) body

/-- So does a quoted text behind a beginning that is known. -/
theorem eq_of_quoted_behind {front rest others : List Char} {text other : String}
    (same : front ++ (quoteChars text.toList ++ rest) = front ++ (quoteChars other.toList ++ others)) :
    text = other :=
  String.toList_inj.mp (quoteChars_cancel (List.append_cancel_left same)).1

end TimeGate.Text
