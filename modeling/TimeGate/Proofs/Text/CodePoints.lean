import TimeGate.Text.CodePoints

/-! Characters among code points. Marking shows the characters as they are, so what is found in a marked text
without the mark stands in the text itself. -/

set_option autoImplicit false

namespace TimeGate.Text.CodePoints

theorem char?_toNat (c : Char) : char? c.toNat = some c := by
  rw [char?, if_pos (show c.toNat.isValidChar from c.valid), Char.ofNat_toNat]

theorem toNat_of_char? {point : Nat} {c : Char} (found : char? point = some c) : c.toNat = point := by
  unfold char? at found
  split at found
  · next valid =>
    cases found
    rw [Char.ofNat, dif_pos valid]
    rfl
  · contradiction

theorem marked_cons (point : Nat) (rest : CodePoints) :
    marked (point :: rest) = (char? point).getD '\ufffd' :: marked rest := rfl

theorem ofChars_append (front rest : List Char) : ofChars (front ++ rest) = ofChars front ++ ofChars rest :=
  List.map_append

theorem marked_ofChars_append (front : List Char) (rest : CodePoints) :
    marked (ofChars front ++ rest) = front ++ marked rest := by
  induction front with
  | nil => rfl
  | cons c front ih =>
    rw [ofChars, List.map_cons, List.cons_append, marked_cons, char?_toNat]
    exact congrArg (c :: ·) ih

theorem marked_ofChars (text : List Char) : marked (ofChars text) = text := by
  have whole := marked_ofChars_append text []
  rw [List.append_nil] at whole
  exact whole.trans (List.append_nil text)

/-- Only a code point that is no character is marked. -/
theorem toNat_of_mark {point : Nat} {c : Char} (unmarked : c ≠ '\ufffd')
    (same : (char? point).getD '\ufffd' = c) : c.toNat = point := by
  cases found : char? point with
  | none =>
    rw [found] at same
    exact absurd same.symm unmarked
  | some other =>
    rw [found] at same
    cases same
    exact toNat_of_char? found

theorem exists_of_marked {text : CodePoints} {front rest : List Char} (unmarked : '\ufffd' ∉ front)
    (same : marked text = front ++ rest) : ∃ behind, text = ofChars front ++ behind := by
  induction front generalizing text with
  | nil => exact ⟨text, rfl⟩
  | cons c front ih =>
    rw [List.mem_cons, not_or] at unmarked
    cases text with
    | nil => cases same
    | cons point text =>
      rw [marked_cons, List.cons_append, List.cons.injEq] at same
      obtain ⟨behind, rfl⟩ := ih unmarked.2 same.2
      refine ⟨behind, ?_⟩
      rw [← toNat_of_mark (Ne.symm unmarked.1) same.1]
      rfl

end TimeGate.Text.CodePoints
