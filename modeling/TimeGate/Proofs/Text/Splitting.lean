import TimeGate.Text.Pieces
import TimeGate.Text.Words

/-! How a text falls apart. Parts stand between separators and tokens between runs of blanks; both
are said here without an algorithm, and the readers of pieces and words find exactly them. -/

set_option autoImplicit false

namespace TimeGate.Text

/-! ## Parts between separators -/

theorem pieces_eq_splitOn (separator : Char) (text : List Char) :
    pieces separator text = text.splitOn separator := by
  induction text with
  | nil => rfl
  | cons c rest ih =>
    rw [pieces, ih, List.splitOn_cons_eq_if_modifyHead]
    by_cases same : c = separator
    · simp [same]
    · obtain ⟨part, others, split⟩ := List.exists_cons_of_ne_nil (List.splitOn_ne_nil separator rest)
      simp [same, split]

theorem joined_cons_cons (separator first next : List Char) (rest : List (List Char)) :
    joined separator (first :: next :: rest) = first ++ separator ++ joined separator (next :: rest) := rfl

theorem joined_eq_intercalate (separator : List Char) (texts : List (List Char)) :
    joined separator texts = separator.intercalate texts := by
  induction texts with
  | nil => rfl
  | cons text rest ih =>
    cases rest with
    | nil => simp [joined]
    | cons next rest => rw [joined_cons_cons, ih, List.intercalate_cons_cons]

theorem joined_ne_nil {separator first : List Char} {rest : List (List Char)} (inhabited : first ≠ []) :
    joined separator (first :: rest) ≠ [] := by
  cases rest <;> simp [joined, inhabited]

theorem mem_joined {separator : List Char} {texts : List (List Char)} {c : Char}
    (member : c ∈ joined separator texts) : c ∈ separator ∨ ∃ text ∈ texts, c ∈ text := by
  induction texts with
  | nil => cases member
  | cons text rest ih =>
    cases rest with
    | nil => exact .inr ⟨text, List.mem_cons_self, member⟩
    | cons next rest =>
      rw [joined_cons_cons, List.append_assoc, List.mem_append, List.mem_append] at member
      rcases member with here | between | later
      · exact .inr ⟨text, List.mem_cons_self, here⟩
      · exact .inl between
      · rcases ih later with between | ⟨other, found, inside⟩
        · exact .inl between
        · exact .inr ⟨other, List.mem_cons_of_mem _ found, inside⟩

theorem pieces_ne_nil (separator : Char) (text : List Char) : pieces separator text ≠ [] := by
  rw [pieces_eq_splitOn]
  exact List.splitOn_ne_nil separator text

theorem pieces_of_not_mem {separator : Char} {text : List Char} (free : separator ∉ text) :
    pieces separator text = [text] := by
  rw [pieces_eq_splitOn]
  exact List.splitOn_eq_singleton free

theorem pieces_append (separator : Char) (front rest : List Char) :
    pieces separator (front ++ separator :: rest) = pieces separator front ++ pieces separator rest := by
  simp only [pieces_eq_splitOn]
  exact List.splitOn_append_cons_self front rest

theorem length_pieces (separator : Char) (text : List Char) :
    (pieces separator text).length = text.count separator + 1 := by
  induction text with
  | nil => rfl
  | cons c rest ih =>
    rw [pieces]
    by_cases same : c = separator
    · simp [same, ih]
    · obtain ⟨part, others, split⟩ := List.exists_cons_of_ne_nil (pieces_ne_nil separator rest)
      rw [split] at ih
      simpa [same, split] using ih

theorem not_mem_of_mem_pieces {separator : Char} {text part : List Char}
    (member : part ∈ pieces separator text) : separator ∉ part := by
  induction text generalizing part with
  | nil => simp_all [pieces]
  | cons c rest ih =>
    rw [pieces] at member
    -- Any character but the separator goes in front of the first piece of the rest.
    obtain ⟨head, others, split⟩ := List.exists_cons_of_ne_nil (pieces_ne_nil separator rest)
    rw [split] at member ih
    by_cases same : c = separator
    · rw [if_pos same] at member
      rcases List.mem_cons.mp member with rfl | member
      · simp
      · exact ih member
    · rw [if_neg same] at member
      rcases List.mem_cons.mp member with rfl | member
      · exact List.not_mem_cons_of_ne_of_not_mem (Ne.symm same) (ih List.mem_cons_self)
      · exact ih (List.mem_cons_of_mem _ member)

/-- The text is the parts, in order, with one separator between neighbours, and no part holds a
separator itself. -/
structure Split (separator : Char) (text : List Char) (parts : List (List Char)) : Prop where
  inhabited : parts ≠ []
  free : ∀ part ∈ parts, separator ∉ part
  joins : joined [separator] parts = text

theorem split_pieces (separator : Char) (text : List Char) :
    Split separator text (pieces separator text) where
  inhabited := pieces_ne_nil separator text
  free _ := not_mem_of_mem_pieces
  joins := by rw [joined_eq_intercalate, pieces_eq_splitOn, List.intercalate_splitOn]

theorem split_iff {separator : Char} {text : List Char} {parts : List (List Char)} :
    Split separator text parts ↔ pieces separator text = parts := by
  constructor
  · rintro ⟨inhabited, free, rfl⟩
    rw [joined_eq_intercalate, pieces_eq_splitOn, List.splitOn_intercalate separator free inhabited]
  · rintro rfl
    exact split_pieces separator text

section Split

variable {separator : Char} {text other : List Char} {parts others : List (List Char)}

/-- A text falls apart in one way only. -/
theorem Split.unique (split : Split separator text parts) (again : Split separator text others) :
    parts = others :=
  (split_iff.mp split).symm.trans (split_iff.mp again)

theorem Split.eq_iff (split : Split separator text parts) (otherSplit : Split separator other others) :
    text = other ↔ parts = others := by
  constructor
  · rintro rfl
    exact split.unique otherSplit
  · rintro rfl
    exact split.joins.symm.trans otherSplit.joins

end Split

/-! ## Tokens between blanks -/

theorem isBlank_of_isDigit {c : Char} (digit : c.isDigit = true) : isBlank c = false := by
  simp only [Char.isDigit, Bool.and_eq_true, decide_eq_true_eq, ge_iff_le, UInt32.le_iff_toNat_le] at digit
  have low : 48 ≤ c.toNat := digit.1
  have high : c.toNat ≤ 57 := digit.2
  simp only [isBlank, isSpace, Bool.or_eq_false_iff, Bool.and_eq_false_iff, decide_eq_false_iff_not,
    beq_eq_false_iff_ne]
  omega

/-- The text is the tokens, in order, with blanks before, between and after them. A token is not
empty and holds no blank; it ends at a blank or with the text. -/
inductive Spaced : List Char → List (List Char) → Prop where
  | done : Spaced [] []
  | blank {c : Char} {text : List Char} {tokens : List (List Char)} :
      isBlank c = true → Spaced text tokens → Spaced (c :: text) tokens
  | token {token text : List Char} {tokens : List (List Char)} :
      token ≠ [] → (∀ c ∈ token, isBlank c = false) → (∀ c ∈ text.head?, isBlank c = true) →
      Spaced text tokens → Spaced (token ++ text) (token :: tokens)

theorem words_nil : words [] = [] := rfl

-- The recursion unfolds by computation; generating its equations is slow.
theorem words_cons (c : Char) (rest : List Char) :
    words (c :: rest) =
      if isBlank c then words rest
      else match rest with
        | [] => [[c]]
        | next :: _ =>
          if isBlank next then [c] :: words rest
          else match words rest with
            | [] => [[c]]
            | word :: others => (c :: word) :: others := rfl

theorem words_blank {c : Char} {text : List Char} (blank : isBlank c = true) :
    words (c :: text) = words text := by
  rw [words_cons, if_pos blank]

theorem words_append {token text : List Char} (inhabited : token ≠ [])
    (solid : ∀ c ∈ token, isBlank c = false) (ends : ∀ c ∈ text.head?, isBlank c = true) :
    words (token ++ text) = token :: words text := by
  -- Only the last character of the token looks at the text behind it.
  induction token with
  | nil => contradiction
  | cons c rest ih =>
    have now : isBlank c = false := solid c List.mem_cons_self
    cases rest with
    | nil =>
      cases text with
      | nil => simpa [now, words_nil] using words_cons c []
      | cons next text => simpa [now, ends next (by simp)] using words_cons c (next :: text)
    | cons next rest =>
      have later : isBlank next = false := solid next (by simp)
      have tail := ih (by simp) fun d member => solid d (List.mem_cons_of_mem _ member)
      rw [List.cons_append] at tail ⊢
      rw [List.cons_append, words_cons, if_neg (by simp [now])]
      simp only [later, tail, Bool.false_eq_true, if_false]

theorem Spaced.alone {token : List Char} (inhabited : token ≠ [])
    (solid : ∀ c ∈ token, isBlank c = false) : Spaced token [token] := by
  have ends : ∀ c ∈ ([] : List Char).head?, isBlank c = true := by simp
  simpa using Spaced.token inhabited solid ends .done

/-- A text that starts with no blank starts with its first token. -/
theorem Spaced.extend {c next : Char} {rest : List Char} {tokens : List (List Char)}
    (now : isBlank c = false) (later : isBlank next = false) (spaced : Spaced (next :: rest) tokens) :
    ∃ token others, tokens = token :: others ∧ Spaced (c :: next :: rest) ((c :: token) :: others) := by
  generalize same : next :: rest = text at spaced ⊢
  cases spaced with
  | done => cases same
  | blank isBlank _ =>
    cases same
    simp [later] at isBlank
  | @token token text tokens inhabited solid ends spaced =>
    refine ⟨token, tokens, rfl, ?_⟩
    rw [← List.cons_append]
    exact .token (by simp) (by simpa using ⟨now, solid⟩) ends spaced

theorem spaced_words (text : List Char) : Spaced text (words text) := by
  induction text with
  | nil => exact .done
  | cons c rest ih =>
    by_cases now : isBlank c = true
    · rw [words_blank now]
      exact .blank now ih
    · -- A token starts here. It ends here, or it is the first token of the rest with `c` in front.
      have solid : isBlank c = false := by simpa using now
      have alone : ∀ d ∈ [c], isBlank d = false := by simpa using solid
      cases rest with
      | nil =>
        rw [words_cons, if_neg now]
        exact .alone (List.cons_ne_nil c []) alone
      | cons next rest =>
        rw [words_cons, if_neg now]
        by_cases later : isBlank next = true
        · simp only [later, if_true]
          exact .token (List.cons_ne_nil c []) alone (by simpa using later) ih
        · obtain ⟨token, others, split, spaced⟩ := ih.extend solid (by simpa using later)
          simp only [later, split, Bool.false_eq_true, if_false]
          exact spaced

/-- The words of a text are its tokens, and no other list is. -/
theorem spaced_iff {text : List Char} {tokens : List (List Char)} :
    Spaced text tokens ↔ words text = tokens := by
  constructor
  · intro spaced
    induction spaced with
    | done => rfl
    | blank blank _ ih => rw [words_blank blank, ih]
    | token inhabited solid ends _ ih => rw [words_append inhabited solid ends, ih]
  · rintro rfl
    exact spaced_words text

/-- A text has one list of tokens. -/
theorem Spaced.unique {text : List Char} {tokens others : List (List Char)} (spaced : Spaced text tokens)
    (again : Spaced text others) : tokens = others :=
  (spaced_iff.mp spaced).symm.trans (spaced_iff.mp again)

/-- Tokens with single blanks between them are spaced. -/
theorem spaced_joined {blank : Char} {tokens : List (List Char)} (isBlank_blank : isBlank blank = true)
    (inhabited : ∀ token ∈ tokens, token ≠ []) (solid : ∀ token ∈ tokens, ∀ c ∈ token, isBlank c = false) :
    Spaced (joined [blank] tokens) tokens := by
  induction tokens with
  | nil => exact .done
  | cons token rest ih =>
    have tail := ih (fun other member => inhabited other (List.mem_cons_of_mem _ member))
      fun other member => solid other (List.mem_cons_of_mem _ member)
    have first := inhabited token List.mem_cons_self
    have plain := solid token List.mem_cons_self
    cases rest with
    | nil => exact .alone first plain
    | cons next rest =>
      rw [joined_cons_cons, List.append_assoc]
      exact .token first plain (by simpa using isBlank_blank) (.blank isBlank_blank tail)

/-! ## Blanks at the ends -/

theorem dropWhile_isBlank {text : List Char} (solid : ∀ c ∈ text, isBlank c = false) :
    text.dropWhile isBlank = text := by
  cases text with
  | nil => rfl
  | cons c rest =>
    rw [List.dropWhile_cons_of_neg]
    rw [solid c List.mem_cons_self]
    decide

/-- Blanks around a text without any are all that is taken off. -/
theorem trim_of_solid {before text after : List Char} (solid : ∀ c ∈ text, isBlank c = false)
    (front : ∀ c ∈ before, isBlank c = true) (behind : ∀ c ∈ after, isBlank c = true) :
    trim (before ++ text ++ after) = text := by
  have ending : trimEnd (text ++ after) = text := by
    have reversed : ∀ c ∈ text.reverse, isBlank c = false := fun c member =>
      solid c (List.mem_reverse.mp member)
    rw [trimEnd, List.reverse_append, List.dropWhile_append_of_pos fun c member =>
      behind c (List.mem_reverse.mp member), dropWhile_isBlank reversed, List.reverse_reverse]
  have nothing : trimEnd [] = [] := rfl
  rw [trim, trimStart, List.append_assoc, List.dropWhile_append_of_pos front]
  cases text with
  | nil =>
    have gone : (after ++ []).dropWhile isBlank = [] := List.dropWhile_append_of_pos behind
    rw [List.nil_append, ← List.append_nil after, gone, nothing]
  | cons c rest =>
    have here : ¬ isBlank c = true := by
      rw [solid c List.mem_cons_self]
      decide
    rw [List.cons_append, List.dropWhile_cons_of_neg here]
    exact ending

end TimeGate.Text
