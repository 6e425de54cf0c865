import TimeGate.Proofs.Schedule.Grammar

/-! Reading whole schedule texts. A text of five tokens is read field by field, in order; any other
text is refused for the number of its tokens. What is read is what the tokens write and depends on
nothing else in the text. -/

set_option autoImplicit false

namespace TimeGate

open TimeGate.Text

theorem Field.mem_all (field : Field) : field ∈ Field.all := by cases field <;> decide

namespace PerField

variable {α : Type}

theorem exists_toList {items : List α} (count : items.length = Field.all.length) :
    ∃ fields : PerField α, fields.toList = items := by
  match items, count with
  | [minute, hour, dayOfMonth, month, dayOfWeek], _ =>
    exact ⟨⟨minute, hour, dayOfMonth, month, dayOfWeek⟩, rfl⟩

theorem toList_injective {fields others : PerField α} (same : fields.toList = others.toList) :
    fields = others := by
  cases fields; cases others
  simpa [toList] using same

theorem forall₂_all_iff {relation : Field → α → Prop} {fields : PerField α} :
    List.Forall₂ relation Field.all fields.toList ↔ ∀ field, relation field (fields.get field) := by
  rw [toList_eq, List.forall₂_map_right_iff, List.forall₂_same]
  exact ⟨fun related field => related field field.mem_all, fun related field _ => related field⟩

theorem forall₂_toList_iff {β : Type} {relation : α → β → Prop} {fields : PerField α}
    {others : PerField β} :
    List.Forall₂ relation fields.toList others.toList ↔
      ∀ field, relation (fields.get field) (others.get field) := by
  rw [toList_eq fields, List.forall₂_map_left_iff]
  exact forall₂_all_iff

end PerField

namespace Schedule

open TimeGate.Grammar TimeGate.Traversal

variable {strict : Bool} {text : String}

/-! ## Whole texts -/

/-- The five fields are read one after the other. -/
theorem readWords_map_toList (tokens : PerField (List Char)) :
    (readWords strict tokens.minute tokens.hour tokens.dayOfMonth tokens.month tokens.dayOfWeek).map
        PerField.toList =
      Field.all.mapM fun field => readField strict field (tokens.get field) := by
  simp only [Field.all, List.mapM_cons, List.mapM_nil, PerField.get, readWords]
  cases readField strict .minute tokens.minute with
  | error e => rfl
  | ok minute =>
    cases readField strict .hour tokens.hour with
    | error e => rfl
    | ok hour =>
      cases readField strict .dayOfMonth tokens.dayOfMonth with
      | error e => rfl
      | ok dayOfMonth =>
        cases readField strict .month tokens.month with
        | error e => rfl
        | ok month => cases readField strict .dayOfWeek tokens.dayOfWeek <;> rfl

theorem read_eq_readWords {tokens : PerField (List Char)} (spaced : Spaced text.toList tokens.toList) :
    read strict text =
      readWords strict tokens.minute tokens.hour tokens.dayOfMonth tokens.month tokens.dayOfWeek := by
  rw [read, spaced_iff.mp spaced]
  rfl

theorem read_of_five {tokens : PerField (List Char)} (spaced : Spaced text.toList tokens.toList) :
    (read strict text).map PerField.toList =
      Field.all.mapM fun field => readField strict field (tokens.get field) := by
  rw [← readWords_map_toList, read_eq_readWords spaced]

theorem read_of_other {tokens : List (List Char)} (spaced : Spaced text.toList tokens)
    (count : tokens.length ≠ Field.all.length) :
    read strict text = .error (.refused (.fieldCount text tokens.length)) := by
  unfold read
  rw [spaced_iff.mp spaced]
  split
  · exact absurd rfl count
  · rfl

theorem mapM_all_eq_ok_iff {ε α : Type} {item : Field → Except ε α} {fields : PerField α} :
    Field.all.mapM item = .ok fields.toList ↔ ∀ field, item field = .ok (fields.get field) := by
  rw [mapM_eq_ok_iff]
  exact PerField.forall₂_all_iff

/-- A text is read exactly if it has five tokens and each of them can be read in its field. -/
theorem read_eq_ok_iff {schedule : Schedule} :
    read strict text = .ok schedule ↔
      ∃ tokens : PerField (List Char), Spaced text.toList tokens.toList ∧
        ∀ field, Token (tokens.get field) (schedule.get field) ∧
          ∀ range ∈ (schedule.get field).ranges, range.Legal (some field.domain) strict := by
  constructor
  · intro ok
    by_cases count : (words text.toList).length = Field.all.length
    · obtain ⟨tokens, same⟩ := PerField.exists_toList count
      have spaced : Spaced text.toList tokens.toList := same ▸ spaced_words text.toList
      have whole : (read strict text).map PerField.toList = _ := read_of_five spaced
      rw [ok] at whole
      refine ⟨tokens, spaced, fun field => ?_⟩
      exact FieldSpec.readChars_eq_ok_iff.mp (mapM_all_eq_ok_iff.mp whole.symm field)
    · rw [read_of_other (spaced_words text.toList) count] at ok
      contradiction
  · rintro ⟨tokens, spaced, written⟩
    have fields : ∀ field, readField strict field (tokens.get field) = .ok (schedule.get field) :=
      fun field => FieldSpec.readChars_eq_ok_iff.mpr (written field)
    have whole := (read_of_five spaced).trans (mapM_all_eq_ok_iff.mpr fields)
    obtain ⟨other, ok, same⟩ := map_eq_ok_iff.mp whole
    rw [ok, PerField.toList_injective same]

theorem legal_lenient (domain : Option Domain) (range : Range) : range.Legal domain false :=
  fun strict => Bool.noConfusion strict

theorem read_false_eq_ok_iff {schedule : Schedule} :
    read false text = .ok schedule ↔
      ∃ tokens : PerField (List Char), Spaced text.toList tokens.toList ∧
        ∀ field, Token (tokens.get field) (schedule.get field) := by
  simp only [read_eq_ok_iff, legal_lenient, implies_true, and_true]

theorem exists_read_false_iff :
    (∃ schedule, read false text = .ok schedule) ↔
      ∃ tokens : PerField (List Char), Spaced text.toList tokens.toList ∧
        ∀ field, Readable (tokens.get field) := by
  simp only [read_false_eq_ok_iff, readable_iff]
  constructor
  · rintro ⟨schedule, tokens, spaced, written⟩
    exact ⟨tokens, spaced, fun field => ⟨_, written field⟩⟩
  · rintro ⟨tokens, spaced, each⟩
    choose spec written using each
    exact ⟨.ofFn spec, tokens, spaced, fun field => by simpa using written field⟩

/-- Lenient reading accepts exactly the texts of five readable tokens. What it yields is what they
write: piece by piece, with as many ranges as there are pieces and no bound below zero. The blanks
between the tokens make no difference. -/
theorem lenient_reading_exact (text : String) :
    ((∃ schedule, read false text = .ok schedule) ↔
      ∃ tokens : PerField (List Char), Spaced text.toList tokens.toList ∧
        ∀ field, Readable (tokens.get field)) ∧
    (∀ schedule, read false text = .ok schedule ↔
      ∃ tokens : PerField (List Char), Spaced text.toList tokens.toList ∧
        ∀ field, Token (tokens.get field) (schedule.get field)) ∧
    ∀ tokens : PerField (List Char), Spaced text.toList tokens.toList →
      (∀ schedule field set, read false text = .ok schedule → schedule.get field = .union set →
        set.ranges.length = (tokens.get field).count ',' + 1 ∧
          ∀ range ∈ set.ranges, 0 ≤ range.first ∧ 0 ≤ range.last) ∧
      ∀ other : String, Spaced other.toList tokens.toList → read false other = read false text := by
  refine ⟨exists_read_false_iff, fun schedule => read_false_eq_ok_iff, fun tokens spaced => ⟨?_, ?_⟩⟩
  · intro schedule field set ok union
    obtain ⟨found, foundSpaced, written⟩ := read_false_eq_ok_iff.mp ok
    have same : found = tokens :=
      PerField.toList_injective ((spaced_iff.mp foundSpaced).symm.trans (spaced_iff.mp spaced))
    have token := written field
    rw [same, union] at token
    exact token.union_ranges
  · intro other otherSpaced
    rw [read_eq_readWords otherSpaced, read_eq_readWords spaced]

end Schedule

end TimeGate
