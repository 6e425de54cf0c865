import Mathlib.Data.List.Forall2

/-! Lists read item by item. Reading ends at the first item that fails, and the failure of the
whole is the failure of that item. -/

set_option autoImplicit false

namespace TimeGate.Traversal

variable {α β ε : Type}

/-- `item` fails, and nothing before it does. -/
def IsFirst (fails : α → Prop) (items : List α) (item : α) : Prop :=
  ∃ before after, items = before ++ item :: after ∧ (∀ earlier ∈ before, ¬ fails earlier) ∧ fails item

theorem IsFirst.mem {fails : α → Prop} {items : List α} {item : α} (isFirst : IsFirst fails items item) :
    item ∈ items := by
  obtain ⟨before, after, rfl, -⟩ := isFirst
  simp

theorem IsFirst.fails {fails : α → Prop} {items : List α} {item : α}
    (isFirst : IsFirst fails items item) : fails item := by
  obtain ⟨before, after, -, -, failure⟩ := isFirst
  exact failure

theorem not_isFirst_nil {fails : α → Prop} {item : α} : ¬ IsFirst fails [] item := by
  rintro ⟨before, after, split, -⟩
  simp at split

theorem isFirst_cons_iff {fails : α → Prop} {head item : α} {tail : List α} :
    IsFirst fails (head :: tail) item ↔
      (fails head ∧ item = head) ∨ (¬ fails head ∧ IsFirst fails tail item) := by
  constructor
  · rintro ⟨before, after, split, sound, failure⟩
    cases before with
    | nil =>
      obtain ⟨rfl, rfl⟩ := List.cons.inj split
      exact .inl ⟨failure, rfl⟩
    | cons first before =>
      obtain ⟨rfl, rest⟩ := List.cons.inj split
      exact .inr ⟨sound _ List.mem_cons_self,
        before, after, rest, fun earlier member => sound earlier (List.mem_cons_of_mem _ member), failure⟩
  · rintro (⟨failure, rfl⟩ | ⟨passes, before, after, rfl, sound, failure⟩)
    · exact ⟨[], tail, rfl, by simp, failure⟩
    · exact ⟨head :: before, after, rfl, by simpa using ⟨passes, sound⟩, failure⟩

/-- Where something fails, something fails first. -/
theorem exists_isFirst {fails : α → Prop} {items : List α} {item : α} (member : item ∈ items)
    (failure : fails item) : ∃ first, IsFirst fails items first := by
  induction items with
  | nil => cases member
  | cons head tail ih =>
    by_cases now : fails head
    · exact ⟨head, isFirst_cons_iff.mpr (.inl ⟨now, rfl⟩)⟩
    · have later : item ∈ tail := by
        rcases List.mem_cons.mp member with rfl | later
        · exact absurd failure now
        · exact later
      obtain ⟨first, isFirst⟩ := ih later
      exact ⟨first, isFirst_cons_iff.mpr (.inr ⟨now, isFirst⟩)⟩

/-- The first that fails, told by its index. -/
theorem isFirst_iff_getElem? {fails : α → Prop} {items : List α} {item : α} :
    IsFirst fails items item ↔
      ∃ index : Nat, items[index]? = some item ∧ fails item ∧
        ∀ earlier < index, ∀ other, items[earlier]? = some other → ¬ fails other := by
  constructor
  · rintro ⟨before, after, rfl, sound, failure⟩
    refine ⟨before.length, by simp, failure, fun earlier small other found => sound other ?_⟩
    rw [List.getElem?_append_left small] at found
    exact List.mem_of_getElem? found
  · rintro ⟨index, found, failure, sound⟩
    obtain ⟨bound, rfl⟩ := List.getElem?_eq_some_iff.mp found
    refine ⟨items.take index, items.drop (index + 1), by simp, fun earlier member => ?_, failure⟩
    obtain ⟨place, small, found⟩ := List.mem_take_iff_getElem.mp member
    exact sound place (by omega) earlier (List.getElem?_eq_some_iff.mpr ⟨by omega, found⟩)

theorem isFirst_congr {fails others : α → Prop} {items : List α} {item : α}
    (same : ∀ member ∈ items, fails member ↔ others member) :
    IsFirst fails items item ↔ IsFirst others items item := by
  induction items with
  | nil => simp [not_isFirst_nil]
  | cons head tail ih =>
    rw [isFirst_cons_iff, isFirst_cons_iff, same head List.mem_cons_self,
      ih fun member later => same member (List.mem_cons_of_mem _ later)]

theorem isFirst_map_iff {fails : β → Prop} {f : α → β} {items : List α} {result : β} :
    IsFirst fails (items.map f) result ↔
      ∃ item, IsFirst (fun other => fails (f other)) items item ∧ f item = result := by
  induction items with
  | nil => simp [not_isFirst_nil]
  | cons head tail ih =>
    rw [List.map_cons, isFirst_cons_iff, ih]
    constructor
    · rintro (⟨failure, rfl⟩ | ⟨passes, item, isFirst, rfl⟩)
      · exact ⟨head, isFirst_cons_iff.mpr (.inl ⟨failure, rfl⟩), rfl⟩
      · exact ⟨item, isFirst_cons_iff.mpr (.inr ⟨passes, isFirst⟩), rfl⟩
    · rintro ⟨item, isFirst, rfl⟩
      rcases isFirst_cons_iff.mp isFirst with ⟨failure, rfl⟩ | ⟨passes, isFirst⟩
      · exact .inl ⟨failure, rfl⟩
      · exact .inr ⟨passes, item, isFirst, rfl⟩

/-- Whether something fails can be told from whether something fails first. -/
theorem exists_isFirst_iff {fails : α → Prop} {items : List α} :
    (∃ item, IsFirst fails items item) ↔ ∃ item ∈ items, fails item := by
  constructor
  · rintro ⟨item, isFirst⟩
    exact ⟨item, isFirst.mem, isFirst.fails⟩
  · rintro ⟨item, member, failure⟩
    exact exists_isFirst member failure

theorem forall₂_and_right_iff {relation : α → β → Prop} {holds : β → Prop} {items : List α}
    {results : List β} :
    List.Forall₂ (fun item result => relation item result ∧ holds result) items results ↔
      List.Forall₂ relation items results ∧ ∀ result ∈ results, holds result := by
  constructor
  · intro both
    induction both with
    | nil => simp
    | cons now _ ih => exact ⟨.cons now.1 ih.1, by simpa using ⟨now.2, ih.2⟩⟩
  · rintro ⟨related, all⟩
    induction related with
    | nil => exact .nil
    | cons now _ ih =>
      exact .cons ⟨now, all _ List.mem_cons_self⟩ (ih fun result member => all _ (List.mem_cons_of_mem _ member))

theorem exists_forall₂ {relation : α → β → Prop} {items : List α}
    (each : ∀ item ∈ items, ∃ result, relation item result) :
    ∃ results, List.Forall₂ relation items results := by
  induction items with
  | nil => exact ⟨[], .nil⟩
  | cons item rest ih =>
    obtain ⟨result, now⟩ := each item List.mem_cons_self
    obtain ⟨results, later⟩ := ih fun other member => each other (List.mem_cons_of_mem _ member)
    exact ⟨result :: results, .cons now later⟩

theorem exists_related {relation : α → β → Prop} {items : List α} {results : List β}
    (related : List.Forall₂ relation items results) {item : α} (member : item ∈ items) :
    ∃ result ∈ results, relation item result := by
  induction related with
  | nil => cases member
  | cons now _ ih =>
    rcases List.mem_cons.mp member with rfl | later
    · exact ⟨_, List.mem_cons_self, now⟩
    · obtain ⟨result, found, related⟩ := ih later
      exact ⟨result, List.mem_cons_of_mem _ found, related⟩

section Outcome

variable {outcome : Except ε α} {e : ε}

theorem map_eq_ok_iff {f : α → β} {result : β} :
    outcome.map f = .ok result ↔ ∃ a, outcome = .ok a ∧ f a = result := by
  cases outcome <;> simp [Except.map]

theorem map_eq_error_iff {f : α → β} : outcome.map f = .error e ↔ outcome = .error e := by
  cases outcome <;> simp [Except.map]

theorem bind_eq_ok_iff {f : α → Except ε β} {result : β} :
    outcome.bind f = .ok result ↔ ∃ a, outcome = .ok a ∧ f a = .ok result := by
  cases outcome <;> simp [Except.bind]

theorem bind_eq_error_iff {f : α → Except ε β} :
    outcome.bind f = .error e ↔ outcome = .error e ∨ ∃ a, outcome = .ok a ∧ f a = .error e := by
  cases outcome <;> simp [Except.bind]

theorem eq_ok_of_toOption {a : α} (found : outcome.toOption = some a) : outcome = .ok a := by
  cases outcome with
  | error e => contradiction
  | ok b => exact congrArg _ (Option.some.inj found)

end Outcome

section Reading

variable {read : α → Except ε β}

theorem mapM_cons_ok {item : α} {rest : List α} {result : β} (ok : read item = .ok result) :
    (item :: rest).mapM read = (rest.mapM read).map (result :: ·) := by
  rw [List.mapM_cons, ok]
  cases rest.mapM read <;> rfl

theorem mapM_cons_error {item : α} {rest : List α} {e : ε} (failed : read item = .error e) :
    (item :: rest).mapM read = .error e := by
  rw [List.mapM_cons, failed]
  rfl

theorem mapM_eq_ok_iff {items : List α} {results : List β} :
    items.mapM read = .ok results ↔
      List.Forall₂ (fun item result => read item = .ok result) items results := by
  induction items generalizing results with
  | nil => simp [pure, Except.pure, eq_comm]
  | cons item rest ih =>
    cases now : read item with
    | error e => simp [mapM_cons_error now, List.forall₂_cons_left_iff, now]
    | ok result =>
      rw [mapM_cons_ok now, List.forall₂_cons_left_iff]
      cases later : rest.mapM read with
      | error e => simp [Except.map, now, ← ih, later]
      | ok others => simp [Except.map, now, ← ih, later, eq_comm]

theorem mapM_eq_error_iff {items : List α} {e : ε} :
    items.mapM read = .error e ↔
      ∃ item, IsFirst (fun other => ∃ cause, read other = .error cause) items item ∧
        read item = .error e := by
  induction items with
  | nil => simp [pure, Except.pure, not_isFirst_nil]
  | cons item rest ih =>
    simp only [isFirst_cons_iff]
    cases now : read item with
    | error cause =>
      -- Nothing before the head can fail, so the first failure is the head's own.
      rw [mapM_cons_error now]
      constructor
      · intro same
        exact ⟨item, .inl ⟨⟨cause, rfl⟩, rfl⟩, now.trans (congrArg _ (Except.error.inj same))⟩
      · rintro ⟨other, ⟨-, rfl⟩ | ⟨passes, -⟩, failed⟩
        · cases now.symm.trans failed
          rfl
        · exact absurd ⟨cause, rfl⟩ passes
    | ok result =>
      rw [mapM_cons_ok now]
      simp only [reduceCtorEq, exists_false, false_and, not_false_eq_true, true_and, false_or, ← ih]
      cases rest.mapM read <;> simp [Except.map]

end Reading

end TimeGate.Traversal
