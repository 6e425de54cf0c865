import Mathlib.Data.List.Basic
import TimeGate.Instant.Iso
import TimeGate.Proofs.Calendar
import TimeGate.Proofs.Decimal.Numeral
import TimeGate.Proofs.Text.Splitting

/-! Moments that are written and read again. The extended form is read back part by part: date, clock and
offset. What is lost is an offset of less than a second, which is read as none. Blanks around a text and
a `Z` for a zero offset make no difference. -/

set_option autoImplicit false

namespace TimeGate

open TimeGate.Decimal

/-- What is left of an offset that was written and read again. -/
def Offset.readBack (offset : Offset) : Offset :=
  if offset.micros.natAbs < 1000000 then Offset.utc else offset

/-- No offset at all, or one of a second or more either way. -/
def Offset.IsWritable (offset : Offset) : Prop := offset.micros = 0 ∨ 1000000 ≤ offset.micros.natAbs

theorem Offset.readBack_eq_self_iff {offset : Offset} : offset.readBack = offset ↔ offset.IsWritable := by
  obtain ⟨micros, valid⟩ := offset
  unfold readBack IsWritable
  by_cases small : micros.natAbs < 1000000
  · rw [if_pos small]
    simp only [utc, Offset.mk.injEq]
    omega
  · rw [if_neg small]
    simp only [true_iff]
    omega

namespace Iso

/-! ## Numbers -/

theorem takeDigits_append {count : Nat} {numeral : List Char} (length : numeral.length = count)
    (digit : ∀ c ∈ numeral, c.isDigit = true) (rest : List Char) :
    takeDigits count (numeral ++ rest) = some (value numeral, rest) := by
  subst length
  have front : (numeral ++ rest).take numeral.length = numeral := List.take_left
  have behind : (numeral ++ rest).drop numeral.length = rest := List.drop_left
  have all : numeral.all Char.isDigit = true := List.all_eq_true.mpr digit
  simp [takeDigits, front, behind, all]

theorem takeDigits_padded {width n : Nat} (positive : 0 < width) (small : n < Nat.pow 10 width)
    (rest : List Char) : takeDigits width (padded width n ++ rest) = some (n, rest) := by
  rw [takeDigits_append (length_padded positive small) (fun c => isDigit_of_mem_padded), value_padded]

theorem exists_padded_two {n : Nat} (small : n < 100) :
    ∃ first second, padded 2 n = [first, second] ∧ first.isDigit = true ∧ second.isDigit = true := by
  obtain ⟨first, second, same⟩ := List.length_eq_two.mp (length_padded (by decide : 0 < 2) small)
  have digit (c : Char) (member : c ∈ [first, second]) : c.isDigit = true :=
    isDigit_of_mem_padded (same ▸ member)
  exact ⟨first, second, same, digit _ (by simp), digit _ (by simp)⟩

/-! ## Dates -/

theorem dateBounds (date : Date) : date.year < 10000 ∧ date.month < 100 ∧ date.day < 100 := by
  obtain ⟨year, month, day, -, yearEnd, -, monthEnd, -, dayEnd⟩ := date
  have days := (Calendar.daysInMonth_bounds year month).2
  exact ⟨Nat.lt_succ_of_le yearEnd, by dsimp only; omega, by dsimp only; omega⟩

theorem readDate_dateChars (date : Date) : readDate (dateChars date) = some date := by
  obtain ⟨yearSmall, monthSmall, daySmall⟩ := dateBounds date
  have yearRead (rest : List Char) := takeDigits_padded (by decide : 0 < 4) yearSmall rest
  have monthRead (rest : List Char) := takeDigits_padded (by decide : 0 < 2) monthSmall rest
  have dayRead := takeDigits_padded (by decide : 0 < 2) daySmall []
  rw [List.append_nil] at dayRead
  have noWeek (rest : List Char) : padded 2 date.month ++ '-' :: padded 2 date.day ≠ 'W' :: rest := by
    obtain ⟨first, second, written, digit, -⟩ := exists_padded_two monthSmall
    rw [written]
    rintro ⟨⟩
    contradiction
  -- The case of a week date is closed by `noWeek`.
  simp only [readDate, dateChars, List.append_assoc, List.cons_append, yearRead, Option.bind_eq_bind,
    Option.bind_some, skipDash, List.head?_cons, decide_true, monthRead, dayRead, List.isEmpty_nil,
    if_true, Date.ofParts?, dif_pos date.valid]

theorem length_dateChars (date : Date) : (dateChars date).length = 10 := by
  obtain ⟨yearSmall, monthSmall, daySmall⟩ := dateBounds date
  simp only [dateChars, List.length_append, List.length_cons, length_padded (by decide : 0 < 4) yearSmall,
    length_padded (by decide : 0 < 2) monthSmall, length_padded (by decide : 0 < 2) daySmall]

/-- A date in the extended form is told from the others by its dash and its month. -/
theorem dateLength?_dateChars (date : Date) (rest : List Char) :
    dateLength? (dateChars date ++ rest) = some 10 := by
  obtain ⟨yearSmall, monthSmall, -⟩ := dateBounds date
  obtain ⟨first, second, written, digit, -⟩ := exists_padded_two monthSmall
  have year : (padded 4 date.year).length = 4 := length_padded (by decide) yearSmall
  have long : 10 ≤ (dateChars date ++ rest).length := by
    rw [List.length_append, length_dateChars]
    exact Nat.le_add_right 10 _
  have whole : dateChars date ++ rest =
      padded 4 date.year ++ '-' :: first :: second :: '-' :: (padded 2 date.day ++ rest) := by
    simp only [dateChars, written, List.append_assoc, List.cons_append, List.nil_append]
  have dash : (dateChars date ++ rest)[4]? = some '-' := by
    rw [whole, List.getElem?_append_right (Nat.le_of_eq year), year]
    rfl
  have month : (dateChars date ++ rest)[5]? = some first := by
    rw [whole, List.getElem?_append_right (by rw [year]; decide), year]
    rfl
  have noWeek : first ≠ 'W' := by
    rintro rfl
    contradiction
  have ample : ¬ (dateChars date ++ rest).length < 7 := by omega
  have notSeven : (dateChars date ++ rest).length ≠ 7 := by omega
  simp only [dateLength?, if_neg ample, if_neg notSeven, dash, month, if_true, Option.some.injEq,
    if_neg noWeek]

/-! ## Clocks -/

theorem padded_two_ne_nil {n : Nat} (small : n < 100) (rest : List Char) : padded 2 n ++ rest ≠ [] := by
  obtain ⟨first, second, written, -⟩ := exists_padded_two small
  simp [written]

theorem follow_colon {rest : List Char} (more : rest ≠ []) : follow true (':' :: rest) = .component rest := by
  obtain ⟨c, others, rfl⟩ := List.exists_cons_of_ne_nil more
  rfl

theorem readFraction_padded (hour minute second : Nat) {micro : Nat} (small : micro < 1000000) :
    readFraction hour minute second (padded 6 micro) = some ⟨hour, minute, second, micro, false⟩ := by
  have length : (padded 6 micro).length = 6 := length_padded (by decide) small
  have read := takeDigits_padded (by decide : 0 < 6) small []
  rw [List.append_nil] at read
  simp [readFraction, length, read]

section Clock

variable {hour minute second micro : Nat}

theorem readClock_two (hourSmall : hour < 100) (minuteSmall : minute < 100) :
    readClock (padded 2 hour ++ ':' :: padded 2 minute) = some ⟨hour, minute, 0, 0, false⟩ := by
  have hourRead (rest : List Char) := takeDigits_padded (by decide : 0 < 2) hourSmall rest
  have minuteRead := takeDigits_padded (by decide : 0 < 2) minuteSmall []
  have more := padded_two_ne_nil minuteSmall []
  rw [List.append_nil] at minuteRead more
  simp only [readClock, hourRead, Option.bind_eq_bind, Option.bind_some, List.head?_cons, decide_true,
    follow_colon more, minuteRead]
  rfl

theorem readClock_three (hourSmall : hour < 100) (minuteSmall : minute < 100) (secondSmall : second < 100)
    (microSmall : micro < 1000000) :
    readClock (padded 2 hour ++ ':' :: padded 2 minute ++ ':' :: padded 2 second ++ fractionChars micro) =
      some ⟨hour, minute, second, micro, false⟩ := by
  have hourRead (rest : List Char) := takeDigits_padded (by decide : 0 < 2) hourSmall rest
  have minuteRead (rest : List Char) := takeDigits_padded (by decide : 0 < 2) minuteSmall rest
  have secondRead (rest : List Char) := takeDigits_padded (by decide : 0 < 2) secondSmall rest
  simp only [List.append_assoc, List.cons_append, readClock, hourRead, Option.bind_eq_bind,
    Option.bind_some, List.head?_cons, decide_true, follow_colon (padded_two_ne_nil minuteSmall _), minuteRead,
    follow_colon (padded_two_ne_nil secondSmall _), secondRead]
  unfold fractionChars
  by_cases whole : micro = 0
  · rw [if_pos whole, whole]
    rfl
  · rw [if_neg whole]
    obtain ⟨c, others, written⟩ : ∃ c others, padded 6 micro = c :: others :=
      List.exists_cons_of_length_eq_add_one (length_padded (by decide) microSmall)
    have point : follow true ('.' :: padded 6 micro) = .fraction (padded 6 micro) := by
      rw [written]
      rfl
    simp only [point, readFraction_padded _ _ _ microSmall]

end Clock

/-! ## Offsets -/

/-- What a size in microseconds comes to when a clock text shows it. A fraction counts only behind seconds. -/
theorem offset?_of_size (offset : Offset) :
    ClockText.offset? (offset.micros < 0)
      ⟨offset.micros.natAbs / 1000000 / 3600, offset.micros.natAbs / 1000000 / 60 % 60,
        offset.micros.natAbs / 1000000 % 60, offset.micros.natAbs % 1000000, false⟩ =
      some offset.readBack := by
  obtain ⟨micros, low, high⟩ := offset
  have seconds : ((micros.natAbs / 1000000 / 3600 : Nat) : Int) * 3600 +
      ((micros.natAbs / 1000000 / 60 % 60 : Nat) : Int) * 60 + ((micros.natAbs / 1000000 % 60 : Nat) : Int) =
      ((micros.natAbs / 1000000 : Nat) : Int) := by omega
  simp only [ClockText.offset?, seconds, Offset.readBack, microsPerSecond]
  -- An offset of less than a second shows a clock of zero seconds, and that is read as none.
  by_cases small : micros.natAbs < 1000000
  · have none : ((micros.natAbs / 1000000 : Nat) : Int) = 0 := by omega
    rw [if_pos small, if_pos none]
    simp only [Int.neg_zero, ite_self]
    rfl
  · have some : ((micros.natAbs / 1000000 : Nat) : Int) ≠ 0 := by omega
    have whole : (if decide (micros < 0) = true then
        -(((micros.natAbs / 1000000 : Nat) : Int) * 1000000 + ((micros.natAbs % 1000000 : Nat) : Int))
        else ((micros.natAbs / 1000000 : Nat) : Int) * 1000000 + ((micros.natAbs % 1000000 : Nat) : Int)) =
        micros := by
      by_cases negative : micros < 0
      · rw [if_pos (decide_eq_true negative)]
        omega
      · rw [if_neg (by rwa [decide_eq_true_iff])]
        omega
    rw [if_neg small, if_neg some, whole]
    exact dif_pos ⟨low, high⟩

theorem exists_offsetChars (offset : Offset) :
    ∃ written text, offsetChars offset = (if offset.micros < 0 then '-' else '+') :: written ∧
      readClock written = some text ∧ text.stray = false ∧
      text.offset? (offset.micros < 0) = some offset.readBack := by
  have bound : offset.micros.natAbs / 1000000 < 86400 := by
    obtain ⟨low, high⟩ := offset.valid
    omega
  have hourSmall : offset.micros.natAbs / 1000000 / 3600 < 100 := by omega
  have minuteSmall : offset.micros.natAbs / 1000000 / 60 % 60 < 100 := by omega
  have secondSmall : offset.micros.natAbs / 1000000 % 60 < 100 := by omega
  have microSmall : offset.micros.natAbs % 1000000 < 1000000 := Nat.mod_lt _ (by decide)
  have read := offset?_of_size offset
  simp only [offsetChars]
  by_cases whole : offset.micros.natAbs / 1000000 % 60 = 0 ∧ offset.micros.natAbs % 1000000 = 0
  · rw [whole.1, whole.2] at read
    refine ⟨_, _, ?_, readClock_two hourSmall minuteSmall, rfl, read⟩
    simp [whole]
  · refine ⟨_, _, ?_, readClock_three hourSmall minuteSmall secondSmall microSmall, rfl, read⟩
    simp [whole]

/-! ## Moments -/

section Written

variable {p : Char → Prop} (digit : ∀ c : Char, c.isDigit = true → p c)
include digit

theorem forall_mem_padded (width n : Nat) : ∀ c ∈ padded width n, p c :=
  fun c member => digit c (isDigit_of_mem_padded member)

theorem forall_mem_fractionChars (point : p '.') (micro : Nat) : ∀ c ∈ fractionChars micro, p c := by
  unfold fractionChars
  split
  · simp
  · exact List.forall_mem_cons.mpr ⟨point, forall_mem_padded digit 6 micro⟩

theorem forall_mem_clockChars (colon : p ':') (point : p '.') (clock : Clock) :
    ∀ c ∈ clockChars clock, p c := by
  simp only [clockChars, List.forall_mem_append, List.forall_mem_cons]
  exact ⟨⟨⟨forall_mem_padded digit _ _, colon, forall_mem_padded digit _ _⟩, colon,
    forall_mem_padded digit _ _⟩, forall_mem_fractionChars digit point _⟩

theorem forall_mem_offsetChars (marks : ∀ c ∈ ['+', '-', ':', '.'], p c) (offset : Offset) :
    ∀ c ∈ offsetChars offset, p c := by
  have sign : p (if offset.micros < 0 then '-' else '+') := by split <;> exact marks _ (by decide)
  simp only [offsetChars, List.forall_mem_append, List.forall_mem_cons]
  refine ⟨⟨⟨sign, forall_mem_padded digit _ _⟩, marks _ (by decide), forall_mem_padded digit _ _⟩, ?_⟩
  split
  · simp
  · simp only [List.forall_mem_append, List.forall_mem_cons]
    exact ⟨⟨marks _ (by decide), forall_mem_padded digit _ _⟩,
      forall_mem_fractionChars digit (marks _ (by decide)) _⟩

theorem forall_mem_chars (marks : ∀ c ∈ ['T', '+', '-', ':', '.'], p c) (moment : DateTime) :
    ∀ c ∈ chars moment, p c := by
  simp only [chars, dateChars, List.forall_mem_append, List.forall_mem_cons]
  refine ⟨⟨⟨⟨forall_mem_padded digit _ _, marks _ (by decide), forall_mem_padded digit _ _⟩,
    marks _ (by decide), forall_mem_padded digit _ _⟩, marks _ (by decide),
    forall_mem_clockChars digit (marks _ (by decide)) (marks _ (by decide)) _⟩, ?_⟩
  split
  · simp
  · exact forall_mem_offsetChars digit (fun c member => marks c (List.mem_cons_of_mem _ member)) _

end Written

theorem not_startsOffset_of_isDigit {c : Char} (digit : c.isDigit = true) : startsOffset c = false := by
  by_contra starts
  rw [Bool.not_eq_false, startsOffset, Bool.or_eq_true, Bool.or_eq_true, beq_iff_eq, beq_iff_eq,
    beq_iff_eq] at starts
  rcases starts with (rfl | rfl) | rfl <;> contradiction

theorem readClock_clockChars (clock : Clock) :
    readClock (clockChars clock) = some ⟨clock.hour, clock.minute, clock.second, clock.micro, false⟩ := by
  obtain ⟨hourSmall, minuteSmall, secondSmall, microSmall⟩ := clock.valid
  exact readClock_three (by omega) (by omega) (by omega) microSmall

theorem readTime_chars (clock : Clock) (offset : Offset) :
    readTime (clockChars clock ++ offsetChars offset) = some (clock, some offset.readBack) := by
  obtain ⟨written, text, shown, read, straight, meant⟩ := exists_offsetChars offset
  have within : ∀ c ∈ clockChars clock, (!startsOffset c) = true := by
    refine forall_mem_clockChars (p := fun c => (!startsOffset c) = true) (fun c digit => ?_) rfl rfl clock
    rw [not_startsOffset_of_isDigit digit]
    rfl
  have made : ClockText.clock? ⟨clock.hour, clock.minute, clock.second, clock.micro, false⟩ = some clock :=
    dif_pos clock.valid
  rw [shown]
  -- The time ends at the first character that can start an offset, whichever sign that is.
  by_cases negative : offset.micros < 0
  · simp only [if_pos negative, decide_eq_true negative] at meant ⊢
    simp only [readTime, List.takeWhile_append_of_pos within, List.dropWhile_append_of_pos within]
    simp [startsOffset, readClock_clockChars, made, read, meant, straight]
  · simp only [if_neg negative, decide_eq_false negative] at meant ⊢
    simp only [readTime, List.takeWhile_append_of_pos within, List.dropWhile_append_of_pos within]
    simp [startsOffset, readClock_clockChars, made, read, meant, straight]

theorem read_chars (date : Date) (clock : Clock) (offset : Offset) :
    read (chars ⟨date, clock, some offset⟩) = some ⟨date, clock, some offset.readBack⟩ := by
  have whole : chars ⟨date, clock, some offset⟩ =
      dateChars date ++ 'T' :: (clockChars clock ++ offsetChars offset) := by
    simp only [chars, List.append_assoc, List.cons_append]
  have front : (dateChars date ++ 'T' :: (clockChars clock ++ offsetChars offset)).take 10 = dateChars date :=
    List.take_left' (length_dateChars date)
  have behind : (dateChars date ++ 'T' :: (clockChars clock ++ offsetChars offset)).drop 10 =
      'T' :: (clockChars clock ++ offsetChars offset) := List.drop_left' (length_dateChars date)
  simp only [whole, read, dateLength?_dateChars, front, behind, readDate_dateChars, readTime_chars,
    Option.bind_eq_bind, Option.bind_some]

/-! ## Blanks and `Z` -/

theorem isBlank_of_mem_chars (moment : DateTime) : ∀ c ∈ chars moment, Text.isBlank c = false :=
  forall_mem_chars (fun _ => Text.isBlank_of_isDigit) (by simp [Text.isBlank, Text.isSpace]) moment

theorem ne_zulu_of_mem_chars (moment : DateTime) : ∀ c ∈ chars moment, c ≠ 'Z' ∧ c ≠ 'z' := by
  refine forall_mem_chars (fun c digit => ⟨?_, ?_⟩) (by simp) moment <;> rintro rfl <;> contradiction

/-- How a text may be spelled. A zero offset may be written as a `Z` in either case. -/
inductive Spelling (text : List Char) : List Char → Prop where
  | plain : Spelling text text
  | zulu {front : List Char} {z : Char} :
      z = 'Z' ∨ z = 'z' → text = front ++ "+00:00".toList → Spelling text (front ++ [z])

theorem Spelling.expandZulu_eq {moment : DateTime} {spelled : List Char}
    (spelling : Spelling (chars moment) spelled) : expandZulu spelled = chars moment := by
  cases spelling with
  | plain =>
    have other := ne_zulu_of_mem_chars moment
    unfold expandZulu
    split
    · next last => exact absurd rfl (other _ (List.mem_of_getLast? last)).1
    · next last => exact absurd rfl (other _ (List.mem_of_getLast? last)).2
    · rfl
  | zulu isZulu written =>
    rw [written]
    rcases isZulu with rfl | rfl <;> simp [expandZulu]

theorem Spelling.isBlank_eq_false {moment : DateTime} {spelled : List Char}
    (spelling : Spelling (chars moment) spelled) : ∀ c ∈ spelled, Text.isBlank c = false := by
  have solid := isBlank_of_mem_chars moment
  cases spelling with
  | plain => exact solid
  | zulu isZulu written =>
    rw [written, List.forall_mem_append] at solid
    refine List.forall_mem_append.mpr ⟨solid.1, ?_⟩
    rcases isZulu with rfl | rfl <;> simp [Text.isBlank, Text.isSpace]

end Iso

namespace Occasion

theorem read?_of_spelling {date : Date} {clock : Clock} {offset : Offset} {before spelled after : List Char}
    (spelling : Iso.Spelling (Iso.chars ⟨date, clock, some offset⟩) spelled)
    (front : ∀ c ∈ before, Text.isBlank c = true) (behind : ∀ c ∈ after, Text.isBlank c = true) :
    read? (.ofList (before ++ spelled ++ after)) = some ⟨⟨date, clock, some offset.readBack⟩, .fixed⟩ := by
  rw [read?, String.toList_ofList, Text.trim_of_solid spelling.isBlank_eq_false front behind,
    spelling.expandZulu_eq, Iso.read_chars]
  rfl

/-- A pinned moment that is written is read as that moment again, offset included, unless the offset is
less than a second and not zero; such an offset is lost and nothing else is. Blanks around the text and a
`Z` for a zero offset make no difference. Whatever text is read, the moment has an offset and is pinned. -/
theorem written_moment_is_read_back (moment : DateTime) (before after : List Char)
    (front : ∀ c ∈ before, Text.isBlank c = true) (behind : ∀ c ∈ after, Text.isBlank c = true) :
    let occasion := pinned moment
    let offset := moment.offset.getD Offset.utc
    (∀ spelled, Iso.Spelling (Iso.text occasion.current).toList spelled →
      let again := read? (.ofList (before ++ spelled ++ after))
      again = some ⟨⟨moment.date, moment.clock, some offset.readBack⟩, .fixed⟩ ∧
      (again = some occasion ↔ offset.IsWritable)) ∧
    ∀ text found, read? text = some found →
      found.current.isAware = true ∧ found.mode = .fixed ∧ found.isFixed = true := by
  intro occasion offset
  refine ⟨fun spelled spelling => ?_, fun text found isRead => ?_⟩
  · rw [Iso.text, String.toList_ofList] at spelling
    have again := read?_of_spelling spelling front behind
    refine ⟨again, ?_⟩
    rw [again, ← Offset.readBack_eq_self_iff]
    constructor
    · intro same
      have offsets := congrArg (fun found => found.current.offset) (Option.some.inj same)
      exact Option.some.inj offsets
    · intro same
      rw [same]
      rfl
  · obtain ⟨moment, -, rfl⟩ := Option.map_eq_some_iff.mp isRead
    exact ⟨rfl, rfl, rfl⟩

/-- An early moment less than a minute behind UTC, and a late one without an offset, written with a `Z`. -/
theorem written_moment_is_read_back_with_odd_seconds :
    let early : DateTime := ⟨⟨99, 2, 28, by decide⟩, ⟨23, 5, 0, 7, by decide⟩, some ⟨-59000007, by decide⟩⟩
    let late : DateTime := ⟨⟨9999, 12, 31, by decide⟩, Clock.midnight, none⟩
    (∀ c ∈ ['\u3000', '\t'], Text.isBlank c = true) ∧ (∀ c ∈ ['\n', '\x1c'], Text.isBlank c = true) ∧
      read? "\u3000\t0099-02-28T23:05:00.000007-00:00:59.000007\n\x1c" = some (pinned early) ∧
      read? "\u3000\t9999-12-31T00:00:00z\n\x1c" = some (pinned late) := by
  intro early late
  have front : ∀ c ∈ ['\u3000', '\t'], Text.isBlank c = true := List.all_eq_true.mp rfl
  have behind : ∀ c ∈ ['\n', '\x1c'], Text.isBlank c = true := List.all_eq_true.mp rfl
  have zulu : Iso.Spelling (Iso.text (pinned late).current).toList "9999-12-31T00:00:00z".toList :=
    .zulu (.inr rfl) (by decide +kernel : _ = "9999-12-31T00:00:00".toList ++ "+00:00".toList)
  have plain : (Iso.text (pinned early).current).toList =
      "0099-02-28T23:05:00.000007-00:00:59.000007".toList := by decide +kernel
  refine ⟨front, behind, ?_, ?_⟩
  · have again := ((written_moment_is_read_back early _ _ front behind).1 _ .plain).1
    rw [plain] at again
    exact again
  · exact ((written_moment_is_read_back late _ _ front behind).1 _ zulu).1

/-- Half a second ahead of UTC is written and then read as no distance at all. -/
theorem written_short_offset_is_lost :
    let moment : DateTime := ⟨⟨2024, 1, 1, by decide⟩, Clock.midnight, some ⟨500000, by decide⟩⟩
    Iso.text (pinned moment).current = "2024-01-01T00:00:00+00:00:00.500000" ∧
      read? (Iso.text (pinned moment).current) = some (pinned { moment with offset := some Offset.utc }) ∧
      read? (Iso.text (pinned moment).current) ≠ some (pinned moment) := by
  decide +kernel

end Occasion

end TimeGate
