import TimeGate.Proofs.Display
import TimeGate.Proofs.Gate.Building
import TimeGate.Proofs.Schedule.FirstDefect

/-! Messages of refusals. No message leaves its line, whatever is refused: what comes from outside is quoted
or is a number, and a field is named by one of five names. A message about a whole text quotes it, so it
tells the text. -/

set_option autoImplicit false

namespace TimeGate

open TimeGate.Text TimeGate.Grammar

namespace Refusal

/-! ## Wording -/

/-- A field that is named is one of the five. -/
def NamesField (cause : Refusal) : Prop :=
  ∀ name, cause.StandsIn (some name) → ∃ field : Field, name = field.name

theorem inLine_fieldName (field : Field) : InLine field.name.toList := by
  cases field <;> decide

theorem inLine_sideName (side : Side) : InLine side.name.toList := by
  cases side <;> decide

theorem inLine_place {name : Option String} (part : String)
    (named : ∀ given, name = some given → ∃ field : Field, given = field.name) : InLine (place name part) := by
  unfold place
  split
  · simp only [inLine_append_iff, inLine_quoteChars, and_true]
    decide
  · obtain ⟨field, rfl⟩ := named _ rfl
    simp only [inLine_append_iff, inLine_quoteChars, inLine_fieldName, and_true]
    decide

/-- What is put into a message is in line, and so are the fixed words around it. -/
theorem inLine_messageChars {cause : Refusal} (named : cause.NamesField) : InLine cause.messageChars := by
  unfold messageChars
  cases cause with
  | notText given =>
    simp only [inLine_append_iff, given.inLine_display, Decimal.inLine_digits, and_true]
    decide
  | fieldCount text found =>
    simp only [inLine_append_iff, inLine_quoteChars, Decimal.inLine_digits, and_true]
    decide
  | pairShape name part pair =>
    simp only [inLine_append_iff, inLine_place part named, inLine_quoteChars, and_true, true_and]
    decide
  | boundText name part pair side bound =>
    simp only [inLine_append_iff, inLine_place part named, inLine_quoteChars, inLine_sideName, and_true,
      true_and]
    decide
  | outsideDomain name part low high value =>
    -- The name stands in the message without quotes, and is in line as that of a field.
    obtain ⟨field, rfl⟩ := named name rfl
    have place : InLine (place (some field.name) part) :=
      inLine_place part fun _ same => ⟨field, (Option.some.inj same).symm⟩
    simp only [inLine_append_iff, inLine_cons_iff, place, inLine_fieldName, Decimal.inLine_signedDigits,
      and_true, true_and]
    decide
  | unknownZone given =>
    simp only [inLine_append_iff, given.inLine_display, and_true]
    decide

theorem toList_message (cause : Refusal) : cause.message.toList = cause.messageChars :=
  String.toList_ofList

theorem inLine_message {cause : Refusal} (named : cause.NamesField) : InLine cause.message.toList := by
  rw [toList_message]
  exact inLine_messageChars named

theorem messageChars_congr {cause other : Refusal} (same : cause.message = other.message) :
    cause.messageChars = other.messageChars := by
  rw [← toList_message, ← toList_message, same]

theorem text_eq_of_message {text other : String} {found otherFound : Nat}
    (same : (fieldCount text found).message = (fieldCount other otherFound).message) : text = other := by
  have chars := messageChars_congr same
  unfold messageChars at chars
  simp only [List.append_assoc] at chars
  exact eq_of_quoted_behind chars

theorem zone_eq_of_message {zone other : String}
    (same : (unknownZone (.text zone)).message = (unknownZone (.text other)).message) : zone = other := by
  have chars := messageChars_congr same
  unfold messageChars at chars
  simp only [List.append_assoc] at chars
  exact eq_of_quoted_behind chars

end Refusal

/-! ## Causes that are met -/

section
variable {strict : Bool} {cause : Refusal}

theorem FieldSpec.namesField_of_refused {field : Option Field} {part : String}
    (refused : FieldSpec.read (field.map Field.domain) strict part = .error (.refused cause)) :
    cause.NamesField := by
  intro name standsIn
  have named : some name = (field.map Field.domain).map Domain.name :=
    standsIn.name_unique (Schedule.standsIn_of_tokenDefect (FieldSpec.readChars_eq_error_iff.mp refused))
  rw [Option.map_map] at named
  obtain ⟨field, -, rfl⟩ := Option.map_eq_some_iff.mp named.symm
  exact ⟨field, rfl⟩

namespace Schedule

/-- A text is refused for the number of its words or for a part that stands in a field. -/
theorem refused_cases {text : String} (refused : read strict text = .error (.refused cause)) :
    (∃ found, cause = .fieldCount text found) ∨ ∃ field : Field, cause.StandsIn (some field.name) := by
  rcases read_eq_error_iff.mp refused with ⟨tokens, -, -, same⟩ | ⟨tokens, -, field, -, defect⟩
  · cases same
    exact .inl ⟨_, rfl⟩
  · exact .inr ⟨field, standsIn_of_tokenDefect defect⟩

theorem refused_value_cases {given : Value} (refused : readValue strict given = .error (.refused cause)) :
    cause = .notText given ∨ (∃ text found, given = .text text ∧ cause = .fieldCount text found) ∨
      ∃ field : Field, cause.StandsIn (some field.name) := by
  unfold readValue at refused
  split at refused
  · next text =>
    rcases refused_cases refused with ⟨found, rfl⟩ | part
    · exact .inr (.inl ⟨text, found, rfl, rfl⟩)
    · exact .inr (.inr part)
  · cases refused
    exact .inl rfl

theorem namesField_of_refused_value {given : Value}
    (refused : readValue strict given = .error (.refused cause)) : cause.NamesField := by
  intro name standsIn
  rcases refused_value_cases refused with rfl | ⟨text, found, -, rfl⟩ | ⟨field, again⟩
  · exact standsIn.elim
  · exact standsIn.elim
  · exact ⟨field, Option.some.inj (standsIn.name_unique again)⟩

end Schedule

namespace Gate

variable {provider : Provider} {expression zone : Value}

theorem namesField_of_refused (refused : build provider expression zone strict = .error (.refused cause)) :
    cause.NamesField := by
  rcases refused_cases refused with refused | rfl
  · exact Schedule.namesField_of_refused_value refused
  · exact fun _ standsIn => standsIn.elim

/-- Reading blames no zone, so the zone that is blamed is the one that was given. -/
theorem zone_eq_of_refused {given : Value}
    (refused : build provider expression zone strict = .error (.refused (.unknownZone given))) :
    given = zone := by
  rcases refused_cases refused with refused | same
  · rcases Schedule.refused_value_cases refused with other | ⟨_, _, -, other⟩ | ⟨_, standsIn⟩
    · contradiction
    · contradiction
    · exact standsIn.elim
  · cases same
    rfl

end Gate
end

/-- The text is refused for the number of its words, read on its own or to build a gate. -/
def Malformed (text : String) (cause : Refusal) : Prop :=
  cause.expected?.isSome ∧
    ((∃ strict, Schedule.read strict text = .error (.refused cause)) ∨
      ∃ provider zone strict, Gate.build provider (.text text) zone strict = .error (.refused cause))

theorem Malformed.eq_fieldCount {text : String} {cause : Refusal} (malformed : Malformed text cause) :
    ∃ found, cause = .fieldCount text found := by
  obtain ⟨expected, reading⟩ := malformed
  have refused : ∃ strict, Schedule.read strict text = .error (.refused cause) := by
    rcases reading with refused | ⟨provider, zone, strict, refused⟩
    · exact refused
    · rcases Gate.refused_cases refused with refused | rfl
      · exact ⟨strict, refused⟩
      · contradiction
  obtain ⟨strict, refused⟩ := refused
  rcases Schedule.refused_cases refused with counted | ⟨_, standsIn⟩
  · exact counted
  · rw [standsIn.expected?] at expected
    contradiction

/-- Whatever is handed over as a schedule, as a zone or as a part of a schedule, the message of its refusal
stays in one line. Two texts never get the same message, neither as zones that are not known nor as
schedules with a wrong number of words. -/
theorem messages_stay_in_line_and_tell_texts :
    (∀ (provider : Provider) (expression zone : Value) (strict : Bool) (cause : Refusal),
      Gate.build provider expression zone strict = .error (.refused cause) → InLine cause.message.toList) ∧
    (∀ (strict : Bool) (expression : Value) (cause : Refusal),
      Schedule.readValue strict expression = .error (.refused cause) → InLine cause.message.toList) ∧
    (∀ (field : Option Field) (strict : Bool) (part : String) (cause : Refusal),
      FieldSpec.read (field.map Field.domain) strict part = .error (.refused cause) →
        InLine cause.message.toList) ∧
    (∀ (provider otherProvider : Provider) (expression otherExpression : Value) (zone otherZone : String)
        (strict otherStrict : Bool) (given otherGiven : Value),
      Gate.build provider expression (.text zone) strict = .error (.refused (.unknownZone given)) →
      Gate.build otherProvider otherExpression (.text otherZone) otherStrict =
        .error (.refused (.unknownZone otherGiven)) →
      zone ≠ otherZone →
        (Refusal.unknownZone given).message ≠ (Refusal.unknownZone otherGiven).message) ∧
    ∀ (text other : String) (cause otherCause : Refusal), Malformed text cause → Malformed other otherCause →
      text ≠ other → cause.message ≠ otherCause.message := by
  refine ⟨?building, ?reading, ?part, ?zones, ?texts⟩
  case building =>
    intro provider expression zone strict cause refused
    exact Refusal.inLine_message (Gate.namesField_of_refused refused)
  case reading =>
    intro strict expression cause refused
    exact Refusal.inLine_message (Schedule.namesField_of_refused_value refused)
  case part =>
    intro field strict part cause refused
    exact Refusal.inLine_message (FieldSpec.namesField_of_refused refused)
  case zones =>
    intro provider otherProvider expression otherExpression zone otherZone strict otherStrict given otherGiven
      refused otherRefused different same
    obtain rfl := Gate.zone_eq_of_refused refused
    obtain rfl := Gate.zone_eq_of_refused otherRefused
    exact different (Refusal.zone_eq_of_message same)
  case texts =>
    intro text other cause otherCause malformed otherMalformed different same
    obtain ⟨found, rfl⟩ := malformed.eq_fieldCount
    obtain ⟨otherFound, rfl⟩ := otherMalformed.eq_fieldCount
    exact different (Refusal.text_eq_of_message same)

/-- Separators and their escapes, in zones that are not known, in texts of too few words and in a bound. -/
theorem separators_stay_out_of_messages :
    let zones := Provider.ofShifts [("UTC", 0)]
    let broken := Refusal.unknownZone (.text "UTC\n")
    let escaped := Refusal.unknownZone (.text "UTC\\n")
    let pair := Refusal.fieldCount "*\u2028*" 2
    let word := Refusal.fieldCount "*\\u2028*" 1
    let bound := Refusal.boundText none "1-\x7f" "1-\x7f" .stop "\x7f"
    (Gate.build zones (.text "* * * * *") (.text "UTC\n") false = .error (.refused broken) ∧
      Gate.build zones (.text "* * * * *") (.text "UTC\\n") true = .error (.refused escaped) ∧
      InLine broken.message.toList ∧ broken.message ≠ escaped.message) ∧
    (Malformed "*\u2028*" pair ∧ Malformed "*\\u2028*" word ∧
      InLine pair.message.toList ∧ pair.message ≠ word.message) ∧
    FieldSpec.read none false "1-\x7f" = .error (.refused bound) ∧ InLine bound.message.toList := by
  intro zones broken escaped pair word bound
  have unknown : Gate.build zones (.text "* * * * *") (.text "UTC\n") false = .error (.refused broken) := rfl
  have other : Gate.build zones (.text "* * * * *") (.text "UTC\\n") true = .error (.refused escaped) := rfl
  have short : Schedule.readValue false (.text "*\u2028*") = .error (.refused pair) := rfl
  have unread : FieldSpec.read none false "1-\x7f" = .error (.refused bound) := rfl
  have two : Malformed "*\u2028*" pair := ⟨rfl, .inl ⟨false, short⟩⟩
  have one : Malformed "*\\u2028*" word := ⟨rfl, .inl ⟨false, rfl⟩⟩
  have ⟨building, reading, part, ofZones, ofTexts⟩ := messages_stay_in_line_and_tell_texts
  refine ⟨⟨unknown, other, building _ _ _ _ _ unknown, ?_⟩, ⟨two, one, reading _ _ _ short, ?_⟩,
    unread, part none _ _ _ unread⟩
  · exact ofZones _ _ _ _ _ _ _ _ _ _ unknown other (by decide)
  · exact ofTexts _ _ _ _ two one (by decide)

end TimeGate
