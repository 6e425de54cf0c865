/-! The five fields of a schedule, bound by position, and the legal values of each. Only strict
reading and display use the bounds; admission never does. -/

set_option autoImplicit false

namespace TimeGate

inductive Field where
  | minute
  | hour
  | dayOfMonth
  | month
  | dayOfWeek
  deriving DecidableEq, Repr

/-- The legal values of one field, bounds included. -/
structure Domain where
  name : String
  label : String
  low : Int
  high : Int
  deriving DecidableEq, Repr

namespace Field

/-- Positional order. -/
def all : List Field := [.minute, .hour, .dayOfMonth, .month, .dayOfWeek]

def domain : Field → Domain
  | .minute => ⟨"minute", "minute", 0, 59⟩
  | .hour => ⟨"hour", "hour", 0, 23⟩
  | .dayOfMonth => ⟨"day_of_month", "day of the month", 1, 31⟩
  | .month => ⟨"month", "month", 1, 12⟩
  | .dayOfWeek => ⟨"day_of_week", "day of the week", 0, 6⟩

def name (field : Field) : String := field.domain.name

def ofName? (name : String) : Option Field := all.find? fun field => field.name == name

end Field

/-- One item for each field. -/
structure PerField (α : Type) where
  minute : α
  hour : α
  dayOfMonth : α
  month : α
  dayOfWeek : α
  deriving DecidableEq, Repr

namespace PerField

variable {α β : Type}

def get (items : PerField α) : Field → α
  | .minute => items.minute
  | .hour => items.hour
  | .dayOfMonth => items.dayOfMonth
  | .month => items.month
  | .dayOfWeek => items.dayOfWeek

def ofFn (item : Field → α) : PerField α :=
  ⟨item .minute, item .hour, item .dayOfMonth, item .month, item .dayOfWeek⟩

def toList (items : PerField α) : List α :=
  [items.minute, items.hour, items.dayOfMonth, items.month, items.dayOfWeek]

@[simp] theorem get_ofFn (item : Field → α) (field : Field) : (ofFn item).get field = item field := by
  cases field <;> rfl

theorem toList_eq (items : PerField α) : items.toList = Field.all.map items.get := rfl

theorem eq_of_get {items others : PerField α} (same : ∀ field, items.get field = others.get field) :
    items = others := by
  cases items; cases others
  simpa [get] using And.intro (same .minute) (And.intro (same .hour)
    (And.intro (same .dayOfMonth) (And.intro (same .month) (same .dayOfWeek))))

end PerField

/-- The five calendar numbers of an instant. Sunday is day 0 of the week, January month 1. -/
abbrev Components := PerField Int

end TimeGate
