/-! The variables of a process. A variable has at most one value; setting one leaves all others as
they are. -/

set_option autoImplicit false

namespace TimeGate

structure Environment where
  bindings : List (String × String)
  deriving DecidableEq, Repr

namespace Environment

def empty : Environment := ⟨[]⟩

def get? (environment : Environment) (name : String) : Option String :=
  (environment.bindings.find? fun binding => binding.1 == name).map Prod.snd

def contains (environment : Environment) (name : String) : Bool := (environment.get? name).isSome

def erase (environment : Environment) (name : String) : Environment :=
  ⟨environment.bindings.filter fun binding => binding.1 != name⟩

def set (environment : Environment) (name value : String) : Environment :=
  ⟨(name, value) :: (environment.erase name).bindings⟩

def ofList (bindings : List (String × String)) : Environment :=
  bindings.foldl (fun environment binding => environment.set binding.1 binding.2) empty

/-- Whether an environment can hold a variable. No name holds an equals sign, and neither name nor value
the null character. -/
def canHold (name value : String) : Bool :=
  !name.isEmpty && !name.contains '=' && !name.contains '\x00' && !value.contains '\x00'

theorem get?_set_self (environment : Environment) (name value : String) :
    (environment.set name value).get? name = some value := by
  simp [get?, set]

theorem get?_set_of_ne (environment : Environment) {name other : String} (value : String)
    (distinct : other ≠ name) : (environment.set name value).get? other = environment.get? other := by
  have kept : (fun binding : String × String => !decide (binding.1 = name) && decide (binding.1 = other)) =
      fun binding => binding.1 == other := by
    funext binding
    by_cases same : binding.1 = other <;> simp [same, distinct]
  simp [get?, set, erase, Ne.symm distinct, List.find?_filter, kept]

end Environment

end TimeGate
