/-! The settings of the command, and their defaults. -/

set_option autoImplicit false

namespace TimeGate

structure Settings where
  timezone : String
  strict : Bool
  level : String
  deriving DecidableEq, Repr

namespace Settings

def defaultTimezone : String := "UTC"

def defaultLevel : String := "WARNING"

def default : Settings := ⟨defaultTimezone, false, defaultLevel⟩

end Settings

end TimeGate
