import TimeGate.Zone.Rule

/-! Asian zones. A change is the second from which it holds, in UTC from the start of 1970, and the offset
in seconds; the rule holds from the last change on. -/

set_option autoImplicit false

namespace TimeGate.Atlas

def kolkata : Zone where
  name := "Asia/Kolkata"
  before := 21208
  changes := [
    ⟨-3645237208, 21200⟩, ⟨-3155694800, 19270⟩, ⟨-2019705670, 19800⟩, ⟨-891581400, 23400⟩,
    ⟨-872058600, 19800⟩, ⟨-862637400, 23400⟩, ⟨-764145000, 19800⟩]
  rule := .steady 19800

def kathmandu : Zone where
  name := "Asia/Kathmandu"
  before := 20476
  changes := [
    ⟨-1577943676, 19800⟩, ⟨504901800, 20700⟩]
  rule := .steady 20700

def tokyo : Zone where
  name := "Asia/Tokyo"
  before := 33539
  changes := [
    ⟨-2587712400, 32400⟩, ⟨-683802000, 36000⟩, ⟨-672310800, 32400⟩, ⟨-654771600, 36000⟩,
    ⟨-640861200, 32400⟩, ⟨-620298000, 36000⟩, ⟨-609411600, 32400⟩, ⟨-588848400, 36000⟩,
    ⟨-577962000, 32400⟩]
  rule := .steady 32400

end TimeGate.Atlas
