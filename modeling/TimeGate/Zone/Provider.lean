import TimeGate.Instant.DateTime
import TimeGate.Notice
import TimeGate.Zone.Atlas

/-! Zone providers: which names they know and how they show a moment on a zone's calendar. A
provider answers from its arguments alone. -/

set_option autoImplicit false

namespace TimeGate

structure Provider where
  /-- Whether there is a zone of this name. Looking for one can fail. -/
  knows : String → Except Registry.Fault Bool
  /-- The calendar numbers of a moment in a zone, unless the conversion leaves the calendar. -/
  project : String → DateTime → Option Components
  lookupNotices : String → List Notice

namespace Zone

/-- The calendar numbers of a moment in the zone. Both the moment in UTC and the one shown in the
zone have to lie in the years 1 to 9999. -/
def components? (zone : Zone) (moment : DateTime) : Option Components :=
  let second := moment.instant / microsPerSecond
  let shown := second + zone.offsetAt second
  if inCalendar second && inCalendar shown then some (.ofSeconds shown) else none

end Zone

namespace Provider

/-- The provider of a database of zones. -/
def ofZones (database : String → Except Registry.Fault Zone) (lookupNotices : String → List Notice) :
    Provider where
  knows name := Registry.isZone (database name)
  project name moment := (database name).toOption.bind fun zone => zone.components? moment
  lookupNotices := lookupNotices

def shiftOf? (shifts : List (String × Int)) (name : String) : Option Int :=
  (shifts.find? fun entry => entry.1 == name).map Prod.snd

/-- Made-up zones. The calendar is taken as the moment shows it and only the hour is shifted, around
the clock and without touching the day. -/
def ofShifts (shifts : List (String × Int)) : Provider where
  knows name := .ok (shiftOf? shifts name).isSome
  project name moment := (shiftOf? shifts name).map fun shift =>
    { moment.components with hour := (moment.components.hour + shift) % 24 }
  lookupNotices _ := []

end Provider

/-- The provider of the zones of the atlas. -/
def Atlas.provider : Provider := .ofZones resolve lookupNotices

end TimeGate
