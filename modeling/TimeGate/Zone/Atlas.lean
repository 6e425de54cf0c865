import TimeGate.Text.Case
import TimeGate.Zone.Atlas.Africa
import TimeGate.Zone.Atlas.America
import TimeGate.Zone.Atlas.Asia
import TimeGate.Zone.Atlas.Europe
import TimeGate.Zone.Atlas.Pacific
import TimeGate.Zone.Registry

/-! The known zones, as a registry of which the names may be spelled in any letter case. No two known
names share a lower-case form. -/

set_option autoImplicit false

namespace TimeGate.Atlas

def utc : Zone where
  name := "UTC"
  before := 0
  changes := []
  rule := .steady 0

def gmt : Zone where
  name := "GMT"
  before := 0
  changes := []
  rule := .steady 0

def etcPlus12 : Zone where
  name := "Etc/GMT+12"
  before := -43200
  changes := []
  rule := .steady (-43200)

def etcMinus14 : Zone where
  name := "Etc/GMT-14"
  before := 50400
  changes := []
  rule := .steady 50400

def zones : List Zone := [
  utc, gmt, toronto, stJohns, saoPaulo, nuuk,
  buenosAires, london, berlin, paris, dublin, casablanca,
  monrovia, kolkata, kathmandu, tokyo, lordHowe, chatham,
  apia, kiritimati, etcPlus12, etcMinus14]

def lowerName (name : String) : List Char := Text.lower name.toList

/-- Entering a folder takes four calls within the calls that entered the last, and there are a thousand in
all. A few folders less are too many where calls are in use already. That is left out here. -/
def room : Nat := 250

def registry : Registry := .ofZones room zones

/-- Finds the zone of a name in any letter case. -/
def resolve (name : String) : Except Registry.Fault Zone := registry.resolve lowerName name

def lookupNotices (name : String) : List Notice := registry.lookupNotices lowerName name

end TimeGate.Atlas
