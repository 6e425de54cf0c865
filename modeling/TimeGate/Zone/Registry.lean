import TimeGate.Notice
import TimeGate.Text.Pieces
import TimeGate.Zone.Rule

/-! Registries of zones. A registry loads zones by their keys, and a name that it does not find is looked
for once more among the folded forms of the keys. Keys are paths to files, so that a name which is no key
can fail to load in several ways. Those that are foreseen mean that there is no such zone; any other is
passed on to whoever asks. -/

set_option autoImplicit false

namespace TimeGate

namespace Registry

/-- Why a name does not load. -/
inductive Fault where
  | notFound
  /-- The name is not of the form of a key. -/
  | malformed
  /-- Something is there and cannot be read, such as a folder. -/
  | unreadable
  /-- Anything that loading a name is not expected to end in. -/
  | unforeseen
  deriving DecidableEq, Repr

def Fault.isForeseen : Fault → Bool
  | .unforeseen => false
  | _ => true

/-- Whether there is a zone, by what came of looking for it. -/
def isZone : Except Fault Zone → Except Fault Bool
  | .ok _ => .ok true
  | .error fault => if fault.isForeseen then .ok false else .error fault

theorem isZone_eq_true_iff {found : Except Fault Zone} :
    isZone found = .ok true ↔ ∃ zone, found = .ok zone := by
  cases found with
  | ok zone => simp [isZone]
  | error fault => cases fault <;> simp [isZone, Fault.isForeseen]

theorem isZone_eq_error_iff {found : Except Fault Zone} {fault : Fault} :
    isZone found = .error fault ↔ found = .error fault ∧ fault.isForeseen = false := by
  cases found with
  | ok zone => simp [isZone]
  | error other =>
    rw [isZone, Except.error.injEq]
    split
    · next foreseen =>
      refine iff_of_false (by simp) ?_
      rintro ⟨rfl, unforeseen⟩
      exact Bool.false_ne_true (unforeseen.symm.trans foreseen)
    · next unforeseen =>
      rw [Except.error.injEq, iff_self_and]
      rintro rfl
      exact Bool.not_eq_true _ ▸ unforeseen

end Registry

/-- The keys of zones, and what comes of loading a name. -/
structure Registry where
  keys : List String
  load : String → Except Registry.Fault Zone

namespace Registry

section Resolving

variable {α : Type} [DecidableEq α] (registry : Registry) (fold : String → α)

/-- The key that has the folded form of a name. -/
def keyOf? (name : String) : Option String := registry.keys.find? fun key => fold key == fold name

/-- Loads a name as it stands, or else the key of the same folded form. -/
def resolve (name : String) : Except Fault Zone :=
  match registry.load name with
  | .error .notFound =>
    match registry.keyOf? fold name with
    | some key => if key = name then .error .notFound else registry.load key
    | none => .error .notFound
  | loaded => loaded

/-- Whether a name resolves. What is not foreseen is passed on. -/
def knows (name : String) : Except Fault Bool := isZone (registry.resolve fold name)

/-- What is told of a name while it is resolved: the key that is tried in its place, and that it is not
known. -/
def lookupNotices (name : String) : List Notice :=
  (match registry.load name, registry.keyOf? fold name with
    | .error .notFound, some key => if key = name then [] else [.zoneResolved name key]
    | _, _ => []) ++
  match registry.knows fold name with
  | .ok false => [.zoneUnknown name]
  | _ => []

end Resolving

/-! ## Zones in files -/

/-- A path with an empty step, or with a step that leads nowhere or back. -/
def isMisshapen (name : List Char) : Bool :=
  (Text.pieces '/' name).any fun step => step == [] || step == ['.'] || step == ['.', '.']

/-- The folders that lead to a file, one within the other. A point in the name of a folder divides it like
a slash. -/
def folders (name : List Char) : List (List Char) :=
  (Text.pieces '/' name).dropLast.flatMap (Text.pieces '.')

/-- One of the zones lies below the name. -/
def isFolder (zones : List Zone) (name : List Char) : Bool :=
  zones.any fun zone => (name ++ ['/']).isPrefixOf zone.name.toList

/-- The registry of zones that are kept in files, each under its name. Folders are entered one from the
other, and there is room for fewer than `room` of them. -/
def ofZones (room : Nat) (zones : List Zone) : Registry where
  keys := zones.map Zone.name
  load name :=
    if isMisshapen name.toList then .error .malformed
    -- The folders are entered before anything is found to be missing.
    else if room ≤ (folders name.toList).length then .error .unforeseen
    else match zones.find? fun zone => zone.name == name with
      | some zone => .ok zone
      | none => if isFolder zones name.toList then .error .unreadable else .error .notFound

theorem load_ofZones_eq_ok_iff {room : Nat} {zones : List Zone} {name : String} {zone : Zone} :
    (ofZones room zones).load name = .ok zone ↔
      isMisshapen name.toList = false ∧ (folders name.toList).length < room ∧
        (zones.find? fun zone => zone.name == name) = some zone := by
  simp only [ofZones]
  cases isMisshapen name.toList with
  | true => simp
  | false =>
    by_cases deep : room ≤ (folders name.toList).length
    · simp [deep, Nat.not_lt_of_le deep]
    · cases zones.find? fun zone => zone.name == name with
      | none => cases isFolder zones name.toList <;> simp [deep]
      | some found => simp [deep, Nat.lt_of_not_le deep]

end Registry

end TimeGate
