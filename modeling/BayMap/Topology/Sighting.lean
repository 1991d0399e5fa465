import BayMap.Sysfs.Devices
import BayMap.Topology.Slots

/-!
# Sightings

What sysfs says of one SCSI device: whether it is an expander, a disk with a marker or any other
device, and who it is. What cannot be read is empty, except for the world-wide identifier of an
expander, without which it has no place.
-/

namespace BayMap.Topology

open Files (Tree Entry)

/-- What a device is to its enclosure. -/
inductive Role where
  /-- An expander, with its world-wide identifier if there is one, and the identifier of its
  enclosure. -/
  | expander (wwid : Except Files.Error (Option UInt64)) (enclosureId : String)
  /-- A disk with a marker that names its bay. -/
  | marked (marker : String)
  /-- Any other device. -/
  | plain

/-- A device as sysfs shows it. -/
structure Sighting where
  /-- What the device is to its enclosure. -/
  role : Role
  /-- Who the device is. -/
  disk : Disk

/-- The name of the device. -/
abbrev Sighting.name (s : Sighting) : String := s.disk.deviceName

/-- A text that may be unreadable or absent, which both count as empty. -/
def readable (text : Except Files.Error (Option String)) : String :=
  (text.toOption.bind id).getD ""

namespace Sighting

/-- What a device in a directory of devices is to its enclosure. -/
def roleOf (t : Tree) (root name : String) : Role :=
  let directory := Files.Path.join root name
  match Sysfs.enclosures t directory with
  | .error _ => .plain
  | .ok found =>
    if found.isExpander then
      .expander (Sysfs.expanderAddress t directory) (readable (Sysfs.enclosureId t root name))
    else
      match found.marker with
      | some marker => .marked marker
      | none => .plain

theorem roleOf_of_list {t : Tree} {root name : String} {listed : List Entry}
    (h : t.list (Files.Path.join root name) = .ok listed) :
    roleOf t root name =
      if (Sysfs.Enclosures.ofEntries listed).isExpander then
        .expander (Sysfs.expanderAddress t (Files.Path.join root name))
          (readable (Sysfs.enclosureId t root name))
      else
        match (Sysfs.Enclosures.ofEntries listed).marker with
        | some marker => .marked marker
        | none => .plain := by
  delta roleOf
  simp only
  rw [Sysfs.enclosures, h]
  rfl

/-- Looks at a device in a directory of devices. -/
def ofEntry (t : Tree) (root : String) (e : Entry) : Sighting where
  role := roleOf t root e.name
  disk :=
    { deviceName := e.name
      wwid := readable (Sysfs.readAttribute t (Files.Path.join root e.name) "wwid")
      blockName := readable (Sysfs.blockName t (Files.Path.join root e.name)) }

end Sighting

end BayMap.Topology
