import BayMap.Topology.Basic
import BayMap.Topology.Diagnostic

/-!
# Surveys

A survey is a topology in the making: what is known so far, and the problems met on the way.
-/

namespace BayMap.Topology

/-- A topology in the making. -/
structure Survey where
  /-- What is known so far. -/
  topology : Topology
  /-- The problems met so far, the first one first. -/
  diagnostics : List Diagnostic
  deriving DecidableEq, Repr

namespace Survey

/-- The survey that starts from a topology. -/
def start (topology : Topology) : Survey := ⟨topology, []⟩

/-- Notes problems. -/
def note (s : Survey) (problems : List Diagnostic) : Survey :=
  { s with diagnostics := s.diagnostics ++ problems }

@[simp] theorem topology_note (s : Survey) (problems : List Diagnostic) :
    (s.note problems).topology = s.topology := rfl

@[simp] theorem diagnostics_note (s : Survey) (problems : List Diagnostic) :
    (s.note problems).diagnostics = s.diagnostics ++ problems := rfl

/-- Places a disk in a slot, or notes why it has none. -/
def place (s : Survey) (disk : Disk) (slot : Except PlacementError Nat) : Survey :=
  match slot.bind fun index => s.topology.slots.assign index disk with
  | .ok slots => { s with topology := { s.topology with slots } }
  | .error cause => s.note [.unplaced disk.deviceName cause]

/-- Registers an expander that sysfs shows, or notes that there is no entry for it. -/
def register (s : Survey) (deviceName : String) (wwid : UInt64) (enclosureId : String) : Survey :=
  let index := expanderIndex wwid
  match s.topology.expanders.register index deviceName wwid enclosureId with
  | some expanders => { s with topology := { s.topology with expanders } }
  | none => s.note [.unplaced deviceName (.expanderOutOfRange index)]

end Survey

theorem layout_place (s : Survey) (disk : Disk) (slot : Except PlacementError Nat) :
    (s.place disk slot).topology.layout = s.topology.layout := by
  unfold Survey.place
  split <;> rfl

theorem family_place (s : Survey) (disk : Disk) (slot : Except PlacementError Nat) :
    (s.place disk slot).topology.family = s.topology.family := by
  unfold Survey.place
  split <;> rfl

theorem expanders_place (s : Survey) (disk : Disk) (slot : Except PlacementError Nat) :
    (s.place disk slot).topology.expanders = s.topology.expanders := by
  unfold Survey.place
  split <;> rfl

theorem register_frame (s : Survey) (deviceName : String) (wwid : UInt64) (enclosureId : String) :
    (s.register deviceName wwid enclosureId).topology.layout = s.topology.layout ∧
      (s.register deviceName wwid enclosureId).topology.family = s.topology.family ∧
      (s.register deviceName wwid enclosureId).topology.slots = s.topology.slots := by
  simp only [Survey.register]
  split <;> exact ⟨rfl, rfl, rfl⟩

end BayMap.Topology
