import BayMap.Smp.PhyRecord
import BayMap.Topology.Placement

/-!
# Slots

The drive bays of a system, each with the device in it and with what an expander last said of the
phy wired to it. A bay keeps its device until the table is cleared.

* `get?_assign`: a device that is placed changes its own slot and no other.
* `occupied_assign`: placing a device counts it.
-/

namespace BayMap.Topology

/-- How a slot is labelled. -/
inductive LabelStyle where
  /-- The end of the world-wide identifier. -/
  | wwid
  /-- The number of the slot and the block device. -/
  | block
  /-- The number of the slot and the address of the device. -/
  | name
  deriving DecidableEq, Repr

/-- The style used unless it is said otherwise. -/
def LabelStyle.standard : LabelStyle := .block

/-- A device that can be placed in a slot. -/
structure Disk where
  /-- The name of the device, which is its address. -/
  deviceName : String
  /-- The world-wide identifier. -/
  wwid : String
  /-- The block device. -/
  blockName : String
  deriving DecidableEq, Repr

/-- A drive bay. -/
structure Slot where
  /-- The device in the bay. -/
  disk : Option Disk
  /-- What an expander last said of the phy wired to the bay. -/
  lastDiscovery : Option Smp.PhyRecord
  deriving DecidableEq, Repr

namespace Slot

/-- A slot of which nothing is known. -/
def empty : Slot := ⟨none, none⟩

/-- No device was placed in the slot. -/
def isVacant (s : Slot) : Bool := s.disk.isNone

/-- Something is known of the slot. -/
def isUsed (s : Slot) : Bool := !s.isVacant || s.lastDiscovery.isSome

/-- The phy wired to the bay, where the response was long enough to hold it. -/
def phyId (s : Slot) : Option UInt8 :=
  (s.lastDiscovery.filter fun r => 9 < r.responseLength).map (·.phyId)

/-- The label of the slot at an index. Labels count slots from one, with numbers of 64 bits, so the
count starts over after the last of them. -/
def label (s : Slot) (style : LabelStyle) (index : Nat) : String :=
  let number := Text.decimal (UInt64.ofNat index + 1).toNat
  match s.disk with
  | none => "Slot " ++ number
  | some disk =>
    match style with
    | .wwid =>
      let text := disk.wwid.toList
      .ofList ((Text.lastBytes 16 text).getD text)
    | .block => number ++ ". " ++ disk.blockName
    | .name => number ++ ". " ++ disk.deviceName

end Slot

/-- The drive bays of all expanders, with a count of the devices placed. -/
structure SlotTable where
  /-- The slots. -/
  slots : Array Slot
  /-- The devices placed since the table was last cleared. -/
  occupied : Nat
  deriving DecidableEq, Repr

namespace SlotTable

/-- The table of a layout with nothing in it. -/
def empty (layout : Layout) : SlotTable := ⟨.replicate layout.slotCount .empty, 0⟩

/-- The number of slots. -/
def size (t : SlotTable) : Nat := t.slots.size

/-- The slot at an index. -/
def get? (t : SlotTable) (index : Nat) : Option Slot := t.slots[index]?

/-- The slot at an index, and an empty one outside the table. -/
def getD (t : SlotTable) (index : Nat) : Slot := (t.get? index).getD .empty

/-- There is a slot at an index, and no device was placed in it. -/
def isVacant (t : SlotTable) (index : Nat) : Bool := (t.get? index).any Slot.isVacant

/-- Places a device in a vacant slot. What an expander said of the slot stays. -/
def assign (t : SlotTable) (index : Nat) (disk : Disk) : Except PlacementError SlotTable :=
  match t.get? index with
  | none => .error (.slotOutOfRange index)
  | some slot =>
    match slot.disk with
    | none =>
      .ok ⟨t.slots.setIfInBounds index { slot with disk := some disk }, t.occupied + 1⟩
    | some present => .error (.slotOccupied index present.deviceName)

/-- Keeps what an expander said of the phy wired to a slot. -/
def setRecord (t : SlotTable) (index : Nat) (record : Smp.PhyRecord) : SlotTable :=
  { t with slots := t.slots.modify index fun slot => { slot with lastDiscovery := some record } }

/-- Forgets all devices and all that was said of them. -/
def clear (t : SlotTable) : SlotTable := ⟨t.slots.map fun _ => .empty, 0⟩

@[simp] theorem size_empty (layout : Layout) : (empty layout).size = layout.slotCount := by
  simp [empty, size]

theorem get?_empty (layout : Layout) (index : Nat) :
    (empty layout).get? index = if index < layout.slotCount then some .empty else none :=
  Array.getElem?_replicate

@[simp] theorem size_setRecord (t : SlotTable) (index : Nat) (record : Smp.PhyRecord) :
    (t.setRecord index record).size = t.size := by
  simp [setRecord, size]

@[simp] theorem size_clear (t : SlotTable) : t.clear.size = t.size := by
  simp [clear, size]

theorem assign_eq_ok_iff {t u : SlotTable} {index : Nat} {disk : Disk} :
    t.assign index disk = .ok u ↔
      ∃ slot, t.get? index = some slot ∧ slot.disk = none ∧
        u = ⟨t.slots.setIfInBounds index { slot with disk := some disk }, t.occupied + 1⟩ := by
  unfold assign
  split
  · simp [*]
  · next slot h =>
    split
    · next hv =>
      simp only [h, Except.ok.injEq, Option.some.injEq, exists_eq_left', hv, true_and]
      exact eq_comm
    · next hv => simp [h, hv]

theorem size_assign {t u : SlotTable} {index : Nat} {disk : Disk}
    (h : t.assign index disk = .ok u) : u.size = t.size := by
  obtain ⟨slot, -, -, rfl⟩ := assign_eq_ok_iff.1 h
  simp [size]

theorem occupied_assign {t u : SlotTable} {index : Nat} {disk : Disk}
    (h : t.assign index disk = .ok u) : u.occupied = t.occupied + 1 := by
  obtain ⟨slot, -, -, rfl⟩ := assign_eq_ok_iff.1 h
  rfl

theorem get?_assign {t u : SlotTable} {index : Nat} {disk : Disk}
    (h : t.assign index disk = .ok u) (other : Nat) :
    u.get? other =
      if other = index then (t.get? index).map fun slot => { slot with disk := some disk }
      else t.get? other := by
  obtain ⟨slot, hs, -, rfl⟩ := assign_eq_ok_iff.1 h
  obtain ⟨hlt, -⟩ := Array.getElem?_eq_some_iff.1 hs
  by_cases ho : other = index
  · subst ho
    rw [if_pos rfl, hs]
    simp [get?, hlt]
  · rw [if_neg ho]
    simp [get?, Ne.symm ho]

theorem get?_setRecord (t : SlotTable) (index : Nat) (record : Smp.PhyRecord) (other : Nat) :
    (t.setRecord index record).get? other =
      if other = index then
        (t.get? index).map fun slot => { slot with lastDiscovery := some record }
      else t.get? other := by
  by_cases ho : other = index
  · subst ho
    simp [setRecord, get?, Array.getElem?_modify]
  · rw [if_neg ho]
    simp [setRecord, get?, Array.getElem?_modify, Ne.symm ho]

end SlotTable

end BayMap.Topology
