import BayMap.Smp.PhyRecord
import BayMap.Topology.Placement
import BayMap.Transport.Link

/-!
# Expanders

The expanders of a system, each at the index that its world-wide identifier holds: what sysfs says
of it, the node it is reached through, and its link to the host.
-/

namespace BayMap.Topology

/-- The node that an expander is reached through. -/
structure Binding where
  /-- The path of the node. -/
  path : String
  /-- The kind of the node. -/
  kind : Transport.Kind
  /-- The number of the controller, where the node is one of a controller. -/
  ordinal : Option UInt8
  deriving DecidableEq, Repr

/-- The phy of an expander that is attached to the host. -/
structure HostLink where
  /-- The device name of the host at the other end, never zero. -/
  initiator : UInt64
  /-- What the expander said of the phy. -/
  record : Smp.PhyRecord
  deriving DecidableEq, Repr

/-- An expander. -/
structure Expander where
  /-- The address of its enclosure services device. -/
  deviceName : String
  /-- The SAS address, zero where it is not known. -/
  wwid : UInt64
  /-- The logical identifier of the enclosure. -/
  enclosureId : String
  /-- The node it is reached through. -/
  binding : Option Binding
  /-- Its link to the host. -/
  hostLink : Option HostLink
  deriving DecidableEq, Repr

namespace Expander

/-- An expander of which nothing is known. -/
def empty : Expander := ⟨"", 0, "", none, none⟩

/-- Takes the SAS address where none is known. -/
def withWwid (e : Expander) (address : UInt64) : Expander :=
  if e.wwid = 0 then { e with wwid := address } else e

theorem wwid_withWwid (e : Expander) (address : UInt64) :
    (e.withWwid address).wwid = if e.wwid = 0 then address else e.wwid := by
  unfold withWwid
  split <;> rfl

@[simp] theorem hostLink_withWwid (e : Expander) (address : UInt64) :
    (e.withWwid address).hostLink = e.hostLink := by
  unfold withWwid
  split <;> rfl

end Expander

/-- The expanders of a system, with a count of those found in sysfs. -/
structure ExpanderTable where
  /-- The entries. -/
  entries : Array Expander
  /-- The expanders registered since the table was last cleared. -/
  registered : Nat
  deriving DecidableEq, Repr

namespace ExpanderTable

/-- The table of a layout with nothing in it. -/
def empty (layout : Layout) : ExpanderTable := ⟨.replicate layout.expanders .empty, 0⟩

/-- The number of entries. -/
def size (t : ExpanderTable) : Nat := t.entries.size

/-- The entry at an index. -/
def get? (t : ExpanderTable) (index : Nat) : Option Expander := t.entries[index]?

/-- The entry at an index, and an empty one outside the table. -/
def getD (t : ExpanderTable) (index : Nat) : Expander := (t.get? index).getD .empty

/-- The SAS address at an index, zero where it is not known. -/
def wwid (t : ExpanderTable) (index : Nat) : UInt64 := ((t.get? index).map (·.wwid)).getD 0

/-- Changes the entry at an index, if there is one. -/
def change? (t : ExpanderTable) (index : Nat) (f : Expander → Expander) : Option ExpanderTable :=
  if index < t.size then some { t with entries := t.entries.modify index f } else none

/-- Registers an expander that sysfs shows. Nothing else in the entry changes. -/
def register (t : ExpanderTable) (index : Nat) (deviceName : String) (wwid : UInt64)
    (enclosureId : String) : Option ExpanderTable :=
  (t.change? index fun e => { e with deviceName, wwid, enclosureId }).map fun u =>
    { u with registered := u.registered + 1 }

/-- Forgets all expanders. -/
def clear (t : ExpanderTable) : ExpanderTable := ⟨t.entries.map fun _ => .empty, 0⟩

theorem get?_empty (layout : Layout) (index : Nat) :
    (empty layout).get? index = if index < layout.expanders then some .empty else none :=
  Array.getElem?_replicate

theorem get?_eq_none_iff {t : ExpanderTable} {index : Nat} : t.get? index = none ↔ t.size ≤ index :=
  Array.getElem?_eq_none_iff

theorem get?_isSome_iff {t : ExpanderTable} {index : Nat} :
    (t.get? index).isSome ↔ index < t.size := by
  simp [get?, size]

theorem change?_eq_none_iff {t : ExpanderTable} {index : Nat} {f : Expander → Expander} :
    t.change? index f = none ↔ t.get? index = none := by
  rw [get?_eq_none_iff]
  unfold change?
  split
  · simp [*]
  · simpa using Nat.not_lt.1 ‹_›

theorem get?_change? {t u : ExpanderTable} {index : Nat} {f : Expander → Expander}
    (h : t.change? index f = some u) (other : Nat) :
    u.get? other = if other = index then (t.get? index).map f else t.get? other := by
  unfold change? at h
  split at h
  · obtain rfl := Option.some.inj h
    by_cases ho : other = index
    · subst ho
      simp [get?, Array.getElem?_modify]
    · rw [if_neg ho]
      simp [get?, Array.getElem?_modify, Ne.symm ho]
  · cases h

theorem size_change? {t u : ExpanderTable} {index : Nat} {f : Expander → Expander}
    (h : t.change? index f = some u) : u.size = t.size := by
  unfold change? at h
  split at h
  · obtain rfl := Option.some.inj h
    simp [size]
  · cases h

theorem registered_change? {t u : ExpanderTable} {index : Nat} {f : Expander → Expander}
    (h : t.change? index f = some u) : u.registered = t.registered := by
  unfold change? at h
  split at h
  · obtain rfl := Option.some.inj h
    rfl
  · cases h

end ExpanderTable

end BayMap.Topology
