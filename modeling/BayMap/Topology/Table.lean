import BayMap.Topology.Basic

/-!
# The slot table as text

The used slots under the line of their expander, each with the phy wired to it, and a last line of
counts. An expander of which nothing is known has a line only where one of its slots is used.

* `mem_slotsOf`: the slots of an expander are those of its range, with their indices.
-/

namespace BayMap.Topology

/-- The slots of an expander with their indices. -/
def slotsOf (t : Topology) (expander : Nat) : List (Slot × Nat) :=
  let start := t.layout.slotOf expander 0
  (t.slots.slots.extract start (t.layout.slotOf (expander + 1) 0)).toList.zipIdx start

theorem mem_slotsOf {t : Topology} {expander : Nat} {slot : Slot} {i : Nat} :
    (slot, i) ∈ t.slotsOf expander ↔
      t.slots.get? i = some slot ∧ t.layout.slotOf expander 0 ≤ i ∧
        i < t.layout.slotOf (expander + 1) 0 := by
  simp only [slotsOf, List.mk_mem_zipIdx_iff_le_and_getElem?_sub, Array.getElem?_toList,
    Array.getElem?_extract, SlotTable.get?]
  constructor
  · rintro ⟨hle, h⟩
    split at h
    · rw [Nat.add_sub_cancel' hle] at h
      exact ⟨h, hle, by omega⟩
    · cases h
  · rintro ⟨h, hle, hlt⟩
    obtain ⟨hs, -⟩ := Array.getElem?_eq_some_iff.1 h
    rw [if_pos (by omega), Nat.add_sub_cancel' hle]
    exact ⟨hle, h⟩

/-- The line of a slot. -/
def slotLine (style : LabelStyle) (slot : Slot) (index : Nat) : String :=
  let phy := match slot.phyId with
    | some phy => Text.decimal phy.toNat
    | none => "-"
  "  " ++ .ofList (Text.column 24 (slot.label style index).toList) ++ " phy " ++ phy

/-- The line of an expander. -/
def expanderLine (e : Expander) (index : Nat) : String :=
  "Expander " ++ Text.decimal index ++ ": " ++ Text.hex 16 e.wwid.toNat ++
    (if e.deviceName = "" then "" else " [" ++ e.deviceName ++ "]") ++
    (if e.enclosureId = "" then "" else " enclosure " ++ e.enclosureId) ++
    (match e.binding with
      | some binding => " via " ++ binding.path
      | none => "")

/-- The lines of an expander and its used slots. -/
def expanderLines (t : Topology) (style : LabelStyle) (e : Expander) (index : Nat) : List String :=
  let used := (t.slotsOf index).filter fun (slot, _) => slot.isUsed
  if e.wwid = 0 ∧ used.isEmpty then []
  else expanderLine e index :: used.map fun (slot, i) => slotLine style slot i

/-- The last line. -/
def countLine (t : Topology) : String :=
  "occupied " ++ Text.decimal t.slots.occupied ++ "/" ++ Text.decimal t.slots.size ++
    ", expanders " ++ Text.decimal t.expanders.registered

/-- The lines of the slot table. -/
def tableLines (t : Topology) (style : LabelStyle) : List String :=
  (t.expanders.entries.toList.zipIdx.flatMap fun (e, index) => t.expanderLines style e index) ++
    [t.countLine]

/-- The slot table as text. -/
def table (t : Topology) (style : LabelStyle) : String := "\n".intercalate (t.tableLines style)

end BayMap.Topology
