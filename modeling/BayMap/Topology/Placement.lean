import BayMap.Hctl.Reading
import BayMap.Text.Part
import BayMap.Topology.Layout

/-!
# Placement

Which slot a device belongs to. A controller that shows its phys in order puts the device of bay
`n` at a distance from the target number of its expander; another kind of controller gives each
disk a marker that ends in the number of its bay.
-/

namespace BayMap.Topology

/-- Why a device or an expander has no place. -/
inductive PlacementError where
  /-- The name of the device is no address. -/
  | address (cause : Hctl.AddressError)
  /-- Device and expander lie on different hosts or channels. -/
  | otherBus (device expander : Hctl.Address)
  /-- The distance to the expander is not one of its bays. -/
  | distanceOutOfRange (distance : Int)
  /-- There is no entry for the expander. -/
  | expanderOutOfRange (index : Nat)
  /-- The marker does not end in the number of a bay. -/
  | invalidMarker (name : String)
  /-- There is no such slot. -/
  | slotOutOfRange (slot : Nat)
  /-- The slot holds another device. -/
  | slotOccupied (slot : Nat) (device : String)
  deriving DecidableEq, Repr

namespace PlacementError

/-- The wording of an error. -/
def message : PlacementError → String
  | .address _ => "invalid device address"
  | .otherBus device expander =>
    "device " ++ device.text ++ " and expander " ++ expander.text ++ " are not on the same bus"
  | .distanceOutOfRange distance => "phy distance " ++ Text.integer distance ++ " is out of range"
  | .expanderOutOfRange index => "expander index " ++ Text.decimal index ++ " is out of range"
  | .invalidMarker name => "invalid enclosure device name " ++ Text.quoted name
  | .slotOutOfRange slot => "slot " ++ Text.decimal slot ++ " is out of range"
  | .slotOccupied slot device =>
    "slot " ++ Text.decimal slot ++ " already holds device [" ++ device ++ "]"

/-- The wordings of the causes, outermost first. -/
def sources : PlacementError → List String
  | .address cause => cause.message :: cause.sources
  | _ => []

end PlacementError

/-- The distance of a device to the expander that is enumerated after it, which is one of the bays
of that expander. The number of bays counts as a signed number of 64 bits. -/
def slotOffset (layout : Layout) (device expander : Hctl.Address) : Except PlacementError Nat :=
  if device.sameBus expander then
    let distance := expander.target.toInt - device.target.toInt
    if 1 ≤ distance ∧ distance ≤ (layout.slotsPerExpander : Int).bmod UInt64.size then
      .ok distance.toNat
    else .error (.distanceOutOfRange distance)
  else .error (.otherBus device expander)

/-- The slot of the device at a distance before an expander. The device next to the expander has its
last bay. -/
def slotAt (layout : Layout) (expander offset : Nat) : Except PlacementError Nat :=
  if layout.expanders ≤ expander then .error (.expanderOutOfRange expander)
  else if offset = 0 ∨ layout.slotsPerExpander < offset then .error (.distanceOutOfRange offset)
  else .ok ((expander + 1) * layout.slotsPerExpander - offset)

/-- The index of an expander, which bits 6 and 7 of its world-wide identifier hold. -/
def expanderIndex (wwid : UInt64) : Nat := ((wwid &&& 0xff) >>> 6).toNat

/-- The slot that a marker names: its last two characters are a number in base sixteen that counts
the bays from one. -/
def markerSlot (name : String) : Except PlacementError Nat :=
  match (Text.lastBytes 2 name.toList).bind fun digits => (Text.readUInt64 16 digits).toOption with
  | some bay => if bay = 0 then .error (.invalidMarker name) else .ok (bay.toNat - 1)
  | none => .error (.invalidMarker name)

theorem slotAt_eq_ok_iff {layout : Layout} {expander offset slot : Nat} :
    slotAt layout expander offset = .ok slot ↔
      expander < layout.expanders ∧ 1 ≤ offset ∧ offset ≤ layout.slotsPerExpander ∧
        slot = layout.slotOf expander (layout.slotsPerExpander - offset) := by
  unfold slotAt Layout.slotOf
  rw [Nat.succ_mul]
  split
  · simp; omega
  · split
    · simp; omega
    · simp; omega

end BayMap.Topology
