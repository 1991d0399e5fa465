/-!
# Layouts

The shape of a slot table: so many expanders, each with so many drive bays behind it. The slots of
an expander stand next to each other, those of expander 0 first.
-/

namespace BayMap.Topology

/-- The shape of a slot table. -/
structure Layout where
  /-- The expanders of a system. -/
  expanders : Nat
  /-- The drive bays behind each expander. -/
  slotsPerExpander : Nat
  deriving DecidableEq, Repr

namespace Layout

/-- Four expanders with 28 bays each. -/
def standard : Layout := ⟨4, 28⟩

/-- The number of slots. -/
def slotCount (l : Layout) : Nat := l.expanders * l.slotsPerExpander

/-- The slot of a bay behind an expander. -/
def slotOf (l : Layout) (expander bay : Nat) : Nat := expander * l.slotsPerExpander + bay

/-- The expander that a slot belongs to. -/
def expanderOf (l : Layout) (slot : Nat) : Nat := slot / l.slotsPerExpander

theorem slotOf_lt {l : Layout} {expander bay : Nat} (he : expander < l.expanders)
    (hb : bay < l.slotsPerExpander) : l.slotOf expander bay < l.slotCount := by
  have h := Nat.mul_le_mul_right l.slotsPerExpander he
  rw [Nat.succ_mul] at h
  unfold slotOf slotCount
  omega

theorem expanderOf_slotOf {l : Layout} {expander bay : Nat} (hb : bay < l.slotsPerExpander) :
    l.expanderOf (l.slotOf expander bay) = expander := by
  unfold expanderOf slotOf
  rw [Nat.mul_comm, Nat.mul_add_div (by omega), Nat.div_eq_of_lt hb, Nat.add_zero]

/-- A layout with a slot has bays, and the slot belongs to one of its expanders. -/
theorem expanderOf_lt {l : Layout} {slot : Nat} (h : slot < l.slotCount) :
    0 < l.slotsPerExpander ∧ l.expanderOf slot < l.expanders := by
  unfold slotCount at h
  refine ⟨Nat.pos_of_ne_zero fun h0 => ?_, Nat.div_lt_of_lt_mul (by rwa [Nat.mul_comm])⟩
  rw [h0, Nat.mul_zero] at h
  exact Nat.not_lt_zero slot h

theorem slotOf_mod {l : Layout} {expander bay : Nat} (hb : bay < l.slotsPerExpander) :
    l.slotOf expander bay % l.slotsPerExpander = bay :=
  Nat.mul_add_mod_of_lt hb

end Layout

end BayMap.Topology
