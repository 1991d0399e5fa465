import BayMap.Smp.PhyControl
import BayMap.Topology.Nodes
import BayMap.Topology.Survey

/-!
# Switching phys

The phy wired to a slot is turned off and on through the node that slot discovery bound the expander
of the slot to.
-/

namespace BayMap.Topology

open Transport (Kind)

variable {σ : Type}

/-- The way to a phy. -/
structure PhyRoute where
  /-- The path of the node. -/
  path : String
  /-- The kind of the node. -/
  kind : Kind
  /-- The SAS address of the expander. -/
  target : UInt64
  /-- The phy. -/
  phy : UInt8
  deriving DecidableEq, Repr

/-- The way to the phy wired to a slot. -/
def phyRoute (t : Topology) (slot : Nat) : Except Diagnostic PhyRoute :=
  match (t.slots.get? slot).bind Slot.phyId with
  | none => .error (.phyUnknown slot)
  | some phy =>
    let index := t.layout.expanderOf slot
    let expander := t.expanders.getD index
    match expander.binding with
    | none => .error (.nodeUnknown slot index)
    | some binding => .ok ⟨binding.path, binding.kind, expander.wwid, phy⟩

theorem phyRoute_eq_ok_iff {t : Topology} {slot : Nat} {route : PhyRoute} :
    phyRoute t slot = .ok route ↔
      ∃ phy e b, (t.slots.get? slot).bind Slot.phyId = some phy ∧
        t.expanders.get? (t.layout.expanderOf slot) = some e ∧ e.binding = some b ∧
        route = ⟨b.path, b.kind, e.wwid, phy⟩ := by
  simp only [phyRoute, ExpanderTable.getD]
  rcases (t.slots.get? slot).bind Slot.phyId with _ | phy
  · simp
  rcases t.expanders.get? (t.layout.expanderOf slot) with _ | e
  · simp [Expander.empty]
  rcases hb : e.binding with _ | b
  · simp [hb]
  · simp [hb, eq_comm]

/-- Turns the phy wired to a slot off or on. -/
def switchPhy (t : Topology) (disable : Bool) (slot : Nat) : Pass σ (Option Diagnostic) := do
  match phyRoute t slot with
  | .error problem => return some problem
  | .ok route =>
    match ← Pass.openNode route.path route.kind with
    | .error cause => return some (.nodeUnopened cause)
    | .ok node =>
      node.converse (Smp.PhyControl.send route.target route.phy disable)
      return none

/-- Turns the phys wired to slots off or on, one after another. -/
def switchPhys (t : Topology) (disable : Bool) (slots : List Nat) : Pass σ (List Diagnostic) := do
  return (← slots.mapM (switchPhy t disable)).filterMap id

end BayMap.Topology
