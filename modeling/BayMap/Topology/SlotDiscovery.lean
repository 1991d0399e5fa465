import BayMap.Topology.Nodes
import BayMap.Topology.PhyWalk
import BayMap.Topology.Survey

/-!
# Slot discovery

Slot discovery walks the phys of each expander. A phy with a bay number is kept at the slot of that
bay; the first phy of an expander that is attached to the host binds the expander to the node it
was heard through. The walk of a node does not depend on what is known so far, so what is heard is
gathered first and taken into the survey then.
-/

namespace BayMap.Topology

open Smp (PhyRecord)
open Transport (Kind)

variable {σ : Type}

/-- The phys that slot discovery asks each expander about. -/
def slotPhys : List UInt8 := phys 32

/-- An expander to visit, with the node it is behind. -/
structure Visit where
  /-- The path of the node. -/
  path : String
  /-- The kind of the node. -/
  kind : Kind
  /-- The SAS address that requests go to. -/
  target : UInt64
  deriving DecidableEq, Repr

/-- The binding of what is heard through a node. -/
def Binding.ofNode (path : String) : Kind → Binding
  | .bsg => ⟨path, .bsg, none⟩
  | kind => ⟨path, kind, Transport.ordinalOf path⟩

namespace Survey

/-- Binds the expander of a phy that is attached to the host to the node it was heard through. An
expander whose link to the host is known stays as it is. -/
def takeHostLink (s : Survey) (path : String) (kind : Kind) (initiator : UInt64)
    (record : PhyRecord) : Survey :=
  let index := expanderIndex record.expanderAddress
  if ((s.topology.expanders.get? index).bind (·.hostLink)).isSome then s
  else
    match s.topology.expanders.change? index fun e =>
      { e.withWwid record.expanderAddress with
        binding := some (.ofNode path kind)
        hostLink := some ⟨initiator, record⟩ } with
    | some expanders => { s with topology := { s.topology with expanders } }
    | none => s.note [.unregistered path index]

/-- Keeps a phy at the slot of its bay, if it has one. -/
def takeBay (s : Survey) (record : PhyRecord) : Survey :=
  match record.slotNumber with
  | none => s
  | some number =>
    let index := expanderIndex record.expanderAddress
    let layout := s.topology.layout
    if index < layout.expanders ∧ number.toNat < layout.slotsPerExpander then
      let slots := s.topology.slots.setRecord (layout.slotOf index number.toNat) record
      { s with topology := { s.topology with slots } }
    else s.note [.outsideTable record.phyId record.expanderAddress number.toNat]

/-- Takes what was heard of a phy through a node. A phy that is attached to the host has no bay. -/
def takeRecord (s : Survey) (path : String) (kind : Kind) (record : PhyRecord) : Survey :=
  match record.attached with
  | none => s.takeBay record
  | some attached =>
    if attached.isInitiator then
      match attached.deviceName with
      | some name => if name = 0 then s else s.takeHostLink path kind name record
      | none => s
    else s.takeBay record

/-- Takes an answer that was heard through a node. -/
def takeAnswer (path : String) (kind : Kind) (s : Survey) (heard : PhyAnswer) : Survey :=
  match heard.answer with
  | .ok record => s.takeRecord path kind record
  | .error _ => s.note (heard.diagnostic? path).toList

/-- Takes what a visit brought. -/
def takeVisit (s : Survey) (visit : Visit) (heard : Except TransportError (List PhyAnswer)) :
    Survey :=
  match heard with
  | .ok answers => answers.foldl (takeAnswer visit.path visit.kind) s
  | .error cause => s.note [.nodeUnopened cause]

end Survey

/-- What is heard on a visit. -/
def Visit.listen (v : Visit) : Pass σ (Except TransportError (List PhyAnswer)) := do
  match ← Pass.openNode v.path v.kind with
  | .error cause => return .error cause
  | .ok node => return .ok (← node.converse (walk v.target false slotPhys))

/-- Visits expanders one after another. -/
def visitAll (visits : List Visit) (s : Survey) : Pass σ Survey :=
  visits.foldlM (fun s v => return s.takeVisit v (← v.listen)) s

/-- Visits the expanders that have nodes of their own. -/
def visitExpanders (t : Files.Tree) (config : Config) (s : Survey) : Pass σ Survey :=
  let (paths, problems) := listNodes t config .bsg
  visitAll (paths.map fun path => ⟨path, .bsg, 0⟩) (s.note problems)

end BayMap.Topology
