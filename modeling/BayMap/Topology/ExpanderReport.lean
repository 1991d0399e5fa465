import BayMap.Smp.General
import BayMap.Topology.Nodes
import BayMap.Topology.PhyWalk
import BayMap.Topology.Survey

/-!
# Expander reports

What an expander says of itself and of each of its phys. An expander with a node of its own is
reported once; behind the node of a controller every expander whose address is known is reported.
-/

namespace BayMap.Topology

open Smp (General PhyRecord)
open Transport (Conversation Kind)

variable {σ : Type}

/-- What an expander says. -/
structure ExpanderReport where
  /-- The path of the node. -/
  path : String
  /-- The SAS address that requests went to, behind the node of a controller. -/
  target : Option UInt64
  /-- What the expander says of itself. -/
  general : Except SmpError General
  /-- What it says of its phys, which are only asked for if it says something of itself. -/
  heard : List PhyAnswer

namespace ExpanderReport

/-- The phys that the expander told of. -/
def records (r : ExpanderReport) : List PhyRecord := r.heard.filterMap (·.answer.toOption)

/-- The address that the expander gives for itself, which is the last one that is not zero. -/
def address (r : ExpanderReport) : UInt64 :=
  ((r.records.map (·.expanderAddress)).filter (· ≠ 0)).getLast?.getD 0

/-- The line of the enclosure and the lines of the phys. -/
def lines (r : ExpanderReport) : List String :=
  match r.general with
  | .error _ => []
  | .ok general =>
    ("  Enclosure Logical Identifier: " ++ Text.hex 0 general.enclosureLogicalId.toNat) ::
      r.heard.filterMap (·.line?)

/-- The problems met. -/
def diagnostics (r : ExpanderReport) : List Diagnostic :=
  match r.general with
  | .error cause => [.generalFailed r.path cause]
  | .ok _ => r.heard.filterMap (·.diagnostic? r.path)

/-- The line in front of a report. -/
def header (r : ExpanderReport) : String :=
  match r.target with
  | some target => r.path ++ " -> " ++ Text.hex 16 target.toNat
  | none => r.path

/-- Reports one under the other. -/
def listing (reports : List ExpanderReport) : String :=
  "\n".intercalate (reports.flatMap fun r => r.header :: r.lines)

/-- Asks an expander about itself and about all of its phys. -/
def listen (path : String) (target : Option UInt64) : Conversation ExpanderReport := do
  let address := target.getD 0
  match ← General.ask address with
  | .error cause => return ⟨path, target, .error cause, []⟩
  | .ok general =>
    let heard ← walk address general.tableToTable (phys general.phyCount.toNat)
    return ⟨path, target, .ok general, heard⟩

end ExpanderReport

/-- The expanders behind a node of a kind: the one of the node, or all with a known address. -/
def ExpanderTable.targets (t : ExpanderTable) : Kind → List (Option UInt64)
  | .bsg => [none]
  | .mpt | .mpi3mr => (t.entries.toList.filter fun e => e.wwid ≠ 0).map fun e => some e.wwid

/-- The reports of the expanders behind a node. -/
def reportNode (kind : Kind) (targets : List (Option UInt64)) (path : String) :
    Pass σ (Except TransportError (List ExpanderReport)) := do
  match ← Pass.openNode path kind with
  | .error cause => return .error cause
  | .ok node =>
    return .ok (← targets.mapM fun target => node.converse (ExpanderReport.listen path target))

/-- The reports and the problems that nodes brought. -/
def gatherReports (found : List (Except TransportError (List ExpanderReport))) :
    List ExpanderReport × List Diagnostic :=
  (found.flatMap fun
      | .ok reports => reports
      | .error _ => [],
    found.flatMap fun
      | .ok reports => reports.flatMap (·.diagnostics)
      | .error cause => [.nodeUnopened cause])

/-- Reports all expanders that are reached through nodes of a kind. -/
def reportThrough (t : Files.Tree) (config : Config) (kind : Kind) (expanders : ExpanderTable) :
    Pass σ (List ExpanderReport × List Diagnostic) := do
  let (paths, problems) := listNodes t config kind
  let (reports, more) := gatherReports (← paths.mapM (reportNode kind (expanders.targets kind)))
  return (reports, problems ++ more)

end BayMap.Topology
