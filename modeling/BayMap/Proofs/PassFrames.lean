import BayMap.Proofs.LastReport
import BayMap.Topology.Inventory
import Mathlib.Order.Defs.Unbundled

/-!
# What passes keep

A pass writes to a topology one report or one expander of a controller at a time. A preorder of
topologies that holds across each of these writes holds across the whole pass, whatever the nodes
answer.

* `keeps_visitAll`: visits, which take reports.
* `keeps_takeInventory`: inventories, which bind expanders to controllers with numbers.
* `keeps_visitThroughControllers`: the one after the other.
-/

namespace BayMap.Topology

variable {σ ρ α : Type}

/-! ## Visits of controllers -/

/-- A visit of a controller has the number that the path of the controller ends in. -/
def ControllerVisit.Numbered : ControllerVisit → Prop
  | .heard ordinal report => Transport.ordinalOf report.path = some ordinal
  | .unnumbered _ | .unopened _ => True

theorem ensures_listen_controller (path : String) (maxExpanders : Nat) :
    (ControllerReport.listen path maxExpanders).Ensures fun report => report.path = path := by
  unfold ControllerReport.listen
  refine Dialogue.ensures_bind _ fun adapter => ?_
  refine Dialogue.ensures_bind _ fun facts => ?_
  refine Dialogue.ensures_bind _ fun enclosures => ?_
  refine Dialogue.ensures_bind _ fun expanders => ?_
  exact Dialogue.ensures_pure rfl

theorem ensures_visitController (maxExpanders : Nat) (path : String) :
    (visitController maxExpanders path : Pass σ _).Ensures ControllerVisit.Numbered := by
  unfold visitController
  cases ho : Transport.ordinalOf path with
  | none => exact trivial
  | some ordinal =>
    unfold Pass.openNode
    intro answer
    cases answer with
    | error cause => exact trivial
    | ok handle =>
      refine ((ensures_listen_controller path maxExpanders).relay _).bind fun report hp => ?_
      refine Dialogue.ensures_pure ?_
      rw [ControllerVisit.Numbered, hp, ho]

/-! ## Passes -/

variable {R : Topology → Topology → Prop} [IsPreorder Topology R]

/-- What each round of a loop keeps, the loop keeps. -/
theorem keeps_foldl {f : Survey → α → Survey} {xs : List α}
    (hf : ∀ s : Survey, ∀ x ∈ xs, R s.topology (f s x).topology) (s : Survey) :
    R s.topology (xs.foldl f s).topology :=
  List.foldlRecOn (motive := fun u : Survey => R s.topology u.topology) xs f
    (refl_of R s.topology) fun u hu x hx => trans_of R hu (hf u x hx)

theorem keeps_visitAll {visits : List Visit} {s : Survey} {r : Responder (nodes σ) ρ} {st : ρ}
    (htake : ∀ t : Topology, ∀ x ∈ reports ((visitAll visits s).transcript r st), R t (t.take x)) :
    R s.topology ((visitAll visits s).run r st).1.topology := by
  rw [topology_visitAll]
  exact List.foldlRecOn (motive := R s.topology) _ take (refl_of R s.topology)
    fun t ht x hx => trans_of R ht (htake t x hx)

variable (hbind : ∀ path ordinal, Transport.ordinalOf path = some ordinal →
  ∀ (s : Survey) (e : ExpanderEntry), R s.topology (s.bindExpander path ordinal e).topology)

include hbind

theorem keeps_takeController {v : ControllerVisit} (hv : v.Numbered) (s : Survey) :
    R s.topology (s.takeController v).topology := by
  rcases v with path | cause | ⟨ordinal, report⟩
  · exact refl_of R s.topology
  · exact refl_of R s.topology
  · exact keeps_foldl (fun s e _ => hbind report.path ordinal hv s e) (s.note report.diagnostics)

variable (t : Files.Tree) (config : Config) (s : Survey) (r : Responder (nodes σ) ρ) (st : ρ)

theorem keeps_takeInventory :
    R s.topology ((takeInventory t config s).run r st).1.2.topology := by
  have h : (takeInventory t config s : Pass σ _).Ensures fun result =>
      R s.topology result.2.topology := by
    unfold takeInventory
    refine (Dialogue.ensures_mapM fun path _ => ensures_visitController _ path).bind
      fun visits hv => Dialogue.ensures_pure ?_
    exact keeps_foldl (fun s v hm => keeps_takeController hbind (hv v hm) s)
      (s.note (listNodes t config .mpi3mr).2)
  exact h.run r st

/-- The visits after an inventory go to the expanders that it leaves bound. -/
theorem keeps_visitThroughControllers
    (hvisits : ∀ found : Survey, R s.topology found.topology → ∀ st, R found.topology
      ((visitAll (boundToControllers found.topology.expanders) found).run r st).1.topology) :
    R s.topology ((visitThroughControllers t config s).run r st).1.2.topology := by
  have hinventory := keeps_takeInventory hbind t config s r st
  rw [visitThroughControllers, Dialogue.run_bind]
  generalize (takeInventory t config s).run r st = taken at hinventory ⊢
  rcases taken with ⟨⟨controllers, found⟩, st'⟩
  rw [Dialogue.run_bind]
  exact trans_of R hinventory (hvisits found hinventory st')

end BayMap.Topology
