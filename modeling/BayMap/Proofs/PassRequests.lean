import BayMap.Proofs.FixedNodes
import BayMap.Proofs.Inquiries
import BayMap.Proofs.SwitchedNode
import Mathlib.Data.List.Forall2

/-!
# What passes send

Passes that look for expanders and bays only read, whatever the nodes answer: the one pass that
sends anything else is the one that switches phys, and it sends nothing else.

* `onlyReads_reportThrough`, `onlyReads_visitAll`, `onlyReads_takeInventory`: the passes that look.
* `carried_switchPhy`, `carried_switchPhys`: switching sends at most one frame for a slot.
* `discovery_only_reads_and_switching_only_switches`: all passes, with every responder.
-/

namespace BayMap.Topology

open Transport (Kind Conversation LinkQuery)

variable {σ ρ α β : Type}

/-- It opens a node, or puts something to an open one that changes nothing. -/
def NodeQuery.OnlyReads : NodeQuery σ → Prop
  | .open .. => True
  | .on _ query => query.OnlyReads fun _ => True

/-! ## Looking -/

theorem onlyReads_talk {targets : UInt64 → Prop} {c : Conversation α}
    (h : c.Asks (LinkQuery.OnlyReads targets)) (path : String) (kind : Kind)
    (f : Except TransportError α → β) :
    (Pass.talk path kind c f : Pass σ β).Asks NodeQuery.OnlyReads := by
  refine asks_talk trivial (fun _ query hq => ?_) h f
  rcases query with ⟨target, request, capacity⟩ | ⟨command, capacity⟩ | _
  · exact ⟨trivial, hq.2⟩
  · exact hq
  · trivial

theorem onlyReads_visitAll (visits : List Visit) (s : Survey) :
    (visitAll visits s : Pass σ _).Asks NodeQuery.OnlyReads := by
  apply Dialogue.asks_foldlM
  intro s v _
  have hwalk : (walk v.target false slotPhys).Asks (LinkQuery.OnlyReads fun _ => True) :=
    onlyReads_walk trivial false slotPhys
  exact (onlyReads_talk hwalk v.path v.kind id).map _

theorem onlyReads_takeInventory (t : Files.Tree) (config : Config) (s : Survey) :
    (takeInventory t config s : Pass σ _).Asks NodeQuery.OnlyReads := by
  have hvisit (path : String) :
      (visitController config.layout.expanders path : Pass σ _).Asks NodeQuery.OnlyReads := by
    unfold visitController
    rcases Transport.ordinalOf path with _ | ordinal
    · trivial
    · exact onlyReads_talk (onlyReads_listen (fun _ h => h) path _) path .mpi3mr
        (NodeBehaviour.visitOf ordinal)
  exact (Dialogue.asks_mapM fun path _ => hvisit path).map _

theorem onlyReads_visitThroughControllers (t : Files.Tree) (config : Config) (s : Survey) :
    (visitThroughControllers t config s : Pass σ _).Asks NodeQuery.OnlyReads := by
  apply (onlyReads_takeInventory t config s).bind
  rintro ⟨reports, found⟩
  exact (onlyReads_visitAll _ found).map _

theorem onlyReads_reportThrough (t : Files.Tree) (config : Config) (kind : Kind)
    (expanders : ExpanderTable) :
    (reportThrough t config kind expanders : Pass σ _).Asks NodeQuery.OnlyReads := by
  have hnode (path : String) : (reportNode kind (expanders.targets kind) path :
      Pass σ _).Asks NodeQuery.OnlyReads := by
    unfold reportNode
    simp only [NodeBehaviour.converse_mapM]
    have hlisten : ((expanders.targets kind).mapM (ExpanderReport.listen path)).Asks
        (LinkQuery.OnlyReads fun _ => True) :=
      Dialogue.asks_mapM fun target _ => onlyReads_report path trivial
    exact onlyReads_talk hlisten path kind id
  exact (Dialogue.asks_mapM fun path _ => hnode path).map _

/-! ## Switching -/

/-- The management frames and the commands that are put to nodes. -/
def carried (told : List (Exchanged (nodes σ))) : List LinkQuery :=
  told.filterMap fun e =>
    match e.1 with
    | .open .. | .on _ (.trace ..) => none
    | .on _ query => some query

theorem carried_append (a b : List (Exchanged (nodes σ))) :
    carried (a ++ b) = carried a ++ carried b :=
  List.filterMap_append

/-- What is put to a link is PHY CONTROL for the phy of a slot, with the operation that turns the
phy off or on. -/
def Switches (t : Topology) (disable : Bool) (query : LinkQuery) (slot : Nat) : Prop :=
  ∃ target frame capacity, query = .smp target frame capacity ∧
    Smp.IsRequest .phyControl frame ∧
    frame[9]? = (t.slots.get? slot).bind Slot.phyId ∧
    frame[10]? = some (if disable then Smp.PhyOperation.disable else .hardReset).code

variable (t : Topology) (disable : Bool) (r : Responder (nodes σ) ρ) (st : ρ)

theorem carried_converse_send (node : OpenNode σ) (target : UInt64) (phy : UInt8) :
    carried ((node.converse (Smp.PhyControl.send target phy disable)).transcript r st) =
      [.smp target (Smp.PhyControl.request phy disable) Smp.PhyControl.capacity] := rfl

/-- What is put to the node of a slot is PHY CONTROL for the phy on the way to it. -/
theorem switches_of_phyRoute {t : Topology} {slot : Nat} {route : PhyRoute}
    (h : phyRoute t slot = .ok route) :
    Switches t disable (.smp route.target (Smp.PhyControl.request route.phy disable)
      Smp.PhyControl.capacity) slot := by
  obtain ⟨phy, e, b, hp, -, -, rfl⟩ := phyRoute_eq_ok_iff.1 h
  exact ⟨_, _, _, rfl, ⟨_, rfl, rfl, rfl⟩, hp.symm, rfl⟩

/-- A slot without a way to its phy has nothing sent, and neither has one whose node does not
open. -/
theorem carried_switchPhy (slot : Nat) :
    carried ((switchPhy t disable slot).transcript r st) = [] ∨
      ∃ query, carried ((switchPhy t disable slot).transcript r st) = [query] ∧
        Switches t disable query slot := by
  unfold switchPhy
  rcases hr : phyRoute t slot with problem | route
  · exact .inl rfl
  simp only [Dialogue.transcript_bind, carried_append]
  have hopen : carried ((Pass.openNode route.path route.kind).transcript r st) = [] := rfl
  rw [hopen, List.nil_append]
  rcases (Pass.openNode route.path route.kind).run r st with ⟨cause | node, st'⟩
  · exact .inl rfl
  · refine .inr ⟨_, ?_, switches_of_phyRoute disable hr⟩
    rw [Dialogue.transcript_map, carried_converse_send]

/-- Switching sends one frame for a slot or none, in the order of the slots. -/
theorem carried_switchPhys (slots : List Nat) :
    (carried ((switchPhys t disable slots).transcript r st)).SublistForall₂
      (Switches t disable) slots := by
  have hall (st : ρ) : (carried ((slots.mapM (switchPhy t disable)).transcript r st)).SublistForall₂
      (Switches t disable) slots := by
    induction slots generalizing st with
    | nil => exact .nil
    | cons slot rest ih =>
      rw [List.mapM_cons, Dialogue.transcript_bind, carried_append, Dialogue.transcript_map]
      rcases carried_switchPhy t disable r st slot with hnone | ⟨query, hone, hq⟩
      · rw [hnone]
        exact .cons_right (ih _)
      · rw [hone]
        exact .cons hq (ih _)
  unfold switchPhys
  rw [Dialogue.transcript_map]
  exact hall st

/-! ## All passes -/

/-- Whatever the nodes answer, each pass that looks for expanders and bays only reads. The phys of
slots are switched with PHY CONTROL for one slot after another, at most once for each that was
given, and with the operation that was asked for. -/
theorem discovery_only_reads_and_switching_only_switches (tree : Files.Tree) (config : Config)
    (kind : Kind) (slots : List Nat) :
    (∀ e ∈ (reportThrough tree config kind t.expanders).transcript r st, e.1.OnlyReads) ∧
    (∀ e ∈ (visitExpanders tree config (.start t)).transcript r st, e.1.OnlyReads) ∧
    (∀ e ∈ (takeInventory tree config (.start t)).transcript r st, e.1.OnlyReads) ∧
    (∀ e ∈ (visitThroughControllers tree config (.start t)).transcript r st, e.1.OnlyReads) ∧
    (carried ((switchPhys t disable slots).transcript r st)).SublistForall₂
      (Switches t disable) slots := by
  refine ⟨?_, ?_, ?_, ?_, carried_switchPhys t disable r st slots⟩
  · exact (onlyReads_reportThrough tree config kind t.expanders).of_mem_transcript r st
  · rw [visitExpanders_eq]
    exact (onlyReads_visitAll _ _).of_mem_transcript r st
  · exact (onlyReads_takeInventory tree config _).of_mem_transcript r st
  · exact (onlyReads_visitThroughControllers tree config _).of_mem_transcript r st

end BayMap.Topology
