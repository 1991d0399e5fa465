import BayMap.Proofs.Reports
import BayMap.Topology.ExpanderReport
import BayMap.Topology.Inventory

/-!
# Nodes with a fixed behaviour

Whether a node opens, and what it answers once it is open, may depend on nothing but the node and
what was put to it since it was opened (`NodeBehaviour`). A pass over such nodes comes to the same
whatever was opened before (`Gives`), so its parts can be taken one by one: what a node is heard to
say does not depend on the other nodes.

* `gives_talk`: a talk over a node comes to what the node says on its own.
* `gives_visitAll`, `gives_reportNode`, `gives_visitController`: what the passes make of it.
* `listNodes_without`: a directory without some nodes lists the others in the same order.
-/

namespace BayMap.Topology

open Transport (Kind Conversation LinkQuery link)

variable {σ α β : Type}

/-- How nodes behave. -/
structure NodeBehaviour where
  /-- Why a node cannot be opened as one of a kind, if it cannot. -/
  fault? : (path : String) → Kind → Option TransportError
  /-- What an open node answers, after what was put to it since it was opened. -/
  answer : (path : String) → Kind → (before : List LinkQuery) →
    (query : LinkQuery) → link.Answer query

/-- Opens a node, talks over it, and makes something of what came of that. -/
def Pass.talk (path : String) (kind : Kind) (c : Conversation α)
    (f : Except TransportError α → β) : Pass σ β := do
  match ← Pass.openNode path kind with
  | .error cause => return f (.error cause)
  | .ok node => return f (.ok (← node.converse c))

/-- A talk opens a node, and puts to it what its conversation asks. -/
theorem asks_talk {path : String} {kind : Kind} {P : LinkQuery → Prop} {Q : NodeQuery σ → Prop}
    (hopen : Q (.open path kind))
    (hon : ∀ handle query, P query → Q (.on ⟨path, kind, handle⟩ query))
    {c : Conversation α} (h : c.Asks P) (f : Except TransportError α → β) :
    (Pass.talk path kind c f).Asks Q := by
  refine ⟨hopen, fun answer => ?_⟩
  rcases answer with cause | handle
  · trivial
  · exact (asks_converse (hon handle) h).map _

namespace NodeBehaviour

variable (b : NodeBehaviour)

/-- An open node, which remembers what was put to it. -/
def overLink (path : String) (kind : Kind) : Responder link (List LinkQuery) :=
  fun query before => (b.answer path kind before query, before ++ [query])

/-- All nodes, which remember what was put to each node that was opened. Its handle is its place
among them. -/
def responder : Responder (nodes Nat) (List (List LinkQuery))
  | .open path kind, opened =>
    match b.fault? path kind with
    | some cause => (.error cause, opened)
    | none => (.ok opened.length, opened ++ [[]])
  | .on node query, opened =>
    let before := opened.getD node.handle []
    (b.answer node.path node.kind before query, opened.set node.handle (before ++ [query]))

/-- What comes of a talk over a node. -/
def heard (path : String) (kind : Kind) (c : Conversation α) : Except TransportError α :=
  match b.fault? path kind with
  | some cause => .error cause
  | none => .ok (c.run (b.overLink path kind) []).1

/-- A pass comes to a result, whatever was opened before. -/
def Gives (d : Pass Nat α) (x : α) : Prop := ∀ opened, (d.run b.responder opened).1 = x

variable {b}

theorem Gives.bind {d : Pass Nat α} {f : α → Pass Nat β} {x : α} {y : β} (hd : b.Gives d x)
    (hf : b.Gives (f x) y) : b.Gives (d >>= f) y := by
  intro opened
  rw [Dialogue.run_bind, hd, hf]

theorem gives_pure (x : α) : b.Gives (pure x) x := fun _ => rfl

theorem gives_mapM {f : β → Pass Nat α} {g : β → α} (h : ∀ x, b.Gives (f x) (g x))
    (xs : List β) : b.Gives (xs.mapM f) (xs.map g) := by
  induction xs with
  | nil => exact gives_pure []
  | cons x rest ih =>
    rw [List.mapM_cons]
    exact (h x).bind (ih.bind (gives_pure _))

theorem gives_foldlM {f : α → β → Pass Nat α} {g : α → β → α} (h : ∀ s x, b.Gives (f s x) (g s x))
    (xs : List β) (s : α) : b.Gives (xs.foldlM f s) (xs.foldl g s) := by
  induction xs generalizing s with
  | nil => exact gives_pure s
  | cons x rest ih =>
    rw [List.foldlM_cons]
    exact (h s x).bind (ih _)

/-- A node that was just opened answers as it does on its own, whatever was opened before. -/
theorem alike_opened (path : String) (kind : Kind) (c : Conversation α)
    (opened : List (List LinkQuery)) :
    let node : OpenNode Nat := ⟨path, kind, opened.length⟩
    ((node.converse c).run b.responder (opened ++ [[]])).1 = (c.run (b.overLink path kind) []).1 ∧
      (node.converse c).transcript b.responder (opened ++ [[]]) =
        (c.transcript (b.overLink path kind) []).map node.over := by
  intro node
  -- What the nodes remember of this one is what it remembers on its own.
  let Remembers (all : List (List LinkQuery)) (own : List LinkQuery) : Prop :=
    node.handle < all.length ∧ all.getD node.handle [] = own
  have hstep : ∀ query all own, Remembers all own →
      (node.responder b.responder query all).1 = (b.overLink path kind query own).1 ∧
        Remembers (node.responder b.responder query all).2 (b.overLink path kind query own).2 := by
    rintro query all own ⟨hlen, rfl⟩
    have hset : (all.set node.handle (all.getD node.handle [] ++ [query])).getD node.handle [] =
        all.getD node.handle [] ++ [query] := by
      simp [hlen]
    exact ⟨rfl, by rwa [← List.length_set] at hlen, hset⟩
  have hopened : Remembers (opened ++ [[]]) [] := by
    constructor
    · simp [node]
    · simp [node]
  obtain ⟨hrun, htold⟩ := Dialogue.alike hstep c hopened
  rw [run_converse, transcript_converse]
  exact ⟨hrun, congrArg _ htold⟩

theorem run_openNode (path : String) (kind : Kind) (opened : List (List LinkQuery)) :
    (Pass.openNode path kind).run b.responder opened =
      match b.fault? path kind with
      | some cause => (.error cause, opened)
      | none => (.ok ⟨path, kind, opened.length⟩, opened ++ [[]]) := by
  have ho : (Pass.openNode path kind).run b.responder opened =
      ((b.responder (.open path kind) opened).1.map fun handle => ⟨path, kind, handle⟩,
        (b.responder (.open path kind) opened).2) := rfl
  rw [ho, responder]
  cases b.fault? path kind <;> rfl

theorem gives_talk (path : String) (kind : Kind) (c : Conversation α)
    (f : Except TransportError α → β) :
    b.Gives (Pass.talk path kind c f) (f (b.heard path kind c)) := by
  intro opened
  unfold Pass.talk heard
  rw [Dialogue.run_bind, run_openNode]
  cases b.fault? path kind with
  | some cause => rfl
  | none =>
    have hrun := (alike_opened (b := b) path kind c opened).1
    dsimp only
    rw [Dialogue.run_bind, hrun]
    rfl

/-! ## What the passes make of it -/

theorem gives_visitAll (visits : List Visit) (s : Survey) :
    b.Gives (visitAll visits s)
      (visits.foldl (fun s v =>
        s.takeVisit v (b.heard v.path v.kind (walk v.target false slotPhys))) s) := by
  unfold visitAll
  refine gives_foldlM (fun s v => ?_) visits s
  exact (gives_talk v.path v.kind (walk v.target false slotPhys) id).bind (gives_pure _)

/-- A node is asked for its reports in one conversation. -/
theorem converse_mapM (node : OpenNode σ) (f : β → Conversation α) (xs : List β) :
    xs.mapM (fun x => node.converse (f x)) = node.converse (xs.mapM f) := by
  induction xs with
  | nil => rfl
  | cons x rest ih =>
    have hrest : node.converse (f x >>= fun y => rest.mapM f >>= fun ys => pure (y :: ys)) =
        node.converse (f x) >>= fun y =>
          node.converse (rest.mapM f) >>= fun ys => pure (y :: ys) := by
      unfold OpenNode.converse
      rw [Dialogue.relay_bind]
      simp only [Dialogue.relay_bind]
      rfl
    rw [List.mapM_cons, List.mapM_cons, hrest, ih]

theorem gives_reportNode (kind : Kind) (targets : List (Option UInt64)) (path : String) :
    b.Gives (reportNode kind targets path)
      (b.heard path kind (targets.mapM (ExpanderReport.listen path))) := by
  unfold reportNode
  simp only [converse_mapM]
  exact gives_talk path kind (targets.mapM (ExpanderReport.listen path)) id

/-- What comes of the node of the controller with a number. -/
def visitOf (ordinal : UInt8) : Except TransportError ControllerReport → ControllerVisit
  | .error cause => .unopened cause
  | .ok report => .heard ordinal report

/-- What comes of the node of a controller. -/
def controllerVisit (b : NodeBehaviour) (maxExpanders : Nat) (path : String) : ControllerVisit :=
  match Transport.ordinalOf path with
  | none => .unnumbered path
  | some ordinal =>
    visitOf ordinal (b.heard path .mpi3mr (ControllerReport.listen path maxExpanders))

theorem gives_visitController (maxExpanders : Nat) (path : String) :
    b.Gives (visitController maxExpanders path) (b.controllerVisit maxExpanders path) := by
  unfold visitController controllerVisit
  cases Transport.ordinalOf path with
  | none => exact gives_pure _
  | some ordinal =>
    exact gives_talk path .mpi3mr (ControllerReport.listen path maxExpanders) (visitOf ordinal)

end NodeBehaviour

/-! ## Directories -/

/-- The nodes of a kind are listed in the order of their names, whatever else there is. -/
theorem names_sort_filter (kind : Kind) (keep : String → Bool) (l : List Files.Entry) :
    (kind.sort (l.filter fun e => keep e.name)).map (·.name) =
      ((kind.sort l).map (·.name)).filter keep := by
  have hkeep : (l.filter fun e => keep e.name).map (·.name) = (l.map (·.name)).filter keep :=
    (List.filter_map ..).symm
  cases kind with
  | mpt => exact hkeep
  | bsg | mpi3mr =>
    let le (a b : String) : Bool := !decide (b < a)
    have hle (a b : String) : le a b ↔ a ≤ b := by
      rw [Bool.not_eq_true', decide_eq_false_iff_not, String.not_lt]
    have htrans (a b c : String) (hab : le a b) (hbc : le b c) : le a c :=
      (hle a c).2 (String.le_trans ((hle a b).1 hab) ((hle b c).1 hbc))
    have htotal (a b : String) : le a b || le b a := by
      rw [Bool.or_eq_true, hle, hle]
      exact String.le_total a b
    have hnames (m : List Files.Entry) :
        (m.mergeSort fun a b => !decide (b.name < a.name)).map (·.name) =
          (m.map (·.name)).mergeSort le :=
      List.map_mergeSort fun _ _ _ _ => rfl
    show (List.mergeSort _ _).map _ = ((List.mergeSort _ _).map _).filter keep
    rw [hnames, hnames, hkeep]
    -- Both are in order, and the order leaves no choice.
    have hsorted (m : List String) : (m.mergeSort le).Pairwise fun a b => le a b :=
      List.pairwise_mergeSort htrans htotal m
    refine List.Perm.eq_of_pairwise (fun a b _ _ hab hba =>
      String.le_antisymm ((hle a b).1 hab) ((hle b a).1 hba))
      (hsorted _) ((hsorted _).filter keep) ?_
    exact (List.mergeSort_perm _ _).trans ((List.mergeSort_perm _ _).filter keep).symm

/-- The directory of the nodes of a kind in a tree is that in another tree without some entries. -/
def Without (gone : String → Bool) (config : Config) (kind : Kind) (t t' : Files.Tree) : Prop :=
  let directory := config.nodesRoot kind
  t'.list directory =
    (t.list directory).map (·.filter fun e => !gone (Files.Path.join directory e.name))

theorem listNodes_without {gone : String → Bool} {config : Config} {kind : Kind}
    {t t' : Files.Tree} (h : Without gone config kind t t') :
    listNodes t' config kind =
      ((listNodes t config kind).1.filter (!gone ·), (listNodes t config kind).2) := by
  let directory := config.nodesRoot kind
  let keep (name : String) : Bool := !gone (Files.Path.join directory name)
  cases hl : t.list directory with
  | error cause =>
    have hl' : t'.list directory = .error cause := h.trans (by rw [hl]; rfl)
    have hnone {u : Files.Tree} (hu : u.list directory = .error cause) :
        listNodes u config kind = ([], [.nodesUnlisted kind directory cause]) := by
      unfold listNodes Transport.controlNodes
      simp only [directory] at hu
      simp only [hu]
      rfl
    rw [hnone hl, hnone hl']
    rfl
  | ok listed =>
    have hl' : t'.list directory = .ok (listed.filter fun e => keep e.name) :=
      h.trans (by rw [hl]; rfl)
    have hnames : (listed.filter fun e => keep e.name).filter kind.names =
        (listed.filter kind.names).filter fun e => keep e.name := by
      simp only [List.filter_filter, Bool.and_comm]
    have hjoin (l : List Files.Entry) : (l.map fun e => Files.Path.join directory e.name) =
        (l.map (·.name)).map (Files.Path.join directory) := by
      rw [List.map_map]
      rfl
    have hfilter (l : List String) : (l.filter keep).map (Files.Path.join directory) =
        (l.map (Files.Path.join directory)).filter (!gone ·) := by
      rw [List.filter_map]
      rfl
    rw [listNodes_of_list hl, listNodes_of_list hl', hnames, hjoin, hjoin, names_sort_filter,
      hfilter]

end BayMap.Topology
