import BayMap.Proofs.ControllerBindings
import BayMap.Proofs.FixedNodes

/-!
# Nodes of controllers that are of no use

A node whose name does not end in a controller number, or that cannot be opened, brings nothing but
one problem. It still counts towards the nodes that are visited at most, so it may keep
another node from being visited: the nodes that are let in once it is gone are `letIn`.

* `take_filter`: the nodes that are visited once some are gone.
* `gives_takeInventory`: the inventory as what the visited nodes bring, one by one.
* `inventory_without_unusable_nodes`: without some nodes of no use, an inventory differs by what the
  nodes that are let in bring, so it is the same exactly if those are of no use either.
* `usable_controller_hidden`: the last of five nodes is not visited, though the first is of no use.
-/

namespace BayMap.Topology

open Transport (Kind LinkQuery)

variable {α β : Type}

/-! ## Visits one by one -/

/-- The problems of binding what a controller reports, in a table of a size. -/
def ControllerVisit.problems (size : Nat) : ControllerVisit → List Diagnostic
  | .unnumbered path => [.unnumbered path]
  | .unopened cause => [.nodeUnopened cause]
  | .heard _ report =>
    report.diagnostics ++ report.expanders.flatMap fun e =>
      if expanderIndex e.sasAddress < size then []
      else [.unregistered report.path (expanderIndex e.sasAddress)]

/-- A topology once what came of the node of a controller is taken. -/
def takeVisited (t : Topology) (v : ControllerVisit) : Topology :=
  ((Survey.start t).takeController v).topology

theorem bindExpander_cases (path : String) (ordinal : UInt8) (t : Topology) (e : ExpanderEntry) :
    ∃ u : Topology, u.expanders.size = t.expanders.size ∧ ∀ problems,
      Survey.bindExpander path ordinal ⟨t, problems⟩ e =
        ⟨u, problems ++ if expanderIndex e.sasAddress < t.expanders.size then []
          else [.unregistered path (expanderIndex e.sasAddress)]⟩ := by
  simp only [bindExpander_eq]
  cases hu : t.expanders.change? (expanderIndex e.sasAddress)
      (Expander.boundTo path ordinal e.sasAddress) with
  | none =>
    have hge : ¬ expanderIndex e.sasAddress < t.expanders.size :=
      Nat.not_lt.2 (ExpanderTable.get?_eq_none_iff.1 (ExpanderTable.change?_eq_none_iff.1 hu))
    refine ⟨t, rfl, fun problems => ?_⟩
    rw [if_neg hge]
    rfl
  | some expanders =>
    have hlt : expanderIndex e.sasAddress < t.expanders.size := by
      refine ExpanderTable.get?_isSome_iff.1 (Option.isSome_iff_ne_none.2 fun hg => ?_)
      rw [ExpanderTable.change?_eq_none_iff.2 hg] at hu
      cases hu
    refine ⟨{ t with expanders }, ExpanderTable.size_change? hu, fun problems => ?_⟩
    rw [if_pos hlt, List.append_nil]

/-- Taking what came of a node keeps the size of the table, and its problems depend on nothing else
of what is known. -/
theorem takeController_cases (t : Topology) (v : ControllerVisit) :
    ∃ u : Topology, u.expanders.size = t.expanders.size ∧ ∀ problems,
      Survey.takeController ⟨t, problems⟩ v = ⟨u, problems ++ v.problems t.expanders.size⟩ := by
  cases v with
  | unnumbered path => exact ⟨t, rfl, fun _ => rfl⟩
  | unopened cause => exact ⟨t, rfl, fun _ => rfl⟩
  | heard ordinal report =>
    obtain ⟨path, adapter, facts, enclosures, expanders⟩ := report
    have hbind (l : List ExpanderEntry) : ∃ u : Topology, u.expanders.size = t.expanders.size ∧
        ∀ problems, l.foldl (Survey.bindExpander path ordinal) ⟨t, problems⟩ =
          ⟨u, problems ++ l.flatMap fun e =>
            if expanderIndex e.sasAddress < t.expanders.size then []
            else [.unregistered path (expanderIndex e.sasAddress)]⟩ := by
      induction l using List.reverseRecOn with
      | nil => exact ⟨t, rfl, fun problems => by simp⟩
      | append_singleton l e ih =>
        obtain ⟨u, hu, ih⟩ := ih
        obtain ⟨w, hw, he⟩ := bindExpander_cases path ordinal u e
        refine ⟨w, hw.trans hu, fun problems => ?_⟩
        rw [List.foldl_append, ih, List.foldl_cons, List.foldl_nil, he, hu, List.flatMap_append,
          List.flatMap_singleton, List.append_assoc]
    obtain ⟨u, hu, h⟩ := hbind expanders
    refine ⟨u, hu, fun problems => ?_⟩
    exact (h _).trans (congrArg (Survey.mk u) (List.append_assoc ..))

theorem takeController_eq (s : Survey) (v : ControllerVisit) :
    s.takeController v = ⟨takeVisited s.topology v,
      s.diagnostics ++ v.problems s.topology.expanders.size⟩ := by
  obtain ⟨u, -, h⟩ := takeController_cases s.topology v
  have hu : takeVisited s.topology v = u := congrArg Survey.topology (h [])
  rw [hu]
  exact h s.diagnostics

theorem size_takeVisited (t : Topology) (v : ControllerVisit) :
    (takeVisited t v).expanders.size = t.expanders.size := by
  obtain ⟨u, hsize, h⟩ := takeController_cases t v
  have hu : takeVisited t v = u := congrArg Survey.topology (h [])
  rw [hu, hsize]

theorem foldl_takeController (visits : List ControllerVisit) (s : Survey) :
    visits.foldl Survey.takeController s =
      ⟨visits.foldl takeVisited s.topology,
        s.diagnostics ++ visits.flatMap (·.problems s.topology.expanders.size)⟩ := by
  induction visits generalizing s with
  | nil => simp
  | cons v rest ih =>
    rw [List.foldl_cons, ih, takeController_eq, size_takeVisited, List.foldl_cons,
      List.flatMap_cons, List.append_assoc]

/-! ## Which nodes are visited -/

/-- The first elements of a list of which some are dropped: those of the list, without the dropped
ones, and as many more. -/
theorem take_filter (keep : α → Bool) (l : List α) (n : Nat) :
    (l.filter keep).take n = (l.take n).filter keep ++
      ((l.drop n).filter keep).take ((l.take n).countP (!keep ·)) := by
  have hsplit : l.filter keep = (l.take n).filter keep ++ (l.drop n).filter keep := by
    rw [← List.filter_append, List.take_append_drop]
  have hcount := List.length_eq_countP_add_countP keep (l := l.take n)
  have hkept : ((l.take n).filter keep).length = (l.take n).countP keep :=
    List.countP_eq_length_filter.symm
  have hlength : (l.take n).length ≤ n := List.length_take_le n l
  rw [hsplit, List.take_append, List.take_of_length_le (by omega)]
  congr 1
  rcases Nat.lt_or_ge l.length n with hn | hn
  · rw [List.drop_of_length_le (Nat.le_of_lt hn)]
    simp
  · have hn : (l.take n).length = n := List.length_take_of_le hn
    congr 1
    have hcount' : (l.take n).countP (!keep ·) =
        (l.take n).countP fun x => decide ¬keep x = true := by
      simp
    omega

/-- The nodes that are visited only once some nodes are gone. -/
def letIn (gone : String → Bool) (paths : List String) : List String :=
  ((paths.drop controllerLimit).filter (!gone ·)).take ((paths.take controllerLimit).countP gone)

theorem take_controllerLimit (gone : String → Bool) (paths : List String) :
    (paths.filter (!gone ·)).take controllerLimit =
      (paths.take controllerLimit).filter (!gone ·) ++ letIn gone paths := by
  rw [take_filter, letIn]
  simp only [Bool.not_not]

namespace NodeBehaviour

variable (b : NodeBehaviour)

/-- The node of a controller cannot be used: its name does not end in a controller number, or it
cannot be opened. -/
def Unusable (path : String) : Prop :=
  Transport.ordinalOf path = none ∨ (b.fault? path .mpi3mr).isSome

/-- The problems of the inventory where there is no node but one. -/
def inventoryProblems (config : Config) (before : Topology) (path : String) : List Diagnostic :=
  ((Survey.start before).takeController
    (b.controllerVisit config.layout.expanders path)).diagnostics

variable {b}

theorem inventoryProblems_eq (config : Config) (before : Topology) (path : String) :
    b.inventoryProblems config before path =
      (b.controllerVisit config.layout.expanders path).problems before.expanders.size := by
  rw [inventoryProblems, takeController_eq]
  rfl

/-- A node that cannot be used brings one problem. -/
theorem controllerVisit_of_unusable {path : String} (h : b.Unusable path) (maxExpanders : Nat) :
    (Transport.ordinalOf path = none ∧ b.controllerVisit maxExpanders path = .unnumbered path) ∨
      ∃ cause, b.fault? path .mpi3mr = some cause ∧
        b.controllerVisit maxExpanders path = .unopened cause := by
  unfold controllerVisit
  cases ho : Transport.ordinalOf path with
  | none => exact .inl ⟨rfl, rfl⟩
  | some ordinal =>
    obtain ⟨cause, hc⟩ := Option.isSome_iff_exists.1 (h.resolve_left (by simp [ho]))
    refine .inr ⟨cause, hc, ?_⟩
    simp only [heard, hc, visitOf]

theorem report?_eq_none_iff (maxExpanders : Nat) (path : String) :
    (b.controllerVisit maxExpanders path).report? = none ↔ b.Unusable path := by
  constructor
  · intro h
    unfold controllerVisit at h
    cases ho : Transport.ordinalOf path with
    | none => exact .inl ho
    | some ordinal =>
      right
      cases hf : b.fault? path .mpi3mr with
      | some cause => rfl
      | none =>
        simp only [ho, heard, hf, visitOf, ControllerVisit.report?] at h
        cases h
  · intro h
    rcases controllerVisit_of_unusable h maxExpanders with ⟨-, hv⟩ | ⟨cause, -, hv⟩
    · rw [hv]
      rfl
    · rw [hv]
      rfl

theorem takeVisited_of_unusable {path : String} (h : b.Unusable path) (maxExpanders : Nat)
    (t : Topology) : takeVisited t (b.controllerVisit maxExpanders path) = t := by
  rcases controllerVisit_of_unusable h maxExpanders with ⟨-, hv⟩ | ⟨cause, -, hv⟩
  · rw [hv]
    rfl
  · rw [hv]
    rfl

/-- The inventory takes what comes of the nodes that are visited, each for itself. -/
theorem gives_takeInventory (t : Files.Tree) (config : Config) (before : Topology) :
    let visited := (listNodes t config .mpi3mr).1.take controllerLimit
    let visit := b.controllerVisit config.layout.expanders
    b.Gives (takeInventory t config (.start before))
      (visited.filterMap fun p => (visit p).report?,
        { topology := visited.foldl (fun t p => takeVisited t (visit p)) before
          diagnostics := (listNodes t config .mpi3mr).2 ++
            visited.flatMap (b.inventoryProblems config before) }) := by
  intro visited visit
  have hvisits := gives_mapM (b := b) (fun p => gives_visitController config.layout.expanders p)
    visited
  refine hvisits.bind ?_
  rw [foldl_takeController, List.filterMap_map, List.foldl_map, List.flatMap_map]
  have hp : b.inventoryProblems config before = fun p => (visit p).problems before.expanders.size :=
    funext fun p => inventoryProblems_eq config before p
  rw [hp]
  exact gives_pure _

/-- Dropping nodes that cannot be used changes neither what the others report nor what is known. -/
theorem visits_filter (gone : String → Bool) {paths : List String} (maxExpanders : Nat)
    (h : ∀ p ∈ paths, gone p → b.Unusable p) (t : Topology) :
    let visit := b.controllerVisit maxExpanders
    (paths.filter (!gone ·)).filterMap (fun p => (visit p).report?) =
        paths.filterMap (fun p => (visit p).report?) ∧
      (paths.filter (!gone ·)).foldl (fun t p => takeVisited t (visit p)) t =
        paths.foldl (fun t p => takeVisited t (visit p)) t := by
  intro visit
  induction paths generalizing t with
  | nil => exact ⟨rfl, rfl⟩
  | cons p paths ih =>
    have ih := ih fun q hq => h q (List.mem_cons_of_mem _ hq)
    cases hg : gone p with
    | false =>
      rw [List.filter_cons_of_pos (by simp [hg]), List.filterMap_cons, List.filterMap_cons,
        List.foldl_cons, List.foldl_cons, (ih t).1, (ih _).2]
      exact ⟨rfl, rfl⟩
    | true =>
      have hu := h p List.mem_cons_self hg
      have hr : (visit p).report? = none := (report?_eq_none_iff maxExpanders p).2 hu
      rw [List.filter_cons_of_neg (by simp [hg]), List.filterMap_cons, hr, List.foldl_cons,
        takeVisited_of_unusable hu maxExpanders t]
      exact ih t

/-- Without some nodes that cannot be used, an inventory has in addition what is reported through
the nodes that are let in. Controllers and topology are the same exactly if no node that is let in
can be used, as where all nodes were visited anyway; and each node that was visited and is gone
brought one problem, at its place. -/
theorem inventory_without_unusable_nodes {gone : String → Bool} {config : Config}
    {t t' : Files.Tree} (hw : Without gone config .mpi3mr t t')
    (hu : ∀ p ∈ (listNodes t config .mpi3mr).1, gone p → b.Unusable p) (before : Topology)
    (opened opened' : List (List LinkQuery)) :
    let found := ((takeInventory t config (.start before)).run b.responder opened).1
    let others := ((takeInventory t' config (.start before)).run b.responder opened').1
    let (paths, problems) := listNodes t config .mpi3mr
    let more := letIn gone paths
    let brought := b.inventoryProblems config before
    others.1 = found.1 ++
        more.filterMap (fun p => (b.controllerVisit config.layout.expanders p).report?) ∧
      (others.1 = found.1 ∧ others.2.topology = found.2.topology ↔ ∀ p ∈ more, b.Unusable p) ∧
      found.2.diagnostics = problems ++ (paths.take controllerLimit).flatMap brought ∧
      others.2.diagnostics = problems ++
        ((paths.take controllerLimit).filter (!gone ·) ++ more).flatMap brought ∧
      ∀ p ∈ paths, gone p → brought p = [.unnumbered p] ∨
        ∃ cause, b.fault? p .mpi3mr = some cause ∧ brought p = [.nodeUnopened cause] := by
  intro found others
  have hfound : found = _ := gives_takeInventory t config before opened
  have hothers : others = _ := gives_takeInventory t' config before opened'
  rw [listNodes_without hw] at hothers
  generalize listNodes t config .mpi3mr = listed at hfound hothers hu ⊢
  obtain ⟨paths, problems⟩ := listed
  dsimp only at hfound hothers hu ⊢
  rw [take_controllerLimit] at hothers
  obtain ⟨hreports, htopology⟩ := visits_filter gone config.layout.expanders
    (fun p hp => hu p (List.mem_of_mem_take hp)) before
  rw [List.filterMap_append, List.foldl_append, hreports, htopology] at hothers
  rw [hfound, hothers]
  refine ⟨rfl, ⟨fun h => ?_, fun h => ?_⟩, rfl, rfl, fun p hp hg => ?_⟩
  · have hnone := List.append_right_eq_self.1 h.1
    intro p hp
    exact (report?_eq_none_iff _ p).1 (List.filterMap_eq_nil_iff.1 hnone p hp)
  · -- All that are let in may be dropped as well.
    obtain ⟨hnone, hsame⟩ := visits_filter (fun _ => true) config.layout.expanders
      (fun p hp _ => h p hp) ((paths.take controllerLimit).foldl (fun t p => takeVisited t
        (b.controllerVisit config.layout.expanders p)) before)
    have hdrop : (letIn gone paths).filter (fun _ => !true) = [] :=
      List.filter_eq_nil_iff.2 fun _ _ => Bool.false_ne_true
    rw [hdrop] at hnone hsame
    exact ⟨List.append_right_eq_self.2 hnone.symm, hsame.symm⟩
  · rw [inventoryProblems_eq]
    rcases controllerVisit_of_unusable (hu p hp hg) config.layout.expanders with
      ⟨-, hv⟩ | ⟨cause, hc, hv⟩
    · rw [hv]
      exact .inl rfl
    · rw [hv]
      exact .inr ⟨cause, hc, rfl⟩

/-! ## A controller that is not visited -/

/-- The nodes of five controllers. -/
def fiveControllers : Files.Tree :=
  nodeFiles ["mpi3mrctl0", "mpi3mrctl1", "mpi3mrctl2", "mpi3mrctl3", "mpi3mrctl4"]

/-- The same without the first one. -/
def fourControllers : Files.Tree :=
  nodeFiles ["mpi3mrctl1", "mpi3mrctl2", "mpi3mrctl3", "mpi3mrctl4"]

/-- Controllers of which the first one cannot be opened, and only the last one reports an
expander. -/
def expanderBehindLast : NodeBehaviour where
  fault? path _ := if path = "bsg/mpi3mrctl0" then some (.noOrdinal path) else none
  answer path _ _ query :=
    match query with
    | .command (.config request) capacity =>
      if path = "bsg/mpi3mrctl4" ∧ request.pageType = Controller.expanderPageType ∧
          request.pageAddress = Controller.startForm then
        .ok ⟨List.replicate 16 0 ++ Bytes.of64 0x5000c5000000003f, capacity, 0⟩
      else .error (.noOrdinal "")
    | .command .. | .smp .. => .error (.noOrdinal "")
    | .trace .. => ()

theorem listNodes_fiveControllers :
    listNodes fiveControllers hereConfig .mpi3mr =
      (["bsg/mpi3mrctl0", "bsg/mpi3mrctl1", "bsg/mpi3mrctl2", "bsg/mpi3mrctl3", "bsg/mpi3mrctl4"],
        []) :=
  listNodes_nodeFiles .mpi3mr _ rfl (by decide +kernel)
    (List.mergeSort_of_pairwise (by decide +kernel))

theorem without_fourControllers :
    Without (· == "bsg/mpi3mrctl0") hereConfig .mpi3mr fiveControllers fourControllers := by
  show fourControllers.list "bsg" = (fiveControllers.list "bsg").map _
  rw [fourControllers, fiveControllers, list_nodeFiles, list_nodeFiles]
  exact congrArg Except.ok (by decide +kernel)

theorem unusable_of_first {path : String} (h : path == "bsg/mpi3mrctl0") :
    expanderBehindLast.Unusable path :=
  .inr (by rw [eq_of_beq h]; rfl)

theorem inventory_without_unusable_nodes_fiveControllers :
    let reports (tree : Files.Tree) := ((takeInventory tree hereConfig
      (.start (.empty .standard))).run expanderBehindLast.responder []).1.1
    Without (· == "bsg/mpi3mrctl0") hereConfig .mpi3mr fiveControllers fourControllers ∧
      expanderBehindLast.Unusable "bsg/mpi3mrctl0" ∧
      reports fourControllers = reports fiveControllers ++ ["bsg/mpi3mrctl4"].filterMap fun p =>
        (expanderBehindLast.controllerVisit hereConfig.layout.expanders p).report? := by
  intro reports
  have h := inventory_without_unusable_nodes without_fourControllers
    (fun p _ hg => unusable_of_first hg) (.empty .standard) [] []
  rw [listNodes_fiveControllers] at h
  exact ⟨without_fourControllers, unusable_of_first rfl, h.1⟩

/-- The last of five nodes is not visited, so that its controller is not reported and the expander
behind it not bound, though the first node cannot be opened. Without the first node both are. -/
theorem usable_controller_hidden :
    let found (tree : Files.Tree) := ((takeInventory tree hereConfig
      (.start (.empty .standard))).run expanderBehindLast.responder []).1
    let binding (tree : Files.Tree) :=
      ((found tree).2.topology.expanders.get? 0).bind fun e => e.binding.map (·.path)
    expanderBehindLast.Unusable "bsg/mpi3mrctl0" ∧
      Without (· == "bsg/mpi3mrctl0") hereConfig .mpi3mr fiveControllers fourControllers ∧
      (found fiveControllers).1.map (·.path) =
        ["bsg/mpi3mrctl1", "bsg/mpi3mrctl2", "bsg/mpi3mrctl3"] ∧
      (found fourControllers).1.map (·.path) =
        ["bsg/mpi3mrctl1", "bsg/mpi3mrctl2", "bsg/mpi3mrctl3", "bsg/mpi3mrctl4"] ∧
      binding fiveControllers = none ∧ binding fourControllers = some "bsg/mpi3mrctl4" := by
  intro found binding
  have hfive : found fiveControllers = _ := gives_takeInventory _ _ _ _
  have hfour : found fourControllers = _ := gives_takeInventory _ _ _ _
  rw [listNodes_fiveControllers] at hfive
  rw [listNodes_without without_fourControllers, listNodes_fiveControllers] at hfour
  refine ⟨unusable_of_first rfl, without_fourControllers, ?_, ?_, ?_, ?_⟩
  · rw [hfive]
    decide +kernel
  · rw [hfour]
    decide +kernel
  · show ((found fiveControllers).2.topology.expanders.get? 0).bind _ = none
    rw [hfive]
    decide +kernel
  · show ((found fourControllers).2.topology.expanders.get? 0).bind _ = _
    rw [hfour]
    decide +kernel

end NodeBehaviour

end BayMap.Topology
