import BayMap.Proofs.FixedNodes
import BayMap.Proofs.SwitchedNode

/-!
# Nodes that cannot be opened

A node that cannot be opened leaves one problem, in its place in the order of the nodes, and nothing
else: what the other nodes say is the same as if there were no such node.

* `gives_visitExpanders`, `gives_reportThrough`: the passes as what the nodes bring, one by one.
* `unopened_nodes_affect_only_themselves`: the same topology and the same reports as without the
  nodes, and one more problem for each of them.
-/

namespace BayMap.Topology

open Transport (Kind LinkQuery link)

variable {α β : Type}

namespace NodeBehaviour

variable (b : NodeBehaviour)

/-- What is learned on a visit. -/
def learned (v : Visit) : List Event :=
  match b.heard v.path v.kind (walk v.target false slotPhys) with
  | .error cause => [.unopened cause]
  | .ok heard => heard.map (.told v.path v.kind)

/-- The problems of slot discovery where there is no node but one. -/
def slotProblems (before : Topology) (path : String) : List Diagnostic :=
  ((visitAll [⟨path, .bsg, 0⟩] (.start before)).run b.responder []).1.diagnostics

/-- What a node is heard to report, and the problems of reporting where there is no node but it. -/
def reported (kind : Kind) (targets : List (Option UInt64)) (path : String) :
    List ExpanderReport × List Diagnostic :=
  gatherReports [((reportNode kind targets path).run b.responder []).1]

variable {b}

theorem takeVisit_heard (s : Survey) (v : Visit) :
    s.takeVisit v (b.heard v.path v.kind (walk v.target false slotPhys)) =
      (b.learned v).foldl Survey.takeEvent s := by
  unfold learned
  cases b.heard v.path v.kind (walk v.target false slotPhys) with
  | error cause => rfl
  | ok heard =>
    show heard.foldl _ s = (heard.map _).foldl _ s
    rw [List.foldl_map]
    rfl

theorem gives_visits (visits : List Visit) (s : Survey) :
    b.Gives (visitAll visits s) ((visits.flatMap b.learned).foldl Survey.takeEvent s) := by
  have h := gives_visitAll (b := b) visits s
  simp only [takeVisit_heard] at h
  rw [List.foldl_flatMap]
  exact h

theorem slotProblems_eq (before : Topology) (path : String) :
    b.slotProblems before path =
      (b.learned ⟨path, .bsg, 0⟩).flatMap (·.problems before) := by
  rw [slotProblems, gives_visits, List.flatMap_singleton, diagnostics_foldl_takeEvent]
  rfl

theorem slotProblems_of_fault {path : String} {cause : TransportError}
    (h : b.fault? path .bsg = some cause) (before : Topology) :
    b.slotProblems before path = [.nodeUnopened cause] := by
  rw [slotProblems_eq, learned, heard, h]
  rfl

theorem gatherReports_map (f : String → Except TransportError (List ExpanderReport))
    (paths : List String) :
    gatherReports (paths.map f) =
      (paths.flatMap fun p => (gatherReports [f p]).1,
        paths.flatMap fun p => (gatherReports [f p]).2) := by
  unfold gatherReports
  simp only [List.flatMap_map, List.flatMap_singleton]

/-- Slot discovery takes what is learned from the nodes, each for itself. -/
theorem gives_visitExpanders (t : Files.Tree) (config : Config) (before : Topology) :
    b.Gives (visitExpanders t config (.start before))
      { topology := ((listNodes t config .bsg).1.flatMap fun p =>
          (b.learned ⟨p, .bsg, 0⟩).filterMap Event.report?).foldl take before
        diagnostics := (listNodes t config .bsg).2 ++
          (listNodes t config .bsg).1.flatMap (b.slotProblems before) } := by
  intro opened
  rw [visitExpanders_eq, gives_visits, List.flatMap_map]
  generalize (listNodes t config .bsg).1 = paths
  generalize (listNodes t config .bsg).2 = problems
  let s := (Survey.start before).note problems
  have ht := topology_foldl_takeEvent (paths.flatMap fun p => b.learned ⟨p, .bsg, 0⟩) s
  have hd := diagnostics_foldl_takeEvent (paths.flatMap fun p => b.learned ⟨p, .bsg, 0⟩) s
  rw [List.filterMap_flatMap] at ht
  rw [List.flatMap_assoc] at hd
  have hp : b.slotProblems before = fun p =>
      (b.learned ⟨p, .bsg, 0⟩).flatMap (·.problems before) :=
    funext fun p => slotProblems_eq before p
  rw [hp]
  generalize List.foldl _ _ _ = found at ht hd ⊢
  obtain ⟨topology, diagnostics⟩ := found
  obtain rfl : topology = _ := ht
  obtain rfl : diagnostics = _ := hd
  rfl

theorem gives_reportThrough (t : Files.Tree) (config : Config) (kind : Kind)
    (expanders : ExpanderTable) :
    b.Gives (reportThrough t config kind expanders)
      ((listNodes t config kind).1.flatMap fun p => (b.reported kind (expanders.targets kind) p).1,
        (listNodes t config kind).2 ++
          (listNodes t config kind).1.flatMap fun p =>
            (b.reported kind (expanders.targets kind) p).2) := by
  have hp (p : String) : b.reported kind (expanders.targets kind) p =
      gatherReports [b.heard p kind
        ((expanders.targets kind).mapM (ExpanderReport.listen p))] := by
    rw [reported, gives_reportNode]
  unfold reportThrough
  have h := gives_mapM (b := b) (fun p => gives_reportNode kind (expanders.targets kind) p)
    (listNodes t config kind).1
  refine h.bind ?_
  rw [gatherReports_map]
  simp only [hp]
  exact gives_pure _

theorem reported_of_fault {path : String} {kind : Kind} {cause : TransportError}
    (h : b.fault? path kind = some cause) (targets : List (Option UInt64)) :
    b.reported kind targets path = ([], [.nodeUnopened cause]) := by
  rw [reported, gives_reportNode, heard, h]
  rfl

/-- Some nodes of a kind, none of which can be opened, are taken out of their directory. -/
structure TakenOut (b : NodeBehaviour) (gone : String → Bool) (config : Config) (kind : Kind)
    (t t' : Files.Tree) : Prop where
  without : Without gone config kind t t'
  unopened : ∀ p ∈ (listNodes t config kind).1, gone p → (b.fault? p kind).isSome

/-- The problems `found` over all the nodes of a kind and the problems `others` without some of
them: each node brings its own problems at its place, and one that is taken out would have brought
one, that it cannot be opened. -/
structure OneMoreEach (b : NodeBehaviour) (gone : String → Bool) (kind : Kind)
    (listed : List String × List Diagnostic) (brought : String → List Diagnostic)
    (found others : List Diagnostic) : Prop where
  found : found = listed.2 ++ listed.1.flatMap brought
  others : others = listed.2 ++ (listed.1.filter (!gone ·)).flatMap brought
  one : ∀ p ∈ listed.1, gone p →
    ∃ cause, b.fault? p kind = some cause ∧ brought p = [.nodeUnopened cause]

theorem flatMap_filter_of_nil {f : α → List β} {keep : α → Bool} {l : List α}
    (h : ∀ x ∈ l, keep x = false → f x = []) : (l.filter keep).flatMap f = l.flatMap f := by
  induction l with
  | nil => rfl
  | cons x l ih =>
    have hrest := ih fun y hy => h y (List.mem_cons_of_mem _ hy)
    cases hk : keep x with
    | true => rw [List.filter_cons_of_pos hk, List.flatMap_cons, List.flatMap_cons, hrest]
    | false =>
      have hx := h x List.mem_cons_self hk
      rw [List.filter_cons_of_neg (Bool.not_eq_true _ ▸ hk), hrest, List.flatMap_cons, hx,
        List.nil_append]

theorem TakenOut.exists_fault {gone : String → Bool} {config : Config} {kind : Kind}
    {t t' : Files.Tree} (h : b.TakenOut gone config kind t t') {p : String}
    (hp : p ∈ (listNodes t config kind).1) (hg : gone p) :
    ∃ cause, b.fault? p kind = some cause :=
  Option.isSome_iff_exists.1 (h.unopened p hp hg)

/-- Nodes that cannot be opened change neither the topology of slot discovery nor the reports of any
kind of node, and each of them brings one problem more, in its place. -/
theorem unopened_nodes_affect_only_themselves {config : Config} {gone gone' : String → Bool}
    {kind : Kind} {t t' u u' : Files.Tree} (hslots : b.TakenOut gone config .bsg t t')
    (hreports : b.TakenOut gone' config kind u u') (before : Topology) (expanders : ExpanderTable)
    (opened opened' : List (List LinkQuery)) :
    let slots (tree : Files.Tree) := (visitExpanders tree config (.start before)).run b.responder
    let reports (tree : Files.Tree) := (reportThrough tree config kind expanders).run b.responder
    ((slots t opened).1.topology = (slots t' opened').1.topology ∧
      b.OneMoreEach gone .bsg (listNodes t config .bsg) (b.slotProblems before)
        (slots t opened).1.diagnostics (slots t' opened').1.diagnostics) ∧
    (reports u opened).1.1 = (reports u' opened').1.1 ∧
      b.OneMoreEach gone' kind (listNodes u config kind)
        (fun p => (b.reported kind (expanders.targets kind) p).2)
        (reports u opened).1.2 (reports u' opened').1.2 := by
  intro slots reports
  have hs (tree : Files.Tree) (opened : List (List LinkQuery)) :=
    gives_visitExpanders (b := b) tree config before opened
  have hr (tree : Files.Tree) (opened : List (List LinkQuery)) :=
    gives_reportThrough (b := b) tree config kind expanders opened
  simp only [slots, reports, hs, hr, listNodes_without hslots.without,
    listNodes_without hreports.without]
  refine ⟨⟨?_, rfl, rfl, fun p hp hg => ?_⟩, ?_, rfl, rfl, fun p hp hg => ?_⟩
  · congr 1
    refine (flatMap_filter_of_nil fun p hp hk => ?_).symm
    obtain ⟨cause, hc⟩ := hslots.exists_fault hp (by simpa using hk)
    rw [learned, heard, hc]
    rfl
  · obtain ⟨cause, hc⟩ := hslots.exists_fault hp hg
    exact ⟨cause, hc, slotProblems_of_fault hc before⟩
  · refine (flatMap_filter_of_nil fun p hp hk => ?_).symm
    obtain ⟨cause, hc⟩ := hreports.exists_fault hp (by simpa using hk)
    rw [reported_of_fault hc]
  · obtain ⟨cause, hc⟩ := hreports.exists_fault hp hg
    exact ⟨cause, hc, by rw [reported_of_fault hc]⟩

/-- The expanders of `sharedIndex`, the second one behind a node that cannot be opened. -/
def secondUnopened : NodeBehaviour where
  fault? path _ := if path = "bsg/expander-0:1" then some (.noOrdinal path) else none
  answer path kind _ query := (sharedIndex (.on ⟨path, kind, ()⟩ query) ()).1

theorem unopened_nodes_affect_only_themselves_twoNodes :
    let gone (path : String) := path == "bsg/expander-0:1"
    let slots (tree : Files.Tree) := ((visitExpanders tree hereConfig
      (.start (.empty .standard))).run secondUnopened.responder []).1
    secondUnopened.TakenOut gone hereConfig .bsg twoNodes (nodeFiles ["expander-0:0"]) ∧
      (slots twoNodes).topology = (slots (nodeFiles ["expander-0:0"])).topology ∧
      (slots twoNodes).diagnostics = (slots (nodeFiles ["expander-0:0"])).diagnostics ++
        [.nodeUnopened (.noOrdinal "bsg/expander-0:1")] := by
  intro gone slots
  have htaken : secondUnopened.TakenOut gone hereConfig .bsg twoNodes
      (nodeFiles ["expander-0:0"]) := by
    refine ⟨?_, fun p hp hg => ?_⟩
    · show (nodeFiles ["expander-0:0"]).list "bsg" =
        ((nodeFiles ["expander-0:0", "expander-0:1"]).list "bsg").map _
      rw [list_nodeFiles, list_nodeFiles]
      rfl
    · obtain rfl : p = "bsg/expander-0:1" := by simpa [gone] using hg
      rfl
  refine ⟨htaken, ?_⟩
  obtain ⟨⟨htopology, hfound, hothers, hone⟩, -⟩ := unopened_nodes_affect_only_themselves htaken
    htaken (.empty .standard) (.empty .standard) [] []
  rw [listNodes_twoNodes] at hfound hothers hone
  obtain ⟨cause, hc, hbrought⟩ := hone "bsg/expander-0:1" (by simp) (by rfl)
  obtain rfl : cause = .noOrdinal "bsg/expander-0:1" := (Option.some.inj hc).symm
  refine ⟨htopology, ?_⟩
  have hkept : ["bsg/expander-0:0", "bsg/expander-0:1"].filter (!gone ·) =
      ["bsg/expander-0:0"] := rfl
  rw [hkept] at hothers
  refine hfound.trans (Eq.trans ?_ (congrArg (· ++ _) hothers.symm))
  simp only [List.flatMap_cons, List.flatMap_nil, hbrought, List.nil_append, List.append_nil]

end NodeBehaviour

end BayMap.Topology
