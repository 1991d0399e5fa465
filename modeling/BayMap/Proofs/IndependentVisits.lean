import BayMap.Proofs.ScanRecords
import BayMap.Proofs.UnopenedNodes

/-!
# Visits in another order

Reports of expanders with different indices write to different slots and entries, so it does not
matter which of them is taken first. Where the nodes of two visits tell of no index in common, the
visits may change places.

* `take_comm`: two reports.
* `foldl_append_comm`: two runs of a loop whose rounds commute.
* `sent_visitAll`: what is put to a node does not depend on the other nodes.
* `independent_visits_commute`: the same topology and the same requests in both orders.
-/

namespace BayMap.Topology

open Transport (Kind Conversation LinkQuery)

variable {σ α β : Type}

/-! ## Two reports -/

/-- A topology is what its tables show. -/
theorem eq_of_get? {t u : Topology} (layout : t.layout = u.layout) (family : t.family = u.family)
    (slots : ∀ i, t.slots.get? i = u.slots.get? i) (occupied : t.slots.occupied = u.slots.occupied)
    (expanders : ∀ i, t.expanders.get? i = u.expanders.get? i)
    (registered : t.expanders.registered = u.expanders.registered) : t = u := by
  obtain ⟨l, f, ⟨s, o⟩, ⟨x, n⟩⟩ := t
  obtain ⟨l', f', ⟨s', o'⟩, ⟨x', n'⟩⟩ := u
  obtain rfl : l = l' := layout
  obtain rfl : f = f' := family
  obtain rfl : s = s' := Array.ext_getElem? slots
  obtain rfl : o = o' := occupied
  obtain rfl : x = x' := Array.ext_getElem? expanders
  obtain rfl : n = n' := registered
  rfl

/-- The slot that a report tells of belongs to its expander. -/
theorem expanderOf_slotTold {l : Layout} {record : Smp.PhyRecord} {slot : Nat}
    (h : l.slotTold? record = some slot) :
    l.expanderOf slot = expanderIndex record.expanderAddress := by
  obtain ⟨-, number, -, -, hbay, rfl⟩ := Layout.slotTold?_eq_some_iff.1 h
  exact Layout.expanderOf_slotOf hbay

section Reports

variable (t : Topology) {x y : Report}
  (h : expanderIndex x.record.expanderAddress ≠ expanderIndex y.record.expanderAddress)

include h

theorem slots_take_comm (i : Nat) :
    ((t.take x).take y).slots.get? i = ((t.take y).take x).slots.get? i := by
  rw [get?_take, get?_take, get?_take, get?_take, Option.map_map, Option.map_map, layout_take,
    layout_take]
  congr 1
  funext kept
  simp only [Function.comp_apply]
  by_cases hx : t.layout.slotTold? x.record = some i
  · have hy : t.layout.slotTold? y.record ≠ some i := fun hy =>
      h ((expanderOf_slotTold hx).symm.trans (expanderOf_slotTold hy))
    rw [if_pos hx, if_neg hy, if_neg hy, if_pos hx]
  · rw [if_neg hx, if_neg hx]

theorem expanders_take_comm (i : Nat) :
    ((t.take x).take y).expanders.get? i = ((t.take y).take x).expanders.get? i := by
  rw [get?_expanders_take, get?_expanders_take, get?_expanders_take, get?_expanders_take,
    Option.map_map, Option.map_map]
  congr 1
  funext e
  simp only [Function.comp_apply]
  -- At most one of the two is about the expander at this index.
  have hnone : x.hostAt? i = none ∨ y.hostAt? i = none := by
    by_cases hx : expanderIndex x.record.expanderAddress = i
    · exact .inr (if_neg fun hy => h (hx.trans hy.symm))
    · exact .inl (if_neg hx)
  rcases hnone with hn | hn
  · simp only [Expander.takeLink, hn]
  · simp only [Expander.takeLink, hn]

/-- Reports of expanders with different indices may change places. -/
theorem take_comm : (t.take x).take y = (t.take y).take x := by
  have hxy := (keepsScan_take t x).trans (keepsScan_take (t.take x) y)
  have hyx := (keepsScan_take t y).trans (keepsScan_take (t.take y) x)
  apply eq_of_get?
  · exact hxy.layout.trans hyx.layout.symm
  · exact hxy.family.trans hyx.family.symm
  · exact slots_take_comm t h
  · exact hxy.occupied.trans hyx.occupied.symm
  · exact expanders_take_comm t h
  · exact hxy.registered.trans hyx.registered.symm

end Reports

/-- Two runs of a loop change places if each round of the one does with each of the other. -/
theorem foldl_append_comm {f : β → α → β} {xs ys : List α}
    (h : ∀ x ∈ xs, ∀ y ∈ ys, ∀ s, f (f s x) y = f (f s y) x) (s : β) :
    (xs ++ ys).foldl f s = (ys ++ xs).foldl f s := by
  have hone (x : α) (ys : List α) (hx : ∀ y ∈ ys, ∀ s, f (f s x) y = f (f s y) x) (s : β) :
      ys.foldl f (f s x) = f (ys.foldl f s) x := by
    induction ys generalizing s with
    | nil => rfl
    | cons y rest ih =>
      obtain ⟨hy, hrest⟩ := List.forall_mem_cons.1 hx
      rw [List.foldl_cons, List.foldl_cons, hy s, ih hrest]
  induction xs generalizing s with
  | nil => rw [List.nil_append, List.append_nil]
  | cons x rest ih =>
    obtain ⟨hx, hrest⟩ := List.forall_mem_cons.1 h
    rw [List.cons_append, List.foldl_cons, ih hrest, List.foldl_append, List.foldl_append,
      List.foldl_cons, hone x ys hx]

/-! ## What is put to nodes -/

/-- What is put to open nodes, in order, each with the path of the node. -/
def sent (told : List (Exchanged (nodes σ))) : List (String × LinkQuery) :=
  told.filterMap fun e =>
    match e.1 with
    | .on node query => some (node.path, query)
    | .open .. => none

theorem sent_append (a b : List (Exchanged (nodes σ))) : sent (a ++ b) = sent a ++ sent b :=
  List.filterMap_append

theorem sent_over (node : OpenNode σ) (told : List (Exchanged Transport.link)) :
    sent (told.map node.over) = told.map fun e => (node.path, e.1) := by
  have hover : sent (told.map node.over) = told.filterMap fun e => some (node.path, e.1) :=
    List.filterMap_map ..
  rw [hover]
  exact congrFun List.filterMap_eq_map told

/-- What is put to the node at a path, in order. -/
def sentTo (path : String) (told : List (Exchanged (nodes σ))) : List LinkQuery :=
  ((sent told).filter (·.1 = path)).map (·.2)

namespace NodeBehaviour

variable {b : NodeBehaviour}

/-- What is put to the node of a visit. -/
def asked (b : NodeBehaviour) (v : Visit) : List (String × LinkQuery) :=
  match b.fault? v.path v.kind with
  | some _ => []
  | none =>
    ((walk v.target false slotPhys).transcript (b.overLink v.path v.kind) []).map fun e =>
      (v.path, e.1)

theorem path_of_mem_asked {v : Visit} {q : String × LinkQuery} (h : q ∈ b.asked v) :
    q.1 = v.path := by
  unfold asked at h
  split at h
  · cases h
  · obtain ⟨e, -, rfl⟩ := List.mem_map.1 h
    rfl

theorem filter_asked (path : String) (v : Visit) :
    (b.asked v).filter (·.1 = path) = if v.path = path then b.asked v else [] := by
  split
  · rename_i hp
    exact List.filter_eq_self.2 fun q hq => decide_eq_true ((path_of_mem_asked hq).trans hp)
  · rename_i hp
    exact List.filter_eq_nil_iff.2 fun q hq hd =>
      hp ((path_of_mem_asked hq).symm.trans (of_decide_eq_true hd))

theorem sent_listen (v : Visit) (opened : List (List LinkQuery)) :
    sent (v.listen.transcript b.responder opened) = b.asked v := by
  have hopen : sent ((Pass.openNode v.path v.kind).transcript b.responder opened) = [] := rfl
  unfold Visit.listen asked
  rw [Dialogue.transcript_bind, sent_append, hopen, run_openNode, List.nil_append]
  rcases b.fault? v.path v.kind with _ | cause
  · have htold := (alike_opened (b := b) v.path v.kind (walk v.target false slotPhys) opened).2
    dsimp only
    rw [Dialogue.transcript_map, htold, sent_over]
  · rfl

/-- What is put to a node does not depend on the other nodes that are visited. -/
theorem sent_visitAll (visits : List Visit) (s : Survey) (opened : List (List LinkQuery)) :
    sent ((visitAll visits s).transcript b.responder opened) = visits.flatMap b.asked := by
  unfold visitAll
  induction visits generalizing s opened with
  | nil => rfl
  | cons v rest ih =>
    rw [List.foldlM_cons, Dialogue.transcript_bind, sent_append, ih, Dialogue.transcript_map,
      sent_listen, List.flatMap_cons]

theorem sent_two_visits (v w : Visit) (s : Survey) (opened : List (List LinkQuery)) :
    sent ((visitAll [v, w] s).transcript b.responder opened) = b.asked v ++ b.asked w := by
  rw [sent_visitAll, List.flatMap_cons, List.flatMap_cons, List.flatMap_nil, List.append_nil]

/-! ## Two visits -/

/-- The reports that a visit brings. -/
def reportsOf (b : NodeBehaviour) (v : Visit) : List Report :=
  reports (v.listen.transcript b.responder [])

theorem reportsOf_eq (v : Visit) : b.reportsOf v = (b.learned v).filterMap Event.report? := by
  have hheard : (v.listen.run b.responder []).1 =
      b.heard v.path v.kind (walk v.target false slotPhys) :=
    gives_talk v.path v.kind (walk v.target false slotPhys) id []
  rw [reportsOf, reports, events_listen, hheard]
  rfl

/-- Two visits bring what their reports bring, taken one after another. -/
theorem topology_two_visits (v w : Visit) (before : Topology) (opened : List (List LinkQuery)) :
    ((visitAll [v, w] (.start before)).run b.responder opened).1.topology =
      (b.reportsOf v ++ b.reportsOf w).foldl take before := by
  rw [gives_visits, topology_foldl_takeEvent, reportsOf_eq, reportsOf_eq, ← List.filterMap_append]
  simp only [List.flatMap_cons, List.flatMap_nil, List.append_nil]
  rfl

/-- Visits that bring reports of different expander indices may change places: they leave the same
topology, and each puts the same to its node. So where they go to two nodes, each of the nodes is
asked the same. -/
theorem independent_visits_commute (v w : Visit) (before : Topology)
    (opened : List (List LinkQuery))
    (hindex : ∀ x ∈ b.reportsOf v, ∀ y ∈ b.reportsOf w,
      expanderIndex x.record.expanderAddress ≠ expanderIndex y.record.expanderAddress) :
    let inOrder : Pass Nat Survey := visitAll [v, w] (.start before)
    let swapped : Pass Nat Survey := visitAll [w, v] (.start before)
    (inOrder.run b.responder opened).1.topology = (swapped.run b.responder opened).1.topology ∧
    sent (inOrder.transcript b.responder opened) = b.asked v ++ b.asked w ∧
    sent (swapped.transcript b.responder opened) = b.asked w ++ b.asked v ∧
    (v.path ≠ w.path → ∀ path,
      sentTo path (inOrder.transcript b.responder opened) =
        sentTo path (swapped.transcript b.responder opened)) := by
  intro inOrder swapped
  have hsent := sent_two_visits (b := b) v w (.start before) opened
  have hswapped := sent_two_visits (b := b) w v (.start before) opened
  refine ⟨?_, hsent, hswapped, fun hpath path => ?_⟩
  · simp only [inOrder, swapped, topology_two_visits]
    exact foldl_append_comm (fun x hx y hy t => take_comm t (hindex x hx y hy)) before
  · simp only [inOrder, swapped, sentTo]
    rw [hsent, hswapped, List.filter_append, List.filter_append, filter_asked, filter_asked]
    by_cases hv : v.path = path
    · have hw : w.path ≠ path := fun hw => hpath (hv.trans hw.symm)
      rw [if_neg hw, List.append_nil, List.nil_append]
    · rw [if_neg hv, List.append_nil, List.nil_append]

/-- The expanders at two nodes, at index 0 and at index 1. Both have their link to the host at phy 0
and the disk of their bay 0 at phy 1. -/
def twoIndices : NodeBehaviour where
  fault? _ _ := none
  answer path _ _
    | .smp _ request _ =>
      let address := if path = "bsg/expander-0:1" then 0x5000c5000000007f else 0x5000c5000000003f
      let response :=
        match request.u8At 9 with
        | 0 => phyFrame 0 8 address 0x500605b000000100 0xff
        | 1 => phyFrame 1 0 address 0 0
        | _ => [Smp.responseType, Smp.Function.discover.code, 0x10, 0]
      .ok ⟨response, none, 0⟩
    | .command .. => .error (.noOrdinal "")
    | .trace .. => ()

theorem independent_visits_commute_twoIndices :
    let v : Visit := ⟨"bsg/expander-0:0", .bsg, 0⟩
    let w : Visit := ⟨"bsg/expander-0:1", .bsg, 0⟩
    let inOrder : Pass Nat Survey := visitAll [v, w] (.start (.empty .standard))
    let swapped : Pass Nat Survey := visitAll [w, v] (.start (.empty .standard))
    (twoIndices.reportsOf v).map (expanderIndex ·.record.expanderAddress) = [0, 0] ∧
    (twoIndices.reportsOf w).map (expanderIndex ·.record.expanderAddress) = [1, 1] ∧
    (inOrder.run twoIndices.responder []).1.topology =
      (swapped.run twoIndices.responder []).1.topology ∧
    ∀ path, sentTo path (inOrder.transcript twoIndices.responder []) =
      sentTo path (swapped.transcript twoIndices.responder []) := by
  intro v w
  have hv : (twoIndices.reportsOf v).map (expanderIndex ·.record.expanderAddress) = [0, 0] := by
    decide +kernel
  have hw : (twoIndices.reportsOf w).map (expanderIndex ·.record.expanderAddress) = [1, 1] := by
    decide +kernel
  have hindex : ∀ x ∈ twoIndices.reportsOf v, ∀ y ∈ twoIndices.reportsOf w,
      expanderIndex x.record.expanderAddress ≠ expanderIndex y.record.expanderAddress := by
    intro x hx y hy
    have hx0 := List.mem_map_of_mem (f := (expanderIndex ·.record.expanderAddress)) hx
    have hy1 := List.mem_map_of_mem (f := (expanderIndex ·.record.expanderAddress)) hy
    rw [hv] at hx0
    rw [hw] at hy1
    simp only [List.mem_cons, List.not_mem_nil, or_false, or_self] at hx0 hy1
    omega
  have hpath : v.path ≠ w.path := by decide
  obtain ⟨htopology, -, -, hsent⟩ := independent_visits_commute v w (.empty .standard) [] hindex
  exact ⟨hv, hw, htopology, hsent hpath⟩

end NodeBehaviour

end BayMap.Topology
