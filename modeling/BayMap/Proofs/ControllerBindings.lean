import BayMap.Proofs.ExpanderEntries
import Mathlib.Data.List.Induction

/-!
# Which controller an expander is bound to

Controllers report expanders by their addresses, and each report binds the entry of the index that
the address holds to its controller, whatever the entry is bound to before. The address of an entry
is that of the first report, and stays. So where several expanders have one index, an entry may be
bound to a controller behind which its expander is not.

* `get?_bindExpander`, `get?_takeController`, `get?_expanders_takeInventory`: what a report, a visit
  and an inventory do to an entry.
* `foldl_boundBy`: of reports one after another, the first one gives the address and the last one
  the binding.
* `inventory_binds_to_last_reporter`: each entry after an inventory, and when it is bound to a
  controller that reported it.
-/

namespace BayMap.Topology

variable {σ ρ : Type}

/-! ## Reports of an expander -/

/-- A controller told of an expander. -/
structure Told where
  /-- The path of the controller. -/
  path : String
  /-- The address of the expander. -/
  address : UInt64

/-- What the reports of controllers tell of expanders. -/
def told (reports : List ControllerReport) : List Told :=
  reports.flatMap fun r => r.expanders.map fun e => ⟨r.path, e.sasAddress⟩

/-- What is told of expanders with an index. -/
def toldAt (index : Nat) (reports : List ControllerReport) : List Told :=
  (told reports).filter (expanderIndex ·.address = index)

/-- The binding to the controller that told. -/
def Told.binding (x : Told) : Binding := ⟨x.path, .mpi3mr, Transport.ordinalOf x.path⟩

/-- An expander once it is bound to the controller that told of it. -/
def Expander.boundBy (e : Expander) (x : Told) : Expander :=
  { e.withWwid x.address with binding := some x.binding }

theorem boundTo_eq_boundBy {path : String} {ordinal : UInt8}
    (ho : Transport.ordinalOf path = some ordinal) (address : UInt64) (e : Expander) :
    e.boundTo path ordinal address = e.boundBy ⟨path, address⟩ := by
  unfold Expander.boundTo Expander.boundBy Told.binding
  rw [ho]

/-- The first one that told of an expander gives its address, and the last one its binding. -/
theorem foldl_boundBy {xs : List Told} (h0 : ∀ x ∈ xs, x.address ≠ 0) :
    xs.foldl Expander.boundBy .empty =
      { Expander.empty with
        wwid := (xs.head?.map (·.address)).getD 0
        binding := xs.getLast?.map (·.binding) } := by
  induction xs using List.reverseRecOn with
  | nil => rfl
  | append_singleton xs x ih =>
    rw [List.foldl_append, ih fun y hy => h0 y (List.mem_append_left _ hy), List.getLast?_concat]
    cases xs with
    | nil => rfl
    | cons first rest =>
      have hf : first.address ≠ 0 := h0 first List.mem_cons_self
      simp [Expander.boundBy, Expander.withWwid, hf]

/-! ## Entries -/

theorem get?_bindExpander (path : String) (ordinal : UInt8) (s : Survey) (e : ExpanderEntry)
    (i : Nat) :
    (s.bindExpander path ordinal e).topology.expanders.get? i =
      (s.topology.expanders.get? i).map fun entry =>
        if expanderIndex e.sasAddress = i then entry.boundTo path ordinal e.sasAddress
        else entry := by
  rw [bindExpander_eq]
  cases hu : s.topology.expanders.change? (expanderIndex e.sasAddress)
      (Expander.boundTo path ordinal e.sasAddress) with
  | some u =>
    show u.get? i = _
    rw [ExpanderTable.get?_change? hu]
    by_cases hi : i = expanderIndex e.sasAddress
    · subst hi
      simp
    · simp [hi, Ne.symm hi]
  | none =>
    show s.topology.expanders.get? i = _
    by_cases hi : expanderIndex e.sasAddress = i
    · rw [← hi, ExpanderTable.change?_eq_none_iff.1 hu]
      rfl
    · simp [hi]

/-- What is told of expanders, one controller after another. -/
theorem toldAt_append (index : Nat) (before after : List ControllerReport) :
    toldAt index (before ++ after) = toldAt index before ++ toldAt index after := by
  rw [toldAt, told, List.flatMap_append, List.filter_append]
  rfl

theorem get?_foldl_bindExpander {report : ControllerReport} {ordinal : UInt8}
    (ho : Transport.ordinalOf report.path = some ordinal) (s : Survey) (i : Nat) :
    (report.expanders.foldl (Survey.bindExpander report.path ordinal) s).topology.expanders.get? i =
      (s.topology.expanders.get? i).map fun e => (toldAt i [report]).foldl Expander.boundBy e := by
  rw [toldAt, told, List.flatMap_cons, List.flatMap_nil, List.append_nil]
  induction report.expanders generalizing s with
  | nil => simp
  | cons x rest ih =>
    rw [List.foldl_cons, ih, get?_bindExpander, Option.map_map]
    congr 1
    funext e
    rw [Function.comp_apply, List.map_cons, List.filter_cons, boundTo_eq_boundBy ho]
    by_cases hx : expanderIndex x.sasAddress = i
    · simp [hx]
    · simp [hx]

theorem get?_takeController {v : ControllerVisit} (hv : v.Numbered) (s : Survey) (i : Nat) :
    (s.takeController v).topology.expanders.get? i =
      (s.topology.expanders.get? i).map fun e =>
        (toldAt i v.report?.toList).foldl Expander.boundBy e := by
  cases v with
  | unnumbered path => exact Option.map_id'.symm
  | unopened cause => exact Option.map_id'.symm
  | heard ordinal report => exact get?_foldl_bindExpander hv (s.note report.diagnostics) i

/-- Visits bind an entry by what they tell of expanders with its index. -/
theorem get?_foldl_takeController {visits : List ControllerVisit} (hv : ∀ v ∈ visits, v.Numbered)
    (s : Survey) (i : Nat) :
    (visits.foldl Survey.takeController s).topology.expanders.get? i =
      (s.topology.expanders.get? i).map fun e =>
        (toldAt i (visits.filterMap (·.report?))).foldl Expander.boundBy e := by
  induction visits generalizing s with
  | nil => exact Option.map_id'.symm
  | cons v rest ih =>
    obtain ⟨hv, hr⟩ := List.forall_mem_cons.1 hv
    have hc : (v :: rest).filterMap (·.report?) =
        v.report?.toList ++ rest.filterMap (·.report?) := by
      rw [List.filterMap_cons]
      cases v.report? <;> rfl
    rw [List.foldl_cons, ih hr, get?_takeController hv, Option.map_map, hc, toldAt_append]
    congr 1
    funext e
    rw [Function.comp_apply, List.foldl_append]

/-! ## Addresses -/

/-- A page with no address ends the chain of expanders. -/
theorem ensures_readExpanders (pages : Nat) (form : UInt32) :
    (readExpanders pages form).Ensures fun es => ∀ e ∈ es, e.sasAddress ≠ 0 := by
  induction pages generalizing form with
  | zero => exact Dialogue.ensures_pure fun _ h => nomatch h
  | succ pages ih =>
    refine Dialogue.ensures_bind _ fun page => ?_
    cases page with
    | error cause => exact Dialogue.ensures_pure fun _ h => nomatch h
    | ok page =>
      show Dialogue.Ensures _ (if page.sasAddress = 0 then _ else _)
      by_cases h0 : page.sasAddress = 0
      · rw [if_pos h0]
        exact Dialogue.ensures_pure fun _ h => nomatch h
      · rw [if_neg h0]
        refine Dialogue.ensures_bind _ fun made => ?_
        refine (ih page.devHandle.toUInt32).bind fun rest hrest => ?_
        exact Dialogue.ensures_pure (List.forall_mem_cons.2 ⟨h0, hrest⟩)

/-- The expanders that a visit brings have addresses. -/
def ControllerVisit.Addressed (v : ControllerVisit) : Prop :=
  ∀ report, v.report? = some report → ∀ e ∈ report.expanders, e.sasAddress ≠ 0

theorem addressed_visitController (maxExpanders : Nat) (path : String) :
    (visitController maxExpanders path : Pass σ _).Ensures ControllerVisit.Addressed := by
  have hl : (ControllerReport.listen path maxExpanders).Ensures fun report =>
      ∀ e ∈ report.expanders, e.sasAddress ≠ 0 := by
    unfold ControllerReport.listen
    refine Dialogue.ensures_bind _ fun adapter => ?_
    refine Dialogue.ensures_bind _ fun facts => ?_
    refine Dialogue.ensures_bind _ fun enclosures => ?_
    exact (ensures_readExpanders _ _).bind fun expanders h => Dialogue.ensures_pure h
  unfold visitController
  cases ho : Transport.ordinalOf path with
  | none =>
    show ControllerVisit.Addressed (.unnumbered path)
    intro report h
    cases h
  | some ordinal =>
    unfold Pass.openNode
    intro answer
    cases answer with
    | error cause =>
      show ControllerVisit.Addressed (.unopened cause)
      intro report h
      cases h
    | ok handle =>
      refine (hl.relay _).bind fun report h => Dialogue.ensures_pure ?_
      rintro _ ⟨⟩
      exact h

/-! ## An inventory -/

/-- If the expander is bound, it is to a controller that reported its address. -/
def Expander.BoundToReporter (e : Expander) (reports : List ControllerReport) : Prop :=
  ∀ b, e.binding = some b →
    ∃ r ∈ reports, r.path = b.path ∧ ∃ x ∈ r.expanders, x.sasAddress = e.wwid

theorem mem_told_iff {reports : List ControllerReport} {path : String} {address : UInt64} :
    ⟨path, address⟩ ∈ told reports ↔
      ∃ r ∈ reports, r.path = path ∧ ∃ x ∈ r.expanders, x.sasAddress = address := by
  simp only [told, List.mem_flatMap, List.mem_map, Told.mk.injEq]
  constructor
  · rintro ⟨r, hr, x, hx, hp, ha⟩
    exact ⟨r, hr, hp, x, hx, ha⟩
  · rintro ⟨r, hr, hp, x, hx, ha⟩
    exact ⟨r, hr, x, hx, hp, ha⟩

/-- Whether the controller that told last of an index told of the address that was told first. -/
theorem boundToReporter_iff {reports : List ControllerReport} {i : Nat}
    (h0 : ∀ x ∈ toldAt i reports, x.address ≠ 0) :
    ((toldAt i reports).foldl Expander.boundBy .empty).BoundToReporter reports ↔
      ∀ first last, (toldAt i reports).head? = some first →
        (toldAt i reports).getLast? = some last →
          ⟨last.path, first.address⟩ ∈ told reports := by
  rw [foldl_boundBy h0]
  constructor
  · intro h first last hf hl
    refine mem_told_iff.2 ?_
    have hb := h last.binding (congrArg (Option.map (·.binding)) hl)
    rw [hf] at hb
    exact hb
  · intro h b hb
    obtain ⟨last, hl, rfl⟩ := Option.map_eq_some_iff.1 hb
    cases hf : (toldAt i reports).head? with
    | none =>
      rw [List.head?_eq_none_iff.1 hf] at hl
      cases hl
    | some first =>
      show ∃ r ∈ reports, r.path = last.path ∧ ∃ x ∈ r.expanders, x.sasAddress = first.address
      exact mem_told_iff.1 (h first last hf hl)

/-- An inventory leaves of each entry what its reports make of it. -/
theorem get?_expanders_takeInventory (t : Files.Tree) (config : Config) (s : Survey)
    (r : Responder (nodes σ) ρ) (st : ρ) (i : Nat) :
    let result := ((takeInventory t config s : Pass σ _).run r st).1
    result.2.topology.expanders.get? i = (s.topology.expanders.get? i).map (fun e =>
        (toldAt i result.1).foldl Expander.boundBy e) ∧
      ∀ x ∈ toldAt i result.1, x.address ≠ 0 := by
  refine Dialogue.Ensures.run
    (P := fun result : List ControllerReport × Survey =>
      result.2.topology.expanders.get? i = (s.topology.expanders.get? i).map (fun e =>
          (toldAt i result.1).foldl Expander.boundBy e) ∧
        ∀ x ∈ toldAt i result.1, x.address ≠ 0) ?_ r st
  unfold takeInventory
  refine (Dialogue.ensures_mapM fun path _ =>
    (ensures_visitController _ path).and (addressed_visitController _ path)).bind
      fun visits hv => Dialogue.ensures_pure ⟨?_, fun x hx => ?_⟩
  · exact get?_foldl_takeController (fun v hm => (hv v hm).1) _ i
  · obtain ⟨report, hr, hx⟩ := List.mem_flatMap.1 (List.mem_filter.1 hx).1
    obtain ⟨e, he, rfl⟩ := List.mem_map.1 hx
    obtain ⟨v, hm, hvr⟩ := List.mem_filterMap.1 hr
    exact (hv v hm).2 report hvr e he

theorem get?_takeInventory (t : Files.Tree) (config : Config) (layout : Layout)
    (r : Responder (nodes σ) ρ) (st : ρ) {i : Nat} (hi : i < layout.expanders) :
    let result := ((takeInventory t config (.start (.empty layout)) : Pass σ _).run r st).1
    result.2.topology.expanders.get? i =
        some ((toldAt i result.1).foldl Expander.boundBy .empty) ∧
      ∀ x ∈ toldAt i result.1, x.address ≠ 0 := by
  intro result
  obtain ⟨hg, h0⟩ := get?_expanders_takeInventory t config (.start (.empty layout)) r st i
  have he : (ExpanderTable.empty layout).get? i = some .empty :=
    (ExpanderTable.get?_empty layout i).trans (if_pos hi)
  exact ⟨hg.trans (congrArg _ he), h0⟩

/-- After an inventory of an empty topology an entry has the address that was told of its index
first, and is bound to the controller that told of its index last. That controller reported the
address exactly if it told of it at all. -/
theorem inventory_binds_to_last_reporter (t : Files.Tree) (config : Config) (layout : Layout)
    (r : Responder (nodes σ) ρ) (st : ρ) :
    let result := ((takeInventory t config (.start (.empty layout)) : Pass σ _).run r st).1
    ∀ i < layout.expanders, ∃ e, result.2.topology.expanders.get? i = some e ∧
      e.wwid = ((toldAt i result.1).head?.map (·.address)).getD 0 ∧
      e.binding = (toldAt i result.1).getLast?.map (·.binding) ∧
      (e.BoundToReporter result.1 ↔
        ∀ first last, (toldAt i result.1).head? = some first →
          (toldAt i result.1).getLast? = some last →
            ⟨last.path, first.address⟩ ∈ told result.1) := by
  intro result i hi
  obtain ⟨hg, h0⟩ := get?_takeInventory t config layout r st hi
  refine ⟨_, hg, ?_, ?_, boundToReporter_iff h0⟩
  · rw [foldl_boundBy h0]
  · rw [foldl_boundBy h0]

/-! ## Two controllers with one index -/

/-- A tree with the nodes of two controllers. -/
def twoControllers : Files.Tree :=
  ⟨[("bsg", .directory [("mpi3mrctl0", .file []), ("mpi3mrctl1", .file [])])]⟩

/-- Two controllers, each of which reports one expander and nothing else. The addresses of the
expanders agree in the bits of the index. -/
def oneExpanderEach : Responder (nodes Unit) Unit := fun q _ =>
  (match q with
    | .open .. => .ok ()
    | .on node (.command (.config request) capacity) =>
      let address := if node.path = "bsg/mpi3mrctl1" then 0x5000c5000000013f else 0x5000c5000000003f
      if request.pageType = Controller.expanderPageType ∧
          request.pageAddress = Controller.startForm then
        .ok ⟨List.replicate 16 0 ++ Bytes.of64 address, capacity, 0⟩
      else .error (.noOrdinal "")
    | .on _ (.command ..) | .on _ (.smp ..) => .error (.noOrdinal "")
    | .on _ (.trace ..) => (), ())

theorem listNodes_twoControllers :
    listNodes twoControllers hereConfig .mpi3mr = (["bsg/mpi3mrctl0", "bsg/mpi3mrctl1"], []) :=
  listNodes_nodeFiles .mpi3mr ["mpi3mrctl0", "mpi3mrctl1"] rfl (by decide +kernel)
    (List.mergeSort_of_pairwise (by decide +kernel))

/-- The entry has the address that the first controller reported, and is bound to the second one,
which did not report it. -/
theorem not_bound_to_reporter :
    let result := ((takeInventory twoControllers hereConfig (.start (.empty .standard)) :
      Pass Unit _).run oneExpanderEach ()).1
    ∃ e, result.2.topology.expanders.get? 0 = some e ∧ ¬ e.BoundToReporter result.1 := by
  intro result
  have htold : (told result.1).map (fun x => (x.path, x.address)) =
      [("bsg/mpi3mrctl0", 0x5000c5000000003f), ("bsg/mpi3mrctl1", 0x5000c5000000013f)] := by
    show (told ((takeInventory _ _ _ : Pass Unit _).run oneExpanderEach ()).1.1).map _ = _
    rw [takeInventory, listNodes_twoControllers]
    decide +kernel
  have hentry : (result.2.topology.expanders.get? 0).map (fun e =>
      (e.wwid, e.binding.map (·.path))) = some (0x5000c5000000003f, some "bsg/mpi3mrctl1") := by
    show (((takeInventory _ _ _ : Pass Unit _).run oneExpanderEach
      ()).1.2.topology.expanders.get? 0).map _ = _
    rw [takeInventory, listNodes_twoControllers]
    decide +kernel
  obtain ⟨e, he, hb⟩ := Option.map_eq_some_iff.1 hentry
  obtain ⟨hw, hb⟩ := Prod.mk.inj hb
  obtain ⟨b, hb, hp⟩ := Option.map_eq_some_iff.1 hb
  refine ⟨e, he, fun h => ?_⟩
  have hmem := mem_told_iff.2 (h b hb)
  rw [hp, hw] at hmem
  have hpair := List.mem_map_of_mem (f := fun x : Told => (x.path, x.address)) hmem
  rw [htold] at hpair
  exact absurd hpair (by decide)

end BayMap.Topology
