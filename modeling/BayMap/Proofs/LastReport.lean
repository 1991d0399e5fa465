import BayMap.Proofs.Reports

/-!
# What slot discovery keeps of a bay

A bay keeps the last report that tells of it, whatever was reported before and of whatever else, and
what was known of it before the pass where no report tells of it.

* `slotTold?_eq_some_iff`: which reports tell of which slot.
* `inVisitOrder_visitAll`: reports come in the order of visits, and those of one visit in the order
  of phys.
* `bays_keep_last_report`: the slots, the rest of the topology and the problems after a pass.
-/

namespace BayMap.Topology

open Smp (PhyRecord)
open Transport (Kind Conversation)

variable {σ ρ α : Type}

/-! ## The bay of a record -/

namespace Layout

variable {l : Layout} {record : PhyRecord} {slot : Nat}

theorem slotTold?_eq_some_iff :
    l.slotTold? record = some slot ↔
      record.atInitiator = false ∧ ∃ number, record.slotNumber = some number ∧
        expanderIndex record.expanderAddress < l.expanders ∧ number.toNat < l.slotsPerExpander ∧
        slot = l.slotOf (expanderIndex record.expanderAddress) number.toNat := by
  unfold slotTold? bay?
  constructor
  · intro h
    obtain ⟨bay, hb, hs⟩ := Option.bind_eq_some_iff.1 h
    obtain ⟨hi, hb⟩ := Option.ite_none_left_eq_some.1 hb
    obtain ⟨number, hn, rfl⟩ := Option.map_eq_some_iff.1 hb
    obtain ⟨⟨he, hd⟩, hs⟩ := Option.ite_none_right_eq_some.1 hs
    exact ⟨Bool.eq_false_iff.2 hi, number, hn, he, hd, (Option.some.inj hs).symm⟩
  · rintro ⟨hi, number, hn, he, hd, rfl⟩
    rw [if_neg (by rw [hi]; exact Bool.false_ne_true), hn]
    exact if_pos ⟨he, hd⟩

theorem outside?_eq_some_iff {problem : Diagnostic} :
    l.outside? record = some problem ↔
      record.atInitiator = false ∧ ∃ number, record.slotNumber = some number ∧
        (l.expanders ≤ expanderIndex record.expanderAddress ∨ l.slotsPerExpander ≤ number.toNat) ∧
        problem = .outsideTable record.phyId record.expanderAddress number.toNat := by
  unfold outside? bay?
  constructor
  · intro h
    obtain ⟨bay, hb, hs⟩ := Option.bind_eq_some_iff.1 h
    obtain ⟨hi, hb⟩ := Option.ite_none_left_eq_some.1 hb
    obtain ⟨number, hn, rfl⟩ := Option.map_eq_some_iff.1 hb
    obtain ⟨hl, hs⟩ := Option.ite_none_left_eq_some.1 hs
    refine ⟨Bool.eq_false_iff.2 hi, number, hn, ?_, (Option.some.inj hs).symm⟩
    simp only [Has] at hl
    omega
  · rintro ⟨hi, number, hn, ho, rfl⟩
    rw [if_neg (by rw [hi]; exact Bool.false_ne_true), hn]
    refine if_neg fun hl => ?_
    simp only [Has] at hl
    omega

end Layout

/-! ## One slot -/

/-- The last one among reports that tells of a slot. -/
def lastReport? (l : Layout) (slot : Nat) (heard : List Report) : Option Report :=
  (heard.filter fun x => l.slotTold? x.record = some slot).getLast?

theorem lastReport?_cons (l : Layout) (slot : Nat) (x : Report) (rest : List Report) :
    lastReport? l slot (x :: rest) =
      (lastReport? l slot rest).or (if l.slotTold? x.record = some slot then some x else none) := by
  rw [lastReport?, lastReport?, List.filter_cons]
  by_cases h : l.slotTold? x.record = some slot
  · rw [if_pos (decide_eq_true h), if_pos h, List.getLast?_cons]
    cases (rest.filter _).getLast? <;> rfl
  · rw [if_neg (by simpa using h), if_neg h, Option.or_none]

theorem get?_take (t : Topology) (x : Report) (slot : Nat) :
    (t.take x).slots.get? slot = (t.slots.get? slot).map fun kept =>
      if t.layout.slotTold? x.record = some slot then
        { kept with lastDiscovery := some x.record }
      else kept := by
  obtain ⟨told, hs, h⟩ | ⟨name, e, u, hh, -, -, -, h⟩ | ⟨hs, -, h⟩ := take_cases t x
  · rw [h, SlotTable.get?_setRecord, hs]
    by_cases ho : slot = told
    · subst ho
      simp
    · simp [ho, Ne.symm ho]
  · have hs : t.layout.slotTold? x.record = none := by
      rw [Layout.slotTold?, bay?_of_host hh]
      rfl
    rw [h, hs]
    simp
  · rw [h, hs]
    simp

theorem get?_foldl_take (heard : List Report) (t : Topology) (slot : Nat) :
    (heard.foldl take t).slots.get? slot = (t.slots.get? slot).map fun kept =>
      { kept with
        lastDiscovery :=
          ((lastReport? t.layout slot heard).map (·.record)).or kept.lastDiscovery } := by
  induction heard generalizing t with
  | nil => simp [lastReport?]
  | cons x rest ih =>
    rw [List.foldl_cons, ih, get?_take, Option.map_map, layout_take]
    congr 1
    funext kept
    rw [Function.comp_apply, lastReport?_cons]
    split
    · simp only [Option.map_or, Option.map_some, Option.or_assoc, Option.some_or]
    · simp only [Option.or_none]

theorem of_lastReport {l : Layout} {slot : Nat} {heard : List Report} {x : Report}
    (h : lastReport? l slot heard = some x) : x ∈ heard ∧ l.slotTold? x.record = some slot := by
  obtain ⟨hm, ht⟩ := List.mem_filter.1 (List.mem_of_getLast? h)
  exact ⟨hm, of_decide_eq_true ht⟩

/-- A report of a bay is of the length that the number of the bay needs. -/
theorem long_of_slotTold {told : List (Exchanged (nodes σ))} {x : Report} (h : x ∈ reports told)
    {l : Layout} {slot : Nat} (hs : l.slotTold? x.record = some slot) :
    108 < x.record.responseLength := by
  obtain ⟨-, number, hn, -⟩ := Layout.slotTold?_eq_some_iff.1 hs
  obtain ⟨phy, response, hr⟩ := decoded_of_mem_reports h
  rw [hr] at hn ⊢
  exact (Option.ite_none_right_eq_some.1 hn).1.1

/-- The phy of a slot is the one that the last report of the slot is of. -/
theorem phyId_of_lastReport {told : List (Exchanged (nodes σ))} {x : Report} (h : x ∈ reports told)
    {l : Layout} {slot : Nat} (hs : l.slotTold? x.record = some slot) {kept : Slot}
    (hk : kept.lastDiscovery = some x.record) : kept.phyId = some x.record.phyId := by
  have hl : 9 < x.record.responseLength := Nat.lt_trans (by decide) (long_of_slotTold h hs)
  rw [Slot.phyId, hk, Option.filter_some, if_pos (decide_eq_true hl)]
  rfl

/-! ## The order of reports -/

/-- Reports that come in the order of visits, and those of one visit in the order of phys. -/
def InVisitOrder : List Visit → List Report → Prop
  | [], heard => heard = []
  | v :: rest, heard => ∃ here later, heard = here ++ later ∧
      (∀ x ∈ here, x.path = v.path ∧ x.kind = v.kind) ∧
      here.Pairwise (fun x y => x.record.requestedPhy < y.record.requestedPhy) ∧
      InVisitOrder rest later

theorem reports_append (a b : List (Exchanged (nodes σ))) :
    reports (a ++ b) = reports a ++ reports b := by
  rw [reports, events_append, List.filterMap_append]
  rfl

theorem ensures_listen (v : Visit) :
    (v.listen : Pass σ _).Ensures fun told => ∀ heard, told = .ok heard →
      heard.Pairwise fun a b => ∀ x y, a.answer = .ok x → b.answer = .ok y →
        x.requestedPhy < y.requestedPhy := by
  unfold Visit.listen Pass.openNode
  intro answer
  cases answer with
  | error cause => exact fun _ h => nomatch h
  | ok handle =>
    refine ((ensures_walk v.target false slotPhys).relay _).bind fun heard ⟨hp, hr⟩ => ?_
    refine Dialogue.ensures_pure fun _ h => ?_
    obtain rfl := Except.ok.inj h
    have hs : slotPhys.Pairwise (· < ·) := by decide
    have hh : heard.Pairwise fun a b => a.phy < b.phy := List.pairwise_map.1 (hs.sublist hp.sublist)
    refine hh.imp_of_mem fun {a b} ha hb hab x y hx hy => ?_
    rw [hr a ha x hx, hr b hb y hy]
    exact hab

theorem reports_listen (v : Visit) (r : Responder (nodes σ) ρ) (st : ρ) :
    (∀ x ∈ reports (v.listen.transcript r st), x.path = v.path ∧ x.kind = v.kind) ∧
      (reports (v.listen.transcript r st)).Pairwise fun x y =>
        x.record.requestedPhy < y.record.requestedPhy := by
  have ho := (ensures_listen v).run r st
  rw [reports, events_listen]
  generalize (v.listen.run r st).1 = told at ho ⊢
  cases told with
  | error cause =>
    exact ⟨by rintro _ ⟨⟩, .nil⟩
  | ok heard =>
    have hf : ∀ (a : PhyAnswer) (x : Report), (Event.told v.path v.kind a).report? = some x →
        x.path = v.path ∧ x.kind = v.kind ∧ a.answer = .ok x.record := by
      rintro ⟨phy, cause | record⟩ x h
      · cases h
      · obtain rfl := Option.some.inj h
        exact ⟨rfl, rfl, rfl⟩
    show (∀ x ∈ (heard.map (Event.told v.path v.kind)).filterMap Event.report?, _) ∧
      ((heard.map (Event.told v.path v.kind)).filterMap Event.report?).Pairwise _
    rw [List.filterMap_map]
    refine ⟨fun x hx => ?_, (ho heard rfl).filterMap _ fun a b hab x hx y hy => ?_⟩
    · obtain ⟨a, -, ha⟩ := List.mem_filterMap.1 hx
      exact ⟨(hf a x ha).1, (hf a x ha).2.1⟩
    · exact hab _ _ (hf a x hx).2.2 (hf b y hy).2.2

theorem inVisitOrder_visitAll (visits : List Visit) (s : Survey) (r : Responder (nodes σ) ρ)
    (st : ρ) : InVisitOrder visits (reports ((visitAll visits s).transcript r st)) := by
  unfold visitAll
  induction visits generalizing s st with
  | nil => rfl
  | cons v rest ih =>
    rw [List.foldlM_cons, Dialogue.transcript_bind, reports_append, Dialogue.transcript_map]
    obtain ⟨hv, hp⟩ := reports_listen v r st
    exact ⟨_, _, rfl, hv, hp, ih _ _⟩

/-! ## A pass -/

theorem visitExpanders_eq (t : Files.Tree) (config : Config) (s : Survey) :
    (visitExpanders t config s : Pass σ _) =
      visitAll ((listNodes t config .bsg).1.map fun path => ⟨path, .bsg, 0⟩)
        (s.note (listNodes t config .bsg).2) :=
  rfl

theorem foldl_take_filter (heard : List Report) (t : Topology) :
    (heard.filter fun x => (t.layout.outside? x.record).isNone).foldl take t =
      heard.foldl take t := by
  induction heard generalizing t with
  | nil => rfl
  | cons x rest ih =>
    have hr := ih (t.take x)
    rw [layout_take] at hr
    rw [List.foldl_cons, ← hr, List.filter_cons]
    cases ho : t.layout.outside? x.record with
    | none => rfl
    | some problem => rw [(take_of_outside t x ho).1]; rfl

/-- After a pass each slot has the last record that told of it, or the one from before where none
did. A record of a bay that the layout does not have changes nothing and brings one problem. -/
theorem bays_keep_last_report (t : Files.Tree) (config : Config) (before : Topology)
    (r : Responder (nodes σ) ρ) (st : ρ) :
    let pass : Pass σ Survey := visitExpanders t config (.start before)
    let heard := reports (pass.transcript r st)
    let after := (pass.run r st).1
    let visits := (listNodes t config .bsg).1.map fun path => (⟨path, .bsg, 0⟩ : Visit)
    InVisitOrder visits heard ∧
    (∀ slot, after.topology.slots.get? slot = (before.slots.get? slot).map fun kept =>
      { kept with
        lastDiscovery :=
          ((lastReport? before.layout slot heard).map (·.record)).or kept.lastDiscovery }) ∧
    after.topology =
      (heard.filter fun x => (before.layout.outside? x.record).isNone).foldl take before ∧
    after.diagnostics = (listNodes t config .bsg).2 ++
      (events (pass.transcript r st)).flatMap (·.problems before) ∧
    (∀ x ∈ heard, ∀ problem, before.layout.outside? x.record = some problem →
      before.problems x = [problem]) ∧
    (∀ slot x, lastReport? before.layout slot heard = some x →
      slot / before.layout.slotsPerExpander = expanderIndex x.record.expanderAddress ∧
      x.record.slotNumber.map (·.toNat) = some (slot % before.layout.slotsPerExpander) ∧
      108 < x.record.responseLength ∧
      ∀ kept, after.topology.slots.get? slot = some kept →
        kept.lastDiscovery = some x.record ∧ kept.phyId = some x.record.phyId) := by
  intro pass heard after visits
  have ht : after.topology = heard.foldl take before := topology_visitAll visits _ r st
  have hs : ∀ slot, after.topology.slots.get? slot = (before.slots.get? slot).map fun kept =>
      { kept with
        lastDiscovery :=
          ((lastReport? before.layout slot heard).map (·.record)).or kept.lastDiscovery } :=
    fun slot => by rw [ht, get?_foldl_take]
  refine ⟨inVisitOrder_visitAll visits _ r st, hs, ?_, diagnostics_visitAll visits _ r st,
    fun x _ problem ho => (take_of_outside before x ho).2, fun slot x hl => ?_⟩
  · rw [ht, foldl_take_filter]
  · obtain ⟨hx, hb⟩ := of_lastReport hl
    obtain ⟨-, number, hn, -, hd, rfl⟩ := Layout.slotTold?_eq_some_iff.1 hb
    refine ⟨Layout.expanderOf_slotOf hd, ?_, long_of_slotTold hx hb, fun kept hk => ?_⟩
    · rw [hn, Option.map_some, Layout.slotOf_mod hd]
    · rw [hs, hl] at hk
      obtain ⟨old, -, rfl⟩ := Option.map_eq_some_iff.1 hk
      exact ⟨rfl, phyId_of_lastReport hx hb rfl⟩

end BayMap.Topology
