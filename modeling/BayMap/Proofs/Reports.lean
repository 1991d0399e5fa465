import BayMap.Proofs.Hearing

/-!
# What a topology takes from reports

A report is a record that an expander gave of a phy, with the node it came over. A record tells of
a bay (`bay?`), or of a host that the phy is attached to (`hostName?`), or of nothing that is kept.

* `take_cases`: all that taking a report does to a topology.
* `problems_eq`: the problems of a report, which do not depend on the reports before it.
* `topology_visitAll`, `diagnostics_visitAll`: what visits bring is what the reports and the other
  events that their exchanges tell bring, one after another.
* `decoded_of_mem_reports`, `visit_of_mem_reports`: where a report comes from.
-/

namespace BayMap.Smp.PhyRecord

/-- The phy is attached to an initiator. -/
def atInitiator (r : PhyRecord) : Bool := r.attached.any (·.isInitiator)

/-- The device name of the host that the phy is attached to. A name of zero is none. -/
def hostName? (r : PhyRecord) : Option UInt64 :=
  if r.atInitiator then (r.attached.bind (·.deviceName)).filter (· ≠ 0) else none

theorem atInitiator_of_host {r : PhyRecord} {name : UInt64} (h : r.hostName? = some name) :
    r.atInitiator = true := by
  unfold hostName? at h
  split at h
  · assumption
  · cases h

end BayMap.Smp.PhyRecord

namespace BayMap.Topology

open Smp (PhyRecord)
open Transport (Kind Conversation)

variable {σ ρ α : Type}

/-- The expander and the number of the bay that a record tells of. A phy that is attached to an
initiator has none. -/
def bay? (r : PhyRecord) : Option (Nat × Nat) :=
  if r.atInitiator then none
  else r.slotNumber.map fun n => (expanderIndex r.expanderAddress, n.toNat)

namespace Layout

/-- The layout has a bay. -/
def Has (l : Layout) (bay : Nat × Nat) : Prop :=
  bay.1 < l.expanders ∧ bay.2 < l.slotsPerExpander

instance (l : Layout) (bay : Nat × Nat) : Decidable (l.Has bay) :=
  inferInstanceAs (Decidable (_ ∧ _))

/-- The slot of the bay that a record tells of, where the layout has that bay. -/
def slotTold? (l : Layout) (r : PhyRecord) : Option Nat :=
  (bay? r).bind fun bay => if l.Has bay then some (l.slotOf bay.1 bay.2) else none

/-- The problem with a record that tells of a bay that the layout does not have. -/
def outside? (l : Layout) (r : PhyRecord) : Option Diagnostic :=
  (bay? r).bind fun bay =>
    if l.Has bay then none else some (.outsideTable r.phyId r.expanderAddress bay.2)

end Layout

/-! ## One record -/

/-- An expander once it is bound to the node that told of its link to the host. -/
def Expander.linked (path : String) (kind : Kind) (name : UInt64) (record : PhyRecord)
    (e : Expander) : Expander :=
  { e.withWwid record.expanderAddress with
    binding := some (.ofNode path kind)
    hostLink := some ⟨name, record⟩ }

namespace Survey

variable (s : Survey) (path : String) (kind : Kind) (record : PhyRecord)

theorem takeRecord_eq :
    s.takeRecord path kind record =
      if record.atInitiator then
        match record.hostName? with
        | some name => s.takeHostLink path kind name record
        | none => s
      else s.takeBay record := by
  unfold takeRecord PhyRecord.hostName? PhyRecord.atInitiator
  cases record.attached with
  | none => rfl
  | some attached =>
    by_cases hi : attached.isInitiator = true
    · cases hd : attached.deviceName with
      | none => simp [hi, hd]
      | some name =>
        by_cases h0 : name = 0
        · simp [hi, hd, h0, Option.filter]
        · simp [hi, hd, h0, Option.filter]
    · simp [hi]

variable {record}

theorem takeRecord_of_bay {bay : Nat × Nat} (h : bay? record = some bay) :
    s.takeRecord path kind record =
      if s.topology.layout.Has bay then
        { s with topology := { s.topology with
            slots := s.topology.slots.setRecord (s.topology.layout.slotOf bay.1 bay.2) record } }
      else s.note [.outsideTable record.phyId record.expanderAddress bay.2] := by
  unfold bay? at h
  split at h
  · cases h
  · rename_i hi
    obtain ⟨number, hn, rfl⟩ := Option.map_eq_some_iff.1 h
    rw [takeRecord_eq, if_neg hi, takeBay, hn]
    rfl

theorem takeRecord_of_host {name : UInt64} (h : record.hostName? = some name) :
    s.takeRecord path kind record = s.takeHostLink path kind name record := by
  rw [takeRecord_eq, if_pos (PhyRecord.atInitiator_of_host h), h]

theorem takeRecord_of_neither (hb : bay? record = none) (hh : record.hostName? = none) :
    s.takeRecord path kind record = s := by
  rw [takeRecord_eq, hh]
  split
  · rfl
  · rename_i hi
    rw [bay?, if_neg hi, Option.map_eq_none_iff] at hb
    rw [takeBay, hb]

theorem takeHostLink_eq (name : UInt64) (record : PhyRecord) :
    s.takeHostLink path kind name record =
      if ((s.topology.expanders.get? (expanderIndex record.expanderAddress)).bind
          (·.hostLink)).isSome then s
      else
        match s.topology.expanders.change? (expanderIndex record.expanderAddress)
            (Expander.linked path kind name record) with
        | some expanders => { s with topology := { s.topology with expanders } }
        | none => s.note [.unregistered path (expanderIndex record.expanderAddress)] :=
  rfl

/-- A link to the host is only taken for an expander of the table that has none yet. -/
theorem takeHostLink_cases (name : UInt64) (record : PhyRecord) :
    (∃ e link, s.topology.expanders.get? (expanderIndex record.expanderAddress) = some e ∧
      e.hostLink = some link ∧ s.takeHostLink path kind name record = s) ∨
    (∃ e u, s.topology.expanders.get? (expanderIndex record.expanderAddress) = some e ∧
      e.hostLink = none ∧
      s.topology.expanders.change? (expanderIndex record.expanderAddress)
        (Expander.linked path kind name record) = some u ∧
      s.takeHostLink path kind name record =
        { s with topology := { s.topology with expanders := u } }) ∨
    (s.topology.expanders.get? (expanderIndex record.expanderAddress) = none ∧
      s.takeHostLink path kind name record =
        s.note [.unregistered path (expanderIndex record.expanderAddress)]) := by
  rw [takeHostLink_eq]
  generalize expanderIndex record.expanderAddress = index
  cases hg : s.topology.expanders.get? index with
  | none =>
    rw [ExpanderTable.change?_eq_none_iff.2 hg]
    exact .inr (.inr ⟨rfl, rfl⟩)
  | some e =>
    rw [Option.bind_some]
    cases hl : e.hostLink with
    | some link => exact .inl ⟨e, link, rfl, hl, rfl⟩
    | none =>
      cases hu : s.topology.expanders.change? index (Expander.linked path kind name record) with
      | none =>
        rw [ExpanderTable.change?_eq_none_iff, hg] at hu
        cases hu
      | some u => exact .inr (.inl ⟨e, u, rfl, hl, rfl, rfl⟩)

end Survey

/-! ## Reports one after another -/

/-- A record of a phy, with the node it came over. -/
structure Report where
  /-- The path of the node. -/
  path : String
  /-- The kind of the node. -/
  kind : Kind
  /-- The record. -/
  record : PhyRecord

/-- The device name of the host that the report links the expander at an index to. -/
def Report.hostAt? (x : Report) (index : Nat) : Option UInt64 :=
  if expanderIndex x.record.expanderAddress = index then x.record.hostName? else none

/-- The expander at an index once a report is taken. The first link to a host stays. -/
def Expander.takeLink (index : Nat) (e : Expander) (x : Report) : Expander :=
  match x.hostAt? index with
  | none => e
  | some name => if e.hostLink.isSome then e else e.linked x.path x.kind name x.record

/-- The report that an event is, where it is one. -/
def Event.report? : Event → Option Report
  | .told path kind ⟨_, .ok record⟩ => some ⟨path, kind, record⟩
  | .told _ _ ⟨_, .error _⟩ | .unopened _ => none

/-- The reports that exchanges bring. -/
def reports (told : List (Exchanged (nodes σ))) : List Report :=
  (events told).filterMap Event.report?

/-- A topology once a report is taken. -/
def take (t : Topology) (x : Report) : Topology :=
  ((Survey.start t).takeRecord x.path x.kind x.record).topology

/-- The problems that a report brings. -/
def problems (t : Topology) (x : Report) : List Diagnostic :=
  ((Survey.start t).takeRecord x.path x.kind x.record).diagnostics

/-- What is known does not depend on the problems met so far, which stay. -/
theorem takeRecord_eq_take (s : Survey) (path : String) (kind : Kind) (record : PhyRecord) :
    s.takeRecord path kind record =
      ⟨s.topology.take ⟨path, kind, record⟩,
        s.diagnostics ++ s.topology.problems ⟨path, kind, record⟩⟩ := by
  unfold take problems
  obtain ⟨t, before⟩ := s
  simp only [Survey.start, Survey.takeRecord_eq, Survey.takeHostLink_eq, Survey.takeBay]
  repeat' split
  all_goals simp_all [Survey.note]

section Taking

variable (t : Topology) (x : Report)

theorem take_of_slotTold {slot : Nat} (h : t.layout.slotTold? x.record = some slot) :
    t.take x = { t with slots := t.slots.setRecord slot x.record } ∧ t.problems x = [] := by
  unfold take problems
  obtain ⟨bay, hb, hs⟩ := Option.bind_eq_some_iff.1 h
  rw [Survey.takeRecord_of_bay _ _ _ hb]
  show (if t.layout.Has bay then _ else _ : Survey).topology = _ ∧
    (if t.layout.Has bay then _ else _ : Survey).diagnostics = _
  split at hs
  · rename_i hl
    obtain rfl := Option.some.inj hs
    rw [if_pos hl]
    exact ⟨rfl, rfl⟩
  · cases hs

/-- A record of a bay that the layout does not have changes nothing, and is noted once. -/
theorem take_of_outside {problem : Diagnostic} (h : t.layout.outside? x.record = some problem) :
    t.take x = t ∧ t.problems x = [problem] := by
  unfold take problems
  obtain ⟨bay, hb, hs⟩ := Option.bind_eq_some_iff.1 h
  rw [Survey.takeRecord_of_bay _ _ _ hb]
  show (if t.layout.Has bay then _ else _ : Survey).topology = _ ∧
    (if t.layout.Has bay then _ else _ : Survey).diagnostics = _
  split at hs
  · cases hs
  · rename_i hl
    obtain rfl := Option.some.inj hs
    rw [if_neg hl]
    exact ⟨rfl, rfl⟩

theorem bay?_of_host {record : PhyRecord} {name : UInt64} (h : record.hostName? = some name) :
    bay? record = none := by
  rw [bay?, if_pos (PhyRecord.atInitiator_of_host h)]

theorem hostName?_of_slotTold {l : Layout} {record : PhyRecord} {slot : Nat}
    (h : l.slotTold? record = some slot) : record.hostName? = none := by
  cases hh : record.hostName? with
  | none => rfl
  | some name =>
    rw [Layout.slotTold?, bay?_of_host hh] at h
    cases h

/-- All that taking a report does to a topology. -/
theorem take_cases :
    (∃ slot, t.layout.slotTold? x.record = some slot ∧
      t.take x = { t with slots := t.slots.setRecord slot x.record }) ∨
    (∃ name e u, x.record.hostName? = some name ∧
      t.expanders.get? (expanderIndex x.record.expanderAddress) = some e ∧ e.hostLink = none ∧
      t.expanders.change? (expanderIndex x.record.expanderAddress)
        (Expander.linked x.path x.kind name x.record) = some u ∧
      t.take x = { t with expanders := u }) ∨
    (t.layout.slotTold? x.record = none ∧
      (x.record.hostName?.isSome → ∀ e,
        t.expanders.get? (expanderIndex x.record.expanderAddress) = some e → e.hostLink.isSome) ∧
      t.take x = t) := by
  cases hs : t.layout.slotTold? x.record with
  | some slot => exact .inl ⟨slot, rfl, (take_of_slotTold t x hs).1⟩
  | none =>
    refine .inr ?_
    cases hh : x.record.hostName? with
    | none =>
      refine .inr ⟨rfl, fun h => (nomatch h), ?_⟩
      cases ho : t.layout.outside? x.record with
      | some problem => exact (take_of_outside t x ho).1
      | none =>
        have hb : bay? x.record = none := by
          cases hb : bay? x.record with
          | none => rfl
          | some bay =>
            simp only [Layout.slotTold?, Layout.outside?, hb, Option.bind_some] at hs ho
            split at hs <;> simp_all
        rw [take, Survey.takeRecord_of_neither _ _ _ hb hh]
        rfl
    | some name =>
      rw [take, Survey.takeRecord_of_host _ _ _ hh]
      obtain ⟨e, link, hg, hl, h⟩ | ⟨e, u, hg, hl, hu, h⟩ | ⟨hg, h⟩ :=
        (Survey.start t).takeHostLink_cases x.path x.kind name x.record
      · refine .inr ⟨rfl, fun _ e' he' => ?_, by rw [h]; rfl⟩
        obtain rfl := Option.some.inj (hg.symm.trans he')
        rw [hl]
        rfl
      · exact .inl ⟨name, e, u, rfl, hg, hl, hu, by rw [h]; rfl⟩
      · exact .inr ⟨rfl, fun _ e' he' => (nomatch hg.symm.trans he'), by rw [h]; rfl⟩

/-- What taking a report does to an expander. -/
theorem get?_expanders_take (index : Nat) :
    (t.take x).expanders.get? index = (t.expanders.get? index).map (·.takeLink index x) := by
  obtain ⟨slot, hs, h⟩ | ⟨name, e, u, hh, hg, hl, hu, h⟩ | ⟨-, hh, h⟩ := take_cases t x
  · have hn : x.hostAt? index = none := by
      rw [Report.hostAt?, hostName?_of_slotTold hs, ite_self]
    rw [h]
    simp only [Expander.takeLink, hn, Option.map_id']
  · rw [h, ExpanderTable.get?_change? hu]
    by_cases hi : index = expanderIndex x.record.expanderAddress
    · subst hi
      have hn : x.hostAt? (expanderIndex x.record.expanderAddress) = some name := by
        rw [Report.hostAt?, if_pos rfl, hh]
      rw [if_pos rfl, hg, Option.map_some, Option.map_some, Expander.takeLink, hn, hl]
      rfl
    · have hn : x.hostAt? index = none := if_neg (Ne.symm hi)
      rw [if_neg hi]
      simp only [Expander.takeLink, hn, Option.map_id']
  · rw [h]
    cases hg : t.expanders.get? index with
    | none => rfl
    | some e =>
      rw [Option.map_some, Expander.takeLink]
      cases hn : x.hostAt? index with
      | none => rfl
      | some name =>
        obtain ⟨rfl, hname⟩ := Option.ite_none_right_eq_some.1 hn
        have hl := hh (Option.isSome_of_mem hname) e hg
        simp only [if_pos hl]

/-- Taking a report keeps the layout. -/
@[simp] theorem layout_take : (t.take x).layout = t.layout := by
  obtain ⟨slot, -, h⟩ | ⟨name, e, u, -, -, -, -, h⟩ | ⟨-, -, h⟩ := take_cases t x <;> rw [h]

@[simp] theorem layout_foldl_take (heard : List Report) :
    (heard.foldl take t).layout = t.layout := by
  induction heard generalizing t with
  | nil => rfl
  | cons x rest ih => rw [List.foldl_cons, ih, layout_take]

@[simp] theorem size_expanders_take : (t.take x).expanders.size = t.expanders.size := by
  obtain ⟨slot, -, h⟩ | ⟨name, e, u, -, -, -, hu, h⟩ | ⟨-, -, h⟩ := take_cases t x <;> rw [h]
  exact ExpanderTable.size_change? hu

/-- The problem with a report of a link to the host whose expander the table does not have. -/
def unregistered? : Option Diagnostic :=
  x.record.hostName?.bind fun _ =>
    let index := expanderIndex x.record.expanderAddress
    if index < t.expanders.size then none else some (.unregistered x.path index)

theorem problems_eq :
    t.problems x = (t.layout.outside? x.record).toList ++ (t.unregistered? x).toList := by
  cases hb : bay? x.record with
  | some bay =>
    have hh : x.record.hostName? = none := by
      cases hh : x.record.hostName? with
      | none => rfl
      | some name => cases hb.symm.trans (bay?_of_host hh)
    rw [unregistered?, hh]
    cases ho : t.layout.outside? x.record with
    | some problem => exact (take_of_outside t x ho).2
    | none =>
      have hl : t.layout.Has bay := by
        rw [Layout.outside?, hb] at ho
        exact Decidable.of_not_not fun hl => nomatch (if_neg hl).symm.trans ho
      have hs : t.layout.slotTold? x.record = some (t.layout.slotOf bay.1 bay.2) := by
        rw [Layout.slotTold?, hb]
        exact if_pos hl
      exact (take_of_slotTold t x hs).2
  | none =>
    have ho : t.layout.outside? x.record = none := by
      rw [Layout.outside?, hb]
      rfl
    rw [ho, problems, unregistered?]
    cases hh : x.record.hostName? with
    | none =>
      rw [Survey.takeRecord_of_neither _ _ _ hb hh]
      rfl
    | some name =>
      rw [Survey.takeRecord_of_host _ _ _ hh, Option.bind_some]
      obtain ⟨e, link, hg, hl, h⟩ | ⟨e, u, hg, hl, hu, h⟩ | ⟨hg, h⟩ :=
        (Survey.start t).takeHostLink_cases x.path x.kind name x.record
      · have hlt : expanderIndex x.record.expanderAddress < t.expanders.size :=
          ExpanderTable.get?_isSome_iff.1 (Option.isSome_of_mem hg)
        rw [h, if_pos hlt]
        rfl
      · have hlt : expanderIndex x.record.expanderAddress < t.expanders.size :=
          ExpanderTable.get?_isSome_iff.1 (Option.isSome_of_mem hg)
        rw [h, if_pos hlt]
        rfl
      · have hge : ¬ expanderIndex x.record.expanderAddress < t.expanders.size :=
          Nat.not_lt.2 (ExpanderTable.get?_eq_none_iff.1 hg)
        rw [h, if_neg hge]
        rfl

/-- Which problems a report brings does not depend on the reports before it. -/
theorem problems_take (y : Report) : (t.take x).problems y = t.problems y := by
  rw [problems_eq, problems_eq, unregistered?, unregistered?, layout_take, size_expanders_take]

end Taking

/-- The problems that an event brings, the first of them where it is no report. -/
def Event.problems (t : Topology) : Event → List Diagnostic
  | .unopened cause => [.nodeUnopened cause]
  | .told path kind ⟨_, .ok record⟩ => Topology.problems t ⟨path, kind, record⟩
  | .told path _ ⟨phy, .error cause⟩ =>
    ((⟨phy, .error cause⟩ : PhyAnswer).diagnostic? path).toList

/-- What is learned from a node changes the topology only where it is a report. -/
theorem takeEvent_eq (s : Survey) (e : Event) :
    s.takeEvent e = ⟨e.report?.toList.foldl take s.topology,
      s.diagnostics ++ e.problems s.topology⟩ := by
  obtain cause | ⟨path, kind, phy, answer⟩ := e
  · rfl
  · cases answer with
    | error cause => rfl
    | ok record => exact takeRecord_eq_take s path kind record

theorem topology_foldl_takeEvent (es : List Event) (s : Survey) :
    (es.foldl Survey.takeEvent s).topology =
      (es.filterMap Event.report?).foldl take s.topology := by
  induction es generalizing s with
  | nil => rfl
  | cons e rest ih =>
    rw [List.foldl_cons, ih, takeEvent_eq, List.filterMap_cons]
    cases e.report? <;> rfl

theorem problems_event_take (e : Event) (t : Topology) (x : Report) :
    e.problems (t.take x) = e.problems t := by
  obtain cause | ⟨path, kind, phy, answer⟩ := e
  · rfl
  · cases answer with
    | error cause => rfl
    | ok record => exact problems_take t x ⟨path, kind, record⟩

/-- The problems of visits are those that the events bring, each event for itself. -/
theorem diagnostics_foldl_takeEvent (es : List Event) (s : Survey) :
    (es.foldl Survey.takeEvent s).diagnostics =
      s.diagnostics ++ es.flatMap (·.problems s.topology) := by
  induction es generalizing s with
  | nil => exact (List.append_nil _).symm
  | cons e rest ih =>
    rw [List.foldl_cons, ih, takeEvent_eq, List.flatMap_cons, List.append_assoc]
    cases e.report? with
    | none => rfl
    | some x =>
      have hp : (fun y : Event => y.problems (s.topology.take x)) = (·.problems s.topology) :=
        funext fun y => problems_event_take y s.topology x
      show _ ++ (_ ++ rest.flatMap fun y => y.problems (s.topology.take x)) = _
      rw [hp]

/-- What visits do to a topology is what the reports that their exchanges bring do to it. -/
theorem topology_visitAll (visits : List Visit) (s : Survey) (r : Responder (nodes σ) ρ) (st : ρ) :
    ((visitAll visits s).run r st).1.topology =
      (reports ((visitAll visits s).transcript r st)).foldl take s.topology := by
  rw [run_visitAll, topology_foldl_takeEvent, reports]

theorem diagnostics_visitAll (visits : List Visit) (s : Survey) (r : Responder (nodes σ) ρ)
    (st : ρ) :
    ((visitAll visits s).run r st).1.diagnostics =
      s.diagnostics ++
        (events ((visitAll visits s).transcript r st)).flatMap (·.problems s.topology) := by
  rw [run_visitAll, diagnostics_foldl_takeEvent]

/-! ## Where reports come from -/

/-- A report is the answer, read and decoded, to a request over a node. -/
theorem exchanged_of_mem_reports {told : List (Exchanged (nodes σ))} {x : Report}
    (h : x ∈ reports told) :
    ∃ e ∈ told, (∃ handle query, e.1 = .on ⟨x.path, x.kind, handle⟩ query) ∧
      ∃ phy response, x.record = PhyRecord.decode phy response false := by
  obtain ⟨ev, hev, hx⟩ := List.mem_filterMap.1 h
  obtain ⟨e, he, hq⟩ := List.mem_filterMap.1 hev
  refine ⟨e, he, ?_⟩
  obtain ⟨path | ⟨⟨path, kind, handle⟩, query⟩, answer⟩ := e
  · cases answer with
    | error cause =>
      obtain rfl := Option.some.inj hq
      cases hx
    | ok handle => cases hq
  · obtain ⟨heard, hp, rfl⟩ := Option.map_eq_some_iff.1 hq
    cases query with
    | command => cases hp
    | trace => cases hp
    | smp target request capacity =>
      obtain ⟨-, hd⟩ := Option.ite_none_right_eq_some.1 hp
      obtain rfl := Option.some.inj hd
      cases hr : Smp.reading .discover capacity answer with
      | error cause => simp [Event.report?, hr, Except.map] at hx
      | ok response =>
        simp only [Event.report?, hr, Except.map, Option.some.injEq] at hx
        subst hx
        exact ⟨⟨handle, _, rfl⟩, _, response, rfl⟩

theorem decoded_of_mem_reports {told : List (Exchanged (nodes σ))} {x : Report}
    (h : x ∈ reports told) : ∃ phy response, x.record = PhyRecord.decode phy response false := by
  obtain ⟨-, -, -, hx⟩ := exchanged_of_mem_reports h
  exact hx

/-- What is put to the node of a visit. -/
def Visit.Concerns (v : Visit) : NodeQuery σ → Prop
  | .open path kind => path = v.path ∧ kind = v.kind
  | .on node _ => node.path = v.path ∧ node.kind = v.kind

theorem asks_listen (v : Visit) : (v.listen : Pass σ _).Asks v.Concerns := by
  unfold Visit.listen Pass.openNode
  refine ⟨⟨rfl, rfl⟩, fun answer => ?_⟩
  cases answer with
  | error cause => trivial
  | ok handle => exact (asks_converse (fun _ _ => ⟨rfl, rfl⟩) (Dialogue.asks_true _)).map _

theorem asks_visitAll (visits : List Visit) (s : Survey) :
    (visitAll visits s : Pass σ _).Asks fun q => ∃ v ∈ visits, v.Concerns q :=
  Dialogue.asks_foldlM (fun _ v hv =>
    ((asks_listen v).mono fun _ hq => ⟨v, hv, hq⟩).map _) s

/-- A report comes over the node of a visit. -/
theorem visit_of_mem_reports {visits : List Visit} {s : Survey} {r : Responder (nodes σ) ρ} {st : ρ}
    {x : Report} (h : x ∈ reports ((visitAll visits s).transcript r st)) :
    ∃ v ∈ visits, x.path = v.path ∧ x.kind = v.kind := by
  obtain ⟨e, he, ⟨handle, query, hq⟩, -⟩ := exchanged_of_mem_reports h
  obtain ⟨v, hv, hc⟩ := (asks_visitAll visits s).of_mem_transcript r st e he
  rw [hq] at hc
  exact ⟨v, hv, hc⟩

end BayMap.Topology
