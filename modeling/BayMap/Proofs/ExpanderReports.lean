import BayMap.Proofs.FixedNodes
import BayMap.Proofs.PhysAsked

/-!
# What is reported of expanders

A report pass goes through the nodes of a kind, and on each node that opens through its targets. The
parts of its transcript are stated as turns: one for each node, and within it one for each target,
in which every frame goes to that target and the report holds what was told in that turn alone.

* `mem_phyLines_iff`, `address_cases`: the lines and the address of a report.
* `reportsTarget_listen`, `reportsNode_reportNode`: the turn of one target, and that of one node.
* `expanders_reported_once_in_order`: the whole pass.
-/

namespace BayMap.Topology

open Dialogue (Turn)
open Smp (PhyRecord General frames)
open Transport (Kind Conversation LinkQuery link)

variable {σ ρ : Type}

/-! ## What a report holds -/

namespace ExpanderReport

/-- The lines of phys, each with its phy. -/
def phyLines (heard : List PhyAnswer) : List (UInt8 × String) :=
  heard.filterMap fun a => a.line?.map (a.phy, ·)

theorem map_phyLines (heard : List PhyAnswer) :
    (phyLines heard).map (·.2) = heard.filterMap (·.line?) := by
  rw [phyLines, List.map_filterMap]
  congr 1
  funext a
  cases a.line? <;> rfl

theorem pairwise_phyLines {heard : List PhyAnswer} (h : heard.Pairwise fun a b => a.phy < b.phy) :
    ((phyLines heard).map (·.1)).Pairwise (· < ·) := by
  rw [List.pairwise_map, phyLines, List.pairwise_filterMap]
  refine h.imp fun {a b} hab x hx y hy => ?_
  obtain ⟨-, -, rfl⟩ := Option.map_eq_some_iff.1 hx
  obtain ⟨-, -, rfl⟩ := Option.map_eq_some_iff.1 hy
  exact hab

/-- A phy has a line if it is vacant, or if its record sums up to one. -/
theorem mem_phyLines_iff {heard : List PhyAnswer}
    (h : ∀ a ∈ heard, ∀ record, a.answer = .ok record → record.requestedPhy = a.phy) (phy : UInt8)
    (line : String) :
    (phy, line) ∈ phyLines heard ↔
      (⟨phy, .error (.functionResult .phyVacant)⟩ ∈ heard ∧ line = PhyRecord.vacantText phy) ∨
      ∃ record ∈ heard.filterMap (·.answer.toOption),
        record.requestedPhy = phy ∧ record.summary = some line := by
  simp only [phyLines, List.mem_filterMap, Option.map_eq_some_iff, Prod.mk.injEq]
  constructor
  · rintro ⟨⟨_, e | record⟩, ha, _, hl, rfl, rfl⟩
    · obtain ⟨hv, hl⟩ := Option.ite_none_right_eq_some.1 hl
      obtain rfl : e = .functionResult .phyVacant := by simpa [SmpError.saysVacant] using hv
      exact .inl ⟨ha, (Option.some.inj hl).symm⟩
    · exact .inr ⟨record, ⟨_, ha, rfl⟩, h _ ha record rfl, hl⟩
  · rintro (⟨ha, rfl⟩ | ⟨record, ⟨⟨phy', answer⟩, ha, hr⟩, rfl, hl⟩)
    · exact ⟨_, ha, _, rfl, rfl, rfl⟩
    · cases answer with
      | error e => cases hr
      | ok record' =>
        obtain rfl := Option.some.inj hr
        exact ⟨_, ha, line, hl, (h _ ha _ rfl).symm, rfl⟩

/-- The address of a report is that of the last record that tells of one, and zero without such a
record. -/
theorem address_cases (r : ExpanderReport) :
    (r.address = 0 ∧ ∀ record ∈ r.records, record.expanderAddress = 0) ∨
      ∃ before record after, r.records = before ++ record :: after ∧
        record.expanderAddress ≠ 0 ∧ r.address = record.expanderAddress ∧
        ∀ later ∈ after, later.expanderAddress = 0 := by
  unfold address
  -- The last record with an address is the first one of the reversed list.
  rw [List.filter_map, List.getLast?_map, List.getLast?_filter]
  rcases hf : r.records.reverse.find? _ with _ | record
  · refine .inl ⟨rfl, fun record hr => ?_⟩
    have hz := List.find?_eq_none.1 hf record (List.mem_reverse.2 hr)
    simpa using hz
  · obtain ⟨hne, after, before, hsplit, hlater⟩ := List.find?_eq_some_iff_append.1 hf
    refine .inr ⟨before.reverse, record, after.reverse, ?_, ?_, rfl, fun later hl => ?_⟩
    · rw [← List.reverse_reverse r.records, hsplit]
      simp
    · simpa using hne
    · simpa using hlater later (List.mem_reverse.1 hl)

end ExpanderReport

/-! ## The turn of a target -/

theorem requestedPhy_of_mem_phyAnswers {tableToTable : Bool} {told : List (Exchanged link)}
    {a : PhyAnswer} (ha : a ∈ phyAnswers tableToTable told) {record : PhyRecord}
    (h : a.answer = .ok record) : record.requestedPhy = a.phy := by
  obtain ⟨⟨query, answer⟩, -, hq⟩ := List.mem_filterMap.1 ha
  cases query with
  | command => cases hq
  | trace => cases hq
  | smp target request capacity =>
    obtain ⟨-, hd⟩ := Option.ite_none_right_eq_some.1 hq
    obtain rfl := Option.some.inj hd
    cases hr : Smp.reading .discover capacity answer with
    | error cause =>
      rw [hr] at h
      cases h
    | ok response =>
      rw [hr] at h
      obtain rfl := Except.ok.inj h
      rfl

/-- What was heard of an expander that is asked in order is of one phy after another. -/
theorem AsksInOrder.pairwise {bound : Nat} {target : UInt64} {heard : List PhyAnswer}
    {sent : List (UInt64 × Bytes)} (h : AsksInOrder bound target heard sent) :
    heard.Pairwise fun a b => a.phy < b.phy := by
  have hrange := List.pairwise_lt_range (n := heard.length)
  rw [← h.phys, List.pairwise_map] at hrange
  exact hrange.imp UInt8.lt_iff_toNat_lt.2

/-- A report of an expander that said something of itself, as what the exchanges with it told. -/
structure ExpanderReport.Holds (r : ExpanderReport) (general : General)
    (told : List (Exchanged link)) : Prop where
  /-- The records are those that were told. -/
  records : r.records = (phyAnswers general.tableToTable told).filterMap (·.answer.toOption)
  /-- They come in the order of phys, each phy at most once. -/
  order : (r.records.map (·.requestedPhy)).Pairwise (· < ·)
  /-- The lines are that of the enclosure and, in the order of phys, one for each phy that is vacant
  and for each record that sums up to one. -/
  lines : ∃ phyLines : List (UInt8 × String),
    r.lines = ("  Enclosure Logical Identifier: " ++ Text.hex 0 general.enclosureLogicalId.toNat) ::
      phyLines.map (·.2) ∧
    (phyLines.map (·.1)).Pairwise (· < ·) ∧
    ∀ phy line, (phy, line) ∈ phyLines ↔
      (⟨phy, .error (.functionResult .phyVacant)⟩ ∈ phyAnswers general.tableToTable told ∧
        line = PhyRecord.vacantText phy) ∨
      ∃ record ∈ r.records, record.requestedPhy = phy ∧ record.summary = some line
  /-- The address is that of the last record that tells of one. -/
  address : (r.address = 0 ∧ ∀ record ∈ r.records, record.expanderAddress = 0) ∨
    ∃ before record after, r.records = before ++ record :: after ∧ record.expanderAddress ≠ 0 ∧
      r.address = record.expanderAddress ∧ ∀ later ∈ after, later.expanderAddress = 0

/-- What is told in the turn of a target: every frame goes to it, and the report is of it. -/
structure ReportsTarget (path : String) (turn : Turn link (Option UInt64) ExpanderReport) : Prop
    where
  path : turn.result.path = path
  target : turn.result.target = turn.about
  /-- The frames go to the target, which is none over the node of an expander. -/
  frames : ∀ frame ∈ frames turn.told, frame.1 = turn.about.getD 0
  holds : ∀ general, turn.result.general = .ok general → turn.result.Holds general turn.told

theorem holds_of_asksInOrder {path : String} {target : Option UInt64} {general : General}
    {told : List (Exchanged link)} {bound : Nat} {address : UInt64} {sent : List (UInt64 × Bytes)}
    (h : AsksInOrder bound address (phyAnswers general.tableToTable told) sent) :
    (⟨path, target, .ok general, phyAnswers general.tableToTable told⟩ :
      ExpanderReport).Holds general told := by
  have hphy (a : PhyAnswer) (ha : a ∈ phyAnswers general.tableToTable told) (record : PhyRecord)
      (hr : a.answer = .ok record) : record.requestedPhy = a.phy :=
    requestedPhy_of_mem_phyAnswers ha hr
  have hok {a : PhyAnswer} {record : PhyRecord} (hr : a.answer.toOption = some record) :
      a.answer = .ok record := by
    obtain ⟨phy, e | record'⟩ := a
    · cases hr
    · exact congrArg _ (Option.some.inj hr)
  refine ⟨rfl, ?_, ⟨ExpanderReport.phyLines (phyAnswers general.tableToTable told), ?_, ?_, ?_⟩,
    ExpanderReport.address_cases _⟩
  · rw [List.pairwise_map, ExpanderReport.records, List.pairwise_filterMap]
    refine h.pairwise.imp_of_mem fun {a b} ha hb hab x hx y hy => ?_
    rw [hphy a ha x (hok hx), hphy b hb y (hok hy)]
    exact hab
  · rw [ExpanderReport.map_phyLines]
    rfl
  · exact ExpanderReport.pairwise_phyLines h.pairwise
  · exact ExpanderReport.mem_phyLines_iff hphy

/-- The turn of a target, whatever the link answers. -/
theorem reportsTarget_listen (r : Responder link ρ) (st : ρ) (path : String)
    (target : Option UInt64) :
    ReportsTarget path ⟨target, ((ExpanderReport.listen path target).run r st).1,
      (ExpanderReport.listen path target).transcript r st⟩ := by
  obtain ⟨cause, hreport, hframes⟩ | ⟨general, sent, hreport, hframes, horder⟩ :=
    listen_cases r st path target
  · rw [hreport]
    refine ⟨rfl, rfl, fun frame hf => ?_, fun general hg => nomatch hg⟩
    rw [hframes] at hf
    rw [List.mem_singleton.1 hf]
  · rw [hreport]
    refine ⟨rfl, rfl, fun frame hf => ?_, fun general' hg => ?_⟩
    · rw [hframes, horder.sent] at hf
      rcases List.mem_cons.1 hf with rfl | hf
      · rfl
      · obtain ⟨a, -, rfl⟩ := List.mem_map.1 hf
        rfl
    · obtain rfl := Except.ok.inj hg
      exact holds_of_asksInOrder horder

/-! ## The turn of a node -/

/-- The known addresses of expanders, in the order of their indices. -/
def ExpanderTable.addresses (t : ExpanderTable) : List UInt64 :=
  ((List.range t.size).map t.wwid).filter (· ≠ 0)

theorem ExpanderTable.targets_eq (t : ExpanderTable) (kind : Kind) :
    t.targets kind = if kind = .bsg then [none] else t.addresses.map some := by
  have hwwid : (List.range t.size).map t.wwid = t.entries.toList.map (·.wwid) := by
    refine List.ext_getElem (by simp [size]) fun i hi _ => ?_
    have hi : i < t.entries.size := by simpa [size] using hi
    simp [wwid, get?, hi]
  have hfilter : t.addresses = (t.entries.toList.filter fun e => e.wwid ≠ 0).map (·.wwid) := by
    rw [addresses, hwwid, List.filter_map]
    rfl
  cases kind with
  | bsg => rfl
  | mpt | mpi3mr =>
    rw [if_neg (by decide), hfilter, List.map_map]
    rfl

/-- What comes of a node: that it cannot be opened, or once it is open one report for each of some
targets, in their order. -/
inductive ReportsNode (kind : Kind) (targets : List (Option UInt64)) :
    Turn (nodes σ) String (Except TransportError (List ExpanderReport)) → Prop
  | unopened (path : String) (cause : TransportError) :
    ReportsNode kind targets ⟨path, .error cause, [⟨.open path kind, .error cause⟩]⟩
  | opened (path : String) (handle : σ) (turns : List (Turn link (Option UInt64) ExpanderReport))
    (about : turns.map (·.about) = targets) (reports : ∀ turn ∈ turns, ReportsTarget path turn) :
    ReportsNode kind targets ⟨path, .ok (turns.map (·.result)), ⟨.open path kind, .ok handle⟩ ::
      (turns.flatMap (·.told)).map (OpenNode.over ⟨path, kind, handle⟩)⟩

theorem reportsNode_reportNode (r : Responder (nodes σ) ρ) (st : ρ) (kind : Kind)
    (targets : List (Option UInt64)) (path : String) :
    ReportsNode kind targets ⟨path, ((reportNode kind targets path).run r st).1,
      (reportNode kind targets path).transcript r st⟩ := by
  unfold reportNode
  simp only [NodeBehaviour.converse_mapM]
  rw [Dialogue.run_bind, Dialogue.transcript_bind]
  obtain ⟨cause, st', hrun, hopened⟩ | ⟨handle, st', hrun, hopened⟩ := openNode_cases r st path kind
  · rw [hrun, hopened]
    exact .unopened path cause
  · rw [hrun, hopened]
    let node : OpenNode σ := ⟨path, kind, handle⟩
    obtain ⟨turns, habout, hresult, htold, hturns⟩ :=
      Dialogue.exists_turns (node.responder r) (ExpanderReport.listen path) targets st'
    have hreports : ∀ turn ∈ turns, ReportsTarget path turn := by
      intro turn hturn
      obtain ⟨s, hr, ht⟩ := hturns turn hturn
      have h := reportsTarget_listen (node.responder r) s path turn.about
      rwa [← hr, ← ht] at h
    dsimp only
    rw [Dialogue.run_map, Dialogue.transcript_map, run_converse, transcript_converse, hresult, htold]
    exact .opened path handle turns habout hreports

/-! ## The pass -/

/-- The paths of the nodes that were opened, in the order in which they were. -/
def openedPaths (told : List (Exchanged (nodes σ))) : List String :=
  told.filterMap fun
    | ⟨.open path _, .ok _⟩ => some path
    | ⟨.open .., .error _⟩ | ⟨.on .., _⟩ => none

theorem openedPaths_over (node : OpenNode σ) (told : List (Exchanged link)) :
    openedPaths (told.map node.over) = [] := by
  rw [openedPaths, List.filterMap_map]
  exact List.filterMap_eq_nil_iff.2 fun _ _ => rfl

/-- A node that opens is reported with each of the targets, and one that does not with none. -/
theorem ReportsNode.reported {kind : Kind} {targets : List (Option UInt64)}
    {turn : Turn (nodes σ) String (Except TransportError (List ExpanderReport))}
    (h : ReportsNode kind targets turn) :
    (turn.result.toOption.getD []).map (fun report => (report.path, report.target)) =
      (openedPaths turn.told).flatMap fun path => targets.map (path, ·) := by
  cases h with
  | unopened path cause => rfl
  | opened path handle turns about reports =>
    have hopened : openedPaths (⟨.open path kind, .ok handle⟩ ::
        (turns.flatMap (·.told)).map (OpenNode.over ⟨path, kind, handle⟩)) = [path] :=
      congrArg (path :: ·) (openedPaths_over _ _)
    rw [hopened, List.flatMap_singleton, ← about, List.map_map]
    show (turns.map (·.result)).map _ = _
    rw [List.map_map]
    refine List.map_congr_left fun turn hturn => ?_
    have hreport := reports turn hturn
    exact Prod.ext hreport.path hreport.target

/-- A report pass takes the nodes of its kind in the order of their listing, and reports each node
that opens: once without a target if it is the node of an expander, and else once for each expander
with a known address, in the order of their indices. Its transcript is made of the turns of the
nodes, and theirs of the turns of their targets, in which all frames go to the target and the report
holds what was told. -/
theorem expanders_reported_once_in_order (t : Files.Tree) (config : Config) (kind : Kind)
    (expanders : ExpanderTable) (r : Responder (nodes σ) ρ) (st : ρ) :
    let pass : Pass σ _ := reportThrough t config kind expanders
    let targets := if kind = .bsg then [none] else expanders.addresses.map some
    let reports := (pass.run r st).1.1
    reports.map (fun report => (report.path, report.target)) =
      (openedPaths (pass.transcript r st)).flatMap (fun path => targets.map (path, ·)) ∧
    ∃ turns : List (Turn (nodes σ) String (Except TransportError (List ExpanderReport))),
      turns.map (·.about) = (listNodes t config kind).1 ∧
      pass.transcript r st = turns.flatMap (·.told) ∧
      reports = turns.flatMap (·.result.toOption.getD []) ∧
      ∀ turn ∈ turns, ReportsNode kind targets turn := by
  intro pass targets reports
  obtain ⟨turns, habout, hresult, htold, hturns⟩ :=
    Dialogue.exists_turns r (reportNode (σ := σ) kind (expanders.targets kind))
      (listNodes t config kind).1 st
  have hnodes : ∀ turn ∈ turns, ReportsNode kind targets turn := by
    intro turn hturn
    obtain ⟨s, hr, ht⟩ := hturns turn hturn
    have h := reportsNode_reportNode r s kind (expanders.targets kind) turn.about
    rwa [← hr, ← ht, expanders.targets_eq] at h
  have htranscript : pass.transcript r st = turns.flatMap (·.told) :=
    (Dialogue.transcript_map r _ _ st).trans htold
  have hgathered : (gatherReports (turns.map (·.result))).1 =
      turns.flatMap (·.result.toOption.getD []) := by
    show (turns.map (·.result)).flatMap _ = _
    rw [List.flatMap_map]
    refine List.flatMap_congr fun turn _ => ?_
    cases turn.result <;> rfl
  have hreports : reports = turns.flatMap (·.result.toOption.getD []) := by
    have hrun : pass.run r st = _ := Dialogue.run_map r _ _ st
    rw [← hgathered, ← hresult]
    show (pass.run r st).1.1 = _
    rw [hrun]
    rfl
  refine ⟨?_, turns, habout, htranscript, hreports, hnodes⟩
  rw [htranscript, hreports, openedPaths, List.filterMap_flatMap, List.map_flatMap,
    List.flatMap_assoc]
  exact List.flatMap_congr fun turn hturn => (hnodes turn hturn).reported

end BayMap.Topology
