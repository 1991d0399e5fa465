import BayMap.Proofs.LastReport
import BayMap.Topology.ExpanderReport
import Mathlib.Data.List.Forall2

/-!
# Which phys are asked about

Slot discovery and expander reports go through the phys of an expander in one loop. It asks about
one phy after another and never about a phy twice. Before its bound it ends only where the phy does
not exist or where the node fails, and a phy that fails in another way costs that phy alone.

* `isLast_iff`: which answers end a walk.
* `run_walk`, `frames_walk`: which phys a walk asks about.
* `tellsOfFailure_diagnostics`: a failed exchange about a phy brings one problem.
* `walks_ask_contiguous_phys`: all this for both users of the loop, with every responder.
-/

namespace BayMap.Topology

open Smp (PhyRecord General frames)
open Transport (Conversation LinkQuery link)

variable {ρ : Type}

/-! ## Answers -/

namespace PhyAnswer

/-- The exchange about a phy ended in one of the three ways that end a walk: the phy does not exist,
the node could not carry the request, or the kernel reports a failure. -/
def Ends (a : PhyAnswer) : Prop :=
  a.answer = .error (.functionResult .noPhy) ∨ (∃ cause, a.answer = .error (.transport cause)) ∨
    ∃ status, a.answer = .error (.transportStatus status)

theorem isLast_iff (a : PhyAnswer) : a.isLast = true ↔ a.Ends := by
  obtain ⟨phy, e | record⟩ := a
  · cases e <;> simp [isLast, Ends, SmpError.saysNoPhy]
  · simp [isLast, Ends]

instance : DecidablePred Ends := fun a => decidable_of_iff _ a.isLast_iff

/-- The exchange about a phy failed, and not because the phy does not exist or is vacant. -/
def Failed (a : PhyAnswer) : Prop :=
  ∃ e, a.answer = .error e ∧ e ≠ .functionResult .noPhy ∧ e ≠ .functionResult .phyVacant

theorem failed_iff (a : PhyAnswer) (path : String) : a.Failed ↔ (a.diagnostic? path).isSome := by
  obtain ⟨phy, e | record⟩ := a
  · have hquiet : (e.saysNoPhy || e.saysVacant) = true ↔
        e = .functionResult .noPhy ∨ e = .functionResult .phyVacant := by
      simp [SmpError.saysNoPhy, SmpError.saysVacant]
    have hfailed : (⟨phy, .error e⟩ : PhyAnswer).Failed ↔
        ¬ (e = .functionResult .noPhy ∨ e = .functionResult .phyVacant) := by
      simp [Failed]
    rw [hfailed, ← hquiet]
    by_cases hq : (e.saysNoPhy || e.saysVacant) = true
    · have hd : diagnostic? path ⟨phy, .error e⟩ = none := if_pos hq
      simp [hd, hq]
    · have hd : diagnostic? path ⟨phy, .error e⟩ = _ := if_neg hq
      rw [hd]
      cases e <;> simp [hq]
  · simp [Failed, diagnostic?]

instance : DecidablePred Failed := fun a => decidable_of_iff _ (a.failed_iff "").symm

end PhyAnswer

/-- A problem tells of a failed exchange about a phy: that the expander refuses, with its result, or
that nothing was told, with the cause. -/
inductive TellsOfFailure (path : String) : PhyAnswer → Diagnostic → Prop
  | refused (phy : UInt8) (result : Smp.FunctionResult) :
    TellsOfFailure path ⟨phy, .error (.functionResult result)⟩ (.phyRefused path phy result)
  | failed (phy : UInt8) (cause : SmpError) (h : ∀ result, cause ≠ .functionResult result) :
    TellsOfFailure path ⟨phy, .error cause⟩ (.phyFailed path phy cause)

theorem tellsOfFailure_diagnostic {path : String} {a : PhyAnswer} {problem : Diagnostic}
    (h : a.diagnostic? path = some problem) : TellsOfFailure path a problem := by
  obtain ⟨phy, e | record⟩ := a
  · obtain ⟨-, h⟩ := Option.ite_none_left_eq_some.1 h
    cases e with
    | functionResult result =>
      obtain rfl := Option.some.inj h
      exact .refused phy result
    | transport | transportStatus | malformed | lengthMismatch | resource =>
      obtain rfl := Option.some.inj h
      exact .failed phy _ fun _ h => nomatch h
  · cases h

/-- Each failed exchange brings one problem, in its place, and the other exchanges bring none. -/
theorem tellsOfFailure_diagnostics (path : String) (heard : List PhyAnswer) :
    List.Forall₂ (TellsOfFailure path) (heard.filter (·.Failed))
      (heard.filterMap (·.diagnostic? path)) := by
  induction heard with
  | nil => exact .nil
  | cons a rest ih =>
    rw [List.filter_cons, List.filterMap_cons]
    rcases hd : a.diagnostic? path with _ | problem
    · have hf : ¬ a.Failed := by rw [a.failed_iff path, hd]; simp
      rw [if_neg (by simpa using hf)]
      exact ih
    · have hf : a.Failed := by rw [a.failed_iff path, hd]; rfl
      rw [if_pos (by simpa using hf)]
      exact .cons (tellsOfFailure_diagnostic hd) ih

/-! ## The loop -/

/-- A walk ends at its bound or with the first answer that ends it. -/
theorem ensures_walk_length (target : UInt64) (tableToTable : Bool) (asked : List UInt8) :
    (walk target tableToTable asked).Ensures fun heard =>
      heard.length = ((heard.findIdx? (·.Ends)).map (· + 1)).getD asked.length := by
  induction asked with
  | nil => exact rfl
  | cons phy rest ih =>
    rw [walk]
    refine Dialogue.ensures_bind _ fun answer => ?_
    by_cases hl : (⟨phy, answer⟩ : PhyAnswer).isLast = true
    · have he : (⟨phy, answer⟩ : PhyAnswer).Ends := (PhyAnswer.isLast_iff _).1 hl
      simp only [if_pos hl]
      refine Dialogue.ensures_pure ?_
      simp [List.findIdx?_cons, he]
    · have he : ¬ (⟨phy, answer⟩ : PhyAnswer).Ends := mt (PhyAnswer.isLast_iff _).2 hl
      simp only [if_neg hl]
      refine ih.bind fun heard hh => Dialogue.ensures_pure ?_
      simp only [List.findIdx?_cons, he, decide_false, List.length_cons, hh]
      cases heard.findIdx? (·.Ends) <;> simp

theorem frames_ask (r : Responder link ρ) (s : ρ) (target : UInt64) (phy : UInt8)
    (tableToTable : Bool) :
    frames ((PhyRecord.ask target phy tableToTable).transcript r s) =
      [(target, PhyRecord.request phy)] := by
  unfold PhyRecord.ask
  rw [Dialogue.transcript_map]
  exact Smp.frames_exchange r s target .discover _ (by decide)

theorem frames_walk (r : Responder link ρ) (s : ρ) (target : UInt64) (tableToTable : Bool)
    (asked : List UInt8) :
    frames ((walk target tableToTable asked).transcript r s) =
      ((walk target tableToTable asked).run r s).1.map fun a =>
        (target, PhyRecord.request a.phy) := by
  induction asked generalizing s with
  | nil => rfl
  | cons phy rest ih =>
    rw [walk, Dialogue.transcript_bind, Dialogue.run_bind, Smp.frames_append, frames_ask]
    generalize (PhyRecord.ask target phy tableToTable).run r s = told
    by_cases hl : (⟨phy, told.1⟩ : PhyAnswer).isLast = true
    · simp only [if_pos hl]
      rfl
    · simp only [if_neg hl]
      rw [Dialogue.transcript_map, Dialogue.run_map, ih]
      rfl

/-- What was heard of an expander and the frames that were sent to it: a DISCOVER request for each
of its phys from 0 on, once and in order, up to a bound or to the first phy whose exchange ends the
walk. -/
structure AsksInOrder (bound : Nat) (target : UInt64) (heard : List PhyAnswer)
    (sent : List (UInt64 × Bytes)) : Prop where
  /-- What was heard is of the first phys. -/
  phys : heard.map (·.phy.toNat) = List.range heard.length
  /-- No phy is past the bound. -/
  bounded : heard.length ≤ bound
  /-- Each phy is asked about where it was heard of, and nothing else is sent. -/
  sent : sent = heard.map fun a => (target, PhyRecord.request a.phy)
  /-- The walk ends with the first exchange that ends it, and else at the bound. -/
  count : heard.length = ((heard.findIdx? (·.Ends)).map (· + 1)).getD bound

theorem toNat_phys {count : Nat} (h : count ≤ 256) :
    (phys count).map (·.toNat) = List.range count := by
  rw [phys, List.map_map]
  refine (List.map_congr_left fun i hi => ?_).trans (List.map_id _)
  have hi : i < 256 := Nat.lt_of_lt_of_le (List.mem_range.1 hi) h
  simpa using hi

/-- A walk over the first phys asks about them in order. -/
theorem asksInOrder_walk (r : Responder link ρ) (s : ρ) (target : UInt64) (tableToTable : Bool)
    {bound : Nat} (h : bound ≤ 256) :
    let walked := walk target tableToTable (phys bound)
    AsksInOrder bound target (phyAnswers tableToTable (walked.transcript r s))
      (frames (walked.transcript r s)) := by
  intro walked
  have hinitial : (walked.run r s).1.map (·.phy) <+: phys bound :=
    ((ensures_walk target tableToTable (phys bound)).run r s).1
  have hcount := (ensures_walk_length target tableToTable (phys bound)).run r s
  have hphys : (phys bound).length = bound := by simp [phys]
  rw [hphys] at hcount
  have hbound := hinitial.length_le
  rw [List.length_map, hphys] at hbound
  rw [phyAnswers_walk, frames_walk]
  refine ⟨?_, hbound, rfl, hcount⟩
  -- What was heard is of an initial part of the phys, so its length says which part.
  have htake := List.prefix_iff_eq_take.1 (hinitial.map (·.toNat))
  rw [List.map_map, toNat_phys h, List.length_map, List.take_range, Nat.min_eq_left hbound] at htake
  exact htake

/-! ## What the loop leaves -/

/-- The problem is the failure of an exchange about a phy. -/
def Diagnostic.isPhyFailure : Diagnostic → Bool
  | .phyRefused .. | .phyFailed .. => true
  | _ => false

/-- The report of a record that was heard on a visit. -/
def Visit.report? (v : Visit) (a : PhyAnswer) : Option Report :=
  a.answer.toOption.map fun record => ⟨v.path, v.kind, record⟩

/-- A record brings no problem of this kind: it is about a bay or an expander outside the tables. -/
theorem filter_isPhyFailure_problems (t : Topology) (x : Report) :
    (t.problems x).filter (·.isPhyFailure) = [] := by
  rw [problems_eq, List.filter_append, List.append_eq_nil_iff]
  constructor
  · rcases ho : t.layout.outside? x.record with _ | problem
    · rfl
    · obtain ⟨-, number, -, -, rfl⟩ := Layout.outside?_eq_some_iff.1 ho
      rfl
  · unfold unregistered?
    rcases x.record.hostName? with _ | name
    · rfl
    · rw [Option.bind_some]
      dsimp only
      split <;> rfl

theorem takeVisit_ok (s : Survey) (v : Visit) (heard : List PhyAnswer) :
    s.takeVisit v (.ok heard) =
      (heard.map (Event.told v.path v.kind)).foldl Survey.takeEvent s := by
  rw [List.foldl_map]
  rfl

theorem topology_takeVisit (s : Survey) (v : Visit) (heard : List PhyAnswer) :
    (s.takeVisit v (.ok heard)).topology = (heard.filterMap v.report?).foldl take s.topology := by
  rw [takeVisit_ok, topology_foldl_takeEvent, List.filterMap_map]
  congr 2
  funext ⟨phy, answer⟩
  cases answer <;> rfl

theorem failures_takeVisit (s : Survey) (v : Visit) (heard : List PhyAnswer) :
    ∃ more, (s.takeVisit v (.ok heard)).diagnostics = s.diagnostics ++ more ∧
      more.filter (·.isPhyFailure) = heard.filterMap (·.diagnostic? v.path) := by
  refine ⟨_, by rw [takeVisit_ok, diagnostics_foldl_takeEvent], ?_⟩
  rw [List.flatMap_map]
  induction heard with
  | nil => rfl
  | cons a rest ih =>
    rw [List.flatMap_cons, List.filter_append, ih, List.filterMap_cons]
    obtain ⟨phy, e | record⟩ := a
    · show List.filter _ (PhyAnswer.diagnostic? v.path ⟨phy, .error e⟩).toList ++ _ = _
      rcases hd : PhyAnswer.diagnostic? v.path ⟨phy, .error e⟩ with _ | problem
      · rfl
      · have hp : problem.isPhyFailure = true := by
          rcases tellsOfFailure_diagnostic hd with _ | _ <;> rfl
        simp [hp]
    · show List.filter _ (problems s.topology ⟨v.path, v.kind, record⟩) ++ _ = _
      rw [filter_isPhyFailure_problems]
      rfl

/-! ## Reports -/

theorem phyAnswers_general (r : Responder link ρ) (s : ρ) (target : UInt64) (tableToTable : Bool) :
    phyAnswers tableToTable ((General.ask target).transcript r s) = [] := by
  unfold General.ask
  rw [Dialogue.transcript_map, Smp.exchange_eq target _ _ (by decide)]
  exact phyAnswers_of_asks_trace (Smp.asks_settle _ _ _) r _ tableToTable

theorem frames_general (r : Responder link ρ) (s : ρ) (target : UInt64) :
    frames ((General.ask target).transcript r s) = [(target, General.request)] := by
  unfold General.ask
  rw [Dialogue.transcript_map]
  exact Smp.frames_exchange r s target .reportGeneral _ (by decide)

/-- An expander that says nothing of itself is not asked about its phys. One that does is asked
about them in order, and the report holds what was heard. -/
theorem listen_cases (r : Responder link ρ) (st : ρ) (path : String) (target : Option UInt64) :
    let address := target.getD 0
    let told := (ExpanderReport.listen path target).transcript r st
    let report := ((ExpanderReport.listen path target).run r st).1
    (∃ cause, report = ⟨path, target, .error cause, []⟩ ∧
      frames told = [(address, General.request)]) ∨
    ∃ general sent, report = ⟨path, target, .ok general, phyAnswers general.tableToTable told⟩ ∧
      frames told = (address, General.request) :: sent ∧
      AsksInOrder general.phyCount.toNat address (phyAnswers general.tableToTable told) sent := by
  intro address told report
  let asked := General.ask address
  have htold : told = asked.transcript r st ++ _ := Dialogue.transcript_bind r asked _ st
  have hreport : report = _ := congrArg Prod.fst (Dialogue.run_bind r asked _ st)
  have hgeneral : frames (asked.transcript r st) = [(address, General.request)] :=
    frames_general r st address
  have hnone (tableToTable : Bool) : phyAnswers tableToTable (asked.transcript r st) = [] :=
    phyAnswers_general r st address tableToTable
  generalize asked.run r st = answered at htold hreport
  obtain ⟨cause | general, st'⟩ := answered
  · have htold : told = asked.transcript r st := htold.trans (List.append_nil _)
    rw [htold]
    exact .inl ⟨cause, hreport, hgeneral⟩
  · let walked := walk address general.tableToTable (phys general.phyCount.toNat)
    have htold : told = asked.transcript r st ++ walked.transcript r st' :=
      htold.trans (congrArg _ (Dialogue.transcript_map r walked _ st'))
    have hreport : report = ⟨path, target, .ok general, (walked.run r st').1⟩ :=
      hreport.trans (congrArg Prod.fst (Dialogue.run_map r walked _ st'))
    have hheard : phyAnswers general.tableToTable told =
        phyAnswers general.tableToTable (walked.transcript r st') := by
      rw [htold, phyAnswers_append, hnone, List.nil_append]
    have hcount : general.phyCount.toNat ≤ 256 := Nat.le_of_lt general.phyCount.toNat_lt
    refine .inr ⟨general, frames (walked.transcript r st'), ?_, ?_, ?_⟩
    · rw [hreport, hheard, phyAnswers_walk]
    · rw [htold, Smp.frames_append, hgeneral]
      rfl
    · rw [hheard]
      exact asksInOrder_walk r st' address general.tableToTable hcount

end BayMap.Topology
