import BayMap.Proofs.Exchange
import BayMap.Topology.SlotDiscovery

/-!
# What passes hear

What a pass learns, read off the exchanges that went over its nodes and off nothing else: an open
that failed, or the answer to a request to tell of a phy (`event?`), with the node it came over.

* `phyAnswers_walk`: a walk results in what the exchanges of its conversation tell of phys.
* `run_visitAll`: visits bring a survey to what the events of their exchanges, taken one after
  another, bring it to.
-/

namespace BayMap.Topology

open Smp (PhyRecord)
open Transport (Kind Conversation LinkQuery link)

variable {σ ρ α : Type}

/-! ## Over a link -/

/-- What an exchange tells of a phy, where it is a request to tell of one. -/
def phyAnswer? (tableToTable : Bool) : Exchanged link → Option PhyAnswer
  | ⟨.smp _ request capacity, answer⟩ =>
    if request.u8At 1 = Smp.Function.discover.code then
      let phy := request.u8At 9
      some ⟨phy, (Smp.reading .discover capacity answer).map fun response =>
        PhyRecord.decode phy response tableToTable⟩
    else none
  | ⟨.command .., _⟩ | ⟨.trace .., _⟩ => none

/-- What exchanges tell of phys. -/
def phyAnswers (tableToTable : Bool) (told : List (Exchanged link)) : List PhyAnswer :=
  told.filterMap (phyAnswer? tableToTable)

theorem phyAnswers_append (tableToTable : Bool) (a b : List (Exchanged link)) :
    phyAnswers tableToTable (a ++ b) = phyAnswers tableToTable a ++ phyAnswers tableToTable b :=
  List.filterMap_append

theorem phyAnswers_of_asks_trace {d : Conversation α} (h : d.Asks Smp.IsTrace)
    (r : Responder link ρ) (s : ρ) (tableToTable : Bool) :
    phyAnswers tableToTable (d.transcript r s) = [] := by
  refine List.filterMap_eq_nil_iff.2 fun e he => ?_
  obtain ⟨label, bytes, hq⟩ := h.of_mem_transcript r s e he
  obtain ⟨q, answer⟩ := e
  subst hq
  rfl

theorem ask_eq (target : UInt64) (phy : UInt8) (tableToTable : Bool) :
    PhyRecord.ask target phy tableToTable =
      .ask (.trace "smp request" (PhyRecord.request phy)) fun _ =>
        .ask (.smp target (PhyRecord.request phy) PhyRecord.capacity) fun answer =>
          Smp.settle .discover PhyRecord.capacity answer >>= fun told =>
            pure (told.map fun response => PhyRecord.decode phy response tableToTable) := by
  unfold PhyRecord.ask
  rw [Smp.exchange_eq _ _ _ (by decide)]
  rfl

theorem phyAnswers_ask (r : Responder link ρ) (s : ρ) (target : UInt64) (phy : UInt8)
    (tableToTable : Bool) :
    phyAnswers tableToTable ((PhyRecord.ask target phy tableToTable).transcript r s) =
      [⟨phy, ((PhyRecord.ask target phy tableToTable).run r s).1⟩] := by
  rw [ask_eq]
  simp only [Dialogue.transcript, Dialogue.run]
  generalize r (.trace "smp request" (PhyRecord.request phy)) s = shown
  generalize r (.smp target (PhyRecord.request phy) PhyRecord.capacity) shown.2 = answered
  have hp : phyAnswer? tableToTable
      ⟨.smp target (PhyRecord.request phy) PhyRecord.capacity, answered.1⟩ =
        some ⟨phy, (Smp.reading .discover PhyRecord.capacity answered.1).map fun response =>
          PhyRecord.decode phy response tableToTable⟩ := rfl
  have hs := phyAnswers_of_asks_trace
    ((Smp.asks_settle .discover PhyRecord.capacity answered.1).map fun told =>
      told.map fun response => PhyRecord.decode phy response tableToTable)
    r answered.2 tableToTable
  rw [Dialogue.run_bind, Smp.run_settle, phyAnswers, List.filterMap_cons_none rfl,
    List.filterMap_cons_some hp, ← phyAnswers, hs]
  rfl

theorem ensures_ask (target : UInt64) (phy : UInt8) (tableToTable : Bool) :
    (PhyRecord.ask target phy tableToTable).Ensures fun answer =>
      ∀ record, answer = .ok record → record.requestedPhy = phy := by
  unfold PhyRecord.ask
  refine Dialogue.ensures_bind _ fun told => ?_
  refine Dialogue.ensures_pure fun record h => ?_
  cases told with
  | error cause => cases h
  | ok response =>
    obtain rfl := Except.ok.inj h
    rfl

theorem phyAnswers_walk (r : Responder link ρ) (s : ρ) (target : UInt64) (tableToTable : Bool)
    (asked : List UInt8) :
    phyAnswers tableToTable ((walk target tableToTable asked).transcript r s) =
      ((walk target tableToTable asked).run r s).1 := by
  induction asked generalizing s with
  | nil => rfl
  | cons phy rest ih =>
    rw [walk, Dialogue.transcript_bind, Dialogue.run_bind, phyAnswers_append, phyAnswers_ask]
    generalize (PhyRecord.ask target phy tableToTable).run r s = told
    by_cases hl : (⟨phy, told.1⟩ : PhyAnswer).isLast = true
    · simp only [if_pos hl]
      rfl
    · simp only [if_neg hl]
      rw [Dialogue.transcript_map, Dialogue.run_map, ih]
      rfl

/-- A walk tells of a phy after the other, each time of the phy that was asked for. -/
theorem ensures_walk (target : UInt64) (tableToTable : Bool) (asked : List UInt8) :
    (walk target tableToTable asked).Ensures fun heard =>
      heard.map (·.phy) <+: asked ∧
        ∀ a ∈ heard, ∀ record, a.answer = .ok record → record.requestedPhy = a.phy := by
  induction asked with
  | nil => exact ⟨List.prefix_refl _, fun _ h => nomatch h⟩
  | cons phy rest ih =>
    rw [walk]
    refine (ensures_ask target phy tableToTable).bind fun answer ha => ?_
    by_cases hl : (⟨phy, answer⟩ : PhyAnswer).isLast = true
    · simp only [if_pos hl]
      refine Dialogue.ensures_pure ⟨⟨rest, rfl⟩, ?_⟩
      simpa using ha
    · simp only [if_neg hl]
      refine ih.bind fun heard ⟨hp, hr⟩ => Dialogue.ensures_pure ⟨?_, ?_⟩
      · exact List.cons_prefix_cons.2 ⟨rfl, hp⟩
      · exact List.forall_mem_cons.2 ⟨ha, hr⟩

/-! ## Over nodes -/

/-- What answers over an open node. -/
def OpenNode.responder (node : OpenNode σ) (r : Responder (nodes σ) ρ) : Responder link ρ :=
  fun query s => r (.on node query) s

/-- An exchange as one over an open node. -/
def OpenNode.over (node : OpenNode σ) (e : Exchanged link) : Exchanged (nodes σ) :=
  ⟨.on node e.1, e.2⟩

/-- Opening a node is one question, and the node is open if the answer is a handle. -/
theorem openNode_cases (r : Responder (nodes σ) ρ) (st : ρ) (path : String) (kind : Kind) :
    let opening : Pass σ _ := Pass.openNode path kind
    (∃ cause st', opening.run r st = (.error cause, st') ∧
      opening.transcript r st = [⟨.open path kind, .error cause⟩]) ∨
    ∃ handle st', opening.run r st = (.ok ⟨path, kind, handle⟩, st') ∧
      opening.transcript r st = [⟨.open path kind, .ok handle⟩] := by
  intro opening
  have htold : opening.transcript r st = [⟨.open path kind, (r (.open path kind) st).1⟩] := rfl
  have hrun : opening.run r st = ((r (.open path kind) st).1.map fun handle =>
      { path, kind, handle }, (r (.open path kind) st).2) := rfl
  rw [htold, hrun]
  rcases r (.open path kind) st with ⟨cause | handle, st'⟩
  · exact .inl ⟨cause, st', rfl, rfl⟩
  · exact .inr ⟨handle, st', rfl, rfl⟩

theorem run_converse (node : OpenNode σ) (c : Conversation α) (r : Responder (nodes σ) ρ) (s : ρ) :
    (node.converse c).run r s = c.run (node.responder r) s := by
  rw [OpenNode.converse, Dialogue.run_relay]
  rfl

theorem transcript_converse (node : OpenNode σ) (c : Conversation α) (r : Responder (nodes σ) ρ)
    (s : ρ) :
    (node.converse c).transcript r s = (c.transcript (node.responder r) s).map node.over := by
  induction c generalizing s with
  | done value => rfl
  | ask q next ih =>
    show _ :: (node.converse (next _)).transcript r _ = _
    rw [ih]
    rfl

theorem asks_converse {P : LinkQuery → Prop} {Q : NodeQuery σ → Prop} {node : OpenNode σ}
    (hon : ∀ query, P query → Q (.on node query)) {c : Conversation α} (h : c.Asks P) :
    (node.converse c).Asks Q := by
  induction c with
  | done value => trivial
  | ask query next ih => exact ⟨hon query h.1, fun answer => ih answer (h.2 answer)⟩

/-- What is learned from a node. -/
inductive Event where
  /-- The node cannot be opened. -/
  | unopened (cause : TransportError)
  /-- A node of a kind tells of a phy. -/
  | told (path : String) (kind : Kind) (heard : PhyAnswer)

/-- What an exchange tells slot discovery. -/
def event? : Exchanged (nodes σ) → Option Event
  | ⟨.open .., .error cause⟩ => some (.unopened cause)
  | ⟨.open .., .ok _⟩ => none
  | ⟨.on node query, answer⟩ => (phyAnswer? false ⟨query, answer⟩).map (.told node.path node.kind)

/-- What exchanges tell slot discovery. -/
def events (told : List (Exchanged (nodes σ))) : List Event := told.filterMap event?

theorem events_append (a b : List (Exchanged (nodes σ))) : events (a ++ b) = events a ++ events b :=
  List.filterMap_append

theorem events_over (node : OpenNode σ) (told : List (Exchanged link)) :
    events (told.map node.over) = (phyAnswers false told).map (.told node.path node.kind) := by
  rw [events, phyAnswers, List.filterMap_map, List.map_filterMap]
  rfl

/-- Takes what is learned from a node. -/
def Survey.takeEvent (s : Survey) : Event → Survey
  | .unopened cause => s.note [.nodeUnopened cause]
  | .told path kind heard => s.takeAnswer path kind heard

theorem events_listen (v : Visit) (r : Responder (nodes σ) ρ) (st : ρ) :
    events (v.listen.transcript r st) =
      match (v.listen.run r st).1 with
      | .error cause => [.unopened cause]
      | .ok heard => heard.map (.told v.path v.kind) := by
  unfold Visit.listen
  rw [Dialogue.run_bind, Dialogue.transcript_bind, events_append]
  obtain ⟨cause, st', hrun, htold⟩ | ⟨handle, st', hrun, htold⟩ :=
    openNode_cases r st v.path v.kind
  · rw [hrun, htold]
    rfl
  · rw [hrun, htold]
    dsimp only
    rw [Dialogue.run_map, Dialogue.transcript_map, run_converse, transcript_converse, events_over,
      phyAnswers_walk]
    rfl

theorem takeVisit_listen (v : Visit) (s : Survey) (r : Responder (nodes σ) ρ) (st : ρ) :
    s.takeVisit v (v.listen.run r st).1 =
      (events (v.listen.transcript r st)).foldl Survey.takeEvent s := by
  rw [events_listen]
  cases (v.listen.run r st).1 with
  | error cause => rfl
  | ok heard =>
    show _ = (heard.map (.told v.path v.kind)).foldl Survey.takeEvent s
    rw [List.foldl_map]
    rfl

theorem run_visitAll (visits : List Visit) (s : Survey) (r : Responder (nodes σ) ρ) (st : ρ) :
    ((visitAll visits s).run r st).1 =
      (events ((visitAll visits s).transcript r st)).foldl Survey.takeEvent s := by
  unfold visitAll
  induction visits generalizing s st with
  | nil => rfl
  | cons v rest ih =>
    rw [List.foldlM_cons, Dialogue.run_bind, Dialogue.transcript_bind, ih, events_append,
      List.foldl_append, Dialogue.run_bind, Dialogue.transcript_bind, events_append,
      List.foldl_append, ← takeVisit_listen]
    rfl

end BayMap.Topology
