/-!
# Dialogues

A program that depends on a device is a dialogue: it puts a question and goes on with the answer,
until it is done. What the device does is no part of the program. A `Responder` plays the device; it
may remember anything, so a statement about every responder is one about every device.

* `run_bind`, `transcript_bind`: a dialogue may be run piece by piece.
* `alike`: responders that answer alike have the same dialogue.
* `Asks.of_mem_transcript`: what holds of each question a dialogue can put holds of each question it
  puts to any responder.
* `exists_turns`: dialogues one after another exchange what each of them exchanges in its turn.
* `Ensures.run`: what holds of each result a dialogue can have holds of its result with any
  responder.
* `run_relay`: relaying a dialogue and answering in the new terms is answering through the relay.
-/

namespace BayMap

/-- The questions of a dialogue, and what kind of answer each has. -/
structure Interface where
  /-- The questions. -/
  Query : Type
  /-- The answers to a question. -/
  Answer : Query → Type

/-- A dialogue with a result. -/
inductive Dialogue (I : Interface) (α : Type) : Type where
  /-- The result. -/
  | done (value : α)
  /-- A question, and the dialogue that follows its answer. -/
  | ask (query : I.Query) (next : I.Answer query → Dialogue I α)

/-- A device that answers, `σ` being what it remembers. -/
abbrev Responder (I : Interface) (σ : Type) := (query : I.Query) → σ → I.Answer query × σ

/-- A question with its answer. -/
abbrev Exchanged (I : Interface) := (query : I.Query) × I.Answer query

namespace Dialogue

variable {I J : Interface} {α β σ : Type}

/-- One dialogue after another. -/
def bind : Dialogue I α → (α → Dialogue I β) → Dialogue I β
  | done value, f => f value
  | ask query next, f => ask query fun answer => (next answer).bind f

instance : Monad (Dialogue I) where
  pure := done
  bind := bind

/-- The dialogue of one question. -/
def query (q : I.Query) : Dialogue I (I.Answer q) := ask q done

@[simp] theorem pure_eq_done (value : α) : (pure value : Dialogue I α) = done value := rfl

@[simp] theorem done_bind (value : α) (f : α → Dialogue I β) : done value >>= f = f value := rfl

@[simp] theorem ask_bind (q : I.Query) (next : I.Answer q → Dialogue I α) (f : α → Dialogue I β) :
    ask q next >>= f = ask q fun answer => next answer >>= f := rfl

theorem bind_done (d : Dialogue I α) : d >>= done = d := by
  induction d with
  | done value => rfl
  | ask q next ih => simp [ih]

theorem bind_assoc {γ : Type} (d : Dialogue I α) (f : α → Dialogue I β) (g : β → Dialogue I γ) :
    d >>= f >>= g = d >>= fun x => f x >>= g := by
  induction d with
  | done value => rfl
  | ask q next ih => simp [ih]

instance : LawfulMonad (Dialogue I) :=
  LawfulMonad.mk' _ bind_done (fun _ _ => rfl) bind_assoc

/-! ## Running -/

/-- The result of a dialogue with a responder, and what the responder remembers then. -/
def run (r : Responder I σ) : Dialogue I α → σ → α × σ
  | done value, s => (value, s)
  | ask q next, s => (next (r q s).1).run r (r q s).2

/-- The questions of a dialogue with a responder, with their answers. -/
def transcript (r : Responder I σ) : Dialogue I α → σ → List (Exchanged I)
  | done _, _ => []
  | ask q next, s => ⟨q, (r q s).1⟩ :: (next (r q s).1).transcript r (r q s).2

@[simp] theorem run_done (r : Responder I σ) (value : α) (s : σ) :
    (done value : Dialogue I α).run r s = (value, s) := rfl

@[simp] theorem transcript_done (r : Responder I σ) (value : α) (s : σ) :
    (done value : Dialogue I α).transcript r s = [] := rfl

theorem run_bind (r : Responder I σ) (d : Dialogue I α) (f : α → Dialogue I β) (s : σ) :
    (d >>= f).run r s = (f (d.run r s).1).run r (d.run r s).2 := by
  induction d generalizing s with
  | done value => rfl
  | ask q next ih => simp [run, ih]

theorem transcript_bind (r : Responder I σ) (d : Dialogue I α) (f : α → Dialogue I β) (s : σ) :
    (d >>= f).transcript r s =
      d.transcript r s ++ (f (d.run r s).1).transcript r (d.run r s).2 := by
  induction d generalizing s with
  | done value => rfl
  | ask q next ih => simp [run, transcript, ih]

/-- Making something of the result is no exchange. -/
theorem run_map (r : Responder I σ) (d : Dialogue I α) (f : α → β) (s : σ) :
    (d >>= fun x => pure (f x)).run r s = (f (d.run r s).1, (d.run r s).2) :=
  run_bind r d _ s

theorem transcript_map (r : Responder I σ) (d : Dialogue I α) (f : α → β) (s : σ) :
    (d >>= fun x => pure (f x)).transcript r s = d.transcript r s := by
  rw [transcript_bind]
  exact List.append_nil _

/-- Responders that answer alike in related states, and stay related, have the same dialogue. -/
theorem alike {τ : Type} {r : Responder I σ} {r' : Responder I τ} {R : σ → τ → Prop}
    (h : ∀ q s t, R s t → (r q s).1 = (r' q t).1 ∧ R (r q s).2 (r' q t).2) (d : Dialogue I α)
    {s : σ} {t : τ} (hst : R s t) :
    (d.run r s).1 = (d.run r' t).1 ∧ d.transcript r s = d.transcript r' t := by
  induction d generalizing s t with
  | done value => exact ⟨rfl, rfl⟩
  | ask q next ih =>
    obtain ⟨hanswer, hnext⟩ := h q s t hst
    obtain ⟨hrun, htold⟩ := ih (r' q t).1 hnext
    simp only [run, transcript]
    rw [hanswer]
    exact ⟨hrun, congrArg _ htold⟩

/-! ## What a dialogue may ask -/

/-- Every question that the dialogue puts, whatever the answers, has a property. -/
def Asks (P : I.Query → Prop) : Dialogue I α → Prop
  | done _ => True
  | ask q next => P q ∧ ∀ answer, (next answer).Asks P

theorem asks_pure (P : I.Query → Prop) (value : α) : (pure value : Dialogue I α).Asks P := trivial

theorem asks_true (d : Dialogue I α) : d.Asks fun _ => True := by
  induction d with
  | done value => trivial
  | ask q next ih => exact ⟨trivial, ih⟩

theorem Asks.bind {P : I.Query → Prop} {d : Dialogue I α} {f : α → Dialogue I β} (hd : d.Asks P)
    (hf : ∀ x, (f x).Asks P) : (d >>= f).Asks P := by
  induction d with
  | done value => exact hf value
  | ask q next ih => exact ⟨hd.1, fun answer => ih answer (hd.2 answer)⟩

/-- Making something of the result asks nothing more. -/
theorem Asks.map {P : I.Query → Prop} {d : Dialogue I α} (hd : d.Asks P) (f : α → β) :
    (d >>= fun x => pure (f x)).Asks P :=
  hd.bind fun x => asks_pure P (f x)

theorem Asks.of_mem_transcript {P : I.Query → Prop} {d : Dialogue I α} (h : d.Asks P)
    (r : Responder I σ) (s : σ) : ∀ e ∈ d.transcript r s, P e.1 := by
  induction d generalizing s with
  | done value => simp [transcript]
  | ask q next ih =>
    simp only [transcript, List.mem_cons, forall_eq_or_imp]
    exact ⟨h.1, ih _ (h.2 _) _⟩

theorem Asks.mono {P Q : I.Query → Prop} {d : Dialogue I α} (h : d.Asks P) (hq : ∀ q, P q → Q q) :
    d.Asks Q := by
  induction d with
  | done value => trivial
  | ask q next ih => exact ⟨hq _ h.1, fun answer => ih answer (h.2 answer)⟩

theorem asks_foldlM {P : I.Query → Prop} {f : α → β → Dialogue I α} {xs : List β}
    (hf : ∀ s, ∀ x ∈ xs, (f s x).Asks P) (s : α) : (xs.foldlM f s).Asks P := by
  induction xs generalizing s with
  | nil => trivial
  | cons x rest ih =>
    rw [List.foldlM_cons]
    exact (hf s x List.mem_cons_self).bind fun s' =>
      ih (fun s x hx => hf s x (List.mem_cons_of_mem _ hx)) s'

theorem asks_mapM {P : I.Query → Prop} {f : β → Dialogue I α} {xs : List β}
    (hf : ∀ x ∈ xs, (f x).Asks P) : (xs.mapM f).Asks P := by
  induction xs with
  | nil => trivial
  | cons x rest ih =>
    rw [List.mapM_cons]
    exact (hf x List.mem_cons_self).bind fun _ =>
      (ih fun x hx => hf x (List.mem_cons_of_mem _ hx)).map _

/-! ## One after another -/

/-- One of several dialogues that are held one after another: what it is about, what it results in
and its exchanges. -/
structure Turn (I : Interface) (β α : Type) where
  /-- What the dialogue is about. -/
  about : β
  /-- The result. -/
  result : α
  /-- The exchanges. -/
  told : List (Exchanged I)

/-- Of dialogues one after another each has its turn, in some state of the responder, and nothing is
exchanged between the turns. -/
theorem exists_turns (r : Responder I σ) (f : β → Dialogue I α) (xs : List β) (s : σ) :
    ∃ turns : List (Turn I β α),
      turns.map (·.about) = xs ∧
      ((xs.mapM f).run r s).1 = turns.map (·.result) ∧
      (xs.mapM f).transcript r s = turns.flatMap (·.told) ∧
      ∀ turn ∈ turns, ∃ s', turn.result = ((f turn.about).run r s').1 ∧
        turn.told = (f turn.about).transcript r s' := by
  induction xs generalizing s with
  | nil => exact ⟨[], rfl, rfl, rfl, fun _ h => nomatch h⟩
  | cons x rest ih =>
    obtain ⟨turns, habout, hresult, htold, hturns⟩ := ih ((f x).run r s).2
    refine ⟨⟨x, ((f x).run r s).1, (f x).transcript r s⟩ :: turns, ?_, ?_, ?_, ?_⟩
    · rw [List.map_cons, habout]
    · rw [List.mapM_cons, run_bind, run_map, hresult]
      rfl
    · rw [List.mapM_cons, transcript_bind, transcript_map, htold]
      rfl
    · exact List.forall_mem_cons.2 ⟨⟨s, rfl, rfl⟩, hturns⟩

theorem transcript_subset_mapM (r : Responder I σ) {f : β → Dialogue I α} {xs : List β} {x : β}
    (hx : x ∈ xs) (s : σ) :
    ∃ s', (f x).transcript r s' ⊆ (xs.mapM f).transcript r s := by
  obtain ⟨turns, rfl, -, htold, hturns⟩ := exists_turns r f xs s
  obtain ⟨turn, hmem, rfl⟩ := List.mem_map.1 hx
  obtain ⟨s', -, hs⟩ := hturns turn hmem
  refine ⟨s', fun e he => ?_⟩
  rw [htold]
  exact List.mem_flatMap.2 ⟨turn, hmem, hs ▸ he⟩

/-! ## What a dialogue results in -/

/-- Every result of the dialogue, whatever the answers, has a property. -/
def Ensures (P : α → Prop) : Dialogue I α → Prop
  | done value => P value
  | ask _ next => ∀ answer, (next answer).Ensures P

theorem ensures_pure {P : α → Prop} {value : α} (h : P value) :
    (pure value : Dialogue I α).Ensures P := h

/-- What is ensured whatever came before is ensured. -/
theorem ensures_bind {P : β → Prop} (d : Dialogue I α) {f : α → Dialogue I β}
    (hf : ∀ x, (f x).Ensures P) : (d >>= f).Ensures P := by
  induction d with
  | done value => exact hf value
  | ask q next ih => exact ih

theorem Ensures.bind {P : α → Prop} {Q : β → Prop} {d : Dialogue I α} {f : α → Dialogue I β}
    (hd : d.Ensures P) (hf : ∀ x, P x → (f x).Ensures Q) : (d >>= f).Ensures Q := by
  induction d with
  | done value => exact hf value hd
  | ask q next ih => exact fun answer => ih answer (hd answer)

theorem Ensures.and {P Q : α → Prop} {d : Dialogue I α} (hp : d.Ensures P) (hq : d.Ensures Q) :
    d.Ensures fun value => P value ∧ Q value := by
  induction d with
  | done value => exact ⟨hp, hq⟩
  | ask q next ih => exact fun answer => ih answer (hp answer) (hq answer)

theorem Ensures.run {P : α → Prop} {d : Dialogue I α} (h : d.Ensures P) (r : Responder I σ)
    (s : σ) : P (d.run r s).1 := by
  induction d generalizing s with
  | done value => exact h
  | ask q next ih => exact ih _ (h _) _

theorem ensures_mapM {P : α → Prop} {f : β → Dialogue I α} {xs : List β}
    (hf : ∀ x ∈ xs, (f x).Ensures P) : (xs.mapM f).Ensures fun ys => ∀ y ∈ ys, P y := by
  induction xs with
  | nil => exact ensures_pure fun _ h => nomatch h
  | cons x rest ih =>
    rw [List.mapM_cons]
    refine (hf x List.mem_cons_self).bind fun y hy => ?_
    refine (ih fun x hx => hf x (List.mem_cons_of_mem _ hx)).bind fun ys hys => ?_
    exact ensures_pure (List.forall_mem_cons.2 ⟨hy, hys⟩)

/-! ## Relaying -/

/-- The dialogue in which each question is put in terms of another interface. -/
def relay (f : (q : I.Query) → Dialogue J (I.Answer q)) : Dialogue I α → Dialogue J α
  | done value => done value
  | ask q next => f q >>= fun answer => (next answer).relay f

end Dialogue

/-- The responder that answers each question by putting it to another in that one's terms. -/
def Responder.through {I J : Interface} {σ : Type} (f : (q : I.Query) → Dialogue J (I.Answer q))
    (r : Responder J σ) : Responder I σ := fun q s => (f q).run r s

namespace Dialogue

variable {I J : Interface} {α β σ : Type}

theorem run_relay (f : (q : I.Query) → Dialogue J (I.Answer q)) (r : Responder J σ)
    (d : Dialogue I α) (s : σ) :
    (d.relay f).run r s = d.run (r.through f) s := by
  induction d generalizing s with
  | done value => rfl
  | ask q next ih => simp [relay, run, run_bind, ih, Responder.through]

theorem Ensures.relay {P : α → Prop} {d : Dialogue I α} (h : d.Ensures P)
    (f : (q : I.Query) → Dialogue J (I.Answer q)) : (d.relay f).Ensures P := by
  induction d with
  | done value => exact h
  | ask q next ih =>
    exact ensures_bind (f q) fun answer => ih answer (h answer)

theorem relay_bind (f : (q : I.Query) → Dialogue J (I.Answer q)) (d : Dialogue I α)
    (g : α → Dialogue I β) :
    (d >>= g).relay f = d.relay f >>= fun x => (g x).relay f := by
  induction d with
  | done value => rfl
  | ask q next ih => simp [relay, ih]

end Dialogue

end BayMap
