import BayMap.Smp.Exchange

/-!
# What comes of a management exchange

An exchange with a buffer that can be had puts its request in the trace, sends it, and settles what
the answer comes to (`reading`): `exchange_eq` takes it apart, `run_settle` says that nothing but
the answer counts, and `asks_settle` that nothing more is sent. What is sent in the end is its
request alone (`given_exchange`).
-/

namespace BayMap.Smp

open Transport

variable {ρ : Type}

/-- What the answer to a request comes to, the buffer for the response having a capacity. -/
def reading (function : Function) (capacity : Nat) :
    Except TransportError SmpReply → Except SmpError Bytes
  | .error cause => .error (.transport cause)
  | .ok reply =>
    if reply.status ≠ 0 then .error (.transportStatus reply.status)
    else
      let response := reply.response.fit capacity
      (validLength function response reply.received).map response.take

/-- What is left of an exchange once its request is answered. -/
def settle (function : Function) (capacity : Nat) :
    Except TransportError SmpReply → Conversation (Except SmpError Bytes)
  | .error cause => return .error (.transport cause)
  | .ok reply => do
    if reply.status ≠ 0 then return .error (.transportStatus reply.status)
    let response := reply.response.fit capacity
    Conversation.trace "smp response" (response.take (reply.received.getD capacity))
    return (validLength function response reply.received).map response.take

theorem exchange_eq (target : UInt64) (function : Function) (request : Bytes) {capacity : Nat}
    (hc : capacity ≤ maxBuffer) :
    exchange target function request capacity =
      .ask (.trace "smp request" request) fun _ =>
        .ask (.smp target request capacity) (settle function capacity) := by
  unfold exchange
  rw [if_neg (Nat.not_lt.2 hc)]
  rfl

theorem run_settle (r : Responder link ρ) (s : ρ) (function : Function) (capacity : Nat)
    (answer : Except TransportError SmpReply) :
    ((settle function capacity answer).run r s).1 = reading function capacity answer := by
  cases answer with
  | error cause => rfl
  | ok reply =>
    by_cases hs : reply.status ≠ 0
    · simp only [settle, reading, if_pos hs]
      rfl
    · simp only [settle, reading, if_neg hs]
      rfl

/-- A query that only shows bytes in the trace. -/
def IsTrace (q : LinkQuery) : Prop := ∃ label bytes, q = .trace label bytes

theorem asks_settle (function : Function) (capacity : Nat)
    (answer : Except TransportError SmpReply) : (settle function capacity answer).Asks IsTrace := by
  cases answer with
  | error cause => trivial
  | ok reply =>
    by_cases hs : reply.status ≠ 0
    · simp only [settle, if_pos hs]
      trivial
    · simp only [settle, if_neg hs]
      exact ⟨⟨_, _, rfl⟩, fun _ => trivial⟩

/-! ## What is put to a link -/

/-- The frames and the commands that were put to a link, without what only shows bytes in the
trace. -/
def given (told : List (Exchanged link)) : List LinkQuery :=
  told.filterMap fun e =>
    match e.1 with
    | .smp target request capacity => some (.smp target request capacity)
    | .command command capacity => some (.command command capacity)
    | .trace .. => none

theorem given_append (a b : List (Exchanged link)) : given (a ++ b) = given a ++ given b :=
  List.filterMap_append

theorem given_of_asks_trace {α : Type} {d : Conversation α} (h : d.Asks IsTrace)
    (r : Responder link ρ) (s : ρ) : given (d.transcript r s) = [] := by
  refine List.filterMap_eq_nil_iff.2 fun e he => ?_
  obtain ⟨label, bytes, hq⟩ := h.of_mem_transcript r s e he
  simp only [hq]

/-- An exchange sends its request, and nothing else. -/
theorem given_exchange (r : Responder link ρ) (s : ρ) (target : UInt64) (function : Function)
    (request : Bytes) {capacity : Nat} (hc : capacity ≤ maxBuffer) :
    given ((exchange target function request capacity).transcript r s) =
      [.smp target request capacity] := by
  rw [exchange_eq target function request hc]
  exact congrArg (.smp target request capacity :: ·)
    (given_of_asks_trace (asks_settle function capacity _) r _)

/-- The management frames that were sent, each with the address that it went to. -/
def frames (told : List (Exchanged link)) : List (UInt64 × Bytes) :=
  (given told).filterMap fun
    | .smp target request _ => some (target, request)
    | .command .. | .trace .. => none

theorem frames_append (a b : List (Exchanged link)) : frames (a ++ b) = frames a ++ frames b := by
  rw [frames, given_append, List.filterMap_append]
  rfl

theorem frames_exchange (r : Responder link ρ) (s : ρ) (target : UInt64) (function : Function)
    (request : Bytes) {capacity : Nat} (hc : capacity ≤ maxBuffer) :
    frames ((exchange target function request capacity).transcript r s) = [(target, request)] := by
  rw [frames, given_exchange r s target function request hc]
  rfl

end BayMap.Smp
