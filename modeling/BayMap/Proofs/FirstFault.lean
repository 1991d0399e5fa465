import BayMap.Proofs.Exchange

/-!
# The first fault of a reply

What comes of an exchange, said without the checks that lead to it. The faults that a reply can have
stand in a list (`faults`), and the first one it has decides. A reply without faults brings the
start of its buffer, as long as the response declares (`declaredDwords`) and no longer than what was
received or than the buffer.

* `reading_ok`: what a reply comes to.
* `transcript_settle`: what is put to the link, and what is shown of the reply.
* `exchange_brings_prefix_or_first_fault`: both, for every exchange with every responder.
-/

namespace BayMap.Smp

open Transport

variable {ρ : Type}

/-- The dwords that a response declares after its header: those of its length byte, or where that
is zero the default of its function, if it has one. -/
def declaredDwords (function : Function) (lengthByte : UInt8) : Nat :=
  if lengthByte ≠ 0 then lengthByte.toNat
  else
    match function.defaultResponse? with
    | some (.dwords count) => count.toNat
    | some .noDefault | some .differentFormat | none => 0

/-- The bytes of a response without faults that count: those declared, as far as they were received
and as the buffer has room. -/
def countedLength (function : Function) (capacity : Nat) (reply : SmpReply) : Nat :=
  let declared := headerLength + 4 * declaredDwords function ((reply.response.fit capacity).u8At 3)
  min declared (min (reply.received.getD capacity) capacity)

/-- The faults that a reply can have, in the order in which they count, each with whether the reply
has it. -/
def faults (function : Function) (capacity : Nat) (reply : SmpReply) : List (Bool × SmpError) :=
  let byte := (reply.response.fit capacity).u8At
  [(reply.status ≠ 0, .transportStatus reply.status),
    (reply.received.any (· < headerLength), .malformed .shortTransfer),
    (capacity < headerLength, .malformed .shortBuffer),
    (byte 0 ≠ responseType, .malformed .notResponse),
    (byte 1 ≠ function.code, .malformed .otherFunction),
    (byte 2 ≠ 0, .functionResult ⟨byte 2⟩)]

/-- The first fault that a reply has. -/
def firstFault? (function : Function) (capacity : Nat) (reply : SmpReply) : Option SmpError :=
  ((faults function capacity reply).find? (·.1)).map (·.2)

theorem header_eq (b : Bytes) :
    FrameHeader.read? b =
      if b.length < headerLength then none
      else some ⟨b.u8At 0, ⟨b.u8At 1⟩, b.u8At 2, b.u8At 3⟩ := by
  rcases b with _ | ⟨b0, _ | ⟨b1, _ | ⟨b2, _ | ⟨b3, rest⟩⟩⟩⟩
  · rfl
  · rfl
  · rfl
  · rfl
  · rw [if_neg (by simp [headerLength])]
    rfl

/-- The dwords of a response that is accepted. -/
theorem dwords_of_accepted {h : FrameHeader} (hr : h.result = 0) :
    h.dwords.toNat = declaredDwords h.function h.length := by
  unfold FrameHeader.dwords declaredDwords
  by_cases hl : h.length = 0
  · rw [if_pos ⟨hl, hr⟩, if_neg (Decidable.not_not.2 hl)]
    rcases h.function.defaultResponse? with _ | (count | _ | _) <;> rfl
  · rw [if_neg fun hc => hl hc.1, if_pos hl]

/-- The first of the faults in a list counts. -/
theorem find?_fault (fault : Bool × SmpError) (rest : List (Bool × SmpError)) :
    ((fault :: rest).find? (·.1)).map (·.2) =
      if fault.1 then some fault.2 else (rest.find? (·.1)).map (·.2) := by
  rw [List.find?_cons]
  rcases fault with ⟨_ | _, e⟩ <;> rfl

/-- What a reply comes to: an error for its first fault, or the bytes that count. -/
theorem reading_ok (function : Function) (capacity : Nat) (reply : SmpReply) :
    reading function capacity (.ok reply) =
      match firstFault? function capacity reply with
      | some fault => .error fault
      | none =>
        .ok ((reply.response.fit capacity).take (countedLength function capacity reply)) := by
  unfold firstFault? faults countedLength
  simp only [find?_fault, reading, validLength, header_eq, Bytes.length_fit, decide_eq_true_eq]
  generalize reply.response.fit capacity = buffer
  by_cases hstatus : reply.status ≠ 0
  · rw [if_pos hstatus, if_pos hstatus]
  rw [if_neg hstatus, if_neg hstatus]
  by_cases hreceived : reply.received.any (· < headerLength)
  · rw [if_pos hreceived, if_pos hreceived]
    rfl
  rw [if_neg hreceived, if_neg hreceived]
  by_cases hcapacity : capacity < headerLength
  · rw [if_pos hcapacity, if_pos hcapacity]
    rfl
  rw [if_neg hcapacity, if_neg hcapacity]
  dsimp only
  by_cases htype : buffer.u8At 0 ≠ responseType
  · rw [if_pos htype, if_pos htype]
    rfl
  rw [if_neg htype, if_neg htype]
  by_cases hfunction : buffer.u8At 1 ≠ function.code
  · have hother : (⟨buffer.u8At 1⟩ : Function) ≠ function := fun h => hfunction (h ▸ rfl)
    rw [if_pos hother, if_pos hfunction]
    rfl
  have hsame : (⟨buffer.u8At 1⟩ : Function) = function := by
    rw [Decidable.of_not_not hfunction]
  rw [if_neg (Decidable.not_not.2 hsame), if_neg hfunction]
  by_cases hresult : buffer.u8At 2 ≠ 0
  · rw [if_pos hresult, if_pos hresult]
    rfl
  rw [if_neg hresult, if_neg hresult, dwords_of_accepted (Decidable.of_not_not hresult), hsame]
  generalize declaredDwords function (buffer.u8At 3) = dwords
  have hlength : min (min (headerLength + dwords * 4)
      (reply.received.getD (headerLength + dwords * 4))) capacity =
        min (headerLength + 4 * dwords) (min (reply.received.getD capacity) capacity) := by
    rcases reply.received with _ | received
    · simp only [Option.getD_none]
      omega
    · simp only [Option.getD_some]
      omega
  rw [hlength]
  rfl

/-- The bytes of a response without faults have room for its header, and are in the buffer. -/
theorem countedLength_bounds {function : Function} {capacity : Nat} {reply : SmpReply}
    (h : firstFault? function capacity reply = none) :
    headerLength ≤ countedLength function capacity reply ∧
      countedLength function capacity reply ≤ capacity := by
  rw [firstFault?, Option.map_eq_none_iff, List.find?_eq_none] at h
  have hreceived := h (reply.received.any (· < headerLength), .malformed .shortTransfer)
    (by simp [faults])
  have hcapacity := h (capacity < headerLength, .malformed .shortBuffer) (by simp [faults])
  have hroom : headerLength ≤ capacity := by simpa using hcapacity
  have henough : headerLength ≤ reply.received.getD capacity := by
    rcases hr : reply.received with _ | received
    · exact hroom
    · rw [hr] at hreceived
      simpa using hreceived
  simp only [countedLength]
  omega

/-- What is put to the link once a request is answered: the response as far as it was received. -/
theorem transcript_settle (r : Responder link ρ) (s : ρ) (function : Function) (capacity : Nat)
    (answer : Except TransportError SmpReply) :
    (settle function capacity answer).transcript r s =
      match answer with
      | .error _ => []
      | .ok reply =>
        if reply.status ≠ 0 then []
        else
          [⟨.trace "smp response" ((reply.response.fit capacity).take
            (min (reply.received.getD capacity) capacity)), ()⟩] := by
  rcases answer with cause | reply
  · rfl
  · by_cases hstatus : reply.status ≠ 0
    · simp only [settle, if_pos hstatus]
      rfl
    · have htake :
          (reply.response.fit capacity).take (min (reply.received.getD capacity) capacity) =
            (reply.response.fit capacity).take (reply.received.getD capacity) := by
        rw [List.take_eq_take_iff, Bytes.length_fit]
        omega
      simp only [settle, if_neg hstatus]
      rw [htake]
      rfl

/-- An exchange whose buffer can be had sends its request once. It fails as the link does, or for
the first fault of the reply, or else brings the start of the buffer, as long as the response
declares and no longer than what was received or than the buffer. Nothing past the end of the buffer
is read: neither for the result nor for the trace. -/
theorem exchange_brings_prefix_or_first_fault (target : UInt64) (function : Function)
    (request : Bytes) (capacity : Nat) (r : Responder link ρ) (st : ρ) :
    let told := (exchange target function request capacity).transcript r st
    let result := ((exchange target function request capacity).run r st).1
    (maxBuffer < capacity → told = [] ∧ result = .error (.resource capacity)) ∧
    (capacity ≤ maxBuffer → ∃ answer shown,
      told = ⟨.trace "smp request" request, ()⟩ :: ⟨.smp target request capacity, answer⟩ ::
        shown ∧
      (∀ cause, answer = .error cause → result = .error (.transport cause) ∧ shown = []) ∧
      ∀ reply, answer = .ok reply →
        let buffer := reply.response.fit capacity
        let length := min (4 + 4 * declaredDwords function (buffer.u8At 3))
          (min (reply.received.getD capacity) capacity)
        let received := min (reply.received.getD capacity) capacity
        buffer.length = capacity ∧
        (∀ fault, firstFault? function capacity reply = some fault → result = .error fault) ∧
        (firstFault? function capacity reply = none →
          result = .ok (buffer.take length) ∧ 4 ≤ length ∧ length ≤ capacity) ∧
        shown = if reply.status ≠ 0 then []
          else [⟨.trace "smp response" (buffer.take received), ()⟩]) := by
  intro told result
  refine ⟨fun hc => ?_, fun hc => ?_⟩
  · have he : exchange target function request capacity = .done (.error (.resource capacity)) := by
      unfold exchange
      rw [if_pos hc]
      rfl
    simp only [told, result, he]
    exact ⟨rfl, rfl⟩
  have he := exchange_eq target function request hc
  let st' := (r (.trace "smp request" request) st).2
  let answered := r (.smp target request capacity) st'
  have htold : told = ⟨.trace "smp request" request, ()⟩ ::
      ⟨.smp target request capacity, answered.1⟩ ::
        (settle function capacity answered.1).transcript r answered.2 := by
    simp only [told, he]
    rfl
  have hresult : result = reading function capacity answered.1 := by
    simp only [result, he]
    exact run_settle r answered.2 function capacity answered.1
  refine ⟨answered.1, _, htold, fun cause hcause => ?_, fun reply hreply => ?_⟩
  · rw [hresult, hcause]
    exact ⟨rfl, rfl⟩
  · rw [hreply, reading_ok] at hresult
    intro buffer length received
    refine ⟨Bytes.length_fit _ _, fun fault hfault => ?_, fun hnone => ⟨?_, ?_⟩, ?_⟩
    · rw [hresult, hfault]
    · rw [hresult, hnone]
      rfl
    · exact countedLength_bounds hnone
    · rw [transcript_settle, hreply]

end BayMap.Smp
