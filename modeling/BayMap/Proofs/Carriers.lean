import BayMap.Proofs.Exchange
import BayMap.Proofs.KeptExchanges

/-!
# Exchanges over different carriers

Each carrier puts a request to the kernel in its own way, has a buffer of its own size and learns in
its own way, or not at all, how many bytes came in. An exchange is the same over all of them as long
as a whole frame comes in: what the frame itself says of its length then decides.

* `validLength_of_isPrefix`: a buffer that starts with a whole frame is read as the frame.
* `answers_scsi`, `answers_mpt`, `answers_packet`: what each carrier makes of a frame that came in.
* `run_exchange`: an exchange over any carrier is the frame read.
* `exchange_same_over_carriers`: two sessions give the same result.
-/

namespace BayMap.Transport

open Kernel (Call ScsiHeader)
open Smp (FrameHeader Function validLength)

variable {ρ σ : Type}

/-! ## Reading a frame -/

/-- A frame is whole if it has a header, and no fewer bytes than that says. -/
structure IsWhole (frame : Bytes) : Prop where
  /-- There is a header. -/
  header : Smp.headerLength ≤ frame.length
  /-- The bytes that the header speaks of are there. -/
  declared : ∀ h, FrameHeader.read? frame = some h →
    Smp.headerLength + h.dwords.toNat * 4 ≤ frame.length

theorem read?_of_isPrefix {frame response : Bytes} (hw : IsWhole frame) (hp : frame <+: response) :
    FrameHeader.read? response = FrameHeader.read? frame := by
  obtain ⟨rest, rfl⟩ := hp
  match frame, hw.header with
  | _ :: _ :: _ :: _ :: _, _ => rfl

/-- A buffer that starts with a whole frame is read as the frame, if it is not known how many bytes
came in, or if they are those of the frame. -/
theorem validLength_of_isPrefix {frame response : Bytes} (hw : IsWhole frame)
    (hp : frame <+: response) (function : Function) {received : Option Nat}
    (hr : received = none ∨ received = some frame.length) :
    (validLength function response received).map response.take =
      (validLength function frame none).map frame.take := by
  have hany : received.any (· < Smp.headerLength) = false := by
    obtain rfl | rfl := hr
    · rfl
    · exact decide_eq_false (Nat.not_lt.2 hw.header)
  unfold validLength
  rw [hany, Option.any_none, if_neg Bool.false_ne_true, if_neg Bool.false_ne_true,
    read?_of_isPrefix hw hp]
  cases hf : FrameHeader.read? frame with
  | none => rfl
  | some h =>
    have hd := hw.declared h hf
    have hlen := hp.length_le
    have hbuffer : min (min (Smp.headerLength + h.dwords.toNat * 4)
        (received.getD (Smp.headerLength + h.dwords.toNat * 4))) response.length =
          Smp.headerLength + h.dwords.toNat * 4 := by
      obtain rfl | rfl := hr
      · rw [Option.getD_none]
        omega
      · rw [Option.getD_some]
        omega
    have hframe : min (min (Smp.headerLength + h.dwords.toNat * 4)
        ((none : Option Nat).getD (Smp.headerLength + h.dwords.toNat * 4))) frame.length =
          Smp.headerLength + h.dwords.toNat * 4 := by
      rw [Option.getD_none]
      omega
    have htake : response.take (Smp.headerLength + h.dwords.toNat * 4) =
        frame.take (Smp.headerLength + h.dwords.toNat * 4) := by
      obtain ⟨rest, rfl⟩ := hp
      exact List.take_append_of_le_length hd
    dsimp only
    rw [hbuffer, hframe]
    -- The checks before the length look at the header alone.
    split
    · rfl
    split
    · rfl
    split
    · rfl
    exact congrArg Except.ok htake

/-! ## What the kernel brings -/

/-- The kernel answers a request with a frame at the start of what came in, and reports success in
the way of a carrier. A generic request tells how many bytes did not come in, and the reply behind
the data of a packet how many did. -/
def Carrier.Brings (carrier : Carrier) (frame : Bytes) (capacity : Nat) :
    Exchanged Kernel.calls → Prop
  | ⟨.scsi .., .ok o⟩ =>
    frame <+: o.dataIn ∧ o.driverStatus = 0 ∧ o.transportStatus = 0 ∧ o.deviceStatus = 0 ∧
      match carrier with
      | .bsg => o.residual = .ofNat (capacity - frame.length)
      | .mpi3mr =>
        (Packed.decode (o.dataIn.drop capacity) : Controller.SmpReply).responseDataLength =
          .ofNat frame.length
      | .mpt _ => False
  | ⟨.mpt .., .ok o⟩ =>
    frame <+: o.dataIn ∧ (Packed.decode o.reply : Controller.MptReply).ioc = .success ∧
      (Packed.decode o.reply : Controller.MptReply).sas = .success
  | _ => False

/-- A session answers a request with a frame: it is at the start of the buffer, and if the bytes
that came in are counted they are those of the frame. -/
def AnswersWith (frame : Bytes) (capacity : Nat) (answer : Except TransportError SmpReply) : Prop :=
  ∃ reply, answer = .ok reply ∧ frame <+: reply.response.fit capacity ∧
    (reply.received = none ∨ reply.received = some frame.length) ∧ reply.status = 0

theorem reading_of_answersWith {frame : Bytes} {capacity : Nat}
    {answer : Except TransportError SmpReply} (hw : IsWhole frame)
    (ha : AnswersWith frame capacity answer) (function : Function) :
    Smp.reading function capacity answer = (validLength function frame none).map frame.take := by
  obtain ⟨reply, rfl, hp, hr, hs⟩ := ha
  unfold Smp.reading
  simp only [hs, ne_eq, not_true_eq_false, if_false]
  exact validLength_of_isPrefix hw hp function hr

/-- A program of one call comes to what it makes of the answer. -/
theorem exists_called {α : Type} {d : Kernel.Program α} {q : Call}
    {f : Kernel.calls.Answer q → α} (hd : d = .ask q fun answer => .done (f answer))
    (r : Responder Kernel.calls ρ) (st : ρ) :
    ∃ answer, ⟨q, answer⟩ ∈ d.transcript r st ∧ (d.run r st).1 = f answer := by
  rw [hd]
  exact ⟨(r q st).1, List.mem_cons_self, rfl⟩

/-! ## Generic requests -/

theorem fieldLength_eq_ok {length : Nat} (h : length < UInt32.size) :
    Session.fieldLength length = .ok (.ofNat length) :=
  if_pos h

theorem status_complete (header : ScsiHeader) {o : Kernel.ScsiOutcome} (hd : o.driverStatus = 0)
    (ht : o.transportStatus = 0) (hs : o.deviceStatus = 0) : (header.complete o).status = 0 := by
  simp [ScsiHeader.status, ScsiHeader.complete, hd, ht, hs]

/-- The bytes that came in are those of the buffer without those that did not. -/
theorem received_complete {header : ScsiHeader} {o : Kernel.ScsiOutcome} {capacity length : Nat}
    (hh : header.dinLength = .ofNat capacity) (ho : o.residual = .ofNat (capacity - length))
    (hl : length ≤ capacity) (hc : capacity < 0x80000000) :
    (header.complete o).received = length := by
  have hd : header.dinLength.toNat = capacity := by
    rw [hh]
    exact UInt32.toNat_ofNat_of_lt' (Nat.lt_trans hc (by decide))
  have hr : o.residual.toInt32.toInt = (capacity - length : Nat) := by
    rw [ho, UInt32.toInt32_ofNat']
    exact Int32.toInt_ofNat_of_lt (Nat.lt_of_le_of_lt (Nat.sub_le _ _) hc)
  show ((header.dinLength.toNat : Int) - o.residual.toInt32.toInt).toNat = length
  rw [hd, hr]
  omega

theorem size_smpReply : Packed.size Controller.SmpReply = 20 := rfl

/-- The reply behind the data tells how many bytes came in, also where it is cut short. -/
theorem dataLength_reply (target : UInt64) (request : Bytes) (data : Zeroed) {reply : Bytes}
    {length : Nat} (hl : length < UInt16.size)
    (hr : (Packed.decode reply : Controller.SmpReply).responseDataLength = .ofNat length) :
    Controller.Command.dataLength (.smp target request) data
      (Zeroed.mk reply (Packed.size Controller.SmpReply)).toList = length := by
  have hsize : ¬(Zeroed.mk reply (Packed.size Controller.SmpReply)).toList.length <
      Packed.size Controller.SmpReply := by
    rw [Zeroed.length_toList]
    exact Nat.lt_irrefl _
  have hfield : (reply.fit 20).u16At 0x10 = .ofNat length :=
    (Bytes.u16At_fit reply (by decide)).trans hr
  show (if _ < Packed.size Controller.SmpReply then 0 else ((reply.fit 20).u16At 0x10).toNat) = _
  rw [if_neg hsize, hfield]
  exact UInt16.toNat_ofNat_of_lt' hl

/-- The packet of a frame: its size, and the sizes of what goes out and of the reply. -/
theorem exists_packet {request : Bytes} {capacity : Nat} (hcapacity : capacity ≤ 0xffff)
    (hrequest : request.length ≤ 0x10003) (ordinal : UInt8) (target : UInt64) :
    ∃ packet, Controller.Packet.ofCommand (.smp target request) ordinal capacity = .ok packet ∧
      packet.bytes.length = 60 ∧ packet.dataOut.length = request.length + 56 ∧
      packet.replyLength = Packed.size Controller.SmpReply := by
  have hmessage : (Packed.encode (Controller.smpRequest target)).length = 56 := by
    simp [Packed.encode]
  have hfind : [(⟨.dataOut, request.length⟩ : Controller.Buffer), ⟨.dataIn, capacity⟩,
      ⟨.reply, Packed.size Controller.SmpReply⟩,
      ⟨.message, (Packed.encode (Controller.smpRequest target)).length⟩].find?
        (UInt32.size ≤ ·.length) = none := by
    rw [hmessage, size_smpReply, List.find?_eq_none]
    simp only [List.forall_mem_cons, decide_eq_true_eq, UInt32.size]
    refine ⟨by omega, by omega, by omega, by omega, fun _ h => nomatch h⟩
  simp only [Controller.Packet.ofCommand, Controller.messagePacket, hfind]
  refine ⟨_, rfl, ?_, ?_, rfl⟩
  · simp [Controller.Buffer.encode]
  · rw [List.length_append, hmessage]

/-- What a session makes of the answer to a generic request. -/
def scsiAnswer (capacity : Nat) (header : ScsiHeader) :
    Except Files.Errno Kernel.ScsiOutcome → Except TransportError SmpReply
  | .error errno => .error (.ioctl "SG_IO" errno)
  | .ok o => .ok ⟨((Zeroed.empty capacity).write o.dataIn).start,
    some (header.complete o).received, (header.complete o).status⟩

/-- What a session makes of the answer to a packet with a reply area of `replyLength` bytes. -/
def packetAnswer (target : UInt64) (request : Bytes) (capacity replyLength : Nat)
    (header : ScsiHeader) : Except Files.Errno Kernel.ScsiOutcome → Except TransportError SmpReply
  | .error errno => .error (.ioctl "SG_IO" errno)
  | .ok o => .ok ⟨o.dataIn.take capacity,
    some (Controller.Command.dataLength (.smp target request)
      ⟨o.dataIn.take capacity, capacity⟩ (Zeroed.mk (o.dataIn.drop capacity) replyLength).toList),
    (header.complete o).status⟩

section Answers

variable {frame request : Bytes} {capacity : Nat} (hlength : frame.length ≤ capacity)
  (hcapacity : capacity ≤ 0xffff) (hrequest : request.length ≤ 0x10003)

include hlength hcapacity hrequest

theorem answers_scsi {s : Session} (hs : s.carrier = .bsg) (target : UInt64)
    (r : Responder Kernel.calls ρ) (st : ρ)
    (hb : ∀ e ∈ (s.answer (.smp target request capacity)).transcript r st,
      s.carrier.Brings frame capacity e) :
    AnswersWith frame capacity ((s.answer (.smp target request capacity)).run r st).1 := by
  obtain ⟨path, carrier, ordinal, before, timeout⟩ := s
  obtain rfl : carrier = .bsg := hs
  let header : ScsiHeader :=
    { ScsiHeader.smp timeout with
      requestLength := .ofNat Session.emptyCommand.length
      doutLength := .ofNat request.length
      dinLength := .ofNat capacity }
  have hheader : Session.scsiHeader timeout (.fresh request capacity) = .ok header := by
    have hout := fieldLength_eq_ok (Nat.lt_of_le_of_lt hrequest (by decide))
    have hin := fieldLength_eq_ok (Nat.lt_of_le_of_lt hcapacity (by decide))
    simp only [Session.scsiHeader, Exchange.fresh, Zeroed.empty, hout, hin]
    rfl
  have hanswer : (Session.mk path .bsg ordinal before timeout).answer
      (.smp target request capacity) =
        .ask (.scsi path header Session.emptyCommand request) fun answer =>
          .done (scsiAnswer capacity header answer) := by
    simp only [Session.answer, Session.send, Session.sendScsi, hheader]
    refine congrArg (Dialogue.ask _) (funext fun answer => ?_)
    cases answer <;> rfl
  obtain ⟨answer, hm, hrun⟩ := exists_called hanswer r st
  have hbrought := hb _ hm
  rw [hrun]
  cases answer with
  | error errno => exact hbrought.elim
  | ok o =>
    obtain ⟨hp, hd, ht, hs, hres⟩ := hbrought
    refine ⟨_, rfl, ?_, .inr ?_, status_complete header hd ht hs⟩
    · show frame <+: ((Zeroed.empty capacity).write o.dataIn).toList
      rw [Zeroed.toList_write_empty]
      exact Bytes.isPrefix_fit hp hlength
    · rw [received_complete rfl hres hlength (Nat.lt_of_le_of_lt hcapacity (by decide))]

theorem answers_mpt {s : Session} {opcode : Kernel.MptOpcode} (hs : s.carrier = .mpt opcode)
    (target : UInt64) (r : Responder Kernel.calls ρ) (st : ρ)
    (hb : ∀ e ∈ (s.answer (.smp target request capacity)).transcript r st,
      s.carrier.Brings frame capacity e) :
    AnswersWith frame capacity ((s.answer (.smp target request capacity)).run r st).1 := by
  obtain ⟨path, carrier, ordinal, before, timeout⟩ := s
  obtain rfl : carrier = .mpt opcode := hs
  let x : Exchange := .fresh request capacity
  let settled := Session.mptSettled opcode x
  let call : Call :=
    .mpt path opcode (Session.blockFor ordinal target x) (request.take (request.length - 4))
  have hsend : Session.sendMpt path opcode ordinal target x =
      .ask call fun answer => .done (settled answer) :=
    Session.sendMpt_of_fits (Nat.add_lt_of_lt_sub (Nat.lt_of_le_of_lt hcapacity (by decide)))
      hrequest path opcode ordinal target
  have hanswer : (Session.mk path (.mpt opcode) ordinal before timeout).answer
      (.smp target request capacity) =
        .ask call fun answer => .done <| (settled answer).1.map fun () =>
          ⟨(settled answer).2.response.start, (settled answer).2.received,
            (settled answer).2.status⟩ := by
    simp only [Session.answer, Session.send]
    rw [hsend]
    rfl
  obtain ⟨answer, hm, hrun⟩ := exists_called hanswer r st
  have hbrought := hb _ hm
  rw [hrun]
  cases answer with
  | error errno => exact hbrought.elim
  | ok o =>
    obtain ⟨hp, hioc, hsas⟩ := hbrought
    have hsettled : settled (.ok o) = _ := Session.mptSettled_ok opcode rfl
    rw [hsettled, if_pos ((Session.succeeds_iff _).1 (not_or.2 ⟨fun h => h hioc, fun h => h hsas⟩))]
    exact ⟨_, rfl, Bytes.isPrefix_fit hp hlength, .inl rfl, rfl⟩

theorem answers_packet {s : Session} (hs : s.carrier = .mpi3mr) (target : UInt64)
    (r : Responder Kernel.calls ρ) (st : ρ)
    (hb : ∀ e ∈ (s.answer (.smp target request capacity)).transcript r st,
      s.carrier.Brings frame capacity e) :
    AnswersWith frame capacity ((s.answer (.smp target request capacity)).run r st).1 := by
  obtain ⟨path, carrier, ordinal, before, timeout⟩ := s
  obtain rfl : carrier = .mpi3mr := hs
  obtain ⟨packet, hpacket, hbytes, hout, hreply⟩ :=
    exists_packet hcapacity hrequest ordinal target
  obtain ⟨header, hheader⟩ : ∃ header,
      Session.packetHeader timeout packet capacity = .ok header := by
    have h1 : Session.fieldLength packet.bytes.length = .ok _ :=
      fieldLength_eq_ok (by rw [hbytes]; decide)
    have h2 : Session.fieldLength packet.dataOut.length = .ok _ :=
      fieldLength_eq_ok (by rw [hout, UInt32.size]; omega)
    have h3 : Session.fieldLength (capacity + packet.replyLength) = .ok _ :=
      fieldLength_eq_ok (by rw [hreply, size_smpReply, UInt32.size]; omega)
    simp only [Session.packetHeader, h1, h2, h3]
    exact ⟨_, rfl⟩
  have hanswer : (Session.mk path .mpi3mr ordinal before timeout).answer
      (.smp target request capacity) =
        .ask (.scsi path header packet.bytes packet.dataOut) fun answer =>
          .done (packetAnswer target request capacity packet.replyLength header answer) := by
    simp only [Session.answer, Session.send, Session.sendPacket, Exchange.fresh, Zeroed.empty,
      hpacket, hheader]
    refine congrArg (Dialogue.ask _) (funext fun answer => ?_)
    cases answer <;> rfl
  obtain ⟨answer, hm, hrun⟩ := exists_called hanswer r st
  have hbrought := hb _ hm
  rw [hrun]
  cases answer with
  | error errno => exact hbrought.elim
  | ok o =>
    obtain ⟨hp, hd, ht, hs, hlen⟩ := hbrought
    refine ⟨_, rfl, ?_, .inr ?_, status_complete header hd ht hs⟩
    · refine Bytes.isPrefix_fit ?_ hlength
      exact List.prefix_take_iff.2 ⟨hp, hlength⟩
    · rw [hreply, dataLength_reply target request _ (Nat.lt_of_le_of_lt hlength ?_) hlen]
      exact Nat.lt_of_le_of_lt hcapacity (by decide)

end Answers

/-! ## Exchanges -/

theorem converse_exchange (s : Session) (target : UInt64) (function : Function) (request : Bytes)
    {capacity : Nat} (hc : capacity ≤ Smp.maxBuffer) :
    s.converse (Smp.exchange target function request capacity) =
      s.answer (.smp target request capacity) >>= fun answer =>
        s.converse (Smp.settle function capacity answer) := by
  rw [Smp.exchange_eq target function request hc]
  rfl

section Exchanges

variable {frame request : Bytes} {capacity : Nat} (hw : IsWhole frame)
  (hlength : frame.length ≤ capacity) (hcapacity : capacity ≤ 0xffff)
  (hrequest : request.length ≤ 0x10003)

include hw hlength hcapacity hrequest

/-- An exchange over a session comes to what the frame says, whatever the carrier. -/
theorem run_exchange (s : Session) (target : UInt64) (function : Function)
    (r : Responder Kernel.calls ρ) (st : ρ)
    (hb : ∀ e ∈ (s.converse (Smp.exchange target function request capacity)).transcript r st,
      s.carrier.Brings frame capacity e) :
    ((s.converse (Smp.exchange target function request capacity)).run r st).1 =
      (validLength function frame none).map frame.take := by
  rw [converse_exchange s target function request (Nat.le_trans hcapacity (by decide))] at hb ⊢
  rw [Dialogue.transcript_bind] at hb
  have hcall := fun e he => hb e (List.mem_append_left _ he)
  have ha : AnswersWith frame capacity ((s.answer (.smp target request capacity)).run r st).1 := by
    cases hc : s.carrier with
    | bsg => exact answers_scsi hlength hcapacity hrequest hc target r st hcall
    | mpt opcode => exact answers_mpt hlength hcapacity hrequest hc target r st hcall
    | mpi3mr => exact answers_packet hlength hcapacity hrequest hc target r st hcall
  rw [Dialogue.run_bind, Session.converse, Dialogue.run_relay, Smp.run_settle]
  exact reading_of_answersWith hw ha function

/-- Two sessions give the same result of an exchange in which the kernel brings the same whole
frame to both, whatever their carriers: the bytes that the frame says it has, or its error. -/
theorem exchange_same_over_carriers (s u : Session) (target target' : UInt64) (function : Function)
    (r : Responder Kernel.calls ρ) (st : ρ) (r' : Responder Kernel.calls σ) (st' : σ)
    (hs : ∀ e ∈ (s.converse (Smp.exchange target function request capacity)).transcript r st,
      s.carrier.Brings frame capacity e)
    (hu : ∀ e ∈ (u.converse (Smp.exchange target' function request capacity)).transcript r' st',
      u.carrier.Brings frame capacity e) :
    ((s.converse (Smp.exchange target function request capacity)).run r st).1 =
        ((u.converse (Smp.exchange target' function request capacity)).run r' st').1 ∧
      ((s.converse (Smp.exchange target function request capacity)).run r st).1 =
        (validLength function frame none).map frame.take := by
  have h := run_exchange hw hlength hcapacity hrequest s target function r st hs
  have h' := run_exchange hw hlength hcapacity hrequest u target' function r' st' hu
  exact ⟨h.trans h'.symm, h⟩

end Exchanges

/-! ## A short report -/

/-- A response to REPORT GENERAL of one dword. -/
def shortReport : Bytes := [Smp.responseType, 0, 0, 1, 0x11, 0x22, 0x33, 0x44]

/-- A kernel that brings this response to each request with a buffer of 32 bytes. -/
def bringsShortReport : Responder Kernel.calls Unit := fun call _ =>
  (match call with
    | .open _ => .ok ()
    | .deviceNumbers _ => .ok none
    | .scsi .. =>
      .ok ⟨shortReport ++ List.replicate 24 0 ++ List.replicate 16 0 ++ Bytes.le 4 8, 24, 0, 0, 0⟩
    | .mpt .. => .ok ⟨shortReport, []⟩, ())

theorem exchange_same_over_carriers_shortReport :
    let through (carrier : Carrier) := (((Session.mk "" carrier 0 0 0).converse
      (Smp.exchange 0 .reportGeneral [Smp.requestType, 0, 0, 0] 32)).run bringsShortReport ()).1
    through .bsg = through (.mpt .second) ∧ through .bsg = through .mpi3mr ∧
      through .bsg = .ok shortReport := by
  intro through
  have hw : IsWhole shortReport := by
    refine ⟨by decide, fun h hr => ?_⟩
    obtain rfl := Option.some.inj hr
    decide
  have hb : ∀ carrier, ∀ e ∈ ((Session.mk "" carrier 0 0 0).converse
      (Smp.exchange 0 .reportGeneral [Smp.requestType, 0, 0, 0] 32)).transcript
        bringsShortReport (), carrier.Brings shortReport 32 e := by
    intro carrier e he
    cases carrier with
    | bsg =>
      obtain rfl := List.mem_singleton.1 he
      exact ⟨by decide, rfl, rfl, rfl, rfl⟩
    | mpt opcode =>
      obtain rfl := List.mem_singleton.1 he
      exact ⟨by decide, rfl, rfl⟩
    | mpi3mr =>
      obtain rfl := List.mem_singleton.1 he
      exact ⟨by decide, rfl, rfl, rfl, rfl⟩
  obtain ⟨hmpt, hresult⟩ := exchange_same_over_carriers hw (by decide) (by decide) (by decide)
    (Session.mk "" .bsg 0 0 0) (Session.mk "" (.mpt .second) 0 0 0) 0 0 .reportGeneral
    bringsShortReport () bringsShortReport () (hb .bsg) (hb (.mpt .second))
  obtain ⟨hpacket, -⟩ := exchange_same_over_carriers hw (by decide) (by decide) (by decide)
    (Session.mk "" .bsg 0 0 0) (Session.mk "" .mpi3mr 0 0 0) 0 0 .reportGeneral
    bringsShortReport () bringsShortReport () (hb .bsg) (hb .mpi3mr)
  exact ⟨hmpt, hpacket, hresult⟩

end BayMap.Transport
