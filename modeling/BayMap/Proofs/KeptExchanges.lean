import BayMap.Transport.Session

/-!
# Exchanges that are sent to a controller

An exchange that a controller does not answer stays as it was, whichever step towards the answer
fails. What is handed to the kernel for a controller of the first generations describes its own
buffers: the same length stands in the record and in the message behind it.

* `kept_send`: an exchange that fails, fails for a length, a call or a status, and is kept.
* `mptBlock_of_fits`, `mptBlock_of_tooLarge`: which exchanges have a block.
* `dataInSize_encode`, `dataOutSize_encode`, `requestDataLength_encode`: where the lengths stand in
  the bytes of a block.
* `sendMpt_of_fits`, `mptSettled_ok`: an exchange that has a block is one call, and what comes of it.
* `exchange_kept_unless_answered`: both, for every exchange with a controller and every kernel.
-/

namespace BayMap

open Kernel (Call MptBlock MptOpcode)

variable {ρ : Type}

/-! ## Failures -/

/-- The error is one of sending to a controller: a length that does not fit, a call that fails, or a
status of the controller or of the exchange behind it. -/
def TransportError.IsOfSending : TransportError → Prop
  | .requestTooLarge _ | .ioctl .. | .sasStatus .. => True
  | .open .. | .stat .. | .deviceIdentity .. | .noOrdinal _ | .unsupported => False

theorem Controller.isOfSending_messagePacket {ordinal : UInt8} {buffers : List Buffer}
    {dataOut : Bytes} {e : TransportError} (h : messagePacket ordinal buffers dataOut = .error e) :
    e.IsOfSending := by
  unfold messagePacket at h
  split at h
  · cases h
    trivial
  · cases h

namespace Transport

/-- Of two steps that fail together one fails. -/
theorem error_of_bind {ε α β : Type} {x : Except ε α} {f : α → Except ε β} {e : ε}
    (h : x >>= f = .error e) : x = .error e ∨ ∃ a, f a = .error e := by
  cases x with
  | error _ =>
    cases h
    exact .inl rfl
  | ok a => exact .inr ⟨a, h⟩

namespace Session

/-- A length is refused as one that does not fit. -/
theorem isOfSending_of_refused {α : Type} {p : Prop} [Decidable p] {value : α} {length : Nat}
    {e : TransportError}
    (h : (if p then .ok value else .error (.requestTooLarge length)) = Except.error e) :
    e.IsOfSending := by
  split at h
  · cases h
  · cases h
    trivial

theorem isOfSending_packetHeader {timeout : UInt32} {packet : Controller.Packet} {capacity : Nat}
    {e : TransportError} (h : packetHeader timeout packet capacity = .error e) :
    e.IsOfSending := by
  obtain h | ⟨request, h⟩ := error_of_bind h
  · exact isOfSending_of_refused h
  obtain h | ⟨dout, h⟩ := error_of_bind h
  · exact isOfSending_of_refused h
  obtain h | ⟨din, h⟩ := error_of_bind h
  · exact isOfSending_of_refused h
  · cases h

/-- A result of sending an exchange: if it is an error, it is one of sending, and the exchange is
still what it was. -/
def Kept (x : Exchange) (sent : Except TransportError Unit × Exchange) : Prop :=
  ∀ e, sent.1 = .error e → e.IsOfSending ∧ sent.2 = x

theorem kept_error {e : TransportError} (h : e.IsOfSending) (x : Exchange) :
    Kept x (.error e, x) := by
  rintro _ ⟨⟩
  exact ⟨h, rfl⟩

theorem kept_ok (x y : Exchange) : Kept x (.ok (), y) := nofun

theorem isOfSending_mptBlock {ordinal : UInt8} {address : UInt64} {x : Exchange}
    {e : TransportError} (h : mptBlock ordinal address x = .error e) : e.IsOfSending := by
  obtain h | ⟨dataIn, h⟩ := error_of_bind h
  · exact isOfSending_of_refused h
  obtain h | ⟨dataOut, h⟩ := error_of_bind h
  · exact isOfSending_of_refused h
  obtain h | ⟨message, h⟩ := error_of_bind h
  · exact isOfSending_of_refused h
  · cases h

theorem isOfSending_acceptReply {reply : Controller.MptReply} {e : TransportError}
    (h : acceptReply reply = .error e) : e.IsOfSending := by
  unfold acceptReply at h
  split at h
  · cases h
    trivial
  · cases h

theorem kept_sendMpt (path : String) (opcode : MptOpcode) (ordinal : UInt8) (address : UInt64)
    (x : Exchange) : (sendMpt path opcode ordinal address x).Ensures (Kept x) := by
  unfold sendMpt
  cases hb : mptBlock ordinal address x with
  | error e => exact kept_error (isOfSending_mptBlock hb) x
  | ok block =>
    refine Dialogue.ensures_bind _ ?_
    rintro (errno | outcome)
    · exact kept_error (e := .ioctl opcode.name errno) trivial x
    · dsimp only
      cases ha : acceptReply (Packed.decode outcome.reply) with
      | error e => exact kept_error (isOfSending_acceptReply ha) x
      | ok _ => exact kept_ok x _

theorem isOfSending_sendPacket (path : String) (ordinal : UInt8) (timeout : UInt32) (address : UInt64)
    (frame : Bytes) (capacity : Nat) :
    (sendPacket path ordinal timeout (.smp address frame) capacity).Ensures fun sent =>
      ∀ e, sent = .error e → e.IsOfSending := by
  unfold sendPacket
  cases hp : Controller.Packet.ofCommand (.smp address frame) ordinal capacity with
  | error e =>
    have he := Controller.isOfSending_messagePacket hp
    exact fun _ h => Except.error.inj h ▸ he
  | ok packet =>
    dsimp only
    cases hh : packetHeader timeout packet capacity with
    | error e =>
      have he := isOfSending_packetHeader hh
      exact fun _ h => Except.error.inj h ▸ he
    | ok header =>
      refine Dialogue.ensures_bind _ ?_
      rintro (errno | outcome)
      · have he : (TransportError.ioctl "SG_IO" errno).IsOfSending := trivial
        exact fun _ h => Except.error.inj h ▸ he
      · exact nofun

/-- An exchange that fails is kept, over any controller. -/
theorem kept_send {s : Session} (hs : s.carrier ≠ .bsg) (x : Exchange) :
    (s.send x).Ensures (Kept x) := by
  obtain ⟨path, carrier, ordinal, target, timeout⟩ := s
  cases carrier with
  | bsg => exact absurd rfl hs
  | mpt opcode => exact kept_sendMpt path opcode ordinal target x
  | mpi3mr =>
    refine (isOfSending_sendPacket path ordinal timeout target x.request x.response.size).bind ?_
    rintro (e | reply) h
    · exact kept_error (h e rfl) x
    · exact kept_ok x _

/-! ## Controllers of the first generations -/

/-- The block of an exchange whose lengths fit. -/
def blockFor (ordinal : UInt8) (address : UInt64) (x : Exchange) : MptBlock where
  command :=
    { (Packed.decode [] : Kernel.MptCommand) with
      iocNumber := ordinal.toUInt32
      maxReplyBytes := .ofNat Kernel.mptReplyLength
      dataInSize := .ofNat (x.response.size + Smp.checksumLength)
      dataOutSize := .ofNat (x.request.length - Smp.checksumLength)
      dataSgeOffset := .ofNat (Controller.mptBuffersOffset / 4) }
  message :=
    { (Packed.decode [] : Controller.MptRequest) with
      function := Controller.mptSmpFunction
      requestDataLength := .ofNat (x.request.length - Smp.checksumLength)
      sasAddress := address }

/-- The length that an exchange is refused for: that of the buffer for the response first, then that
of what goes out, which the record holds in more bits than the message. -/
def refusedLength (x : Exchange) : Nat :=
  if 0x80000000 ≤ x.response.size + 4 then x.response.size + 4
  else if 0x80000000 ≤ x.request.length - 4 then x.request.length - 4
  else x.request.length

section Mpt

variable {x : Exchange}

theorem mptBlock_of_fits (hin : x.response.size + 4 < 0x80000000)
    (hout : x.request.length ≤ 0x10003) (ordinal : UInt8) (address : UInt64) :
    mptBlock ordinal address x = .ok (blockFor ordinal address x) := by
  have h1 : signedLength (x.response.size + Smp.checksumLength) = .ok _ := if_pos hin
  have h2 : signedLength (x.request.length - Smp.checksumLength) = .ok _ :=
    if_pos (by rw [Smp.checksumLength]; omega)
  have h3 : mptMessage address x.request.length = .ok _ :=
    if_pos (by rw [Smp.checksumLength, UInt16.size]; omega)
  rw [mptBlock, h1, h2, h3]
  rfl

theorem mptBlock_of_tooLarge (h : 0x10003 < x.request.length ∨ 0x80000000 ≤ x.response.size + 4)
    (ordinal : UInt8) (address : UInt64) :
    mptBlock ordinal address x = .error (.requestTooLarge (refusedLength x)) := by
  unfold refusedLength
  by_cases hin : 0x80000000 ≤ x.response.size + 4
  · have h1 : signedLength (x.response.size + Smp.checksumLength) = .error _ :=
      if_neg (Nat.not_lt.2 hin)
    rw [if_pos hin, mptBlock, h1]
    rfl
  have h1 : signedLength (x.response.size + Smp.checksumLength) = .ok _ :=
    if_pos (Nat.not_le.1 hin)
  rw [if_neg hin]
  by_cases hout : 0x80000000 ≤ x.request.length - 4
  · have h2 : signedLength (x.request.length - Smp.checksumLength) = .error _ :=
      if_neg (Nat.not_lt.2 hout)
    rw [if_pos hout, mptBlock, h1, h2]
    rfl
  have h2 : signedLength (x.request.length - Smp.checksumLength) = .ok _ :=
    if_pos (Nat.not_le.1 hout)
  have h3 : mptMessage address x.request.length = .error _ :=
    if_neg (by rw [Smp.checksumLength, UInt16.size]; omega)
  rw [if_neg hout, mptBlock, h1, h2, h3]
  rfl

/-- What comes of an exchange once the kernel has answered. -/
def mptSettled (opcode : MptOpcode) (x : Exchange) :
    Except Files.Errno Kernel.MptOutcome → Except TransportError Unit × Exchange
  | .error errno => (.error (.ioctl opcode.name errno), x)
  | .ok o =>
    match acceptReply (Packed.decode o.reply) with
    | .error e => (.error e, x)
    | .ok () => (.ok (), { x with
        response := { x.response with start := o.dataIn }
        received := none
        status := 0 })

theorem sendMpt_of_fits (hin : x.response.size + 4 < 0x80000000)
    (hout : x.request.length ≤ 0x10003) (path : String) (opcode : MptOpcode) (ordinal : UInt8)
    (address : UInt64) :
    sendMpt path opcode ordinal address x =
      .ask (.mpt path opcode (blockFor ordinal address x)
        (x.request.take (x.request.length - 4))) fun answer =>
          .done (mptSettled opcode x answer) := by
  unfold sendMpt
  rw [mptBlock_of_fits hin hout]
  refine congrArg (Dialogue.ask _) (funext fun answer => ?_)
  rcases answer with errno | o
  · rfl
  · cases h : acceptReply (Packed.decode o.reply) <;>
      simp only [Dialogue.bind, mptSettled, h] <;> rfl

/-- The statuses of a reply are success where they are zero, the highest bit of the first one
aside. -/
theorem succeeds_iff (reply : Controller.MptReply) :
    ¬(reply.ioc ≠ .success ∨ reply.sas ≠ .success) ↔
      reply.iocStatus &&& 0x7fff = 0 ∧ reply.sasStatus = 0 := by
  have hioc : reply.ioc = .success ↔ reply.iocStatus &&& 0x7fff = 0 :=
    Controller.IocStatus.mk.injEq _ _ ▸ Iff.rfl
  have hsas : reply.sas = .success ↔ reply.sasStatus = 0 :=
    Controller.SasStatus.mk.injEq _ _ ▸ Iff.rfl
  rw [← hioc, ← hsas, not_or, ne_eq, ne_eq, Decidable.not_not, Decidable.not_not]

theorem mptSettled_ok (opcode : MptOpcode) {o : Kernel.MptOutcome} {reply : Controller.MptReply}
    (hr : Packed.decode o.reply = reply) :
    mptSettled opcode x (.ok o) =
      if reply.iocStatus &&& 0x7fff = 0 ∧ reply.sasStatus = 0 then
        (.ok (), { x with
          response := { x.response with start := o.dataIn }
          received := none
          status := 0 })
      else (.error (.sasStatus reply.ioc reply.sas reply.iocLogInfo), x) := by
  subst hr
  let reply : Controller.MptReply := Packed.decode o.reply
  have haccept : acceptReply reply =
      if reply.ioc ≠ .success ∨ reply.sas ≠ .success then
        .error (.sasStatus reply.ioc reply.sas reply.iocLogInfo)
      else .ok () := rfl
  by_cases hs : reply.ioc ≠ .success ∨ reply.sas ≠ .success
  · rw [if_neg fun h => (succeeds_iff reply).2 h hs, mptSettled, haccept, if_pos hs]
  · rw [if_pos ((succeeds_iff reply).1 hs), mptSettled, haccept, if_neg hs]

end Mpt

end Session

end Transport

/-! ## The bytes of a block -/

namespace Kernel.MptBlock

variable (b : MptBlock)

theorem dataInSize_encode : b.encode.u32At 0x34 = b.command.dataInSize := by
  rw [encode, Bytes.u32At_fit _ (by decide)]
  simp [Packed.encode]

theorem dataOutSize_encode : b.encode.u32At 0x38 = b.command.dataOutSize := by
  rw [encode, Bytes.u32At_fit _ (by decide)]
  simp [Packed.encode]

/-- The message starts behind the 68 bytes of the record. -/
theorem requestDataLength_encode : b.encode.u16At (68 + 4) = b.message.requestDataLength := by
  rw [encode, Bytes.u16At_fit _ (by decide)]
  simp [Packed.encode]

end Kernel.MptBlock

/-! ## An exchange with a controller -/

namespace Transport

open Session

/-- What comes in is written to a buffer that has room for the checksum too, and the response is the
first part of it. -/
theorem toList_response (start : Bytes) (size : Nat) :
    (Zeroed.mk start size).toList = (start.fit (size + 4)).take size := by
  rw [Bytes.take_fit_add, Bytes.fit_take, Zeroed.toList]

/-- An exchange that fails over a controller fails for a length, a call or a status, and is kept as
it was. Over a controller of the first generations lengths that do not fit are refused before any
call is made, a request above `0x10003` bytes among them. Any other exchange makes one call, whose
block tells twice how much goes out, and tells how much may come in, the checksum of the response
counted. The exchange succeeds exactly if the call does and both statuses of the reply are zero, the
highest bit of the first one aside; the response then is the first part of what came in, and how
long it is, is not known. -/
theorem exchange_kept_unless_answered {s : Session} (hs : s.carrier ≠ .bsg) (x : Exchange)
    (r : Responder Kernel.calls ρ) (st : ρ) :
    let told := (s.send x).transcript r st
    let result := ((s.send x).run r st).1.1
    let after := ((s.send x).run r st).1.2
    (∀ e, result = .error e → e.IsOfSending ∧ after = x) ∧
    ∀ opcode, s.carrier = .mpt opcode →
      (0x10003 < x.request.length ∨ 0x80000000 ≤ x.response.size + 4 →
        told = [] ∧ result = .error (.requestTooLarge (refusedLength x))) ∧
      (x.request.length ≤ 0x10003 → x.response.size + 4 < 0x80000000 →
        ∃ block answer,
          told = [⟨.mpt s.path opcode block (x.request.take (x.request.length - 4)), answer⟩] ∧
          (block.encode.u32At 0x34).toNat = x.response.size + 4 ∧
          (block.encode.u32At 0x38).toNat = x.request.length - 4 ∧
          (block.encode.u16At (68 + 4)).toNat = x.request.length - 4 ∧
          (∀ errno, answer = .error errno → result = .error (.ioctl opcode.name errno)) ∧
          ∀ outcome, answer = .ok outcome →
            let reply : Controller.MptReply := Packed.decode outcome.reply
            if reply.iocStatus &&& 0x7fff = 0 ∧ reply.sasStatus = 0 then
              result = .ok () ∧
                after.response.toList =
                  (outcome.dataIn.fit (x.response.size + 4)).take x.response.size ∧
                after.received = none ∧ after.status = 0 ∧ after.request = x.request
            else
              result = .error (.sasStatus reply.ioc reply.sas reply.iocLogInfo)) := by
  intro told result after
  refine ⟨(kept_send hs x).run r st, fun opcode hc => ?_⟩
  obtain ⟨path, carrier, ordinal, target, timeout⟩ := s
  obtain rfl : carrier = .mpt opcode := hc
  refine ⟨fun htooLarge => ?_, fun hout hin => ?_⟩
  · have hsend : Session.send ⟨path, .mpt opcode, ordinal, target, timeout⟩ x =
        .done (.error (.requestTooLarge (refusedLength x)), x) := by
      simp only [Session.send, sendMpt, mptBlock_of_tooLarge htooLarge]
      rfl
    simp only [told, result, hsend]
    exact ⟨rfl, rfl⟩
  · let q : Call :=
      .mpt path opcode (blockFor ordinal target x) (x.request.take (x.request.length - 4))
    have hsend : Session.send ⟨path, .mpt opcode, ordinal, target, timeout⟩ x =
        .ask q fun answer => .done (mptSettled opcode x answer) :=
      sendMpt_of_fits hin hout path opcode ordinal target
    have htold : told = [⟨q, (r q st).1⟩] := by
      simp only [told, hsend]
      rfl
    have hresult : result = (mptSettled opcode x (r q st).1).1 := by
      simp only [result, hsend]
      rfl
    have hafter : after = (mptSettled opcode x (r q st).1).2 := by
      simp only [after, hsend]
      rfl
    refine ⟨blockFor ordinal target x, (r q st).1, htold, ?_, ?_, ?_, ?_, ?_⟩
    · rw [Kernel.MptBlock.dataInSize_encode]
      exact UInt32.toNat_ofNat_of_lt' (by simp only [UInt32.size, Smp.checksumLength]; omega)
    · rw [Kernel.MptBlock.dataOutSize_encode]
      exact UInt32.toNat_ofNat_of_lt' (by simp only [UInt32.size, Smp.checksumLength]; omega)
    · rw [Kernel.MptBlock.requestDataLength_encode]
      exact UInt16.toNat_ofNat_of_lt' (by simp only [UInt16.size, Smp.checksumLength]; omega)
    · intro errno herror
      rw [hresult, herror]
      rfl
    · intro outcome hok reply
      rw [hok, mptSettled_ok opcode (show Packed.decode outcome.reply = reply from rfl)] at hresult hafter
      split
      · rename_i hs
        rw [if_pos hs] at hresult hafter
        rw [hafter]
        exact ⟨hresult, toList_response .., rfl, rfl, rfl⟩
      · rename_i hs
        rw [if_neg hs] at hresult
        exact hresult

/-- A kernel that carries no packet, and brings a refusal to every other request. -/
def bringsRefusal : Responder Kernel.calls Unit := fun call _ =>
  (match call with
    | .open _ => .ok ()
    | .deviceNumbers _ => .ok none
    | .scsi .. => .error ⟨5⟩
    | .mpt .. => .ok ⟨[Smp.responseType, 0, 0, 1], List.replicate 13 0 ++ [1]⟩, ())

theorem exchange_kept_unless_answered_refusal :
    let x : Exchange := ⟨[Smp.requestType, 0, 0, 0, 0, 0, 0, 0], ⟨[1, 2, 3], 32⟩, some 3, 7⟩
    let through (carrier : Carrier) := (Session.mk "" carrier 0 0 0).send x
    ((through (.mpt .second)).run bringsRefusal ()).1 = (.error (.sasStatus .success ⟨1⟩ 0), x) ∧
      ((through .mpi3mr).run bringsRefusal ()).1 = (.error (.ioctl "SG_IO" ⟨5⟩), x) ∧
      ∃ block answer,
        (through (.mpt .second)).transcript bringsRefusal () =
          [⟨.mpt "" .second block [Smp.requestType, 0, 0, 0], answer⟩] ∧
        (block.encode.u32At 0x34).toNat = 36 ∧ (block.encode.u32At 0x38).toNat = 4 ∧
        (block.encode.u16At (68 + 4)).toNat = 4 := by
  intro x through
  have hmpt := exchange_kept_unless_answered (s := Session.mk "" (.mpt .second) 0 0 0) (by decide) x
    bringsRefusal ()
  have hpacket := exchange_kept_unless_answered (s := Session.mk "" .mpi3mr 0 0 0) (by decide) x
    bringsRefusal ()
  obtain ⟨block, answer, htold, hin, hout, hmessage, -⟩ :=
    (hmpt.2 .second rfl).2 (by decide) (by decide)
  exact ⟨Prod.ext rfl (hmpt.1 _ rfl).2, Prod.ext rfl (hpacket.1 _ rfl).2,
    block, answer, htold, hin, hout, hmessage⟩

end Transport

end BayMap
