import BayMap.Proofs.Carriers

/-!
# Packets as a driver reads them

A driver finds the parts of both transfers by walking over the descriptors of a packet: each takes
its bytes from the transfer of its direction, and at the end nothing may be left of either (`cut?`).
Transfers that parts were laid out in are cut into those parts (`cut?_transfers`), and the packet
of a message lists the buffers of the message (`messagePacket_eq_ok`). What a driver reads is then
the command that the packet was made for.

* `Buffer.readMany_encode`: descriptors are read back in their order.
* `ofCommand_of_isMessage`: the packets of all messages have one layout.
* `carries_of_ofCommand`: what a driver reads from the packet of a message, whatever comes in.
* `split_of_sendPacket`: where a session splits what comes in.
* `packet_reads_back_as_command`: a packet can be made unless a length does not fit, and it gives
  back its command, the reply area starting where the session splits what came in.
-/

namespace BayMap.Controller

open Transport

/-! ## Reading descriptors -/

/-- The buffer that a descriptor is about. -/
def Buffer.decode (b : Bytes) : Buffer := ⟨⟨b.u8At 0⟩, (b.u32At 4).toNat⟩

/-- The buffers of so many descriptors in a row. -/
def Buffer.readMany : (count : Nat) → Bytes → List Buffer
  | 0, _ => []
  | count + 1, b => Buffer.decode b :: readMany count (b.drop 8)

/-- The bytes that buffers take one after another. -/
def Buffer.total (l : List Buffer) : Nat := l.foldl (· + ·.length) 0

theorem Buffer.foldl_length (l : List Buffer) (n : Nat) :
    l.foldl (· + ·.length) n = n + total l := by
  induction l generalizing n with
  | nil => rfl
  | cons x l ih =>
    have hcons : total (x :: l) = 0 + x.length + total l := ih (0 + x.length)
    rw [List.foldl_cons, ih, hcons]
    omega

theorem Buffer.total_cons (x : Buffer) (l : List Buffer) : total (x :: l) = x.length + total l := by
  rw [total, List.foldl_cons, foldl_length, Nat.zero_add]

/-- The buffers that the packet of a message lists. -/
def listed (packet : Bytes) : List Buffer :=
  Buffer.readMany (packet.u8At 20).toNat (packet.drop 28)

theorem Buffer.length_encode (x : Buffer) : x.encode.length = 8 := by
  simp [Buffer.encode]

theorem Buffer.decode_encode (x : Buffer) (h : x.length < UInt32.size) (rest : Bytes) :
    Buffer.decode (x.encode ++ rest) = x := by
  have hl : (UInt32.ofNat x.length).toNat = x.length := UInt32.toNat_ofNat_of_lt' h
  simp [Buffer.decode, Buffer.encode, Bytes.u32At_le, hl]

theorem Buffer.readMany_encode (l : List Buffer) (h : ∀ x ∈ l, x.length < UInt32.size) :
    Buffer.readMany l.length (l.flatMap Buffer.encode) = l := by
  induction l with
  | nil => rfl
  | cons x l ih =>
    have hdrop : (x.encode ++ l.flatMap Buffer.encode).drop 8 = l.flatMap Buffer.encode :=
      List.drop_left' x.length_encode
    have hx := x.decode_encode (h x List.mem_cons_self) (l.flatMap Buffer.encode)
    rw [List.flatMap_cons, List.length_cons, Buffer.readMany, hdrop, hx,
      ih fun y hy => h y (List.mem_cons_of_mem _ hy)]

theorem length_flatMap_encode (l : List Buffer) :
    (l.flatMap Buffer.encode).length = 8 * l.length := by
  induction l with
  | nil => rfl
  | cons x l ih =>
    rw [List.flatMap_cons, List.length_append, x.length_encode, ih, List.length_cons]
    omega

/-! ## Cutting transfers -/

/-- A part of a transfer: what it holds, and its bytes. -/
structure Part where
  kind : BufferKind
  bytes : Bytes
  deriving DecidableEq, Repr

/-- The buffer of a part. -/
def Part.buffer (p : Part) : Buffer := ⟨p.kind, p.bytes.length⟩

/-- The parts that the buffers of a list cut the two transfers into. Each buffer takes its bytes
from the transfer of its direction, and nothing is left at the end. -/
def cut? : List Buffer → (dataOut dataIn : Bytes) → Option (List Part)
  | [], dataOut, dataIn => if dataOut = [] ∧ dataIn = [] then some [] else none
  | x :: rest, dataOut, dataIn =>
    if x.kind.goesOut then
      if dataOut.length < x.length then none
      else (cut? rest (dataOut.drop x.length) dataIn).map (⟨x.kind, dataOut.take x.length⟩ :: ·)
    else
      if dataIn.length < x.length then none
      else (cut? rest dataOut (dataIn.drop x.length)).map (⟨x.kind, dataIn.take x.length⟩ :: ·)

/-- The transfer in a direction whose parts are those of a list. -/
def transfer (out : Bool) (parts : List Part) : Bytes :=
  (parts.filter (·.kind.goesOut == out)).flatMap (·.bytes)

theorem cut?_transfers (parts : List Part) :
    cut? (parts.map Part.buffer) (transfer true parts) (transfer false parts) = some parts := by
  induction parts with
  | nil => rfl
  | cons p parts ih =>
    cases hp : p.kind.goesOut with
    | true =>
      have hout : transfer true (p :: parts) = p.bytes ++ transfer true parts := by
        simp [transfer, hp]
      have hin : transfer false (p :: parts) = transfer false parts := by simp [transfer, hp]
      rw [List.map_cons, hout, hin, cut?]
      simp [Part.buffer, hp, ih]
    | false =>
      have hout : transfer true (p :: parts) = transfer true parts := by simp [transfer, hp]
      have hin : transfer false (p :: parts) = p.bytes ++ transfer false parts := by
        simp [transfer, hp]
      rw [List.map_cons, hout, hin, cut?]
      simp [Part.buffer, hp, ih]

/-- Bytes as many as buffers hold together are the bytes of parts with those buffers. -/
theorem exists_parts (l : List Buffer) (b : Bytes) (h : b.length = Buffer.total l) :
    ∃ parts : List Part, parts.map Part.buffer = l ∧ parts.flatMap (·.bytes) = b := by
  induction l generalizing b with
  | nil => exact ⟨[], rfl, (List.length_eq_zero_iff.1 h).symm⟩
  | cons x l ih =>
    rw [Buffer.total_cons] at h
    have hrest : (b.drop x.length).length = Buffer.total l := by
      rw [List.length_drop]
      omega
    have hx : (b.take x.length).length = x.length := by
      rw [List.length_take]
      omega
    obtain ⟨parts, hl, hb⟩ := ih (b.drop x.length) hrest
    refine ⟨⟨x.kind, b.take x.length⟩ :: parts, ?_, ?_⟩
    · rw [List.map_cons, hl, Part.buffer, hx]
    · rw [List.flatMap_cons, hb, List.take_append_drop]

/-! ## The packets of messages -/

namespace Command

/-- The command is a message to the controller, not a question to the driver. -/
def isMessage : Command → Bool
  | .adapterInfo | .targets => false
  | .facts | .config _ | .scsi _ | .smp .. => true

/-- The management frame that a command passes on. -/
def frame : Command → Bytes
  | .smp _ frame => frame
  | .adapterInfo | .targets | .facts | .config _ | .scsi _ => []

/-- The part of a packet that holds the management frame. -/
def frameParts : Command → List Part
  | .smp _ frame => [⟨.dataOut, frame⟩]
  | .adapterInfo | .targets | .facts | .config _ | .scsi _ => []

/-- The message to the controller. -/
def message : Command → Bytes
  | .adapterInfo | .targets => []
  | .facts => Packed.encode factsRequest
  | .config request => Packed.encode request
  | .scsi request => Packed.encode request
  | .smp address _ => Packed.encode (smpRequest address)

/-- The buffers of the reply area. -/
def replies : Command → List Buffer
  | .adapterInfo | .targets => []
  | .facts | .config _ => [⟨.reply, shortReplyLength⟩]
  | .scsi _ => [⟨.reply, scsiReplyLength⟩, ⟨.errorResponse, scsiSenseLength⟩]
  | .smp .. => [⟨.reply, Packed.size SmpReply⟩]

/-- The buffers of a message whose data has `capacity` bytes. -/
def buffers (c : Command) (capacity : Nat) : List Buffer :=
  c.frameParts.map Part.buffer ++ ⟨.dataIn, capacity⟩ :: c.replies ++ [⟨.message, c.message.length⟩]

/-- The parts of both transfers of a message, in the order of its descriptors. -/
def parts (c : Command) (data : Bytes) (replies : List Part) (message : Bytes) : List Part :=
  c.frameParts ++ ⟨.dataIn, data⟩ :: replies ++ [⟨.message, message⟩]

/-- A message asks for what a command says. -/
def AskedBy (message : Bytes) : Command → Prop
  | .adapterInfo | .targets => False
  | .facts => ∃ r, Packed.read? FactsRequest message = some r ∧ r.function = factsFunction
  | .config request => Packed.read? ConfigRequest message = some request
  | .scsi request => Packed.read? ScsiRequest message = some request
  | .smp address _ =>
    ∃ r, Packed.read? SmpRequest message = some r ∧ r.function = smpFunction ∧
      r.ioUnit = anyUnit ∧ r.sasAddress = address

theorem askedBy_message (c : Command) (h : c.isMessage) : c.AskedBy c.message := by
  cases c with
  | adapterInfo => exact absurd h Bool.false_ne_true
  | targets => exact absurd h Bool.false_ne_true
  | facts => exact ⟨_, Packed.read?_encode factsRequest, rfl⟩
  | config request => exact Packed.read?_encode request
  | scsi request => exact Packed.read?_encode request
  | smp address frame => exact ⟨_, Packed.read?_encode (smpRequest address), rfl, rfl, rfl⟩

end Command

/-- The packet of a message lists the buffers of the message. -/
theorem ofCommand_of_isMessage {c : Command} (h : c.isMessage) (ordinal : UInt8) (capacity : Nat) :
    Packet.ofCommand c ordinal capacity =
      messagePacket ordinal (c.buffers capacity) (c.frame ++ c.message) := by
  cases c with
  | adapterInfo => exact absurd h Bool.false_ne_true
  | targets => exact absurd h Bool.false_ne_true
  | _ =>
    unfold Packet.ofCommand Command.buffers Command.frameParts Command.replies Command.frame
      Command.message
    simp [Part.buffer]

/-- A length that does not fit is one that the caller chooses. -/
theorem length_of_tooLarge {c : Command} {capacity : Nat} {x : Buffer}
    (hx : x ∈ c.buffers capacity) (hle : UInt32.size ≤ x.length) :
    x.length = capacity ∨ x.length = c.frame.length := by
  have hs : 1000 ≤ UInt32.size := by decide
  have hmessage : c.message.length < 1000 := by
    unfold Command.message
    cases c <;> simp [LawfulPacked.length_encode, Packed.size]
  have hreplies : ∀ y ∈ c.replies, y.length < 1000 := by
    cases c <;>
      simp [Command.replies, shortReplyLength, scsiReplyLength, scsiSenseLength, Packed.size]
  have hframe : ∀ p ∈ c.frameParts, p.bytes = c.frame := by
    cases c <;> simp [Command.frameParts, Command.frame]
  simp only [Command.buffers, List.mem_append, List.mem_cons, List.mem_map, List.not_mem_nil,
    or_false] at hx
  rcases hx with (⟨p, hp, rfl⟩ | rfl | hx) | rfl
  · right
    rw [← hframe p hp]
    rfl
  · exact .inl rfl
  · have := hreplies x hx
    omega
  · dsimp only at hle
    omega

theorem exists_tooLarge_iff (c : Command) (capacity : Nat) :
    (∃ x ∈ c.buffers capacity, UInt32.size ≤ x.length) ↔
      UInt32.size ≤ capacity ∨ UInt32.size ≤ c.frame.length := by
  constructor
  · rintro ⟨x, hx, hle⟩
    rcases length_of_tooLarge hx hle with h | h
    · exact .inl (h ▸ hle)
    · exact .inr (h ▸ hle)
  · rintro (h | h)
    · exact ⟨⟨.dataIn, capacity⟩, by simp [Command.buffers], h⟩
    · cases c with
      | smp address frame => exact ⟨⟨.dataOut, frame.length⟩, List.mem_cons_self, h⟩
      | _ => exact absurd h (Nat.not_le.2 (show 0 < UInt32.size by decide))

/-- The packet of a message says what it is, which controller it is for, and which buffers follow;
the reply area is as long as its buffers. -/
theorem messagePacket_eq_ok {ordinal : UInt8} {l : List Buffer} {dataOut : Bytes} {packet : Packet}
    (h : messagePacket ordinal l dataOut = .ok packet) (hl : l.length < 256) :
    packet.bytes.u8At 0 = 2 ∧ packet.bytes.u8At 16 = ordinal ∧
      (packet.bytes.u8At 20).toNat = l.length ∧ packet.bytes.length = 28 + 8 * l.length ∧
      listed packet.bytes = l ∧ packet.dataOut = dataOut ∧
      packet.replyLength = Buffer.total (l.filter (·.kind.isReply)) := by
  unfold messagePacket at h
  cases hf : l.find? (UInt32.size ≤ ·.length) with
  | some x => rw [hf] at h; cases h
  | none =>
    rw [hf] at h
    cases h
    have hcount : (UInt8.ofNat l.length).toNat = l.length := UInt8.toNat_ofNat_of_lt' hl
    have hfits : ∀ x ∈ l, x.length < UInt32.size := by
      intro x hx
      have hx := List.find?_eq_none.1 hf x hx
      exact Nat.lt_of_not_le fun hle => hx (decide_eq_true hle)
    refine ⟨rfl, rfl, hcount, ?_, ?_, rfl, rfl⟩
    · rw [List.length_append, length_flatMap_encode]
      simp
    · show Buffer.readMany (UInt8.ofNat l.length).toNat (l.flatMap Buffer.encode) = l
      rw [hcount, Buffer.readMany_encode l hfits]

theorem exists_tooLarge_of_error {ordinal : UInt8} {l : List Buffer} {dataOut : Bytes}
    {e : TransportError} (h : messagePacket ordinal l dataOut = .error e) :
    ∃ x ∈ l, UInt32.size ≤ x.length ∧ e = .requestTooLarge x.length := by
  unfold messagePacket at h
  cases hf : l.find? (UInt32.size ≤ ·.length) with
  | none => rw [hf] at h; cases h
  | some x =>
    rw [hf] at h
    cases h
    have hle := List.find?_some (p := fun y : Buffer => decide (UInt32.size ≤ y.length)) hf
    exact ⟨x, List.mem_of_find?_eq_some hf, of_decide_eq_true hle, rfl⟩

theorem messagePacket_of_tooLarge {l : List Buffer} {x : Buffer} (hx : x ∈ l)
    (hle : UInt32.size ≤ x.length) (ordinal : UInt8) (dataOut : Bytes) :
    ∃ e, messagePacket ordinal l dataOut = .error e := by
  unfold messagePacket
  cases hf : l.find? (UInt32.size ≤ ·.length) with
  | none => exact absurd (decide_eq_true hle) (List.find?_eq_none.1 hf x hx)
  | some y => exact ⟨_, rfl⟩

/-! ## What a driver reads -/

theorem transfer_append (out : Bool) (l m : List Part) :
    transfer out (l ++ m) = transfer out l ++ transfer out m := by
  simp [transfer]

theorem transfer_cons (out : Bool) (p : Part) (l : List Part) :
    transfer out (p :: l) = (if p.kind.goesOut = out then p.bytes else []) ++ transfer out l := by
  by_cases hp : p.kind.goesOut = out
  · simp [transfer, hp]
  · simp [transfer, hp]

theorem transfer_of_comesIn {l : List Part} (h : ∀ p ∈ l, p.kind.goesOut = false) :
    transfer true l = [] ∧ transfer false l = l.flatMap (·.bytes) := by
  induction l with
  | nil => exact ⟨rfl, rfl⟩
  | cons p l ih =>
    obtain ⟨hout, hin⟩ := ih fun q hq => h q (List.mem_cons_of_mem _ hq)
    have hp := h p List.mem_cons_self
    constructor
    · rw [transfer_cons, hp, hout]
      rfl
    · rw [transfer_cons, hp, hin]
      rfl

/-- The frame and the message go out, the data and the replies come in. -/
theorem transfer_parts (c : Command) (data message : Bytes) {replies : List Part}
    (h : ∀ p ∈ replies, p.kind.goesOut = false) :
    transfer true (c.parts data replies message) = c.frame ++ message ∧
      transfer false (c.parts data replies message) = data ++ replies.flatMap (·.bytes) := by
  have hframe : transfer true c.frameParts = c.frame ∧ transfer false c.frameParts = [] := by
    cases c <;> simp [Command.frameParts, Command.frame, transfer, BufferKind.goesOut]
  have hdata : BufferKind.dataIn.goesOut = false := rfl
  have hmessage : BufferKind.message.goesOut = true := rfl
  have hnil (out : Bool) : transfer out [] = [] := rfl
  obtain ⟨hout, hin⟩ := transfer_of_comesIn h
  unfold Command.parts
  constructor
  · simp [transfer_append, transfer_cons, hframe.1, hdata, hmessage, hnil, hout]
  · simp [transfer_append, transfer_cons, hframe.2, hdata, hmessage, hnil, hin]

theorem map_buffer_parts {c : Command} {replies : List Part}
    (h : replies.map Part.buffer = c.replies) (data : Bytes) :
    (c.parts data replies c.message).map Part.buffer = c.buffers data.length := by
  simp [Command.parts, Command.buffers, Part.buffer, ← h]

/-- What a driver reads from the packet of a message whose data has `capacity` bytes. -/
structure Packet.Carries (packet : Packet) (command : Command) (ordinal : UInt8)
    (capacity : Nat) : Prop where
  /-- The packet is one of a message, -/
  type : packet.bytes.u8At 0 = 2
  /-- to the controller with the number, -/
  ordinal : packet.bytes.u8At 16 = ordinal
  /-- and as long as its descriptors need. -/
  length : packet.bytes.length = 28 + 8 * (packet.bytes.u8At 20).toNat
  /-- What goes out is the frame, if any, and a message that asks for what the command says. What
  comes in is the data, then the reply, and then the sense data, if any. -/
  parts : ∃ message, command.AskedBy message ∧ packet.dataOut = command.frame ++ message ∧
    ∀ dataIn : Bytes, dataIn.length = capacity + packet.replyLength → ∃ reply sense,
      cut? (listed packet.bytes) packet.dataOut dataIn =
        some (command.parts (dataIn.take capacity) (⟨.reply, reply⟩ :: sense) message) ∧
      reply ++ sense.flatMap (·.bytes) = dataIn.drop capacity ∧
      ∀ p ∈ sense, p.kind = .errorResponse

/-- An opcode is that of a question to the driver. -/
def Command.InquiredBy (opcode : UInt8) : Command → Prop
  | .adapterInfo => opcode = adapterInfoOpcode
  | .targets => opcode = targetsOpcode
  | .facts | .config _ | .scsi _ | .smp .. => False

/-- What a driver reads from the packet of a question to it. -/
structure Packet.Inquires (packet : Packet) (command : Command) (ordinal : UInt8) : Prop where
  type : packet.bytes.u8At 0 = 1
  ordinal : packet.bytes.u8At 8 = ordinal
  opcode : command.InquiredBy (packet.bytes.u8At 9)
  length : packet.bytes.length = 36
  dataOut : packet.dataOut = []
  replyLength : packet.replyLength = 0

theorem replies_of_isMessage {c : Command} (h : c.isMessage) :
    ∃ n sense, c.replies = ⟨.reply, n⟩ :: sense ∧ ∀ x ∈ sense, x.kind = .errorResponse := by
  cases c with
  | adapterInfo => exact absurd h Bool.false_ne_true
  | targets => exact absurd h Bool.false_ne_true
  | facts => exact ⟨_, [], rfl, fun _ hx => nomatch hx⟩
  | config request => exact ⟨_, [], rfl, fun _ hx => nomatch hx⟩
  | scsi request => exact ⟨_, [⟨.errorResponse, scsiSenseLength⟩], rfl, by simp⟩
  | smp address frame => exact ⟨_, [], rfl, fun _ hx => nomatch hx⟩

theorem filter_buffers (c : Command) (capacity : Nat) :
    (c.buffers capacity).filter (·.kind.isReply) = c.replies := by
  cases c <;> rfl

theorem carries_of_ofCommand {c : Command} (hc : c.isMessage) {ordinal : UInt8} {capacity : Nat}
    {packet : Packet} (h : Packet.ofCommand c ordinal capacity = .ok packet) :
    packet.Carries c ordinal capacity := by
  rw [ofCommand_of_isMessage hc] at h
  have hcount : (c.buffers capacity).length < 256 := by
    cases c <;> simp [Command.buffers, Command.frameParts, Command.replies]
  obtain ⟨htype, hordinal, hlisted, hlength, hbuffers, hout, hreply⟩ := messagePacket_eq_ok h hcount
  rw [filter_buffers] at hreply
  rw [← hlisted] at hlength
  refine ⟨htype, hordinal, hlength, c.message, c.askedBy_message hc, hout, fun dataIn hin => ?_⟩
  have hsum : (dataIn.drop capacity).length = Buffer.total c.replies := by
    rw [List.length_drop, hin, hreply]
    omega
  obtain ⟨l, hl, hbytes⟩ := exists_parts c.replies (dataIn.drop capacity) hsum
  have hbuffer := map_buffer_parts hl (dataIn.take capacity)
  rw [List.length_take, hin, Nat.min_eq_left (Nat.le_add_right _ _), ← hbuffers] at hbuffer
  -- The reply area starts with the reply, and whatever follows is sense data.
  obtain ⟨n, kinds, hreplies, hkinds⟩ := replies_of_isMessage hc
  obtain ⟨⟨kind, reply⟩, sense, rfl, hp, rfl⟩ := List.map_eq_cons_iff.1 (hl.trans hreplies)
  obtain rfl : kind = .reply := congrArg Buffer.kind hp
  have hkind : ∀ q ∈ sense, q.kind = .errorResponse := fun q hq =>
    hkinds q.buffer (List.mem_map_of_mem hq)
  have hcomesIn : ∀ q ∈ (⟨.reply, reply⟩ :: sense : List Part), q.kind.goesOut = false := by
    intro q hq
    rcases List.mem_cons.1 hq with rfl | hq
    · rfl
    · rw [hkind q hq]
      rfl
  obtain ⟨hto, hfrom⟩ := transfer_parts c (dataIn.take capacity) c.message hcomesIn
  rw [hbytes, List.take_append_drop] at hfrom
  have hcut := cut?_transfers (c.parts (dataIn.take capacity) (⟨.reply, reply⟩ :: sense) c.message)
  rw [hbuffer, hto, ← hout, hfrom] at hcut
  exact ⟨reply, sense, hcut, hbytes, hkind⟩

theorem inquires_of_ofCommand {c : Command} (hc : ¬c.isMessage) (ordinal : UInt8)
    (capacity : Nat) :
    ∃ packet, Packet.ofCommand c ordinal capacity = .ok packet ∧ packet.Inquires c ordinal := by
  cases c with
  | adapterInfo => exact ⟨_, rfl, rfl, rfl, rfl, rfl, rfl, rfl⟩
  | targets => exact ⟨_, rfl, rfl, rfl, rfl, rfl, rfl, rfl⟩
  | _ => exact absurd rfl hc

/-! ## Where the session splits what comes in -/

/-- The header of a packet has the lengths of what is handed to the kernel. -/
theorem lengths_of_packetHeader {timeout : UInt32} {packet : Packet} {capacity : Nat}
    {header : Kernel.ScsiHeader} (h : Session.packetHeader timeout packet capacity = .ok header) :
    header.requestLength.toNat = packet.bytes.length ∧
      header.doutLength.toNat = packet.dataOut.length ∧
      header.dinLength.toNat = capacity + packet.replyLength := by
  have hfield (n : Nat) : ∀ x, Session.fieldLength n = .ok x → x.toNat = n := by
    intro x hx
    unfold Session.fieldLength at hx
    by_cases hn : n < UInt32.size
    · rw [if_pos hn] at hx
      cases hx
      exact UInt32.toNat_ofNat_of_lt' hn
    · rw [if_neg hn] at hx
      cases hx
  unfold Session.packetHeader at h
  cases h1 : Session.fieldLength packet.bytes.length with
  | error e => rw [h1] at h; cases h
  | ok request =>
    cases h2 : Session.fieldLength packet.dataOut.length with
    | error e => rw [h1, h2] at h; cases h
    | ok dout =>
      cases h3 : Session.fieldLength (capacity + packet.replyLength) with
      | error e => rw [h1, h2, h3] at h; cases h
      | ok din =>
        rw [h1, h2, h3] at h
        cases h
        exact ⟨hfield _ _ h1, hfield _ _ h2, hfield _ _ h3⟩

/-- A reply is what a session makes of a transfer of as many bytes as the packet asks for. -/
structure Packet.SplitInto (packet : Packet) (command : Command) (capacity : Nat) (dataIn : Bytes)
    (reply : CommandReply) : Prop where
  length : dataIn.length = capacity + packet.replyLength
  /-- The data is what stands before the reply area. -/
  data : reply.data.fit capacity = dataIn.take capacity
  /-- The bytes that count are those that the reply area tells, where the command has it tell. -/
  counted : reply.length = command.dataLength ⟨reply.data, capacity⟩ (dataIn.drop capacity)

/-- What a session makes of the answer of the kernel to a packet. -/
def Packet.replyTo (packet : Packet) (command : Command) (capacity : Nat)
    (header : Kernel.ScsiHeader) :
    Except Files.Errno Kernel.ScsiOutcome → Except TransportError CommandReply
  | .error errno => .error (.ioctl "SG_IO" errno)
  | .ok o => .ok ⟨o.dataIn.take capacity,
    command.dataLength ⟨o.dataIn.take capacity, capacity⟩
      (Zeroed.mk (o.dataIn.drop capacity) packet.replyLength).toList,
    (header.complete o).status⟩

theorem sendPacket_eq {command : Command} {ordinal : UInt8} {capacity : Nat} {packet : Packet}
    (hp : Packet.ofCommand command ordinal capacity = .ok packet) {timeout : UInt32}
    {header : Kernel.ScsiHeader} (hh : Session.packetHeader timeout packet capacity = .ok header)
    (path : String) :
    Session.sendPacket path ordinal timeout command capacity =
      .ask (.scsi path header packet.bytes packet.dataOut) fun answer =>
        .done (packet.replyTo command capacity header answer) := by
  simp only [Session.sendPacket, hp, hh]
  refine congrArg (Dialogue.ask _) (funext fun answer => ?_)
  cases answer <;> rfl

theorem split_of_sendPacket {σ : Type} {path : String} {ordinal : UInt8} {timeout : UInt32}
    {command : Command} {capacity : Nat} {r : Responder Kernel.calls σ} {s : σ}
    {reply : CommandReply}
    (h : ((Session.sendPacket path ordinal timeout command capacity).run r s).1 = .ok reply) :
    ∃ packet header outcome, Packet.ofCommand command ordinal capacity = .ok packet ∧
      Session.packetHeader timeout packet capacity = .ok header ∧
      ⟨.scsi path header packet.bytes packet.dataOut, .ok outcome⟩ ∈
        (Session.sendPacket path ordinal timeout command capacity).transcript r s ∧
      packet.SplitInto command capacity (outcome.dataIn.fit (capacity + packet.replyLength))
        reply := by
  cases hp : Packet.ofCommand command ordinal capacity with
  | error e =>
    simp only [Session.sendPacket, hp] at h
    cases h
  | ok packet =>
    cases hh : Session.packetHeader timeout packet capacity with
    | error e =>
      simp only [Session.sendPacket, hp, hh] at h
      cases h
    | ok header =>
      obtain ⟨answer, hm, hrun⟩ := exists_called (sendPacket_eq hp hh path) r s
      rw [hrun] at h
      cases answer with
      | error errno => cases h
      | ok o =>
        cases h
        refine ⟨packet, header, o, rfl, hh, hm, Bytes.length_fit _ _, ?_, ?_⟩
        · exact (Bytes.take_fit_add o.dataIn capacity packet.replyLength).symm
        · rw [Bytes.drop_fit_add]
          rfl

/-! ## The command read back -/

/-- A driver reads from a packet the command that the packet was made for.

There is no packet exactly for a message with a length that does not fit: that of the data or
that of a management frame. The parts of the packet of a message use up both transfers. They are the
frame and the message on the way out, and the data followed by the reply area on the way in, where
the session splits what comes in. A question to the driver has no transfer but its data. -/
theorem packet_reads_back_as_command (command : Command) (ordinal : UInt8) (capacity : Nat) :
    ((∃ e, Packet.ofCommand command ordinal capacity = .error e) ↔
      command.isMessage ∧ (UInt32.size ≤ capacity ∨ UInt32.size ≤ command.frame.length)) ∧
    (∀ e, Packet.ofCommand command ordinal capacity = .error e →
      e = .requestTooLarge capacity ∨ e = .requestTooLarge command.frame.length) ∧
    (∀ packet, Packet.ofCommand command ordinal capacity = .ok packet →
      (command.isMessage → packet.Carries command ordinal capacity) ∧
      (¬command.isMessage → packet.Inquires command ordinal)) ∧
    ∀ {σ : Type} (r : Responder Kernel.calls σ) (s : σ) (path : String) (timeout : UInt32)
      (reply : CommandReply),
      ((Session.sendPacket path ordinal timeout command capacity).run r s).1 = .ok reply →
      ∃ packet header outcome, Packet.ofCommand command ordinal capacity = .ok packet ∧
        ⟨.scsi path header packet.bytes packet.dataOut, .ok outcome⟩ ∈
          (Session.sendPacket path ordinal timeout command capacity).transcript r s ∧
        header.doutLength.toNat = packet.dataOut.length ∧
        header.dinLength.toNat = capacity + packet.replyLength ∧
        packet.SplitInto command capacity (outcome.dataIn.fit (capacity + packet.replyLength))
          reply := by
  have herror : ∀ e, Packet.ofCommand command ordinal capacity = .error e → command.isMessage ∧
      ∃ x ∈ command.buffers capacity, UInt32.size ≤ x.length ∧ e = .requestTooLarge x.length := by
    intro e he
    by_cases hc : command.isMessage
    · rw [ofCommand_of_isMessage hc] at he
      exact ⟨hc, exists_tooLarge_of_error he⟩
    · obtain ⟨packet, hp, -⟩ := inquires_of_ofCommand hc ordinal capacity
      rw [hp] at he
      cases he
  refine ⟨⟨?_, ?_⟩, ?_, fun packet hp => ⟨fun hc => carries_of_ofCommand hc hp, fun hc => ?_⟩, ?_⟩
  · rintro ⟨e, he⟩
    obtain ⟨hc, x, hx, hle, -⟩ := herror e he
    exact ⟨hc, (exists_tooLarge_iff command capacity).1 ⟨x, hx, hle⟩⟩
  · rintro ⟨hc, hle⟩
    obtain ⟨x, hx, hle⟩ := (exists_tooLarge_iff command capacity).2 hle
    rw [ofCommand_of_isMessage hc]
    exact messagePacket_of_tooLarge hx hle _ _
  · intro e he
    obtain ⟨-, x, hx, hle, rfl⟩ := herror e he
    rcases length_of_tooLarge hx hle with h | h
    · exact .inl (congrArg _ h)
    · exact .inr (congrArg _ h)
  · obtain ⟨packet', hp', hinquires⟩ := inquires_of_ofCommand hc ordinal capacity
    rw [hp] at hp'
    cases hp'
    exact hinquires
  · intro σ r s path timeout reply h
    obtain ⟨packet, header, outcome, hp, hh, hm, hsplit⟩ := split_of_sendPacket h
    obtain ⟨-, hout, hin⟩ := lengths_of_packetHeader hh
    exact ⟨packet, header, outcome, hp, hm, hout, hin, hsplit⟩

example : (Packet.ofCommand (.smp 7 [0x40, 0x10, 0, 0]) 3 32).map (fun p => listed p.bytes) =
    .ok [⟨.dataOut, 4⟩, ⟨.dataIn, 32⟩, ⟨.reply, 20⟩, ⟨.message, 56⟩] := by
  rfl

end BayMap.Controller
