import BayMap.Bytes.Zeroed
import BayMap.Controller.Command
import BayMap.Transport.Error

/-!
# Controller packets

A command travels to a controller as a packet. The packet of a message lists buffers; in the order
of the list, those of one direction are the parts of the transfer in that direction. What goes out
is a management frame, if any, and then the message; what comes in is the data and then the reply
area.
-/

namespace BayMap.Controller

/-- The code of a buffer in a packet. -/
structure BufferKind where
  /-- The byte of the packet. -/
  code : UInt8
  deriving DecidableEq, Repr

namespace BufferKind

/-- Data that comes in. -/
def dataIn : BufferKind := ⟨3⟩

/-- Data that goes out. -/
def dataOut : BufferKind := ⟨4⟩

/-- The reply of the controller. -/
def reply : BufferKind := ⟨5⟩

/-- The sense data of a device. -/
def errorResponse : BufferKind := ⟨6⟩

/-- The message to the controller. -/
def message : BufferKind := ⟨0xfe⟩

/-- The symbolic name of a known kind. -/
def name? (k : BufferKind) : Option String :=
  match k.code with
  | 3 => some "DATA_IN"
  | 4 => some "DATA_OUT"
  | 5 => some "MPI_REPLY"
  | 6 => some "ERR_RESPONSE"
  | 0xfe => some "MPI_REQUEST"
  | _ => none

/-- The buffer is a part of what goes out. -/
def goesOut (k : BufferKind) : Bool := k == dataOut || k == message

/-- The buffer is a part of the reply area. -/
def isReply (k : BufferKind) : Bool := k == reply || k == errorResponse

end BufferKind

/-- A buffer of a packet. -/
structure Buffer where
  /-- What the buffer holds. -/
  kind : BufferKind
  /-- The length in bytes. -/
  length : Nat
  deriving DecidableEq, Repr

/-- What is handed to the kernel for a command. -/
structure Packet where
  /-- The packet. -/
  bytes : Bytes
  /-- The transfer that goes out. -/
  dataOut : Bytes
  /-- The bytes of the reply area, which follow the data of the transfer that comes in. -/
  replyLength : Nat
  deriving DecidableEq, Repr

/-- The packet of a question to the driver. -/
def inquiryPacket (ordinal opcode : UInt8) : Packet where
  bytes := [1, 0, 0, 0, 0, 0, 0, 0, ordinal, opcode] ++ List.replicate 26 0
  dataOut := []
  replyLength := 0

/-- The opcode of a question about the adapter. -/
def adapterInfoOpcode : UInt8 := 1

/-- The opcode of a question about the targets. -/
def targetsOpcode : UInt8 := 4

/-- The seconds a message may take. -/
def messageTimeout : UInt32 := 180

/-- The descriptor of a buffer. -/
def Buffer.encode (b : Buffer) : Bytes := [b.kind.code, 0, 0, 0] ++ Bytes.le 4 b.length

/-- The length of a packet with so many buffers, as a number of 64 bits. -/
def packetLength (buffers : UInt64) : UInt64 := 28 + buffers * 8

/-- The packet of a message. -/
def messagePacket (ordinal : UInt8) (buffers : List Buffer) (dataOut : Bytes) :
    Except TransportError Packet :=
  match buffers.find? (UInt32.size ≤ ·.length) with
  | some buffer => .error (.requestTooLarge buffer.length)
  | none =>
    .ok
      { bytes :=
          [2, 0, 0, 0, 0, 0, 0, 0] ++ Bytes.of32 messageTimeout ++
            [0, 0, 0, 0, ordinal, 0, 0, 0] ++
            [.ofNat buffers.length, 0, 0, 0, 0, 0, 0, 0] ++ buffers.flatMap Buffer.encode
        dataOut
        replyLength := (buffers.filter (·.kind.isReply)).foldl (· + ·.length) 0 }

/-- The reply area of a facts or configuration request. -/
def shortReplyLength : Nat := 21

/-- The reply area of a SCSI request. -/
def scsiReplyLength : Nat := 61

/-- The sense area of a SCSI request. -/
def scsiSenseLength : Nat := 252

/-- The request for the facts of a controller. -/
def factsRequest : FactsRequest :=
  { (Packed.decode [] : FactsRequest) with function := factsFunction }

/-- The request that passes a frame to the expander at an address. -/
def smpRequest (address : UInt64) : SmpRequest :=
  { (Packed.decode [] : SmpRequest) with
    function := smpFunction
    ioUnit := anyUnit
    sasAddress := address }

/-- The packet for a command whose data has `capacity` bytes. -/
def Packet.ofCommand (command : Command) (ordinal : UInt8) (capacity : Nat) :
    Except TransportError Packet :=
  match command with
  | .adapterInfo => .ok (inquiryPacket ordinal adapterInfoOpcode)
  | .targets => .ok (inquiryPacket ordinal targetsOpcode)
  | .facts =>
    let message := Packed.encode factsRequest
    messagePacket ordinal
      [⟨.dataIn, capacity⟩, ⟨.reply, shortReplyLength⟩, ⟨.message, message.length⟩] message
  | .config request =>
    let message := Packed.encode request
    messagePacket ordinal
      [⟨.dataIn, capacity⟩, ⟨.reply, shortReplyLength⟩, ⟨.message, message.length⟩] message
  | .scsi request =>
    let message := Packed.encode request
    messagePacket ordinal
      [⟨.dataIn, capacity⟩, ⟨.reply, scsiReplyLength⟩, ⟨.errorResponse, scsiSenseLength⟩,
        ⟨.message, message.length⟩] message
  | .smp address frame =>
    let message := Packed.encode (smpRequest address)
    messagePacket ordinal
      [⟨.dataOut, frame.length⟩, ⟨.dataIn, capacity⟩, ⟨.reply, Packed.size SmpReply⟩,
        ⟨.message, message.length⟩] (frame ++ message)

/-- The bytes of the data that count, which the facts tell in dwords themselves and the reply to a
passed-on frame tells; all other data counts as a whole. -/
def Command.dataLength (command : Command) (data : Zeroed) (reply : Bytes) : Nat :=
  match command with
  | .facts => if data.size < 2 then 0 else (data.start.u16At 0).toNat * 4
  | .smp .. =>
    if reply.length < Packed.size SmpReply then 0
    else (Packed.decode reply : SmpReply).responseDataLength.toNat
  | .adapterInfo | .targets | .config _ | .scsi _ => data.size

end BayMap.Controller
