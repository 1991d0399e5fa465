import BayMap.Bytes.Zeroed
import BayMap.Controller.MptMessage
import BayMap.Controller.Packet
import BayMap.Kernel.Calls
import BayMap.Smp.Frame
import BayMap.Transport.Link
import BayMap.Transport.Ordinal

/-!
# Sessions

A session is a node opened through the kernel. It carries management frames in the way of its kind:
as a generic request, as a command of the first controller generations, or in a packet. A session
answers everything that is put to a link (`Session.answer`), so every conversation over a link is
also a program that makes kernel calls (`Session.converse`).
-/

namespace BayMap.Transport

open Controller Kernel

/-- A request with the buffer and the outcome of its response. -/
structure Exchange where
  /-- The request frame. -/
  request : Bytes
  /-- The response buffer. -/
  response : Zeroed
  /-- The bytes received, where the node knows. -/
  received : Option Nat
  /-- The status of the kernel, zero for success. -/
  status : UInt32
  deriving DecidableEq, Repr

/-- An exchange before its request is sent. -/
def Exchange.fresh (request : Bytes) (capacity : Nat) : Exchange :=
  ⟨request, .empty capacity, none, 0⟩

/-- How a session moves frames. -/
inductive Carrier where
  | bsg
  | mpt (opcode : MptOpcode)
  | mpi3mr
  deriving DecidableEq, Repr

/-- The kind of node that a carrier belongs to. -/
def Carrier.kind : Carrier → Kind
  | .bsg => .bsg
  | .mpt _ => .mpt
  | .mpi3mr => .mpi3mr

/-- The milliseconds that a request may take unless it is said otherwise. -/
def defaultTimeout : UInt32 := 20000

/-- An open node. -/
structure Session where
  /-- The path of the node. -/
  path : String
  /-- How frames are moved. -/
  carrier : Carrier
  /-- The number of the controller. -/
  ordinal : UInt8
  /-- The SAS address that frames go to. -/
  target : UInt64
  /-- The milliseconds that a request may take. -/
  timeout : UInt32
  deriving DecidableEq, Repr

namespace Session

/-- How frames are moved through an open node of a kind. -/
def identify (path : String) : Kind → Program (Except TransportError Carrier)
  | .bsg => return .ok .bsg
  | .mpi3mr => return .ok .mpi3mr
  | .mpt => do
    match ← Program.deviceNumbers path with
    | .error errno => return .error (.stat path (.system errno))
    | .ok none => return .error (.deviceIdentity path 0 0)
    | .ok (some (major, minor)) =>
      match MptOpcode.ofDevice? major minor with
      | some opcode => return .ok (.mpt opcode)
      | none => return .error (.deviceIdentity path major minor)

/-- The controller number that a session of a kind uses. -/
def ordinalFor (path : String) : Kind → Option UInt8
  | .bsg => some 0
  | .mpt | .mpi3mr => ordinalOf path

/-- Opens a node. -/
def openNode (path : String) (kind : Kind) : Program (Except TransportError Session) := do
  match ← Program.openNode path with
  | .error e => return .error (.open path (.file e))
  | .ok () =>
    match ← identify path kind with
    | .error e => return .error e
    | .ok carrier =>
      match ordinalFor path kind with
      | none => return .error (.noOrdinal path)
      | some ordinal =>
        return .ok { path, carrier, ordinal, target := 0, timeout := defaultTimeout }

/-- The node is one of a controller, which takes commands. -/
def takesCommands (s : Session) : Bool := s.carrier == .mpi3mr

/-- A length as a field of 32 bits. -/
def fieldLength (length : Nat) : Except TransportError UInt32 :=
  if length < UInt32.size then .ok (.ofNat length) else .error (.requestTooLarge length)

/-- A length as a field of 32 bits with a sign. -/
def signedLength (length : Nat) : Except TransportError UInt32 :=
  if length < 0x80000000 then .ok (.ofNat length) else .error (.requestTooLarge length)

/-- The command of a generic request, which says nothing for a management frame. -/
def emptyCommand : Bytes := List.replicate 16 0

/-- The header of a generic request for an exchange. -/
def scsiHeader (timeout : UInt32) (x : Exchange) : Except TransportError ScsiHeader := do
  let doutLength ← fieldLength x.request.length
  let dinLength ← fieldLength x.response.size
  return { ScsiHeader.smp timeout with
    requestLength := .ofNat emptyCommand.length
    doutLength
    dinLength }

/-- Sends an exchange as a generic request. -/
def sendScsi (path : String) (timeout : UInt32) (x : Exchange) :
    Program (Except TransportError Unit × Exchange) := do
  match scsiHeader timeout x with
  | .error e => return (.error e, x)
  | .ok header =>
    match ← Program.scsi path header emptyCommand x.request with
    | .error errno => return (.error (.ioctl "SG_IO" errno), x)
    | .ok outcome =>
      let header := header.complete outcome
      return (.ok (),
        { x with
          response := x.response.write outcome.dataIn
          received := some header.received
          status := header.status })

/-- The message that passes a frame of `length` bytes to the expander at an address. -/
def mptMessage (address : UInt64) (length : Nat) : Except TransportError MptRequest :=
  if length - Smp.checksumLength < UInt16.size then
    .ok
      { (Packed.decode [] : MptRequest) with
        function := mptSmpFunction
        requestDataLength := .ofNat (length - Smp.checksumLength)
        sasAddress := address }
  else .error (.requestTooLarge length)

/-- The block that passes the frame of an exchange to the expander at an address. The driver adds
the checksum of the request itself and wants room for that of the response. -/
def mptBlock (ordinal : UInt8) (address : UInt64) (x : Exchange) :
    Except TransportError MptBlock := do
  let dataInSize ← signedLength (x.response.size + Smp.checksumLength)
  let dataOutSize ← signedLength (x.request.length - Smp.checksumLength)
  let message ← mptMessage address x.request.length
  return {
    command :=
      { (Packed.decode [] : MptCommand) with
        iocNumber := ordinal.toUInt32
        maxReplyBytes := .ofNat mptReplyLength
        dataInSize
        dataOutSize
        dataSgeOffset := .ofNat (mptBuffersOffset / 4) }
    message }

/-- A reply that reports success. -/
def acceptReply (reply : MptReply) : Except TransportError Unit :=
  if reply.ioc ≠ .success ∨ reply.sas ≠ .success then
    .error (.sasStatus reply.ioc reply.sas reply.iocLogInfo)
  else .ok ()

/-- Sends an exchange as a command of the first controller generations. -/
def sendMpt (path : String) (opcode : MptOpcode) (ordinal : UInt8) (address : UInt64)
    (x : Exchange) : Program (Except TransportError Unit × Exchange) := do
  match mptBlock ordinal address x with
  | .error e => return (.error e, x)
  | .ok block =>
    let dataOut := x.request.take (x.request.length - Smp.checksumLength)
    match ← Program.mpt path opcode block dataOut with
    | .error errno => return (.error (.ioctl opcode.name errno), x)
    | .ok outcome =>
      match acceptReply (Packed.decode outcome.reply) with
      | .error e => return (.error e, x)
      | .ok () =>
        let response := { x.response with start := outcome.dataIn }
        return (.ok (), { x with response, received := none, status := 0 })

/-- The size of the sense buffer of a packet. -/
def senseLength : Nat := 1024

/-- The header of a generic request for a packet whose data has `capacity` bytes. -/
def packetHeader (timeout : UInt32) (packet : Packet) (capacity : Nat) :
    Except TransportError ScsiHeader := do
  let requestLength ← fieldLength packet.bytes.length
  let doutLength ← fieldLength packet.dataOut.length
  let dinLength ← fieldLength (capacity + packet.replyLength)
  return { ScsiHeader.smp timeout with
    requestLength
    maxResponseLength := .ofNat senseLength
    doutLength
    dinLength }

/-- Gives a command to a controller. -/
def sendPacket (path : String) (ordinal : UInt8) (timeout : UInt32) (command : Command)
    (capacity : Nat) : Program (Except TransportError CommandReply) := do
  match Packet.ofCommand command ordinal capacity with
  | .error e => return .error e
  | .ok packet =>
    match packetHeader timeout packet capacity with
    | .error e => return .error e
    | .ok header =>
      match ← Program.scsi path header packet.bytes packet.dataOut with
      | .error errno => return .error (.ioctl "SG_IO" errno)
      | .ok outcome =>
        let data : Zeroed := ⟨outcome.dataIn.take capacity, capacity⟩
        let reply : Zeroed := ⟨outcome.dataIn.drop capacity, packet.replyLength⟩
        return .ok
          ⟨data.start, command.dataLength data reply.toList, (header.complete outcome).status⟩

/-- Sends an exchange to the target of the session. -/
def send (s : Session) (x : Exchange) : Program (Except TransportError Unit × Exchange) := do
  match s.carrier with
  | .bsg => sendScsi s.path s.timeout x
  | .mpt opcode => sendMpt s.path opcode s.ordinal s.target x
  | .mpi3mr =>
    match ← sendPacket s.path s.ordinal s.timeout (.smp s.target x.request) x.response.size with
    | .error e => return (.error e, x)
    | .ok reply =>
      return (.ok (),
        { x with
          response := { x.response with start := reply.data }
          received := some reply.length
          status := reply.status })

/-- Gives a command to the controller of the session, if the session takes commands. -/
def submit (s : Session) (command : Command) (capacity : Nat) :
    Program (Except TransportError CommandReply) :=
  if s.takesCommands then sendPacket s.path s.ordinal s.timeout command capacity
  else return .error .unsupported

/-- Answers what is put to a link. Nothing is shown of the trace. -/
def answer (s : Session) : (query : LinkQuery) → Program (link.Answer query)
  | .smp target request capacity => do
    let (result, x) ← { s with target }.send (.fresh request capacity)
    return result.map fun () => ⟨x.response.start, x.received, x.status⟩
  | .command command capacity => s.submit command capacity
  | .trace .. => return ()

/-- A conversation over the session. -/
def converse (s : Session) (c : Conversation α) : Program α := c.relay s.answer

end Session

end BayMap.Transport
