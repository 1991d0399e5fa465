import BayMap.Bytes.Packed

/-!
# Generic SCSI requests

The header with which a request is handed to the kernel and which comes back with its outcome.
Addresses of buffers are zero here: the buffers travel beside the header.
-/

namespace BayMap.Kernel

/-- The header of a request. -/
structure ScsiHeader where
  /-- Marks this version of the header. -/
  guard : UInt32
  /-- The protocol. -/
  protocol : UInt32
  /-- The protocol within the protocol. -/
  subprotocol : UInt32
  /-- The length of the command. -/
  requestLength : UInt32
  /-- The address of the command. -/
  request : UInt64
  /-- The tag of the request. -/
  requestTag : UInt64
  /-- The task attribute. -/
  requestAttr : UInt32
  /-- The task priority. -/
  requestPriority : UInt32
  /-- More about the request. -/
  requestExtra : UInt32
  /-- The size of the sense buffer. -/
  maxResponseLength : UInt32
  /-- The address of the sense buffer. -/
  response : UInt64
  /-- The pieces of the transfer that goes out. -/
  doutIovecCount : UInt32
  /-- The length of the transfer that goes out. -/
  doutLength : UInt32
  /-- The pieces of the transfer that comes in. -/
  dinIovecCount : UInt32
  /-- The length of the transfer that comes in. -/
  dinLength : UInt32
  /-- The address of what goes out. -/
  doutAddress : UInt64
  /-- The address of what comes in. -/
  dinAddress : UInt64
  /-- The milliseconds the request may take. -/
  timeout : UInt32
  /-- Flags. -/
  flags : UInt32
  /-- A pointer of the caller. -/
  userPointer : UInt64
  /-- Unused. -/
  spareIn : UInt32
  /-- The status of the driver. -/
  driverStatus : UInt32
  /-- The status of the transport. -/
  transportStatus : UInt32
  /-- The status of the device. -/
  deviceStatus : UInt32
  /-- The delay before another try. -/
  retryDelay : UInt32
  /-- More about the outcome. -/
  info : UInt32
  /-- The milliseconds the request took. -/
  duration : UInt32
  /-- The bytes of sense data. -/
  responseLength : UInt32
  /-- The bytes that did not come in, with a sign. -/
  dinResidual : UInt32
  /-- The bytes that did not go out, with a sign. -/
  doutResidual : UInt32
  /-- The tag of the kernel. -/
  generatedTag : UInt64
  /-- Unused. -/
  spareOut : UInt32
  /-- Unused. -/
  padding : UInt32
  deriving DecidableEq, Repr

instance : Packed ScsiHeader where
  size := 160
  decode b :=
    { guard := b.u32At 0x0
      protocol := b.u32At 0x4
      subprotocol := b.u32At 0x8
      requestLength := b.u32At 0xc
      request := b.u64At 0x10
      requestTag := b.u64At 0x18
      requestAttr := b.u32At 0x20
      requestPriority := b.u32At 0x24
      requestExtra := b.u32At 0x28
      maxResponseLength := b.u32At 0x2c
      response := b.u64At 0x30
      doutIovecCount := b.u32At 0x38
      doutLength := b.u32At 0x3c
      dinIovecCount := b.u32At 0x40
      dinLength := b.u32At 0x44
      doutAddress := b.u64At 0x48
      dinAddress := b.u64At 0x50
      timeout := b.u32At 0x58
      flags := b.u32At 0x5c
      userPointer := b.u64At 0x60
      spareIn := b.u32At 0x68
      driverStatus := b.u32At 0x6c
      transportStatus := b.u32At 0x70
      deviceStatus := b.u32At 0x74
      retryDelay := b.u32At 0x78
      info := b.u32At 0x7c
      duration := b.u32At 0x80
      responseLength := b.u32At 0x84
      dinResidual := b.u32At 0x88
      doutResidual := b.u32At 0x8c
      generatedTag := b.u64At 0x90
      spareOut := b.u32At 0x98
      padding := b.u32At 0x9c }
  encode x :=
    Bytes.of32 x.guard ++ Bytes.of32 x.protocol ++ Bytes.of32 x.subprotocol ++
      Bytes.of32 x.requestLength ++ Bytes.of64 x.request ++ Bytes.of64 x.requestTag ++
      Bytes.of32 x.requestAttr ++ Bytes.of32 x.requestPriority ++ Bytes.of32 x.requestExtra ++
      Bytes.of32 x.maxResponseLength ++ Bytes.of64 x.response ++ Bytes.of32 x.doutIovecCount ++
      Bytes.of32 x.doutLength ++ Bytes.of32 x.dinIovecCount ++ Bytes.of32 x.dinLength ++
      Bytes.of64 x.doutAddress ++ Bytes.of64 x.dinAddress ++ Bytes.of32 x.timeout ++
      Bytes.of32 x.flags ++ Bytes.of64 x.userPointer ++ Bytes.of32 x.spareIn ++
      Bytes.of32 x.driverStatus ++ Bytes.of32 x.transportStatus ++ Bytes.of32 x.deviceStatus ++
      Bytes.of32 x.retryDelay ++ Bytes.of32 x.info ++ Bytes.of32 x.duration ++
      Bytes.of32 x.responseLength ++ Bytes.of32 x.dinResidual ++ Bytes.of32 x.doutResidual ++
      Bytes.of64 x.generatedTag ++ Bytes.of32 x.spareOut ++ Bytes.of32 x.padding

namespace ScsiHeader

/-- The header of a request that carries management frames. -/
def smp (timeout : UInt32) : ScsiHeader :=
  { (Packed.decode [] : ScsiHeader) with guard := 0x51, subprotocol := 2, timeout }

/-- The bytes that came in. -/
def received (h : ScsiHeader) : Nat := (h.dinLength.toNat - h.dinResidual.toInt32.toInt).toNat

/-- The first status that is not zero. -/
def status (h : ScsiHeader) : UInt32 :=
  if h.driverStatus ≠ 0 then h.driverStatus
  else if h.transportStatus ≠ 0 then h.transportStatus
  else h.deviceStatus

end ScsiHeader

end BayMap.Kernel
