import BayMap.Bytes.Packed
import BayMap.Controller.Status

/-!
# Messages of the first controller generations

The request that passes a management frame to an expander, and the reply to it.
-/

namespace BayMap.Controller

/-- Passes a management frame to an expander. -/
structure MptRequest where
  /-- Bit 7 asks for the response inside the reply. -/
  passthroughFlags : UInt8
  /-- The I/O unit of the controller. -/
  physicalUnit : UInt8
  /-- The offset of a chain. -/
  chainOffset : UInt8
  /-- The function of the message. -/
  function : UInt8
  /-- The length of the frame, its checksum not counted. -/
  requestDataLength : UInt16
  /-- The rate of the connection. -/
  connectionRate : UInt8
  /-- Message flags. -/
  msgFlags : UInt8
  /-- The context of the message. -/
  msgContext : UInt32
  /-- Reserved. -/
  reserved0c : UInt32
  /-- The SAS address of the expander. -/
  sasAddress : UInt64
  /-- Reserved. -/
  reserved18 : UInt32
  /-- Reserved. -/
  reserved1c : UInt32
  /-- The buffers. -/
  sgl : Vector UInt8 24
  deriving DecidableEq, Repr

instance : Packed MptRequest where
  size := 56
  decode b :=
    { passthroughFlags := b.u8At 0x0
      physicalUnit := b.u8At 0x1
      chainOffset := b.u8At 0x2
      function := b.u8At 0x3
      requestDataLength := b.u16At 0x4
      connectionRate := b.u8At 0x6
      msgFlags := b.u8At 0x7
      msgContext := b.u32At 0x8
      reserved0c := b.u32At 0xc
      sasAddress := b.u64At 0x10
      reserved18 := b.u32At 0x18
      reserved1c := b.u32At 0x1c
      sgl := b.block 0x20 24 }
  encode x :=
    [x.passthroughFlags] ++ [x.physicalUnit] ++ [x.chainOffset] ++ [x.function] ++
      Bytes.of16 x.requestDataLength ++ [x.connectionRate] ++ [x.msgFlags] ++
      Bytes.of32 x.msgContext ++ Bytes.of32 x.reserved0c ++ Bytes.of64 x.sasAddress ++
      Bytes.of32 x.reserved18 ++ Bytes.of32 x.reserved1c ++ x.sgl.toList

/-- The reply to a management frame that was passed on. -/
structure MptReply where
  /-- Flags of the request. -/
  passthroughFlags : UInt8
  /-- The I/O unit of the controller. -/
  physicalUnit : UInt8
  /-- The length of the message. -/
  msgLength : UInt8
  /-- The function of the message. -/
  function : UInt8
  /-- The length of the response. -/
  responseDataLength : UInt16
  /-- Reserved. -/
  reserved06 : UInt8
  /-- Message flags. -/
  msgFlags : UInt8
  /-- The context of the message. -/
  msgContext : UInt32
  /-- Reserved. -/
  reserved0c : UInt8
  /-- The status of the exchange with the expander. -/
  sasStatus : UInt8
  /-- The status of the controller. -/
  iocStatus : UInt16
  /-- Log information. -/
  iocLogInfo : UInt32
  /-- Reserved. -/
  reserved14 : UInt32
  /-- The start of the response, where it was asked for. -/
  responseData : Vector UInt8 4
  deriving DecidableEq, Repr

instance : Packed MptReply where
  size := 28
  decode b :=
    { passthroughFlags := b.u8At 0x0
      physicalUnit := b.u8At 0x1
      msgLength := b.u8At 0x2
      function := b.u8At 0x3
      responseDataLength := b.u16At 0x4
      reserved06 := b.u8At 0x6
      msgFlags := b.u8At 0x7
      msgContext := b.u32At 0x8
      reserved0c := b.u8At 0xc
      sasStatus := b.u8At 0xd
      iocStatus := b.u16At 0xe
      iocLogInfo := b.u32At 0x10
      reserved14 := b.u32At 0x14
      responseData := b.block 0x18 4 }
  encode x :=
    [x.passthroughFlags] ++ [x.physicalUnit] ++ [x.msgLength] ++ [x.function] ++
      Bytes.of16 x.responseDataLength ++ [x.reserved06] ++ [x.msgFlags] ++
      Bytes.of32 x.msgContext ++ [x.reserved0c] ++ [x.sasStatus] ++ Bytes.of16 x.iocStatus ++
      Bytes.of32 x.iocLogInfo ++ Bytes.of32 x.reserved14 ++ x.responseData.toList

/-- The function of a request that passes a management frame on. -/
def mptSmpFunction : UInt8 := 0x1a

/-- The offset of the buffers in a request. -/
def mptBuffersOffset : Nat := 32

namespace MptReply

/-- The status of the controller. -/
def ioc (r : MptReply) : IocStatus := .ofRaw r.iocStatus

/-- The status of the exchange. -/
def sas (r : MptReply) : SasStatus := ⟨r.sasStatus⟩

end MptReply

end BayMap.Controller
