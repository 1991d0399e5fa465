import BayMap.Controller.MptMessage

/-!
# Command blocks of the first controller generations

The block that is handed to the kernel is a record whose last four bytes are the start of the
message, which runs on past the end of the record. Addresses of buffers are zero here: the buffers
travel beside the block.
-/

namespace BayMap.Kernel

/-- The record of a command, up to its message. -/
structure MptCommand where
  /-- The number of the controller. -/
  iocNumber : UInt32
  /-- The I/O unit. -/
  unit : UInt32
  /-- The size of the block. -/
  maxDataSize : UInt32
  /-- The seconds the command may take, zero for the default of the driver. -/
  timeout : UInt32
  /-- The address of the reply frame. -/
  replyAddress : UInt64
  /-- The address of what comes in. -/
  dataInAddress : UInt64
  /-- The address of what goes out. -/
  dataOutAddress : UInt64
  /-- The address of sense data. -/
  senseAddress : UInt64
  /-- The size of the reply frame. -/
  maxReplyBytes : UInt32
  /-- The length of what comes in. -/
  dataInSize : UInt32
  /-- The length of what goes out. -/
  dataOutSize : UInt32
  /-- The size of sense data. -/
  maxSenseBytes : UInt32
  /-- The offset of the buffers in the message, in dwords. -/
  dataSgeOffset : UInt32
  deriving DecidableEq, Repr

instance : Packed MptCommand where
  size := 68
  decode b :=
    { iocNumber := b.u32At 0x0
      unit := b.u32At 0x4
      maxDataSize := b.u32At 0x8
      timeout := b.u32At 0xc
      replyAddress := b.u64At 0x10
      dataInAddress := b.u64At 0x18
      dataOutAddress := b.u64At 0x20
      senseAddress := b.u64At 0x28
      maxReplyBytes := b.u32At 0x30
      dataInSize := b.u32At 0x34
      dataOutSize := b.u32At 0x38
      maxSenseBytes := b.u32At 0x3c
      dataSgeOffset := b.u32At 0x40 }
  encode x :=
    Bytes.of32 x.iocNumber ++ Bytes.of32 x.unit ++ Bytes.of32 x.maxDataSize ++
      Bytes.of32 x.timeout ++ Bytes.of64 x.replyAddress ++ Bytes.of64 x.dataInAddress ++
      Bytes.of64 x.dataOutAddress ++ Bytes.of64 x.senseAddress ++ Bytes.of32 x.maxReplyBytes ++
      Bytes.of32 x.dataInSize ++ Bytes.of32 x.dataOutSize ++ Bytes.of32 x.maxSenseBytes ++
      Bytes.of32 x.dataSgeOffset

/-- A command and its message. -/
structure MptBlock where
  /-- The record. -/
  command : MptCommand
  /-- The message. -/
  message : Controller.MptRequest
  deriving DecidableEq, Repr

/-- The bytes of a block, which is padded to whole words. -/
def MptBlock.encode (b : MptBlock) : Bytes :=
  (Packed.encode b.command ++ Packed.encode b.message).fit 128

/-- The command that a node takes. -/
inductive MptOpcode where
  /-- The command of the first driver. -/
  | first
  /-- The command of the drivers after it. -/
  | second
  deriving DecidableEq, Repr

namespace MptOpcode

/-- The symbolic name of a command. -/
def name : MptOpcode → String
  | .first => "MPTCOMMAND"
  | .second => "MPT2COMMAND"

/-- The letter of the driver in a command number. -/
def letter : MptOpcode → Char
  | .first => 'm'
  | .second => 'L'

/-- The number of a command: it transfers the 72 bytes of a record in both directions, and is
command 20 of its driver. -/
def number (o : MptOpcode) : Nat := 0xc0480014 + o.letter.toNat * 0x100

/-- The command of the character device with the given numbers. -/
def ofDevice? (major minor : Nat) : Option MptOpcode :=
  if major ≠ 10 then none
  else if minor = 220 then some .first
  else if minor = 221 ∨ minor = 222 then some .second
  else none

end MptOpcode

/-- The size of a reply frame. -/
def mptReplyLength : Nat := 1200

end BayMap.Kernel
