import BayMap.Dialogue
import BayMap.Files.Error
import BayMap.Kernel.MptBlock
import BayMap.Kernel.ScsiHeader

/-!
# Kernel calls

What is asked of the kernel about a node: to open it, to tell its device numbers, and to carry a
request. Buffers travel as byte strings beside the headers that describe them.
-/

namespace BayMap.Kernel

/-- The outcome of a generic SCSI request. -/
structure ScsiOutcome where
  /-- What came in. -/
  dataIn : Bytes
  /-- The bytes that did not come in, with a sign. -/
  residual : UInt32
  /-- The status of the driver. -/
  driverStatus : UInt32
  /-- The status of the transport. -/
  transportStatus : UInt32
  /-- The status of the device. -/
  deviceStatus : UInt32
  deriving DecidableEq, Repr

/-- A header with the outcome of its request. -/
def ScsiHeader.complete (h : ScsiHeader) (o : ScsiOutcome) : ScsiHeader :=
  { h with
    dinResidual := o.residual
    driverStatus := o.driverStatus
    transportStatus := o.transportStatus
    deviceStatus := o.deviceStatus }

/-- The outcome of a command of the first controller generations. -/
structure MptOutcome where
  /-- What came in. -/
  dataIn : Bytes
  /-- The reply frame. -/
  reply : Bytes
  deriving DecidableEq, Repr

/-- What is put to the kernel. -/
inductive Call where
  /-- Open a node for reading and writing. -/
  | open (path : String)
  /-- Tell the device numbers of a character device. -/
  | deviceNumbers (path : String)
  /-- Carry a generic SCSI request with its command and what goes out. -/
  | scsi (path : String) (header : ScsiHeader) (command dataOut : Bytes)
  /-- Carry a command of the first controller generations with what goes out. -/
  | mpt (path : String) (opcode : MptOpcode) (block : MptBlock) (dataOut : Bytes)
  deriving DecidableEq, Repr

/-- The interface of the kernel. -/
@[reducible] def calls : Interface where
  Query := Call
  Answer
    | .open _ => Except Files.Error Unit
    | .deviceNumbers _ => Except Files.Errno (Option (Nat × Nat))
    | .scsi .. => Except Files.Errno ScsiOutcome
    | .mpt .. => Except Files.Errno MptOutcome

/-- A program that makes kernel calls. -/
abbrev Program := Dialogue calls

namespace Program

/-- Opens a node for reading and writing. -/
def openNode (path : String) : Program (Except Files.Error Unit) :=
  Dialogue.query (I := calls) (.open path)

/-- The device numbers of an open node, if it is a character device. -/
def deviceNumbers (path : String) : Program (Except Files.Errno (Option (Nat × Nat))) :=
  Dialogue.query (I := calls) (.deviceNumbers path)

/-- Carries a generic SCSI request. -/
def scsi (path : String) (header : ScsiHeader) (command dataOut : Bytes) :
    Program (Except Files.Errno ScsiOutcome) :=
  Dialogue.query (I := calls) (.scsi path header command dataOut)

/-- Carries a command of the first controller generations. -/
def mpt (path : String) (opcode : MptOpcode) (block : MptBlock) (dataOut : Bytes) :
    Program (Except Files.Errno MptOutcome) :=
  Dialogue.query (I := calls) (.mpt path opcode block dataOut)

end Program

end BayMap.Kernel
