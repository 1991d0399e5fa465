import BayMap.Controller.Command
import BayMap.Dialogue
import BayMap.Transport.Error

/-!
# Links

A link is an open node. Management frames go through it to the expander that is its target, and
through the node of a controller also commands to the controller. A link also takes frames for the
trace, which it may show or drop.
-/

namespace BayMap.Transport

/-- The kernel interface a node is used through. -/
inductive Kind where
  /-- The node of one expander. -/
  | bsg
  /-- The node shared by the controllers of the first generations. -/
  | mpt
  /-- The node of one controller. -/
  | mpi3mr
  deriving DecidableEq, Repr

/-- The name of a kind. -/
def Kind.name : Kind → String
  | .bsg => "bsg"
  | .mpt => "mpt"
  | .mpi3mr => "mpi3mr"

/-- What came back for a management frame. -/
structure SmpReply where
  /-- What the start of the response buffer holds, whose other bytes are zero. -/
  response : Bytes
  /-- The bytes received, where the node knows. -/
  received : Option Nat
  /-- The status of the kernel, zero for success. -/
  status : UInt32
  deriving DecidableEq, Repr

/-- What came back for a command. -/
structure CommandReply where
  /-- What the start of the data buffer holds, whose other bytes are zero. -/
  data : Bytes
  /-- The bytes of the buffer that count. -/
  length : Nat
  /-- The status of the kernel, zero for success. -/
  status : UInt32
  deriving DecidableEq, Repr

/-- What is put to a link. A buffer for the answer has a capacity. -/
inductive LinkQuery where
  /-- Send a management frame to the expander at an address. -/
  | smp (target : UInt64) (request : Bytes) (capacity : Nat)
  /-- Give a command to the controller. -/
  | command (command : Controller.Command) (capacity : Nat)
  /-- Show bytes under a label in the trace. -/
  | trace (label : String) (bytes : Bytes)
  deriving DecidableEq, Repr

/-- The interface of a link. -/
@[reducible] def link : Interface where
  Query := LinkQuery
  Answer
    | .smp .. => Except TransportError SmpReply
    | .command .. => Except TransportError CommandReply
    | .trace .. => Unit

/-- A conversation over a link. -/
abbrev Conversation := Dialogue link

namespace Conversation

/-- Sends a management frame. -/
def smp (target : UInt64) (request : Bytes) (capacity : Nat) :
    Conversation (Except TransportError SmpReply) :=
  Dialogue.query (I := link) (.smp target request capacity)

/-- Gives a command to the controller. -/
def command (command : Controller.Command) (capacity : Nat) :
    Conversation (Except TransportError CommandReply) :=
  Dialogue.query (I := link) (.command command capacity)

/-- Shows bytes in the trace. -/
def trace (label : String) (bytes : Bytes) : Conversation Unit :=
  Dialogue.query (I := link) (.trace label bytes)

end Conversation

end BayMap.Transport
