import BayMap.Controller.Status
import BayMap.Files.Error

/-!
# Transport errors

What can go wrong while a node is opened or a frame is moved through it. An error has a wording of
its own (`message`) and those of its causes (`sources`).
-/

namespace BayMap.Transport

/-- Why a node cannot be used as a file. -/
inductive NodeFault where
  /-- The file cannot be opened. -/
  | file (error : Files.Error)
  /-- The system refuses. -/
  | system (errno : Files.Errno)
  /-- A refusal with a wording of its own. -/
  | refused (reason : String)
  deriving DecidableEq, Repr

/-- The wording of a fault. -/
def NodeFault.text : NodeFault → String
  | .file error => error.message
  | .system errno => errno.text
  | .refused reason => reason

end BayMap.Transport

namespace BayMap

/-- Why a node cannot be opened, or a frame cannot be moved through it. -/
inductive TransportError where
  /-- The node cannot be opened for reading and writing. -/
  | open (path : String) (cause : Transport.NodeFault)
  /-- The node cannot be inspected. -/
  | stat (path : String) (cause : Transport.NodeFault)
  /-- The node is no control node; its numbers are zero where it is no character device. -/
  | deviceIdentity (path : String) (major minor : Nat)
  /-- The system refuses the command. -/
  | ioctl (name : String) (cause : Files.Errno)
  /-- The controller could not pass the frame on. -/
  | sasStatus (ioc : Controller.IocStatus) (sas : Controller.SasStatus) (logInfo : UInt32)
  /-- The name of the node does not end in a controller number. -/
  | noOrdinal (path : String)
  /-- A buffer is too long for the field that describes it. -/
  | requestTooLarge (length : Nat)
  /-- The node does not do this. -/
  | unsupported
  deriving DecidableEq, Repr

namespace TransportError

/-- The wording of two statuses, the first of which only counts where the second is success. -/
def statusWording (ioc : Controller.IocStatus) (sas : Controller.SasStatus) : String :=
  if sas ≠ .success then
    match sas.description? with
    | some text => text
    | none => "unrecognized SAS (SMP) error " ++ Text.markedHex 0 sas.code.toNat
  else
    match ioc.description? with
    | some text => text ++ " (IOCStatus)"
    | none => "IOCStatus=" ++ Text.markedHex 0 ioc.code.toNat

/-- The wording of an error. -/
def message : TransportError → String
  | .open path _ => "failed to open " ++ path
  | .stat path _ => "failed to stat " ++ path
  | .deviceIdentity path major minor =>
    path ++ " is not an mpt control node (major " ++ Text.decimal major ++ ", minor " ++
      Text.decimal minor ++ ")"
  | .ioctl name _ => name ++ " ioctl failed"
  | .sasStatus ioc sas _ => "smp passthrough failed: " ++ statusWording ioc sas
  | .noOrdinal path => path ++ " does not name a controller number"
  | .requestTooLarge length =>
    "transfer of " ++ Text.decimal length ++ " bytes does not fit the request"
  | .unsupported => "operation not supported by the transport"

/-- The wordings of the causes, outermost first. -/
def sources : TransportError → List String
  | .open _ cause | .stat _ cause => [cause.text]
  | .ioctl _ cause => [cause.symbolText]
  | _ => []

end TransportError

/-- An error with its causes on one line. -/
def describe (message : String) (sources : List String) : String :=
  ": ".intercalate (message :: sources)

/-- An error with its causes on one line. -/
def TransportError.describe (e : TransportError) : String := BayMap.describe e.message e.sources

end BayMap
