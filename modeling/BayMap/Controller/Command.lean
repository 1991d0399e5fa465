import BayMap.Controller.Request

/-!
# Controller commands

What can be asked of a controller: two questions are answered by its driver, and the others are
messages to the controller itself.
-/

namespace BayMap.Controller

/-- A command to a controller. -/
inductive Command where
  /-- The driver tells about the adapter. -/
  | adapterInfo
  /-- The driver tells which device handle is which target. -/
  | targets
  /-- The controller tells its facts. -/
  | facts
  /-- The controller reads a configuration page. -/
  | config (request : ConfigRequest)
  /-- The controller sends a SCSI command to a device. -/
  | scsi (request : ScsiRequest)
  /-- The controller passes a management frame to the expander at an address. -/
  | smp (address : UInt64) (frame : Bytes)
  deriving DecidableEq, Repr

end BayMap.Controller
