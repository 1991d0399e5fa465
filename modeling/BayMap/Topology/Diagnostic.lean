import BayMap.Smp.Error
import BayMap.Smp.PhyRecord
import BayMap.Topology.Placement

/-!
# Diagnostics

The problems that a pass meets and goes on after. A problem takes something from the result of the
pass, and never ends it.
-/

namespace BayMap.Topology

/-- What can be read of a controller. -/
inductive Reading where
  | adapterInfo
  | facts
  | sesBuffer
  | manufacturer
  deriving DecidableEq, Repr

/-- The name of a reading. -/
def Reading.name : Reading → String
  | .adapterInfo => "adapter info"
  | .facts => "ioc facts"
  | .sesBuffer => "ses read buffer"
  | .manufacturer => "report manufacturer"

/-- A problem that a pass goes on after. -/
inductive Diagnostic where
  /-- The SCSI devices cannot be listed. -/
  | devicesUnlisted (directory : String) (cause : Files.Error)
  /-- A device or an expander has no place. -/
  | unplaced (device : String) (cause : PlacementError)
  /-- An expander has no world-wide identifier. -/
  | wwidMissing (expander : String)
  /-- The world-wide identifier of an expander cannot be read. -/
  | wwidUnreadable (expander : String) (cause : Files.Error)
  /-- The nodes of a kind cannot be listed. -/
  | nodesUnlisted (kind : Transport.Kind) (directory : String) (cause : Files.Error)
  /-- A node cannot be opened. -/
  | nodeUnopened (cause : TransportError)
  /-- The name of a node does not end in a controller number. -/
  | unnumbered (path : String)
  /-- A controller does not give a reading. -/
  | unread (path : String) (reading : Reading) (cause : SmpError)
  /-- An expander does not say what it is. -/
  | generalFailed (path : String) (cause : SmpError)
  /-- An expander refuses to tell of a phy. -/
  | phyRefused (path : String) (phy : UInt8) (result : Smp.FunctionResult)
  /-- An expander does not tell of a phy. -/
  | phyFailed (path : String) (phy : UInt8) (cause : SmpError)
  /-- There is no entry for an expander that was met. -/
  | unregistered (path : String) (index : Nat)
  /-- A phy has a bay number that its expander does not have. -/
  | outsideTable (phy : UInt8) (expander : UInt64) (bay : Nat)
  /-- It is not known which phy is wired to a slot. -/
  | phyUnknown (slot : Nat)
  /-- It is not known how to reach the expander of a slot. -/
  | nodeUnknown (slot expander : Nat)
  deriving DecidableEq, Repr

namespace Diagnostic

/-- The wording of a problem. -/
def text : Diagnostic → String
  | devicesUnlisted directory cause =>
    "cannot list " ++ directory ++ ": " ++ cause.message ++
      "; the SCSI mid level module may not be loaded"
  | unplaced device cause =>
    "device [" ++ device ++ "] setting error: " ++ describe cause.message cause.sources
  | wwidMissing expander => "error: cannot get expander [" ++ expander ++ "] wwid"
  | wwidUnreadable expander cause =>
    "error: cannot get expander [" ++ expander ++ "] wwid: " ++ cause.message
  | nodesUnlisted kind directory cause =>
    "cannot list " ++ kind.name ++ " nodes in " ++ directory ++ ": " ++ cause.message
  | nodeUnopened cause => cause.describe
  | unnumbered path => path ++ ": " ++ (TransportError.noOrdinal path).message
  | unread path reading cause => path ++ ": " ++ reading.name ++ " failed: " ++ cause.describe
  | generalFailed path cause => path ++ ": report general failed: " ++ cause.describe
  | phyRefused path phy result =>
    path ++ ": phy " ++ Text.decimal phy.toNat ++ ": " ++ result.text
  | phyFailed path phy cause =>
    path ++ ": discover phy " ++ Text.decimal phy.toNat ++ " failed: " ++ cause.describe
  | unregistered path index => path ++ ": " ++ (PlacementError.expanderOutOfRange index).message
  | outsideTable phy expander bay =>
    "phy " ++ Text.decimal phy.toNat ++ " of expander " ++ Text.markedHex 0 expander.toNat ++
      " reports slot " ++ Text.decimal bay ++ ", outside the slot table"
  | phyUnknown slot => "slot " ++ Text.decimal slot ++ ": no phy recorded"
  | nodeUnknown slot expander =>
    "slot " ++ Text.decimal slot ++ ": expander " ++ Text.decimal expander ++ " has no transport"

end Diagnostic

end BayMap.Topology
