import BayMap.Sysfs.Devices
import BayMap.Topology.Layout
import BayMap.Transport.Session

/-!
# Configuration

Where passes look, and how long they wait.
-/

namespace BayMap.Topology

/-- Where passes look, and how long they wait. -/
structure Config where
  /-- Where sysfs is mounted. -/
  sysfsRoot : String
  /-- The directory of the nodes of expanders and controllers. -/
  bsgRoot : String
  /-- The directory of the node of the first controller generations. -/
  devRoot : String
  /-- The shape of the tables. -/
  layout : Layout
  /-- The milliseconds that a request may take. -/
  timeout : UInt32
  deriving DecidableEq, Repr

namespace Config

/-- The places where a system has them. -/
def standard : Config where
  sysfsRoot := "/sys"
  bsgRoot := "/dev/bsg"
  devRoot := "/dev"
  layout := .standard
  timeout := Transport.defaultTimeout

/-- The directory of the SCSI devices. -/
def devicesRoot (c : Config) : String := Files.Path.join c.sysfsRoot Sysfs.devicesDirectory

/-- The directory of the nodes of a kind. -/
def nodesRoot (c : Config) : Transport.Kind → String
  | .bsg | .mpi3mr => c.bsgRoot
  | .mpt => c.devRoot

end Config

end BayMap.Topology
