import BayMap.Topology.Expanders
import BayMap.Topology.Slots

/-!
# Topologies

What is known of the drive bays of a system and of the expanders behind which they are.
-/

namespace BayMap

/-- How a controller shows the bays of its disks in sysfs. -/
inductive Topology.Family where
  /-- A bay follows from the distance to the expander. -/
  | byDistance
  /-- Each disk carries a marker that names its bay. -/
  | byMarker
  deriving DecidableEq, Repr

/-- The drive bays of a system and its expanders. -/
structure Topology where
  /-- The shape of the tables. -/
  layout : Topology.Layout
  /-- How bays were found. -/
  family : Topology.Family
  /-- The drive bays. -/
  slots : Topology.SlotTable
  /-- The expanders. -/
  expanders : Topology.ExpanderTable
  deriving DecidableEq, Repr

/-- The topology of a layout of which nothing is known. -/
def Topology.empty (layout : Topology.Layout) : Topology :=
  ⟨layout, .byDistance, .empty layout, .empty layout⟩

@[simp] theorem Topology.layout_empty (layout : Topology.Layout) :
    (Topology.empty layout).layout = layout := rfl

end BayMap
