import BayMap.Sysfs.DeviceType
import BayMap.Sysfs.Devices

/-!
# The list of devices

The SCSI devices in their order, a line each: address, type, block device and world-wide identifier,
in columns. The list is all or nothing: the first thing that cannot be read decides the error.
-/

namespace BayMap.Sysfs

open Files (Tree Entry)

/-- A device in the list. -/
structure Row where
  /-- The name of the device. -/
  name : String
  /-- The peripheral device type, if there is one. -/
  type : Option UInt8
  /-- The block device. -/
  blockName : String
  /-- The world-wide identifier. -/
  wwid : String
  deriving DecidableEq, Repr

namespace Row

/-- The line of a device, without blanks at its end. -/
def line (r : Row) : String :=
  let typeName := (r.type.map deviceTypeName).getD "-"
  .ofList <| Text.trimEnd <|
    Text.column 12 r.name.toList ++ ' ' :: Text.column 18 typeName.toList ++
      ' ' :: Text.column 6 r.blockName.toList ++ ' ' :: r.wwid.toList

/-- The lines of devices. -/
def listing (rows : List Row) : String := "\n".intercalate (rows.map line)

end Row

/-- What is read of a device. -/
inductive Attribute where
  | type
  | wwid
  | blockDevice
  deriving DecidableEq, Repr

/-- The name of what is read. -/
def Attribute.name : Attribute → String
  | .type => "type"
  | .wwid => "wwid"
  | .blockDevice => "block device"

/-- Why there is no list. -/
inductive ListingError where
  /-- The devices cannot be listed. -/
  | devices (directory : String) (cause : Files.Error)
  /-- Something cannot be read of a device. -/
  | attribute (what : Attribute) (device : String) (cause : Files.Error)
  deriving DecidableEq, Repr

namespace ListingError

/-- The wording of an error. -/
def message : ListingError → String
  | .devices directory _ => "failed to list scsi devices in " ++ directory
  | .attribute what device _ => "failed to read the " ++ what.name ++ " of " ++ device

/-- The file error behind an error. -/
def cause : ListingError → Files.Error
  | .devices _ cause | .attribute _ _ cause => cause

end ListingError

/-- Reads the row of a device in a directory of devices. -/
def readRow (t : Tree) (root : String) (e : Entry) : Except ListingError Row := do
  let directory := Files.Path.join root e.name
  let type ← (deviceType t directory).mapError (.attribute .type e.name)
  let wwid ← (readAttribute t directory "wwid").mapError (.attribute .wwid e.name)
  let blockName ← (Sysfs.blockName t directory).mapError (.attribute .blockDevice e.name)
  return { name := e.name, type, blockName := blockName.getD "", wwid := wwid.getD "" }

/-- Reads the rows of all devices. -/
def readRows (t : Tree) (root : String) : Except ListingError (List Row) := do
  (← (devices t root).mapError (.devices root)).mapM (readRow t root)

end BayMap.Sysfs
