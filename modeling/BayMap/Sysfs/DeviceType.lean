/-!
# Peripheral device types

The names of the SCSI peripheral device types.
-/

namespace BayMap.Sysfs

/-- The names of the types from 0 on. -/
def typeNames : List String :=
  [
    "Direct-Access",
    "Sequential-Access",
    "Printer",
    "Processor",
    "Write-once",
    "CD-ROM",
    "Scanner",
    "Optical memory",
    "Medium Changer",
    "Communications",
    "Unknown (0xa)",
    "Unknown (0xb)",
    "Storage array",
    "Enclosure",
    "Simplified direct-access",
    "Optical card read/writer",
    "Bridge controller",
    "Object based storage",
    "Automation Drive interface",
    "Security manager",
    "Zoned Block",
    "Reserved (0x15)",
    "Reserved (0x16)",
    "Reserved (0x17)",
    "Reserved (0x18)",
    "Reserved (0x19)",
    "Reserved (0x1a)",
    "Reserved (0x1b)",
    "Reserved (0x1c)",
    "Reserved (0x1d)",
    "Well known LU",
    "No device"
  ]

/-- The name of a type. -/
def deviceTypeName (type : UInt8) : String := (typeNames[type.toNat]?).getD "Unknown"

end BayMap.Sysfs
