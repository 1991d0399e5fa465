import BayMap.Text.Numeral

/-!
# Function results

The result byte of a management response. Zero means that the function was accepted.
-/

namespace BayMap.Smp

/-- A function result. Codes outside the table are results too. -/
structure FunctionResult where
  /-- The byte of the frame. -/
  code : UInt8
  deriving DecidableEq, Repr

/-- A known result: its code, symbolic name and description. -/
structure FunctionResultEntry where
  /-- The result code. -/
  code : UInt8
  /-- The symbolic name. -/
  name : String
  /-- The description of the standard. -/
  description : String
  deriving Repr

/-- The known results. -/
def functionResultTable : List FunctionResultEntry :=
  [
    ⟨0x00, "ACCEPTED", "SMP function accepted"⟩,
    ⟨0x01, "UNKNOWN_FUNCTION", "Unknown SMP function"⟩,
    ⟨0x02, "FUNCTION_FAILED", "SMP function failed"⟩,
    ⟨0x03, "INVALID_REQUEST_LEN", "Invalid request frame length"⟩,
    ⟨0x04, "INVALID_EXPANDER_CHANGE_COUNT", "Invalid expander change count"⟩,
    ⟨0x05, "BUSY", "Busy"⟩,
    ⟨0x06, "INCOMPLETE_DESCRIPTOR_LIST", "Incomplete descriptor list"⟩,
    ⟨0x10, "NO_PHY", "Phy does not exist"⟩,
    ⟨0x11, "NO_INDEX", "Index does not exist"⟩,
    ⟨0x12, "NO_SATA_SUPPORT", "Phy does not support SATA"⟩,
    ⟨0x13, "UNKNOWN_PHY_OPERATION", "Unknown phy operation"⟩,
    ⟨0x14, "UNKNOWN_PHY_TEST_FUNCTION", "Unknown phy test function"⟩,
    ⟨0x15, "PHY_TEST_IN_PROGRESS", "Phy test function in progress"⟩,
    ⟨0x16, "PHY_VACANT", "Phy vacant"⟩,
    ⟨0x17, "UNKNOWN_PHY_EVENT_SOURCE", "Unknown phy event source"⟩,
    ⟨0x18, "UNKNOWN_DESCRIPTOR_TYPE", "Unknown descriptor type"⟩,
    ⟨0x19, "UNKNOWN_PHY_FILTER", "Unknown phy filter"⟩,
    ⟨0x1a, "AFFILIATION_VIOLATION", "Affiliation violation"⟩,
    ⟨0x20, "SMP_ZONE_VIOLATION", "SMP zone violation"⟩,
    ⟨0x21, "NO_MANAGEMENT_ACCESS", "No management access rights"⟩,
    ⟨0x22, "UNKNOWN_ENABLE_DISABLE_ZONING_VALUE", "Unknown enable disable zoning value"⟩,
    ⟨0x23, "ZONE_LOCK_VIOLATION", "Zone lock violation"⟩,
    ⟨0x24, "NOT_ACTIVATED", "Not activated"⟩,
    ⟨0x25, "ZONE_GROUP_OUT_OF_RANGE", "Zone group out of range"⟩,
    ⟨0x26, "NO_PHYSICAL_PRESENCE", "No physical presence"⟩,
    ⟨0x27, "SAVING_NOT_SUPPORTED", "Saving not supported"⟩,
    ⟨0x28, "SOURCE_ZONE_GROUP", "Source zone group does not exist"⟩,
    ⟨0x29, "DISABLED_PASSWORD_NOT_SUPPORTED", "Disabled password not supported"⟩,
    ⟨0x2a, "INVALID_FIELD_IN_REQUEST", "Invalid field in SMP request"⟩
  ]

namespace FunctionResult

/-- What is known of a result, if anything. -/
def entry? (r : FunctionResult) : Option FunctionResultEntry :=
  functionResultTable.find? (·.code == r.code)

/-- The symbolic name of a known result. -/
def name? (r : FunctionResult) : Option String := r.entry?.map (·.name)

/-- The description of a known result. -/
def description? (r : FunctionResult) : Option String := r.entry?.map (·.description)

/-- The text of a result: its description, or its code where it has none. -/
def text (r : FunctionResult) : String :=
  r.description?.getD ("unknown function result code=" ++ Text.markedHex 2 r.code.toNat)

/-- The phy does not exist. -/
def noPhy : FunctionResult := ⟨0x10⟩

/-- The phy exists, and nothing can be asked of it. -/
def phyVacant : FunctionResult := ⟨0x16⟩

end FunctionResult

end BayMap.Smp
