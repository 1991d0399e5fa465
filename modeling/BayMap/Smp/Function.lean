/-!
# SMP functions

The function byte of a management frame, its symbolic name, and the frame lengths that apply where
a device of the first protocol generation leaves the length byte zero.
-/

namespace BayMap.Smp

/-- A function code. Codes outside the table are functions too. -/
structure Function where
  /-- The byte of the frame. -/
  code : UInt8
  deriving DecidableEq, Repr

/-- The length of a frame whose length byte says nothing. -/
inductive DefaultLength where
  /-- This many dwords, the header and the checksum not counted. -/
  | dwords (count : UInt8)
  /-- The function has no default length. -/
  | noDefault
  /-- The function has a frame format of its own. -/
  | differentFormat
  deriving DecidableEq, Repr

/-- The dwords of a default length, where it has any. -/
def DefaultLength.dwords? : DefaultLength → Option UInt8
  | .dwords count => some count
  | .noDefault | .differentFormat => none

/-- What is known of a function. -/
structure FunctionEntry where
  /-- The function code. -/
  code : UInt8
  /-- The symbolic name. -/
  name : String
  /-- The default length of a request. -/
  request : DefaultLength
  /-- The default length of a response. -/
  response : DefaultLength
  deriving Repr

/-- The known functions. -/
def functionTable : List FunctionEntry :=
  [
    ⟨0x00, "REPORT_GENERAL", .dwords 0, .dwords 6⟩,
    ⟨0x01, "REPORT_MANUFACTURER", .dwords 0, .dwords 14⟩,
    ⟨0x02, "READ_GPIO_REG", .differentFormat, .differentFormat⟩,
    ⟨0x03, "REPORT_SELF_CONFIG", .noDefault, .noDefault⟩,
    ⟨0x04, "REPORT_ZONE_PERMISSION_TABLE", .noDefault, .noDefault⟩,
    ⟨0x05, "REPORT_ZONE_MANAGER_PASSWORD", .noDefault, .noDefault⟩,
    ⟨0x06, "REPORT_BROADCAST", .noDefault, .noDefault⟩,
    ⟨0x07, "READ_GPIO_REG_ENHANCED", .noDefault, .noDefault⟩,
    ⟨0x10, "DISCOVER", .dwords 2, .dwords 12⟩,
    ⟨0x11, "REPORT_PHY_ERROR_LOG", .dwords 2, .dwords 6⟩,
    ⟨0x12, "REPORT_PHY_SATA", .dwords 2, .dwords 13⟩,
    ⟨0x13, "REPORT_ROUTE_INFO", .dwords 2, .dwords 9⟩,
    ⟨0x14, "REPORT_PHY_EVENT", .noDefault, .noDefault⟩,
    ⟨0x20, "DISCOVER_LIST", .noDefault, .noDefault⟩,
    ⟨0x21, "REPORT_PHY_EVENT_LIST", .noDefault, .noDefault⟩,
    ⟨0x22, "REPORT_EXPANDER_ROUTE_TABLE_LIST", .noDefault, .noDefault⟩,
    ⟨0x80, "CONFIG_GENERAL", .dwords 3, .dwords 0⟩,
    ⟨0x81, "ENABLE_DISABLE_ZONING", .noDefault, .dwords 0⟩,
    ⟨0x82, "WRITE_GPIO_REG", .differentFormat, .differentFormat⟩,
    ⟨0x83, "WRITE_GPIO_REG_ENHANCED", .noDefault, .noDefault⟩,
    ⟨0x85, "ZONED_BROADCAST", .noDefault, .dwords 0⟩,
    ⟨0x86, "ZONE_LOCK", .noDefault, .noDefault⟩,
    ⟨0x87, "ZONE_ACTIVATE", .noDefault, .dwords 0⟩,
    ⟨0x88, "ZONE_UNLOCK", .noDefault, .dwords 0⟩,
    ⟨0x89, "CONFIG_ZONE_MANAGER_PASSWORD", .noDefault, .dwords 0⟩,
    ⟨0x8a, "CONFIG_ZONE_PHY_INFO", .noDefault, .dwords 0⟩,
    ⟨0x8b, "CONFIG_ZONE_PERMISSION_TABLE", .noDefault, .dwords 0⟩,
    ⟨0x90, "CONFIG_ROUTE_INFO", .dwords 9, .dwords 0⟩,
    ⟨0x91, "PHY_CONTROL", .dwords 9, .dwords 0⟩,
    ⟨0x92, "PHY_TEST_FUNCTION", .dwords 9, .dwords 0⟩,
    ⟨0x93, "CONFIG_PHY_EVENT", .noDefault, .dwords 0⟩
  ]

namespace Function

/-- What is known of a function, if anything. -/
def entry? (f : Function) : Option FunctionEntry := functionTable.find? (·.code == f.code)

/-- The symbolic name of a known function. -/
def name? (f : Function) : Option String := f.entry?.map (·.name)

/-- The default length of a request. -/
def defaultRequest? (f : Function) : Option DefaultLength := f.entry?.map (·.request)

/-- The default length of a response. -/
def defaultResponse? (f : Function) : Option DefaultLength := f.entry?.map (·.response)

/-- REPORT GENERAL. -/
def reportGeneral : Function := ⟨0x00⟩

/-- REPORT MANUFACTURER INFORMATION. -/
def reportManufacturer : Function := ⟨0x01⟩

/-- DISCOVER. -/
def discover : Function := ⟨0x10⟩

/-- PHY CONTROL. -/
def phyControl : Function := ⟨0x91⟩

end Function

end BayMap.Smp
