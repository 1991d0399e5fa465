import BayMap.Bytes.Packed
import BayMap.Text.Blank
import BayMap.Text.Utf8

/-!
# Adapters

What the driver knows of an adapter: its place on the PCI bus, its state, and the driver itself.
-/

namespace BayMap.Controller

/-- The text of a field of fixed size: it ends before the first zero byte, and blanks at its end are
dropped. -/
def fixedText (field : Bytes) : String :=
  .ofList (Text.trimEnd (Text.Utf8.lossy (field.takeWhile (· != 0))))

/-- A place on the PCI bus: the device in the low five bits, the function in the next three, and the
bus above them. -/
structure PciLocation where
  /-- The bits of the field. -/
  bits : UInt16
  deriving DecidableEq, Repr

namespace PciLocation

/-- The device. -/
def device (l : PciLocation) : UInt8 := (l.bits &&& 0x1f).toUInt8

/-- The function. -/
def function (l : PciLocation) : UInt8 := ((l.bits >>> 5) &&& 0x7).toUInt8

/-- The bus. -/
def bus (l : PciLocation) : UInt8 := (l.bits >>> 8).toUInt8

/-- The place with the given device, function and bus. -/
def make (device function bus : UInt8) : PciLocation where
  bits := (device &&& 0x1f).toUInt16 ||| ((function &&& 0x7).toUInt16 <<< 5) |||
    (bus.toUInt16 <<< 8)

end PciLocation

instance : Packed PciLocation where
  size := 2
  decode b := ⟨b.u16At 0⟩
  encode x := Bytes.of16 x.bits

/-- The driver of an adapter. -/
structure DriverInfo where
  /-- The length of this record. -/
  informationLength : UInt32
  /-- The signature. -/
  signature : Vector UInt8 12
  /-- The system. -/
  osName : Vector UInt8 16
  /-- The version of the system. -/
  osVersion : Vector UInt8 12
  /-- The name of the driver. -/
  name : Vector UInt8 20
  /-- The version of the driver. -/
  version : Vector UInt8 32
  /-- The date of the driver. -/
  releaseDate : Vector UInt8 20
  /-- What the driver can do. -/
  capabilities : UInt32
  deriving DecidableEq, Repr

instance : Packed DriverInfo where
  size := 120
  decode b :=
    { informationLength := b.u32At 0x0
      signature := b.block 0x4 12
      osName := b.block 0x10 16
      osVersion := b.block 0x20 12
      name := b.block 0x2c 20
      version := b.block 0x40 32
      releaseDate := b.block 0x60 20
      capabilities := b.u32At 0x74 }
  encode x :=
    Bytes.of32 x.informationLength ++ x.signature.toList ++ x.osName.toList ++
      x.osVersion.toList ++ x.name.toList ++ x.version.toList ++ x.releaseDate.toList ++
      Bytes.of32 x.capabilities

/-- An adapter. -/
structure AdapterInfo where
  /-- The type of the adapter. -/
  adpType : UInt32
  /-- Reserved. -/
  reserved04 : UInt32
  /-- The PCI device. -/
  pciDevId : UInt32
  /-- The PCI revision. -/
  pciDevHwRev : UInt32
  /-- The PCI device of the subsystem. -/
  pciSubsysDevId : UInt32
  /-- The PCI vendor of the subsystem. -/
  pciSubsysVenId : UInt32
  /-- The place on the bus. -/
  location : PciLocation
  /-- Reserved. -/
  reserved1a : UInt16
  /-- The PCI segment. -/
  pciSegId : UInt32
  /-- The version of the application interface. -/
  appIntfcVer : UInt32
  /-- The state of the adapter. -/
  adpState : UInt8
  /-- Reserved. -/
  reserved25 : UInt8
  /-- Reserved. -/
  reserved26 : UInt16
  /-- Reserved. -/
  reserved28 : UInt32
  /-- Reserved. -/
  reserved2c : UInt32
  /-- The driver. -/
  driver : DriverInfo
  deriving DecidableEq, Repr

instance : Packed AdapterInfo where
  size := 168
  decode b :=
    { adpType := b.u32At 0x0
      reserved04 := b.u32At 0x4
      pciDevId := b.u32At 0x8
      pciDevHwRev := b.u32At 0xc
      pciSubsysDevId := b.u32At 0x10
      pciSubsysVenId := b.u32At 0x14
      location := Packed.decode (b.slice 0x18 2)
      reserved1a := b.u16At 0x1a
      pciSegId := b.u32At 0x1c
      appIntfcVer := b.u32At 0x20
      adpState := b.u8At 0x24
      reserved25 := b.u8At 0x25
      reserved26 := b.u16At 0x26
      reserved28 := b.u32At 0x28
      reserved2c := b.u32At 0x2c
      driver := Packed.decode (b.slice 0x30 120) }
  encode x :=
    Bytes.of32 x.adpType ++ Bytes.of32 x.reserved04 ++ Bytes.of32 x.pciDevId ++
      Bytes.of32 x.pciDevHwRev ++ Bytes.of32 x.pciSubsysDevId ++ Bytes.of32 x.pciSubsysVenId ++
      Packed.encode x.location ++ Bytes.of16 x.reserved1a ++ Bytes.of32 x.pciSegId ++
      Bytes.of32 x.appIntfcVer ++ [x.adpState] ++ [x.reserved25] ++ Bytes.of16 x.reserved26 ++
      Bytes.of32 x.reserved28 ++ Bytes.of32 x.reserved2c ++ Packed.encode x.driver

end BayMap.Controller
