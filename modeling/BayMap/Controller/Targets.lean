import BayMap.Bytes.Packed

/-!
# Target devices

The table in which a driver says which device handle is which SCSI target.
-/

namespace BayMap.Controller

/-- A target device. -/
structure TargetDevice where
  /-- The device handle. -/
  handle : UInt16
  /-- The persistent identifier. -/
  persistentId : UInt16
  /-- The SCSI target. -/
  targetId : UInt32
  /-- The SCSI bus. -/
  busId : UInt8
  /-- Reserved. -/
  reserved09 : UInt8
  /-- Reserved. -/
  reserved0a : UInt16
  deriving DecidableEq, Repr

instance : Packed TargetDevice where
  size := 12
  decode b :=
    { handle := b.u16At 0x0
      persistentId := b.u16At 0x2
      targetId := b.u32At 0x4
      busId := b.u8At 0x8
      reserved09 := b.u8At 0x9
      reserved0a := b.u16At 0xa }
  encode x :=
    Bytes.of16 x.handle ++ Bytes.of16 x.persistentId ++ Bytes.of32 x.targetId ++ [x.busId] ++
      [x.reserved09] ++ Bytes.of16 x.reserved0a

/-- The entries of a table. -/
def maxTargets : Nat := 101

/-- The table of target devices. -/
structure TargetTable where
  /-- The entries in use. -/
  numDevices : UInt16
  /-- Reserved. -/
  reserved02 : UInt16
  /-- Reserved. -/
  reserved04 : UInt32
  /-- The entries, used or not. -/
  devices : Vector TargetDevice maxTargets
  deriving DecidableEq, Repr

instance : Packed TargetTable where
  size := 8 + 12 * maxTargets
  decode b :=
    { numDevices := b.u16At 0
      reserved02 := b.u16At 2
      reserved04 := b.u32At 4
      devices := Vector.ofFn fun i => Packed.decode (b.slice (8 + 12 * i.val) 12) }
  encode x :=
    Bytes.of16 x.numDevices ++ Bytes.of16 x.reserved02 ++ Bytes.of32 x.reserved04 ++
      x.devices.toList.flatMap Packed.encode

end BayMap.Controller
