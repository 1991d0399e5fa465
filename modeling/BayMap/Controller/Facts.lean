import BayMap.Bytes.Packed

/-!
# Controller facts

What a controller says of itself, as the record that it sends (`FactsData`) and as the part of it
that an inventory keeps (`Facts`).
-/

namespace BayMap.Controller

/-- A version of the message interface. -/
structure MessageVersion where
  /-- The development number. -/
  dev : UInt8
  /-- The unit number. -/
  unit : UInt8
  /-- The minor number. -/
  minor : UInt8
  /-- The major number. -/
  major : UInt8
  deriving DecidableEq, Repr

instance : Packed MessageVersion where
  size := 4
  decode b :=
    { dev := b.u8At 0x0
      unit := b.u8At 0x1
      minor := b.u8At 0x2
      major := b.u8At 0x3 }
  encode x :=
    [x.dev] ++ [x.unit] ++ [x.minor] ++ [x.major]

/-- A version of the firmware. -/
structure FirmwareVersion where
  /-- The number of the build. -/
  buildNum : UInt16
  /-- The customer. -/
  customerId : UInt16
  /-- The minor phase. -/
  phaseMinor : UInt8
  /-- The major phase. -/
  phaseMajor : UInt8
  /-- The minor generation. -/
  genMinor : UInt8
  /-- The major generation. -/
  genMajor : UInt8
  deriving DecidableEq, Repr

instance : Packed FirmwareVersion where
  size := 8
  decode b :=
    { buildNum := b.u16At 0x0
      customerId := b.u16At 0x2
      phaseMinor := b.u8At 0x4
      phaseMajor := b.u8At 0x5
      genMinor := b.u8At 0x6
      genMajor := b.u8At 0x7 }
  encode x :=
    Bytes.of16 x.buildNum ++ Bytes.of16 x.customerId ++ [x.phaseMinor] ++ [x.phaseMajor] ++
      [x.genMinor] ++ [x.genMajor]

/-- The facts as they are sent. -/
structure FactsData where
  /-- The length of this data in dwords. -/
  iocFactsDataLength : UInt16
  /-- Reserved. -/
  reserved02 : UInt16
  /-- The version of the message interface. -/
  mpiVersion : MessageVersion
  /-- The version of the firmware. -/
  fwVersion : FirmwareVersion
  /-- What the controller can do. -/
  iocCapabilities : UInt32
  /-- The number of the controller. -/
  iocNumber : UInt8
  /-- Who initialised the controller. -/
  whoInit : UInt8
  /-- The interrupt vectors. -/
  maxMsixVectors : UInt16
  /-- The requests that may be open. -/
  maxOutstandingRequests : UInt16
  /-- The product. -/
  productId : UInt16
  /-- The size of a request frame. -/
  iocRequestFrameSize : UInt16
  /-- The size of a reply frame in dwords. -/
  replyFrameSize : UInt16
  /-- Exceptions. -/
  iocExceptions : UInt16
  /-- The greatest persistent identifier. -/
  maxPersistentId : UInt16
  /-- The mask of the buffer modifier. -/
  sgeModifierMask : UInt8
  /-- The value of the buffer modifier. -/
  sgeModifierValue : UInt8
  /-- The shift of the buffer modifier. -/
  sgeModifierShift : UInt8
  /-- The protocols spoken. -/
  protocolFlags : UInt8
  /-- The initiators at most. -/
  maxSasInitiators : UInt16
  /-- Reserved. -/
  reserved2a : UInt16
  /-- The expanders at most. -/
  maxSasExpanders : UInt16
  /-- The enclosures at most. -/
  maxEnclosures : UInt16
  /-- The least device handle. -/
  minDevHandle : UInt16
  /-- The greatest device handle. -/
  maxDevHandle : UInt16
  /-- The switches at most. -/
  maxPcieSwitches : UInt16
  /-- The NVMe devices at most. -/
  maxNvme : UInt16
  /-- Reserved. -/
  reserved38 : UInt16
  /-- The virtual disks at most. -/
  maxVds : UInt16
  /-- The disks of the host at most. -/
  maxHostPds : UInt16
  /-- The advanced disks of the host at most. -/
  maxAdvHostPds : UInt16
  /-- The disks of arrays at most. -/
  maxRaidPds : UInt16
  /-- The posted command buffers at most. -/
  maxPostedCmdBuffers : UInt16
  /-- Flags, the personality among them. -/
  flags : UInt32
  /-- The request queues at most. -/
  maxOperationalRequestQueues : UInt16
  /-- The reply queues at most. -/
  maxOperationalReplyQueues : UInt16
  /-- The time a shutdown takes at most. -/
  shutdownTimeout : UInt16
  /-- Reserved. -/
  reserved4e : UInt16
  /-- The size of the trace buffer. -/
  diagTraceSize : UInt32
  /-- The size of the firmware buffer. -/
  diagFwSize : UInt32
  /-- The size of the driver buffer. -/
  diagDriverSize : UInt32
  /-- The name spaces of a disk of the host. -/
  maxHostPdNsCount : UInt8
  /-- The name spaces of an advanced disk of the host. -/
  maxAdvHostPdNsCount : UInt8
  /-- The name spaces of a disk of an array. -/
  maxRaidpdNsCount : UInt8
  /-- The devices of a throttle group. -/
  maxDevicesPerThrottleGroup : UInt8
  /-- The data length of throttling. -/
  ioThrottleDataLength : UInt16
  /-- The throttle groups at most. -/
  maxIoThrottleGroup : UInt16
  /-- The low mark of throttling. -/
  ioThrottleLow : UInt16
  /-- The high mark of throttling. -/
  ioThrottleHigh : UInt16
  deriving DecidableEq, Repr

instance : Packed FactsData where
  size := 104
  decode b :=
    { iocFactsDataLength := b.u16At 0x0
      reserved02 := b.u16At 0x2
      mpiVersion := Packed.decode (b.slice 0x4 4)
      fwVersion := Packed.decode (b.slice 0x8 8)
      iocCapabilities := b.u32At 0x10
      iocNumber := b.u8At 0x14
      whoInit := b.u8At 0x15
      maxMsixVectors := b.u16At 0x16
      maxOutstandingRequests := b.u16At 0x18
      productId := b.u16At 0x1a
      iocRequestFrameSize := b.u16At 0x1c
      replyFrameSize := b.u16At 0x1e
      iocExceptions := b.u16At 0x20
      maxPersistentId := b.u16At 0x22
      sgeModifierMask := b.u8At 0x24
      sgeModifierValue := b.u8At 0x25
      sgeModifierShift := b.u8At 0x26
      protocolFlags := b.u8At 0x27
      maxSasInitiators := b.u16At 0x28
      reserved2a := b.u16At 0x2a
      maxSasExpanders := b.u16At 0x2c
      maxEnclosures := b.u16At 0x2e
      minDevHandle := b.u16At 0x30
      maxDevHandle := b.u16At 0x32
      maxPcieSwitches := b.u16At 0x34
      maxNvme := b.u16At 0x36
      reserved38 := b.u16At 0x38
      maxVds := b.u16At 0x3a
      maxHostPds := b.u16At 0x3c
      maxAdvHostPds := b.u16At 0x3e
      maxRaidPds := b.u16At 0x40
      maxPostedCmdBuffers := b.u16At 0x42
      flags := b.u32At 0x44
      maxOperationalRequestQueues := b.u16At 0x48
      maxOperationalReplyQueues := b.u16At 0x4a
      shutdownTimeout := b.u16At 0x4c
      reserved4e := b.u16At 0x4e
      diagTraceSize := b.u32At 0x50
      diagFwSize := b.u32At 0x54
      diagDriverSize := b.u32At 0x58
      maxHostPdNsCount := b.u8At 0x5c
      maxAdvHostPdNsCount := b.u8At 0x5d
      maxRaidpdNsCount := b.u8At 0x5e
      maxDevicesPerThrottleGroup := b.u8At 0x5f
      ioThrottleDataLength := b.u16At 0x60
      maxIoThrottleGroup := b.u16At 0x62
      ioThrottleLow := b.u16At 0x64
      ioThrottleHigh := b.u16At 0x66 }
  encode x :=
    Bytes.of16 x.iocFactsDataLength ++ Bytes.of16 x.reserved02 ++ Packed.encode x.mpiVersion ++
      Packed.encode x.fwVersion ++ Bytes.of32 x.iocCapabilities ++ [x.iocNumber] ++ [x.whoInit] ++
      Bytes.of16 x.maxMsixVectors ++ Bytes.of16 x.maxOutstandingRequests ++
      Bytes.of16 x.productId ++ Bytes.of16 x.iocRequestFrameSize ++ Bytes.of16 x.replyFrameSize ++
      Bytes.of16 x.iocExceptions ++ Bytes.of16 x.maxPersistentId ++ [x.sgeModifierMask] ++
      [x.sgeModifierValue] ++ [x.sgeModifierShift] ++ [x.protocolFlags] ++
      Bytes.of16 x.maxSasInitiators ++ Bytes.of16 x.reserved2a ++ Bytes.of16 x.maxSasExpanders ++
      Bytes.of16 x.maxEnclosures ++ Bytes.of16 x.minDevHandle ++ Bytes.of16 x.maxDevHandle ++
      Bytes.of16 x.maxPcieSwitches ++ Bytes.of16 x.maxNvme ++ Bytes.of16 x.reserved38 ++
      Bytes.of16 x.maxVds ++ Bytes.of16 x.maxHostPds ++ Bytes.of16 x.maxAdvHostPds ++
      Bytes.of16 x.maxRaidPds ++ Bytes.of16 x.maxPostedCmdBuffers ++ Bytes.of32 x.flags ++
      Bytes.of16 x.maxOperationalRequestQueues ++ Bytes.of16 x.maxOperationalReplyQueues ++
      Bytes.of16 x.shutdownTimeout ++ Bytes.of16 x.reserved4e ++ Bytes.of32 x.diagTraceSize ++
      Bytes.of32 x.diagFwSize ++ Bytes.of32 x.diagDriverSize ++ [x.maxHostPdNsCount] ++
      [x.maxAdvHostPdNsCount] ++ [x.maxRaidpdNsCount] ++ [x.maxDevicesPerThrottleGroup] ++
      Bytes.of16 x.ioThrottleDataLength ++ Bytes.of16 x.maxIoThrottleGroup ++
      Bytes.of16 x.ioThrottleLow ++ Bytes.of16 x.ioThrottleHigh

/-- What a controller acts as. -/
inductive Personality where
  /-- A host bus adapter. -/
  | hostAdapter
  /-- A RAID controller with memory of its own. -/
  | raidMemory
  /-- A reserved code. -/
  | other (code : UInt32)
  deriving DecidableEq, Repr

/-- The personality among the flags of the facts. -/
def Personality.ofFlags (flags : UInt32) : Personality :=
  let code := flags &&& 0xc
  if code = 0 then .hostAdapter else if code = 8 then .raidMemory else .other code

/-- The facts that an inventory keeps. -/
structure Facts where
  /-- The number of the controller. -/
  iocNumber : UInt8
  /-- What the controller acts as. -/
  personality : Personality
  /-- The version of the message interface. -/
  mpiVersion : MessageVersion
  /-- The version of the firmware. -/
  fwVersion : FirmwareVersion
  /-- The product. -/
  productId : UInt16
  /-- The size of a reply frame in bytes. -/
  replyFrameSize : UInt32
  /-- The expanders at most. -/
  maxSasExpanders : UInt16
  /-- The enclosures at most. -/
  maxEnclosures : UInt16
  deriving DecidableEq, Repr

/-- The part of the facts that is kept. -/
def Facts.ofData (data : FactsData) : Facts where
  iocNumber := data.iocNumber
  personality := .ofFlags data.flags
  mpiVersion := data.mpiVersion
  fwVersion := data.fwVersion
  productId := data.productId
  replyFrameSize := data.replyFrameSize.toUInt32 * 4
  maxSasExpanders := data.maxSasExpanders
  maxEnclosures := data.maxEnclosures

end BayMap.Controller
