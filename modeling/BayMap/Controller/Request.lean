import BayMap.Bytes.Packed

/-!
# Controller messages

The requests that a controller takes, and its reply to a management frame it passed on. A list of
buffers (`sgl`) is left zero: the driver fills it in.
-/

namespace BayMap.Controller

/-- Asks for the facts of the controller. -/
structure FactsRequest where
  /-- The tag of the host. -/
  hostTag : UInt16
  /-- Kept for the controller. -/
  iocUseOnly02 : UInt8
  /-- The function of the message. -/
  function : UInt8
  /-- Kept for the controller. -/
  iocUseOnly04 : UInt16
  /-- Kept for the controller. -/
  iocUseOnly06 : UInt8
  /-- Message flags. -/
  msgFlags : UInt8
  /-- The change count. -/
  changeCount : UInt16
  /-- Reserved. -/
  reserved0a : UInt16
  /-- Reserved. -/
  reserved0c : UInt32
  /-- The buffers. -/
  sgl : Vector UInt8 16
  deriving DecidableEq, Repr

instance : Packed FactsRequest where
  size := 32
  decode b :=
    { hostTag := b.u16At 0x0
      iocUseOnly02 := b.u8At 0x2
      function := b.u8At 0x3
      iocUseOnly04 := b.u16At 0x4
      iocUseOnly06 := b.u8At 0x6
      msgFlags := b.u8At 0x7
      changeCount := b.u16At 0x8
      reserved0a := b.u16At 0xa
      reserved0c := b.u32At 0xc
      sgl := b.block 0x10 16 }
  encode x :=
    Bytes.of16 x.hostTag ++ [x.iocUseOnly02] ++ [x.function] ++ Bytes.of16 x.iocUseOnly04 ++
      [x.iocUseOnly06] ++ [x.msgFlags] ++ Bytes.of16 x.changeCount ++ Bytes.of16 x.reserved0a ++
      Bytes.of32 x.reserved0c ++ x.sgl.toList

instance : LawfulPacked FactsRequest where
  length_encode x := by simp [Packed.encode, Packed.size]
  decode_encode x rest := by simp [Packed.encode, Packed.decode]

/-- Reads a configuration page. -/
structure ConfigRequest where
  /-- The tag of the host. -/
  hostTag : UInt16
  /-- Kept for the controller. -/
  iocUseOnly02 : UInt8
  /-- The function of the message. -/
  function : UInt8
  /-- Kept for the controller. -/
  iocUseOnly04 : UInt16
  /-- Kept for the controller. -/
  iocUseOnly06 : UInt8
  /-- Message flags. -/
  msgFlags : UInt8
  /-- The change count. -/
  changeCount : UInt16
  /-- Reserved. -/
  reserved0a : UInt16
  /-- The version of the page layout. -/
  pageVersion : UInt8
  /-- The number of the page within its type. -/
  pageNumber : UInt8
  /-- The type of the page. -/
  pageType : UInt8
  /-- What to do with the page. -/
  action : UInt8
  /-- The form and handle that select the page. -/
  pageAddress : UInt32
  /-- The length of the page, zero to read its header. -/
  pageLength : UInt16
  /-- Reserved. -/
  reserved16 : UInt16
  /-- Reserved. -/
  reserved18 : UInt32
  /-- Reserved. -/
  reserved1c : UInt32
  /-- The buffers. -/
  sgl : Vector UInt8 16
  deriving DecidableEq, Repr

instance : Packed ConfigRequest where
  size := 48
  decode b :=
    { hostTag := b.u16At 0x0
      iocUseOnly02 := b.u8At 0x2
      function := b.u8At 0x3
      iocUseOnly04 := b.u16At 0x4
      iocUseOnly06 := b.u8At 0x6
      msgFlags := b.u8At 0x7
      changeCount := b.u16At 0x8
      reserved0a := b.u16At 0xa
      pageVersion := b.u8At 0xc
      pageNumber := b.u8At 0xd
      pageType := b.u8At 0xe
      action := b.u8At 0xf
      pageAddress := b.u32At 0x10
      pageLength := b.u16At 0x14
      reserved16 := b.u16At 0x16
      reserved18 := b.u32At 0x18
      reserved1c := b.u32At 0x1c
      sgl := b.block 0x20 16 }
  encode x :=
    Bytes.of16 x.hostTag ++ [x.iocUseOnly02] ++ [x.function] ++ Bytes.of16 x.iocUseOnly04 ++
      [x.iocUseOnly06] ++ [x.msgFlags] ++ Bytes.of16 x.changeCount ++ Bytes.of16 x.reserved0a ++
      [x.pageVersion] ++ [x.pageNumber] ++ [x.pageType] ++ [x.action] ++
      Bytes.of32 x.pageAddress ++ Bytes.of16 x.pageLength ++ Bytes.of16 x.reserved16 ++
      Bytes.of32 x.reserved18 ++ Bytes.of32 x.reserved1c ++ x.sgl.toList

instance : LawfulPacked ConfigRequest where
  length_encode x := by simp [Packed.encode, Packed.size]
  decode_encode x rest := by simp [Packed.encode, Packed.decode]

/-- Sends a SCSI command to a device. -/
structure ScsiRequest where
  /-- The tag of the host. -/
  hostTag : UInt16
  /-- Kept for the controller. -/
  iocUseOnly02 : UInt8
  /-- The function of the message. -/
  function : UInt8
  /-- Kept for the controller. -/
  iocUseOnly04 : UInt16
  /-- Kept for the controller. -/
  iocUseOnly06 : UInt8
  /-- Message flags. -/
  msgFlags : UInt8
  /-- The change count. -/
  changeCount : UInt16
  /-- The handle of the device. -/
  devHandle : UInt16
  /-- Flags, the direction of the data among them. -/
  flags : UInt32
  /-- The bytes to skip. -/
  skipCount : UInt32
  /-- The bytes to transfer. -/
  dataLength : UInt32
  /-- The logical unit. -/
  lun : Vector UInt8 8
  /-- The command. -/
  cdb : Vector UInt8 32
  /-- The buffers. -/
  sgl : Vector UInt8 64
  deriving DecidableEq, Repr

instance : Packed ScsiRequest where
  size := 128
  decode b :=
    { hostTag := b.u16At 0x0
      iocUseOnly02 := b.u8At 0x2
      function := b.u8At 0x3
      iocUseOnly04 := b.u16At 0x4
      iocUseOnly06 := b.u8At 0x6
      msgFlags := b.u8At 0x7
      changeCount := b.u16At 0x8
      devHandle := b.u16At 0xa
      flags := b.u32At 0xc
      skipCount := b.u32At 0x10
      dataLength := b.u32At 0x14
      lun := b.block 0x18 8
      cdb := b.block 0x20 32
      sgl := b.block 0x40 64 }
  encode x :=
    Bytes.of16 x.hostTag ++ [x.iocUseOnly02] ++ [x.function] ++ Bytes.of16 x.iocUseOnly04 ++
      [x.iocUseOnly06] ++ [x.msgFlags] ++ Bytes.of16 x.changeCount ++ Bytes.of16 x.devHandle ++
      Bytes.of32 x.flags ++ Bytes.of32 x.skipCount ++ Bytes.of32 x.dataLength ++ x.lun.toList ++
      x.cdb.toList ++ x.sgl.toList

instance : LawfulPacked ScsiRequest where
  length_encode x := by simp [Packed.encode, Packed.size]
  decode_encode x rest := by simp [Packed.encode, Packed.decode]

/-- Passes a management frame to an expander. -/
structure SmpRequest where
  /-- The tag of the host. -/
  hostTag : UInt16
  /-- Kept for the controller. -/
  iocUseOnly02 : UInt8
  /-- The function of the message. -/
  function : UInt8
  /-- Kept for the controller. -/
  iocUseOnly04 : UInt16
  /-- Kept for the controller. -/
  iocUseOnly06 : UInt8
  /-- Message flags. -/
  msgFlags : UInt8
  /-- The change count. -/
  changeCount : UInt16
  /-- Reserved. -/
  reserved0a : UInt8
  /-- The I/O unit of the controller. -/
  ioUnit : UInt8
  /-- Reserved. -/
  reserved0c : UInt32
  /-- The SAS address of the expander. -/
  sasAddress : UInt64
  /-- The request buffer. -/
  requestSge : Vector UInt8 16
  /-- The response buffer. -/
  responseSge : Vector UInt8 16
  deriving DecidableEq, Repr

instance : Packed SmpRequest where
  size := 56
  decode b :=
    { hostTag := b.u16At 0x0
      iocUseOnly02 := b.u8At 0x2
      function := b.u8At 0x3
      iocUseOnly04 := b.u16At 0x4
      iocUseOnly06 := b.u8At 0x6
      msgFlags := b.u8At 0x7
      changeCount := b.u16At 0x8
      reserved0a := b.u8At 0xa
      ioUnit := b.u8At 0xb
      reserved0c := b.u32At 0xc
      sasAddress := b.u64At 0x10
      requestSge := b.block 0x18 16
      responseSge := b.block 0x28 16 }
  encode x :=
    Bytes.of16 x.hostTag ++ [x.iocUseOnly02] ++ [x.function] ++ Bytes.of16 x.iocUseOnly04 ++
      [x.iocUseOnly06] ++ [x.msgFlags] ++ Bytes.of16 x.changeCount ++ [x.reserved0a] ++
      [x.ioUnit] ++ Bytes.of32 x.reserved0c ++ Bytes.of64 x.sasAddress ++
      x.requestSge.toList ++ x.responseSge.toList

instance : LawfulPacked SmpRequest where
  length_encode x := by simp [Packed.encode, Packed.size]
  decode_encode x rest := by simp [Packed.encode, Packed.decode]

/-- The reply to a management frame that was passed on. -/
structure SmpReply where
  /-- The tag of the host. -/
  hostTag : UInt16
  /-- Kept for the controller. -/
  iocUseOnly02 : UInt8
  /-- The function of the message. -/
  function : UInt8
  /-- Kept for the controller. -/
  iocUseOnly04 : UInt16
  /-- Kept for the controller. -/
  iocUseOnly06 : UInt8
  /-- Message flags. -/
  msgFlags : UInt8
  /-- Kept for the controller. -/
  iocUseOnly08 : UInt16
  /-- The status of the controller. -/
  iocStatus : UInt16
  /-- Log information. -/
  iocLogInfo : UInt32
  /-- The bytes of the response. -/
  responseDataLength : UInt16
  /-- Reserved. -/
  reserved12 : UInt16
  deriving DecidableEq, Repr

instance : Packed SmpReply where
  size := 20
  decode b :=
    { hostTag := b.u16At 0x0
      iocUseOnly02 := b.u8At 0x2
      function := b.u8At 0x3
      iocUseOnly04 := b.u16At 0x4
      iocUseOnly06 := b.u8At 0x6
      msgFlags := b.u8At 0x7
      iocUseOnly08 := b.u16At 0x8
      iocStatus := b.u16At 0xa
      iocLogInfo := b.u32At 0xc
      responseDataLength := b.u16At 0x10
      reserved12 := b.u16At 0x12 }
  encode x :=
    Bytes.of16 x.hostTag ++ [x.iocUseOnly02] ++ [x.function] ++ Bytes.of16 x.iocUseOnly04 ++
      [x.iocUseOnly06] ++ [x.msgFlags] ++ Bytes.of16 x.iocUseOnly08 ++ Bytes.of16 x.iocStatus ++
      Bytes.of32 x.iocLogInfo ++ Bytes.of16 x.responseDataLength ++ Bytes.of16 x.reserved12

/-- The function of a facts request. -/
def factsFunction : UInt8 := 0x01

/-- The function of a configuration request. -/
def configFunction : UInt8 := 0x04

/-- The function of a SCSI request. -/
def scsiFunction : UInt8 := 0x20

/-- The function of a request that passes a management frame on. -/
def smpFunction : UInt8 := 0x22

/-- The action that reads the header of a page. -/
def readHeaderAction : UInt8 := 0x00

/-- The action that reads a page as it stands. -/
def readCurrentAction : UInt8 := 0x02

/-- The flag of a SCSI request whose data comes from the device. -/
def readDirection : UInt32 := 0x00080000

/-- Any I/O unit of the controller. -/
def anyUnit : UInt8 := 0xff

/-- READ BUFFER in mode 1 of buffer 0xe6 at offset 0xff0f00. The length stands with its low byte
first. -/
def readBufferBlock (length : UInt16) : Bytes :=
  [0x3c, 0x01, 0xe6, 0xff, 0x0f, 0x00, length.toUInt8, (length >>> 8).toUInt8, 0x00]

end BayMap.Controller
