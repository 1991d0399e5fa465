import BayMap.Bytes.Packed

/-!
# Configuration pages

A controller keeps its configuration in pages. Every page starts with the same header; the pages
read here describe an enclosure and an expander, and each names the handle under which the next one
is found.
-/

namespace BayMap.Controller

/-- The header of a page. -/
structure PageHeader where
  /-- The version of the page layout. -/
  pageVersion : UInt8
  /-- Reserved. -/
  reserved01 : UInt8
  /-- The number of the page within its type. -/
  pageNumber : UInt8
  /-- Attributes of the page. -/
  pageAttribute : UInt8
  /-- The length of the page. -/
  pageLength : UInt16
  /-- The type of the page. -/
  pageType : UInt8
  /-- Reserved. -/
  reserved07 : UInt8
  deriving DecidableEq, Repr

instance : Packed PageHeader where
  size := 8
  decode b :=
    { pageVersion := b.u8At 0x0
      reserved01 := b.u8At 0x1
      pageNumber := b.u8At 0x2
      pageAttribute := b.u8At 0x3
      pageLength := b.u16At 0x4
      pageType := b.u8At 0x6
      reserved07 := b.u8At 0x7 }
  encode x :=
    [x.pageVersion] ++ [x.reserved01] ++ [x.pageNumber] ++ [x.pageAttribute] ++
      Bytes.of16 x.pageLength ++ [x.pageType] ++ [x.reserved07]

open Bytes in
instance : CompletePacked PageHeader where
  encode_decode {b} h := by
    have hb : b.length = 8 := h
    simp (disch := omega) only [Packed.encode, Packed.decode, singleton_u8At, of16_u16At,
      slice_append]
    exact (hb ▸ slice_zero_length b : b.slice 0 8 = b)

/-- An enclosure. -/
structure EnclosurePage where
  /-- The page header. -/
  header : PageHeader
  /-- The logical identifier of the enclosure. -/
  enclosureLogicalId : UInt64
  /-- Flags. -/
  flags : UInt16
  /-- The handle of the enclosure, which leads to the next page. -/
  enclosureHandle : UInt16
  /-- The number of slots. -/
  numSlots : UInt16
  /-- The first slot. -/
  startSlot : UInt16
  /-- The I/O unit of the controller. -/
  ioUnit : UInt8
  /-- The level of the enclosure. -/
  enclosureLevel : UInt8
  /-- The handle of the enclosure processor, zero without one. -/
  sepDevHandle : UInt16
  /-- The slot in the chassis. -/
  chassisSlot : UInt8
  /-- Reserved. -/
  reserved1d : Vector UInt8 3
  deriving DecidableEq, Repr

instance : Packed EnclosurePage where
  size := 32
  decode b :=
    { header := Packed.decode (b.slice 0x0 8)
      enclosureLogicalId := b.u64At 0x8
      flags := b.u16At 0x10
      enclosureHandle := b.u16At 0x12
      numSlots := b.u16At 0x14
      startSlot := b.u16At 0x16
      ioUnit := b.u8At 0x18
      enclosureLevel := b.u8At 0x19
      sepDevHandle := b.u16At 0x1a
      chassisSlot := b.u8At 0x1c
      reserved1d := b.block 0x1d 3 }
  encode x :=
    Packed.encode x.header ++ Bytes.of64 x.enclosureLogicalId ++ Bytes.of16 x.flags ++
      Bytes.of16 x.enclosureHandle ++ Bytes.of16 x.numSlots ++ Bytes.of16 x.startSlot ++
      [x.ioUnit] ++ [x.enclosureLevel] ++ Bytes.of16 x.sepDevHandle ++ [x.chassisSlot] ++
      x.reserved1d.toList

open Bytes in
instance : CompletePacked EnclosurePage where
  encode_decode {b} h := by
    have hb : b.length = 32 := h
    have hheader : Packed.encode (Packed.decode (b.slice 0 8) : PageHeader) = b.slice 0 8 :=
      CompletePacked.encode_decode (by rw [length_slice, hb]; rfl)
    -- Unfolding reaches the header too, so it is unfolded in what is known of it.
    simp only [Packed.encode, Packed.decode] at hheader ⊢
    simp (disch := omega) only [hheader, singleton_u8At, of16_u16At, of64_u64At,
      toList_block_of_le, slice_append]
    exact (hb ▸ slice_zero_length b : b.slice 0 32 = b)

/-- An expander. -/
structure ExpanderPage where
  /-- The page header. -/
  header : PageHeader
  /-- The I/O unit of the controller. -/
  ioUnit : UInt8
  /-- The length of a REPORT GENERAL response. -/
  reportGenLength : UInt8
  /-- The handle of the enclosure. -/
  enclosureHandle : UInt16
  /-- Reserved. -/
  reserved0c : UInt32
  /-- The SAS address of the expander. -/
  sasAddress : UInt64
  /-- The status of discovery. -/
  discoveryStatus : UInt32
  /-- The handle of the expander, which leads to the next page. -/
  devHandle : UInt16
  /-- The handle of the parent. -/
  parentDevHandle : UInt16
  /-- The changes counted by the expander. -/
  expanderChangeCount : UInt16
  /-- The indexes of a route table. -/
  expanderRouteIndexes : UInt16
  /-- The number of phys. -/
  numPhys : UInt8
  /-- The level of the expander. -/
  sasLevel : UInt8
  /-- Flags. -/
  flags : UInt16
  /-- A limit of STP connections. -/
  stpBusInactivityTimeLimit : UInt16
  /-- A limit of STP connections. -/
  stpMaxConnectTimeLimit : UInt16
  /-- A limit of STP and SMP connections. -/
  stpSmpNexusLossTime : UInt16
  /-- The addresses a route table holds. -/
  maxNumRoutedSasAddresses : UInt16
  /-- The SAS address of the zone manager. -/
  activeZoneManagerSasAddress : UInt64
  /-- A limit of zone locks. -/
  zoneLockInactivityLimit : UInt16
  /-- Reserved. -/
  reserved3a : UInt16
  /-- The time to reduced functionality. -/
  timeToReducedFunc : UInt8
  /-- The initial time to reduced functionality. -/
  initialTimeToReducedFunc : UInt8
  /-- The time of reduced functionality. -/
  maxReducedFuncTime : UInt8
  /-- The status of the expander. -/
  expStatus : UInt8
  deriving DecidableEq, Repr

instance : Packed ExpanderPage where
  size := 64
  decode b :=
    { header := Packed.decode (b.slice 0x0 8)
      ioUnit := b.u8At 0x8
      reportGenLength := b.u8At 0x9
      enclosureHandle := b.u16At 0xa
      reserved0c := b.u32At 0xc
      sasAddress := b.u64At 0x10
      discoveryStatus := b.u32At 0x18
      devHandle := b.u16At 0x1c
      parentDevHandle := b.u16At 0x1e
      expanderChangeCount := b.u16At 0x20
      expanderRouteIndexes := b.u16At 0x22
      numPhys := b.u8At 0x24
      sasLevel := b.u8At 0x25
      flags := b.u16At 0x26
      stpBusInactivityTimeLimit := b.u16At 0x28
      stpMaxConnectTimeLimit := b.u16At 0x2a
      stpSmpNexusLossTime := b.u16At 0x2c
      maxNumRoutedSasAddresses := b.u16At 0x2e
      activeZoneManagerSasAddress := b.u64At 0x30
      zoneLockInactivityLimit := b.u16At 0x38
      reserved3a := b.u16At 0x3a
      timeToReducedFunc := b.u8At 0x3c
      initialTimeToReducedFunc := b.u8At 0x3d
      maxReducedFuncTime := b.u8At 0x3e
      expStatus := b.u8At 0x3f }
  encode x :=
    Packed.encode x.header ++ [x.ioUnit] ++ [x.reportGenLength] ++
      Bytes.of16 x.enclosureHandle ++ Bytes.of32 x.reserved0c ++ Bytes.of64 x.sasAddress ++
      Bytes.of32 x.discoveryStatus ++ Bytes.of16 x.devHandle ++ Bytes.of16 x.parentDevHandle ++
      Bytes.of16 x.expanderChangeCount ++ Bytes.of16 x.expanderRouteIndexes ++ [x.numPhys] ++
      [x.sasLevel] ++ Bytes.of16 x.flags ++ Bytes.of16 x.stpBusInactivityTimeLimit ++
      Bytes.of16 x.stpMaxConnectTimeLimit ++ Bytes.of16 x.stpSmpNexusLossTime ++
      Bytes.of16 x.maxNumRoutedSasAddresses ++ Bytes.of64 x.activeZoneManagerSasAddress ++
      Bytes.of16 x.zoneLockInactivityLimit ++ Bytes.of16 x.reserved3a ++ [x.timeToReducedFunc] ++
      [x.initialTimeToReducedFunc] ++ [x.maxReducedFuncTime] ++ [x.expStatus]

open Bytes in
instance : CompletePacked ExpanderPage where
  encode_decode {b} h := by
    have hb : b.length = 64 := h
    have hheader : Packed.encode (Packed.decode (b.slice 0 8) : PageHeader) = b.slice 0 8 :=
      CompletePacked.encode_decode (by rw [length_slice, hb]; rfl)
    simp only [Packed.encode, Packed.decode] at hheader ⊢
    simp (disch := omega) only [hheader, singleton_u8At, of16_u16At, of32_u32At, of64_u64At,
      slice_append]
    exact (hb ▸ slice_zero_length b : b.slice 0 64 = b)

/-- The page type of enclosures. -/
def enclosurePageType : UInt8 := 0x11

/-- The page type of expanders. -/
def expanderPageType : UInt8 := 0x31

/-- The form by which the first page of a type is asked for. -/
def startForm : UInt32 := 0xffff

end BayMap.Controller
