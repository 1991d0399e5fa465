import BayMap.Bytes.Zeroed
import BayMap.Controller.Adapter
import BayMap.Controller.Facts
import BayMap.Controller.Page
import BayMap.Controller.Targets
import BayMap.Smp.Exchange

/-!
# Controller exchanges

The commands of a controller as conversations. An answer counts only if the controller reports
exactly the size of the record that was asked for. A configuration page takes two commands: one for
its header, and one for the page.
-/

namespace BayMap.Controller

open Transport

/-- Gives a command, with a buffer for its data. The result is the buffer and the length the
controller reports. -/
def submit (command : Command) (capacity : Nat) :
    Conversation (Except SmpError (Zeroed × Nat)) := do
  match ← Conversation.command command capacity with
  | .error cause => return .error (.transport cause)
  | .ok reply =>
    if reply.status ≠ 0 then return .error (.transportStatus reply.status)
    return .ok (⟨reply.data, capacity⟩, reply.length)

/-- A result whose reported length is the expected one. -/
def checked (expected : Nat) : Zeroed × Nat → Except SmpError Bytes
  | (data, actual) =>
    if expected = actual then .ok data.toList else .error (.lengthMismatch expected actual)

/-- Reads a record. -/
def readRecord (α : Type) [Packed α] (command : Command) : Conversation (Except SmpError α) := do
  return ((← submit command (Packed.size α)).bind (checked (Packed.size α))).map Packed.decode

/-- Reads what the driver knows of the adapter. -/
def adapterInfo : Conversation (Except SmpError AdapterInfo) := readRecord AdapterInfo .adapterInfo

/-- Reads which device handle is which target. -/
def targetTable : Conversation (Except SmpError TargetTable) := readRecord TargetTable .targets

/-- Reads the facts of the controller. -/
def facts : Conversation (Except SmpError Facts) := do
  return (← readRecord FactsData .facts).map .ofData

/-- The request for page 0 of a type: its header, or the page of the given length. -/
def pageRequest (action pageType : UInt8) (form : UInt32) (length : UInt16) : ConfigRequest :=
  { (Packed.decode [] : ConfigRequest) with
    function := configFunction
    action
    pageType
    pageAddress := form
    pageLength := length }

/-- Reads page 0 of a type at a form. -/
def readPage (α : Type) [Packed α] (pageType : UInt8) (form : UInt32) :
    Conversation (Except SmpError α) := do
  match ← readRecord PageHeader (.config (pageRequest readHeaderAction pageType form 0)) with
  | .error e => return .error e
  | .ok _ =>
    if UInt16.size ≤ Packed.size α then return .error (.resource (Packed.size α))
    readRecord α
      (.config (pageRequest readCurrentAction pageType form (.ofNat (Packed.size α))))

/-- Reads the page of an enclosure. -/
def enclosurePage (form : UInt32) : Conversation (Except SmpError EnclosurePage) :=
  readPage EnclosurePage enclosurePageType form

/-- Reads the page of an expander. -/
def expanderPage (form : UInt32) : Conversation (Except SmpError ExpanderPage) :=
  readPage ExpanderPage expanderPageType form

/-- The request that reads from a device with a SCSI command of at most 32 bytes. -/
def scsiRequest (handle : UInt16) (cdb : Bytes) (length : UInt32) : ScsiRequest :=
  { (Packed.decode [] : ScsiRequest) with
    function := scsiFunction
    devHandle := handle
    flags := readDirection
    dataLength := length
    cdb := cdb.block 0 32 }

/-- Reads from a device with a SCSI command. -/
def scsiRead (handle : UInt16) (cdb : Bytes) (length : Nat) :
    Conversation (Except SmpError Bytes) := do
  if UInt32.size ≤ length then return .error (.resource length)
  Conversation.trace "scsi io cdb" (cdb.take 32)
  return (← submit (.scsi (scsiRequest handle cdb (.ofNat length))) length).bind (checked length)

/-- The size of the buffer of an enclosure processor. -/
def sesLength : Nat := 60

/-- Reads the buffer of an enclosure processor. -/
def readSes (handle : UInt16) : Conversation (Except SmpError (Vector UInt8 sesLength)) := do
  return (← scsiRead handle (readBufferBlock (.ofNat sesLength)) sesLength).map fun data =>
    data.block 0 sesLength

/-- Passes a management frame on, and takes as much of the response as the controller reports. -/
def passFrame (address : UInt64) (frame : Bytes) (capacity : Nat) :
    Conversation (Except SmpError Bytes) := do
  if Smp.maxBuffer < capacity then return .error (.resource capacity)
  return (← submit (.smp address frame) capacity).map fun r => r.1.take r.2

end BayMap.Controller
