import BayMap.Files.Tree
import BayMap.Hctl.Reading
import BayMap.Text.Blank
import BayMap.Text.Part

/-!
# Devices in sysfs

Reads the SCSI devices, their attributes and their enclosures from a file tree. Devices are listed
in the order of their addresses, after those whose names are no addresses.
-/

namespace BayMap.Sysfs

open Files (Tree Entry)

/-- The directory of SCSI devices below the root of sysfs. -/
def devicesDirectory : String := "bus/scsi/devices"

/-- The address that an entry is named by. -/
def address (e : Entry) : Except Hctl.AddressError Hctl.Address :=
  Hctl.Address.ofString e.name

/-- A name that may be that of a device: it holds a colon, and is none of the names of hosts,
targets and old auxiliary devices. -/
def isDeviceName (name : String) : Bool :=
  let text := name.toList
  !(Text.holds ['m', 't'] text || Text.holds ['o', 't'] text || Text.holds ['g', 'e', 'n'] text) &&
    !("host".toList.isPrefixOf text || "target".toList.isPrefixOf text) && Text.holds [':'] text

/-- The entries of a directory that are chosen. -/
def entries (t : Tree) (directory : String) (choose : Entry → Bool) :
    Except Files.Error (List Entry) :=
  (t.list directory).map (·.filter choose)

/-- Entries in the order of devices: those without an address as they come, then the others by
address. -/
def enumerate (listed : List Entry) : List Entry :=
  let unnamed := listed.filter fun e => (address e).toOption.isNone
  let named := listed.filterMap fun e => (address e).toOption.map fun a => (a, e)
  unnamed ++ (named.mergeSort fun a b => a.1.le b.1).map (·.2)

/-- The devices of a directory. -/
def devices (t : Tree) (root : String) : Except Files.Error (List Entry) :=
  (entries t root fun e => isDeviceName e.name).map enumerate

/-- The first link or directory of a directory. -/
def firstEntry (t : Tree) (directory : String) : Except Files.Error (Option Entry) :=
  (t.list directory).map (·.find? (·.isDirectoryOrLink))

/-- A result in which what does not exist is no error. -/
def ifExists (result : Except Files.Error (Option α)) : Except Files.Error (Option α) :=
  match result with
  | .error e => if e.fault = .system .noEntry then .ok none else .error e
  | .ok value => .ok value

/-- The name of the block device of a device. -/
def blockName (t : Tree) (device : String) : Except Files.Error (Option String) :=
  ifExists ((firstEntry t (Files.Path.join device "block")).map (·.map (·.name)))

/-- What a device directory says about enclosures. -/
structure Enclosures where
  /-- The number of enclosures, which only an expander has. -/
  count : Nat
  /-- The marker that names the bay of a disk. -/
  marker : Option String
  deriving DecidableEq, Repr

/-- The device is an expander. -/
def Enclosures.isExpander (e : Enclosures) : Bool := 0 < e.count

/-- What the entries of a device directory say about enclosures. The last marker counts. -/
def Enclosures.ofEntries (listed : List Entry) : Enclosures :=
  let named := listed.filter fun e =>
    e.isDirectoryOrLink && "enclosure".toList.isPrefixOf e.name.toList
  let isMarker := fun e : Entry => "enclosure_device".toList.isPrefixOf e.name.toList
  ⟨(named.filter (!isMarker ·)).length, (named.filter isMarker).getLast?.map (·.name)⟩

/-- What a device directory says about enclosures. -/
def enclosures (t : Tree) (device : String) : Except Files.Error Enclosures :=
  (t.list device).map .ofEntries

/-- The device is an expander; a directory that cannot be listed is none. -/
def hasEnclosure (t : Tree) (device : String) : Bool :=
  match enclosures t device with
  | .ok e => e.isExpander
  | .error _ => false

/-- The first line of an attribute, if there is such an attribute. -/
def readAttribute (t : Tree) (directory name : String) : Except Files.Error (Option String) :=
  ifExists <| (t.read (Files.Path.join directory name)).map fun text =>
    some (.ofList (text.takeWhile (· ≠ '\n')))

/-- The world-wide identifier in the text of an address: its last sixteen digits, or all of its
digits where there are fewer. The low six bits of the address of an expander are set. -/
def readWwid (text : List Char) : Option UInt64 :=
  let value := Text.trim text
  let digits :=
    if 16 ≤ Text.utf8Length value then Text.lastBytes 16 value
    else some (Text.dropHexMarks value)
  (digits.bind fun d => (Text.readUInt64 16 d).toOption).map (· ||| 0x3f)

/-- The world-wide identifier of an expander. -/
def expanderAddress (t : Tree) (device : String) : Except Files.Error (Option UInt64) :=
  (readAttribute t device "sas_address").map (·.bind fun text => readWwid text.toList)

/-- The identifier of the enclosure of an expander. -/
def enclosureId (t : Tree) (root expander : String) : Except Files.Error (Option String) :=
  let directory := Files.Path.join (Files.Path.join root expander) "enclosure"
  readAttribute t (Files.Path.join directory expander) "id"

/-- The peripheral device type of a device. -/
def deviceType (t : Tree) (device : String) : Except Files.Error (Option UInt8) :=
  (readAttribute t device "type").map
    (·.bind fun text => (Text.readUInt8 10 (Text.trim text.toList)).toOption)

end BayMap.Sysfs
