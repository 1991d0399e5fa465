import BayMap.Controller.Exchange
import BayMap.Smp.Manufacturer
import BayMap.Topology.SlotDiscovery

/-!
# Controller inventory

What a controller says of itself, and of the enclosures and expanders behind it. Enclosures and
expanders are chains of pages: each page holds the handle that the next one is asked for by. A chain
may be a circle, so no more pages are read than a system can have expanders.
-/

namespace BayMap.Topology

open Controller (AdapterInfo Facts)
open Transport (Conversation)

variable {σ : Type}

/-- An enclosure with an enclosure processor. -/
structure EnclosureReport where
  /-- The logical identifier. -/
  logicalId : UInt64
  /-- The handle of the enclosure processor. -/
  sepHandle : UInt16
  /-- The buffer of the enclosure processor. -/
  ses : Except SmpError (Vector UInt8 Controller.sesLength)

/-- An expander behind a controller. -/
structure ExpanderEntry where
  /-- The SAS address. -/
  sasAddress : UInt64
  /-- The handle. -/
  handle : UInt16
  /-- Who made the expander. -/
  manufacturer : Except SmpError Smp.Manufacturer

/-- What a controller says. -/
structure ControllerReport where
  /-- The path of the node. -/
  path : String
  /-- What the driver knows of the adapter. -/
  adapter : Except SmpError AdapterInfo
  /-- The facts of the controller. -/
  facts : Except SmpError Facts
  /-- The enclosures, in the order of their pages. -/
  enclosures : List EnclosureReport
  /-- The expanders, in the order of their pages. -/
  expanders : List ExpanderEntry

/-- Reads enclosures from a form on: at most `pages` pages, of which at most `room` are kept. An
enclosure without a processor is passed over. -/
def readEnclosures : (pages room : Nat) → (form : UInt32) → Conversation (List EnclosureReport)
  | 0, _, _ => return []
  | pages + 1, room, form => do
    match ← Controller.enclosurePage form with
    | .error _ => return []
    | .ok page =>
      let next := page.enclosureHandle.toUInt32
      if page.enclosureLogicalId = 0 then return []
      else if page.sepDevHandle = 0 then readEnclosures pages room next
      else
        match room with
        | 0 => readEnclosures pages 0 next
        | room + 1 =>
          let ses ← Controller.readSes page.sepDevHandle
          return ⟨page.enclosureLogicalId, page.sepDevHandle, ses⟩ ::
            (← readEnclosures pages room next)

/-- Reads expanders from a form on, at most `pages` of them. -/
def readExpanders : (pages : Nat) → (form : UInt32) → Conversation (List ExpanderEntry)
  | 0, _ => return []
  | pages + 1, form => do
    match ← Controller.expanderPage form with
    | .error _ => return []
    | .ok page =>
      if page.sasAddress = 0 then return []
      else
        let manufacturer ← Smp.Manufacturer.ask page.sasAddress
        return ⟨page.sasAddress, page.devHandle, manufacturer⟩ ::
          (← readExpanders pages page.devHandle.toUInt32)

namespace ControllerReport

/-- Asks a controller about itself and what is behind it. -/
def listen (path : String) (maxExpanders : Nat) : Conversation ControllerReport := do
  let adapter ← Controller.adapterInfo
  let facts ← Controller.facts
  let enclosures ← readEnclosures (maxExpanders + 1) maxExpanders Controller.startForm
  let expanders ← readExpanders maxExpanders Controller.startForm
  return { path, adapter, facts, enclosures, expanders }

/-- The problem that a reading met, if any. -/
def problem (r : ControllerReport) (reading : Reading) : Except SmpError α → List Diagnostic
  | .ok _ => []
  | .error cause => [.unread r.path reading cause]

/-- The problems met. -/
def diagnostics (r : ControllerReport) : List Diagnostic :=
  r.problem .adapterInfo r.adapter ++ r.problem .facts r.facts ++
    (r.enclosures.flatMap fun e => r.problem .sesBuffer e.ses) ++
    r.expanders.flatMap fun e => r.problem .manufacturer e.manufacturer

/-- The name and the version of the driver. -/
def driver (r : ControllerReport) : Option (String × String) :=
  r.adapter.toOption.map fun info =>
    (Controller.fixedText info.driver.name.toList, Controller.fixedText info.driver.version.toList)

/-- The line of the adapter. -/
def adapterText (r : ControllerReport) : String :=
  match r.adapter with
  | .ok info =>
    let location := [info.pciSegId.toNat, info.location.bus.toNat, info.location.device.toNat].map
      (Text.upperHex 2)
    "HBA (PCIAddr " ++ ":".intercalate location ++ "." ++
      Text.upperHex 2 info.location.function.toNat ++ ")"
  | .error _ => "HBA (" ++ r.path ++ ")"

/-- What the line of the adapter says of the firmware. -/
def firmwareText (r : ControllerReport) : String :=
  match r.facts with
  | .ok facts =>
    let v := facts.fwVersion
    ", Firmware Version: " ++
      ".".intercalate ([v.genMajor, v.genMinor, v.phaseMajor, v.phaseMinor].map fun n =>
        Text.decimal n.toNat) ++
      "-" ++ Text.decimalPad 5 v.customerId.toNat ++ "-" ++ Text.decimalPad 5 v.buildNum.toNat ++
      ", MPI Version: " ++ Text.decimal facts.mpiVersion.major.toNat ++ "." ++
      Text.decimal facts.mpiVersion.minor.toNat
  | .error _ => ""

/-- The text of the expander at an index, with the enclosure at the same index. -/
def expanderText (r : ControllerReport) (index : Nat) (e : ExpanderEntry) : String :=
  let enclosure := r.enclosures[index]?
  let logicalId := (enclosure.map (·.logicalId)).getD 0
  let ses := ((enclosure.bind (·.ses.toOption)).map (·.toList)).getD []
  let firmware := match e.manufacturer with
    | .ok manufacturer => manufacturer.version
    | .error _ => "unknown"
  "ELI (" ++ Text.upperHex 0 logicalId.toNat ++ ") FW: " ++ firmware ++ " MFG: " ++
    Text.upperHex 2 (Bytes.u8At ses 12).toNat ++ ":" ++ Text.upperHex 2 (Bytes.u8At ses 13).toNat

/-- Texts, two on a line. -/
def twoByTwo : List String → List String
  | first :: second :: rest => (first ++ ",  " ++ second) :: twoByTwo rest
  | [first] => [first]
  | [] => []

/-- The lines of a controller and its expanders. -/
def lines (r : ControllerReport) : List String :=
  (r.adapterText ++ r.firmwareText) :: twoByTwo (r.expanders.mapIdx r.expanderText)

/-- A controller and its expanders as text. -/
def text (r : ControllerReport) : String := "\n".intercalate r.lines

/-- Controllers one under the other, after the driver of the first one. -/
def listing (reports : List ControllerReport) : String :=
  let driver := match reports.head?.bind driver with
    | some (name, version) => [name ++ ", Driver Version: " ++ version]
    | none => []
  "\n".intercalate (driver ++ reports.map text)

end ControllerReport

/-- What came of the node of a controller. -/
inductive ControllerVisit where
  /-- The name of the node does not end in a controller number. -/
  | unnumbered (path : String)
  /-- The node cannot be opened. -/
  | unopened (cause : TransportError)
  /-- The controller with a number was asked. -/
  | heard (ordinal : UInt8) (report : ControllerReport)

/-- The report of a visit, if there is one. -/
def ControllerVisit.report? : ControllerVisit → Option ControllerReport
  | .heard _ report => some report
  | _ => none

/-- Visits the node of a controller. -/
def visitController (maxExpanders : Nat) (path : String) : Pass σ ControllerVisit := do
  match Transport.ordinalOf path with
  | none => return .unnumbered path
  | some ordinal =>
    match ← Pass.openNode path .mpi3mr with
    | .error cause => return .unopened cause
    | .ok node =>
      return .heard ordinal (← node.converse (ControllerReport.listen path maxExpanders))

namespace Survey

/-- Binds an expander to the controller that reports it, or notes that there is no entry for it. -/
def bindExpander (path : String) (ordinal : UInt8) (s : Survey) (e : ExpanderEntry) : Survey :=
  let index := expanderIndex e.sasAddress
  match s.topology.expanders.change? index fun entry =>
    { entry.withWwid e.sasAddress with binding := some ⟨path, .mpi3mr, some ordinal⟩ } with
  | some expanders => { s with topology := { s.topology with expanders } }
  | none => s.note [.unregistered path index]

/-- Takes what came of the node of a controller. -/
def takeController (s : Survey) : ControllerVisit → Survey
  | .unnumbered path => s.note [.unnumbered path]
  | .unopened cause => s.note [.nodeUnopened cause]
  | .heard ordinal report =>
    report.expanders.foldl (bindExpander report.path ordinal) (s.note report.diagnostics)

end Survey

/-- The nodes of controllers that are visited at most. -/
def controllerLimit : Nat := 4

/-- Takes the inventory of the controllers. -/
def takeInventory (t : Files.Tree) (config : Config) (s : Survey) :
    Pass σ (List ControllerReport × Survey) := do
  let (paths, problems) := listNodes t config .mpi3mr
  let visits ← (paths.take controllerLimit).mapM (visitController config.layout.expanders)
  return (visits.filterMap (·.report?), visits.foldl Survey.takeController (s.note problems))

/-- The expanders that are bound to the nodes of controllers. -/
def boundToControllers (t : ExpanderTable) : List Visit :=
  t.entries.toList.filterMap fun e =>
    match e.binding with
    | some binding =>
      if binding.kind = .mpi3mr then some ⟨binding.path, .mpi3mr, e.wwid⟩ else none
    | none => none

/-- Takes the inventory of the controllers, and then visits each expander through the controller it
is bound to. -/
def visitThroughControllers (t : Files.Tree) (config : Config) (s : Survey) :
    Pass σ (List ControllerReport × Survey) := do
  let (reports, s) ← takeInventory t config s
  return (reports, ← visitAll (boundToControllers s.topology.expanders) s)

end BayMap.Topology
