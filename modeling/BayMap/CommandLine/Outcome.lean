import BayMap.CommandLine.Help
import BayMap.Kernel.PlainFiles
import BayMap.Sysfs.Listing
import BayMap.Topology.ExpanderReport
import BayMap.Topology.Inventory
import BayMap.Topology.PhySwitch
import BayMap.Topology.Scan
import BayMap.Topology.Table

/-!
# Outcomes

What a run of the command line program prints, and the exit code it ends with. Problems that a pass
goes on after are no part of what is printed; they are the log of the run.
-/

namespace BayMap.CommandLine

open BayMap.Topology (Config Diagnostic Pass Survey)
open Transport (Kind)

variable {σ : Type}

/-- Why an action has no result. -/
structure Failure where
  /-- What failed. -/
  message : String
  /-- Why it failed. -/
  cause : Option String
  deriving DecidableEq, Repr

/-- The text of a failure. The lines of its cause are indented. -/
def Failure.text (f : Failure) : String :=
  "Error: " ++ f.message ++ "\n" ++
    match f.cause with
    | some cause =>
      "\nCaused by:\n" ++
        String.join ((Files.Path.split '\n' cause.toList).map fun line =>
          "    " ++ .ofList line ++ "\n")
    | none => ""

/-- The text of an action, if it prints one, or why it has no result, and the problems met. -/
abbrev Result := Except Failure (Option String) × List Diagnostic

/-- What a run comes to. -/
structure Outcome where
  /-- The exit code. -/
  exitCode : Nat
  /-- What is printed. -/
  output : String
  /-- What is printed as an error. -/
  complaint : String
  /-- The problems met. -/
  log : List Diagnostic
  deriving DecidableEq, Repr

namespace Outcome

/-- What a run with a result comes to. -/
def ofResult : Result → Outcome
  | (.ok (some text), log) => ⟨0, text ++ "\n", "", log⟩
  | (.ok none, log) => ⟨0, "", "", log⟩
  | (.error failure, log) => ⟨1, "", failure.text, log⟩

/-- What a run comes to that does nothing. -/
def ofStop (environment : String → Option String) : Stop → Outcome
  | .help command brief => ⟨0, help environment command brief, "", []⟩
  | .version => ⟨0, versionText, "", []⟩
  | .usage error =>
    ⟨2, "", "error: " ++ error.message ++ "\n\nFor more information, try '--help'.\n", []⟩

end Outcome

/-! ## Actions -/

/-- The list of the SCSI devices. -/
def listDevices (t : Files.Tree) (config : Config) : Result :=
  match Sysfs.readRows t config.devicesRoot with
  | .ok rows => (.ok (some (Sysfs.Row.listing rows)), [])
  | .error e => (.error ⟨e.message, some e.cause.message⟩, [])

/-- Scans sysfs and discovers the slots through nodes of a kind. -/
def surveySlots (t : Files.Tree) (config : Config) (transport : Kind) : Pass σ Survey :=
  let survey := Topology.scan t config
  match transport with
  | .mpi3mr => do return (← Topology.visitThroughControllers t config survey).2
  | _ => Topology.visitExpanders t config survey

/-- What the expanders that are reached through nodes of a kind say. -/
def reportExpanders (t : Files.Tree) (config : Config) (transport : Kind) : Pass σ Result := do
  let survey := Topology.scan t config
  let (reports, problems) ←
    Topology.reportThrough t config transport survey.topology.expanders
  let log := survey.diagnostics ++ problems
  if reports.isEmpty then
    return (.error ⟨"no expander reachable through " ++ transport.name ++ " nodes", none⟩, log)
  return (.ok (some (Topology.ExpanderReport.listing reports)), log)

/-- The inventory of the controllers. -/
def reportControllers (t : Files.Tree) (config : Config) : Pass σ Result := do
  let (reports, survey) ← Topology.takeInventory t config (.start (.empty config.layout))
  if reports.isEmpty then
    return (.error ⟨"no mpi3mr controller found in " ++ config.bsgRoot, none⟩, survey.diagnostics)
  return (.ok (some (Topology.ControllerReport.listing reports)), survey.diagnostics)

/-- Does what is asked for. -/
def Invocation.perform (t : Files.Tree) (i : Invocation) : Pass σ Result :=
  match i.action with
  | .list => return listDevices t i.config
  | .slots transport label => do
    let survey ← surveySlots t i.config transport
    return (.ok (some (survey.topology.table label)), survey.diagnostics)
  | .discover transport => reportExpanders t i.config transport
  | .phy slots disable transport => do
    let survey ← surveySlots t i.config transport
    let problems ← Topology.switchPhys survey.topology disable slots
    return (.ok none, survey.diagnostics ++ problems)
  | .info => reportControllers t i.config

/-- Runs a command line. -/
def run (t : Files.Tree) (environment : String → Option String) (words : List String) :
    Kernel.Program Outcome :=
  match Invocation.read environment words with
  | .error stop => return .ofStop environment stop
  | .ok i => do return .ofResult (← (i.perform t).throughKernel i.config.timeout)

/-- Runs a command line on a tree whose nodes are plain files. -/
def runOnFiles (t : Files.Tree) (environment : String → Option String) (words : List String) :
    Outcome :=
  ((run t environment words).run (Kernel.plainFiles t) ()).1

end BayMap.CommandLine
