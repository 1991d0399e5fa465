import BayMap.CommandLine.Options

/-!
# Invocations

What a command line asks for. Where something is looked for may be said before the command, after
it, or by the environment; what stands last in the command line wins, and the environment comes
after that.
-/

namespace BayMap.CommandLine

open BayMap.Topology (Config LabelStyle)
open Transport (Kind)

/-- What is to be done. -/
inductive Action where
  /-- List the SCSI devices. -/
  | list
  /-- Print the slot table. -/
  | slots (transport : Kind) (label : LabelStyle)
  /-- Print what expanders say of their phys. -/
  | discover (transport : Kind)
  /-- Turn the phys wired to slots off or on. -/
  | phy (slots : List Nat) (disable : Bool) (transport : Kind)
  /-- Print the inventory of the controllers. -/
  | info
  deriving DecidableEq, Repr

/-- What is to be done, and where. -/
structure Invocation where
  /-- Where passes look. -/
  config : Config
  /-- What is to be done. -/
  action : Action
  deriving DecidableEq, Repr

/-! ## Values -/

/-- A directory, whose name is not empty. -/
def readDirectory (say : String → Setting) : List String → Option Setting
  | [directory] => if directory = "" then none else some (say directory)
  | _ => none

/-- A number of 32 bits from one on. -/
def readPositive (text : String) : Option UInt32 :=
  (Text.readUInt32 10 text.toList).toOption.filter (· ≠ 0)

/-- A number of milliseconds. -/
def readTimeout : List String → Option Setting
  | [text] => (readPositive text).map .timeout
  | _ => none

/-- Numbers of slots. -/
def readSlots (texts : List String) : Option Setting :=
  (texts.mapM readPositive).map fun numbers => .slots (numbers.map (·.toNat))

/-- One of the kinds of nodes that are allowed. -/
def readTransport (allowed : List Kind) : List String → Option Setting
  | [text] => (allowed.find? fun kind => kind.name = text).map .transport
  | _ => none

/-- The style of labels. -/
def readLabel : List String → Option Setting
  | ["wwid"] => some (.label .wwid)
  | ["block"] => some (.label .block)
  | ["name"] => some (.label .name)
  | _ => none

/-! ## Options -/

/-- An option without values. -/
def flag (name : String) (letter : Option Char) (repeats : Bool) (setting : Setting)
    (about : String) : Opt :=
  { name, letter, repeats, about
    variableName := none
    arity := .none
    valueName := ""
    choices := []
    standard := none
    read := fun _ => some setting }

/-- An option with values. -/
def valued (name : String) (arity : Arity) (valueName : String)
    (read : List String → Option Setting) (about : String) : Opt :=
  { name, arity, valueName, read, about
    letter := none
    variableName := none
    repeats := arity = .many
    choices := []
    standard := none }

/-- An option that takes a directory, for which a variable of the environment stands in. -/
def directoryOption (name variableName : String) (say : String → Setting) (about : String) : Opt :=
  { valued name .one "DIR" (readDirectory say) about with variableName := some variableName }

/-- The options that every level has. -/
def sharedOptions : List Opt :=
  [flag "verbose" (some 'v') true .verbose "Log more (-v for debug, -vv for trace and frame dumps)",
    directoryOption "sysfs-root" "SASMAP_SYSFS_ROOT" .sysfsRoot "The sysfs mount [default: /sys]",
    directoryOption "bsg-root" "SASMAP_BSG_ROOT" .bsgRoot
      "The directory holding the bsg nodes [default: /dev/bsg]",
    directoryOption "dev-root" "SASMAP_DEV_ROOT" .devRoot
      "The directory holding the mpt control node [default: /dev]",
    valued "timeout-ms" .one "MS" readTimeout
      "Timeout of each SMP exchange in milliseconds [default: 20000]"]

/-- The option that asks for help. -/
def helpOption : Opt := flag "help" (some 'h') false .help "Print help"

/-- The option that asks for the version. -/
def versionOption : Opt := flag "version" (some 'V') false .version "Print version"

/-- What a kind of nodes stands for. -/
def kindText : Kind → String
  | .bsg => "bsg expander nodes"
  | .mpt => "the legacy mpt control node"
  | .mpi3mr => "mpi3mr controller nodes"

/-- The option that names one of the kinds of nodes that are allowed. -/
def transportOption (allowed : List Kind) (about : String) : Opt :=
  { valued "transport" .one "TRANSPORT" (readTransport allowed) about with
    choices := allowed.map fun kind => (kind.name, kindText kind)
    standard := some Kind.bsg.name }

/-- The option that names the style of labels. -/
def labelOption : Opt :=
  { valued "label" .one "LABEL" readLabel "How the slots are labelled" with
    choices :=
      [("wwid", "the last 16 characters of the wwid"),
        ("block", "slot number and block device"),
        ("name", "slot number and SCSI address")]
    standard := some "block" }

/-- The kinds of nodes that reach the phys of slots. -/
def slotKinds : List Kind := [.bsg, .mpi3mr]

/-- A command. -/
structure Command where
  /-- The name. -/
  name : String
  /-- What it does. -/
  about : String
  /-- The options that it has besides the shared ones. -/
  options : List Opt
  /-- How the options are written that it cannot do without. -/
  required : List String

/-- The commands. -/
def commands : List Command :=
  [⟨"list", "List the SCSI devices with their type, block device and wwid", [], []⟩,
    ⟨"slots", "Map the devices to enclosure slots",
      [transportOption slotKinds "Nodes used for slot discovery", labelOption], []⟩,
    ⟨"discover", "Print the DISCOVER result of every expander phy",
      [transportOption [.bsg, .mpt, .mpi3mr] "Nodes the expanders are reached through"], []⟩,
    ⟨"phy", "Disable or enable the expander phys wired to slots",
      [valued "slot" .many "N" readSlots "Slot number, starting at 1; may be repeated",
        flag "disable" none false .disable "Disable the phys",
        flag "enable" none false .enable "Enable the phys",
        transportOption slotKinds "Nodes used for slot discovery and phy control"],
      ["--slot <N>...", "<--disable|--enable>"]⟩,
    ⟨"info", "Print the mpi3mr controller inventory", [], []⟩]

/-- The command with a name. -/
def command? (name : String) : Option Command := commands.find? (·.name = name)

/-- The level in front of the command. -/
def topLevel : Level := ⟨sharedOptions ++ [helpOption, versionOption], commands.map (·.name)⟩

/-- The level of a command. -/
def commandLevel (command : String) : Level :=
  ⟨((command? command).map (·.options)).getD [] ++ sharedOptions ++ [helpOption], []⟩

/-! ## Meaning -/

/-- The first setting that says something of a kind. -/
def pick (said : List Setting) (select : Setting → Option α) (otherwise : α) : α :=
  (said.findSome? select).getD otherwise

/-- Where passes look, what comes first in the settings having precedence. -/
def configOf (said : List Setting) : Config :=
  let standard := Config.standard
  { standard with
    sysfsRoot := pick said (fun | .sysfsRoot d => some d | _ => none) standard.sysfsRoot
    bsgRoot := pick said (fun | .bsgRoot d => some d | _ => none) standard.bsgRoot
    devRoot := pick said (fun | .devRoot d => some d | _ => none) standard.devRoot
    timeout := pick said (fun | .timeout t => some t | _ => none) standard.timeout }

/-- What a command with its settings asks for. -/
def actionOf (command : String) (said : List Setting) : Except Stop Action :=
  let transport := pick said (fun | .transport kind => some kind | _ => none) .bsg
  match command with
  | "list" => .ok .list
  | "slots" =>
    .ok (.slots transport (pick said (fun | .label style => some style | _ => none) .standard))
  | "discover" => .ok (.discover transport)
  | "phy" =>
    let numbers := said.flatMap fun
      | .slots numbers => numbers
      | _ => []
    if numbers = [] then .error (.usage (.missingOption "slot"))
    else
      let slots := numbers.map (· - 1)
      match decide (.disable ∈ said), decide (.enable ∈ said) with
      | true, true => .error (.usage (.conflict "disable" "enable"))
      | false, false => .error (.usage (.missingOption "disable"))
      | disable, _ => .ok (.phy slots disable transport)
  | _ => .ok .info

/-- Reads the words of a command line. -/
def Invocation.read (environment : String → Option String) (words : List String) :
    Except Stop Invocation := do
  let (top, next) ← topLevel.read .start words
  match next with
  | none => throw (.usage .noCommand)
  | some (command, rest) =>
    let level := commandLevel command
    let (own, _) ← (level.read .start rest).mapError (.under command)
    let ownAmbient ← level.readEnvironment environment own
    let action ← actionOf command own.settings
    let topAmbient ← topLevel.readEnvironment environment top
    return ⟨configOf (own.settings ++ top.settings ++ ownAmbient ++ topAmbient), action⟩

end BayMap.CommandLine
