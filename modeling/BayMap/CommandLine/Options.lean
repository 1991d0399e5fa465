import BayMap.Topology.Config
import BayMap.Topology.Slots

/-!
# Options

The words of a command line are read from left to right. An option that takes values takes them
from the words after it, up to the next option, or from the text after an equals sign, which is then
its only value. After two hyphens alone nothing may follow. A value is checked when it is complete,
so the first fault decides.
-/

namespace BayMap.CommandLine

/-- What an option says. -/
inductive Setting where
  | help
  | version
  | verbose
  | sysfsRoot (directory : String)
  | bsgRoot (directory : String)
  | devRoot (directory : String)
  | timeout (milliseconds : UInt32)
  | transport (kind : Transport.Kind)
  | label (style : Topology.LabelStyle)
  | slots (numbers : List Nat)
  | disable
  | enable
  deriving DecidableEq, Repr

/-- How many values an option takes. -/
inductive Arity where
  | none
  | one
  | many
  deriving DecidableEq, Repr

/-- An option. -/
structure Opt where
  /-- The name, which follows two hyphens. -/
  name : String
  /-- What it is for. -/
  about : String
  /-- The letter that follows one hyphen, for an option without values. -/
  letter : Option Char
  /-- The variable of the environment that stands in for the option. -/
  variableName : Option String
  /-- How many values it takes. -/
  arity : Arity
  /-- What a value is called. -/
  valueName : String
  /-- The values, each with what it stands for, where there are only a few. -/
  choices : List (String × String)
  /-- The value of an option that is not given. -/
  standard : Option String
  /-- It may be given more than once. -/
  repeats : Bool
  /-- What it says with its values, if they are valid. -/
  read : List String → Option Setting

/-- What is wrong with a command line. -/
inductive UsageError where
  /-- A word has no meaning where it stands. -/
  | unexpected (word : String)
  /-- An option lacks its value. -/
  | missingValue (option : String)
  /-- A value is not one of an option. -/
  | invalidValue (option value : String)
  /-- An option is given twice. -/
  | repeated (option : String)
  /-- There is no command. -/
  | noCommand
  /-- A command lacks an option. -/
  | missingOption (option : String)
  /-- Two options exclude each other. -/
  | conflict (option other : String)
  deriving DecidableEq, Repr

/-- The wording of a usage error. -/
def UsageError.message : UsageError → String
  | unexpected word => "unexpected argument '" ++ word ++ "'"
  | missingValue option => "a value is required for '--" ++ option ++ "'"
  | invalidValue option value => "invalid value '" ++ value ++ "' for '--" ++ option ++ "'"
  | repeated option => "'--" ++ option ++ "' cannot be used multiple times"
  | noCommand => "a command is required"
  | missingOption option => "'--" ++ option ++ "' is required"
  | conflict option other => "'--" ++ option ++ "' cannot be used with '--" ++ other ++ "'"

/-- Why the words of a command line are no command. -/
inductive Stop where
  /-- They ask for help, in brief or in full, with a command or with the program. -/
  | help (command : Option String) (brief : Bool)
  /-- They ask for the version. -/
  | version
  /-- They are wrong. -/
  | usage (error : UsageError)
  deriving DecidableEq, Repr

/-- A wish for help is one for help in brief. -/
def Stop.inBrief : Stop → Stop
  | .help command _ => .help command true
  | stop => stop

/-- A wish for help is one for help with a command. -/
def Stop.under (command : String) : Stop → Stop
  | .help _ brief => .help (some command) brief
  | stop => stop

/-- The options and the commands that are known at a place in a command line. -/
structure Level where
  /-- The options. -/
  options : List Opt
  /-- The commands, each of which starts a level of its own. -/
  commands : List String

/-- What was read of a level. -/
structure Reader where
  /-- What was said, each with the name of its option. -/
  said : List (String × Setting)
  /-- The option that takes values, with those it has. -/
  waiting : Option (Opt × List String)

namespace Reader

/-- Nothing was read. -/
def start : Reader := ⟨[], none⟩

/-- What was said. -/
def settings (r : Reader) : List Setting := r.said.map (·.2)

/-- An option was given. -/
def gave (r : Reader) (option : Opt) : Bool := r.said.any fun s => s.1 == option.name

/-- What an option says with all of its values. -/
def interpret (option : Opt) (values : List String) : Except Stop Setting :=
  match option.read values with
  | some .help => .error (.help none false)
  | some .version => .error .version
  | some setting => .ok setting
  | none => .error (.usage (.invalidValue option.name (" ".intercalate values)))

/-- Takes an option with all of its values. -/
def take (r : Reader) (option : Opt) (values : List String) : Except Stop Reader := do
  let setting ← interpret option values
  if !option.repeats && r.gave option then throw (.usage (.repeated option.name))
  return ⟨r.said ++ [(option.name, setting)], none⟩

/-- Ends the values of the option that takes some. -/
def close (r : Reader) : Except Stop Reader :=
  match r.waiting with
  | none => .ok r
  | some (option, []) => .error (.usage (.missingValue option.name))
  | some (option, values) => r.take option values

/-- Takes the name of an option, perhaps with a value after an equals sign. -/
def takeName (r : Reader) (level : Level) (text : List Char) : Except Stop Reader := do
  let unexpected : Stop := .usage (.unexpected ("--" ++ .ofList text))
  let name := text.takeWhile (· ≠ '=')
  match level.options.find? fun o => o.name.toList = name with
  | none => throw unexpected
  | some option =>
    let r ← r.close
    match option.arity, text.drop name.length with
    | .none, [] => r.take option []
    | .none, _ => throw unexpected
    | _, [] => return { r with waiting := some (option, []) }
    | _, _ :: value => r.take option [.ofList value]

/-- Takes the letters of options. The letter that asks for help asks for help in brief. -/
def takeLetters (r : Reader) (level : Level) (letters : List Char) : Except Stop Reader := do
  letters.foldlM (fun r letter =>
      match level.options.find? fun o => o.letter = some letter with
      | none => throw (.usage (.unexpected ("-" ++ .ofList letters)))
      | some option => (r.take option []).mapError .inBrief)
    (← r.close)

/-- Takes a word that is no option: a value, if one is waited for. -/
def takeWord (r : Reader) (word : String) : Except Stop Reader :=
  match r.waiting with
  | none => .error (.usage (.unexpected word))
  | some (option, values) =>
    match option.arity with
    | .many => .ok { r with waiting := some (option, values ++ [word]) }
    | _ => r.take option (values ++ [word])

end Reader

/-- Reads the words of a level: what was said, and the command that ends it with the words after
that. -/
def Level.read (level : Level) (r : Reader) :
    List String → Except Stop (Reader × Option (String × List String))
  | [] => return (← r.close, none)
  | word :: rest => do
    if r.waiting.isNone && level.commands.contains word then return (r, some (word, rest))
    else
      match word.toList with
      | ['-', '-'] =>
        match rest with
        | [] => return (← r.close, none)
        | next :: _ => throw (.usage (.unexpected next))
      | '-' :: '-' :: text => level.read (← r.takeName level text) rest
      | '-' :: letter :: letters => level.read (← r.takeLetters level (letter :: letters)) rest
      | _ => level.read (← r.takeWord word) rest

/-- What the environment says in place of the options of a level that were not given. -/
def Level.readEnvironment (level : Level) (environment : String → Option String) (r : Reader) :
    Except Stop (List Setting) := do
  let standIns := level.options.filterMap fun option =>
    if r.gave option then none
    else (option.variableName.bind environment).map fun value => (option, value)
  standIns.mapM fun (option, value) => Reader.interpret option [value]

end BayMap.CommandLine
