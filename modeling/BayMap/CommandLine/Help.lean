import BayMap.CommandLine.Invocation

/-!
# Help

The help texts of the program and of its commands, and its version. A text in brief has a line for
each option. Where the values of an option are explained there is also a text in full, with a
paragraph for each option.
-/

namespace BayMap.CommandLine

/-- The name of the program. -/
def programName : String := "sasmap"

/-- The version of the program. -/
def versionText : String := programName ++ " 0.0.0\n"

/-- What the program is for. -/
def programText : String := "SAS enclosure slot mapping utility"

/-! ## Options -/

namespace Opt

/-- How an option is written, with room for a letter in front of the name. -/
def heading (o : Opt) : String :=
  (match o.letter with
    | some letter => .ofList ['-', letter, ',', ' ']
    | none => "    ") ++
    "--" ++ o.name ++
    match o.arity with
    | .none => if o.repeats then "..." else ""
    | .one => " <" ++ o.valueName ++ ">"
    | .many => " <" ++ o.valueName ++ ">..."

/-- What is noted of an option behind what it is for. Choices are noted where they are not
explained. -/
def notes (environment : String → Option String) (brief : Bool) (o : Opt) : List String :=
  (o.variableName.toList.map fun name =>
    "[env: " ++ name ++ "=" ++ (environment name).getD "" ++ "]") ++
    (o.standard.toList.map fun value => "[default: " ++ value ++ "]") ++
    if brief ∧ o.choices ≠ [] then
      ["[possible values: " ++ ", ".intercalate (o.choices.map (·.1)) ++ "]"]
    else []

/-- The line of an option. The headings stand in a column. -/
def line (environment : String → Option String) (width : Nat) (o : Opt) : String :=
  "  " ++ .ofList (Text.column (width + 2) o.heading.toList) ++
    " ".intercalate (o.about :: o.notes environment true)

/-- The lines that explain the choices of an option. -/
def choiceLines (o : Opt) : List String :=
  let width := (o.choices.map fun choice => choice.1.length).foldl max 0
  o.choices.map fun (value, explanation) =>
    "- " ++ .ofList (Text.column (width + 2) (value ++ ":").toList) ++ explanation

/-- The paragraph of an option. -/
def paragraph (environment : String → Option String) (o : Opt) : String :=
  let indent := fun text => "          " ++ text
  let notes := o.notes environment false
  "\n".intercalate <|
    ["  " ++ o.heading, indent o.about] ++
      (if notes = [] then [] else ("" :: notes).map indent) ++
      if o.choices = [] then []
      else "" :: indent "Possible values:" :: o.choiceLines.map indent

/-- What options at one position are ordered by. -/
def sortKey (o : Opt) : String :=
  match o.letter with
  | some letter => letter.toString
  | none => o.name

end Opt

/-- The options of a command and the shared ones, which take turns. -/
def inTurn : (own shared : List Opt) → List Opt
  | [], shared => shared
  | own, [] => own
  | o :: own, s :: shared =>
    if s.sortKey < o.sortKey then s :: o :: inTurn own shared else o :: s :: inTurn own shared

/-! ## Texts -/

/-- The part of a help text on options. -/
def optionsText (environment : String → Option String) (brief : Bool) (options : List Opt) :
    String :=
  let width := (options.map fun o => o.heading.length).foldl max 0
  "Options:\n" ++
    (if brief then "\n".intercalate (options.map (·.line environment width))
    else "\n\n".intercalate (options.map (·.paragraph environment))) ++ "\n"

/-- The part of a help text on how a command line is written. -/
def usageText (words : List String) : String := "Usage: " ++ " ".intercalate words ++ "\n"

/-- The help text of the program. -/
def programHelp (environment : String → Option String) : String :=
  let width := (commands.map fun command => command.name.length).foldl max 0
  let line := fun command : Command =>
    "  " ++ .ofList (Text.column (width + 2) command.name.toList) ++ command.about ++ "\n"
  programText ++ "\n\n" ++ usageText [programName, "[OPTIONS]", "<COMMAND>"] ++ "\nCommands:\n" ++
    String.join (commands.map line) ++ "\n" ++
    optionsText environment true (sharedOptions ++ [helpOption, versionOption])

/-- The help text of a command. -/
def Command.help (environment : String → Option String) (brief : Bool) (command : Command) :
    String :=
  let explained := command.options.any fun o => !o.choices.isEmpty
  let about :=
    if !explained then helpOption.about
    else if brief then "Print help (see more with '--help')"
    else "Print help (see a summary with '-h')"
  command.about ++ "\n\n" ++
    usageText ([programName, command.name, "[OPTIONS]"] ++ command.required) ++ "\n" ++
    optionsText environment (brief || !explained)
      (inTurn command.options sharedOptions ++ [{ helpOption with about }])

/-- The help text of a command, or that of the program. -/
def help (environment : String → Option String) (command : Option String) (brief : Bool) : String :=
  match command.bind command? with
  | some command => command.help environment brief
  | none => programHelp environment

end BayMap.CommandLine
