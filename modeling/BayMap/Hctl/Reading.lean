import BayMap.Hctl.Address
import BayMap.Text.Quoted

/-!
# Reading SCSI addresses

The fields of an address are read from left to right, and the first one that is absent or no number
decides the error. A text with more than four fields has the rest of the text, colons included, as
its logical unit, which is then no number.
-/

namespace BayMap.Hctl

/-- A field of an address. -/
inductive Field where
  | host
  | channel
  | target
  | lun
  deriving DecidableEq, Repr

/-- The name of a field. -/
def Field.name : Field → String
  | .host => "host"
  | .channel => "channel"
  | .target => "target"
  | .lun => "lun"

/-- Why a text is no address. -/
inductive AddressError where
  /-- There are too few fields. -/
  | missing (field : Field)
  /-- A field is no number of its range. -/
  | invalid (field : Field) (text : String) (cause : Text.NumeralError)
  deriving DecidableEq, Repr

namespace AddressError

/-- The field to blame. -/
def field : AddressError → Field
  | .missing f => f
  | .invalid f _ _ => f

/-- The wording of an error. -/
def message : AddressError → String
  | .missing f => "missing " ++ f.name ++ " field"
  | .invalid f text _ => "invalid " ++ f.name ++ " field " ++ Text.quoted text

/-- The errors behind an error, outermost first. -/
def sources : AddressError → List String
  | .missing _ => []
  | .invalid _ _ cause => [cause.message]

end AddressError

/-- The text before the first colon and, where there is one, the text after it. -/
def splitColon : List Char → List Char × Option (List Char)
  | [] => ([], none)
  | c :: rest =>
    if c = ':' then ([], some rest)
    else
      let (field, more) := splitColon rest
      (c :: field, more)

/-- Reads a field with the reader of its range. -/
def readField (field : Field) (read : List Char → Except Text.NumeralError α)
    (text : Option (List Char)) : Except AddressError α :=
  match text with
  | none => .error (.missing field)
  | some text =>
    match read text with
    | .ok value => .ok value
    | .error cause => .error (.invalid field (.ofList text) cause)

/-- Reads the number of a host, of which `N` is one. -/
def readHost (text : List Char) : Except Text.NumeralError Int32 :=
  if text = ['N'] then .ok nvmeHost else Text.readInt32 text

/-- The first three fields of a text, and what stands after the third colon. -/
structure Fields where
  host : List Char
  channel : Option (List Char)
  target : Option (List Char)
  lun : Option (List Char)
  deriving DecidableEq, Repr

/-- Cuts a text at its first three colons. -/
def Fields.ofText (text : List Char) : Fields :=
  let first := splitColon text
  let second := first.2.map splitColon
  let third := (second.bind (·.2)).map splitColon
  ⟨first.1, second.map (·.1), third.map (·.1), third.bind (·.2)⟩

/-- Reads an address. -/
def Address.read (text : List Char) : Except AddressError Address := do
  let fields := Fields.ofText text
  let host ← readField .host readHost (some fields.host)
  let channel ← readField .channel Text.readInt32 fields.channel
  let target ← readField .target Text.readInt32 fields.target
  let lun ← readField .lun (Text.readUInt64 10) fields.lun
  return ⟨host, channel, target, lun⟩

/-- Reads an address. -/
def Address.ofString (text : String) : Except AddressError Address := Address.read text.toList

end BayMap.Hctl
