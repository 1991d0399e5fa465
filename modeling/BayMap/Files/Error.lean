import BayMap.Files.Errno

/-!
# File errors

Every error names what was tried and the path it was tried on.
-/

namespace BayMap.Files

/-- Why a file or directory could not be used. -/
inductive Fault where
  /-- The system says so. -/
  | system (errno : Errno)
  /-- The bytes of the file are no text. -/
  | notText
  /-- The path holds the character that ends paths. -/
  | nul
  deriving DecidableEq, Repr

/-- The wording of a fault. -/
def Fault.text : Fault → String
  | .system errno => errno.text
  | .notText => "stream did not contain valid UTF-8"
  | .nul => "file name contained an unexpected NUL byte"

/-- What was tried. -/
inductive Action where
  /-- Listing a directory. -/
  | list
  /-- Opening a file. -/
  | open
  /-- Reading an open file. -/
  | read
  deriving DecidableEq, Repr

/-- A file error. -/
structure Error where
  /-- What was tried. -/
  action : Action
  /-- The path it was tried on. -/
  path : String
  /-- Why it failed. -/
  fault : Fault
  deriving DecidableEq, Repr

/-- The wording of an error. -/
def Error.message (e : Error) : String :=
  (match e.action with
    | .list => "failed to read directory `"
    | .open => "failed to open file `"
    | .read => "failed to read from file `") ++
  e.path ++ "`: " ++ e.fault.text

end BayMap.Files
