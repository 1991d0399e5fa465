import BayMap.Files.Tree
import BayMap.Text.Numeral

/-!
# Snapshots of file trees

A snapshot is a text that says what is in a tree, a node a line: the letter `d` and the path of a
directory, `f` with the path of a file and its bytes in base sixteen, or `l` with the path of a link
and what it points to. The parts of a line stand between tabulators. A line of any other form says
nothing.
-/

namespace BayMap.Files.Snapshot

/-- Bytes of two digits each. -/
def readBytes : List Char → Option Bytes
  | [] => some []
  | high :: low :: rest => do
    let h ← Text.digitValue 16 high
    let l ← Text.digitValue 16 low
    return .ofNat (16 * h + l) :: (← readBytes rest)
  | [_] => none

/-- The path and the node of a line. -/
def readLine (line : List Char) : Option (String × Node) :=
  match Path.split '\t' line with
  | [['d'], path] => some (.ofList path, .directory [])
  | [['f'], path] => some (.ofList path, .file [])
  | [['f'], path, data] => (readBytes data).map fun bytes => (.ofList path, .file bytes)
  | [['l'], path, target] => some (.ofList path, .link (.ofList target))
  | _ => none

/-- The tree of a snapshot. -/
def read (text : String) : Tree :=
  ((Path.split '\n' text.toList).filterMap readLine).foldl
    (fun t (path, node) => t.create path node) .empty

end BayMap.Files.Snapshot
