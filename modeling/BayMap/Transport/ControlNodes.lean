import BayMap.Files.Tree
import BayMap.Text.Part
import BayMap.Transport.Link

/-!
# Control nodes

The nodes of a directory through which expanders and controllers are reached, by their names. Nodes
come in the order of their names, those of the first controller generations as they are listed.
-/

namespace BayMap.Transport

open Files (Tree Entry)

/-- An entry is a node of a kind. -/
def Kind.names (kind : Kind) (e : Entry) : Bool :=
  let name := e.name.toList
  match kind with
  | .bsg => Text.holds "expander-".toList name && Text.holds [':'] name
  | .mpt => Text.holds "mpt3ctl".toList name
  | .mpi3mr => !e.isDirectoryOrLink && Text.holds "mpi3mrctl".toList name

/-- Entries in the order of the nodes of a kind. -/
def Kind.sort (kind : Kind) (listed : List Entry) : List Entry :=
  match kind with
  | .mpt => listed
  | .bsg | .mpi3mr => listed.mergeSort fun a b => !decide (b.name < a.name)

/-- The nodes of a kind in a directory. -/
def controlNodes (t : Tree) (directory : String) (kind : Kind) :
    Except Files.Error (List String) :=
  (t.list directory).map fun listed =>
    (kind.sort (listed.filter kind.names)).map fun e => Files.Path.join directory e.name

end BayMap.Transport
