import BayMap.Files.Tree
import BayMap.Kernel.Calls

/-!
# Plain files

A kernel whose nodes are files of a tree. A file can be opened, is no character device, and carries
no requests.
-/

namespace BayMap.Kernel

/-- The kernel whose nodes are plain files. -/
def plainFiles (t : Files.Tree) : Responder calls Unit
  | .open path, s => (t.openFile path, s)
  | .deviceNumbers _, s => (.ok none, s)
  | .scsi .., s => (.error .notTerminal, s)
  | .mpt .., s => (.error .notTerminal, s)

end BayMap.Kernel
