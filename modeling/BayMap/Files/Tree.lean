import BayMap.Bytes.Slice
import BayMap.Files.Error
import BayMap.Files.Path
import BayMap.Text.Utf8

/-!
# File trees

A tree of directories, files and links. A place is a row of names from the top of the tree, which is
the working directory. A path is resolved part by part, and every link on the way is followed, up to
forty of them. A path from the root, or one that leads up from the working directory, leaves the
tree: there are only directories out there, and nothing is found in them.
-/

namespace BayMap.Files

/-- What has a name in a file tree. -/
inductive Node where
  /-- A directory with its entries, in the order in which they were created. -/
  | directory (entries : List (String × Node))
  /-- A file with its bytes. -/
  | file (data : Bytes)
  /-- A link to a path. -/
  | link (target : String)

/-- A row of names from the top of a tree. -/
abbrev Place := List String

/-- Where a path leads. -/
inductive Location where
  /-- A place of the tree. -/
  | inside (place : Place)
  /-- A directory that is not in the tree. -/
  | outside
  deriving DecidableEq, Repr

/-- The directory above a location. -/
def Location.parent : Location → Location
  | .inside [] => .outside
  | .inside place => .inside place.dropLast
  | .outside => .outside

/-- Where a path starts. -/
def Location.start (path : String) : Location :=
  if Path.isAbsolute path then .outside else .inside []

/-- The location of a name in the directory at a location. -/
def Location.child (here : Location) (name : String) : Location :=
  match here with
  | .inside place => .inside (place ++ [name])
  | .outside => .outside

/-- What an entry of a directory is, links not followed. -/
inductive FileKind where
  | link
  | directory
  | other
  deriving DecidableEq, Repr

/-- An entry of a directory. -/
structure Entry where
  /-- The name. -/
  name : String
  /-- What it is. -/
  kind : FileKind
  deriving DecidableEq, Repr

/-- The entry leads to more entries, or may do so. -/
def Entry.isDirectoryOrLink (e : Entry) : Bool := e.kind != .other

namespace Node

/-- What a node is as an entry. -/
def kind : Node → FileKind
  | .directory _ => .directory
  | .file _ => .other
  | .link _ => .link

/-- The entries of a directory. -/
def entries? : Node → Option (List (String × Node))
  | .directory entries => some entries
  | .file _ | .link _ => none

/-- The node with a name in a directory. -/
def child? (n : Node) (name : String) : Option Node := n.entries?.bind (·.lookup name)

/-- The node at a place below. -/
def at? (n : Node) : Place → Option Node
  | [] => some n
  | name :: rest => (n.child? name).bind (·.at? rest)

/-- Entries with another node at a name, which comes last where it is new. -/
def replace (name : String) (node : Node) : List (String × Node) → List (String × Node)
  | [] => [(name, node)]
  | (other, old) :: rest =>
    if other = name then (name, node) :: rest else (other, old) :: replace name node rest

/-- The node once another one is put at a place below, with directories on the way where there is
nothing. There is nothing below a file or a link, and nothing can be put there. -/
def put : Node → Place → Node → Node
  | _, [], node => node
  | n, name :: rest, node =>
    match n.entries? with
    | none => n
    | some entries =>
      let below := (entries.lookup name).getD (.directory [])
      .directory (replace name (below.put rest node) entries)

end Node

/-- A file tree. -/
structure Tree where
  /-- The entries of the directory at the top. -/
  entries : List (String × Node)

namespace Tree

/-- The tree with nothing in it. -/
def empty : Tree := ⟨[]⟩

/-- The directory at the top. -/
def top (t : Tree) : Node := .directory t.entries

/-- What is at a location. -/
def nodeAt? (t : Tree) : Location → Option Node
  | .inside place => t.top.at? place
  | .outside => some (.directory [])

/-- The links that one path may lead through. -/
def maxLinks : Nat := 40

/-- The bytes that a name may have. -/
def maxNameLength : Nat := 255

/-- The bytes that a path may have. -/
def maxPathLength : Nat := 4095

/-- Follows the parts of a path from a location. -/
def resolveFrom (t : Tree) (links : Nat) (here : Location) :
    List String → Except Errno Location
  | [] => .ok here
  | part :: rest =>
    match (t.nodeAt? here).bind Node.entries? with
    | none => .error .notDirectory
    | some entries =>
      if part = "" ∨ part = "." then resolveFrom t links here rest
      else if part = ".." then resolveFrom t links here.parent rest
      else if maxNameLength < part.utf8ByteSize then .error .nameTooLong
      else
        match entries.lookup part with
        | none => .error .noEntry
        | some (.link target) =>
          match links with
          | 0 => .error .linkLoop
          | links + 1 =>
            resolveFrom t links (if Path.isAbsolute target then .outside else here)
              (Path.parts target ++ rest)
        | some _ => resolveFrom t links (here.child part) rest
  termination_by parts => (links, parts.length)

/-- The location that a path leads to. -/
def resolve (t : Tree) (path : String) : Except Fault Location :=
  if '\x00' ∈ path.toList then .error .nul
  else if maxPathLength < path.utf8ByteSize then .error (.system .nameTooLong)
  else if path = "" then .error (.system .noEntry)
  else (t.resolveFrom maxLinks (.start path) (Path.parts path)).mapError .system

/-- Lists a directory. -/
def list (t : Tree) (path : String) : Except Error (List Entry) :=
  match t.resolve path with
  | .error fault => .error ⟨.list, path, fault⟩
  | .ok location =>
    match (t.nodeAt? location).bind Node.entries? with
    | some entries => .ok (entries.map fun e => ⟨e.1, e.2.kind⟩)
    | none => .error ⟨.list, path, .system .notDirectory⟩

/-- Reads a file as text. A directory can be opened and not be read. -/
def read (t : Tree) (path : String) : Except Error (List Char) :=
  match t.resolve path with
  | .error fault => .error ⟨.open, path, fault⟩
  | .ok location =>
    match t.nodeAt? location with
    | some (.file data) =>
      match Text.Utf8.text? data with
      | some text => .ok text
      | none => .error ⟨.read, path, .notText⟩
    | some _ => .error ⟨.read, path, .system .isDirectory⟩
    | none => .error ⟨.open, path, .system .noEntry⟩

/-- Opens a file for reading and writing, which cannot be done with a directory. -/
def openFile (t : Tree) (path : String) : Except Error Unit :=
  match t.resolve path with
  | .error fault => .error ⟨.open, path, fault⟩
  | .ok location =>
    match (t.nodeAt? location).bind Node.entries? with
    | some _ => .error ⟨.open, path, .system .isDirectory⟩
    | none => .ok ()

/-- The tree once a node is put at a place. A directory that is there stays. -/
def put (t : Tree) (place : Place) (node : Node) : Tree :=
  match t.top.at? place, node with
  | some (.directory _), .directory _ => t
  | _, _ => ⟨((t.top.put place node).entries?).getD t.entries⟩

/-- Creates a node at the end of a path, and directories on the way where there is nothing. Out of
the tree nothing is created. -/
def createFrom (t : Tree) (here : Location) (node : Node) : List String → Tree
  | [] => t
  | part :: rest =>
    match here with
    | .outside => t
    | .inside place =>
      if part = "" ∨ part = "." then createFrom t here node rest
      else if part = ".." then createFrom t here.parent node rest
      else
        let there := place ++ [part]
        if rest = [] then t.put there node
        else
          match t.top.at? there with
          | some (.link _) =>
            match t.resolveFrom maxLinks here [part] with
            | .ok target => createFrom t target node rest
            | .error _ => t
          | some _ => createFrom t (.inside there) node rest
          | none => createFrom (t.put there (.directory [])) (.inside there) node rest

/-- Creates a node at a path, and directories on the way where there is nothing. -/
def create (t : Tree) (path : String) (node : Node) : Tree :=
  t.createFrom (.start path) node (Path.parts path)

end Tree

end BayMap.Files
