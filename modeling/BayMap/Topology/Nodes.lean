import BayMap.Topology.Config
import BayMap.Topology.Diagnostic
import BayMap.Transport.ControlNodes

/-!
# Nodes

A pass over the nodes of a system is a dialogue: it opens nodes, and talks over those that are open.
What an open node is to the opener (`σ`) is no concern of the pass, so a pass only knows a node by
its path and its kind. `Pass.throughKernel` is the pass whose nodes the kernel opens.
-/

namespace BayMap.Topology

open Transport (Kind LinkQuery Conversation Session)

/-- An open node. -/
structure OpenNode (σ : Type) where
  /-- The path that was opened. -/
  path : String
  /-- The kind of node it was opened as. -/
  kind : Kind
  /-- What the opener handed out. -/
  handle : σ

/-- What a pass puts to the nodes. -/
inductive NodeQuery (σ : Type) where
  /-- Open a node. -/
  | open (path : String) (kind : Kind)
  /-- Say something over an open node. -/
  | on (node : OpenNode σ) (query : LinkQuery)

/-- The interface of the nodes. -/
@[reducible] def nodes (σ : Type) : Interface where
  Query := NodeQuery σ
  Answer
    | .open .. => Except TransportError σ
    | .on _ query => Transport.link.Answer query

/-- A pass over the nodes. -/
abbrev Pass (σ : Type) := Dialogue (nodes σ)

variable {σ α : Type}

/-- Opens a node. -/
def Pass.openNode (path : String) (kind : Kind) :
    Pass σ (Except TransportError (OpenNode σ)) := do
  return (← Dialogue.query (I := nodes σ) (.open path kind)).map fun handle =>
    { path, kind, handle }

/-- A conversation over an open node. -/
def OpenNode.converse (node : OpenNode σ) (c : Conversation α) : Pass σ α :=
  c.relay fun query => Dialogue.query (I := nodes σ) (.on node query)

/-- The answer of the kernel to what is put to the nodes. -/
def NodeQuery.throughKernel (timeout : UInt32) :
    (query : NodeQuery Session) → Kernel.Program ((nodes Session).Answer query)
  | .open path kind => do
    return (← Session.openNode path kind).map fun session => { session with timeout }
  | .on node query => node.handle.answer query

/-- A pass over the nodes of the kernel. -/
def Pass.throughKernel (timeout : UInt32) (pass : Pass Session α) : Kernel.Program α :=
  pass.relay (NodeQuery.throughKernel timeout)

/-- The paths of the nodes of a kind. Where they cannot be listed there are none. -/
def listNodes (t : Files.Tree) (config : Config) (kind : Kind) : List String × List Diagnostic :=
  let directory := config.nodesRoot kind
  match Transport.controlNodes t directory kind with
  | .ok paths => (paths, [])
  | .error cause => ([], [.nodesUnlisted kind directory cause])

theorem listNodes_of_list {t : Files.Tree} {config : Config} {kind : Kind}
    {listed : List Files.Entry} (h : t.list (config.nodesRoot kind) = .ok listed) :
    listNodes t config kind =
      ((kind.sort (listed.filter kind.names)).map fun e =>
        Files.Path.join (config.nodesRoot kind) e.name, []) := by
  rw [listNodes, Transport.controlNodes, h]
  rfl

end BayMap.Topology
