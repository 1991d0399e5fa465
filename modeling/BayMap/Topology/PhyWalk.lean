import BayMap.Smp.PhyRecord
import BayMap.Topology.Diagnostic

/-!
# Phy walks

A walk asks an expander about one phy after another. It ends at the first phy that does not exist,
and where the node fails; nothing else that an expander says ends it.
-/

namespace BayMap.Topology

open Smp (PhyRecord)
open Transport (Conversation)

/-- What was heard of a phy. -/
structure PhyAnswer where
  /-- The phy that was asked for. -/
  phy : UInt8
  /-- What the expander said. -/
  answer : Except SmpError PhyRecord

namespace PhyAnswer

/-- The answer ends a walk. -/
def isLast (a : PhyAnswer) : Bool :=
  match a.answer with
  | .ok _ => false
  | .error (.transport _) | .error (.transportStatus _) => true
  | .error e => e.saysNoPhy

/-- The problem with an answer. That a phy does not exist or is vacant is none. -/
def diagnostic? (path : String) (a : PhyAnswer) : Option Diagnostic :=
  match a.answer with
  | .ok _ => none
  | .error e =>
    if e.saysNoPhy || e.saysVacant then none
    else
      match e with
      | .functionResult result => some (.phyRefused path a.phy result)
      | _ => some (.phyFailed path a.phy e)

/-- The line of a phy in a report. -/
def line? (a : PhyAnswer) : Option String :=
  match a.answer with
  | .ok record => record.summary
  | .error e => if e.saysVacant then some (PhyRecord.vacantText a.phy) else none

end PhyAnswer

/-- The first `count` phys. -/
def phys (count : Nat) : List UInt8 := (List.range count).map .ofNat

/-- Asks the expander at an address about phys, one after another. -/
def walk (target : UInt64) (tableToTable : Bool) : List UInt8 → Conversation (List PhyAnswer)
  | [] => return []
  | phy :: rest => do
    let heard : PhyAnswer := ⟨phy, ← PhyRecord.ask target phy tableToTable⟩
    if heard.isLast then return [heard]
    return heard :: (← walk target tableToTable rest)

end BayMap.Topology
