import BayMap.Smp.Frame
import BayMap.Transport.Link

/-!
# PHY CONTROL

Turns a phy off, or resets it back into service. Whatever comes back is not looked at.
-/

namespace BayMap.Smp

/-- The code of a phy operation. -/
structure PhyOperation where
  /-- The byte of the request. -/
  code : UInt8
  deriving DecidableEq, Repr

namespace PhyOperation

/-- The symbolic name of a known operation. -/
def name? (o : PhyOperation) : Option String :=
  match o.code with
  | 0 => some "NOP"
  | 1 => some "LINK_RESET"
  | 2 => some "HARD_RESET"
  | 3 => some "DISABLE"
  | _ => none

/-- Resets a phy and puts it into service. -/
def hardReset : PhyOperation := ⟨2⟩

/-- Turns a phy off. -/
def disable : PhyOperation := ⟨3⟩

end PhyOperation

namespace PhyControl

/-- The operation that turns a phy off or on. -/
def operation (disable : Bool) : PhyOperation := if disable then .disable else .hardReset

/-- The request for a phy. -/
def request (phy : UInt8) (disable : Bool) : Bytes :=
  [requestType, Function.phyControl.code, 0, 9, 0, 0, 0, 0, 0, phy, (operation disable).code] ++
    List.replicate 33 0

/-- The size of the response buffer. -/
def capacity : Nat := 8

/-- Sends the request to the expander at an address. -/
def send (target : UInt64) (phy : UInt8) (disable : Bool) : Transport.Conversation Unit := do
  Transport.Conversation.trace (if disable then "phy off" else "phy on") (request phy disable)
  let _ ← Transport.Conversation.smp target (request phy disable) capacity

end PhyControl

end BayMap.Smp
