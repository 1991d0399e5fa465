import BayMap.Smp.Exchange

/-!
# REPORT GENERAL

What an expander says of itself as a whole.
-/

namespace BayMap.Smp

/-- What discovery needs of an expander. -/
structure General where
  /-- The number of phys. -/
  phyCount : UInt8
  /-- Table-to-table routing is supported. -/
  tableToTable : Bool
  /-- The logical identifier of the enclosure. -/
  enclosureLogicalId : UInt64
  /-- The bytes of the response that count. -/
  responseLength : Nat
  deriving DecidableEq, Repr

namespace General

/-- The request. -/
def request : Bytes := [requestType, Function.reportGeneral.code, 0, 0, 0, 0, 0, 0]

/-- The size of the response buffer. -/
def capacity : Nat := 76

/-- Reads the bytes of a response that count. -/
def decode (response : Bytes) : General where
  phyCount := response.u8At 9
  tableToTable := response.u8At 10 &&& 0x80 != 0
  enclosureLogicalId := response.beU64At 12
  responseLength := response.length

/-- Asks the expander at an address. -/
def ask (target : UInt64) : Transport.Conversation (Except SmpError General) := do
  return (← exchange target .reportGeneral request capacity).map decode

end General

end BayMap.Smp
