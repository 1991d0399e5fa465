import BayMap.Smp.Exchange
import BayMap.Text.Blank
import BayMap.Text.Utf8

/-!
# REPORT MANUFACTURER INFORMATION

Who made an expander, and which firmware it runs.
-/

namespace BayMap.Smp

/-- Who made an expander. -/
structure Manufacturer where
  /-- The vendor. -/
  vendor : String
  /-- The product. -/
  product : String
  /-- The revision of the product. -/
  revision : String
  /-- The bytes of the revision, of which firmware uses one per digit. -/
  firmware : Vector UInt8 4
  deriving DecidableEq, Repr

namespace Manufacturer

/-- The request. -/
def request : Bytes := [requestType, Function.reportManufacturer.code, 0, 0]

/-- The size of the response buffer. -/
def capacity : Nat := 60

/-- The text of a field, without the spaces and zero characters around it. -/
def field (response : Bytes) (offset length : Nat) : String :=
  let padding := fun c : Char => c == ' ' || c == '\x00'
  let text := Text.Utf8.lossy (response.block offset length).toList
  .ofList (Text.dropEnd padding (text.dropWhile padding))

/-- Reads the bytes of a response that count. -/
def decode (response : Bytes) : Manufacturer where
  vendor := field response 12 8
  product := field response 20 16
  revision := field response 36 4
  firmware := response.block 36 4

/-- The firmware version: each byte as a character after a zero. -/
def version (m : Manufacturer) : String :=
  ".".intercalate (m.firmware.toList.map fun b => .ofList ['0', Char.ofNat b.toNat])

/-- Asks the expander at an address. -/
def ask (target : UInt64) : Transport.Conversation (Except SmpError Manufacturer) := do
  return (← exchange target .reportManufacturer request capacity).map decode

end Manufacturer

end BayMap.Smp
