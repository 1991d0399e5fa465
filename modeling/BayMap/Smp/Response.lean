import BayMap.Smp.Error
import BayMap.Smp.Frame

/-!
# Response frames

A response is as long as its length byte says, or as the default of its function where both the
length and the result byte are zero. It is never longer than what was received or than the buffer.
The checks of a response go from its length to its type, its function and its result, and the first
one that fails decides.
-/

namespace BayMap.Smp

/-- The dwords after a header. -/
def FrameHeader.dwords (h : FrameHeader) : UInt8 :=
  if h.length = 0 ∧ h.result = 0 then (h.function.defaultResponse?.bind (·.dwords?)).getD 0
  else h.length

/-- The bytes of a response to `function` that count, where `received` tells the bytes received. -/
def validLength (function : Function) (response : Bytes) (received : Option Nat) :
    Except SmpError Nat :=
  if received.any (· < headerLength) then .error (.malformed .shortTransfer)
  else
    match FrameHeader.read? response with
    | none => .error (.malformed .shortBuffer)
    | some header =>
      if header.frameType ≠ responseType then .error (.malformed .notResponse)
      else if header.function ≠ function then .error (.malformed .otherFunction)
      else if header.result ≠ 0 then .error (.functionResult ⟨header.result⟩)
      else
        let declared := headerLength + header.dwords.toNat * 4
        .ok (min (min declared (received.getD declared)) response.length)

end BayMap.Smp
