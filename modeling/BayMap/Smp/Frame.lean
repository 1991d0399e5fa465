import BayMap.Bytes.Endian
import BayMap.Smp.Function

/-!
# Management frames

A frame starts with four bytes: its type, the function, the result (in a request, the response
length that was allocated) and its length in dwords. Buffers have room for the checksum of four
bytes that closes a frame and that nobody here computes.
-/

namespace BayMap.Smp

/-- The frame type of a request. -/
def requestType : UInt8 := 0x40

/-- The frame type of a response. -/
def responseType : UInt8 := 0x41

/-- The bytes of a frame header. -/
def headerLength : Nat := 4

/-- The bytes of the checksum at the end of a frame. -/
def checksumLength : Nat := 4

/-- The header of a frame. -/
structure FrameHeader where
  /-- Request or response. -/
  frameType : UInt8
  /-- The function. -/
  function : Function
  /-- The result, or the allocated response length. -/
  result : UInt8
  /-- The dwords after the header, the checksum not counted. -/
  length : UInt8
  deriving DecidableEq, Repr

/-- The header at the start of a frame, which needs its four bytes. -/
def FrameHeader.read? : Bytes → Option FrameHeader
  | frameType :: function :: result :: length :: _ => some ⟨frameType, ⟨function⟩, result, length⟩
  | _ => none

end BayMap.Smp
