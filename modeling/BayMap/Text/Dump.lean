import BayMap.Bytes.Slice
import BayMap.Text.Numeral

/-!
# Hex dumps

Bytes in lines of sixteen: the offset, the bytes in base sixteen, and the bytes as characters with
a point for what cannot be printed.
-/

namespace BayMap.Text

/-- The two digits of a byte. -/
def byteHex (b : UInt8) : List Char := zeroPad 2 (digits 16 b.toNat)

/-- Bytes in base sixteen, two digits each. -/
def bytesHex (b : Bytes) : List Char := b.flatMap byteHex

/-- Bytes in rows of sixteen, the last of which may be shorter. -/
def dumpRows : Bytes → List Bytes
  | [] => []
  | b :: rest => (b :: rest).take 16 :: dumpRows ((b :: rest).drop 16)
  termination_by b => b.length
  decreasing_by rw [List.length_drop, List.length_cons]; omega

/-- A byte as a character of the last column. -/
def dumpChar (b : UInt8) : Char :=
  if 0x20 ≤ b ∧ b ≤ 0x7e then Char.ofNat b.toNat else '.'

/-- The line of the row with the given number. -/
def dumpLine (row : Nat) (bytes : Bytes) : List Char :=
  zeroPad 4 (digits 16 (row * 16)) ++ [':', ' '] ++ column 32 (bytesHex bytes) ++
    [' ', ' ', '|'] ++ bytes.map dumpChar ++ ['|']

/-- The lines of a hex dump. -/
def dump (b : Bytes) : List String :=
  (dumpRows b).mapIdx fun row bytes => .ofList (dumpLine row bytes)

end BayMap.Text
