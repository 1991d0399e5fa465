import BayMap.Bytes.Endian

/-!
# Packed records

A packed record has a fixed size, and each of its fields lies at a fixed offset with its lowest
byte first. Reserved fields are fields too, so a record that was read writes back the same bytes
(`CompletePacked`). The other way round, a record that was written is read back (`LawfulPacked`).
-/

namespace BayMap

/-- A record with a fixed layout in bytes. -/
class Packed (α : Type) where
  /-- The bytes of the record. -/
  size : Nat
  /-- The record at the start of a byte string, bytes past its end being zero. -/
  decode : Bytes → α
  /-- The bytes of a record. -/
  encode : α → Bytes

/-- The record that a byte string of exactly its size holds. -/
def Packed.read? (α : Type) [Packed α] (b : Bytes) : Option α :=
  if b.length = Packed.size α then some (Packed.decode b) else none

/-- A block of bytes is a record of its size. -/
instance (n : Nat) : Packed (Vector UInt8 n) where
  size := n
  decode b := b.block 0 n
  encode x := x.toList

/-- A record whose bytes are as many as its size, and read back as the record. -/
class LawfulPacked (α : Type) [Packed α] : Prop where
  length_encode (x : α) : (Packed.encode x).length = Packed.size α
  decode_encode (x : α) (rest : Bytes) : Packed.decode (Packed.encode x ++ rest) = x

/-- A record that was read from as many bytes as its size is written as the same bytes. -/
class CompletePacked (α : Type) [Packed α] : Prop where
  encode_decode {b : Bytes} (h : b.length = Packed.size α) :
    Packed.encode (Packed.decode b : α) = b

theorem Packed.read?_encode {α : Type} [Packed α] [LawfulPacked α] (x : α) :
    Packed.read? α (Packed.encode x) = some x := by
  have h := LawfulPacked.decode_encode x []
  rw [List.append_nil] at h
  rw [Packed.read?, if_pos (LawfulPacked.length_encode x), h]

end BayMap
