import BayMap.Bytes.Slice

/-!
# Zeroed buffers

A buffer is zeroed before it is handed out, and then what comes in is written to its start. It is
kept as what its start holds and its size, so a large buffer costs no more than what came in.

* `toList_write`: what is written replaces the start of the view `toList`, as far as it fits.
* `take_eq`: the first bytes are those of the view.
-/

namespace BayMap

/-- A buffer whose bytes are zero past what its start holds. -/
structure Zeroed where
  /-- What the start holds, of which the bytes past the end do not count. -/
  start : Bytes
  /-- The size in bytes. -/
  size : Nat
  deriving DecidableEq, Repr

namespace Zeroed

/-- A buffer of zero bytes. -/
def empty (size : Nat) : Zeroed := ⟨[], size⟩

/-- All bytes of the buffer. -/
def toList (z : Zeroed) : Bytes := z.start.fit z.size

/-- The first `n` bytes, fewer where the buffer ends first. -/
def take (z : Zeroed) (n : Nat) : Bytes := z.start.fit (min n z.size)

/-- The buffer once `b` was written to its start, as far as it fits. -/
def write (z : Zeroed) (b : Bytes) : Zeroed :=
  { z with start := b.take z.size ++ z.start.drop b.length }

@[simp] theorem length_toList (z : Zeroed) : z.toList.length = z.size := by simp [toList]

@[simp] theorem size_write (z : Zeroed) (b : Bytes) : (z.write b).size = z.size := rfl

theorem toList_empty (n : Nat) : (empty n).toList = List.replicate n 0 := by
  simp [empty, toList, Bytes.fit]

theorem take_eq (z : Zeroed) (n : Nat) : z.take n = z.toList.take n := by
  simp only [take, toList, Bytes.fit, List.take_append, List.take_take, List.length_take,
    List.take_replicate]
  congr 2
  omega

theorem toList_write (z : Zeroed) (b : Bytes) :
    (z.write b).toList = b.take z.size ++ z.toList.drop b.length := by
  simp only [write, toList, Bytes.fit, List.take_append, List.take_take, List.drop_append,
    List.drop_take, List.length_append, List.length_take, List.length_drop, List.drop_replicate,
    Nat.min_self, List.append_assoc]
  congr 2
  · congr 1
    omega
  · congr 1
    omega

/-- A buffer of zero bytes holds what was written to it, cut or filled up to its size. -/
theorem toList_write_empty (n : Nat) (b : Bytes) : ((empty n).write b).toList = b.fit n := by
  rw [toList_write, toList_empty, List.drop_replicate]
  rfl

end Zeroed

end BayMap
