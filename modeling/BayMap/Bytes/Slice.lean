/-!
# Byte strings

A byte string is a list of bytes. Every reader here is total: bytes past the end of a string read
as zero, as they would in a larger buffer that was zeroed first.

* `slice_append`: neighbouring slices join up.
* `slice_append_left`, `slice_append_right`: a string that stands behind others is found there.
* `length_fit`: a buffer keeps its size whatever is written to it.
-/

namespace BayMap

/-- A byte string. -/
abbrev Bytes := List UInt8

namespace Bytes

/-- The `n` bytes from `offset` on, fewer where `b` ends first. -/
def slice (b : Bytes) (offset n : Nat) : Bytes := (b.drop offset).take n

/-- The byte at `offset`, zero past the end. -/
def byteAt (b : Bytes) (offset : Nat) : UInt8 := b.getD offset 0

/-- What a zeroed buffer of `n` bytes holds once `b` was written to its start. -/
def fit (b : Bytes) (n : Nat) : Bytes := b.take n ++ List.replicate (n - b.length) 0

@[simp] theorem length_slice (b : Bytes) (offset n : Nat) :
    (slice b offset n).length = min n (b.length - offset) := by
  simp [slice]

@[simp] theorem length_fit (b : Bytes) (n : Nat) : (fit b n).length = n := by
  simp [fit]; omega

/-- A string of the buffer's size fills the buffer. -/
theorem fit_of_length {b : Bytes} {n : Nat} (h : b.length = n) : fit b n = b := by
  simp [fit, ← h]

/-- A buffer, byte by byte. -/
theorem fit_eq_map (b : Bytes) (n : Nat) : fit b n = (List.range n).map b.byteAt := by
  refine List.ext_getElem (by simp) fun i hi _ => ?_
  have hin : i < n := by simpa using hi
  by_cases hb : i < b.length
  · have hm : i < min n b.length := Nat.lt_min.2 ⟨hin, hb⟩
    simp [fit, byteAt, hb, hm]
  · have hm : ¬i < min n b.length := fun h => hb (Nat.lt_min.1 h).2
    simp [fit, byteAt, List.getElem_append, hb, hm]

theorem byteAt_slice (b : Bytes) {offset n i : Nat} (h : i < n) :
    (b.slice offset n).byteAt i = b.byteAt (offset + i) := by
  simp [byteAt, slice, h]

/-- What is written to a buffer stands at its start. -/
theorem isPrefix_fit {a b : Bytes} (h : a <+: b) {n : Nat} (hn : a.length ≤ n) : a <+: b.fit n := by
  obtain ⟨rest, rfl⟩ := h
  rw [fit, List.take_append, List.take_of_length_le hn, List.append_assoc]
  exact List.prefix_append _ _

/-- A slice inside a buffer is that of what was written to it, filled up with zeros. -/
theorem slice_fit (b : Bytes) {offset m n : Nat} (h : offset + m ≤ n) :
    (b.fit n).slice offset m = (b.slice offset m).fit m := by
  simp only [slice, fit, List.drop_append, List.take_append, List.drop_take, List.take_take,
    List.length_take, List.length_drop, List.drop_replicate, List.take_replicate]
  congr 2
  · omega
  · omega

/-- What is written to a buffer of two parts stands in the first, and goes on in the second. -/
theorem take_fit_add (b : Bytes) (m n : Nat) : (b.fit (m + n)).take m = fit (b.take m) m := by
  simp only [fit, List.take_append, List.take_take, List.length_take, List.take_replicate]
  congr 2
  · omega
  · omega

theorem drop_fit_add (b : Bytes) (m n : Nat) : (b.fit (m + n)).drop m = fit (b.drop m) n := by
  simp only [fit, List.drop_append, List.drop_take, List.length_take, List.drop_replicate,
    List.length_drop]
  congr 2
  · omega
  · omega

/-- What does not fit a buffer is not written to it. -/
theorem fit_take (b : Bytes) (n : Nat) : fit (b.take n) n = b.fit n := by
  simp only [fit, List.take_take, List.length_take, Nat.min_self]
  congr 2
  omega

/-- A slice past the end of the first of two strings is one of the second. -/
theorem slice_append_right (a b : Bytes) {offset : Nat} (n : Nat) (h : a.length ≤ offset) :
    (a ++ b).slice offset n = b.slice (offset - a.length) n := by
  rw [slice, List.drop_append, List.drop_of_length_le h, List.nil_append, slice]

theorem slice_append_left {a : Bytes} {n : Nat} (h : a.length = n) (b : Bytes) :
    (a ++ b).slice 0 n = a := by
  have hn : n ≤ a.length := Nat.le_of_eq h.symm
  rw [slice, List.drop_zero, List.take_append_of_le_length hn]
  exact List.take_of_length_le (Nat.le_of_eq h)

theorem slice_zero_length (b : Bytes) : slice b 0 b.length = b := by simp [slice]

/-- Neighbouring slices join up. -/
theorem slice_append (b : Bytes) {offset m next : Nat} (n : Nat) (h : offset + m = next) :
    slice b offset m ++ slice b next n = slice b offset (m + n) := by
  rw [← h, slice, slice, slice, ← List.drop_drop, List.take_add]

/-- Bytes as a block of fixed size. -/
def block (b : Bytes) (offset n : Nat) : Vector UInt8 n :=
  ⟨(fit (slice b offset n) n).toArray, by simp⟩

theorem toList_block (b : Bytes) (offset n : Nat) :
    (block b offset n).toList = fit (slice b offset n) n := rfl

/-- A block none of whose bytes is missing is a slice. -/
theorem toList_block_of_le {b : Bytes} {offset n : Nat} (h : offset + n ≤ b.length) :
    (block b offset n).toList = slice b offset n := by
  refine fit_of_length ?_
  rw [length_slice]
  omega

@[simp] theorem block_append_right {a : Bytes} {offset : Nat} (b : Bytes) (h : a.length ≤ offset)
    (n : Nat) : block (a ++ b) offset n = b.block (offset - a.length) n := by
  simp only [block, slice_append_right a b n h]

@[simp] theorem block_toList {n : Nat} (x : Vector UInt8 n) (b : Bytes) :
    block (x.toList ++ b) 0 n = x := by
  apply Vector.toList_inj.1
  rw [toList_block, slice_append_left x.length_toList, fit_of_length x.length_toList]

end Bytes

/-- A block of `n` zero bytes. -/
def zeros (n : Nat) : Vector UInt8 n := Vector.replicate n 0

end BayMap
