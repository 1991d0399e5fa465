import BayMap.Bytes.Slice

/-!
# Numbers in byte strings

The value of a byte string with its lowest byte first (`ofLE`) or last (`ofBE`), and the `n` bytes
of a number in either order. Reading what was written gives the number back modulo its width
(`ofLE_le`), and writing what was read gives the bytes back (`le_ofLE`), also where they stand inside
a string (`of16_u16At`).
-/

namespace BayMap.Bytes

/-- The number whose lowest byte comes first. -/
def ofLE : Bytes → Nat
  | [] => 0
  | b :: rest => b.toNat + 256 * ofLE rest

/-- The lowest `width` bytes of a number, lowest first. -/
def le : (width : Nat) → Nat → Bytes
  | 0, _ => []
  | width + 1, n => n.toUInt8 :: le width (n / 256)

/-- The number whose highest byte comes first. -/
def ofBE (b : Bytes) : Nat := ofLE b.reverse

/-- The lowest `width` bytes of a number, highest first. -/
def be (width n : Nat) : Bytes := (le width n).reverse

@[simp] theorem length_le (width n : Nat) : (le width n).length = width := by
  induction width generalizing n with
  | zero => rfl
  | succ w ih => simp [le, ih]

@[simp] theorem length_be (width n : Nat) : (be width n).length = width := by simp [be]

theorem shiftLeft_width (width : Nat) : 1 <<< (8 * (width + 1)) = 256 * 1 <<< (8 * width) := by
  rw [Nat.mul_succ, Nat.shiftLeft_add, Nat.shiftLeft_eq _ 8]
  exact Nat.mul_comm _ 256

theorem ofLE_lt (b : Bytes) : ofLE b < 1 <<< (8 * b.length) := by
  induction b with
  | nil => simp [ofLE]
  | cons x rest ih =>
    have := x.toNat_lt
    simp only [ofLE, List.length_cons, shiftLeft_width]
    omega

theorem ofLE_le (width n : Nat) : ofLE (le width n) = n % 1 <<< (8 * width) := by
  induction width generalizing n with
  | zero => exact (Nat.mod_one n).symm
  | succ w ih =>
    have h : n.toUInt8.toNat = n % 256 := by simp
    rw [le, ofLE, ih, h, shiftLeft_width, Nat.mod_mul]

theorem le_ofLE (b : Bytes) : le b.length (ofLE b) = b := by
  induction b with
  | nil => rfl
  | cons x rest ih =>
    have hx := x.toNat_lt
    have hd : (x.toNat + 256 * ofLE rest) / 256 = ofLE rest := by omega
    have hm : (x.toNat + 256 * ofLE rest).toUInt8 = x := by
      apply UInt8.toNat_inj.mp
      simp [Nat.toUInt8]
    simp [le, ofLE, hd, hm, ih]

theorem ofLE_zeros (n : Nat) : ofLE (List.replicate n 0) = 0 := by
  induction n with
  | zero => rfl
  | succ n ih => simp [List.replicate_succ, ofLE, ih]

/-- Zeros at its end do not change a number whose lowest byte comes first. -/
theorem ofLE_append_zeros (b : Bytes) (n : Nat) : ofLE (b ++ List.replicate n 0) = ofLE b := by
  induction b with
  | nil => exact ofLE_zeros n
  | cons x rest ih => rw [List.cons_append, ofLE, ih, ofLE]

theorem ofLE_fit (b : Bytes) {n : Nat} (h : b.length ≤ n) : ofLE (b.fit n) = ofLE b := by
  rw [fit, List.take_of_length_le h, ofLE_append_zeros]

/-! ## Fields of a record -/

/-- The byte at an offset. -/
def u8At (b : Bytes) (offset : Nat) : UInt8 := b.byteAt offset

/-- The little-endian 16-bit number at an offset. -/
def u16At (b : Bytes) (offset : Nat) : UInt16 := .ofNat (ofLE (b.slice offset 2))

/-- A number inside a buffer is that of what was written to it. -/
theorem u16At_fit (b : Bytes) {offset n : Nat} (h : offset + 2 ≤ n) :
    (b.fit n).u16At offset = b.u16At offset := by
  unfold u16At
  rw [slice_fit b h, ofLE_fit]
  exact List.length_take_le _ _

/-- The little-endian 32-bit number at an offset. -/
def u32At (b : Bytes) (offset : Nat) : UInt32 := .ofNat (ofLE (b.slice offset 4))

theorem u32At_fit (b : Bytes) {offset n : Nat} (h : offset + 4 ≤ n) :
    (b.fit n).u32At offset = b.u32At offset := by
  unfold u32At
  rw [slice_fit b h, ofLE_fit]
  exact List.length_take_le _ _

/-- The little-endian 64-bit number at an offset. -/
def u64At (b : Bytes) (offset : Nat) : UInt64 := .ofNat (ofLE (b.slice offset 8))

/-! A field behind other fields is the one at its place among those that follow. -/

section
variable {a : Bytes} {offset : Nat} (b : Bytes) (h : a.length ≤ offset)
include h

@[simp] theorem u8At_append_right : u8At (a ++ b) offset = b.u8At (offset - a.length) := by
  simp only [u8At, byteAt, List.getD_eq_getElem?_getD, List.getElem?_append_right h]

@[simp] theorem u16At_append_right : u16At (a ++ b) offset = b.u16At (offset - a.length) := by
  rw [u16At, slice_append_right a b 2 h, u16At]

@[simp] theorem u32At_append_right : u32At (a ++ b) offset = b.u32At (offset - a.length) := by
  rw [u32At, slice_append_right a b 4 h, u32At]

@[simp] theorem u64At_append_right : u64At (a ++ b) offset = b.u64At (offset - a.length) := by
  rw [u64At, slice_append_right a b 8 h, u64At]

end

section
variable (x : UInt8) (b : Bytes) {offset : Nat} (h : 0 < offset)
include h

@[simp] theorem u8At_cons : u8At (x :: b) offset = b.u8At (offset - 1) :=
  u8At_append_right (a := [x]) b h

@[simp] theorem u16At_cons : u16At (x :: b) offset = b.u16At (offset - 1) :=
  u16At_append_right (a := [x]) b h

@[simp] theorem u32At_cons : u32At (x :: b) offset = b.u32At (offset - 1) :=
  u32At_append_right (a := [x]) b h

@[simp] theorem u64At_cons : u64At (x :: b) offset = b.u64At (offset - 1) :=
  u64At_append_right (a := [x]) b h

@[simp] theorem block_cons (n : Nat) : block (x :: b) offset n = b.block (offset - 1) n :=
  block_append_right (a := [x]) b h n

end

/-- The big-endian 64-bit number at an offset, its missing bytes zero. -/
def beU64At (b : Bytes) (offset : Nat) : UInt64 := .ofNat (ofBE (fit (b.slice offset 8) 8))

/-- A big-endian number, byte by byte. -/
theorem beU64At_eq (b : Bytes) (offset : Nat) :
    b.beU64At offset = .ofNat (ofBE ((List.range 8).map fun i => b.byteAt (offset + i))) := by
  rw [beU64At, fit_eq_map]
  refine congrArg (fun bytes => UInt64.ofNat (ofBE bytes)) (List.map_congr_left fun i hi => ?_)
  exact byteAt_slice b (List.mem_range.1 hi)

/-- The two bytes of a 16-bit number, lowest first. -/
def of16 (x : UInt16) : Bytes := le 2 x.toNat

/-- The four bytes of a 32-bit number, lowest first. -/
def of32 (x : UInt32) : Bytes := le 4 x.toNat

/-- The eight bytes of a 64-bit number, lowest first. -/
def of64 (x : UInt64) : Bytes := le 8 x.toNat

@[simp] theorem length_of16 (x : UInt16) : (of16 x).length = 2 := length_le ..
@[simp] theorem length_of32 (x : UInt32) : (of32 x).length = 4 := length_le ..
@[simp] theorem length_of64 (x : UInt64) : (of64 x).length = 8 := length_le ..

@[simp] theorem u8At_cons_zero (x : UInt8) (b : Bytes) : u8At (x :: b) 0 = x := rfl

@[simp] theorem u16At_of16 (x : UInt16) (b : Bytes) : u16At (of16 x ++ b) 0 = x := by
  rw [u16At, slice_append_left (length_of16 x), of16, ofLE_le]
  exact UInt16.toNat_inj.1 (by simp)

/-- A number is read back from its bytes, modulo its width. -/
theorem u32At_le (n : Nat) (b : Bytes) : u32At (le 4 n ++ b) 0 = .ofNat n := by
  rw [u32At, slice_append_left (length_le 4 n), ofLE_le]
  exact UInt32.toNat_inj.1 (by simp)

@[simp] theorem u32At_of32 (x : UInt32) (b : Bytes) : u32At (of32 x ++ b) 0 = x := by
  rw [of32, u32At_le, UInt32.ofNat_toNat]

@[simp] theorem u64At_of64 (x : UInt64) (b : Bytes) : u64At (of64 x ++ b) 0 = x := by
  rw [u64At, slice_append_left (length_of64 x), of64, ofLE_le]
  exact UInt64.toNat_inj.1 (by simp)

/-! A field that was read is written as the bytes it was read from, if none of them is missing. -/

section
variable {b : Bytes} {offset : Nat}

theorem ofLE_slice_lt (b : Bytes) (offset n : Nat) : ofLE (b.slice offset n) < 1 <<< (8 * n) := by
  refine Nat.lt_of_lt_of_le (ofLE_lt _) ?_
  rw [Nat.one_shiftLeft, Nat.one_shiftLeft, length_slice]
  exact Nat.pow_le_pow_right (by decide) (Nat.mul_le_mul_left 8 (Nat.min_le_left ..))

theorem le_ofLE_slice {n : Nat} (h : offset + n ≤ b.length) :
    le n (ofLE (b.slice offset n)) = b.slice offset n := by
  have hn : (b.slice offset n).length = n := by
    rw [length_slice]
    omega
  have hle := le_ofLE (b.slice offset n)
  rwa [hn] at hle

theorem singleton_u8At (h : offset + 1 ≤ b.length) : [b.u8At offset] = b.slice offset 1 := by
  rw [u8At, byteAt, slice, List.getD_eq_getElem?_getD, List.getElem?_eq_getElem h,
    List.drop_eq_getElem_cons h]
  rfl

theorem of16_u16At (h : offset + 2 ≤ b.length) : of16 (b.u16At offset) = b.slice offset 2 := by
  rw [of16, u16At, UInt16.toNat_ofNat_of_lt' (ofLE_slice_lt b offset 2), le_ofLE_slice h]

theorem of32_u32At (h : offset + 4 ≤ b.length) : of32 (b.u32At offset) = b.slice offset 4 := by
  rw [of32, u32At, UInt32.toNat_ofNat_of_lt' (ofLE_slice_lt b offset 4), le_ofLE_slice h]

theorem of64_u64At (h : offset + 8 ≤ b.length) : of64 (b.u64At offset) = b.slice offset 8 := by
  rw [of64, u64At, UInt64.toNat_ofNat_of_lt' (ofLE_slice_lt b offset 8), le_ofLE_slice h]

end

end BayMap.Bytes
