import BayMap.Proofs.Numerals
import BayMap.Text.Blank
import BayMap.Text.Dump
import Mathlib.Data.List.Forall2
import Mathlib.Data.List.TakeWhile

/-!
# Reading hex dumps

A line of a dump says where its bytes stand, which bytes these are and how they are shown. The
offset ends at the first colon, however many digits it has; what follows stands in columns of fixed
width, so that no character that is shown can be mistaken for a mark between them.

* `readBytes_bytesHex`: bytes are read back from their digits.
* `length_dumpRows`, `flatten_dumpRows`, `eq_of_getElem?_dumpRows`: the bytes in rows.
* `ofLine?_dumpLine`: what a line says.
* `dump_reads_back`: what a whole dump says.
-/

namespace BayMap.Text

variable {b row : Bytes} {i : Nat}

/-! ## Bytes in base sixteen -/

/-- The bytes whose digits a text has, two digits each. -/
def readBytes : List Char → Option Bytes
  | [] => some []
  | [_] => none
  | high :: low :: rest =>
    match digitValue 16 high, digitValue 16 low with
    | some x, some y => (readBytes rest).map (.ofNat (16 * x + y) :: ·)
    | _, _ => none

theorem byteHex_eq (byte : UInt8) :
    byteHex byte = [Nat.digitChar (byte.toNat / 16), Nat.digitChar (byte.toNat % 16)] := by
  have hbyte := byte.toNat_lt
  rw [byteHex, digits, Nat.toDigits_eq_if (by decide)]
  split
  · rename_i h
    rw [Nat.div_eq_of_lt h, Nat.mod_eq_of_lt h]
    rfl
  · rw [Nat.toDigits_of_lt_base (by omega)]
    rfl

/-- Bytes are read back from their digits. -/
theorem readBytes_bytesHex (b : Bytes) : readBytes (bytesHex b) = some b := by
  induction b with
  | nil => rfl
  | cons byte rest ih =>
    have hbyte := byte.toNat_lt
    have hhigh : digitValue 16 (Nat.digitChar (byte.toNat / 16)) = some (byte.toNat / 16) :=
      digitValue_digitChar (by omega) (by decide)
    have hlow : digitValue 16 (Nat.digitChar (byte.toNat % 16)) = some (byte.toNat % 16) :=
      digitValue_digitChar (by omega) (by decide)
    have hcons : bytesHex (byte :: rest) =
        Nat.digitChar (byte.toNat / 16) :: Nat.digitChar (byte.toNat % 16) :: bytesHex rest := by
      simp [bytesHex, byteHex_eq]
    simp only [hcons, readBytes, hhigh, hlow, ih, Option.map_some, Nat.div_add_mod,
      UInt8.ofNat_toNat]

theorem length_bytesHex (b : Bytes) : (bytesHex b).length = 2 * b.length := by
  simp [bytesHex, byteHex_eq, List.length_flatMap, Nat.mul_comm]

theorem isDigits_bytesHex (b : Bytes) : IsDigits 16 (bytesHex b) := by
  intro c hc
  obtain ⟨byte, -, hbyte⟩ := List.mem_flatMap.1 hc
  exact isDigits_zeroPad (by decide) (isDigits_digits (by decide) (by decide) _).1 c hbyte

/-! ## Rows -/

theorem length_dumpRows (b : Bytes) : (dumpRows b).length = (b.length + 15) / 16 := by
  induction b using dumpRows.induct with
  | case1 => simp [dumpRows]
  | case2 byte rest ih =>
    rw [dumpRows, List.length_cons, ih, List.length_drop, List.length_cons]
    omega

theorem flatten_dumpRows (b : Bytes) : (dumpRows b).flatten = b := by
  induction b using dumpRows.induct with
  | case1 => simp [dumpRows]
  | case2 byte rest ih => rw [dumpRows, List.flatten_cons, ih, List.take_append_drop]

theorem eq_of_getElem?_dumpRows (h : (dumpRows b)[i]? = some row) :
    row = (b.drop (16 * i)).take 16 := by
  induction b using dumpRows.induct generalizing i with
  | case1 => simp [dumpRows] at h
  | case2 byte rest ih =>
    rw [dumpRows] at h
    cases i with
    | zero => exact (Option.some.inj h).symm
    | succ i =>
      rw [ih h, List.drop_drop, Nat.mul_succ, Nat.add_comm]

/-! ## Lines -/

/-- A printable byte of ASCII is shown as itself, and any other as a point. -/
inductive IsShownAs : UInt8 → Char → Prop
  | printable {byte : UInt8} {c : Char} (h : 0x20 ≤ byte ∧ byte ≤ 0x7e)
      (hc : c.toNat = byte.toNat) : IsShownAs byte c
  | point {byte : UInt8} (h : ¬ (0x20 ≤ byte ∧ byte ≤ 0x7e)) : IsShownAs byte '.'

theorem isShownAs_dumpChar (byte : UInt8) : IsShownAs byte (dumpChar byte) := by
  unfold dumpChar
  split
  · rename_i h
    have hbyte := byte.toNat_lt
    have hvalid : byte.toNat.isValidChar := .inl (by omega)
    exact .printable h (by rw [Char.ofNat, dif_pos hvalid]; rfl)
  · rename_i h
    exact .point h

/-- What a line of a dump says. -/
structure DumpEntry where
  /-- Where the bytes stand. -/
  offset : Nat
  /-- The bytes. -/
  bytes : Bytes
  /-- How they are shown. -/
  shown : List Char
  deriving DecidableEq, Repr

/-- Reads a line of a dump: an offset in base sixteen up to a colon, then after a blank a column of
32 characters for the digits of the bytes, and after two more what is shown between two bars. -/
def DumpEntry.ofLine? (line : List Char) : Option DumpEntry :=
  let offset := line.takeWhile (· ≠ ':')
  let columns := line.drop offset.length
  let shown := columns.drop 37
  if offset ≠ [] ∧ IsDigits 16 offset ∧ columns.take 2 = [':', ' '] ∧
      (columns.drop 34).take 3 = [' ', ' ', '|'] ∧ shown.getLast? = some '|' then
    (readBytes (dropEnd (· = ' ') ((columns.drop 2).take 32))).map
      fun bytes => ⟨value 16 offset, bytes, shown.dropLast⟩
  else none

theorem dropEnd_column {text : List Char} (width : Nat) (h : ' ' ∉ text) :
    dropEnd (· = ' ') (column width text) = text := by
  have hkept : text.reverse.dropWhile (· = ' ') = text.reverse := by
    rw [List.dropWhile_eq_self_iff]
    intro hl hblank
    exact h (List.mem_reverse.1 (of_decide_eq_true hblank ▸ List.getElem_mem hl))
  rw [column, dropEnd_append_of_all, dropEnd, hkept, List.reverse_reverse]
  intro c hc
  simp [List.eq_of_mem_replicate hc]

/-- An offset does not end before its colon, and the columns behind it have their places. -/
theorem ofLine?_of_columns {offset digits shown : List Char} {bytes : Bytes} (hne : offset ≠ [])
    (hoffset : IsDigits 16 offset) (hwidth : digits.length = 32)
    (hbytes : readBytes (dropEnd (· = ' ') digits) = some bytes) :
    DumpEntry.ofLine? (offset ++ [':', ' '] ++ digits ++ [' ', ' ', '|'] ++ shown ++ ['|']) =
      some ⟨value 16 offset, bytes, shown⟩ := by
  have hline : offset ++ [':', ' '] ++ digits ++ [' ', ' ', '|'] ++ shown ++ ['|'] =
      offset ++ ':' :: ' ' :: (digits ++ ' ' :: ' ' :: '|' :: (shown ++ ['|'])) := by
    simp
  generalize hrest : ':' :: ' ' :: (digits ++ ' ' :: ' ' :: '|' :: (shown ++ ['|'])) = rest at hline
  have htake : (offset ++ rest).takeWhile (· ≠ ':') = offset := by
    have hcolon : ∀ c ∈ offset, decide (c ≠ ':') := by
      rintro c hc
      rw [decide_eq_true_eq]
      rintro rfl
      exact not_mem_of_isDigits hoffset rfl hc
    rw [List.takeWhile_append_of_pos hcolon, ← hrest]
    simp
  have hdigits : (rest.drop 2).take 32 = digits := by
    rw [← hrest]
    exact List.take_left' hwidth
  have hbars : rest.drop 34 = ' ' :: ' ' :: '|' :: (shown ++ ['|']) := by
    rw [← hrest]
    exact List.drop_left' hwidth
  have hshown : rest.drop 37 = shown ++ ['|'] := by
    rw [show rest.drop 37 = (rest.drop 34).drop 3 by rw [List.drop_drop], hbars]
    rfl
  have hstart : rest.take 2 = [':', ' '] := by
    rw [← hrest]
    rfl
  rw [hline, DumpEntry.ofLine?]
  simp only [htake, List.drop_left, hstart, hdigits, hbars, hshown, hbytes]
  simp [hne, hoffset]

/-- A line says which row it is, the bytes of the row and how they are shown. -/
theorem ofLine?_dumpLine {n : Nat} (h : row.length ≤ 16) :
    DumpEntry.ofLine? (dumpLine n row) = some ⟨16 * n, row, row.map dumpChar⟩ := by
  obtain ⟨hdigits, hvalue⟩ : IsDigits 16 (digits 16 (n * 16)) ∧
      value 16 (digits 16 (n * 16)) = n * 16 := isDigits_digits (by decide) (by decide) _
  have hne : zeroPad 4 (digits 16 (n * 16)) ≠ [] := by
    rw [← List.length_pos_iff, length_zeroPad]
    omega
  have hwidth : (column 32 (bytesHex row)).length = 32 := by
    rw [length_column, length_bytesHex]
    omega
  have hblank : ' ' ∉ bytesHex row := not_mem_of_isDigits (isDigits_bytesHex row) rfl
  have hbytes : readBytes (dropEnd (· = ' ') (column 32 (bytesHex row))) = some row := by
    rw [dropEnd_column 32 hblank, readBytes_bytesHex]
  rw [dumpLine, ofLine?_of_columns hne (isDigits_zeroPad (by decide) hdigits) hwidth hbytes,
    value_zeroPad, hvalue, Nat.mul_comm]

/-! ## Dumps -/

/-- What the lines of a dump say. -/
def dumpEntries (b : Bytes) : List DumpEntry :=
  (dumpRows b).mapIdx fun n row => ⟨16 * n, row, row.map dumpChar⟩

theorem getElem?_dumpEntries {e : DumpEntry} (h : (dumpEntries b)[i]? = some e) :
    e = ⟨16 * i, (b.drop (16 * i)).take 16, ((b.drop (16 * i)).take 16).map dumpChar⟩ := by
  rw [dumpEntries, List.getElem?_mapIdx, Option.map_eq_some_iff] at h
  obtain ⟨row, hrow, rfl⟩ := h
  rw [eq_of_getElem?_dumpRows hrow]

theorem map_bytes_dumpEntries (b : Bytes) : (dumpEntries b).map (·.bytes) = dumpRows b := by
  refine List.ext_getElem? fun i => ?_
  rw [dumpEntries, List.getElem?_map, List.getElem?_mapIdx, Option.map_map]
  exact Option.map_id'

theorem map_ofLine?_dump (b : Bytes) :
    (dump b).map (DumpEntry.ofLine? ·.toList) = (dumpEntries b).map some := by
  refine List.ext_getElem? fun i => ?_
  rw [dump, dumpEntries, List.getElem?_map, List.getElem?_mapIdx, List.getElem?_map,
    List.getElem?_mapIdx]
  cases hrow : (dumpRows b)[i]? with
  | none => rfl
  | some row =>
    have hlength : row.length ≤ 16 := by
      rw [eq_of_getElem?_dumpRows hrow]
      exact List.length_take_le 16 _
    simp only [Option.map_some, String.toList_ofList, ofLine?_dumpLine hlength]

/-- A dump is read back. It has a line for every sixteen bytes, and one for the rest; each line says
the number of its first byte and has its part of the bytes, as many characters as these and each of
them its byte, or a point where that cannot be printed; and the parts of all lines in order are the
bytes. -/
theorem dump_reads_back (b : Bytes) :
    ∃ entries : List DumpEntry,
      (dump b).map (DumpEntry.ofLine? ·.toList) = entries.map some ∧
      (dump b).length = (b.length + 15) / 16 ∧
      entries.flatMap (·.bytes) = b ∧
      ∀ i e, entries[i]? = some e →
        e.offset = 16 * i ∧ e.bytes = (b.drop (16 * i)).take 16 ∧
          List.Forall₂ IsShownAs e.bytes e.shown := by
  refine ⟨dumpEntries b, map_ofLine?_dump b, ?_, ?_, ?_⟩
  · rw [dump, List.length_mapIdx, length_dumpRows]
  · rw [List.flatMap_def, map_bytes_dumpEntries, flatten_dumpRows]
  · intro i e he
    rw [getElem?_dumpEntries he]
    refine ⟨rfl, rfl, ?_⟩
    rw [List.forall₂_map_right_iff, List.forall₂_same]
    exact fun byte _ => isShownAs_dumpChar byte

example : dump [0x41, 0, 0, 6, 0x53, 0x41, 0x53] =
    ["0000: 41000006534153                    |A...SAS|"] := by cbv

end BayMap.Text
