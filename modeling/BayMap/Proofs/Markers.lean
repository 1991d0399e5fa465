import BayMap.Proofs.Numerals
import BayMap.Topology.Placement

/-!
# The bay that a marker names

A marker ends in the number of its bay: two digits of base sixteen, in either case, that count from
one. What stands before them does not matter. The number is read as any other numeral, and those may
have a sign, so a plus sign is taken where the first of the two digits should be. No other ending
names a bay.

* `digitValue_sixteen_iff`: the digits of base sixteen.
* `readUInt64_pair_iff`: which two bytes are a number.
* `markerSlot_eq_ok_iff`, `markerSlot_eq_error_iff`: which marker names which slot.
* `marker_names_slot_iff`: all of this, and when the two digits alone decide.
-/

namespace BayMap.Text

/-- The digits of base sixteen, in either case. -/
def IsHexDigit (c : Char) (d : Nat) : Prop :=
  d < 16 ∧ (c = Nat.digitChar d ∨ c = (Nat.digitChar d).toUpper)

variable {c high low : Char} {d : Nat}

theorem digitValue_sixteen_iff : digitValue 16 c = some d ↔ IsHexDigit c d := by
  constructor
  · intro h
    have hascii : ∀ k < 128, ∀ d < 16, digitValue 16 (Char.ofNat k) = some d →
        Char.ofNat k = Nat.digitChar d ∨ Char.ofNat k = (Nat.digitChar d).toUpper := by
      decide +kernel
    have hc := (toNat_of_digit (Option.isSome_iff_exists.2 ⟨d, h⟩)).2
    have hd := digitValue_lt h
    rw [← Char.ofNat_toNat c] at h
    have hspelled := hascii c.toNat (by omega) d hd h
    rw [Char.ofNat_toNat] at hspelled
    exact ⟨hd, hspelled⟩
  · rintro ⟨hd, rfl | rfl⟩
    · exact digitValue_digitChar hd (by decide)
    · have hupper : ∀ d < 16, digitValue 16 (Nat.digitChar d).toUpper = some d := by decide
      exact hupper d hd

theorem not_isHexDigit_plus : ¬ IsHexDigit '+' d := by
  rw [← digitValue_sixteen_iff]
  exact nofun

theorem isDigits_pair_iff :
    IsDigits 16 [high, low] ↔ (∃ x, IsHexDigit high x) ∧ ∃ y, IsHexDigit low y := by
  simp [Option.isSome_iff_exists, digitValue_sixteen_iff]

theorem value_pair {x y : Nat} (hx : IsHexDigit high x) (hy : IsHexDigit low y) :
    value 16 [high, low] = 16 * x + y := by
  simp [value, valueFrom, digitValue_sixteen_iff.2 hx, digitValue_sixteen_iff.2 hy]

theorem value_digit (h : IsHexDigit low d) : value 16 [low] = d := by
  simp [value, valueFrom, digitValue_sixteen_iff.2 h]

/-- Two bytes are a number if they are two digits, or a plus sign and a digit. -/
theorem readUInt64_pair_iff {text : List Char} (h : utf8Length text = 2) {n : UInt64} :
    readUInt64 16 text = .ok n ↔
      ∃ high low, text = [high, low] ∧
        ((∃ x y, IsHexDigit high x ∧ IsHexDigit low y ∧ 16 * x + y = n.toNat) ∨
          high = '+' ∧ IsHexDigit low n.toNat) := by
  rw [readUInt64_eq_ok_iff, readNumeral_eq_ok_iff covers_unsigned]
  constructor
  · rintro ⟨sign, side, digits, hsign, rfl, hne, hd, -, hn⟩
    rw [utf8Length_append, utf8Length_of_isDigits hd] at h
    cases hsign with
    | none =>
      obtain ⟨high, low, rfl⟩ := List.length_eq_two.1 ((Nat.zero_add _).symm.trans h)
      obtain ⟨⟨x, hx⟩, y, hy⟩ := isDigits_pair_iff.1 hd
      rw [value_pair hx hy] at hn
      exact ⟨high, low, rfl, .inl ⟨x, y, hx, hy, by omega⟩⟩
    | plus =>
      obtain ⟨low, rfl⟩ := List.length_eq_one_iff.1 (Nat.add_left_cancel h)
      obtain ⟨d, hlow⟩ := Option.isSome_iff_exists.1 (isDigits_cons.1 hd).1
      rw [digitValue_sixteen_iff] at hlow
      rw [value_digit hlow] at hn
      obtain rfl : d = n.toNat := by omega
      exact ⟨'+', low, rfl, .inr ⟨rfl, hlow⟩⟩
    | minus below => exact absurd below (by decide)
  · rintro ⟨high, low, rfl, ⟨x, y, hx, hy, hn⟩ | ⟨rfl, hlow⟩⟩
    · have hd : IsDigits 16 [high, low] := isDigits_pair_iff.2 ⟨⟨x, hx⟩, y, hy⟩
      have hv : (n.toNat : Int) = 1 * value 16 [high, low] := by
        rw [value_pair hx hy, hn, Int.one_mul]
      exact ⟨[], 1, [high, low], .none, rfl, by simp, hd, hv ▸ covers_toNat n, hv⟩
    · have hd : IsDigits 16 [low] := by simp [digitValue_sixteen_iff.2 hlow]
      have hv : (n.toNat : Int) = 1 * value 16 [low] := by rw [value_digit hlow, Int.one_mul]
      exact ⟨['+'], 1, [low], .plus, rfl, by simp, hd, hv ▸ covers_toNat n, hv⟩

end BayMap.Text

namespace BayMap.Topology

open Text (IsHexDigit lastBytes readUInt64)

variable {text : List Char} {name : String} {slot : Nat}

/-- The last two characters are digits of base sixteen that count the slot from one. -/
def EndsInBay (text : List Char) (slot : Nat) : Prop :=
  ∃ stem high low x y, text = stem ++ [high, low] ∧ IsHexDigit high x ∧ IsHexDigit low y ∧
    16 * x + y = slot + 1

/-- The last two characters are a plus sign and a digit of base sixteen that counts the slot from
one. -/
def EndsInSign (text : List Char) (slot : Nat) : Prop :=
  ∃ stem low, text = stem ++ ['+', low] ∧ IsHexDigit low (slot + 1)

/-- No text ends in both. -/
theorem not_endsInBay_of_endsInSign (h : EndsInSign text slot) (other : Nat) :
    ¬ EndsInBay text other := by
  obtain ⟨stem, low, rfl, -⟩ := h
  rintro ⟨stem', high, low', x, y, htext, hx, -⟩
  obtain ⟨-, hpair⟩ := List.append_inj' htext rfl
  obtain rfl : '+' = high := by simpa using congrArg List.head? hpair
  exact Text.not_isHexDigit_plus hx

theorem markerSlot_eq_ok_iff_read :
    markerSlot name = .ok slot ↔
      ∃ tail bay, lastBytes 2 name.toList = some tail ∧ readUInt64 16 tail = .ok bay ∧
        bay.toNat = slot + 1 := by
  unfold markerSlot
  rcases hl : lastBytes 2 name.toList with _ | tail
  · simp
  · rcases hr : readUInt64 16 tail with e | bay
    · simp [hr, Except.toOption]
    · have h0 : bay = 0 ↔ bay.toNat = 0 := UInt64.toNat_inj.symm
      simp only [Option.bind_some, hr, Except.toOption, h0, Option.some.injEq, exists_and_left,
        exists_eq_left', Except.ok.injEq]
      split
      · simp; omega
      · simp; omega

theorem markerSlot_eq_ok_iff :
    markerSlot name = .ok slot ↔ EndsInBay name.toList slot ∨ EndsInSign name.toList slot := by
  rw [markerSlot_eq_ok_iff_read]
  constructor
  · rintro ⟨tail, bay, htail, hread, hbay⟩
    obtain ⟨⟨stem, hstem⟩, hlength⟩ := Text.lastBytes_eq_some_iff.1 htail
    obtain ⟨high, low, rfl, ⟨x, y, hx, hy, hn⟩ | ⟨rfl, hlow⟩⟩ :=
      (Text.readUInt64_pair_iff hlength).1 hread
    · exact .inl ⟨stem, high, low, x, y, hstem.symm, hx, hy, hn.trans hbay⟩
    · exact .inr ⟨stem, low, hstem.symm, hbay ▸ hlow⟩
  · have htoNat : ∀ n < 256, (UInt64.ofNat n).toNat = n := fun n hn =>
      UInt64.toNat_ofNat_of_lt' (Nat.lt_trans hn (by decide))
    rintro (⟨stem, high, low, x, y, htext, hx, hy, hn⟩ | ⟨stem, low, htext, hlow⟩)
    · have hx16 := hx.1
      have hy16 := hy.1
      have hbay := htoNat (slot + 1) (by omega)
      have hlength : Text.utf8Length [high, low] = 2 :=
        Text.utf8Length_of_isDigits (Text.isDigits_pair_iff.2 ⟨⟨x, hx⟩, y, hy⟩)
      refine ⟨[high, low], .ofNat (slot + 1), ?_, ?_, hbay⟩
      · rw [htext, Text.lastBytes_append hlength]
      · exact (Text.readUInt64_pair_iff hlength).2
          ⟨high, low, rfl, .inl ⟨x, y, hx, hy, hn.trans hbay.symm⟩⟩
    · have hbay := htoNat (slot + 1) (Nat.lt_trans hlow.1 (by decide))
      have hdigit : Text.IsDigits 16 [low] := by simp [Text.digitValue_sixteen_iff.2 hlow]
      have hlength : Text.utf8Length ['+', low] = 2 := by
        rw [Text.utf8Length, Text.utf8Length_of_isDigits hdigit]
        rfl
      refine ⟨['+', low], .ofNat (slot + 1), ?_, ?_, hbay⟩
      · rw [htext, Text.lastBytes_append hlength]
      · exact (Text.readUInt64_pair_iff hlength).2
          ⟨'+', low, rfl, .inr ⟨rfl, hbay.symm ▸ hlow⟩⟩

/-- A marker that names no slot is an invalid one. -/
theorem markerSlot_eq_error_iff {e : PlacementError} :
    markerSlot name = .error e ↔
      e = .invalidMarker name ∧
        ∀ slot, ¬ EndsInBay name.toList slot ∧ ¬ EndsInSign name.toList slot := by
  have hcause : ∀ e, markerSlot name = .error e → e = .invalidMarker name := by
    intro e h
    unfold markerSlot at h
    split at h
    · split at h
      · exact (Except.error.inj h).symm
      · cases h
    · exact (Except.error.inj h).symm
  simp only [← not_or, ← markerSlot_eq_ok_iff]
  rcases hm : markerSlot name with cause | slot
  · obtain rfl := hcause cause hm
    simp [eq_comm]
  · simp

/-- A marker names a slot exactly if it ends in two digits of base sixteen that count the slot from
one, or in a plus sign and one such digit; any other marker is invalid, and the error tells its name.
So the two digits alone decide, unless the marker ends in a plus sign and a digit. -/
theorem marker_names_slot_iff (name : String) :
    (∀ slot, markerSlot name = .ok slot ↔
      EndsInBay name.toList slot ∨ EndsInSign name.toList slot) ∧
    (∀ e, markerSlot name = .error e ↔
      e = .invalidMarker name ∧
        ∀ slot, ¬ EndsInBay name.toList slot ∧ ¬ EndsInSign name.toList slot) ∧
    ((∀ slot, markerSlot name = .ok slot ↔ EndsInBay name.toList slot) ↔
      ∀ slot, ¬ EndsInSign name.toList slot) := by
  refine ⟨fun slot => markerSlot_eq_ok_iff, fun e => markerSlot_eq_error_iff, ?_⟩
  simp only [markerSlot_eq_ok_iff]
  constructor
  · intro h slot hsign
    exact not_endsInBay_of_endsInSign hsign slot ((h slot).1 (.inr hsign))
  · intro h slot
    exact or_iff_left (h slot)

/-- The plus sign stands where a digit should, and the marker names a slot all the same. -/
theorem slot_of_plus_and_digit :
    markerSlot "enclosure_device:ArrayDevice+5" = .ok 4 ∧
      ¬ ∃ slot, EndsInBay "enclosure_device:ArrayDevice+5".toList slot := by
  have hsign : EndsInSign "enclosure_device:ArrayDevice+5".toList 4 :=
    ⟨"enclosure_device:ArrayDevice".toList, '5', by decide +kernel, by decide, .inl rfl⟩
  refine ⟨markerSlot_eq_ok_iff.2 (.inr hsign), ?_⟩
  rintro ⟨slot, hbay⟩
  exact not_endsInBay_of_endsInSign hsign slot hbay

end BayMap.Topology
