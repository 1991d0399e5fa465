import BayMap.Text.Numeral
import BayMap.Text.Part
import Mathlib.Data.List.Basic
import Mathlib.Tactic.Ring

/-!
# What numerals say

A numeral is a sign, which may be missing, and then digits, at least one. Digits are read from left
to right and take the number away from zero, so a number that leaves its range on the way does not
come back: a numeral is read exactly if the number it says is in the range. The case of its digits
does not matter, and neither do zeros in front.

* `readNumeral_eq_ok_iff`: what is read as which number, in any base.
* `readInt32_eq_ok_iff`, `readUInt64_eq_ok_iff`: the literals of base ten (`IsLiteral`), whose digits
  are those of ASCII.
* `isLiteral_integer`: a number that is written is a literal of it.
* `readUInt64_of_isDigits`, `toOption_readUInt8`: digits without a sign, in any base.
* `isDigits_spelled`: what the digits of a number say in either case and with zeros in front.
-/

namespace BayMap.Text

variable {range : NumeralRange} {base start d : Nat} {c : Char} {text digits : List Char} {n : Int}

/-- The number is in the range. -/
def NumeralRange.Covers (range : NumeralRange) (n : Int) : Prop :=
  range.least ≤ n ∧ n ≤ range.greatest

/-! ## Digits -/

theorem digitValue_eq (base : Nat) (c : Char) :
    digitValue base c =
      (if 48 ≤ c.toNat ∧ c.toNat ≤ 57 then some (c.toNat - 48)
        else if 97 ≤ c.toNat ∧ c.toNat ≤ 122 then some (c.toNat - 97 + 10)
        else if 65 ≤ c.toNat ∧ c.toNat ≤ 90 then some (c.toNat - 65 + 10)
        else none).filter (· < base) :=
  rfl

theorem digitValue_lt (h : digitValue base c = some d) : d < base :=
  of_decide_eq_true (Option.filter_eq_some_iff.1 h).2

theorem toNat_of_digit (h : (digitValue base c).isSome) : 48 ≤ c.toNat ∧ c.toNat ≤ 122 := by
  obtain ⟨d, hd⟩ := Option.isSome_iff_exists.1 h
  have hvalue := (Option.filter_eq_some_iff.1 (digitValue_eq base c ▸ hd)).1
  split_ifs at hvalue <;> omega

/-- The digits of base ten are those of ASCII. -/
theorem digitValue_ten :
    digitValue 10 c = if c.isDigit then some (c.toNat - '0'.toNat) else none := by
  have hd : c.isDigit ↔ 48 ≤ c.toNat ∧ c.toNat ≤ 57 := Char.isDigit_iff_toNat
  simp only [digitValue_eq, hd]
  split
  · simp
    omega
  · split
    · simp
    · split <;> simp

theorem digitValue_digitChar (hd : d < base) (hb : base ≤ 16) :
    digitValue base (Nat.digitChar d) = some d := by
  have h : ∀ d < 16, digitValue 16 (Nat.digitChar d) = some d := by decide
  have hvalue := h d (Nat.lt_of_lt_of_le hd hb)
  rw [digitValue_eq, Option.filter_eq_some_iff] at hvalue ⊢
  exact ⟨hvalue.1, decide_eq_true hd⟩

theorem toNat_toLower (c : Char) :
    c.toLower.toNat = if 65 ≤ c.toNat ∧ c.toNat ≤ 90 then c.toNat + 32 else c.toNat := by
  have hA : 'A'.val ≤ c.val ↔ 65 ≤ c.toNat := UInt32.le_iff_toNat_le
  have hZ : c.val ≤ 'Z'.val ↔ c.toNat ≤ 90 := UInt32.le_iff_toNat_le
  delta Char.toLower
  simp only [ge_iff_le, hA, hZ]
  split
  · have hsum : (c.val + ('a'.val - 'A'.val)).toNat = c.toNat + 32 := by
      rw [UInt32.toNat_add]
      show (c.toNat + 32) % 2 ^ 32 = _
      omega
    exact hsum
  · rfl

/-- A letter is the same digit in either case. -/
@[simp] theorem digitValue_toLower : digitValue base c.toLower = digitValue base c := by
  rw [digitValue_eq, digitValue_eq, toNat_toLower]
  by_cases h : 65 ≤ c.toNat ∧ c.toNat ≤ 90
  · rw [if_pos h, if_neg (by omega), if_pos (by omega), if_neg (by omega), if_neg (by omega),
      if_pos h]
    congr 2
  · rw [if_neg h]

/-! ## Rows of digits -/

/-- Every character is a digit of the base. -/
def IsDigits (base : Nat) (text : List Char) : Prop := ∀ c ∈ text, (digitValue base c).isSome

instance : Decidable (IsDigits base text) := inferInstanceAs (Decidable (∀ c ∈ text, _))

@[simp] theorem isDigits_nil : IsDigits base [] := by simp [IsDigits]

@[simp] theorem isDigits_cons :
    IsDigits base (c :: text) ↔ (digitValue base c).isSome ∧ IsDigits base text := by
  simp [IsDigits]

@[simp] theorem isDigits_append :
    IsDigits base (text ++ digits) ↔ IsDigits base text ∧ IsDigits base digits := by
  simp [IsDigits, or_imp, forall_and]

theorem not_mem_of_isDigits (h : IsDigits base text) (hc : digitValue base c = none) :
    c ∉ text := by
  intro hmem
  have hsome := h c hmem
  rw [hc] at hsome
  cases hsome

theorem utf8Length_of_isDigits (h : IsDigits base text) : utf8Length text = text.length :=
  utf8Length_of_ascii fun c hc => Nat.lt_of_le_of_lt (toNat_of_digit (h c hc)).2 (by decide)

/-- The number that digits come to when they follow those of `start`. -/
def valueFrom (base start : Nat) (text : List Char) : Nat :=
  text.foldl (fun n c => base * n + (digitValue base c).getD 0) start

/-- The number that digits come to. -/
def value (base : Nat) (text : List Char) : Nat := valueFrom base 0 text

@[simp] theorem valueFrom_cons :
    valueFrom base start (c :: text) =
      valueFrom base (base * start + (digitValue base c).getD 0) text := rfl

theorem valueFrom_append :
    valueFrom base start (text ++ digits) = valueFrom base (valueFrom base start text) digits :=
  List.foldl_append

/-- Further digits lead away from zero. -/
theorem le_valueFrom (hb : 0 < base) : start ≤ valueFrom base start text := by
  induction text generalizing start with
  | nil => exact Nat.le_refl start
  | cons c rest ih =>
    calc start ≤ base * start := Nat.le_mul_of_pos_left start hb
      _ ≤ base * start + (digitValue base c).getD 0 := Nat.le_add_right _ _
      _ ≤ valueFrom base start (c :: rest) := ih

/-! ## Numbers that are written -/

theorem isDigits_digits (hb : 1 < base) (h16 : base ≤ 16) (m : Nat) :
    IsDigits base (Text.digits base m) ∧ value base (Text.digits base m) = m := by
  induction m using Nat.strong_induction_on with
  | _ m ih =>
    have hlast : digitValue base (Nat.digitChar (m % base)) = some (m % base) :=
      digitValue_digitChar (Nat.mod_lt _ (by omega)) h16
    unfold Text.digits at *
    rw [Nat.toDigits_eq_if hb]
    split
    · rename_i hm
      rw [Nat.mod_eq_of_lt hm] at hlast
      simp [hlast, value, valueFrom]
    · rename_i hm
      obtain ⟨hd, hv⟩ := ih (m / base) (Nat.div_lt_self (by omega) hb)
      refine ⟨isDigits_append.2 ⟨hd, by simp [hlast]⟩, ?_⟩
      calc value base (Nat.toDigits base (m / base) ++ [(m % base).digitChar])
          = base * value base (Nat.toDigits base (m / base)) + m % base := by
            simp [value, valueFrom, hlast]
        _ = m := by rw [hv, Nat.div_add_mod]

theorem isDigits_zeroPad (hb : 0 < base) {width : Nat} (h : IsDigits base text) :
    IsDigits base (zeroPad width text) := by
  have hzero : (digitValue base '0').isSome := by simp [digitValue_eq, hb]
  refine isDigits_append.2 ⟨?_, h⟩
  intro c hc
  rwa [List.eq_of_mem_replicate hc]

theorem value_zeroPad (width : Nat) : value base (zeroPad width text) = value base text := by
  have hzero : (digitValue base '0').getD 0 = 0 := by
    rw [digitValue_eq]
    by_cases hb : 0 < base <;> simp [Option.filter, hb]
  have hzeros : ∀ k, valueFrom base 0 (List.replicate k '0') = 0 := by
    intro k
    induction k with
    | zero => rfl
    | succ k ih => rw [List.replicate_succ, valueFrom_cons, hzero, Nat.mul_zero, ih]
  rw [value, zeroPad, valueFrom_append, hzeros, value]

theorem isDigits_toLower : IsDigits base (text.map Char.toLower) ↔ IsDigits base text := by
  simp [IsDigits]

theorem value_toLower : value base (text.map Char.toLower) = value base text := by
  simp [value, valueFrom, List.foldl_map]

/-- The digits of a number say it in either case, and with zeros in front. -/
theorem isDigits_spelled (hb : 1 < base) (h16 : base ≤ 16) {width m : Nat}
    (h : text.map Char.toLower = zeroPad width (Text.digits base m)) :
    IsDigits base text ∧ value base text = m := by
  obtain ⟨hd, hv⟩ := isDigits_digits hb h16 m
  refine ⟨?_, ?_⟩
  · rw [← isDigits_toLower, h]
    exact isDigits_zeroPad (by omega) hd
  · rw [← value_toLower, h, value_zeroPad, hv]

/-! ## Reading digits -/

/-- A range that reaches from zero to a number holds what lies between. -/
theorem NumeralRange.Covers.of_le (h0 : range.Covers 0) {side : Int} (hs : side = 1 ∨ side = -1)
    {k m : Nat} (h : range.Covers (side * m)) (hk : k ≤ m) : range.Covers (side * k) := by
  unfold NumeralRange.Covers at *
  rcases hs with rfl | rfl <;> omega

theorem readDigits_eq_ok_iff (h0 : range.Covers 0) {side : Int} (hs : side = 1 ∨ side = -1)
    (h : range.Covers (side * start)) :
    readDigits range base side (side * start) text = .ok n ↔
      IsDigits base text ∧ range.Covers (side * valueFrom base start text) ∧
        n = side * valueFrom base start text := by
  -- Over the digits that are left, with whatever was read so far, as long as that is in the range.
  induction text generalizing start with
  | nil => simp [readDigits, valueFrom, h, eq_comm]
  | cons c rest ih =>
    rcases hd : digitValue base c with _ | d
    · simp [readDigits, hd]
    · have hnext : side * start * base + side * d = side * (base * start + d : Nat) := by
        push_cast
        ring
      simp only [readDigits, hd, hnext, isDigits_cons, valueFrom_cons, Option.isSome_some, true_and,
        Option.getD_some]
      by_cases hr : range.Covers (side * (base * start + d : Nat))
      · rw [if_neg (Int.not_lt.2 hr.2), if_neg (Int.not_lt.2 hr.1)]
        exact ih hr
      · -- The number is out of its range here, so it is at the end.
        have hend : ¬ range.Covers (side * valueFrom base (base * start + d) rest) := fun hc =>
          hr (h0.of_le hs hc (le_valueFrom (Nat.zero_lt_of_lt (digitValue_lt hd))))
        refine iff_of_false ?_ fun h => hend h.2.1
        by_cases hg : range.greatest < side * (base * start + d : Nat)
        · rw [if_pos hg]
          exact nofun
        · have hl : side * (base * start + d : Nat) < range.least := by
            unfold NumeralRange.Covers at hr
            omega
          rw [if_neg hg, if_pos hl]
          exact nofun

theorem readDigits_zero_eq_ok_iff (h0 : range.Covers 0) {side : Int} (hs : side = 1 ∨ side = -1) :
    readDigits range base side 0 text = .ok n ↔
      IsDigits base text ∧ range.Covers (side * value base text) ∧ n = side * value base text := by
  have hzero : range.Covers (side * (0 : Nat)) := by simpa using h0
  have h : readDigits range base side (side * (0 : Nat)) text = .ok n ↔ _ :=
    readDigits_eq_ok_iff h0 hs hzero
  simpa [value] using h

/-! ## Signs -/

/-- A sign that a numeral may have, and the side of zero it stands for. -/
inductive IsSign (range : NumeralRange) : List Char → Int → Prop
  | none : IsSign range [] 1
  | plus : IsSign range ['+'] 1
  | minus (below : range.least < 0) : IsSign range ['-'] (-1)

theorem readNumeral_plus (h : text ≠ []) :
    readNumeral range base ('+' :: text) = readDigits range base 1 0 text := by
  unfold readNumeral
  split <;> simp_all

theorem readNumeral_minus (h : text ≠ []) :
    readNumeral range base ('-' :: text) =
      if range.least < 0 then readDigits range base (-1) 0 text else .error .invalidDigit := by
  unfold readNumeral
  split <;> simp_all

theorem readNumeral_unsigned (hplus : c ≠ '+') (hminus : c ≠ '-') :
    readNumeral range base (c :: text) = readDigits range base 1 0 (c :: text) := by
  unfold readNumeral
  split <;> simp_all

/-- No sign is a digit. -/
theorem readNumeral_of_isDigits (hne : text ≠ []) (h : IsDigits base text) :
    readNumeral range base text = readDigits range base 1 0 text := by
  obtain ⟨c, rest, rfl⟩ := List.exists_cons_of_ne_nil hne
  have hc := (isDigits_cons.1 h).1
  apply readNumeral_unsigned
  · rintro rfl
    simp [digitValue] at hc
  · rintro rfl
    simp [digitValue] at hc

theorem readNumeral_eq_ok_iff (h0 : range.Covers 0) :
    readNumeral range base text = .ok n ↔
      ∃ sign side digits, IsSign range sign side ∧ text = sign ++ digits ∧ digits ≠ [] ∧
        IsDigits base digits ∧ range.Covers (side * value base digits) ∧
        n = side * value base digits := by
  have hread {side : Int} {digits : List Char} (hs : side = 1 ∨ side = -1) :
      readDigits range base side 0 digits = .ok n ↔ _ := readDigits_zero_eq_ok_iff h0 hs
  constructor
  · intro h
    rcases text with _ | ⟨c, rest⟩
    · cases h
    · by_cases hplus : c = '+'
      · subst hplus
        have hne : rest ≠ [] := by
          rintro rfl
          cases h
        rw [readNumeral_plus hne] at h
        exact ⟨_, _, rest, .plus, rfl, hne, (hread (.inl rfl)).1 h⟩
      · by_cases hminus : c = '-'
        · subst hminus
          have hne : rest ≠ [] := by
            rintro rfl
            cases h
          rw [readNumeral_minus hne] at h
          split at h
          · rename_i below
            exact ⟨_, _, rest, .minus below, rfl, hne, (hread (.inr rfl)).1 h⟩
          · cases h
        · rw [readNumeral_unsigned hplus hminus] at h
          exact ⟨_, _, c :: rest, .none, rfl, List.cons_ne_nil _ _, (hread (.inl rfl)).1 h⟩
  · rintro ⟨sign, side, digits, hsign, rfl, hne, hd, hv⟩
    cases hsign with
    | none =>
      rw [List.nil_append, readNumeral_of_isDigits hne hd]
      exact (hread (.inl rfl)).2 ⟨hd, hv⟩
    | plus =>
      rw [List.singleton_append, readNumeral_plus hne]
      exact (hread (.inl rfl)).2 ⟨hd, hv⟩
    | minus below =>
      rw [List.singleton_append, readNumeral_minus hne, if_pos below]
      exact (hread (.inr rfl)).2 ⟨hd, hv⟩

/-- Digits without a sign are read exactly if their number is in the range. -/
theorem readNumeral_eq_ok_iff_of_isDigits (h0 : range.Covers 0) (hne : text ≠ [])
    (hd : IsDigits base text) :
    readNumeral range base text = .ok n ↔
      range.Covers (value base text) ∧ n = value base text := by
  rw [readNumeral_of_isDigits hne hd, readDigits_zero_eq_ok_iff h0 (.inl rfl), Int.one_mul]
  exact and_iff_right hd

theorem covers_of_readNumeral (h0 : range.Covers 0) (h : readNumeral range base text = .ok n) :
    range.Covers n := by
  obtain ⟨_, _, _, -, -, -, -, hr, rfl⟩ := (readNumeral_eq_ok_iff h0).1 h
  exact hr

theorem mem_of_readNumeral (h0 : range.Covers 0) (h : readNumeral range base text = .ok n)
    (hc : c ∈ text) : (digitValue base c).isSome ∨ c = '+' ∨ c = '-' := by
  obtain ⟨sign, side, digits, hs, rfl, -, hd, -⟩ := (readNumeral_eq_ok_iff h0).1 h
  rcases List.mem_append.1 hc with hsign | hdigit
  · cases hs <;> simp_all
  · exact .inl (hd c hdigit)

/-! ## Literals -/

/-- A number of a range in base ten: a sign, which may be missing, and digits of ASCII. -/
def IsLiteral (range : NumeralRange) (text : List Char) (n : Int) : Prop :=
  ∃ sign side digits, IsSign range sign side ∧ text = sign ++ digits ∧ digits ≠ [] ∧
    (∀ c ∈ digits, c.isDigit) ∧ range.Covers n ∧ n = side * Nat.ofDigitChars 10 digits 0

theorem isDigits_ten : IsDigits 10 text ↔ ∀ c ∈ text, c.isDigit := by
  refine forall_congr' fun c => forall_congr' fun _ => ?_
  rw [digitValue_ten]
  split <;> simp_all

theorem value_ten (h : ∀ c ∈ text, c.isDigit) : value 10 text = Nat.ofDigitChars 10 text 0 := by
  rw [Nat.ofDigitChars_eq_foldl, value, valueFrom]
  refine List.foldl_ext _ _ _ fun n c hc => ?_
  rw [digitValue_ten, if_pos (h c hc), Option.getD_some]

theorem readNumeral_ten_iff (h0 : range.Covers 0) :
    readNumeral range 10 text = .ok n ↔ IsLiteral range text n := by
  rw [readNumeral_eq_ok_iff h0]
  constructor
  · rintro ⟨sign, side, digits, hs, ht, hne, hd, hr, rfl⟩
    have hd := isDigits_ten.1 hd
    exact ⟨sign, side, digits, hs, ht, hne, hd, hr, by rw [value_ten hd]⟩
  · rintro ⟨sign, side, digits, hs, ht, hne, hd, hr, rfl⟩
    rw [← value_ten hd] at hr ⊢
    exact ⟨sign, side, digits, hs, ht, hne, isDigits_ten.2 hd, hr, rfl⟩

theorem IsLiteral.digit_or_sign (h0 : range.Covers 0) (h : IsLiteral range text n) (hc : c ∈ text) :
    c.isDigit ∨ c = '+' ∨ c = '-' := by
  refine (mem_of_readNumeral h0 ((readNumeral_ten_iff h0).2 h) hc).imp_left fun hd => ?_
  rw [digitValue_ten] at hd
  by_contra hdigit
  simp [hdigit] at hd

theorem isLiteral_decimal {m : Nat} (h : range.Covers m) :
    IsLiteral range (decimal m).toList m := by
  refine ⟨[], 1, Text.digits 10 m, .none, by simp [decimal], Nat.toDigits_ne_nil, ?_, h, ?_⟩
  · exact fun c hc => Nat.isDigit_of_mem_toDigits (by decide) (by decide) hc
  · rw [Text.digits, Nat.ofDigitChars_ten_toDigits, Int.one_mul]

/-- A number is read back from what is written for it. -/
theorem isLiteral_integer (h : range.Covers n) : IsLiteral range (integer n).toList n := by
  unfold integer
  split
  · rename_i hneg
    refine ⟨['-'], -1, Text.digits 10 n.natAbs, .minus ?_, by simp [decimal], Nat.toDigits_ne_nil, ?_,
      h, ?_⟩
    · unfold NumeralRange.Covers at h
      omega
    · exact fun c hc => Nat.isDigit_of_mem_toDigits (by decide) (by decide) hc
    · rw [Text.digits, Nat.ofDigitChars_ten_toDigits]
      omega
  · rename_i hpos
    have hn : (n.natAbs : Int) = n := by omega
    have hl : IsLiteral range (decimal n.natAbs).toList n.natAbs := isLiteral_decimal (by rwa [hn])
    rwa [hn] at hl

/-! ## Numbers of a width -/

theorem covers_signed {bits : Nat} : (NumeralRange.signed bits).Covers 0 := by
  have hpos : 0 < 1 <<< (bits - 1) := by simp [Nat.shiftLeft_eq]
  simp only [NumeralRange.Covers, NumeralRange.signed]
  omega

theorem covers_unsigned {bits : Nat} : (NumeralRange.unsigned bits).Covers 0 := by
  have hpos : 0 < 1 <<< bits := by simp [Nat.shiftLeft_eq]
  simp only [NumeralRange.Covers, NumeralRange.unsigned]
  omega

theorem covers_toInt (x : Int32) : (NumeralRange.signed 32).Covers x.toInt :=
  ⟨x.le_toInt, Int.le_sub_one_of_lt x.toInt_lt⟩

theorem covers_toNat (x : UInt64) : (NumeralRange.unsigned 64).Covers x.toNat := by
  have hlt := x.toNat_lt
  refine ⟨Int.natCast_nonneg _, ?_⟩
  show (x.toNat : Int) ≤ 2 ^ 64 - 1
  omega

theorem readInt32_eq_ok_iff {x : Int32} :
    readInt32 text = .ok x ↔ IsLiteral (.signed 32) text x.toInt := by
  rw [← readNumeral_ten_iff covers_signed, readInt32]
  rcases hread : readNumeral (.signed 32) 10 text with e | n
  · exact iff_of_false nofun nofun
  · have hr : -2 ^ 31 ≤ n ∧ n ≤ 2 ^ 31 - 1 := covers_of_readNumeral covers_signed hread
    have hn : (Int32.ofInt n).toInt = n := Int32.toInt_ofInt_of_le hr.1 (by omega)
    show Except.ok (Int32.ofInt n) = .ok x ↔ Except.ok n = .ok x.toInt
    rw [Except.ok.injEq, Except.ok.injEq, ← Int32.toInt_inj, hn]

theorem not_isLiteral_of_readInt32 {e : NumeralError} (h : readInt32 text = .error e) :
    ¬ IsLiteral (.signed 32) text n := by
  intro hn
  rw [readInt32, (readNumeral_ten_iff covers_signed).2 hn] at h
  cases h

theorem readUInt64_eq_ok_iff {x : UInt64} :
    readUInt64 base text = .ok x ↔ readNumeral (.unsigned 64) base text = .ok (x.toNat : Int) := by
  rw [readUInt64]
  rcases hread : readNumeral (.unsigned 64) base text with e | n
  · exact iff_of_false nofun nofun
  · have hr : 0 ≤ n ∧ n ≤ 2 ^ 64 - 1 := covers_of_readNumeral covers_unsigned hread
    have hn : (UInt64.ofNat n.toNat).toNat = n.toNat := by
      rw [UInt64.toNat_ofNat', Nat.mod_eq_of_lt (by omega)]
    show Except.ok (UInt64.ofNat n.toNat) = .ok x ↔ Except.ok n = .ok (x.toNat : Int)
    rw [Except.ok.injEq, Except.ok.injEq, ← UInt64.toNat_inj, hn]
    omega

theorem readUInt64_ten_iff {x : UInt64} :
    readUInt64 10 text = .ok x ↔ IsLiteral (.unsigned 64) text x.toNat := by
  rw [readUInt64_eq_ok_iff, readNumeral_ten_iff covers_unsigned]

theorem not_isLiteral_of_readUInt64 {e : NumeralError} (h : readUInt64 10 text = .error e) :
    ¬ IsLiteral (.unsigned 64) text n := by
  intro hn
  rw [readUInt64, (readNumeral_ten_iff covers_unsigned).2 hn] at h
  cases h

/-- Digits without a sign are a number of 8 bits if they do not exceed those. -/
theorem toOption_readUInt8 (hne : text ≠ []) (hd : IsDigits base text) :
    (readUInt8 base text).toOption =
      if value base text ≤ 255 then some (.ofNat (value base text)) else none := by
  have hread : ∀ n, readNumeral (.unsigned 8) base text = .ok n ↔
      ((0 : Int) ≤ value base text ∧ (value base text : Int) ≤ 255) ∧ n = value base text :=
    fun n => readNumeral_eq_ok_iff_of_isDigits covers_unsigned hne hd
  split
  · rename_i h
    rw [readUInt8, (hread (value base text)).2 ⟨⟨by omega, by omega⟩, rfl⟩]
    rfl
  · rename_i h
    rcases hr : readNumeral (.unsigned 8) base text with e | n
    · rw [readUInt8, hr]
      rfl
    · have hrange := ((hread n).1 hr).1.2
      omega

/-- Digits without a sign are read as their number. -/
theorem readUInt64_of_isDigits (hne : text ≠ []) (hd : IsDigits base text)
    {x : UInt64} (hx : value base text = x.toNat) : readUInt64 base text = .ok x := by
  rw [readUInt64_eq_ok_iff, readNumeral_eq_ok_iff_of_isDigits covers_unsigned hne hd, hx]
  exact ⟨covers_toNat x, rfl⟩

end BayMap.Text
