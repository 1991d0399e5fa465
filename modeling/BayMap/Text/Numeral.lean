/-!
# Numerals

Numbers as text, in any base up to sixteen. Writing uses lower-case digits and no leading zero;
`zeroPad` and `spacePad` give a numeral a least width.

Reading takes an optional sign and then digits, and goes from left to right: the first character
that is no digit, or that takes the number out of its range, decides the error. Where one character
is both, it counts as no digit.
-/

namespace BayMap.Text

/-- The digits of a number, most significant first. -/
def digits (base n : Nat) : List Char := Nat.toDigits base n

/-- Zeros in front, up to a width. -/
def zeroPad (width : Nat) (text : List Char) : List Char :=
  List.replicate (width - text.length) '0' ++ text

/-- Spaces in front, up to a width. -/
def spacePad (width : Nat) (text : List Char) : List Char :=
  List.replicate (width - text.length) ' ' ++ text

/-- `text`, then spaces up to a width. -/
def column (width : Nat) (text : List Char) : List Char :=
  text ++ List.replicate (width - text.length) ' '

@[simp] theorem length_zeroPad (width : Nat) (text : List Char) :
    (zeroPad width text).length = max width text.length := by
  simp [zeroPad]; omega

@[simp] theorem length_column (width : Nat) (text : List Char) :
    (column width text).length = max width text.length := by
  simp [column]; omega

/-- A number in base ten. -/
def decimal (n : Nat) : String := .ofList (digits 10 n)

/-- A number in base ten, right-aligned in a column of spaces. -/
def decimalIn (width n : Nat) : String := .ofList (spacePad width (digits 10 n))

/-- A number in base ten with at least `width` digits. -/
def decimalPad (width n : Nat) : String := .ofList (zeroPad width (digits 10 n))

/-- A number in base ten, with a minus sign where it is negative. -/
def integer (n : Int) : String :=
  if n < 0 then "-" ++ decimal n.natAbs else decimal n.natAbs

/-- A number in base sixteen with at least `width` digits. -/
def hex (width n : Nat) : String := .ofList (zeroPad width (digits 16 n))

/-- A number in base sixteen with at least `width` digits, in upper case. -/
def upperHex (width n : Nat) : String :=
  .ofList ((zeroPad width (digits 16 n)).map Char.toUpper)

/-- A number in base sixteen with at least `width` digits after the mark `0x`. -/
def markedHex (width n : Nat) : String := "0x" ++ hex width n

/-- Why a text is no number. -/
inductive NumeralError where
  /-- There is no text. -/
  | empty
  /-- A character is no digit, or a sign stands alone. -/
  | invalidDigit
  /-- The number is above the range. -/
  | tooLarge
  /-- The number is below the range. -/
  | tooSmall
  deriving DecidableEq, Repr

/-- The wording of an error. -/
def NumeralError.message : NumeralError → String
  | .empty => "cannot parse integer from empty string"
  | .invalidDigit => "invalid digit found in string"
  | .tooLarge => "number too large to fit in target type"
  | .tooSmall => "number too small to fit in target type"

/-- The numbers a reader accepts. A range without numbers below zero has no minus sign either. -/
structure NumeralRange where
  /-- The least number. -/
  least : Int
  /-- The greatest number. -/
  greatest : Int
  deriving DecidableEq, Repr

namespace NumeralRange

/-- The numbers of `bits` bits. -/
def unsigned (bits : Nat) : NumeralRange := ⟨0, (1 <<< bits : Nat) - 1⟩

/-- The numbers of `bits` bits with a sign. -/
def signed (bits : Nat) : NumeralRange := ⟨-(1 <<< (bits - 1) : Nat), (1 <<< (bits - 1) : Nat) - 1⟩

end NumeralRange

/-- The value of a digit, upper or lower case. -/
def digitValue (base : Nat) (c : Char) : Option Nat :=
  let value :=
    if '0' ≤ c ∧ c ≤ '9' then some (c.toNat - '0'.toNat)
    else if 'a' ≤ c ∧ c ≤ 'z' then some (c.toNat - 'a'.toNat + 10)
    else if 'A' ≤ c ∧ c ≤ 'Z' then some (c.toNat - 'A'.toNat + 10)
    else none
  value.filter (· < base)

/-- Appends digits to the number read so far, away from zero in the direction of `sign`. -/
def readDigits (range : NumeralRange) (base : Nat) (sign : Int) :
    Int → List Char → Except NumeralError Int
  | read, [] => .ok read
  | read, c :: rest =>
    match digitValue base c with
    | none => .error .invalidDigit
    | some d =>
      let next := read * base + sign * d
      if range.greatest < next then .error .tooLarge
      else if next < range.least then .error .tooSmall
      else readDigits range base sign next rest

/-- Reads a number: a sign, which may be missing, and then at least one digit. -/
def readNumeral (range : NumeralRange) (base : Nat) : List Char → Except NumeralError Int
  | [] => .error .empty
  | ['+'] | ['-'] => .error .invalidDigit
  | '+' :: rest => readDigits range base 1 0 rest
  | '-' :: rest =>
    if range.least < 0 then readDigits range base (-1) 0 rest else .error .invalidDigit
  | text => readDigits range base 1 0 text

/-- Reads a number of 8 bits. -/
def readUInt8 (base : Nat) (text : List Char) : Except NumeralError UInt8 :=
  (readNumeral (.unsigned 8) base text).map fun n => .ofNat n.toNat

/-- Reads a number of 32 bits. -/
def readUInt32 (base : Nat) (text : List Char) : Except NumeralError UInt32 :=
  (readNumeral (.unsigned 32) base text).map fun n => .ofNat n.toNat

/-- Reads a number of 64 bits. -/
def readUInt64 (base : Nat) (text : List Char) : Except NumeralError UInt64 :=
  (readNumeral (.unsigned 64) base text).map fun n => .ofNat n.toNat

/-- Reads a number of 32 bits with a sign. -/
def readInt32 (text : List Char) : Except NumeralError Int32 :=
  (readNumeral (.signed 32) 10 text).map .ofInt

end BayMap.Text
