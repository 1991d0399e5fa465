import BayMap.Files.Path
import BayMap.Text.Numeral

/-!
# Controller numbers

The number of a controller is what the digits at the end of its node's name say, zero without any.
-/

namespace BayMap.Transport

/-- The digits at the end of a name. -/
def trailingDigits (name : List Char) : List Char := (name.reverse.takeWhile Char.isDigit).reverse

/-- The number of the controller behind a node; there is none where the digits exceed a byte. -/
def ordinalOf (path : String) : Option UInt8 :=
  match Files.Path.fileName path with
  | none => some 0
  | some name =>
    let digits := trailingDigits name.toList
    if digits = [] then some 0 else (Text.readUInt8 10 digits).toOption

end BayMap.Transport
