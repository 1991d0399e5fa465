/-!
# Blank characters

The characters with the property White_Space, and text without the blanks around it.
-/

namespace BayMap.Text

/-- The characters with the property White_Space. -/
def isBlank (c : Char) : Bool :=
  (9 ≤ c.toNat && c.toNat ≤ 13) ||
  [0x20, 0x85, 0xa0, 0x1680, 0x2028, 0x2029, 0x202f, 0x205f, 0x3000].contains c.toNat ||
  (0x2000 ≤ c.toNat && c.toNat ≤ 0x200a)

/-- Text without the characters of a class at its end. -/
def dropEnd (drop : Char → Bool) (text : List Char) : List Char :=
  (text.reverse.dropWhile drop).reverse

/-- Text without the blanks at its end. -/
def trimEnd (text : List Char) : List Char := dropEnd isBlank text

/-- Text without the blanks at either end. -/
def trim (text : List Char) : List Char := dropEnd isBlank (text.dropWhile isBlank)

theorem dropEnd_append_of_all {drop : Char → Bool} {tail : List Char} (text : List Char)
    (h : ∀ c ∈ tail, drop c = true) : dropEnd drop (text ++ tail) = dropEnd drop text := by
  have htail : ∀ c ∈ tail.reverse, drop c = true := fun c hc => h c (List.mem_reverse.1 hc)
  rw [dropEnd, List.reverse_append, List.dropWhile_append_of_pos htail, dropEnd]

end BayMap.Text
