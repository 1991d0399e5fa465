/-!
# Parts of text

Whether a text holds another one, and the end of a text counted in the bytes of its UTF-8 form.

* `holds_iff`: what a text holds is what stands between two parts of it.
* `lastBytes_eq_some_iff`: an end is cut off exactly where it has the bytes that are asked for.
-/

namespace BayMap.Text

/-- `part` stands somewhere in a text. -/
def holds (part : List Char) : List Char → Bool
  | [] => part.isEmpty
  | c :: rest => part.isPrefixOf (c :: rest) || holds part rest

theorem holds_iff {part text : List Char} : holds part text = true ↔ part <:+: text := by
  induction text with
  | nil => simp [holds]
  | cons c rest ih => simp [holds, ih, List.infix_cons_iff]

/-- The bytes of a text in UTF-8. -/
def utf8Length : List Char → Nat
  | [] => 0
  | c :: rest => c.utf8Size + utf8Length rest

theorem utf8Length_append (a b : List Char) :
    utf8Length (a ++ b) = utf8Length a + utf8Length b := by
  induction a with
  | nil => simp [utf8Length]
  | cons c rest ih => simp [utf8Length, ih, Nat.add_assoc]

@[simp] theorem utf8Length_reverse (text : List Char) :
    utf8Length text.reverse = utf8Length text := by
  induction text with
  | nil => rfl
  | cons c rest ih => simp [utf8Length_append, utf8Length, ih, Nat.add_comm]

/-- The characters of ASCII have one byte each. -/
theorem utf8Length_of_ascii {text : List Char} (h : ∀ c ∈ text, c.toNat < 128) :
    utf8Length text = text.length := by
  induction text with
  | nil => rfl
  | cons c rest ih =>
    have hc : c.utf8Size = 1 := by
      rw [Char.utf8Size_eq_one_iff, UInt32.le_iff_toNat_le]
      exact Nat.le_of_lt_succ (h c List.mem_cons_self)
    rw [utf8Length, hc, ih fun d hd => h d (List.mem_cons_of_mem c hd), List.length_cons,
      Nat.add_comm]

/-- The start of a text that has `n` bytes in UTF-8; there is none where the cut would fall into a
character. -/
def firstBytes (n : Nat) : List Char → Option (List Char)
  | [] => if n = 0 then some [] else none
  | c :: rest =>
    if n = 0 then some []
    else if n < c.utf8Size then none
    else (firstBytes (n - c.utf8Size) rest).map (c :: ·)

/-- The end of a text that has `n` bytes in UTF-8; there is none where the cut would fall into a
character. -/
def lastBytes (n : Nat) (text : List Char) : Option (List Char) :=
  (firstBytes n text.reverse).map List.reverse

theorem firstBytes_eq_some_iff {n : Nat} {text start : List Char} :
    firstBytes n text = some start ↔ start <+: text ∧ utf8Length start = n := by
  induction text generalizing n start with
  | nil =>
    unfold firstBytes
    split <;> simp <;> rintro rfl <;> simp [utf8Length] <;> omega
  | cons c rest ih =>
    have hc := c.utf8Size_pos
    unfold firstBytes
    cases start with
    | nil =>
      split
      · simp [utf8Length, *]
      · split <;> simp [utf8Length, Ne.symm ‹n ≠ 0›]
    | cons d start =>
      have hd := d.utf8Size_pos
      simp only [List.cons_prefix_cons, utf8Length]
      split
      · simp; omega
      · split
        · constructor
          · simp
          · rintro ⟨⟨rfl, -⟩, h⟩
            omega
        · simp only [Option.map_eq_some_iff, ih, List.cons.injEq]
          constructor
          · rintro ⟨_, ⟨hp, hn⟩, rfl, rfl⟩
            exact ⟨⟨rfl, hp⟩, by omega⟩
          · rintro ⟨⟨rfl, hp⟩, hn⟩
            exact ⟨start, ⟨hp, by omega⟩, rfl, rfl⟩

theorem lastBytes_eq_some_iff {n : Nat} {text tail : List Char} :
    lastBytes n text = some tail ↔ tail <:+ text ∧ utf8Length tail = n := by
  simp only [lastBytes, Option.map_eq_some_iff, firstBytes_eq_some_iff]
  constructor
  · rintro ⟨start, ⟨hp, hn⟩, rfl⟩
    exact ⟨by simpa using List.reverse_suffix.2 hp, by rw [utf8Length_reverse, hn]⟩
  · rintro ⟨hs, hn⟩
    exact ⟨tail.reverse, ⟨List.reverse_prefix.2 hs, by rw [utf8Length_reverse, hn]⟩, by simp⟩

theorem lastBytes_append {n : Nat} {before after : List Char} (h : utf8Length after = n) :
    lastBytes n (before ++ after) = some after :=
  lastBytes_eq_some_iff.2 ⟨List.suffix_append _ _, h⟩

/-- A text without the marks `0x` at its start. -/
def dropHexMarks : List Char → List Char
  | '0' :: 'x' :: rest => dropHexMarks rest
  | text => text

end BayMap.Text
