import BayMap.Proofs.Numerals
import BayMap.Proofs.PlainPath

/-!
# How the address of an expander may be spelled

An attribute spells an address with hex digits in either case, zeros in front of them or not,
perhaps after the mark `0x`, and blanks around all. The reader takes the last sixteen bytes of
sixteen or more to be the digits, and drops the mark from fewer. The mark counts as two of the
bytes, so that with fourteen digits the whole of it is left in front of them, and with fifteen a
part. No other spelling is misread.

* `trim_between`: the blanks around a text do not matter.
* `Spelling.digitsIn_body`, `Spelling.digitsIn_body_of_mark`: where the reader looks for the digits.
* `Spelling.readWwid_line`: what is read of a spelling.
* `expanderAddress_of_spelling`: what an expander is known by whose attribute spells an address.
-/

namespace BayMap.Text

variable {text before after : List Char} {c : Char}

theorem dropWhile_isBlank (h : ∀ c ∈ text, isBlank c = false) : text.dropWhile isBlank = text := by
  cases text with
  | nil => rfl
  | cons c rest => rw [List.dropWhile_cons_of_neg (by simp [h c])]

/-- The blanks around a text do not matter. -/
theorem trim_between (hbefore : ∀ c ∈ before, isBlank c = true)
    (hafter : ∀ c ∈ after, isBlank c = true) (hne : text ≠ [])
    (htext : ∀ c ∈ text, isBlank c = false) : trim (before ++ text ++ after) = text := by
  have hfront : (before ++ text ++ after).dropWhile isBlank = text ++ after := by
    obtain ⟨c, rest, rfl⟩ := List.exists_cons_of_ne_nil hne
    rw [List.append_assoc, List.dropWhile_append_of_pos hbefore, List.cons_append,
      List.dropWhile_cons_of_neg (by simp [htext c])]
  rw [trim, hfront, dropEnd_append_of_all text hafter, dropEnd,
    dropWhile_isBlank (by simpa using htext), List.reverse_reverse]

theorem isBlank_of_toNat (h : 48 ≤ c.toNat ∧ c.toNat ≤ 122) : isBlank c = false := by
  simp [isBlank]
  omega

theorem dropHexMarks_of_not_mem (h : 'x' ∉ text) : dropHexMarks text = text := by
  unfold dropHexMarks
  split
  · simp at h
  · rfl

/-- No number of base sixteen holds the letter of the mark. -/
theorem readUInt64_of_mark (h : 'x' ∈ text) : (readUInt64 16 text).toOption = none := by
  rcases hread : readUInt64 16 text with e | n
  · rfl
  · have hmem := mem_of_readNumeral covers_unsigned (readUInt64_eq_ok_iff.1 hread) h
    exact absurd hmem (by decide)

end BayMap.Text

namespace BayMap.Sysfs

open Files (Tree)

variable {t : Tree} {device : String} {value : List Char} {a : UInt64}

/-- Where the reader finds the digits of an address, blanks left out. -/
def digitsIn (value : List Char) : Option (List Char) :=
  if 16 ≤ Text.utf8Length value then Text.lastBytes 16 value else some (Text.dropHexMarks value)

theorem readWwid_eq (text : List Char) :
    readWwid text = ((digitsIn (Text.trim text)).bind fun d =>
      (Text.readUInt64 16 d).toOption).map (· ||| 0x3f) := rfl

theorem digitsIn_short (h : Text.utf8Length value < 16) :
    digitsIn value = some (Text.dropHexMarks value) := if_neg (by omega)

theorem digitsIn_long (front : List Char) (h : Text.utf8Length value = 16) :
    digitsIn (front ++ value) = some value := by
  rw [digitsIn, Text.utf8Length_append, if_pos (by omega), Text.lastBytes_append h]

/-- How an attribute may spell an address. -/
structure Spelling (a : UInt64) where
  /-- The spaces and tabs in front. -/
  before : List Char
  /-- The mark `0x` stands in front of the digits. -/
  marked : Bool
  /-- The digits, with zeros in front of them up to their number. -/
  digits : List Char
  /-- The spaces and tabs behind. -/
  after : List Char
  /-- The line is ended. -/
  ended : Bool
  spells : digits.map Char.toLower = Text.zeroPad digits.length (Text.digits 16 a.toNat)
  length_le : digits.length ≤ 16
  blank_before : ∀ c ∈ before, c = ' ' ∨ c = '\t'
  blank_after : ∀ c ∈ after, c = ' ' ∨ c = '\t'

namespace Spelling

variable (s : Spelling a)

/-- The digits after the mark, if there is one. -/
def body : List Char := (if s.marked then ['0', 'x'] else []) ++ s.digits

/-- The line, blanks included. -/
def line : List Char := s.before ++ s.body ++ s.after

/-- All that is in the attribute. -/
def text : List Char := s.line ++ if s.ended then ['\n'] else []

/-- With the mark the digits come to sixteen or seventeen bytes, so that the mark or its letter is
read as a part of them. -/
def MarkIsRead : Prop := s.marked ∧ (s.digits.length = 14 ∨ s.digits.length = 15)

instance : Decidable s.MarkIsRead := inferInstanceAs (Decidable (_ ∧ _))

theorem isDigits : Text.IsDigits 16 s.digits ∧ Text.value 16 s.digits = a.toNat :=
  Text.isDigits_spelled (by decide) (by decide) s.spells

theorem digits_ne_nil : s.digits ≠ [] := by
  intro hnil
  have hlength := congrArg List.length s.spells
  rw [hnil, Text.length_zeroPad, List.map_nil, List.length_nil] at hlength
  have hpos : 0 < (Text.digits 16 a.toNat).length := Nat.length_toDigits_pos
  omega

theorem toNat_of_mem {c : Char} (h : c ∈ s.body) : 48 ≤ c.toNat ∧ c.toNat ≤ 122 := by
  rcases List.mem_append.1 h with hmark | hdigit
  · have hc : c = '0' ∨ c = 'x' := by
      split at hmark
      · simpa using hmark
      · cases hmark
    rcases hc with rfl | rfl <;> decide
  · exact Text.toNat_of_digit (s.isDigits.1 c hdigit)

theorem trim_line : Text.trim s.line = s.body :=
  Text.trim_between (fun c hc => by rcases s.blank_before c hc with rfl | rfl <;> decide)
    (fun c hc => by rcases s.blank_after c hc with rfl | rfl <;> decide)
    (List.append_ne_nil_of_right_ne_nil _ s.digits_ne_nil)
    fun _ hc => Text.isBlank_of_toNat (s.toNat_of_mem hc)

theorem length_body : s.body.length = (if s.marked then 2 else 0) + s.digits.length := by
  rw [body, List.length_append]
  split <;> rfl

theorem utf8Length_body : Text.utf8Length s.body = s.body.length :=
  Text.utf8Length_of_ascii fun _ hc => Nat.lt_of_le_of_lt (s.toNat_of_mem hc).2 (by decide)

theorem utf8Length_digits : Text.utf8Length s.digits = s.digits.length :=
  Text.utf8Length_of_isDigits s.isDigits.1

theorem readUInt64_digits : Text.readUInt64 16 s.digits = .ok a :=
  Text.readUInt64_of_isDigits s.digits_ne_nil s.isDigits.1 s.isDigits.2

/-- The digits are found, unless they have a part of the mark in front. -/
theorem digitsIn_body (h : ¬ s.MarkIsRead) : digitsIn s.body = some s.digits := by
  have hx : 'x' ∉ s.digits := fun hmem => absurd (s.isDigits.1 'x' hmem) (by decide)
  have hdigits := s.utf8Length_digits
  have hle := s.length_le
  by_cases hfull : s.digits.length = 16
  · exact digitsIn_long _ (hdigits.trans hfull)
  · have hshort : Text.utf8Length s.body < 16 := by
      rw [s.utf8Length_body, s.length_body]
      split
      · rename_i hmarked
        have hlength : ¬ (s.digits.length = 14 ∨ s.digits.length = 15) :=
          fun hl => h ⟨hmarked, hl⟩
        omega
      · omega
    -- A mark is dropped before the digits are looked at.
    rw [digitsIn_short hshort, body]
    split
    · exact congrArg some (Text.dropHexMarks_of_not_mem hx)
    · exact congrArg some (Text.dropHexMarks_of_not_mem hx)

theorem digitsIn_body_of_mark (h : s.MarkIsRead) :
    ∃ found, digitsIn s.body = some found ∧ 'x' ∈ found := by
  obtain ⟨hmarked, hlength⟩ := h
  have hbody : s.body = '0' :: 'x' :: s.digits := by rw [body, if_pos hmarked]; rfl
  -- The last sixteen bytes are all of the text, or all but the zero of the mark.
  rcases hlength with hlength | hlength
  · have hfull : Text.utf8Length s.body = 16 := by
      rw [s.utf8Length_body, s.length_body, if_pos hmarked, hlength]
    exact ⟨s.body, digitsIn_long [] hfull, by simp [hbody]⟩
  · have hfull : Text.utf8Length ('x' :: s.digits) = 16 := by
      rw [Text.utf8Length, s.utf8Length_digits, hlength]
      rfl
    exact ⟨'x' :: s.digits, hbody ▸ digitsIn_long ['0'] hfull, List.mem_cons_self⟩

theorem readWwid_line :
    readWwid s.line = if s.MarkIsRead then none else some (a ||| 0x3f) := by
  rw [readWwid_eq, s.trim_line]
  split
  · rename_i hmark
    obtain ⟨found, hfound, hx⟩ := s.digitsIn_body_of_mark hmark
    rw [hfound, Option.bind_some, Text.readUInt64_of_mark hx, Option.map_none]
  · rename_i hmark
    rw [s.digitsIn_body hmark, Option.bind_some, s.readUInt64_digits]
    rfl

theorem not_mem_line : '\n' ∉ s.line := by
  simp only [line, List.mem_append, not_or]
  refine ⟨⟨fun h => ?_, fun h => ?_⟩, fun h => ?_⟩
  · exact absurd (s.blank_before _ h) (by decide)
  · exact absurd (s.toNat_of_mem h) (by decide)
  · exact absurd (s.blank_after _ h) (by decide)

/-- The end of the line is no part of what is read. -/
theorem takeWhile_text : s.text.takeWhile (· ≠ '\n') = s.line := by
  have hline : ∀ c ∈ s.line, decide (c ≠ '\n') = true := fun c hc =>
    decide_eq_true fun h => s.not_mem_line (h ▸ hc)
  rw [text, List.takeWhile_append_of_pos hline]
  split <;> simp

end Spelling

/-- An expander is known by the address that its attribute spells, with the low six bits set, but for
an address of fourteen or fifteen digits after the mark, which is not understood. -/
theorem expanderAddress_of_spelling (s : Spelling a)
    (h : t.read (Files.Path.join device "sas_address") = .ok s.text) :
    expanderAddress t device = .ok (if s.MarkIsRead then none else some (a ||| 0x3f)) := by
  have hattribute : readAttribute t device "sas_address" = .ok (some (.ofList s.line)) := by
    rw [readAttribute, h, ← s.takeWhile_text]
    rfl
  rw [expanderAddress, hattribute, ← s.readWwid_line]
  simp [Except.map]

/-- A device whose attribute has a text of ASCII. -/
def attributeTree (text : List Char) : Tree :=
  ⟨[("dev", .directory [("sas_address", .file (text.map fun c => .ofNat c.toNat))])]⟩

/-- Sixteen digits in upper case after the mark, among blanks. -/
def sixteenDigits : Spelling 0x500605b00e7a1b00 where
  before := [' ', '\t']
  marked := true
  digits := "500605B00E7A1B00".toList
  after := [' ']
  ended := true
  spells := by decide +kernel
  length_le := by decide
  blank_before := by simp
  blank_after := by simp

theorem expanderAddress_of_spelling_sixteenDigits :
    expanderAddress (attributeTree sixteenDigits.text) "dev" =
      .ok (some (0x500605b00e7a1b00 ||| 0x3f)) :=
  expanderAddress_of_spelling sixteenDigits
    (Tree.read_of_reach (by decide +kernel) rfl (by decide +kernel))

/-- Fourteen digits after the mark. -/
def fourteenDigits : Spelling 0x5000c500000003 where
  before := []
  marked := true
  digits := "5000c500000003".toList
  after := []
  ended := true
  spells := by decide +kernel
  length_le := by decide
  blank_before := by simp
  blank_after := by simp

/-- The address is not found, though it is spelled as the mark and its digits. -/
theorem fourteenDigits_not_understood :
    fourteenDigits.text = "0x5000c500000003\n".toList ∧
      (attributeTree fourteenDigits.text).read (Files.Path.join "dev" "sas_address") =
        .ok fourteenDigits.text ∧
      expanderAddress (attributeTree fourteenDigits.text) "dev" = .ok none := by
  have htext : Text.Utf8.text? (fourteenDigits.text.map fun c => .ofNat c.toNat) =
      some fourteenDigits.text := by decide +kernel
  have hplain : Tree.IsPlain (Files.Path.join "dev" "sas_address") := by decide +kernel
  refine ⟨by decide +kernel, Tree.read_of_reach hplain rfl htext, ?_⟩
  rw [expanderAddress, readAttribute_of_reach hplain rfl htext]
  decide +kernel

end BayMap.Sysfs
