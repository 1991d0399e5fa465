import BayMap.Bytes.Slice

/-!
# UTF-8

A byte string is read as a row of characters and of places where there is none: each longest start
of a character that is not continued counts as one such place, and so does a byte that starts
nothing. `lossy` writes U+FFFD there, and `text?` fails there.
-/

namespace BayMap.Text.Utf8

/-- What a first byte asks for: the bytes that must follow, the least and the greatest value of the
next one, and the bits the first byte gives. -/
structure Lead where
  /-- The bytes that follow. -/
  rest : Nat
  /-- The least next byte. -/
  least : UInt8
  /-- The greatest next byte. -/
  greatest : UInt8
  /-- The bits of the first byte. -/
  bits : Nat
  deriving DecidableEq, Repr

/-- The lead that a byte above ASCII is. Over-long forms, surrogates and numbers above U+10FFFF are
shut out by the range of the second byte. -/
def Lead.of? (a : UInt8) : Option Lead :=
  if 0xc2 ≤ a ∧ a ≤ 0xdf then some ⟨1, 0x80, 0xbf, a.toNat - 0xc0⟩
  else if a = 0xe0 then some ⟨2, 0xa0, 0xbf, 0⟩
  else if a = 0xed then some ⟨2, 0x80, 0x9f, 13⟩
  else if 0xe1 ≤ a ∧ a ≤ 0xef then some ⟨2, 0x80, 0xbf, a.toNat - 0xe0⟩
  else if a = 0xf0 then some ⟨3, 0x90, 0xbf, 0⟩
  else if a = 0xf4 then some ⟨3, 0x80, 0x8f, 4⟩
  else if 0xf1 ≤ a ∧ a ≤ 0xf3 then some ⟨3, 0x80, 0xbf, a.toNat - 0xf0⟩
  else none

/-- Takes the bytes that continue a character, and gives the bytes after them. -/
def continued : (rest : Nat) → (least greatest : UInt8) → (bits : Nat) → Bytes →
    Option Char × Bytes
  | 0, _, _, bits, bytes => (some (Char.ofNat bits), bytes)
  | _ + 1, _, _, _, [] => (none, [])
  | rest + 1, least, greatest, bits, b :: bytes =>
    if least ≤ b ∧ b ≤ greatest then
      continued rest 0x80 0xbf (bits * 64 + b.toNat % 64) bytes
    else (none, b :: bytes)

theorem length_continued (rest : Nat) (least greatest : UInt8) (bits : Nat) (bytes : Bytes) :
    (continued rest least greatest bits bytes).2.length ≤ bytes.length := by
  induction rest generalizing least greatest bits bytes with
  | zero => simp [continued]
  | succ n ih =>
    cases bytes with
    | nil => simp [continued]
    | cons b bytes =>
      simp only [continued]
      split
      · exact Nat.le_trans (ih ..) (by simp)
      · simp

/-- The characters of a byte string, `none` where there is none. -/
def decode : Bytes → List (Option Char)
  | [] => []
  | a :: bytes =>
    if a < 0x80 then some (Char.ofNat a.toNat) :: decode bytes
    else
      match Lead.of? a with
      | none => none :: decode bytes
      | some lead =>
        have := length_continued lead.rest lead.least lead.greatest lead.bits bytes
        (continued lead.rest lead.least lead.greatest lead.bits bytes).1 ::
          decode (continued lead.rest lead.least lead.greatest lead.bits bytes).2
  termination_by b => b.length
  decreasing_by
    all_goals simp only [List.length_cons]
    all_goals omega

/-- The text of a byte string, U+FFFD standing for what is no character. -/
def lossy (bytes : Bytes) : List Char := (decode bytes).map (·.getD '\ufffd')

/-- The text of a byte string that holds nothing else. -/
def text? (bytes : Bytes) : Option (List Char) := (decode bytes).mapM id

end BayMap.Text.Utf8
