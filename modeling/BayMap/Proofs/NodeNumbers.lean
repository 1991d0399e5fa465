import BayMap.Proofs.Numerals
import BayMap.Transport.Ordinal
import Mathlib.Data.List.DropRight

/-!
# The numbers of controller nodes

The number of a node is what the digits at the end of its name say, in base ten, and zero without
any. Zeros in front do not matter, however many there are; digits that say more than 255 are no
number. The name is the last one of the path: slashes and points behind it say nothing, and what
leads upwards is no name.

* `fileName_eq_some_iff`: where the name of a path stands in its text.
* `trailingDigits_append`: the digits at the end of a name.
* `exists_isNumbered`: every name is a stem and its digits.
* `ordinalOf_eq`: what the digits say.
* `ordinal_reads_trailing_number`: all of this, and that nodes of one stem have different numbers.
-/

namespace BayMap.Files.Path

variable {path name : String} {text before after word : List Char} {front back : List (List Char)}

theorem split_eq_splitOn (separator : Char) (text : List Char) :
    split separator text = text.splitOn separator := by
  induction text with
  | nil => rfl
  | cons c rest ih =>
    rw [split, List.splitOn_cons_eq_if_modifyHead, ih]
    by_cases hc : c = separator
    · simp [hc]
    · obtain ⟨part, parts, hparts⟩ :=
        List.exists_cons_of_ne_nil (List.splitOn_ne_nil separator rest)
      simp [hc, hparts]

/-- The parts that say nothing. -/
def IsMute (part : List Char) : Prop := part = [] ∨ part = ['.']

/-- What may follow the last name of a path: slashes, and points between them. -/
inductive IsTail : List Char → Prop
  | nil : IsTail []
  | slash {rest : List Char} (h : IsTail rest) : IsTail ('/' :: rest)
  | point {rest : List Char} (h : IsTail rest) : IsTail ('/' :: '.' :: rest)

/-- A name that an entry of a directory may have. -/
structure IsName (word : List Char) : Prop where
  slash_not_mem : '/' ∉ word
  not_mute : ¬ IsMute word
  not_up : word ≠ ['.', '.']

/-- A path ends in a name: the name stands at the start or behind a slash, and nothing that says
anything follows it. -/
def EndsIn (path word : List Char) : Prop :=
  IsName word ∧ ∃ before after, path = before ++ word ++ after ∧
    (before = [] ∨ ∃ directory, before = directory ++ ['/']) ∧ IsTail after

theorem splitOn_append_tail (hword : '/' ∉ word) (h : IsTail after) :
    ∃ back, (word ++ after).splitOn '/' = word :: back ∧ ∀ part ∈ back, IsMute part := by
  induction h generalizing word with
  | nil => exact ⟨[], by rw [List.append_nil, List.splitOn_eq_singleton hword], by simp⟩
  | slash _ ih =>
    obtain ⟨back, hback, hmute⟩ := ih (List.not_mem_nil : '/' ∉ [])
    refine ⟨[] :: back, ?_, ?_⟩
    · rw [List.splitOn_append_cons_self_of_not_mem hword, ← hback, List.nil_append]
    · exact List.forall_mem_cons.2 ⟨.inl rfl, hmute⟩
  | point _ ih =>
    obtain ⟨back, hback, hmute⟩ := ih (by decide : '/' ∉ ['.'])
    refine ⟨['.'] :: back, ?_, ?_⟩
    · rw [List.splitOn_append_cons_self_of_not_mem hword, ← hback, List.singleton_append]
    · exact List.forall_mem_cons.2 ⟨.inr rfl, hmute⟩

/-- The parts of a path that ends in a name: those before the name, and then only mute ones. -/
theorem EndsIn.splitOn (h : EndsIn text word) :
    ∃ front back, text.splitOn '/' = front ++ word :: back ∧ ∀ part ∈ back, IsMute part := by
  obtain ⟨hname, before, after, rfl, hbefore, htail⟩ := h
  obtain ⟨back, hback, hmute⟩ := splitOn_append_tail hname.slash_not_mem htail
  rcases hbefore with rfl | ⟨directory, rfl⟩
  · exact ⟨[], back, hback, hmute⟩
  · refine ⟨directory.splitOn '/', back, ?_, hmute⟩
    rw [List.append_assoc, List.append_assoc, List.singleton_append,
      List.splitOn_append_cons_self, hback]

theorem exists_tail (word : List Char) (hmute : ∀ part ∈ back, IsMute part) :
    ∃ after, ['/'].intercalate (word :: back) = word ++ after ∧ IsTail after := by
  induction back generalizing word with
  | nil => exact ⟨[], by simp, .nil⟩
  | cons part rest ih =>
    obtain ⟨hpart, hrest⟩ := List.forall_mem_cons.1 hmute
    obtain ⟨after, hafter, htail⟩ := ih part hrest
    refine ⟨'/' :: (part ++ after), ?_, ?_⟩
    · rw [List.intercalate_cons_cons, hafter, List.append_assoc, List.singleton_append]
    · rcases hpart with rfl | rfl
      · exact htail.slash
      · exact htail.point

theorem exists_before (word : List Char) (front back : List (List Char)) :
    ∃ before, ['/'].intercalate (front ++ word :: back) =
        before ++ ['/'].intercalate (word :: back) ∧
      (before = [] ∨ ∃ directory, before = directory ++ ['/']) := by
  induction front with
  | nil => exact ⟨[], rfl, .inl rfl⟩
  | cons part rest ih =>
    obtain ⟨before, hbefore, hslash⟩ := ih
    obtain ⟨next, more, hnext⟩ := List.exists_cons_of_ne_nil
      (List.append_ne_nil_of_right_ne_nil rest (List.cons_ne_nil word back))
    refine ⟨part ++ '/' :: before, ?_, .inr ?_⟩
    · rw [List.cons_append, hnext, List.intercalate_cons_cons, ← hnext, hbefore]
      simp
    · rcases hslash with rfl | ⟨directory, rfl⟩
      · exact ⟨part, rfl⟩
      · exact ⟨part ++ '/' :: directory, by simp⟩

theorem endsIn_of_splitOn (hname : IsName word) (hparts : text.splitOn '/' = front ++ word :: back)
    (hmute : ∀ part ∈ back, IsMute part) : EndsIn text word := by
  obtain ⟨before, hbefore, hslash⟩ := exists_before word front back
  obtain ⟨after, hafter, htail⟩ := exists_tail word hmute
  refine ⟨hname, before, after, ?_, hslash, htail⟩
  calc text = ['/'].intercalate (text.splitOn '/') := (List.intercalate_splitOn '/').symm
    _ = before ++ word ++ after := by rw [hparts, hbefore, hafter, List.append_assoc]

theorem slash_not_mem_of_mem_splitOn (h : word ∈ text.splitOn '/') : '/' ∉ word := by
  induction text generalizing word with
  | nil =>
    rw [List.splitOn_nil, List.mem_singleton] at h
    simp [h]
  | cons c rest ih =>
    obtain ⟨part, parts, hparts⟩ := List.exists_cons_of_ne_nil (List.splitOn_ne_nil '/' rest)
    rw [List.splitOn_cons_eq_if_modifyHead] at h
    split at h
    · rcases List.mem_cons.1 h with rfl | h
      · simp
      · exact ih h
    · rename_i hc
      rw [hparts, List.modifyHead_cons] at h
      rcases List.mem_cons.1 h with rfl | h
      · have hpart : '/' ∉ part := ih (by simp [hparts])
        rintro (_ | ⟨_, hmem⟩)
        · exact hc rfl
        · exact hpart hmem
      · exact ih (by simp [hparts, h])

theorem parts_eq (path : String) : parts path = (path.toList.splitOn '/').map .ofList := by
  rw [parts, split_eq_splitOn]

theorem isMute_toList {part : String} : IsMute part.toList ↔ part = "" ∨ part = "." := by
  rw [IsMute, String.toList_eq_nil_iff, show ['.'] = ".".toList from rfl, String.toList_inj]

/-- The name of a path is the one that it ends in. -/
theorem fileName_eq_some_iff : fileName path = some name ↔ EndsIn path.toList name.toList := by
  have hspeaks : ∀ part : String,
      decide (part ≠ "" ∧ part ≠ ".") = true ↔ ¬ IsMute part.toList := by
    simp [isMute_toList]
  have hsilent : ∀ part : String,
      (!decide (part ≠ "" ∧ part ≠ ".")) = true ↔ IsMute part.toList := by
    intro part
    rw [Bool.not_eq_true', ← Bool.not_eq_true, hspeaks, not_not]
  have hup : decide (name ≠ "..") = true ↔ name.toList ≠ ['.', '.'] := by
    rw [decide_eq_true_eq, ne_eq, ← String.toList_inj]
    rfl
  -- The name is looked for from the end, so the parts behind it come first, in reverse.
  rw [fileName, Option.filter_eq_some_iff, List.getLast?_filter, List.find?_eq_some_iff_append, hup,
    hspeaks]
  constructor
  · rintro ⟨⟨hname, after, before, hparts, hmute⟩, hup⟩
    have hsplit : path.toList.splitOn '/' =
        before.reverse.map (·.toList) ++ name.toList :: after.reverse.map (·.toList) := by
      have h := congrArg (fun l => l.reverse.map String.toList) hparts
      simpa [parts_eq, Function.comp_def] using h
    have hmem : name.toList ∈ path.toList.splitOn '/' := by simp [hsplit]
    refine endsIn_of_splitOn ⟨slash_not_mem_of_mem_splitOn hmem, hname, hup⟩ hsplit ?_
    intro part hpart
    obtain ⟨s, hs, rfl⟩ := List.mem_map.1 hpart
    exact (hsilent s).1 (hmute s (List.mem_reverse.1 hs))
  · intro h
    obtain ⟨front, back, hsplit, hmute⟩ := h.splitOn
    refine ⟨⟨h.1.not_mute, (back.map .ofList).reverse, (front.map .ofList).reverse, ?_, ?_⟩,
      h.1.not_up⟩
    · rw [parts_eq, hsplit]
      simp
    · intro s hs
      obtain ⟨part, hpart, rfl⟩ := List.mem_map.1 (List.mem_reverse.1 hs)
      rw [hsilent, String.toList_ofList]
      exact hmute part hpart

end BayMap.Files.Path

namespace BayMap.Transport

open Files.Path (EndsIn)

variable {path : String} {stem number : List Char}

/-- The digits of a number behind a stem that ends in none are all the digits at the end. -/
theorem trailingDigits_append (hnumber : ∀ c ∈ number, c.isDigit)
    (hstem : ∀ h : stem ≠ [], ¬ (stem.getLast h).isDigit) :
    trailingDigits (stem ++ number) = number := by
  have hnone : stem.reverse.takeWhile Char.isDigit = [] :=
    List.reverse_eq_nil_iff.1 (List.rtakeWhile_eq_nil_iff.2 hstem)
  rw [trailingDigits, List.reverse_append,
    List.takeWhile_append_of_pos fun c hc => hnumber c (List.mem_reverse.1 hc), hnone,
    List.append_nil, List.reverse_reverse]

/-- A path ends in a name of a stem and a number, which is all the digits at the end of the name and
may have none. -/
structure IsNumbered (path : String) (stem number : List Char) : Prop where
  ends : EndsIn path.toList (stem ++ number)
  digits : ∀ c ∈ number, c.isDigit
  maximal : ∀ h : stem ≠ [], ¬ (stem.getLast h).isDigit

/-- Every name is a stem and its number. -/
theorem exists_isNumbered {name : String} (h : Files.Path.fileName path = some name) :
    ∃ stem number, IsNumbered path stem number ∧ name.toList = stem ++ number := by
  have hname : name.toList.rdropWhile Char.isDigit ++ name.toList.rtakeWhile Char.isDigit =
      name.toList := List.rdropWhile_append_rtakeWhile
  refine ⟨_, _, ⟨?_, ?_, ?_⟩, hname.symm⟩
  · rw [hname]
    exact Files.Path.fileName_eq_some_iff.1 h
  · exact fun c hc => List.mem_rtakeWhile_imp hc
  · exact List.rdropWhile_last_not Char.isDigit name.toList

/-- The number of a node, where its digits say one. -/
theorem ordinalOf_eq (h : IsNumbered path stem number) :
    ordinalOf path =
      if Nat.ofDigitChars 10 number 0 ≤ 255 then some (.ofNat (Nat.ofDigitChars 10 number 0))
      else none := by
  have hname : Files.Path.fileName path = some (.ofList (stem ++ number)) := by
    rw [Files.Path.fileName_eq_some_iff, String.toList_ofList]
    exact h.ends
  simp only [ordinalOf, hname, String.toList_ofList, trailingDigits_append h.digits h.maximal]
  split
  · rename_i hnil
    rw [hnil]
    rfl
  · rename_i hne
    rw [Text.toOption_readUInt8 hne (Text.isDigits_ten.2 h.digits), Text.value_ten h.digits]

theorem ordinalOf_eq_some_iff (h : IsNumbered path stem number) {ordinal : UInt8} :
    ordinalOf path = some ordinal ↔ Nat.ofDigitChars 10 number 0 = ordinal.toNat := by
  have hordinal := ordinal.toNat_lt
  rw [ordinalOf_eq h]
  split
  · rename_i hle
    rw [Option.some.injEq, ← UInt8.toNat_inj, UInt8.toNat_ofNat', Nat.mod_eq_of_lt (by omega)]
  · rename_i hlarge
    refine iff_of_false nofun ?_
    omega

theorem ordinalOf_eq_none_iff (h : IsNumbered path stem number) :
    ordinalOf path = none ↔ 255 < Nat.ofDigitChars 10 number 0 := by
  rw [ordinalOf_eq h]
  split
  · rename_i hle
    exact iff_of_false nofun (Nat.not_lt.2 hle)
  · rename_i hlarge
    exact iff_of_true rfl (Nat.not_le.1 hlarge)

/-- A number that is written has digits only. -/
theorem isNumbered_decimal {n : Nat} (h : EndsIn path.toList (stem ++ (Text.decimal n).toList))
    (hstem : ∀ h : stem ≠ [], ¬ (stem.getLast h).isDigit) :
    IsNumbered path stem (Text.decimal n).toList := by
  refine ⟨h, fun c hc => ?_, hstem⟩
  rw [Text.decimal, String.toList_ofList] at hc
  exact Nat.isDigit_of_mem_toDigits (by decide) (by decide) hc

/-- A number up to 255 is the number of the node whose name it is written behind. -/
theorem ordinalOf_decimal {n : Nat} (hn : n ≤ 255)
    (h : IsNumbered path stem (Text.decimal n).toList) : ordinalOf path = some (.ofNat n) := by
  rw [ordinalOf_eq_some_iff h, Text.decimal, String.toList_ofList, Text.digits,
    Nat.ofDigitChars_ten_toDigits, UInt8.toNat_ofNat', Nat.mod_eq_of_lt (by omega)]

/-- A path without a name has the number zero. Any other ends in a name of a stem and a number, and
its digits, in base ten and with any zeros in front, say the number of the node, or none if it is
above 255; without any the number is zero. So two names of one stem with numbers up to 255 as they
are written say the same number only if these are the same. -/
theorem ordinal_reads_trailing_number (path : String) :
    (Files.Path.fileName path = none → ordinalOf path = some 0) ∧
    (∀ name, Files.Path.fileName path = some name →
      ∃ stem number, IsNumbered path stem number ∧ name.toList = stem ++ number) ∧
    (∀ stem number, IsNumbered path stem number →
      (number = [] → ordinalOf path = some 0) ∧
      (∀ ordinal, ordinalOf path = some ordinal ↔
        Nat.ofDigitChars 10 number 0 = ordinal.toNat) ∧
      (ordinalOf path = none ↔ 255 < Nat.ofDigitChars 10 number 0)) ∧
    ∀ other stem m n, m ≤ 255 → n ≤ 255 → IsNumbered path stem (Text.decimal m).toList →
      IsNumbered other stem (Text.decimal n).toList →
      (ordinalOf path = ordinalOf other ↔ m = n) := by
  refine ⟨?_, fun name => exists_isNumbered, ?_, ?_⟩
  · intro hnone
    rw [ordinalOf, hnone]
  · intro stem number h
    refine ⟨?_, fun ordinal => ordinalOf_eq_some_iff h, ordinalOf_eq_none_iff h⟩
    rintro rfl
    exact (ordinalOf_eq_some_iff h).2 rfl
  · intro other stem m n hm hn hpath hother
    rw [ordinalOf_decimal hm hpath, ordinalOf_decimal hn hother, Option.some.injEq,
      ← UInt8.toNat_inj, UInt8.toNat_ofNat', UInt8.toNat_ofNat', Nat.mod_eq_of_lt (by omega),
      Nat.mod_eq_of_lt (by omega)]

/-- Two nodes of one stem, the path of the second with a point behind it. -/
theorem ordinal_reads_trailing_number_twoNodes :
    IsNumbered "/dev/bsg/mpi3mrctl12" "mpi3mrctl".toList (Text.decimal 12).toList ∧
      IsNumbered "/dev/bsg/mpi3mrctl3/." "mpi3mrctl".toList (Text.decimal 3).toList ∧
      ordinalOf "/dev/bsg/mpi3mrctl12" = some 12 ∧
      ordinalOf "/dev/bsg/mpi3mrctl12" ≠ ordinalOf "/dev/bsg/mpi3mrctl3/." := by
  have hdirectory : "/dev/bsg/".toList = "/dev/bsg".toList ++ ['/'] := by decide
  have hnode : IsNumbered "/dev/bsg/mpi3mrctl12" "mpi3mrctl".toList (Text.decimal 12).toList :=
    isNumbered_decimal ⟨⟨by decide, by simp [Files.Path.IsMute], by decide⟩, "/dev/bsg/".toList, [],
      by decide, .inr ⟨_, hdirectory⟩, .nil⟩ (by decide)
  have hother : IsNumbered "/dev/bsg/mpi3mrctl3/." "mpi3mrctl".toList (Text.decimal 3).toList :=
    isNumbered_decimal ⟨⟨by decide, by simp [Files.Path.IsMute], by decide⟩, "/dev/bsg/".toList,
      "/.".toList, by decide, .inr ⟨_, hdirectory⟩, .point .nil⟩ (by decide)
  obtain ⟨-, -, hread, hdistinct⟩ := ordinal_reads_trailing_number "/dev/bsg/mpi3mrctl12"
  obtain ⟨-, hordinal, -⟩ := hread _ _ hnode
  refine ⟨hnode, hother, (hordinal 12).2 (by decide), ?_⟩
  intro hsame
  have h : 12 = 3 := (hdistinct _ _ _ _ (by decide) (by decide) hnode hother).1 hsame
  cases h

end BayMap.Transport
