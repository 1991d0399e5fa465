import BayMap.Hctl.Reading
import BayMap.Proofs.Numerals

/-!
# The grammar of addresses

A text is an address exactly if it has four parts between colons and each is a number of its field.
Any other text is refused for the first field from the left that is at fault: for one that is no
number, with its text, and for one that is absent if all that are there are numbers. The last field
takes whatever follows the third colon, so that a fifth part makes it no number.

* `part_eq`: the fields that a reader cuts off are the parts between colons.
* `read_eq_error_iff`: the error of a text is that of the first field which has one.
* `read_eq_ok_iff`: the address of a text, field by field.
* `read_eq_missing_iff`, `read_eq_invalid_iff`: when a field is blamed, for which fault.
* `address_iff_four_numbers`: what is read, and which field is blamed for the rest.
-/

namespace BayMap.Hctl

open Text (IsLiteral NumeralError NumeralRange)

variable {α ε : Type} {text s : List Char} {f g : Field} {a : Address}

/-- The place of a field, from the left. -/
def Field.position : Field → Nat
  | .host => 0
  | .channel => 1
  | .target => 2
  | .lun => 3

/-! ## Parts -/

/-- What stands between colons for a field; for the last one, all that follows the third colon. -/
def part (text : List Char) : Field → Option (List Char)
  | .host => (text.splitOn ':')[0]?
  | .channel => (text.splitOn ':')[1]?
  | .target => (text.splitOn ':')[2]?
  | .lun =>
    if 3 < (text.splitOn ':').length then some ([':'].intercalate ((text.splitOn ':').drop 3))
    else none

theorem splitOn_eq (text : List Char) :
    text.splitOn ':' =
      (splitColon text).1 :: (((splitColon text).2.map (·.splitOn ':')).getD []) := by
  induction text with
  | nil => rfl
  | cons c rest ih =>
    rw [List.splitOn_cons_eq_if_modifyHead, splitColon]
    by_cases hc : c = ':'
    · simp [hc]
    · simp [hc, ih]

/-- The fields that a reader cuts off. -/
def Fields.get? (fields : Fields) : Field → Option (List Char)
  | .host => some fields.host
  | .channel => fields.channel
  | .target => fields.target
  | .lun => fields.lun

theorem part_eq (text : List Char) (f : Field) : part text f = (Fields.ofText text).get? f := by
  unfold Fields.ofText
  -- The text ends before the first colon, before the second one, before the third one, or after it.
  rcases h₁ : (splitColon text).2 with _ | rest₁
  · cases f <;> simp [part, Fields.get?, splitOn_eq text, h₁]
  rcases h₂ : (splitColon rest₁).2 with _ | rest₂
  · cases f <;> simp [part, Fields.get?, splitOn_eq text, h₁, splitOn_eq rest₁, h₂]
  have hparts : text.splitOn ':' =
      (splitColon text).1 :: (splitColon rest₁).1 :: rest₂.splitOn ':' := by
    simp [splitOn_eq text, h₁, splitOn_eq rest₁, h₂]
  rcases h₃ : (splitColon rest₂).2 with _ | rest₃
  · cases f <;> simp [part, Fields.get?, hparts, h₁, h₂, splitOn_eq rest₂, h₃]
  · have hpos : 0 < (rest₃.splitOn ':').length := by
      rw [List.length_pos_iff]
      exact List.splitOn_ne_nil ':' rest₃
    cases f <;> simp [part, Fields.get?, hparts, h₁, h₂, splitOn_eq rest₂, h₃, hpos]

theorem part_eq_none_iff : part text f = none ↔ (text.splitOn ':').length ≤ f.position := by
  cases f <;> simp [part, Field.position]

/-- The fields that are there come before those that are absent. -/
theorem position_lt_of_part (hg : part text g = some s) (hf : part text f = none) :
    g.position < f.position := by
  have hg : part text g ≠ none := by simp [hg]
  rw [ne_eq, part_eq_none_iff] at hg
  rw [part_eq_none_iff] at hf
  omega

theorem part_of_position_lt (h : g.position < f.position) (hf : part text f = some s) :
    ∃ s', part text g = some s' := by
  rw [← Option.ne_none_iff_exists', ne_eq, part_eq_none_iff]
  have hf : part text f ≠ none := by simp [hf]
  rw [ne_eq, part_eq_none_iff] at hf
  omega

theorem splitOn_eq_four {h c t l : List Char} (hl : ':' ∉ l) (hh : part text .host = some h)
    (hc : part text .channel = some c) (ht : part text .target = some t)
    (hlun : part text .lun = some l) : text.splitOn ':' = [h, c, t, l] := by
  rcases hparts : text.splitOn ':' with _ | ⟨p₀, _ | ⟨p₁, _ | ⟨p₂, _ | ⟨p₃, _ | ⟨p₄, rest⟩⟩⟩⟩⟩ <;>
    simp [part, hparts] at hh hc ht hlun
  · simp [hh, hc, ht, hlun]
  · -- A fifth part would bring a colon into the last field.
    simp [← hlun] at hl

/-! ## Numbers -/

/-- A number that a field may hold: one of 32 bits with a sign, for which `N` stands as a host, or
one of 64 bits in the last field. -/
def Field.IsNumber : Field → List Char → Int → Prop
  | .host, s, n => s = ['N'] ∧ n = 0x7fff ∨ IsLiteral (.signed 32) s n
  | .channel, s, n => IsLiteral (.signed 32) s n
  | .target, s, n => IsLiteral (.signed 32) s n
  | .lun, s, n => IsLiteral (.unsigned 64) s n

theorem not_isLiteral_N {range : NumeralRange} (h0 : range.Covers 0) {n : Int} :
    ¬ IsLiteral range ['N'] n := by
  intro h
  have hN := h.digit_or_sign h0 List.mem_cons_self
  revert hN
  decide

/-- The characters of a field. -/
theorem Field.IsNumber.mem {n : Int} (h : f.IsNumber s n) {c : Char} (hc : c ∈ s) :
    c.isDigit ∨ c ∈ ['+', '-', 'N'] := by
  have hliteral : ∀ {range : NumeralRange}, range.Covers 0 → IsLiteral range s n →
      c.isDigit ∨ c ∈ ['+', '-', 'N'] := fun h0 hl =>
    (hl.digit_or_sign h0 hc).imp_right fun hsign => by simpa [← or_assoc] using .inl hsign
  cases f with
  | host =>
    rcases h with ⟨rfl, -⟩ | h
    · rw [List.mem_singleton.1 hc]
      decide
    · exact hliteral Text.covers_signed h
  | channel => exact hliteral Text.covers_signed h
  | target => exact hliteral Text.covers_signed h
  | lun => exact hliteral Text.covers_unsigned h

theorem Field.IsNumber.colon_not_mem {n : Int} (h : f.IsNumber s n) : ':' ∉ s := by
  intro hcolon
  have hchar := h.mem hcolon
  revert hchar
  decide

theorem readHost_eq_ok_iff {x : Int32} :
    readHost s = .ok x ↔ Field.host.IsNumber s x.toInt := by
  unfold readHost Field.IsNumber
  split
  · rename_i hs
    subst hs
    rw [Except.ok.injEq, eq_comm, ← Int32.toInt_inj]
    show _ = (0x7fff : Int) ↔ _
    simp [not_isLiteral_N Text.covers_signed]
  · rename_i hs
    simp [hs, Text.readInt32_eq_ok_iff]

theorem not_isNumber_of_readHost {e : NumeralError} (h : readHost s = .error e) (n : Int) :
    ¬ Field.host.IsNumber s n := by
  unfold readHost at h
  split at h
  · cases h
  · rename_i hs
    rintro (⟨hN, -⟩ | hn)
    · exact hs hN
    · exact Text.not_isLiteral_of_readInt32 h hn

/-! ## One field -/

/-- The error of a field on its own, if it has one. -/
def errorOf (result : Except ε α) : Option ε :=
  match result with
  | .ok _ => none
  | .error e => some e

/-- The error that a text has in a field. -/
def fieldError (text : List Char) : Field → Option AddressError
  | .host => errorOf (readField .host readHost ((Fields.ofText text).get? .host))
  | .channel => errorOf (readField .channel Text.readInt32 ((Fields.ofText text).get? .channel))
  | .target => errorOf (readField .target Text.readInt32 ((Fields.ofText text).get? .target))
  | .lun => errorOf (readField .lun (Text.readUInt64 10) ((Fields.ofText text).get? .lun))

theorem errorOf_readField (f : Field) {read : List Char → Except NumeralError α} {toInt : α → Int}
    (hok : ∀ {s x}, read s = .ok x → f.IsNumber s (toInt x))
    (herror : ∀ {s e}, read s = .error e → ∀ n, ¬ f.IsNumber s n) (s? : Option (List Char)) :
    (∃ s n, s? = some s ∧ f.IsNumber s n ∧ errorOf (readField f read s?) = none) ∨
      (s? = none ∧ errorOf (readField f read s?) = some (.missing f)) ∨
      ∃ s cause, s? = some s ∧ (∀ n, ¬ f.IsNumber s n) ∧
        errorOf (readField f read s?) = some (.invalid f (.ofList s) cause) := by
  rcases s? with _ | s
  · exact .inr (.inl ⟨rfl, rfl⟩)
  · rcases h : read s with e | x
    · exact .inr (.inr ⟨s, e, rfl, herror h, by simp only [readField, h, errorOf]⟩)
    · exact .inl ⟨s, toInt x, rfl, hok h, by simp only [readField, h, errorOf]⟩

theorem fieldError_cases (text : List Char) (f : Field) :
    (∃ s n, part text f = some s ∧ f.IsNumber s n ∧ fieldError text f = none) ∨
      (part text f = none ∧ fieldError text f = some (.missing f)) ∨
      ∃ s cause, part text f = some s ∧ (∀ n, ¬ f.IsNumber s n) ∧
        fieldError text f = some (.invalid f (.ofList s) cause) := by
  rw [part_eq]
  cases f with
  | host => exact errorOf_readField .host readHost_eq_ok_iff.1 not_isNumber_of_readHost _
  | channel =>
    exact errorOf_readField .channel Text.readInt32_eq_ok_iff.1
      (fun h n => Text.not_isLiteral_of_readInt32 h) _
  | target =>
    exact errorOf_readField .target Text.readInt32_eq_ok_iff.1
      (fun h n => Text.not_isLiteral_of_readInt32 h) _
  | lun =>
    exact errorOf_readField .lun Text.readUInt64_ten_iff.1
      (fun h n => Text.not_isLiteral_of_readUInt64 h) _

theorem fieldError_eq_none_iff :
    fieldError text f = none ↔ ∃ s n, part text f = some s ∧ f.IsNumber s n := by
  rcases fieldError_cases text f with ⟨s, n, hs, hn, he⟩ | ⟨hs, he⟩ | ⟨s, cause, hs, hn, he⟩ <;>
    simp [hs, he]
  · exact ⟨n, hn⟩
  · exact hn

theorem fieldError_eq_missing_iff :
    fieldError text f = some (.missing g) ↔ f = g ∧ part text f = none := by
  rcases fieldError_cases text f with ⟨s, n, hs, hn, he⟩ | ⟨hs, he⟩ | ⟨s, cause, hs, hn, he⟩ <;>
    simp [hs, he]

theorem fieldError_eq_invalid_iff {t : String} :
    (∃ cause, fieldError text f = some (.invalid g t cause)) ↔
      f = g ∧ part text f = some t.toList ∧ ¬ ∃ n, f.IsNumber t.toList n := by
  rcases fieldError_cases text f with ⟨s, n, hs, hn, he⟩ | ⟨hs, he⟩ | ⟨s, cause, hs, hn, he⟩
  · simp only [hs, he]
    refine iff_of_false nofun ?_
    rintro ⟨-, ht, hnot⟩
    exact hnot ⟨n, Option.some.inj ht ▸ hn⟩
  · simp [hs, he]
  · simp only [hs, he]
    constructor
    · rintro ⟨cause', h⟩
      cases h
      exact ⟨rfl, by simp, by simpa using hn⟩
    · rintro ⟨rfl, ht, -⟩
      obtain rfl := Option.some.inj ht
      exact ⟨cause, by simp⟩

/-! ## All fields -/

theorem Field.forall_iff {P : Field → Prop} :
    (∀ f, P f) ↔ P .host ∧ P .channel ∧ P .target ∧ P .lun :=
  ⟨fun h => ⟨h _, h _, h _, h _⟩, fun ⟨h, c, t, l⟩ f => by cases f <;> assumption⟩

theorem Field.exists_iff {P : Field → Prop} :
    (∃ f, P f) ↔ P .host ∨ P .channel ∨ P .target ∨ P .lun := by
  constructor
  · rintro ⟨f, hf⟩
    cases f <;> simp [hf]
  · rintro (h | h | h | h) <;> exact ⟨_, h⟩

/-- The first of the errors that fields have. -/
theorem first_eq_some_iff {error : Field → Option ε} {e : ε} :
    (error .host).or ((error .channel).or ((error .target).or (error .lun))) = some e ↔
      ∃ f, error f = some e ∧ ∀ g, Field.position g < Field.position f → error g = none := by
  rcases h₀ : error .host with _ | e₀ <;> rcases h₁ : error .channel with _ | e₁ <;>
    rcases h₂ : error .target with _ | e₂ <;>
    simp [Field.exists_iff, Field.forall_iff, Field.position, h₀, h₁, h₂]

theorem errorOf_read (text : List Char) :
    errorOf (Address.read text) =
      (fieldError text .host).or ((fieldError text .channel).or
        ((fieldError text .target).or (fieldError text .lun))) := by
  simp only [Address.read, fieldError, Fields.get?]
  rcases readField .host readHost (some (Fields.ofText text).host) with e₀ | h
  · rfl
  rcases readField .channel Text.readInt32 (Fields.ofText text).channel with e₁ | c
  · rfl
  rcases readField .target Text.readInt32 (Fields.ofText text).target with e₂ | t
  · rfl
  rcases readField .lun (Text.readUInt64 10) (Fields.ofText text).lun with e₃ | l
  · rfl
  · rfl

theorem read_eq_error_iff {e : AddressError} :
    Address.read text = .error e ↔
      ∃ f, fieldError text f = some e ∧
        ∀ g : Field, g.position < f.position → fieldError text g = none := by
  rw [← first_eq_some_iff, ← errorOf_read]
  rcases Address.read text with e' | a <;> simp [errorOf]

theorem readField_eq_ok_iff {read : List Char → Except NumeralError α} {s? : Option (List Char)}
    {x : α} : readField f read s? = .ok x ↔ ∃ s, s? = some s ∧ read s = .ok x := by
  rcases s? with _ | s
  · simp [readField]
  · rcases h : read s with e | y <;> simp [readField, h]

theorem read_eq_ok_iff_readField :
    Address.read text = .ok a ↔
      readField .host readHost ((Fields.ofText text).get? .host) = .ok a.host ∧
      readField .channel Text.readInt32 ((Fields.ofText text).get? .channel) = .ok a.channel ∧
      readField .target Text.readInt32 ((Fields.ofText text).get? .target) = .ok a.target ∧
      readField .lun (Text.readUInt64 10) ((Fields.ofText text).get? .lun) = .ok a.lun := by
  simp only [Address.read, Fields.get?]
  rcases readField .host readHost (some (Fields.ofText text).host) with e₀ | h
  · simp [bind, Except.bind]
  rcases readField .channel Text.readInt32 (Fields.ofText text).channel with e₁ | c
  · simp [bind, Except.bind]
  rcases readField .target Text.readInt32 (Fields.ofText text).target with e₂ | t
  · simp [bind, Except.bind]
  rcases readField .lun (Text.readUInt64 10) (Fields.ofText text).lun with e₃ | l
  · simp [bind, Except.bind]
  · obtain ⟨h', c', t', l'⟩ := a
    simp [bind, Except.bind, pure, Except.pure]

theorem read_eq_ok_iff :
    Address.read text = .ok a ↔ ∃ h c t l, text.splitOn ':' = [h, c, t, l] ∧
      Field.host.IsNumber h a.host.toInt ∧ Field.channel.IsNumber c a.channel.toInt ∧
      Field.target.IsNumber t a.target.toInt ∧ Field.lun.IsNumber l a.lun.toNat := by
  rw [read_eq_ok_iff_readField]
  simp only [← part_eq, readField_eq_ok_iff, readHost_eq_ok_iff, Text.readInt32_eq_ok_iff,
    Text.readUInt64_ten_iff]
  constructor
  · rintro ⟨⟨h, hh, hhost⟩, ⟨c, hc, hchannel⟩, ⟨t, ht, htarget⟩, ⟨l, hl, hlun⟩⟩
    have hparts := splitOn_eq_four (Field.IsNumber.colon_not_mem (f := .lun) hlun) hh hc ht hl
    exact ⟨h, c, t, l, hparts, hhost, hchannel, htarget, hlun⟩
  · rintro ⟨h, c, t, l, hparts, hhost, hchannel, htarget, hlun⟩
    exact ⟨⟨h, by simp [part, hparts], hhost⟩, ⟨c, by simp [part, hparts], hchannel⟩,
      ⟨t, by simp [part, hparts], htarget⟩, ⟨l, by simp [part, hparts], hlun⟩⟩

/-- Whether a text is an address, whichever it is. -/
theorem exists_read_iff :
    (∃ a, Address.read text = .ok a) ↔
      ∃ host channel target lun, text.splitOn ':' = [host, channel, target, lun] ∧
        (∃ n, Field.host.IsNumber host n) ∧ (∃ n, Field.channel.IsNumber channel n) ∧
        (∃ n, Field.target.IsNumber target n) ∧ ∃ n, Field.lun.IsNumber lun n := by
  constructor
  · rintro ⟨a, ha⟩
    obtain ⟨h, c, t, l, hparts, hhost, hchannel, htarget, hlun⟩ := read_eq_ok_iff.1 ha
    exact ⟨h, c, t, l, hparts, ⟨_, hhost⟩, ⟨_, hchannel⟩, ⟨_, htarget⟩, ⟨_, hlun⟩⟩
  · rintro ⟨h, c, t, l, hparts, ⟨n₀, hhost⟩, ⟨n₁, hchannel⟩, ⟨n₂, htarget⟩, ⟨n₃, hlun⟩⟩
    rcases hread : Address.read text with e | a
    · obtain ⟨f, hf, -⟩ := read_eq_error_iff.1 hread
      have hnone : fieldError text f = none := by
        rw [fieldError_eq_none_iff]
        cases f with
        | host => exact ⟨h, n₀, by simp [part, hparts], hhost⟩
        | channel => exact ⟨c, n₁, by simp [part, hparts], hchannel⟩
        | target => exact ⟨t, n₂, by simp [part, hparts], htarget⟩
        | lun => exact ⟨l, n₃, by simp [part, hparts], hlun⟩
      rw [hnone] at hf
      cases hf
    · exact ⟨a, rfl⟩

/-- A field that has no error is a number where it is there. -/
theorem isNumber_of_part (hf : fieldError text f = none) (hs : part text f = some s) :
    ∃ n, f.IsNumber s n := by
  obtain ⟨s', n, hs', hn⟩ := fieldError_eq_none_iff.1 hf
  rw [hs] at hs'
  exact ⟨n, Option.some.inj hs' ▸ hn⟩

theorem read_eq_missing_iff :
    Address.read text = .error (.missing f) ↔
      (∀ g s, part text g = some s → ∃ n, g.IsNumber s n) ∧ part text f = none ∧
        ∀ g : Field, g.position < f.position → part text g ≠ none := by
  rw [read_eq_error_iff]
  constructor
  · rintro ⟨f', hf, hbefore⟩
    obtain ⟨rfl, hnone⟩ := fieldError_eq_missing_iff.1 hf
    refine ⟨fun g s hs => ?_, hnone, fun g hg => ?_⟩
    · exact isNumber_of_part (hbefore g (position_lt_of_part hs hnone)) hs
    · obtain ⟨s, n, hs, -⟩ := fieldError_eq_none_iff.1 (hbefore g hg)
      simp [hs]
  · rintro ⟨hnumbers, hnone, hbefore⟩
    refine ⟨f, fieldError_eq_missing_iff.2 ⟨rfl, hnone⟩, fun g hg => ?_⟩
    obtain ⟨s, hs⟩ := Option.ne_none_iff_exists'.1 (hbefore g hg)
    obtain ⟨n, hn⟩ := hnumbers g s hs
    exact fieldError_eq_none_iff.2 ⟨s, n, hs, hn⟩

theorem read_eq_invalid_iff {t : String} :
    (∃ cause, Address.read text = .error (.invalid f t cause)) ↔
      part text f = some t.toList ∧ (¬ ∃ n, f.IsNumber t.toList n) ∧
        ∀ g : Field, g.position < f.position →
          ∀ s, part text g = some s → ∃ n, g.IsNumber s n := by
  constructor
  · rintro ⟨cause, hread⟩
    obtain ⟨f', hf, hbefore⟩ := read_eq_error_iff.1 hread
    obtain ⟨rfl, hs, hn⟩ := fieldError_eq_invalid_iff.1 ⟨cause, hf⟩
    exact ⟨hs, hn, fun g hg s hs => isNumber_of_part (hbefore g hg) hs⟩
  · rintro ⟨hs, hn, hbefore⟩
    obtain ⟨cause, hf⟩ := fieldError_eq_invalid_iff.2 ⟨rfl, hs, hn⟩
    refine ⟨cause, read_eq_error_iff.2 ⟨f, hf, fun g hg => ?_⟩⟩
    obtain ⟨s, hs'⟩ := part_of_position_lt hg hs
    obtain ⟨n, hn⟩ := hbefore g hg s hs'
    exact fieldError_eq_none_iff.2 ⟨s, n, hs', hn⟩

/-- A text is an address exactly if it has four parts between colons that are numbers of their
fields, and then it is the address of these numbers. Else the field to blame is the first one that
is there and is no number, and is named with its text; where all that are there are numbers, it is
the first one that is absent. -/
theorem address_iff_four_numbers (text : String) :
    ((∃ a, Address.ofString text = .ok a) ↔
      ∃ host channel target lun, text.toList.splitOn ':' = [host, channel, target, lun] ∧
        (∃ n, Field.host.IsNumber host n) ∧ (∃ n, Field.channel.IsNumber channel n) ∧
        (∃ n, Field.target.IsNumber target n) ∧ ∃ n, Field.lun.IsNumber lun n) ∧
    (∀ a, Address.ofString text = .ok a ↔
      ∃ host channel target lun, text.toList.splitOn ':' = [host, channel, target, lun] ∧
        Field.host.IsNumber host a.host.toInt ∧ Field.channel.IsNumber channel a.channel.toInt ∧
        Field.target.IsNumber target a.target.toInt ∧ Field.lun.IsNumber lun a.lun.toNat) ∧
    (∀ f, Address.ofString text = .error (.missing f) ↔
      (∀ g s, part text.toList g = some s → ∃ n, g.IsNumber s n) ∧ part text.toList f = none ∧
        ∀ g : Field, g.position < f.position → part text.toList g ≠ none) ∧
    ∀ f s, (∃ cause, Address.ofString text = .error (.invalid f s cause)) ↔
      part text.toList f = some s.toList ∧ (¬ ∃ n, f.IsNumber s.toList n) ∧
        ∀ g : Field, g.position < f.position →
          ∀ s', part text.toList g = some s' → ∃ n, g.IsNumber s' n :=
  ⟨exists_read_iff, fun _ => read_eq_ok_iff, fun _ => read_eq_missing_iff,
    fun _ _ => read_eq_invalid_iff⟩

/-- A fifth number is taken for a part of the fourth. -/
example : Address.ofString "0:0:0:0:0" = .error (.invalid .lun "0:0" .invalidDigit) := by decide

end BayMap.Hctl
