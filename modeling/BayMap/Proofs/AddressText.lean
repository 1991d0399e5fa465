import BayMap.Proofs.AddressGrammar

/-!
# The text of an address

An address is written with one literal a field, or `N` for the host of name spaces, so that its text
is read back as the same address. The host 0x7fff has two readings, `N` and `32767`, of which the
first is written. The enumeration order compares all four fields: only an address itself is equal
to it.

* `ofString_text`: the text of an address is read back.
* `text_and_order_identify`: an address, its text and its place in the order determine each other.
-/

namespace BayMap.Hctl

variable {a b c : Address}

/-! ## Text -/

/-- What is written for the host of an address. -/
def Address.hostText (a : Address) : String :=
  if a.isNvme then "N" else Text.integer a.host.toInt

theorem isNumber_hostText (a : Address) :
    Field.host.IsNumber a.hostText.toList a.host.toInt := by
  unfold Address.hostText
  split
  · rename_i h
    have hhost : a.host = nvmeHost := by simpa [Address.isNvme] using h
    rw [hhost]
    exact .inl ⟨rfl, rfl⟩
  · exact .inr (Text.isLiteral_integer (Text.covers_toInt a.host))

/-- The text of an address is read as the address. -/
theorem ofString_text (a : Address) : Address.ofString a.text = .ok a := by
  have hhost := isNumber_hostText a
  have hchannel : Field.channel.IsNumber (Text.integer a.channel.toInt).toList a.channel.toInt :=
    Text.isLiteral_integer (Text.covers_toInt a.channel)
  have htarget : Field.target.IsNumber (Text.integer a.target.toInt).toList a.target.toInt :=
    Text.isLiteral_integer (Text.covers_toInt a.target)
  have hlun : Field.lun.IsNumber (Text.decimal a.lun.toNat).toList a.lun.toNat :=
    Text.isLiteral_decimal (Text.covers_toNat a.lun)
  have htext : a.text.toList = a.hostText.toList ++ ':' :: ((Text.integer a.channel.toInt).toList ++
      ':' :: ((Text.integer a.target.toInt).toList ++ ':' :: (Text.decimal a.lun.toNat).toList)) := by
    simp [Address.text, Address.hostText]
  refine read_eq_ok_iff.2 ⟨_, _, _, _, ?_, hhost, hchannel, htarget, hlun⟩
  rw [htext, List.splitOn_append_cons_self_of_not_mem hhost.colon_not_mem,
    List.splitOn_append_cons_self_of_not_mem hchannel.colon_not_mem,
    List.splitOn_append_cons_self_of_not_mem htarget.colon_not_mem,
    List.splitOn_eq_singleton hlun.colon_not_mem]

/-- An address, its text and its place in the order determine each other: its text is read back as
an address with the same fields and unit bytes, also where the address was itself read from some
other text, and no other address has this text or compares equal. -/
theorem text_and_order_identify (a b : Address) :
    (∃ c, Address.ofString a.text = .ok c ∧ c.host = a.host ∧ c.channel = a.channel ∧
      c.target = a.target ∧ c.lun = a.lun ∧ c.lunBytes = a.lunBytes) ∧
    (a.text = b.text → a = b) ∧
    (∀ text c, Address.ofString text = .ok c → Address.ofString c.text = .ok c) ∧
    (a.order b = .eq ↔ a.host = b.host ∧ a.channel = b.channel ∧ a.target = b.target ∧
      a.lun = b.lun ∧ a.lunBytes = b.lunBytes) := by
  refine ⟨⟨a, ofString_text a, rfl, rfl, rfl, rfl, rfl⟩, fun h => ?_, fun _ c _ => ofString_text c,
    ?_⟩
  · have hread := ofString_text a
    rw [h, ofString_text b] at hread
    exact (Except.ok.inj hread).symm
  · rw [Address.order_eq_iff]
    constructor
    · rintro rfl
      exact ⟨rfl, rfl, rfl, rfl, rfl⟩
    · rintro ⟨hh, hc, ht, hl, -⟩
      obtain ⟨h, c, t, l⟩ := a
      cases hh
      cases hc
      cases ht
      cases hl
      rfl

end BayMap.Hctl
