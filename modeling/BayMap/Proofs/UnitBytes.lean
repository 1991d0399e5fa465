import BayMap.Hctl.Reading

/-!
# What unit bytes tell of a unit

The eight bytes of a logical unit are its four words of 16 bits, the lowest first, and tell all of
it. The number of a name space has 32 bits, and its bytes are these with the lowest first: of an
address whose unit has more than 32 bits they tell the low 32.

* `ofWords_lunBytes`: the unit behind a SCSI host.
* `ofLE_lunBytes`: the number of a name space.
* `unit_bytes_tell_unit`: what the bytes tell, and when two addresses with the same bytes have the
  same unit.
-/

namespace BayMap.Bytes

/-- The number whose words of 16 bits come lowest first, each with its high byte first. -/
def ofWords : Bytes → Nat
  | high :: low :: rest => ofBE [high, low] + 0x10000 * ofWords rest
  | _ => 0

theorem ofWords_be (n : Nat) (rest : Bytes) :
    ofWords (be 2 n ++ rest) = n % 0x10000 + 0x10000 * ofWords rest := by
  have hword : ofBE (be 2 n) = n % 0x10000 := by
    rw [ofBE, be, List.reverse_reverse, ofLE_le]
    rfl
  show ofBE (be 2 n) + 0x10000 * ofWords rest = _
  rw [hword]

end BayMap.Bytes

namespace BayMap.Hctl

open Bytes (ofWords ofLE)

variable {a b : Address}

theorem ofWords_lunBytes (h : a.isNvme = false) : ofWords a.lunBytes = a.lun.toNat := by
  have hlun := a.lun.toNat_lt
  have hbytes : a.lunBytes = Bytes.be 2 a.lun.toNat ++ (Bytes.be 2 (a.lun.toNat >>> 16) ++
      (Bytes.be 2 (a.lun.toNat >>> 32) ++ (Bytes.be 2 (a.lun.toNat >>> 48) ++ []))) := by
    simp [Address.lunBytes, h]
  rw [hbytes, Bytes.ofWords_be, Bytes.ofWords_be, Bytes.ofWords_be, Bytes.ofWords_be,
    show ofWords [] = 0 from rfl]
  simp only [Nat.shiftRight_eq_div_pow]
  omega

theorem ofLE_lunBytes (h : a.isNvme = true) : ofLE a.lunBytes = a.lun.toNat % 0x100000000 := by
  rw [Address.lunBytes, if_pos h, Bytes.ofLE_append_zeros, Bytes.ofLE_le]
  rfl

/-- Behind one host, the bytes of a unit tell it, unless it has more than the 32 bits of a name
space. -/
theorem lun_eq_iff_of_lunBytes (hhost : a.host = b.host) (hbytes : a.lunBytes = b.lunBytes) :
    a.lun = b.lun ↔ a.isNvme = false ∨ a.lun.toNat / 0x100000000 = b.lun.toNat / 0x100000000 := by
  have hb : b.isNvme = a.isNvme := by rw [Address.isNvme, ← hhost, Address.isNvme]
  rw [← UInt64.toNat_inj]
  cases hn : a.isNvme with
  | false =>
    have hlun : a.lun.toNat = b.lun.toNat := by
      rw [← ofWords_lunBytes hn, hbytes, ofWords_lunBytes (hb.trans hn)]
    simp [hlun]
  | true =>
    have hlow : a.lun.toNat % 0x100000000 = b.lun.toNat % 0x100000000 := by
      rw [← ofLE_lunBytes hn, hbytes, ofLE_lunBytes (hb.trans hn)]
    simp only [Bool.true_eq_false, false_or]
    omega

/-- Behind a SCSI host the bytes of a unit, as four words with the lowest first, are the unit. Those
of a name space, with the lowest byte first, are the low 32 bits of its number, and the number itself
exactly if it has no more. So two addresses of one host with the same bytes have the same unit if it
is a SCSI host, and else exactly if their units agree above the low 32 bits. -/
theorem unit_bytes_tell_unit (a b : Address) :
    (a.isNvme = false → ofWords a.lunBytes = a.lun.toNat) ∧
    (a.isNvme = true → ofLE a.lunBytes = a.lun.toNat % 0x100000000 ∧
      (ofLE a.lunBytes = a.lun.toNat ↔ a.lun.toNat < 0x100000000)) ∧
    (a.host = b.host → a.lunBytes = b.lunBytes →
      (a.lun = b.lun ↔ a.isNvme = false ∨ a.lun.toNat / 0x100000000 = b.lun.toNat / 0x100000000)) := by
  refine ⟨ofWords_lunBytes, fun h => ⟨ofLE_lunBytes h, ?_⟩, lun_eq_iff_of_lunBytes⟩
  rw [ofLE_lunBytes h]
  omega

/-- Two name spaces whose numbers agree in their low 32 bits. -/
theorem nameSpaces_share_bytes :
    Address.ofString "N:0:1:1" = .ok ⟨nvmeHost, 0, 1, 1⟩ ∧
      Address.ofString "N:0:1:4294967297" = .ok ⟨nvmeHost, 0, 1, 4294967297⟩ ∧
      Address.lunBytes ⟨nvmeHost, 0, 1, 1⟩ = Address.lunBytes ⟨nvmeHost, 0, 1, 4294967297⟩ ∧
      (1 : UInt64) ≠ 4294967297 :=
  ⟨rfl, rfl, by decide, by decide⟩

end BayMap.Hctl
