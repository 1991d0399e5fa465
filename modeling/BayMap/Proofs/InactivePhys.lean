import BayMap.Proofs.Reports

/-!
# Phys with nothing usable attached

A response about a phy may be of any length, and its bytes about the attached device may be left
over from a device that is gone. They are looked at only where the phy is active and the device is
of a known type; where they are not, nothing that is made of the response depends on them.

* `decodeChecked_eq`: a response is read at indexes in range only.
* `attached_isSome_iff`: when the bytes about the attached device count.
* `decode_congr`: responses that differ in those bytes alone have records that differ in what is
  attached alone.
* `summary_eq_none_iff`: which phys have no line.
* `inactive_phy_hides_attached_bytes`: all of it, for every response.
-/

namespace BayMap

/-! ## Reading in range -/

namespace Bytes

/-- The byte at an offset, read by its index where there is one and zero past the end. Reading by an
index past the end fails. -/
def checkedAt (b : Bytes) (offset : Nat) : Option UInt8 :=
  if offset < b.length then b[offset]? else some 0

/-- The big-endian 64-bit number at an offset, read byte by byte. -/
def checkedBeU64 (b : Bytes) (offset : Nat) : Option UInt64 := do
  let bytes ← (List.range 8).mapM fun i => b.checkedAt (offset + i)
  return .ofNat (ofBE bytes)

theorem checkedAt_eq (b : Bytes) (offset : Nat) : b.checkedAt offset = some (b.u8At offset) := by
  rw [checkedAt, u8At, byteAt, List.getD_eq_getElem?_getD]
  split
  · rename_i h
    rw [List.getElem?_eq_getElem h, Option.getD_some]
  · rename_i h
    rw [List.getElem?_eq_none (Nat.not_lt.1 h), Option.getD_none]

theorem checkedBeU64_eq (b : Bytes) (offset : Nat) :
    b.checkedBeU64 offset = some (b.beU64At offset) := by
  have hbytes : (List.range 8).mapM (fun i => b.checkedAt (offset + i)) =
      some ((List.range 8).map fun i => b.byteAt (offset + i)) := by
    simp only [checkedAt_eq]
    exact List.mapM_pure ..
  rw [checkedBeU64, hbytes, beU64At_eq]
  rfl

end Bytes

namespace Smp

theorem LinkRate.inactivity?_eq_none_iff (r : LinkRate) :
    r.inactivity? = none ↔ ¬(1 ≤ r.code.toNat ∧ r.code.toNat ≤ 6) := by
  unfold LinkRate.inactivity?
  split
  case h_7 h1 h2 h3 h4 h5 h6 =>
    refine iff_of_true rfl ?_
    rintro ⟨hlow, hhigh⟩
    have hcases : r.code.toNat = 1 ∨ r.code.toNat = 2 ∨ r.code.toNat = 3 ∨ r.code.toNat = 4 ∨
        r.code.toNat = 5 ∨ r.code.toNat = 6 := by omega
    rcases hcases with h | h | h | h | h | h
    · exact h1 (UInt8.toNat_inj.1 h)
    · exact h2 (UInt8.toNat_inj.1 h)
    · exact h3 (UInt8.toNat_inj.1 h)
    · exact h4 (UInt8.toNat_inj.1 h)
    · exact h5 (UInt8.toNat_inj.1 h)
    · exact h6 (UInt8.toNat_inj.1 h)
  all_goals
    rename_i h
    exact iff_of_false nofun fun hn => hn (by rw [h]; decide)

namespace PhyRecord

/-- The attached device that a response describes, read in range. -/
def attachedChecked (response : Bytes) : Option Attached := do
  return {
    sasAddress := ← response.checkedBeU64 24
    phyId := ← response.checkedAt 32
    deviceName := ← if 59 < response.length then some <$> response.checkedBeU64 52 else some none
    isVirtual := (← response.checkedAt 43) &&& 0x80 != 0
    initiatorProtocols := ← response.checkedAt 14
    targetProtocols := ← response.checkedAt 15 }

/-- The bay number of a response, read by its index once the response is known to be long enough. -/
def slotNumberChecked (response : Bytes) : Option (Option UInt8) :=
  if 108 < response.length then
    response[108]?.map fun number => if number ≠ 0xff then some number else none
  else some none

/-- The record of a response whose bytes are read in range. -/
def decodeChecked (requestedPhy : UInt8) (response : Bytes) (tableToTable : Bool) :
    Option PhyRecord := do
  let rate : LinkRate := ⟨(← response.checkedAt 13) &&& 0xf⟩
  let deviceType : DeviceType := ⟨((← response.checkedAt 12) &&& 0x70) >>> 4⟩
  let active := rate.inactivity?.isNone && deviceType != .none && !deviceType.isReserved
  return {
    requestedPhy
    phyId := ← response.checkedAt 9
    expanderAddress := ← response.checkedBeU64 16
    routing := .decode (← response.checkedAt 44) tableToTable
    rate
    deviceType
    slotNumber := ← slotNumberChecked response
    attached := ← if active then some <$> attachedChecked response else some none
    responseLength := response.length }

theorem attachedChecked_eq (response : Bytes) :
    attachedChecked response = some (decodeAttached response) := by
  simp only [attachedChecked, Bytes.checkedAt_eq, Bytes.checkedBeU64_eq, decodeAttached]
  split <;> rfl

theorem slotNumberChecked_eq (requestedPhy : UInt8) (response : Bytes) (tableToTable : Bool) :
    slotNumberChecked response = some (decode requestedPhy response tableToTable).slotNumber := by
  simp only [slotNumberChecked, decode]
  by_cases hlong : 108 < response.length
  · have hread : response[108]? = some (response.u8At 108) := by
      have hchecked := response.checkedAt_eq 108
      rwa [Bytes.checkedAt, if_pos hlong] at hchecked
    rw [if_pos hlong, hread, Option.map_some]
    simp only [hlong, true_and]
  · rw [if_neg hlong, if_neg fun h => hlong h.1]

theorem decodeChecked_eq (requestedPhy : UInt8) (response : Bytes) (tableToTable : Bool) :
    decodeChecked requestedPhy response tableToTable =
      some (decode requestedPhy response tableToTable) := by
  simp only [decodeChecked, Bytes.checkedAt_eq, Bytes.checkedBeU64_eq, attachedChecked_eq,
    slotNumberChecked_eq requestedPhy response tableToTable, Option.bind_eq_bind, Option.bind_some]
  split
  · rename_i hactive
    simp only [decode, hactive]
    rfl
  · rename_i hactive
    simp only [decode, hactive]
    rfl

/-! ## The attached device -/

section Decoded

variable (requestedPhy : UInt8) (response : Bytes) (tableToTable : Bool)

theorem inactivity?_decode :
    (decode requestedPhy response tableToTable).rate.inactivity? = none ↔
      ¬(1 ≤ (response.u8At 13).toNat % 16 ∧ (response.u8At 13).toNat % 16 ≤ 6) := by
  have hcode : (response.u8At 13 &&& 0xf).toNat = (response.u8At 13).toNat % 16 := by
    rw [UInt8.toNat_and]
    exact Nat.and_two_pow_sub_one_eq_mod (response.u8At 13).toNat 4
  rw [LinkRate.inactivity?_eq_none_iff]
  show ¬(1 ≤ (response.u8At 13 &&& 0xf).toNat ∧ (response.u8At 13 &&& 0xf).toNat ≤ 6) ↔ _
  rw [hcode]

theorem toNat_deviceType :
    (decode requestedPhy response tableToTable).deviceType.code.toNat =
      (response.u8At 12).toNat / 16 % 8 := by
  show ((response.u8At 12 &&& 0x70) >>> 4).toNat = _
  rw [UInt8.toNat_shiftRight, UInt8.toNat_and]
  show ((response.u8At 12).toNat &&& 0x70) >>> 4 = _
  rw [Nat.shiftRight_and_distrib, Nat.shiftRight_eq_div_pow]
  exact Nat.and_two_pow_sub_one_eq_mod ((response.u8At 12).toNat / 16) 3

theorem deviceType_eq_none_iff (t : DeviceType) : t = .none ↔ t.code.toNat = 0 := by
  obtain ⟨code⟩ := t
  rw [DeviceType.none, DeviceType.mk.injEq]
  exact UInt8.toNat_inj.symm

theorem attached_isSome_iff :
    (decode requestedPhy response tableToTable).attached.isSome ↔
      ¬(1 ≤ (response.u8At 13).toNat % 16 ∧ (response.u8At 13).toNat % 16 ≤ 6) ∧
        1 ≤ (response.u8At 12).toNat / 16 % 8 ∧ (response.u8At 12).toNat / 16 % 8 ≤ 3 := by
  let record := decode requestedPhy response tableToTable
  have hattached : record.attached.isSome ↔
      record.rate.inactivity? = none ∧ record.deviceType ≠ .none ∧
        record.deviceType.isReserved = false := by
    have hdecode : record.attached =
        if record.rate.inactivity?.isNone && record.deviceType != .none &&
          !record.deviceType.isReserved then some (decodeAttached response) else none := rfl
    rw [hdecode]
    split <;> simp_all
  have hreserved : record.deviceType.isReserved = false ↔ record.deviceType.code.toNat ≤ 3 := by
    rw [DeviceType.isReserved, decide_eq_false_iff_not]
    exact Nat.not_lt
  rw [hattached, hreserved, Ne, deviceType_eq_none_iff, ← Ne, ← Nat.one_le_iff_ne_zero,
    inactivity?_decode, toNat_deviceType]

end Decoded

/-- The bytes of a response that say what is attached. -/
def IsAttachedByte (i : Nat) : Prop :=
  i = 14 ∨ i = 15 ∨ 24 ≤ i ∧ i ≤ 32 ∨ i = 43 ∨ 52 ≤ i ∧ i ≤ 59

instance (i : Nat) : Decidable (IsAttachedByte i) :=
  inferInstanceAs (Decidable (_ ∨ _ ∨ _ ∨ _ ∨ _))

/-- Two responses of one length differ at most in the bytes that say what is attached. -/
structure AlikeButAttached (a b : Bytes) : Prop where
  length : a.length = b.length
  byte : ∀ i, ¬IsAttachedByte i → a[i]? = b[i]?

namespace AlikeButAttached

variable {a b : Bytes} (h : AlikeButAttached a b)
include h

theorem u8At {i : Nat} (hi : ¬IsAttachedByte i) : a.u8At i = b.u8At i := by
  simp only [Bytes.u8At, Bytes.byteAt, List.getD_eq_getElem?_getD, h.byte i hi]

theorem beU64At {offset : Nat} (ho : ∀ i < 8, ¬IsAttachedByte (offset + i)) :
    a.beU64At offset = b.beU64At offset := by
  rw [Bytes.beU64At_eq, Bytes.beU64At_eq]
  refine congrArg (fun bytes => UInt64.ofNat (Bytes.ofBE bytes)) (List.map_congr_left fun i hi => ?_)
  exact h.u8At (ho i (List.mem_range.1 hi))

/-- The records of such responses differ at most in what is attached. -/
theorem decode_congr (requestedPhy : UInt8) (tableToTable : Bool) :
    decode requestedPhy b tableToTable =
      { decode requestedPhy a tableToTable with
        attached := (decode requestedPhy b tableToTable).attached } := by
  have haddress := h.beU64At (show ∀ i < 8, ¬IsAttachedByte (16 + i) by decide)
  have h9 := h.u8At (show ¬IsAttachedByte 9 by decide)
  have h12 := h.u8At (show ¬IsAttachedByte 12 by decide)
  have h13 := h.u8At (show ¬IsAttachedByte 13 by decide)
  have h44 := h.u8At (show ¬IsAttachedByte 44 by decide)
  have h108 := h.u8At (show ¬IsAttachedByte 108 by decide)
  simp only [decode, h9, h12, h13, h44, h108, haddress, h.length]

/-- Whether anything is attached does not depend on what it is. -/
theorem attached_isSome (requestedPhy : UInt8) (tableToTable : Bool) :
    (decode requestedPhy b tableToTable).attached.isSome =
      (decode requestedPhy a tableToTable).attached.isSome := by
  have h12 := h.u8At (show ¬IsAttachedByte 12 by decide)
  have h13 := h.u8At (show ¬IsAttachedByte 13 by decide)
  rw [Bool.eq_iff_iff, attached_isSome_iff, attached_isSome_iff, h12, h13]

theorem decode_eq {requestedPhy : UInt8} {tableToTable : Bool}
    (hnone : (decode requestedPhy a tableToTable).attached = none) :
    decode requestedPhy b tableToTable = decode requestedPhy a tableToTable := by
  have hb : (decode requestedPhy b tableToTable).attached = none := by
    rw [← Option.not_isSome_iff_eq_none, h.attached_isSome, hnone]
    exact Bool.false_ne_true
  rw [h.decode_congr, hb, ← hnone]

end AlikeButAttached

/-! ## Lines -/

/-- A phy that is active has no line if nothing is attached, or if it cannot be told what is and the
response has room for a bay number but none is there. -/
theorem summary_eq_none_iff (r : PhyRecord) :
    r.summary = none ↔
      r.rate.inactivity? = none ∧
        (r.deviceType = .none ∨
          r.attached = none ∧ 64 ≤ r.responseLength ∧ r.slotNumber = none) := by
  unfold summary
  cases r.rate.inactivity? with
  | some state => exact ⟨nofun, fun h => nomatch h.1⟩
  | none =>
    by_cases hnone : r.deviceType = .none
    · simp [hnone]
    · cases r.attached with
      | some attached => simp [hnone]
      | none =>
        by_cases hshort : r.responseLength < 64
        · simp [hnone, hshort, Nat.not_le.2 hshort]
        · simp [hnone, hshort, Nat.not_lt.1 hshort]

theorem summary_decode_eq_none_iff (requestedPhy : UInt8) (response : Bytes) (tableToTable : Bool) :
    (decode requestedPhy response tableToTable).summary = none ↔
      ¬(1 ≤ (response.u8At 13).toNat % 16 ∧ (response.u8At 13).toNat % 16 ≤ 6) ∧
        ((response.u8At 12).toNat / 16 % 8 = 0 ∨
          4 ≤ (response.u8At 12).toNat / 16 % 8 ∧ 64 ≤ response.length ∧
            (decode requestedPhy response tableToTable).slotNumber = none) := by
  have hattached := attached_isSome_iff requestedPhy response tableToTable
  have hlength : (decode requestedPhy response tableToTable).responseLength = response.length := rfl
  rw [summary_eq_none_iff, inactivity?_decode, deviceType_eq_none_iff, toNat_deviceType, hlength,
    ← Option.not_isSome_iff_eq_none, hattached]
  refine and_congr_right fun hactive => ?_
  by_cases htype : (response.u8At 12).toNat / 16 % 8 = 0
  · exact iff_of_true (.inl htype) (.inl htype)
  · refine or_congr Iff.rfl (and_congr ⟨fun h => ?_, fun h => ?_⟩ Iff.rfl)
    · have hknown := fun hbounds => h ⟨hactive, hbounds⟩
      omega
    · rintro ⟨-, -, hle⟩
      omega

end PhyRecord

end Smp

/-! ## Phys of a survey -/

namespace Topology.Survey

open Smp (PhyRecord)
open Transport (Kind)

variable (s : Survey) (path : String) (kind : Kind) {record : PhyRecord}

theorem takeRecord_of_none (h : record.attached = none) :
    s.takeRecord path kind record = s.takeBay record := by
  rw [takeRecord, h]

theorem expanders_takeBay (record : PhyRecord) :
    (s.takeBay record).topology.expanders = s.topology.expanders := by
  unfold takeBay
  split
  · rfl
  · dsimp only
    split <;> rfl

end Topology.Survey

namespace Smp.PhyRecord

open Transport (Kind)

/-- A response is read in range whatever its length. Something is attached exactly if the rate is
none of the states without a device and the type is a known one. Where nothing is, the record and
its line are those of every response that differs in the bytes about the attached device alone, and
no expander is bound because of it. An active phy has no line if nothing is attached, or something
of a reserved type without a bay number that the response has room for. -/
theorem inactive_phy_hides_attached_bytes (phy : UInt8) (a : Bytes) (tableToTable : Bool) :
    let record := decode phy a tableToTable
    let rate := (a.u8At 13).toNat % 16
    let type := (a.u8At 12).toNat / 16 % 8
    decodeChecked phy a tableToTable = some record ∧
    (record.attached.isSome ↔ ¬(1 ≤ rate ∧ rate ≤ 6) ∧ 1 ≤ type ∧ type ≤ 3) ∧
    (∀ b, AlikeButAttached a b → record.attached = none →
      decode phy b tableToTable = record ∧
        (decode phy b tableToTable).summary = record.summary ∧
        ∀ (s : Topology.Survey) (path : String) (kind : Kind),
          (s.takeRecord path kind (decode phy b tableToTable)).topology.expanders =
            s.topology.expanders) ∧
    (record.summary = none ↔
      ¬(1 ≤ rate ∧ rate ≤ 6) ∧
        (type = 0 ∨ 4 ≤ type ∧ 64 ≤ a.length ∧ record.slotNumber = none)) := by
  intro record rate type
  refine ⟨decodeChecked_eq phy a tableToTable, attached_isSome_iff phy a tableToTable,
    fun b hb hnone => ?_, summary_decode_eq_none_iff phy a tableToTable⟩
  have hsame : decode phy b tableToTable = record := hb.decode_eq hnone
  refine ⟨hsame, congrArg summary hsame, fun s path kind => ?_⟩
  rw [hsame, s.takeRecord_of_none path kind hnone, s.expanders_takeBay]

/-- The bytes of an initiator that is gone change nothing while the phy is disabled; at a rate they
would make the phy the link to the host. -/
theorem inactive_phy_hides_attached_bytes_disabled :
    let a : Bytes := List.replicate 12 0 ++ [0x10, 1] ++ List.replicate 46 0
    let b : Bytes := (a.set 14 8).set 59 5
    AlikeButAttached a b ∧ (decode 3 a false).attached = none ∧
      decode 3 b false = decode 3 a false ∧ (decode 3 (b.set 13 0xa) false).hostName? = some 5 := by
  intro a b
  have halike : AlikeButAttached a b := by
    refine ⟨rfl, fun i hi => ?_⟩
    have h14 : 14 ≠ i := fun h => hi (h ▸ by decide)
    have h59 : 59 ≠ i := fun h => hi (h ▸ by decide)
    rw [List.getElem?_set_ne h59, List.getElem?_set_ne h14]
  have hnone : (decode 3 a false).attached = none := by decide
  obtain ⟨-, -, hhidden, -⟩ := inactive_phy_hides_attached_bytes 3 a false
  exact ⟨halike, hnone, (hhidden b halike hnone).1, by decide⟩

end Smp.PhyRecord

end BayMap
