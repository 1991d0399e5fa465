import BayMap.Topology.Scan
import Mathlib.Data.Set.Function
import Mathlib.Order.Interval.Set.Defs

/-!
# Slots and places

A place is an expander with a distance before it, one distance for each of its bays. Slots count the
places, those of expander 0 first and of one expander the farthest first, so a slot and its place
determine each other. Distances come from target numbers, which are numbers of 32 bits with a sign.

* `slotOffset_of_sameBus`, `slotOffset_eq_ok_iff`: the distance between two devices on a bus.
* `slotAtDistance_eq_ok_iff`: the slot at a distance, from the names of the devices.
* `slotAt_of_mem_places`, `slotAt_of_not_mem_places`: which places have slots.
* `bijOn_slotAt`: each slot is that of one place.
* `fits_of_mem_places`: the slot of a place is worked out without leaving the words of 64 bits.
* `slots_and_places_correspond`: all this for layouts whose slots can be counted in 64 bits.
-/

namespace BayMap.Topology

open Hctl (Address)

/-! ## Distances -/

theorem bmod_slotsPerExpander {l : Layout} (hs : l.slotsPerExpander < 0x8000000000000000) :
    (l.slotsPerExpander : Int).bmod UInt64.size = l.slotsPerExpander := by
  unfold UInt64.size
  apply Int.bmod_eq_of_le <;> omega

/-- The distance between two devices on a bus is the difference of their targets, if that is one of
the bays. -/
theorem slotOffset_of_sameBus {l : Layout} (hs : l.slotsPerExpander < 0x8000000000000000)
    {a b : Address} (hbus : a.sameBus b) :
    slotOffset l a b =
      if 1 ≤ b.target.toInt - a.target.toInt ∧
          b.target.toInt - a.target.toInt ≤ l.slotsPerExpander then
        .ok (b.target.toInt - a.target.toInt).toNat
      else .error (.distanceOutOfRange (b.target.toInt - a.target.toInt)) := by
  unfold slotOffset
  rw [if_pos hbus, bmod_slotsPerExpander hs]

theorem slotOffset_eq_ok_iff {l : Layout} (hs : l.slotsPerExpander < 0x8000000000000000)
    {a b : Address} {offset : Nat} :
    slotOffset l a b = .ok offset ↔
      a.sameBus b ∧ 1 ≤ b.target.toInt - a.target.toInt ∧
        b.target.toInt - a.target.toInt ≤ l.slotsPerExpander ∧
        (offset : Int) = b.target.toInt - a.target.toInt := by
  by_cases hbus : a.sameBus b
  · rw [slotOffset_of_sameBus hs hbus]
    split
    · simp only [hbus, Except.ok.injEq, true_and]
      omega
    · simp only [hbus, reduceCtorEq, true_and, false_iff]
      omega
  · simp [slotOffset, hbus]

theorem slotAtDistance_eq_ok_iff {layout : Layout} (hs : layout.slotCount < 0x8000000000000000)
    {device expander : String} {index slot : Nat} :
    Scan.slotAtDistance layout device expander index = .ok slot ↔
      ∃ a b, Address.ofString device = .ok a ∧ Address.ofString expander = .ok b ∧ a.sameBus b ∧
        1 ≤ b.target.toInt - a.target.toInt ∧
        b.target.toInt - a.target.toInt ≤ layout.slotsPerExpander ∧ index < layout.expanders ∧
        (slot : Int) =
          (index + 1) * layout.slotsPerExpander - (b.target.toInt - a.target.toInt) := by
  unfold Scan.slotAtDistance
  cases ha : Address.ofString device with
  | error cause =>
    show Except.error (PlacementError.address cause) = _ ↔ _
    simp
  | ok a =>
    cases hb : Address.ofString expander with
    | error cause =>
      show Except.error (PlacementError.address cause) = _ ↔ _
      simp
    | ok b =>
      have hl : index < layout.expanders → layout.slotsPerExpander < 0x8000000000000000 := fun hi =>
        Nat.lt_of_le_of_lt (Nat.le_mul_of_pos_left _ (Nat.zero_lt_of_lt hi)) hs
      have hm : ((index : Int) + 1) * layout.slotsPerExpander =
          (index * layout.slotsPerExpander : Nat) + layout.slotsPerExpander := by
        rw [Int.add_mul, Int.one_mul, Int.natCast_mul]
      show (do slotAt layout index (← slotOffset layout a b)) = _ ↔ _
      constructor
      · intro h
        cases ho : slotOffset layout a b with
        | error cause =>
          rw [ho] at h
          cases h
        | ok offset =>
          rw [ho] at h
          obtain ⟨hi, h1, hS, rfl⟩ := slotAt_eq_ok_iff.1 h
          obtain ⟨hbus, hd1, hd2, hd⟩ := (slotOffset_eq_ok_iff (hl hi)).1 ho
          refine ⟨a, b, rfl, rfl, hbus, hd1, hd2, hi, ?_⟩
          rw [hm]
          unfold Layout.slotOf
          omega
      · rintro ⟨_, _, ⟨⟩, ⟨⟩, hbus, hd1, hd2, hi, hslot⟩
        rw [hm] at hslot
        have ho : slotOffset layout a b = .ok (b.target.toInt - a.target.toInt).toNat :=
          (slotOffset_eq_ok_iff (hl hi)).2 ⟨hbus, hd1, hd2, by omega⟩
        rw [ho]
        refine slotAt_eq_ok_iff.2 ⟨hi, by omega, by omega, ?_⟩
        unfold Layout.slotOf
        omega

/-! ## Places -/

/-- The places of a layout: an expander with a distance that is one of its bays. -/
def Layout.places (l : Layout) : Set (Nat × Nat) :=
  {place | place.1 < l.expanders ∧ 1 ≤ place.2 ∧ place.2 ≤ l.slotsPerExpander}

variable {l : Layout} {place : Nat × Nat} {slot : Nat}

/-- The bays of an expander end where those of the next one start. -/
theorem slotOf_sub (hp : place ∈ l.places) :
    l.slotOf place.1 (l.slotsPerExpander - place.2) =
      (place.1 + 1) * l.slotsPerExpander - place.2 := by
  obtain ⟨-, -, h⟩ := hp
  unfold Layout.slotOf
  rw [Nat.succ_mul]
  omega

theorem slotAt_of_mem_places (hp : place ∈ l.places) :
    slotAt l place.1 place.2 = .ok ((place.1 + 1) * l.slotsPerExpander - place.2) := by
  rw [← slotOf_sub hp]
  exact slotAt_eq_ok_iff.2 ⟨hp.1, hp.2.1, hp.2.2, rfl⟩

/-- A pair that is no place is refused, for its expander first. -/
theorem slotAt_of_not_mem_places (hp : place ∉ l.places) :
    slotAt l place.1 place.2 =
      .error (if l.expanders ≤ place.1 then .expanderOutOfRange place.1
        else .distanceOutOfRange place.2) := by
  unfold slotAt
  by_cases he : l.expanders ≤ place.1
  · rw [if_pos he, if_pos he]
  · have hoffset : place.2 = 0 ∨ l.slotsPerExpander < place.2 := by
      by_contra hin
      exact hp ⟨by omega, by omega, by omega⟩
    rw [if_neg he, if_neg he, if_pos hoffset]

/-- The place of a slot: the expander of the slot, and how far the slot is from the end of the bays
of that expander. -/
theorem place_of_slotAt (h : slotAt l place.1 place.2 = .ok slot) :
    place ∈ l.places ∧ slot < l.slotCount ∧ l.expanderOf slot = place.1 ∧
      place.2 = l.slotsPerExpander - slot % l.slotsPerExpander := by
  obtain ⟨he, h1, hS, rfl⟩ := slotAt_eq_ok_iff.1 h
  have hbay : l.slotsPerExpander - place.2 < l.slotsPerExpander := by omega
  refine ⟨⟨he, h1, hS⟩, Layout.slotOf_lt he hbay, Layout.expanderOf_slotOf hbay, ?_⟩
  rw [Layout.slotOf_mod hbay]
  omega

theorem slotAt_of_lt (h : slot < l.slotCount) :
    slotAt l (l.expanderOf slot) (l.slotsPerExpander - slot % l.slotsPerExpander) = .ok slot := by
  obtain ⟨hpos, he⟩ := Layout.expanderOf_lt h
  have hmod := Nat.mod_lt slot hpos
  refine slotAt_eq_ok_iff.2 ⟨he, by omega, by omega, ?_⟩
  have hbay : l.slotsPerExpander - (l.slotsPerExpander - slot % l.slotsPerExpander) =
      slot % l.slotsPerExpander := by
    omega
  rw [hbay]
  exact (Nat.div_add_mod' slot l.slotsPerExpander).symm

theorem bijOn_slotAt (l : Layout) :
    Set.BijOn (fun place => slotAt l place.1 place.2) l.places
      (Except.ok '' Set.Iio l.slotCount) := by
  refine ⟨fun place hp => ?_, fun p hp q hq h => ?_, ?_⟩
  · have hslot := slotAt_of_mem_places hp
    exact ⟨_, (place_of_slotAt hslot).2.1, hslot.symm⟩
  · have hslot := slotAt_of_mem_places hp
    obtain ⟨-, -, hpe, hpo⟩ := place_of_slotAt hslot
    obtain ⟨-, -, hqe, hqo⟩ := place_of_slotAt (Eq.trans h.symm hslot)
    exact Prod.ext (hpe.symm.trans hqe) (hpo.trans hqo.symm)
  · rintro _ ⟨slot, hslot, rfl⟩
    have h := slotAt_of_lt hslot
    exact ⟨(_, _), (place_of_slotAt h).1, h⟩

/-- Where the slots can be counted in 64 bits, no step towards the slot of a place goes beyond 64
bits or below zero. -/
theorem fits_of_mem_places (hc : l.slotCount < 0x10000000000000000) (hp : place ∈ l.places) :
    place.1 + 1 < 0x10000000000000000 ∧ (place.1 + 1) * l.slotsPerExpander < 0x10000000000000000 ∧
      place.2 ≤ (place.1 + 1) * l.slotsPerExpander := by
  obtain ⟨he, h1, hS⟩ := hp
  have hpast : (place.1 + 1) * l.slotsPerExpander ≤ l.slotCount := Nat.mul_le_mul_right _ he
  have hnext : place.1 + 1 ≤ (place.1 + 1) * l.slotsPerExpander :=
    Nat.le_mul_of_pos_right _ (by omega)
  have hbays : l.slotsPerExpander ≤ (place.1 + 1) * l.slotsPerExpander :=
    Nat.le_mul_of_pos_left _ (Nat.succ_pos _)
  omega

/-! ## Devices -/

/-- The slot of a device determines its expander and its target. -/
theorem target_of_slot (hs : l.slotsPerExpander < 0x8000000000000000) {a b : Address} {index : Nat}
    (h : (slotOffset l a b).bind (slotAt l index) = .ok slot) :
    l.expanderOf slot = index ∧
      a.target.toInt = b.target.toInt - (l.slotsPerExpander - slot % l.slotsPerExpander : Nat) := by
  cases ho : slotOffset l a b with
  | error cause =>
    rw [ho] at h
    cases h
  | ok offset =>
    rw [ho] at h
    obtain ⟨-, -, -, hd⟩ := (slotOffset_eq_ok_iff hs).1 ho
    obtain ⟨-, -, he, hoffset⟩ := @place_of_slotAt l (index, offset) slot h
    refine ⟨he, ?_⟩
    rw [← hoffset]
    omega

/-- The distance between two targets is less than `0x100000000` either way. -/
theorem distance_bounds (a b : Int32) :
    -0x100000000 < b.toInt - a.toInt ∧ b.toInt - a.toInt < 0x100000000 := by
  have ha := a.toInt_lt
  have ha' := a.le_toInt
  have hb := b.toInt_lt
  have hb' := b.le_toInt
  omega

/-- Places and slots correspond one to one, a slot to a place of the expander it belongs to; every
other pair is refused, and no step towards a slot overflows. The distance of a device before an
expander on its bus is the exact difference of their targets, if that is a bay, and else it is
refused. So the slot of a device before an expander determines its target, and devices with
different targets never share one. -/
theorem slots_and_places_correspond {l : Layout} (hs : l.slotsPerExpander < 0x100000000)
    (hc : l.slotCount < 0x10000000000000000) :
    Set.BijOn (fun place => slotAt l place.1 place.2) l.places
      (Except.ok '' Set.Iio l.slotCount) ∧
    (∀ place ∈ l.places,
      place.1 + 1 < 0x10000000000000000 ∧ (place.1 + 1) * l.slotsPerExpander < 0x10000000000000000 ∧
      place.2 ≤ (place.1 + 1) * l.slotsPerExpander ∧
      slotAt l place.1 place.2 = .ok ((place.1 + 1) * l.slotsPerExpander - place.2) ∧
      ((place.1 + 1) * l.slotsPerExpander - place.2) / l.slotsPerExpander = place.1) ∧
    (∀ place ∉ l.places, slotAt l place.1 place.2 =
      .error (if l.expanders ≤ place.1 then .expanderOutOfRange place.1
        else .distanceOutOfRange place.2)) ∧
    (∀ device expander : Address, device.sameBus expander →
      let distance := expander.target.toInt - device.target.toInt
      (-0x100000000 < distance ∧ distance < 0x100000000) ∧
      (1 ≤ distance ∧ distance ≤ l.slotsPerExpander →
        ∃ offset : UInt32, slotOffset l device expander = .ok offset.toNat ∧
          (offset.toNat : Int) = distance) ∧
      (¬(1 ≤ distance ∧ distance ≤ l.slotsPerExpander) →
        slotOffset l device expander = .error (.distanceOutOfRange distance))) ∧
    ∀ (device expander : Address) (index slot : Nat),
      (slotOffset l device expander).bind (slotAt l index) = .ok slot →
      device.target.toInt =
        expander.target.toInt - (l.slotsPerExpander - slot % l.slotsPerExpander : Nat) ∧
      ∀ other : Address, other.target ≠ device.target →
        (slotOffset l other expander).bind (slotAt l index) ≠ .ok slot := by
  have hs' : l.slotsPerExpander < 0x8000000000000000 := Nat.lt_trans hs (by decide)
  refine ⟨bijOn_slotAt l, fun place hp => ?_, fun place hp => slotAt_of_not_mem_places hp,
    fun device expander hbus => ?_, fun device expander index slot h => ?_⟩
  · obtain ⟨hnext, hpast, hoffset⟩ := fits_of_mem_places hc hp
    have hslot := slotAt_of_mem_places hp
    exact ⟨hnext, hpast, hoffset, hslot, (place_of_slotAt hslot).2.2.1⟩
  · intro distance
    have hd := slotOffset_of_sameBus hs' hbus
    refine ⟨distance_bounds _ _, fun hin => ⟨.ofNat distance.toNat, ?_, ?_⟩, fun hout => ?_⟩
    · rw [hd, if_pos hin, UInt32.toNat_ofNat_of_lt' (by simp only [UInt32.size]; omega)]
    · rw [UInt32.toNat_ofNat_of_lt' (by simp only [UInt32.size]; omega)]
      omega
    · rw [hd, if_neg hout]
  · obtain ⟨-, htarget⟩ := target_of_slot hs' h
    refine ⟨htarget, fun other hne h' => hne ?_⟩
    obtain ⟨-, hother⟩ := target_of_slot hs' h'
    exact Int32.toInt_inj.1 (hother.trans htarget.symm)

/-- A layout whose last distance is the largest one that two targets can have. -/
theorem slots_and_places_correspond_farthest :
    let l : Layout := ⟨0x100000000, 0xffffffff⟩
    let device : Address := ⟨0, 0, -0x80000000, 0⟩
    let expander : Address := ⟨0, 0, 0x7fffffff, 0⟩
    l.slotsPerExpander < 0x100000000 ∧ l.slotCount < 0x10000000000000000 ∧
      (0xffffffff, 1) ∈ l.places ∧ slotAt l (0xffffffff) 1 = .ok (0xfffffffeffffffff) ∧
      device.sameBus expander ∧
      (∃ offset : UInt32, slotOffset l device expander = .ok offset.toNat ∧
        (offset.toNat : Int) = 0xffffffff) ∧
      (slotOffset l device expander).bind (slotAt l 0) = .ok 0 ∧
      (slotOffset l ⟨0, 0, 0, 0⟩ expander).bind (slotAt l 0) ≠ .ok 0 := by
  intro l device expander
  have hs : l.slotsPerExpander < 0x100000000 := by decide
  have hc : l.slotCount < 0x10000000000000000 := by decide
  obtain ⟨-, hplaces, -, hdistances, hslots⟩ := slots_and_places_correspond hs hc
  have hp : ((0xffffffff, 1) : Nat × Nat) ∈ l.places := ⟨by decide, by decide, by decide⟩
  obtain ⟨-, -, -, hslot, -⟩ := hplaces _ hp
  have hlast : slotAt l (0xffffffff) 1 = .ok (0xfffffffeffffffff) :=
    hslot.trans (congrArg Except.ok (by decide))
  obtain ⟨-, hin, -⟩ := hdistances device expander (by decide)
  obtain ⟨offset, ho, hdistance⟩ := hin (by decide)
  have hoffset : slotOffset l device expander = .ok (0xffffffff) :=
    (slotOffset_eq_ok_iff (by decide)).2 ⟨by decide, by decide, by decide, by decide⟩
  have h0 : (slotOffset l device expander).bind (slotAt l 0) = .ok 0 := by
    rw [hoffset]
    exact slotAt_eq_ok_iff.2 ⟨by decide, by decide, by decide, by decide⟩
  obtain ⟨-, hothers⟩ := hslots device expander 0 0 h0
  exact ⟨hs, hc, hp, hlast, by decide, ⟨offset, ho, hdistance.trans (by decide)⟩, h0,
    hothers _ (by decide)⟩

end BayMap.Topology
