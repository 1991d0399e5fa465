import BayMap.Proofs.PlainPath
import BayMap.Proofs.SlotArithmetic

/-!
# Which device a slot gets

A scan tries devices on slots: a marked disk when it is met, and any other when the next expander is
met. A slot keeps the first device that is tried on it. `Attempts` says which device is tried when
and on which slot, without any scan.

* `get?_foldl_place`: of trials one after another, each slot keeps the first one on it.
* `slots_foldl_step`: a scan places what its `trials` say.
* `mem_trials_iff`, `pairwise_trials`: trials are the attempts, in the order of their times and, at
  one time, of their devices.
* `scan_keeps_earliest_attempt`: the slots and the family after a scan.
-/

namespace BayMap.Topology

open Hctl (Address)

/-! ## Trials one after another -/

/-- A device that is tried on a slot. -/
structure Trial where
  /-- The index of the sighting at which the device is tried. -/
  time : Nat
  /-- The index of the device. -/
  device : Nat
  /-- The device. -/
  disk : Disk
  /-- The slot, or why there is none. -/
  slot : Except PlacementError Nat

/-- The trial is one on a slot. -/
def Trial.isOn (slot : Nat) (x : Trial) : Bool := x.slot.toOption = some slot

theorem Trial.isOn_iff {x : Trial} {slot : Nat} : x.isOn slot = true ↔ x.slot = .ok slot := by
  unfold isOn
  cases x.slot <;> simp [Except.toOption]

/-- The slots once a device is tried on one of them. -/
def SlotTable.tryOut (t : SlotTable) (x : Trial) : SlotTable :=
  match x.slot.bind fun index => t.assign index x.disk with
  | .ok slots => slots
  | .error _ => t

theorem slots_place (s : Survey) (x : Trial) :
    (s.place x.disk x.slot).topology.slots = s.topology.slots.tryOut x := by
  unfold Survey.place SlotTable.tryOut
  split <;> simp [*]

/-- A slot takes a device only if it has none. -/
theorem get?_tryOut (t : SlotTable) (x : Trial) (slot : Nat) :
    (t.tryOut x).get? slot = (t.get? slot).map fun kept =>
      if x.isOn slot then { kept with disk := kept.disk.or (some x.disk) } else kept := by
  unfold SlotTable.tryOut
  cases hx : x.slot with
  | error cause =>
    have hn : ¬ x.isOn slot = true := by
      rw [Trial.isOn_iff, hx]
      exact fun h => nomatch h
    simp [hn, Except.bind]
  | ok index =>
    have hi : x.isOn slot = true ↔ slot = index := by
      rw [Trial.isOn_iff, hx, Except.ok.injEq]
      exact eq_comm
    simp only [Except.bind, hi]
    cases ha : t.assign index x.disk with
    | ok u =>
      obtain ⟨kept, hk, hd, -⟩ := SlotTable.assign_eq_ok_iff.1 ha
      show u.get? slot = _
      rw [SlotTable.get?_assign ha]
      split
      · rename_i h
        rw [h, hk]
        simp [hd]
      · simp
    | error cause =>
      show t.get? slot = _
      cases hg : t.get? slot with
      | none => rfl
      | some kept =>
        rw [Option.map_some]
        split
        · rename_i h
          cases hd : kept.disk with
          | some present => rw [Option.some_or, ← hd]
          | none => cases ha.symm.trans (SlotTable.assign_eq_ok_iff.2 ⟨kept, h ▸ hg, hd, rfl⟩)
        · rfl

theorem get?_foldl_tryOut (trials : List Trial) (t : SlotTable) (slot : Nat) :
    (trials.foldl SlotTable.tryOut t).get? slot = (t.get? slot).map fun kept =>
      { kept with disk := kept.disk.or ((trials.find? (·.isOn slot)).map (·.disk)) } := by
  induction trials generalizing t with
  | nil => simp
  | cons x rest ih =>
    rw [List.foldl_cons, ih, get?_tryOut, Option.map_map, List.find?_cons]
    congr 1
    funext kept
    rw [Function.comp_apply]
    split
    · rename_i h
      simp [h]
    · rename_i h
      simp [h]

/-! ## The trials of a scan -/

/-- The sighting is of an expander whose address can be read. -/
def Sighting.isReadable (x : Sighting) : Bool :=
  match x.role with
  | .expander (.ok (some _)) _ => true
  | _ => false

/-- The sighting is of a disk with a marker. -/
def Sighting.isMarked (x : Sighting) : Bool :=
  match x.role with
  | .marked _ => true
  | _ => false

/-- The trial of a device that waits, when an expander is met. -/
def Trial.ofWaiting (layout : Layout) (time : Nat) (expander : String) (index : Nat)
    (w : Nat × Disk) : Trial :=
  ⟨time, w.1, w.2, Scan.slotAtDistance layout w.2.deviceName expander index⟩

/-- What is tried at a time, when some devices wait and a marker was met or not. -/
def trialsAt (layout : Layout) (time : Nat) (waiting : List (Nat × Disk)) (marked : Bool)
    (x : Sighting) : List Trial :=
  match x.role with
  | .marked marker => [⟨time, time, x.disk, markerSlot marker⟩]
  | .expander (.ok (some wwid)) _ =>
    if marked then [] else waiting.map (.ofWaiting layout time x.name (expanderIndex wwid))
  | _ => []

/-- The devices that wait after a time. -/
def waitingAfter (time : Nat) (waiting : List (Nat × Disk)) (marked : Bool) (x : Sighting) :
    List (Nat × Disk) :=
  match x.role with
  | .plain => waiting ++ [(time, x.disk)]
  | .expander (.ok (some _)) _ => if marked then waiting else []
  | _ => waiting

/-- The trials of a scan from a time on. -/
def trials (layout : Layout) : Nat → List (Nat × Disk) → Bool → List Sighting → List Trial
  | _, _, _, [] => []
  | time, waiting, marked, x :: rest =>
    trialsAt layout time waiting marked x ++
      trials layout (time + 1) (waitingAfter time waiting marked x) (marked || x.isMarked) rest

/-- A scan of a layout at which devices wait, and a marker was met or not. -/
structure Scan.Is (layout : Layout) (waiting : List (Nat × Disk)) (marked : Bool) (s : Scan) :
    Prop where
  layout : s.survey.topology.layout = layout
  pending : s.pending = waiting.map (·.2)
  family : s.survey.topology.family = .byMarker ↔ marked = true

/-- Places devices that wait, each at its distance before an expander. -/
theorem foldl_place (layout : Layout) (time : Nat) (expander : String) (index : Nat)
    (waiting : List (Nat × Disk)) (s : Survey) (hl : s.topology.layout = layout) :
    let u := (waiting.map (·.2)).foldl (fun survey disk => survey.place disk
      (Scan.slotAtDistance survey.topology.layout disk.deviceName expander index)) s
    u.topology.layout = layout ∧ u.topology.family = s.topology.family ∧
      u.topology.slots =
        (waiting.map (.ofWaiting layout time expander index)).foldl SlotTable.tryOut
          s.topology.slots := by
  induction waiting generalizing s with
  | nil => exact ⟨hl, rfl, rfl⟩
  | cons w rest ih =>
    have hp : (s.place w.2 (Scan.slotAtDistance s.topology.layout w.2.deviceName expander
        index)).topology.layout = layout := by
      rw [layout_place, hl]
    obtain ⟨h1, h2, h3⟩ := ih _ hp
    refine ⟨h1, h2.trans (family_place _ _ _), h3.trans ?_⟩
    rw [List.map_cons, List.foldl_cons, hl]
    rw [← slots_place]
    rfl

/-- An expander takes what waits, as long as no marker was met. -/
theorem is_drain {layout : Layout} {waiting : List (Nat × Disk)} {marked : Bool} {s : Scan}
    (hs : s.Is layout waiting marked) (time : Nat) (expander : String) (index : Nat) :
    (s.drain expander index).Is layout (if marked then waiting else []) marked ∧
      (s.drain expander index).survey.topology.slots =
        (if marked then [] else waiting.map (.ofWaiting layout time expander index)).foldl
          SlotTable.tryOut s.survey.topology.slots := by
  unfold Scan.drain
  cases hf : s.survey.topology.family with
  | byMarker =>
    obtain rfl := hs.family.1 hf
    exact ⟨hs, rfl⟩
  | byDistance =>
    have hm : ¬ marked = true := fun hm => by cases hf.symm.trans (hs.family.2 hm)
    obtain ⟨h1, h2, h3⟩ := foldl_place layout time expander index waiting s.survey hs.layout
    rw [if_neg hm, if_neg hm, hs.pending]
    exact ⟨⟨h1, rfl, by rw [h2]; exact hs.family⟩, h3⟩

/-- A step of a scan places what is tried at its time. -/
theorem is_step {layout : Layout} {waiting : List (Nat × Disk)} {marked : Bool} {s : Scan}
    (hs : s.Is layout waiting marked) (time : Nat) (x : Sighting) :
    (s.step x).Is layout (waitingAfter time waiting marked x) (marked || x.isMarked) ∧
      (s.step x).survey.topology.slots =
        (trialsAt layout time waiting marked x).foldl SlotTable.tryOut s.survey.topology.slots := by
  obtain ⟨role, disk⟩ := x
  cases role with
  | plain =>
    refine ⟨⟨hs.layout, ?_, ?_⟩, rfl⟩
    · simp [Scan.step, hs.pending, waitingAfter]
    · simpa [Scan.step, Sighting.isMarked] using hs.family
  | marked marker =>
    refine ⟨⟨(layout_place _ _ _).trans hs.layout, hs.pending, ?_⟩,
      slots_place s.byMarker.survey ⟨time, time, disk, markerSlot marker⟩⟩
    show (s.byMarker.survey.place disk _).topology.family = _ ↔ _
    rw [family_place]
    simp [Scan.byMarker, Sighting.isMarked]
  | expander wwid id =>
    have hf : s.survey.topology.family = .byMarker ↔ (marked || false) = true := by
      simpa using hs.family
    obtain cause | _ | wwid := wwid
    · exact ⟨⟨hs.layout, hs.pending, hf⟩, rfl⟩
    · exact ⟨⟨hs.layout, hs.pending, hf⟩, rfl⟩
    · obtain ⟨hd, hslots⟩ := is_drain hs time disk.deviceName (expanderIndex wwid)
      obtain ⟨hl, hfam, hreg⟩ := register_frame
        (s.drain disk.deviceName (expanderIndex wwid)).survey disk.deviceName wwid id
      refine ⟨⟨hl.trans hd.layout, hd.pending, ?_⟩, hreg.trans hslots⟩
      show (Survey.register _ _ _ _).topology.family = _ ↔ _
      rw [hfam, hd.family]
      simp [Sighting.isMarked]

/-- A scan places what its trials say, and is one by markers once it met a marker. -/
theorem foldl_step {layout : Layout} (seen : List Sighting) (time : Nat)
    {waiting : List (Nat × Disk)} {marked : Bool} {s : Scan} (hs : s.Is layout waiting marked) :
    (seen.foldl Scan.step s).survey.topology.slots =
        (trials layout time waiting marked seen).foldl SlotTable.tryOut s.survey.topology.slots ∧
      ((seen.foldl Scan.step s).survey.topology.family = .byMarker ↔
        marked = true ∨ ∃ x ∈ seen, x.isMarked = true) := by
  induction seen generalizing s time waiting marked with
  | nil => exact ⟨rfl, by simpa using hs.family⟩
  | cons x rest ih =>
    obtain ⟨hi, hslots⟩ := is_step hs time x
    obtain ⟨h1, h2⟩ := ih (time + 1) hi
    refine ⟨?_, h2.trans ?_⟩
    · rw [List.foldl_cons, h1, hslots, trials, List.foldl_append]
    · simp [or_assoc]

/-! ## The order of trials -/

/-- A trial comes before another by its time, and at one time by its device. -/
def Trial.Before (a b : Trial) : Prop :=
  a.time < b.time ∨ a.time = b.time ∧ a.device < b.device

theorem time_of_mem_trialsAt {layout : Layout} {time : Nat} {waiting : List (Nat × Disk)}
    {marked : Bool} {x : Sighting} {a : Trial} (h : a ∈ trialsAt layout time waiting marked x) :
    a.time = time := by
  unfold trialsAt at h
  split at h
  · obtain rfl := List.mem_singleton.1 h
    rfl
  · split at h
    · cases h
    · obtain ⟨w, -, rfl⟩ := List.mem_map.1 h
      rfl
  · cases h

theorem pairwise_trialsAt {layout : Layout} {time : Nat} {waiting : List (Nat × Disk)}
    {marked : Bool} {x : Sighting} (hw : waiting.Pairwise fun a b => a.1 < b.1) :
    (trialsAt layout time waiting marked x).Pairwise Trial.Before := by
  unfold trialsAt
  split
  · exact List.pairwise_singleton _ _
  · split
    · exact .nil
    · exact List.pairwise_map.2 (hw.imp fun h => .inr ⟨rfl, h⟩)
  · exact .nil

/-- Devices that wait stand in their order, and were met before the time. -/
def InOrder (time : Nat) (waiting : List (Nat × Disk)) : Prop :=
  waiting.Pairwise (fun a b => a.1 < b.1) ∧ ∀ w ∈ waiting, w.1 < time

theorem inOrder_waitingAfter {time : Nat} {waiting : List (Nat × Disk)} (h : InOrder time waiting)
    (marked : Bool) (x : Sighting) :
    InOrder (time + 1) (waitingAfter time waiting marked x) := by
  obtain ⟨hp, hl⟩ := h
  have hl' : ∀ w ∈ waiting, w.1 < time + 1 := fun w hw => Nat.lt_succ_of_lt (hl w hw)
  unfold waitingAfter
  split
  · refine ⟨List.pairwise_append.2 ⟨hp, List.pairwise_singleton _ _, fun a ha b hb => ?_⟩, ?_⟩
    · obtain rfl := List.mem_singleton.1 hb
      exact hl a ha
    · intro w hw
      obtain hw | hw := List.mem_append.1 hw
      · exact hl' w hw
      · obtain rfl := List.mem_singleton.1 hw
        exact Nat.lt_succ_self _
  · split
    · exact ⟨hp, hl'⟩
    · exact ⟨.nil, fun _ h => nomatch h⟩
  · exact ⟨hp, hl'⟩

theorem pairwise_trials (layout : Layout) (seen : List Sighting) {time : Nat}
    {waiting : List (Nat × Disk)} (h : InOrder time waiting) (marked : Bool) :
    (trials layout time waiting marked seen).Pairwise Trial.Before ∧
      ∀ a ∈ trials layout time waiting marked seen, time ≤ a.time := by
  induction seen generalizing time waiting marked with
  | nil => exact ⟨.nil, fun _ h => nomatch h⟩
  | cons x rest ih =>
    obtain ⟨hp, ht⟩ := ih (inOrder_waitingAfter h marked x) (marked || x.isMarked)
    rw [trials]
    refine ⟨List.pairwise_append.2 ⟨pairwise_trialsAt h.1, hp, fun a ha b hb => ?_⟩, ?_⟩
    · have hb := ht b hb
      rw [← time_of_mem_trialsAt ha] at hb
      exact .inl hb
    · intro a ha
      obtain ha | ha := List.mem_append.1 ha
      · exact Nat.le_of_eq (time_of_mem_trialsAt ha).symm
      · exact Nat.le_of_succ_le (ht a ha)

/-! ## Attempts -/

/-- The device at an index is tried on a slot at a time: a marked disk when it is met, and any other
at the first expander after it whose address can be read, if no marker was met before that expander
and the distance to it is one of its bays. -/
inductive Attempts (layout : Layout) (seen : List Sighting) : (time device slot : Nat) → Prop
  | marked {i slot : Nat} {marker : String} {disk : Disk}
      (device : seen[i]? = some ⟨.marked marker, disk⟩) (place : markerSlot marker = .ok slot) :
      Attempts layout seen i i slot
  | plain {i j slot : Nat} {disk expander : Disk} {wwid : UInt64} {id : String} {a b : Address}
      (device : seen[i]? = some ⟨.plain, disk⟩) (after : i < j)
      (met : seen[j]? = some ⟨.expander (.ok (some wwid)) id, expander⟩)
      (first : ∀ k x, i < k → k < j → seen[k]? = some x → x.isReadable = false)
      (unmarked : ∀ k x, k < j → seen[k]? = some x → x.isMarked = false)
      (deviceName : Address.ofString disk.deviceName = .ok a)
      (expanderName : Address.ofString expander.deviceName = .ok b)
      (bus : a.sameBus b) (near : 1 ≤ b.target.toInt - a.target.toInt)
      (far : b.target.toInt - a.target.toInt ≤ layout.slotsPerExpander)
      (index : expanderIndex wwid < layout.expanders)
      (place : (slot : Int) = (expanderIndex wwid + 1) * layout.slotsPerExpander -
        (b.target.toInt - a.target.toInt)) :
      Attempts layout seen j i slot

theorem Attempts.exists_device {layout : Layout} {seen : List Sighting} {j i slot : Nat}
    (h : Attempts layout seen j i slot) : ∃ x, seen[i]? = some x := by
  cases h with
  | marked device => exact ⟨_, device⟩
  | plain device => exact ⟨_, device⟩

/-- What devices that wait at a time, and a marker met before it, are among all sightings. -/
structure WaitAt (seen : List Sighting) (time : Nat) (waiting : List (Nat × Disk))
    (marked : Bool) : Prop where
  met : marked = true ↔ ∃ k x, k < time ∧ seen[k]? = some x ∧ x.isMarked = true
  waits : marked = false → ∀ i disk, (i, disk) ∈ waiting ↔
    i < time ∧ seen[i]? = some ⟨.plain, disk⟩ ∧
      ∀ k x, i < k → k < time → seen[k]? = some x → x.isReadable = false

section Attempting

variable {seen : List Sighting} {time : Nat} {waiting : List (Nat × Disk)} {marked : Bool}

theorem WaitAt.unmarked (h : WaitAt seen time waiting marked) :
    marked = false ↔ ∀ k x, k < time → seen[k]? = some x → x.isMarked = false := by
  rw [← Bool.not_eq_true, h.met]
  simp only [not_exists, not_and, Bool.not_eq_true]

/-- A device that waits after a time has waited at it, unless that was the time of an expander, or
it is the one that was met then. -/
theorem waits_succ_iff {x : Sighting} (hx : seen[time]? = some x) {i : Nat} {disk : Disk} :
    (i < time + 1 ∧ seen[i]? = some ⟨.plain, disk⟩ ∧
      ∀ k y, i < k → k < time + 1 → seen[k]? = some y → y.isReadable = false) ↔
    ((i < time ∧ seen[i]? = some ⟨.plain, disk⟩ ∧
      ∀ k y, i < k → k < time → seen[k]? = some y → y.isReadable = false) ∧
        x.isReadable = false) ∨ (i = time ∧ x = ⟨.plain, disk⟩) := by
  constructor
  · rintro ⟨hi, hp, hk⟩
    obtain hi | rfl := Nat.lt_succ_iff_lt_or_eq.1 hi
    · exact .inl ⟨⟨hi, hp, fun k y h1 h2 => hk k y h1 (Nat.lt_succ_of_lt h2)⟩,
        hk time x hi (Nat.lt_succ_self _) hx⟩
    · exact .inr ⟨rfl, Option.some.inj (hx.symm.trans hp)⟩
  · rintro (⟨⟨hi, hp, hk⟩, hn⟩ | ⟨rfl, rfl⟩)
    · refine ⟨Nat.lt_succ_of_lt hi, hp, fun k y h1 h2 hy => ?_⟩
      obtain h2 | rfl := Nat.lt_succ_iff_lt_or_eq.1 h2
      · exact hk k y h1 h2 hy
      · obtain rfl := Option.some.inj (hx.symm.trans hy)
        exact hn
    · exact ⟨Nat.lt_succ_self _, hx, fun k y h1 h2 => by omega⟩

theorem waitAt_start (seen : List Sighting) : WaitAt seen 0 [] false :=
  ⟨by simp, by simp⟩

theorem WaitAt.next (h : WaitAt seen time waiting marked) {x : Sighting}
    (hx : seen[time]? = some x) :
    WaitAt seen (time + 1) (waitingAfter time waiting marked x) (marked || x.isMarked) := by
  refine ⟨?_, fun hm i disk => ?_⟩
  · rw [Bool.or_eq_true, h.met]
    constructor
    · rintro (⟨k, y, hk, hy, hm⟩ | hm)
      · exact ⟨k, y, Nat.lt_succ_of_lt hk, hy, hm⟩
      · exact ⟨time, x, Nat.lt_succ_self _, hx, hm⟩
    · rintro ⟨k, y, hk, hy, hm⟩
      obtain hk | rfl := Nat.lt_succ_iff_lt_or_eq.1 hk
      · exact .inl ⟨k, y, hk, hy, hm⟩
      · obtain rfl := Option.some.inj (hx.symm.trans hy)
        exact .inr hm
  · obtain ⟨hf, hxm⟩ := Bool.or_eq_false_iff.1 hm
    rw [waits_succ_iff hx, ← h.waits hf]
    obtain ⟨role, d⟩ := x
    cases role with
    | plain =>
      simp [waitingAfter, Sighting.isReadable, eq_comm]
    | marked marker => cases hxm
    | expander wwid id =>
      obtain cause | _ | wwid := wwid
      · simp [waitingAfter, Sighting.isReadable]
      · simp [waitingAfter, Sighting.isReadable]
      · simp [waitingAfter, Sighting.isReadable, hf]

/-- What is tried at a time are the attempts of that time. -/
theorem mem_trialsAt_iff {layout : Layout} (hs : layout.slotCount < 0x8000000000000000)
    (h : WaitAt seen time waiting marked) {x : Sighting} (hx : seen[time]? = some x)
    {i slot : Nat} {disk : Disk} :
    ⟨time, i, disk, .ok slot⟩ ∈ trialsAt layout time waiting marked x ↔
      Attempts layout seen time i slot ∧ seen[i]?.map (·.disk) = some disk := by
  constructor
  · intro ht
    unfold trialsAt at ht
    split at ht
    · rename_i marker hr
      obtain ⟨-, rfl, rfl, hp⟩ := Trial.mk.inj (List.mem_singleton.1 ht)
      have hd : seen[i]? = some ⟨.marked marker, x.disk⟩ := by
        rw [hx, ← hr]
      exact ⟨.marked hd hp.symm, by rw [hd]; rfl⟩
    · rename_i wwid id hr
      split at ht
      · cases ht
      · rename_i hm
        have hm := Bool.eq_false_iff.2 hm
        obtain ⟨w, hw, ht⟩ := List.mem_map.1 ht
        obtain ⟨-, rfl, rfl, hp⟩ := Trial.mk.inj ht
        obtain ⟨hi, hd, hf⟩ := (h.waits hm w.1 w.2).1 hw
        obtain ⟨a, b, ha, hb, hbus, h1, h2, he, hslot⟩ := (slotAtDistance_eq_ok_iff hs).1 hp
        have hmet : seen[time]? = some ⟨.expander (.ok (some wwid)) id, x.disk⟩ := by
          rw [hx, ← hr]
        exact ⟨.plain hd hi hmet hf (h.unmarked.1 hm) ha hb hbus h1 h2 he hslot, by rw [hd]; rfl⟩
    · cases ht
  · rintro ⟨ha, hd⟩
    cases ha with
    | marked device place =>
      obtain rfl := Option.some.inj (hx.symm.trans device)
      rw [device] at hd
      obtain rfl := Option.some.inj hd
      exact List.mem_singleton.2 (by rw [place])
    | plain device after met first unmarked deviceName expanderName bus near far index place =>
      obtain rfl := Option.some.inj (hx.symm.trans met)
      rw [device] at hd
      obtain rfl := Option.some.inj hd
      have hm := h.unmarked.2 unmarked
      have hp := (slotAtDistance_eq_ok_iff hs).2
        ⟨_, _, deviceName, expanderName, bus, near, far, index, place⟩
      have hw := (h.waits hm i _).2 ⟨after, device, first⟩
      show _ ∈ if marked = true then [] else _
      rw [if_neg (Bool.eq_false_iff.1 hm)]
      exact List.mem_map.2 ⟨_, hw, congrArg _ hp⟩

theorem mem_trials_iff {layout : Layout} (hs : layout.slotCount < 0x8000000000000000)
    (h : WaitAt seen time waiting marked) {rest : List Sighting} (hr : seen.drop time = rest)
    {j i slot : Nat} {disk : Disk} :
    ⟨j, i, disk, .ok slot⟩ ∈ trials layout time waiting marked rest ↔
      time ≤ j ∧ Attempts layout seen j i slot ∧ seen[i]?.map (·.disk) = some disk := by
  induction rest generalizing time waiting marked with
  | nil =>
    have hlen := List.drop_eq_nil_iff.1 hr
    refine ⟨fun ha => (nomatch ha), fun ⟨hj, ha, _⟩ => ?_⟩
    have hlt : j < seen.length := by
      cases ha with
      | marked device => exact (List.getElem?_eq_some_iff.1 device).1
      | plain _ _ met => exact (List.getElem?_eq_some_iff.1 met).1
    omega
  | cons x rest ih =>
    have hx : seen[time]? = some x := by
      rw [← List.head?_drop, hr, List.head?_cons]
    have hr' : seen.drop (time + 1) = rest := by
      rw [← List.tail_drop, hr, List.tail_cons]
    rw [trials, List.mem_append, ih (h.next hx) hr']
    constructor
    · rintro (ha | ⟨hj, ha⟩)
      · obtain rfl : j = time := time_of_mem_trialsAt ha
        exact ⟨Nat.le_refl _, (mem_trialsAt_iff hs h hx).1 ha⟩
      · exact ⟨Nat.le_of_succ_le hj, ha⟩
    · rintro ⟨hj, ha⟩
      obtain rfl | hj := Nat.eq_or_lt_of_le hj
      · exact .inl ((mem_trialsAt_iff hs h hx).2 ha)
      · exact .inr ⟨hj, ha⟩

end Attempting

/-! ## The first trial on a slot -/

/-- What is found first among trials in their order comes before whatever else could be found. -/
theorem before_of_find? {tried : List Trial} (hp : tried.Pairwise Trial.Before)
    {p : Trial → Bool} {a : Trial} (h : tried.find? p = some a) :
    ∀ b ∈ tried, p b = true → a = b ∨ a.Before b := by
  obtain ⟨-, before, after, rfl, hn⟩ := List.find?_eq_some_iff_append.1 h
  intro b hb hpb
  obtain hb | hb := List.mem_append.1 hb
  · have hb := hn b hb
    rw [hpb] at hb
    cases hb
  · obtain rfl | hb := List.mem_cons.1 hb
    · exact .inl rfl
    · exact .inr ((List.pairwise_cons.1 (List.pairwise_append.1 hp).2.1).1 b hb)

section First

variable {layout : Layout} (hs : layout.slotCount < 0x8000000000000000) (seen : List Sighting)

include hs

theorem mem_trials_start_iff {j i slot : Nat} {disk : Disk} :
    ⟨j, i, disk, .ok slot⟩ ∈ trials layout 0 [] false seen ↔
      Attempts layout seen j i slot ∧ seen[i]?.map (·.disk) = some disk := by
  rw [mem_trials_iff hs (waitAt_start seen) List.drop_zero]
  simp only [Nat.zero_le, true_and]

/-- The first trial on a slot is the earliest attempt on it. -/
theorem earliest_of_find? {slot : Nat} {a : Trial}
    (h : (trials layout 0 [] false seen).find? (·.isOn slot) = some a) :
    Attempts layout seen a.time a.device slot ∧ seen[a.device]?.map (·.disk) = some a.disk ∧
      ∀ j i, Attempts layout seen j i slot → a.time < j ∨ a.time = j ∧ a.device ≤ i := by
  obtain ⟨time, device, disk, slot'⟩ := a
  obtain rfl : slot' = .ok slot := Trial.isOn_iff.1 (List.find?_some h)
  obtain ⟨ha, hd⟩ := (mem_trials_start_iff hs seen).1 (List.mem_of_find?_eq_some h)
  refine ⟨ha, hd, fun j i hat => ?_⟩
  obtain ⟨x, hx⟩ := hat.exists_device
  have hm : ⟨j, i, x.disk, .ok slot⟩ ∈ trials layout 0 [] false seen :=
    (mem_trials_start_iff hs seen).2 ⟨hat, by rw [hx]; rfl⟩
  have hp : (trials layout 0 [] false seen).Pairwise Trial.Before :=
    (pairwise_trials layout seen ⟨.nil, fun _ h => nomatch h⟩ false).1
  obtain he | he | ⟨he, hlt⟩ := before_of_find? hp h _ hm (Trial.isOn_iff.2 rfl)
  · obtain ⟨rfl, rfl, -, -⟩ := Trial.mk.inj he
    exact .inr ⟨rfl, Nat.le_refl _⟩
  · exact .inl he
  · exact .inr ⟨he, Nat.le_of_lt hlt⟩

theorem find?_eq_none_iff_attempts {slot : Nat} :
    (trials layout 0 [] false seen).find? (·.isOn slot) = none ↔
      ∀ j i, ¬ Attempts layout seen j i slot := by
  constructor
  · intro h j i hat
    obtain ⟨x, hx⟩ := hat.exists_device
    have hm : ⟨j, i, x.disk, .ok slot⟩ ∈ trials layout 0 [] false seen :=
      (mem_trials_start_iff hs seen).2 ⟨hat, by rw [hx]; rfl⟩
    exact List.find?_eq_none.1 h _ hm (Trial.isOn_iff.2 rfl)
  · intro h
    cases hf : (trials layout 0 [] false seen).find? (·.isOn slot) with
    | none => rfl
    | some a => exact absurd (earliest_of_find? hs seen hf).1 (h a.time a.device)

end First

/-! ## A scan -/

theorem is_start (layout : Layout) : (⟨.start (.empty layout), []⟩ : Scan).Is layout [] false :=
  ⟨rfl, rfl, by simp [Survey.start, Topology.empty]⟩

theorem slot_ofSightings (layout : Layout) (seen : List Sighting) {slot : Nat}
    (h : slot < layout.slotCount) :
    (Scan.ofSightings layout seen).survey.topology.slots.get? slot =
      some ⟨((trials layout 0 [] false seen).find? (·.isOn slot)).map (·.disk), none⟩ := by
  rw [Scan.ofSightings, (foldl_step seen 0 (is_start layout)).1, get?_foldl_tryOut, Survey.start,
    Topology.empty, SlotTable.get?_empty, if_pos h]
  rfl

theorem family_ofSightings (layout : Layout) (seen : List Sighting) :
    (Scan.ofSightings layout seen).survey.topology.family = .byMarker ↔
      ∃ x ∈ seen, x.isMarked = true := by
  rw [Scan.ofSightings, (foldl_step seen 0 (is_start layout)).2]
  simp

/-- After a scan each slot has the device of the earliest attempt on it, by the time and then by the
index of the device, and is vacant if there is none; bays are named by markers if a marker was met.
A table that is in memory has fewer than `2 ^ 63` slots. -/
theorem scan_keeps_earliest_attempt {t : Files.Tree} {config : Config} {listed : List Files.Entry}
    (hd : Sysfs.devices t config.devicesRoot = .ok listed)
    (hs : config.layout.slotCount < 0x8000000000000000) :
    let seen := listed.map (Sighting.ofEntry t config.devicesRoot)
    let after := (scan t config).topology
    (∀ slot < config.layout.slotCount, ∃ kept, after.slots.get? slot = some kept ∧
      (∀ disk, kept.disk = some disk ↔ ∃ j i, Attempts config.layout seen j i slot ∧
        seen[i]?.map (·.disk) = some disk ∧
        ∀ j' i', Attempts config.layout seen j' i' slot → j < j' ∨ j = j' ∧ i ≤ i') ∧
      (kept.isVacant ↔ ∀ j i, ¬ Attempts config.layout seen j i slot)) ∧
    (after.family = .byMarker ↔ ∃ x ∈ seen, x.isMarked = true) := by
  intro seen after
  have ha : after = (Scan.ofSightings config.layout seen).survey.topology := by
    show (scan t config).topology = _
    rw [scan_of_devices hd]
  rw [ha]
  refine ⟨fun slot hlt => ⟨_, slot_ofSightings config.layout seen hlt, fun disk => ?_, ?_⟩,
    family_ofSightings config.layout seen⟩
  · constructor
    · intro h
      obtain ⟨a, hf, rfl⟩ := Option.map_eq_some_iff.1 h
      obtain ⟨hat, hdisk, hmin⟩ := earliest_of_find? hs seen hf
      exact ⟨a.time, a.device, hat, hdisk, hmin⟩
    · rintro ⟨j, i, hat, hdisk, hmin⟩
      cases hf : (trials config.layout 0 [] false seen).find? (·.isOn slot) with
      | none => exact absurd hat ((find?_eq_none_iff_attempts hs seen).1 hf j i)
      | some a =>
        obtain ⟨hat', hdisk', hmin'⟩ := earliest_of_find? hs seen hf
        have hi : a.device = i := by
          have h1 := hmin' j i hat
          have h2 := hmin _ _ hat'
          omega
        rw [hi, hdisk] at hdisk'
        exact hdisk'.symm
  · rw [← find?_eq_none_iff_attempts hs seen, Slot.isVacant, Option.isNone_iff_eq_none,
      Option.map_eq_none_iff]

/-! ## A disk and an expander -/

/-- The devices of a disk and of the expander after it. -/
def diskAndExpander : List (String × Files.Node) :=
  [("0:0:1:0", .directory []),
    ("0:0:2:0", .directory
      [("enclosure", .directory []), ("sas_address", .file [0x30, 0x78, 0x33, 0x66])])]

/-- A tree with these devices. -/
def devicesTree : Files.Tree :=
  ⟨[("bus", .directory [("scsi", .directory [("devices", .directory diskAndExpander)])])]⟩

/-- A tree of the working directory. -/
def devicesConfig : Config := { Config.standard with sysfsRoot := "" }

theorem devicesRoot_devicesConfig : devicesConfig.devicesRoot = "bus/scsi/devices" := by
  decide +kernel

theorem devices_devicesTree : Sysfs.devices devicesTree "bus/scsi/devices" =
    .ok [⟨"0:0:1:0", .directory⟩, ⟨"0:0:2:0", .directory⟩] := by
  have hr : devicesTree.top.reach (Files.Path.parts "bus/scsi/devices") =
      some (.ok (.directory diskAndExpander)) := rfl
  have hf : (diskAndExpander.map fun e => (⟨e.1, e.2.kind⟩ : Files.Entry)).filter
      (fun e => Sysfs.isDeviceName e.name) =
        [⟨"0:0:1:0", .directory⟩, ⟨"0:0:2:0", .directory⟩] := by decide +kernel
  have hn : ([⟨"0:0:1:0", .directory⟩, ⟨"0:0:2:0", .directory⟩] : List Files.Entry).filterMap
      (fun e => (Sysfs.address e).toOption.map fun a => (a, e)) =
        [(⟨0, 0, 1, 0⟩, ⟨"0:0:1:0", .directory⟩), (⟨0, 0, 2, 0⟩, ⟨"0:0:2:0", .directory⟩)] := by
    decide +kernel
  rw [Sysfs.devices, Sysfs.entries, Files.Tree.list_of_reach (by decide +kernel) hr]
  show Except.ok (Sysfs.enumerate ((diskAndExpander.map _).filter _)) = _
  rw [hf, Sysfs.enumerate, hn, List.mergeSort_of_pairwise (by decide +kernel)]
  rfl

theorem sighting_disk :
    Sighting.ofEntry devicesTree "bus/scsi/devices" ⟨"0:0:1:0", .directory⟩ =
      ⟨.plain, "0:0:1:0", "", ""⟩ := by
  have hd : Files.Path.join "bus/scsi/devices" "0:0:1:0" = "bus/scsi/devices/0:0:1:0" := by
    decide +kernel
  have hr : devicesTree.top.reach (Files.Path.parts "bus/scsi/devices/0:0:1:0") =
      some (.ok (.directory [])) := rfl
  have hl := Files.Tree.list_of_reach (by decide +kernel) hr
  rw [← hd] at hl
  rw [Sighting.ofEntry, Sighting.roleOf_of_list hl, hd,
    Sysfs.readAttribute_of_missing (by decide +kernel) rfl,
    Sysfs.blockName_of_missing (by decide +kernel) rfl]
  rfl

/-- The sighting of an expander with an address, of which sysfs says nothing else. -/
theorem sighting_of_expander {t : Files.Tree} {root name : String} {data : Bytes}
    {wwid : UInt64}
    (hp : Files.Tree.IsPlain (Files.Path.join root name))
    (hr : t.top.reach (Files.Path.parts (Files.Path.join root name)) =
      some (.ok (.directory [("enclosure", .directory []), ("sas_address", .file data)])))
    (hap : Files.Tree.IsPlain (Files.Path.join (Files.Path.join root name) "sas_address"))
    (har : t.top.reach (Files.Path.parts
      (Files.Path.join (Files.Path.join root name) "sas_address")) = some (.ok (.file data)))
    (hw : ((Text.Utf8.text? data).bind fun address =>
      Sysfs.readWwid (String.ofList (address.takeWhile (· ≠ '\n'))).toList) = some wwid)
    (hip : Files.Tree.IsPlain (Files.Path.join (Files.Path.join
      (Files.Path.join (Files.Path.join root name) "enclosure") name) "id"))
    (hir : t.top.reach (Files.Path.parts (Files.Path.join (Files.Path.join
      (Files.Path.join (Files.Path.join root name) "enclosure") name) "id")) =
        some (.error .noEntry))
    (hwp : Files.Tree.IsPlain (Files.Path.join (Files.Path.join root name) "wwid"))
    (hwr : t.top.reach (Files.Path.parts (Files.Path.join (Files.Path.join root name) "wwid")) =
      some (.error .noEntry))
    (hbp : Files.Tree.IsPlain (Files.Path.join (Files.Path.join root name) "block"))
    (hbr : t.top.reach (Files.Path.parts (Files.Path.join (Files.Path.join root name) "block")) =
      some (.error .noEntry)) :
    Sighting.ofEntry t root ⟨name, .directory⟩ =
      ⟨.expander (.ok (some wwid)) "", name, "", ""⟩ := by
  obtain ⟨address, ht, hw⟩ := Option.bind_eq_some_iff.1 hw
  have he : Sysfs.expanderAddress t (Files.Path.join root name) = .ok (some wwid) := by
    rw [Sysfs.expanderAddress, Sysfs.readAttribute_of_reach hap har ht, Except.map,
      Option.bind_some, hw]
  have hi : Sysfs.enclosureId t root name = .ok none := Sysfs.readAttribute_of_missing hip hir
  rw [Sighting.ofEntry, Sighting.roleOf_of_list (Files.Tree.list_of_reach hp hr), he, hi,
    Sysfs.readAttribute_of_missing hwp hwr, Sysfs.blockName_of_missing hbp hbr]
  rfl

theorem sighting_expander :
    Sighting.ofEntry devicesTree "bus/scsi/devices" ⟨"0:0:2:0", .directory⟩ =
      ⟨.expander (.ok (some 0x3f)) "", "0:0:2:0", "", ""⟩ :=
  sighting_of_expander (by decide +kernel) rfl (by decide +kernel) rfl (by decide +kernel)
    (by decide +kernel) rfl (by decide +kernel) rfl (by decide +kernel) rfl

theorem scan_keeps_earliest_attempt_devicesTree :
    Sysfs.devices devicesTree devicesConfig.devicesRoot =
        .ok [⟨"0:0:1:0", .directory⟩, ⟨"0:0:2:0", .directory⟩] ∧
      devicesConfig.layout.slotCount < 0x8000000000000000 ∧
      ∃ kept, (scan devicesTree devicesConfig).topology.slots.get? 27 = some kept ∧
        kept.disk = some ⟨"0:0:1:0", "", ""⟩ := by
  have hd : Sysfs.devices devicesTree devicesConfig.devicesRoot =
      .ok [⟨"0:0:1:0", .directory⟩, ⟨"0:0:2:0", .directory⟩] := by
    rw [devicesRoot_devicesConfig, devices_devicesTree]
  have hs : devicesConfig.layout.slotCount < 0x8000000000000000 := by decide
  obtain ⟨hslots, -⟩ := scan_keeps_earliest_attempt hd hs
  obtain ⟨kept, hk, hdisk, -⟩ := hslots 27 (by decide)
  refine ⟨hd, hs, kept, hk, (hdisk _).2 ?_⟩
  rw [devicesRoot_devicesConfig, List.map_cons, List.map_cons, List.map_nil, sighting_disk,
    sighting_expander]
  have ha : Hctl.Address.ofString "0:0:1:0" = .ok ⟨0, 0, 1, 0⟩ := rfl
  have hb : Hctl.Address.ofString "0:0:2:0" = .ok ⟨0, 0, 2, 0⟩ := rfl
  refine ⟨1, 0, ?_, rfl, fun j i h => ?_⟩
  · refine .plain rfl (by decide) rfl (fun k x h1 h2 => by omega) (fun k x hk hx => ?_) ha hb
      (by decide) (by decide) (by decide) (by decide) (by decide)
    obtain rfl : k = 0 := by omega
    obtain rfl := Option.some.inj hx
    rfl
  · obtain hj | rfl | hj := Nat.lt_trichotomy 1 j
    · exact .inl hj
    · exact .inr ⟨rfl, Nat.zero_le i⟩
    · obtain rfl : j = 0 := by omega
      cases h with
      | marked device => cases device
      | plain _ after => omega

end BayMap.Topology
