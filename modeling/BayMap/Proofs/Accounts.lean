import BayMap.Proofs.Trials
import Mathlib.Data.List.Induction

/-!
# What becomes of each device

A scan loses no device and counts none twice: each device that is listed is in one slot, is an
expander that was registered, is what one problem is about, or is a disk that still waited when the
scan ended. A tally counts, for names that are chosen, the slots, problems and waiting disks of such
names; a step adds one to it for its device, unless that is an expander that gets an entry.

* `holding_assign`, `tally_place`, `tally_register`: what one device adds to a tally.
* `tally_step`, `tally_foldl_step`: a step of a scan, and a run of it.
* `is_ofSightings`: what waits at the end of a scan are the disks of `leftOver`.
* `scan_accounts_for_every_device`: the account of a scan, device by device and in total.
-/

namespace BayMap.Topology

/-! ## Tallies -/

/-- The slots that hold a device of a chosen name. -/
def SlotTable.holding (t : SlotTable) (p : String → Bool) : Nat :=
  t.slots.toList.countP fun slot => slot.disk.any (p ·.deviceName)

/-- The device that a problem of a scan is about. -/
def Diagnostic.device? : Diagnostic → Option String
  | .unplaced device _ | .wwidMissing device | .wwidUnreadable device _ => some device
  | _ => none

/-- The problems that are about a device of a chosen name. -/
def reported (p : String → Bool) (problems : List Diagnostic) : Nat :=
  problems.countP (·.device?.any p)

/-- The slots and problems of chosen names. -/
def Survey.tally (p : String → Bool) (s : Survey) : Nat :=
  s.topology.slots.holding p + reported p s.diagnostics

/-- The slots, problems and waiting disks of chosen names. -/
def Scan.tally (p : String → Bool) (s : Scan) : Nat :=
  s.survey.tally p + s.pending.countP (p ·.deviceName)

section Tally

variable (p : String → Bool)

theorem holding_empty (layout : Layout) : (SlotTable.empty layout).holding p = 0 := by
  simp [SlotTable.holding, SlotTable.empty, Slot.empty, List.countP_replicate]

/-- A slot that takes a device had none. -/
theorem holding_assign {t u : SlotTable} {index : Nat} {disk : Disk}
    (h : t.assign index disk = .ok u) :
    u.holding p = t.holding p + if p disk.deviceName then 1 else 0 := by
  obtain ⟨slot, hs, hv, rfl⟩ := SlotTable.assign_eq_ok_iff.1 h
  obtain ⟨hlt, hg⟩ := Array.getElem?_eq_some_iff.1 hs
  have hl : index < t.slots.toList.length := hlt
  have hn : (t.slots.toList[index].disk.any fun d => p d.deviceName) = false := by
    rw [Array.getElem_toList, hg, hv, Option.any_none]
  unfold SlotTable.holding
  rw [Array.toList_setIfInBounds, List.countP_set hl, hn]
  simp

theorem tally_note (s : Survey) (problem : Diagnostic) {device : String}
    (h : problem.device? = some device) :
    (s.note [problem]).tally p = s.tally p + if p device then 1 else 0 := by
  simp [Survey.tally, reported, List.countP_append, List.countP_singleton, h, Nat.add_assoc]

theorem tally_place (s : Survey) (disk : Disk) (slot : Except PlacementError Nat) :
    (s.place disk slot).tally p = s.tally p + if p disk.deviceName then 1 else 0 := by
  unfold Survey.place
  split
  · rename_i slots h
    cases hs : slot with
    | error cause =>
      rw [hs] at h
      cases h
    | ok index =>
      rw [hs] at h
      have ha : slots.holding p = s.topology.slots.holding p + if p disk.deviceName then 1 else 0 :=
        holding_assign p h
      show slots.holding p + reported p s.diagnostics = _
      rw [ha, Survey.tally]
      omega
  · exact tally_note p s _ rfl

theorem tally_foldl_place (f : Survey → Disk → Except PlacementError Nat) (disks : List Disk)
    (s : Survey) :
    (disks.foldl (fun survey disk => survey.place disk (f survey disk)) s).tally p =
      s.tally p + disks.countP (p ·.deviceName) := by
  induction disks generalizing s with
  | nil => rfl
  | cons disk rest ih =>
    rw [List.foldl_cons, ih, tally_place, List.countP_cons]
    omega

/-- What waits for an expander is counted before and after it is placed. -/
theorem tally_drain (s : Scan) (expander : String) (index : Nat) :
    (s.drain expander index).tally p = s.tally p := by
  unfold Scan.drain
  split
  · rfl
  · unfold Scan.tally
    rw [tally_foldl_place, List.countP_nil, Nat.add_zero]

end Tally

/-! ## Expanders -/

/-- The address of an expander, if it can be read. -/
def Sighting.address? (x : Sighting) : Option UInt64 :=
  match x.role with
  | .expander (.ok address) _ => address
  | _ => none

/-- The entry that a sighting is registered at, in a table of so many entries. -/
def Sighting.indexIn? (entries : Nat) (x : Sighting) : Option Nat :=
  (x.address?.map expanderIndex).filter (· < entries)

/-- The sighting is of an expander that a table of so many entries has an entry for. -/
def Sighting.isRegistered (entries : Nat) (x : Sighting) : Bool := (x.indexIn? entries).isSome

theorem isRegistered_expander (entries : Nat) (wwid : UInt64) (id : String) (disk : Disk) :
    (Sighting.mk (.expander (.ok (some wwid)) id) disk).isRegistered entries =
      decide (expanderIndex wwid < entries) := by
  by_cases h : expanderIndex wwid < entries <;>
    simp [Sighting.isRegistered, Sighting.indexIn?, Sighting.address?, Option.filter_some, h]

/-- An expander is registered if there is an entry for it, and is a problem otherwise. -/
theorem register_cases (s : Survey) (deviceName : String) (wwid : UInt64) (enclosureId : String) :
    (expanderIndex wwid < s.topology.expanders.size ∧ ∃ u,
      s.topology.expanders.change? (expanderIndex wwid)
        (fun e => { e with deviceName, wwid, enclosureId }) = some u ∧
      s.register deviceName wwid enclosureId =
        { s with topology.expanders := { u with registered := u.registered + 1 } }) ∨
    (s.topology.expanders.size ≤ expanderIndex wwid ∧
      s.register deviceName wwid enclosureId =
        s.note [.unplaced deviceName (.expanderOutOfRange (expanderIndex wwid))]) := by
  unfold Survey.register ExpanderTable.register
  by_cases hlt : expanderIndex wwid < s.topology.expanders.size
  · refine .inl ⟨hlt, _, if_pos hlt, ?_⟩
    simp only [ExpanderTable.change?, if_pos hlt]
    rfl
  · refine .inr ⟨Nat.le_of_not_lt hlt, ?_⟩
    simp only [ExpanderTable.change?, if_neg hlt]
    rfl

/-- What is registered is the device of no slot and no problem. -/
theorem tally_register (p : String → Bool) (s : Survey) (deviceName : String) (wwid : UInt64)
    (enclosureId : String) :
    (s.register deviceName wwid enclosureId).tally p +
        (if decide (expanderIndex wwid < s.topology.expanders.size) && p deviceName then 1
          else 0) =
      s.tally p + if p deviceName then 1 else 0 := by
  obtain ⟨hlt, u, -, hr⟩ | ⟨hle, hr⟩ := register_cases s deviceName wwid enclosureId
  · rw [hr, decide_eq_true hlt, Bool.true_and]
    rfl
  · rw [hr, decide_eq_false (Nat.not_lt.2 hle), tally_note p s _ rfl]
    rfl

theorem size_register (s : Survey) (deviceName : String) (wwid : UInt64) (enclosureId : String) :
    (s.register deviceName wwid enclosureId).topology.expanders.size =
      s.topology.expanders.size := by
  obtain ⟨-, u, hu, hr⟩ | ⟨-, hr⟩ := register_cases s deviceName wwid enclosureId
  · rw [hr, ← ExpanderTable.size_change? hu]
    rfl
  · rw [hr]
    rfl

theorem registered_register (s : Survey) (deviceName : String) (wwid : UInt64)
    (enclosureId : String) :
    (s.register deviceName wwid enclosureId).topology.expanders.registered =
      s.topology.expanders.registered +
        if expanderIndex wwid < s.topology.expanders.size then 1 else 0 := by
  obtain ⟨hlt, u, hu, hr⟩ | ⟨hle, hr⟩ := register_cases s deviceName wwid enclosureId
  · rw [hr, if_pos hlt, ← ExpanderTable.registered_change? hu]
  · rw [hr, if_neg (Nat.not_lt.2 hle)]
    rfl

/-! ## Steps -/

/-- An expander with an address places what waits, and is registered. -/
theorem tally_meet (p : String → Bool) (s : Scan) (expander : String) (wwid : UInt64)
    (id : String) :
    let drained := s.drain expander (expanderIndex wwid)
    { drained with survey := drained.survey.register expander wwid id }.tally p +
        (if decide (expanderIndex wwid < s.survey.topology.expanders.size) && p expander then 1
          else 0) =
      s.tally p + if p expander then 1 else 0 := by
  intro drained
  have hr := tally_register p drained.survey expander wwid id
  rw [expanders_drain] at hr
  rw [← tally_drain p s expander (expanderIndex wwid)]
  show (drained.survey.register expander wwid id).tally p +
    drained.pending.countP (p ·.deviceName) + _ = drained.tally p + _
  rw [Scan.tally]
  omega

/-- A step counts its device, unless it registers it. -/
theorem tally_step (p : String → Bool) (s : Scan) (x : Sighting) :
    (s.step x).tally p +
        (if x.isRegistered s.survey.topology.expanders.size && p x.name then 1 else 0) =
      s.tally p + if p x.name then 1 else 0 := by
  obtain ⟨role, disk⟩ := x
  show _ = _ + if p disk.deviceName then 1 else 0
  cases role with
  | plain =>
    show s.survey.tally p + (s.pending ++ [disk]).countP (p ·.deviceName) + 0 = _
    rw [List.countP_append, List.countP_singleton, Scan.tally]
    omega
  | marked marker =>
    show (s.byMarker.survey.place disk (markerSlot marker)).tally p +
      s.pending.countP (p ·.deviceName) + 0 = _
    rw [tally_place]
    show s.survey.tally p + _ + _ + 0 = _
    rw [Scan.tally]
    omega
  | expander wwid id =>
    obtain cause | _ | wwid := wwid
    · show (s.survey.note [.wwidUnreadable disk.deviceName cause]).tally p +
        s.pending.countP (p ·.deviceName) + 0 = _
      rw [tally_note p s.survey _ rfl, Scan.tally]
      omega
    · show (s.survey.note [.wwidMissing disk.deviceName]).tally p +
        s.pending.countP (p ·.deviceName) + 0 = _
      rw [tally_note p s.survey _ rfl, Scan.tally]
      omega
    · rw [isRegistered_expander]
      exact tally_meet p s disk.deviceName wwid id

theorem size_step (s : Scan) (x : Sighting) :
    (s.step x).survey.topology.expanders.size = s.survey.topology.expanders.size := by
  unfold Scan.step
  split
  · rfl
  · exact congrArg _ (expanders_place _ _ _)
  · exact (size_register _ _ _ _).trans (congrArg _ (expanders_drain _ _ _))
  · rfl
  · rfl

theorem registered_step (s : Scan) (x : Sighting) :
    (s.step x).survey.topology.expanders.registered =
      s.survey.topology.expanders.registered +
        if x.isRegistered s.survey.topology.expanders.size then 1 else 0 := by
  obtain ⟨role, disk⟩ := x
  cases role with
  | plain => rfl
  | marked marker => exact congrArg _ (expanders_place _ _ _)
  | expander wwid id =>
    obtain cause | _ | wwid := wwid
    · rfl
    · rfl
    · rw [isRegistered_expander]
      show (Survey.register _ _ _ _).topology.expanders.registered = _
      rw [registered_register, expanders_drain]
      simp

/-! ## Runs -/

theorem size_foldl_step (seen : List Sighting) (s : Scan) :
    (seen.foldl Scan.step s).survey.topology.expanders.size =
      s.survey.topology.expanders.size := by
  induction seen generalizing s with
  | nil => rfl
  | cons x rest ih => rw [List.foldl_cons, ih, size_step]

/-- A run counts all of its devices, except those that it registers. -/
theorem tally_foldl_step (p : String → Bool) (seen : List Sighting) (s : Scan) :
    (seen.foldl Scan.step s).tally p +
        seen.countP (fun x => x.isRegistered s.survey.topology.expanders.size && p x.name) =
      s.tally p + seen.countP (p ·.name) := by
  induction seen generalizing s with
  | nil => rfl
  | cons x rest ih =>
    have hx := tally_step p s x
    have hr := ih (s.step x)
    rw [size_step] at hr
    rw [List.foldl_cons, List.countP_cons, List.countP_cons]
    omega

theorem registered_foldl_step (seen : List Sighting) (s : Scan) :
    (seen.foldl Scan.step s).survey.topology.expanders.registered =
      s.survey.topology.expanders.registered +
        seen.countP (·.isRegistered s.survey.topology.expanders.size) := by
  induction seen generalizing s with
  | nil => rfl
  | cons x rest ih =>
    rw [List.foldl_cons, ih, size_step, registered_step, List.countP_cons]
    omega

/-- The count of the devices in slots is kept by trials. -/
theorem occupied_foldl_tryOut (trials : List Trial) (t : SlotTable)
    (h : t.occupied = t.holding fun _ => true) :
    (trials.foldl SlotTable.tryOut t).occupied =
      (trials.foldl SlotTable.tryOut t).holding fun _ => true := by
  induction trials generalizing t with
  | nil => exact h
  | cons x rest ih =>
    refine ih (t.tryOut x) ?_
    unfold SlotTable.tryOut
    split
    · rename_i slots hslots
      cases hx : x.slot with
      | error cause =>
        rw [hx] at hslots
        cases hslots
      | ok index =>
        rw [hx] at hslots
        have ho : slots.occupied = t.occupied + 1 := SlotTable.occupied_assign hslots
        have hh : slots.holding (fun _ => true) = t.holding (fun _ => true) + 1 :=
          holding_assign (fun _ => true) hslots
        rw [ho, hh, h]
    · exact h

/-! ## Problems -/

/-- A survey goes on to another that has the same problems and maybe more, which are about
devices. -/
def Survey.TellsMore (s u : Survey) : Prop :=
  ∃ problems, u.diagnostics = s.diagnostics ++ problems ∧
    ∀ problem ∈ problems, problem.device?.isSome

namespace Survey.TellsMore

theorem refl (s : Survey) : s.TellsMore s :=
  ⟨[], (List.append_nil _).symm, fun _ h => nomatch h⟩

theorem trans {s u w : Survey} (h : s.TellsMore u) (h' : u.TellsMore w) : s.TellsMore w := by
  obtain ⟨problems, hu, hp⟩ := h
  obtain ⟨more, hw, hm⟩ := h'
  refine ⟨problems ++ more, by rw [hw, hu, List.append_assoc], fun problem hmem => ?_⟩
  obtain hmem | hmem := List.mem_append.1 hmem
  · exact hp problem hmem
  · exact hm problem hmem

theorem mem {s u : Survey} (h : s.TellsMore u) {problem : Diagnostic}
    (hp : problem ∈ s.diagnostics) : problem ∈ u.diagnostics := by
  obtain ⟨problems, hu, -⟩ := h
  rw [hu]
  exact List.mem_append_left _ hp

end Survey.TellsMore

theorem tellsMore_note (s : Survey) {problem : Diagnostic} (h : problem.device?.isSome) :
    s.TellsMore (s.note [problem]) := by
  refine ⟨[problem], rfl, fun d hd => ?_⟩
  obtain rfl := List.mem_singleton.1 hd
  exact h

theorem tellsMore_place (s : Survey) (disk : Disk) (slot : Except PlacementError Nat) :
    s.TellsMore (s.place disk slot) := by
  unfold Survey.place
  split
  · exact .refl s
  · exact tellsMore_note s rfl

theorem tellsMore_drain (s : Scan) (expander : String) (index : Nat) :
    s.survey.TellsMore (s.drain expander index).survey := by
  unfold Scan.drain
  split
  · exact .refl s.survey
  · show s.survey.TellsMore (s.pending.foldl _ s.survey)
    generalize s.survey = survey
    induction s.pending generalizing survey with
    | nil => exact .refl survey
    | cons disk rest ih => exact (tellsMore_place survey _ _).trans (ih _)

theorem tellsMore_register (s : Survey) (deviceName : String) (wwid : UInt64)
    (enclosureId : String) : s.TellsMore (s.register deviceName wwid enclosureId) := by
  obtain ⟨-, u, -, hr⟩ | ⟨-, hr⟩ := register_cases s deviceName wwid enclosureId
  · rw [hr]
    exact .refl s
  · rw [hr]
    exact tellsMore_note s rfl

theorem tellsMore_step (s : Scan) (x : Sighting) : s.survey.TellsMore (s.step x).survey := by
  unfold Scan.step
  split
  · exact .refl s.survey
  · exact tellsMore_place s.byMarker.survey _ _
  · exact (tellsMore_drain s _ _).trans (tellsMore_register _ _ _ _)
  · exact tellsMore_note s.survey rfl
  · exact tellsMore_note s.survey rfl

theorem tellsMore_foldl_step (seen : List Sighting) (s : Scan) :
    s.survey.TellsMore (seen.foldl Scan.step s).survey := by
  induction seen generalizing s with
  | nil => exact .refl s.survey
  | cons x rest ih => exact (tellsMore_step s x).trans (ih (s.step x))

/-! ## What still waits -/

/-- The sighting is of a device without a marker that is no expander. -/
def Sighting.isPlain (x : Sighting) : Bool :=
  match x.role with
  | .plain => true
  | _ => false

/-- The device at an index is a disk that a scan leaves where it is, and says nothing of: each
expander after it whose address can be read comes after a marker. -/
def LeftAt (seen : List Sighting) (i : Nat) : Prop :=
  seen[i]?.any (·.isPlain) = true ∧
    ∀ j < seen.length, i < j → seen[j]?.any (·.isReadable) = true →
      (seen.take j).any (·.isMarked) = true

instance (seen : List Sighting) (i : Nat) : Decidable (LeftAt seen i) :=
  inferInstanceAs (Decidable (_ ∧ _))

/-- The disks that a scan leaves where they are, with their indices. -/
def leftOver (seen : List Sighting) : List (Sighting × Nat) :=
  seen.zipIdx.filter (LeftAt seen ·.2)

section LeftOver

variable {seen : List Sighting} {x : Sighting}

/-- An expander whose address can be read leaves nothing of what came before it, unless there was a
marker. -/
theorem leftAt_append_of_lt {i : Nat} (hi : i < seen.length) :
    LeftAt (seen ++ [x]) i ↔
      LeftAt seen i ∧ (x.isReadable = true → seen.any (·.isMarked) = true) := by
  unfold LeftAt
  rw [List.getElem?_append_left hi, List.length_append, List.length_singleton, and_assoc]
  refine and_congr_right fun _ => ?_
  constructor
  · intro h
    refine ⟨fun j hj hij hr => ?_, fun hr => ?_⟩
    · have hm := h j (Nat.lt_succ_of_lt hj) hij
      rw [List.getElem?_append_left hj, List.take_append_of_le_length (Nat.le_of_lt hj)] at hm
      exact hm hr
    · have hm := h seen.length (Nat.lt_succ_self _) hi
      rw [List.getElem?_concat_length, List.take_left] at hm
      exact hm hr
  · rintro ⟨h, hx⟩ j hj hij
    obtain hj | rfl := Nat.lt_succ_iff_lt_or_eq.1 hj
    · rw [List.getElem?_append_left hj, List.take_append_of_le_length (Nat.le_of_lt hj)]
      exact h j hj hij
    · rw [List.getElem?_concat_length, List.take_left]
      exact hx

/-- A disk is left where it is as long as nothing comes after it. -/
theorem leftAt_append_length : LeftAt (seen ++ [x]) seen.length ↔ x.isPlain = true := by
  unfold LeftAt
  rw [List.getElem?_concat_length, List.length_append, List.length_singleton, Option.any_some]
  exact and_iff_left fun j hj hij => by omega

theorem leftOver_append (seen : List Sighting) (x : Sighting) :
    leftOver (seen ++ [x]) =
      (if x.isReadable && !seen.any (·.isMarked) then [] else leftOver seen) ++
        if x.isPlain then [(x, seen.length)] else [] := by
  unfold leftOver
  rw [List.zipIdx_append, List.filter_append]
  congr 1
  · have hl : ∀ y ∈ seen.zipIdx, decide (LeftAt (seen ++ [x]) y.2) =
        (!(x.isReadable && !seen.any (·.isMarked)) && decide (LeftAt seen y.2)) := by
      intro y hy
      have hi := (List.getElem?_eq_some_iff.1 (List.mem_zipIdx_iff_getElem?.1 hy)).1
      rw [Bool.eq_iff_iff, decide_eq_true_iff, leftAt_append_of_lt hi]
      cases x.isReadable <;> cases seen.any (·.isMarked) <;> simp
    rw [List.filter_congr hl]
    cases x.isReadable && !seen.any (·.isMarked) <;> simp
  · simp [List.filter_cons, leftAt_append_length]

/-- What waits at the end of a scan is what it leaves where it is. -/
theorem is_ofSightings (layout : Layout) (seen : List Sighting) :
    (Scan.ofSightings layout seen).Is layout ((leftOver seen).map fun (x, i) => (i, x.disk))
      (seen.any (·.isMarked)) := by
  induction seen using List.reverseRecOn with
  | nil => exact is_start layout
  | append_singleton seen x ih =>
    have hw : (leftOver (seen ++ [x])).map (fun (x, i) => (i, x.disk)) =
        waitingAfter seen.length ((leftOver seen).map fun (x, i) => (i, x.disk))
          (seen.any (·.isMarked)) x := by
      rw [leftOver_append]
      obtain ⟨role, disk⟩ := x
      cases role with
      | plain => simp [waitingAfter, Sighting.isReadable, Sighting.isPlain]
      | marked marker => simp [waitingAfter, Sighting.isReadable, Sighting.isPlain]
      | expander wwid id =>
        obtain cause | _ | wwid := wwid
        · simp [waitingAfter, Sighting.isReadable, Sighting.isPlain]
        · simp [waitingAfter, Sighting.isReadable, Sighting.isPlain]
        · cases hm : seen.any (·.isMarked) <;>
            simp [waitingAfter, Sighting.isReadable, Sighting.isPlain]
    rw [hw, List.any_append, List.any_cons, List.any_nil, Bool.or_false, Scan.ofSightings,
      List.foldl_append]
    exact (is_step ih seen.length x).1

end LeftOver

/-! ## The account of a scan -/

theorem tally_start (p : String → Bool) (layout : Layout) :
    (⟨.start (.empty layout), []⟩ : Scan).tally p = 0 := by
  show (SlotTable.empty layout).holding p + 0 + 0 = 0
  rw [holding_empty]

theorem size_start (layout : Layout) :
    (Survey.start (.empty layout)).topology.expanders.size = layout.expanders := by
  simp [Survey.start, Topology.empty, ExpanderTable.empty, ExpanderTable.size]

/-- The account of a scan for names that are chosen. -/
theorem account_ofSightings (p : String → Bool) (layout : Layout) (seen : List Sighting) :
    let after := (Scan.ofSightings layout seen).survey
    after.topology.slots.holding p +
        seen.countP (fun x => x.isRegistered layout.expanders && p x.name) +
        reported p after.diagnostics + (leftOver seen).countP (p ·.1.name) =
      seen.countP (p ·.name) := by
  intro after
  have ht := tally_foldl_step p seen ⟨.start (.empty layout), []⟩
  have hw := (is_ofSightings layout seen).pending
  have hp : (Scan.ofSightings layout seen).pending.countP (p ·.deviceName) =
      (leftOver seen).countP (p ·.1.name) := by
    rw [hw, List.map_map, List.countP_map]
    rfl
  rw [tally_start, size_start] at ht
  change after.topology.slots.holding p + reported p after.diagnostics +
    (Scan.ofSightings layout seen).pending.countP _ + _ = _ at ht
  omega

/-- What only the element at an index can be is there once or not at all. -/
theorem countP_of_unique {α : Type} {l : List α} {i : Nat} {a : α} (ha : l[i]? = some a)
    {q : α → Bool} (hq : ∀ j b, l[j]? = some b → q b = true → j = i) :
    l.countP q = if q a then 1 else 0 := by
  obtain ⟨hi, rfl⟩ := List.getElem?_eq_some_iff.1 ha
  have hb : (l.take i).countP q = 0 := by
    refine List.countP_eq_zero.2 fun b hb hqb => ?_
    obtain ⟨j, hj, rfl⟩ := List.mem_take_iff_getElem.1 hb
    have := hq j _ (List.getElem?_eq_getElem (by omega)) hqb
    omega
  have hd : (l.drop (i + 1)).countP q = 0 := by
    refine List.countP_eq_zero.2 fun b hb hqb => ?_
    obtain ⟨j, hj, rfl⟩ := List.mem_drop_iff_getElem.1 hb
    have := hq _ _ (List.getElem?_eq_getElem (by omega)) hqb
    omega
  calc l.countP q = (l.take i ++ l[i] :: l.drop (i + 1)).countP q := by
        rw [← List.drop_eq_getElem_cons hi, List.take_append_drop]
    _ = if q l[i] then 1 else 0 := by
        rw [List.countP_append, List.countP_cons, hb, hd]
        omega

/-- The account of a scan for a device that no other device shares its name with. -/
theorem account_of_device (layout : Layout) {seen : List Sighting} {i : Nat} {x : Sighting}
    (hx : seen[i]? = some x) (hu : ∀ j y, seen[j]? = some y → y.name = x.name → j = i) :
    let after := (Scan.ofSightings layout seen).survey
    after.topology.slots.holding (· = x.name) +
      (if x.isRegistered layout.expanders then 1 else 0) +
      reported (· = x.name) after.diagnostics + (if LeftAt seen i then 1 else 0) = 1 := by
  intro after
  have hall := account_ofSightings (· = x.name) layout seen
  have hone : seen.countP (fun y => decide (y.name = x.name)) = 1 := by
    rw [countP_of_unique hx fun j y hy he => hu j y hy (of_decide_eq_true he)]
    simp
  have hreg : seen.countP (fun y => y.isRegistered layout.expanders &&
      decide (y.name = x.name)) = if x.isRegistered layout.expanders then 1 else 0 := by
    rw [countP_of_unique hx fun j y hy he =>
      hu j y hy (of_decide_eq_true (Bool.and_eq_true_iff.1 he).2)]
    simp
  have hleft : (leftOver seen).countP (fun y => decide (y.1.name = x.name)) =
      if LeftAt seen i then 1 else 0 := by
    have hi : seen.zipIdx[i]? = some (x, i) := by
      rw [List.getElem?_zipIdx, hx, Nat.zero_add]
      rfl
    have hz : ∀ j y, seen.zipIdx[j]? = some y →
        (decide (y.1.name = x.name) && decide (LeftAt seen y.2)) = true → j = i := by
      intro j y hy he
      rw [List.getElem?_zipIdx] at hy
      obtain ⟨z, hz, rfl⟩ := Option.map_eq_some_iff.1 hy
      exact hu j z hz (of_decide_eq_true (Bool.and_eq_true_iff.1 he).1)
    rw [leftOver, List.countP_filter, countP_of_unique hi hz]
    simp
  rw [hone, hreg, hleft] at hall
  exact hall

/-- The count that the slots keep is that of the devices in them. -/
theorem occupied_ofSightings (layout : Layout) (seen : List Sighting) :
    let slots := (Scan.ofSightings layout seen).survey.topology.slots
    slots.occupied = slots.holding fun _ => true := by
  show (seen.foldl Scan.step _).survey.topology.slots.occupied = SlotTable.holding
    (seen.foldl Scan.step _).survey.topology.slots _
  rw [(foldl_step seen 0 (is_start layout)).1]
  exact occupied_foldl_tryOut _ _ (holding_empty _ _).symm

/-- The account of a scan for all devices. -/
theorem account_total (layout : Layout) (seen : List Sighting) :
    let after := (Scan.ofSightings layout seen).survey
    after.topology.expanders.registered = seen.countP (·.isRegistered layout.expanders) ∧
    after.topology.slots.occupied + after.topology.expanders.registered +
      after.diagnostics.length + (leftOver seen).length = seen.length := by
  intro after
  have hr : after.topology.expanders.registered =
      seen.countP (·.isRegistered layout.expanders) := by
    show (seen.foldl Scan.step _).survey.topology.expanders.registered = _
    rw [registered_foldl_step, size_start]
    exact Nat.zero_add _
  have hn : reported (fun _ => true) after.diagnostics = after.diagnostics.length := by
    obtain ⟨problems, hp, hd⟩ := tellsMore_foldl_step seen ⟨.start (.empty layout), []⟩
    replace hp : after.diagnostics = problems := hp
    rw [hp]
    refine List.countP_eq_length.2 fun d hm => ?_
    rw [Option.any_true]
    exact hd d hm
  have hall := account_ofSightings (fun _ => true) layout seen
  simp only [Bool.and_true, List.countP_true] at hall
  refine ⟨hr, ?_⟩
  rw [hr, occupied_ofSightings, ← hn]
  change _ + _ + _ + _ = seen.length at hall
  omega

/-- Each device that a scan meets is in one slot, or is registered, or is what one problem is about,
or is left where it is, if no other device has its name. So the devices in slots, the registered
expanders, the problems and the disks that are left add up to all devices. -/
theorem scan_accounts_for_every_device {t : Files.Tree} {config : Config}
    {listed : List Files.Entry} (hd : Sysfs.devices t config.devicesRoot = .ok listed) :
    let seen := listed.map (Sighting.ofEntry t config.devicesRoot)
    let after := scan t config
    (∀ i x, seen[i]? = some x → (∀ j y, seen[j]? = some y → y.name = x.name → j = i) →
      after.topology.slots.holding (· = x.name) +
        (if x.isRegistered config.layout.expanders then 1 else 0) +
        reported (· = x.name) after.diagnostics + (if LeftAt seen i then 1 else 0) = 1) ∧
    (∀ p : String → Bool, after.topology.slots.holding p +
        seen.countP (fun x => x.isRegistered config.layout.expanders && p x.name) +
        reported p after.diagnostics + (leftOver seen).countP (p ·.1.name) =
      listed.countP (p ·.name)) ∧
    after.topology.expanders.registered = seen.countP (·.isRegistered config.layout.expanders) ∧
    after.topology.slots.occupied + after.topology.expanders.registered +
        after.diagnostics.length + (leftOver seen).length =
      listed.length := by
  intro seen after
  have ha : after = (Scan.ofSightings config.layout seen).survey := scan_of_devices hd
  obtain ⟨hr, htotal⟩ := account_total config.layout seen
  rw [ha]
  refine ⟨fun i x hx hu => account_of_device config.layout hx hu, fun p => ?_, hr, ?_⟩
  · rw [account_ofSightings p config.layout seen]
    exact List.countP_map
  · rw [htotal]
    exact List.length_map _

theorem scan_accounts_for_every_device_devicesTree :
    let after := scan devicesTree devicesConfig
    Sysfs.devices devicesTree devicesConfig.devicesRoot =
        .ok [⟨"0:0:1:0", .directory⟩, ⟨"0:0:2:0", .directory⟩] ∧
      after.topology.slots.holding (· = "0:0:1:0") +
        reported (· = "0:0:1:0") after.diagnostics = 1 ∧
      after.topology.expanders.registered = 1 ∧
      after.topology.slots.occupied + after.diagnostics.length = 1 := by
  intro after
  have hd : Sysfs.devices devicesTree devicesConfig.devicesRoot =
      .ok [⟨"0:0:1:0", .directory⟩, ⟨"0:0:2:0", .directory⟩] := by
    rw [devicesRoot_devicesConfig, devices_devicesTree]
  obtain ⟨hone, -, hr, htotal⟩ := scan_accounts_for_every_device hd
  have hs : [(⟨"0:0:1:0", .directory⟩ : Files.Entry), ⟨"0:0:2:0", .directory⟩].map
      (Sighting.ofEntry devicesTree devicesConfig.devicesRoot) =
        [⟨.plain, "0:0:1:0", "", ""⟩,
          ⟨.expander (.ok (some 0x3f)) "", "0:0:2:0", "", ""⟩] := by
    rw [devicesRoot_devicesConfig, List.map_cons, List.map_cons, List.map_nil, sighting_disk,
      sighting_expander]
  rw [hs] at hone hr htotal
  have hreg : after.topology.expanders.registered = 1 := hr.trans rfl
  refine ⟨hd, ?_, hreg, ?_⟩
  · refine hone 0 ⟨.plain, "0:0:1:0", "", ""⟩ rfl fun j y hy hn => ?_
    match j, hy with
    | 0, _ => rfl
    | 1, hy =>
      obtain rfl := Option.some.inj hy
      exact absurd hn (by decide)
    | _ + 2, hy => cases hy
  · have hl : (leftOver [⟨.plain, "0:0:1:0", "", ""⟩,
        ⟨.expander (.ok (some 0x3f)) "", "0:0:2:0", "", ""⟩]).length = 0 := rfl
    rw [hl, List.length_cons, List.length_singleton] at htotal
    change after.topology.slots.occupied + after.topology.expanders.registered +
      after.diagnostics.length + 0 = 2 at htotal
    omega

end BayMap.Topology
