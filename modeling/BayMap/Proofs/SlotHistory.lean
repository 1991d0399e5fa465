import BayMap.Proofs.Accounts

/-!
# Histories of slot tables

A table of slots is changed in three ways: a device is assigned to a slot, a record is kept of one,
and all is forgotten. Whatever was done to it, it has the slots of its layout, its count is that of
the slots with a device, and a slot holds exactly the device that entered it since all was last
forgotten. What is refused changes nothing.

* `counted_change`, `counted_after`: the size and the count, after one change and after any number.
* `disk?_change`, `disk?_after`: the device in a slot.
* `assign_eq_error_iff`: which devices are refused.
* `slots_keep_count_and_devices`: all of this for the tables of a layout.
-/

namespace BayMap.Topology

/-- What is done to a table. -/
inductive SlotChange where
  /-- A device is assigned to a slot. -/
  | assign (index : Nat) (disk : Disk)
  /-- A record is kept of the phy wired to a slot. -/
  | setRecord (index : Nat) (record : Smp.PhyRecord)
  /-- All is forgotten. -/
  | clear

/-- A device that is assigned has a name. -/
def SlotChange.IsNamed : SlotChange → Prop
  | .assign _ disk => disk.deviceName ≠ ""
  | .setRecord _ _ | .clear => True

variable {layout : Layout} {t u : SlotTable} {i : Nat} {d : Disk} {c : SlotChange}
  {changes : List SlotChange}

namespace SlotTable

/-- A table after a change. A device that is refused leaves it as it is. -/
def change (t : SlotTable) : SlotChange → SlotTable
  | .assign index disk =>
    match t.assign index disk with
    | .ok u => u
    | .error _ => t
  | .setRecord index record => t.setRecord index record
  | .clear => t.clear

/-- A table after changes, one after another. -/
def after (t : SlotTable) (changes : List SlotChange) : SlotTable := changes.foldl change t

/-- The device in a slot. -/
def disk? (t : SlotTable) (index : Nat) : Option Disk := (t.get? index).bind (·.disk)

theorem after_append (t : SlotTable) (changes : List SlotChange) (c : SlotChange) :
    t.after (changes ++ [c]) = (t.after changes).change c :=
  List.foldl_append

theorem change_of_ok (h : t.assign i d = .ok u) : t.change (.assign i d) = u := by
  simp only [change, h]

theorem change_of_error {cause : PlacementError} (h : t.assign i d = .error cause) :
    t.change (.assign i d) = t := by
  simp only [change, h]

/-! ## Refusals -/

/-- A device is refused where there is no such slot, or another device in it. -/
theorem assign_eq_error_iff {cause : PlacementError} :
    t.assign i d = .error cause ↔
      t.size ≤ i ∧ cause = .slotOutOfRange i ∨
        ∃ present, t.disk? i = some present ∧ cause = .slotOccupied i present.deviceName := by
  have hsize : t.get? i = none ↔ t.size ≤ i := Array.getElem?_eq_none_iff
  rw [← hsize]
  unfold assign disk?
  cases t.get? i with
  | none => simp [eq_comm]
  | some slot =>
    cases hd : slot.disk with
    | none => simp [hd]
    | some present => simp [hd, eq_comm]

/-! ## Size and count -/

/-- The devices in slots are the same, so as many have chosen names. -/
theorem holding_congr (p : String → Bool)
    (h : ∀ i, (u.get? i).map (·.disk) = (t.get? i).map (·.disk)) : u.holding p = t.holding p := by
  have hdisks : u.slots.toList.map (·.disk) = t.slots.toList.map (·.disk) := by
    refine List.ext_getElem? fun i => ?_
    simpa [get?] using h i
  have hcount (v : SlotTable) : v.holding p =
      (v.slots.toList.map (·.disk)).countP (·.any (p ·.deviceName)) := by
    rw [List.countP_map]
    rfl
  rw [hcount, hcount, hdisks]

theorem holding_setRecord (p : String → Bool) (t : SlotTable) (index : Nat)
    (record : Smp.PhyRecord) : (t.setRecord index record).holding p = t.holding p := by
  refine holding_congr p fun i => ?_
  rw [get?_setRecord]
  split
  · rename_i hi
    rw [hi, Option.map_map]
    rfl
  · rfl

theorem holding_clear (p : String → Bool) (t : SlotTable) : t.clear.holding p = 0 := by
  simp [holding, clear, Slot.empty]

/-- The table has the slots of a layout, and its count is that of the devices in them. -/
structure Counted (layout : Layout) (t : SlotTable) : Prop where
  size : t.size = layout.slotCount
  occupied : t.occupied = t.holding (· ≠ "")

theorem counted_empty (layout : Layout) : (empty layout).Counted layout :=
  ⟨size_empty layout, (holding_empty _ layout).symm⟩

theorem counted_change (h : t.Counted layout) (hc : c.IsNamed) : (t.change c).Counted layout := by
  cases c with
  | assign index disk =>
    rcases ha : t.assign index disk with cause | u
    · rw [change_of_error ha]
      exact h
    · have hname : decide (disk.deviceName ≠ "") = true := decide_eq_true hc
      rw [change_of_ok ha]
      refine ⟨(size_assign ha).trans h.size, ?_⟩
      rw [occupied_assign ha, holding_assign _ ha, hname, if_pos rfl, h.occupied]
  | setRecord index record =>
    refine ⟨(size_setRecord t index record).trans h.size, ?_⟩
    show t.occupied = (t.setRecord index record).holding _
    rw [holding_setRecord, h.occupied]
  | clear => exact ⟨(size_clear t).trans h.size, (holding_clear _ t).symm⟩

theorem counted_after (h : t.Counted layout) (hc : ∀ c ∈ changes, c.IsNamed) :
    (t.after changes).Counted layout :=
  List.foldlRecOn changes change h fun _ hu c hmem => counted_change hu (hc c hmem)

/-! ## Devices -/

@[simp] theorem disk?_empty (layout : Layout) (i : Nat) : (empty layout).disk? i = none := by
  rw [disk?, get?_empty]
  split <;> rfl

@[simp] theorem disk?_clear (t : SlotTable) (i : Nat) : t.clear.disk? i = none := by
  simp [disk?, get?, clear, Slot.empty]

@[simp] theorem disk?_setRecord (t : SlotTable) (index : Nat) (record : Smp.PhyRecord) (i : Nat) :
    (t.setRecord index record).disk? i = t.disk? i := by
  rw [disk?, disk?, get?_setRecord]
  split
  · rename_i hi
    rw [hi, Option.bind_map]
    rfl
  · rfl

/-- A slot that takes a device had none, and has it. -/
theorem disk?_assign (h : t.assign i d = .ok u) (j : Nat) :
    t.disk? i = none ∧ u.disk? j = if j = i then some d else t.disk? j := by
  obtain ⟨slot, hs, hd, -⟩ := assign_eq_ok_iff.1 h
  refine ⟨by simp [disk?, hs, hd], ?_⟩
  rw [disk?, get?_assign h]
  split
  · simp [hs]
  · rfl

/-- A change lets a device enter a slot, keeps it there, or forgets it. -/
theorem disk?_change (t : SlotTable) (c : SlotChange) :
    (t.change c).disk? i = some d ↔
      t.disk? i = some d ∧ c ≠ .clear ∨ c = .assign i d ∧ ∃ u, t.assign i d = .ok u := by
  cases c with
  | assign j e =>
    rcases ha : t.assign j e with cause | u
    · rw [change_of_error ha]
      refine ⟨fun h => .inl ⟨h, nofun⟩, ?_⟩
      rintro (⟨h, -⟩ | ⟨h, u, hu⟩)
      · exact h
      · cases h
        cases ha.symm.trans hu
    · obtain ⟨hnone, hdisk⟩ := disk?_assign ha i
      rw [change_of_ok ha, hdisk]
      by_cases hi : i = j
      · subst hi
        rw [if_pos rfl, hnone]
        constructor
        · rintro ⟨⟩
          exact .inr ⟨rfl, u, ha⟩
        · rintro (⟨h, -⟩ | ⟨h, -⟩)
          · cases h
          · cases h
            rfl
      · simp [hi, Ne.symm hi]
  | setRecord j record => simp [change]
  | clear => simp [change]

end SlotTable

/-- A device entered a slot, and nothing was forgotten since. -/
def Entered (layout : Layout) (changes : List SlotChange) (i : Nat) (d : Disk) : Prop :=
  ∃ before rest, changes = before ++ .assign i d :: rest ∧
    (∃ u, ((SlotTable.empty layout).after before).assign i d = .ok u) ∧ .clear ∉ rest

theorem entered_append :
    Entered layout (changes ++ [c]) i d ↔
      Entered layout changes i d ∧ c ≠ .clear ∨
        c = .assign i d ∧ ∃ u, ((SlotTable.empty layout).after changes).assign i d = .ok u := by
  constructor
  · rintro ⟨before, rest, h, hok, hclear⟩
    rcases List.eq_nil_or_concat rest with rfl | ⟨rest, last, rfl⟩
    · obtain ⟨rfl, hc⟩ := List.append_inj' h rfl
      exact .inr ⟨List.singleton_inj.1 hc, hok⟩
    · rw [List.concat_eq_append] at h hclear
      rw [← List.cons_append, ← List.append_assoc] at h
      obtain ⟨rfl, hc⟩ := List.append_inj' h rfl
      obtain rfl := List.singleton_inj.1 hc
      rw [List.mem_append, not_or, List.mem_singleton] at hclear
      exact .inl ⟨⟨before, rest, rfl, hok, hclear.1⟩, Ne.symm hclear.2⟩
  · rintro (⟨⟨before, rest, rfl, hok, hclear⟩, hc⟩ | ⟨rfl, hok⟩)
    · exact ⟨before, rest ++ [c], by simp, hok, by simp [hclear, Ne.symm hc]⟩
    · exact ⟨changes, [], rfl, hok, List.not_mem_nil⟩

/-- A slot holds the device that entered it since all was last forgotten. -/
theorem disk?_after :
    ((SlotTable.empty layout).after changes).disk? i = some d ↔ Entered layout changes i d := by
  induction changes using List.reverseRecOn with
  | nil =>
    refine iff_of_false ?_ ?_
    · show ¬ (SlotTable.empty layout).disk? i = some d
      simp
    · rintro ⟨before, rest, h, -⟩
      simp at h
  | append_singleton changes c ih =>
    rw [SlotTable.after_append, SlotTable.disk?_change, entered_append, ih]

/-- Whatever devices with names are assigned to the slots of a layout, whatever records are kept and
however often all is forgotten, there are as many slots as the layout says, the count is that of the
slots with a device, and a slot holds exactly the device that entered it since all was last forgotten.
A device is refused exactly where there is no slot or another device in it, which changes nothing,
also for the survey that places it. A record changes the one slot it is kept of, and nothing else of
that. -/
theorem slots_keep_count_and_devices (layout : Layout) (changes : List SlotChange)
    (hn : ∀ c ∈ changes, c.IsNamed) :
    let t := (SlotTable.empty layout).after changes
    t.size = layout.expanders * layout.slotsPerExpander ∧
    t.occupied = t.holding (· ≠ "") ∧
    (∀ i d, t.disk? i = some d ↔ Entered layout changes i d) ∧
    (∀ i d cause, t.assign i d = .error cause ↔
      layout.expanders * layout.slotsPerExpander ≤ i ∧ cause = .slotOutOfRange i ∨
        ∃ present, t.disk? i = some present ∧ cause = .slotOccupied i present.deviceName) ∧
    (∀ i d cause, t.assign i d = .error cause → t.change (.assign i d) = t ∧
      ∀ s : Survey, s.topology.slots = t → (s.place d (.ok i)).topology = s.topology) ∧
    ∀ i record, (t.setRecord i record).size = t.size ∧
      (t.setRecord i record).occupied = t.occupied ∧
      ∀ j, (t.setRecord i record).get? j =
        if j = i then (t.get? i).map fun slot => { slot with lastDiscovery := some record }
        else t.get? j := by
  intro t
  obtain ⟨hsize, hcount⟩ : t.Counted layout :=
    SlotTable.counted_after (SlotTable.counted_empty layout) hn
  refine ⟨hsize, hcount, fun i d => disk?_after, fun i d cause => ?_, fun i d cause h => ?_,
    fun i record => ⟨t.size_setRecord i record, rfl, t.get?_setRecord i record⟩⟩
  · rw [SlotTable.assign_eq_error_iff, hsize]
    rfl
  · refine ⟨SlotTable.change_of_error h, fun s hs => ?_⟩
    have hrefused : (Except.ok i).bind (fun index => s.topology.slots.assign index d) =
        .error cause := by
      rw [hs]
      exact h
    rw [Survey.place, hrefused]
    rfl

/-- A device that is refused where another one is, after all was forgotten, and one for which there
is no slot. -/
def refusals : List SlotChange :=
  [.assign 0 ⟨"0:0:1:0", "", "sda"⟩, .clear, .assign 0 ⟨"0:0:2:0", "", "sdb"⟩,
    .assign 0 ⟨"0:0:1:0", "", "sda"⟩, .assign 9 ⟨"0:0:1:0", "", "sda"⟩]

theorem slots_keep_count_and_devices_refusals :
    let t := (SlotTable.empty ⟨1, 2⟩).after refusals
    (∀ c ∈ refusals, c.IsNamed) ∧ t.size = 2 ∧ t.occupied = t.holding (· ≠ "") ∧
      t.disk? 0 = some ⟨"0:0:2:0", "", "sdb"⟩ ∧
      t.assign 0 ⟨"0:0:1:0", "", "sda"⟩ = .error (.slotOccupied 0 "0:0:2:0") ∧
      t.change (.assign 0 ⟨"0:0:1:0", "", "sda"⟩) = t := by
  intro t
  have hn : ∀ c ∈ refusals, c.IsNamed := by simp [refusals, SlotChange.IsNamed]
  obtain ⟨hsize, hcount, hdisk, herror, hrefused, -⟩ :=
    slots_keep_count_and_devices ⟨1, 2⟩ refusals hn
  have hvacant : ((SlotTable.empty ⟨1, 2⟩).after (refusals.take 2)).get? 0 = some .empty := by
    decide +kernel
  have hentered : t.disk? 0 = some ⟨"0:0:2:0", "", "sdb"⟩ :=
    (hdisk 0 _).2 ⟨refusals.take 2, refusals.drop 3, rfl,
      ⟨_, SlotTable.assign_eq_ok_iff.2 ⟨.empty, hvacant, rfl, rfl⟩⟩, by simp [refusals]⟩
  have hoccupied : t.assign 0 ⟨"0:0:1:0", "", "sda"⟩ = .error (.slotOccupied 0 "0:0:2:0") :=
    (herror 0 _ _).2 (.inr ⟨_, hentered, rfl⟩)
  exact ⟨hn, hsize, hcount, hentered, hoccupied, (hrefused 0 _ _ hoccupied).1⟩

end BayMap.Topology
