import BayMap.Proofs.Accounts
import Mathlib.Data.List.Dedup

/-!
# Which expanders a scan keeps

An expander is registered at the index that its address holds, whatever is registered there before:
the entry is the one of the last expander with the index, and the count goes on. So an expander is
lost, and no problem tells of it, exactly if another one with its index comes after it.

* `get?_expanders_step`, `get?_expanders_ofSightings`: an entry after a step, and after a scan.
* `named_ofSightings`: the entries with a device are as many as the indices that are registered.
* `keepsOrTells_iff`: whether an expander is in its entry or in a problem.
* `scan_keeps_expanders_iff`: no expander is lost exactly if no two have one index.
-/

namespace BayMap.Topology

/-! ## Entries -/

/-- An expander once a sighting is registered in its entry. -/
def Sighting.registerIn (x : Sighting) (e : Expander) : Expander :=
  match x.role with
  | .expander (.ok (some wwid)) enclosureId => { e with deviceName := x.name, wwid, enclosureId }
  | _ => e

/-- The last sighting that is registered at an index of a table of so many entries. -/
def lastAt? (entries : Nat) (seen : List Sighting) (index : Nat) : Option Sighting :=
  seen.reverse.find? (·.indexIn? entries = some index)

/-- The entries that have a device. -/
def ExpanderTable.named (t : ExpanderTable) : Nat :=
  t.entries.toList.countP (·.deviceName ≠ "")

theorem indexIn?_expander (entries : Nat) (wwid : UInt64) (id : String) (disk : Disk) :
    (Sighting.mk (.expander (.ok (some wwid)) id) disk).indexIn? entries =
      if expanderIndex wwid < entries then some (expanderIndex wwid) else none := by
  by_cases h : expanderIndex wwid < entries <;>
    simp [Sighting.indexIn?, Sighting.address?, Option.filter_some, h]

theorem eq_of_address? {x : Sighting} {wwid : UInt64} (h : x.address? = some wwid) :
    ∃ id, x = ⟨.expander (.ok (some wwid)) id, x.disk⟩ := by
  obtain ⟨role, disk⟩ := x
  cases role with
  | plain => cases h
  | marked marker => cases h
  | expander address id =>
    cases address with
    | error cause => cases h
    | ok address =>
      obtain rfl : address = some wwid := h
      exact ⟨id, rfl⟩

theorem address?_of_indexIn? {x : Sighting} {entries i : Nat} (h : x.indexIn? entries = some i) :
    ∃ wwid, x.address? = some wwid ∧ expanderIndex wwid = i ∧ i < entries := by
  obtain ⟨hm, hlt⟩ := Option.filter_eq_some_iff.1 h
  obtain ⟨wwid, ha, hi⟩ := Option.map_eq_some_iff.1 hm
  exact ⟨wwid, ha, hi, of_decide_eq_true hlt⟩

/-- A step changes the entry that its sighting is registered at, and no other. -/
theorem get?_expanders_step (s : Scan) (x : Sighting) (i : Nat) :
    (s.step x).survey.topology.expanders.get? i =
      if x.indexIn? s.survey.topology.expanders.size = some i then
        (s.survey.topology.expanders.get? i).map x.registerIn
      else s.survey.topology.expanders.get? i := by
  obtain ⟨role, disk⟩ := x
  cases role with
  | plain => rfl
  | marked marker => exact congrArg (·.get? i) (expanders_place _ _ _)
  | expander wwid id =>
    obtain cause | _ | wwid := wwid
    · rfl
    · rfl
    · rw [indexIn?_expander, ← expanders_drain s disk.deviceName (expanderIndex wwid)]
      show (Survey.register _ disk.deviceName wwid id).topology.expanders.get? i = _
      generalize (s.drain disk.deviceName (expanderIndex wwid)).survey = survey
      obtain ⟨hlt, u, hu, hr⟩ | ⟨hle, hr⟩ := register_cases survey disk.deviceName wwid id
      · rw [hr, if_pos hlt]
        show u.get? i = _
        rw [ExpanderTable.get?_change? hu]
        by_cases hi : i = expanderIndex wwid
        · rw [if_pos hi, if_pos (congrArg some hi.symm), hi]
          rfl
        · rw [if_neg hi, if_neg (mt Option.some.inj (Ne.symm hi))]
      · rw [hr, if_neg (Nat.not_lt.2 hle), if_neg nofun]
        rfl

theorem lastAt?_append (entries : Nat) (seen : List Sighting) (x : Sighting) (i : Nat) :
    lastAt? entries (seen ++ [x]) i =
      if x.indexIn? entries = some i then some x else lastAt? entries seen i := by
  rw [lastAt?, List.reverse_concat, List.find?_cons]
  by_cases h : x.indexIn? entries = some i
  · rw [if_pos h, decide_eq_true h]
  · rw [if_neg h, decide_eq_false h]
    rfl

theorem indexIn?_of_lastAt? {entries : Nat} {seen : List Sighting} {i : Nat} {x : Sighting}
    (h : lastAt? entries seen i = some x) : x ∈ seen ∧ x.indexIn? entries = some i :=
  ⟨List.mem_reverse.1 (List.mem_of_find?_eq_some h), by simpa using List.find?_some h⟩

theorem lastAt?_eq_none_iff {entries : Nat} {seen : List Sighting} {i : Nat} :
    lastAt? entries seen i = none ↔ i ∉ seen.filterMap (·.indexIn? entries) := by
  simp [lastAt?]

theorem registerIn_frame (x : Sighting) (e : Expander) :
    (x.registerIn e).binding = e.binding ∧ (x.registerIn e).hostLink = e.hostLink := by
  unfold Sighting.registerIn
  split <;> exact ⟨rfl, rfl⟩

/-- The entry of the last of two sightings that are registered in it is of the second alone. -/
theorem registerIn_registerIn {entries i : Nat} {x y : Sighting} (hy : y.indexIn? entries = some i)
    (e : Expander) : y.registerIn (x.registerIn e) = y.registerIn e := by
  obtain ⟨wwid, ha, -⟩ := address?_of_indexIn? hy
  obtain ⟨id, hid⟩ := eq_of_address? ha
  obtain ⟨hb, hl⟩ := registerIn_frame x e
  rw [hid]
  show (⟨y.name, wwid, id, (x.registerIn e).binding, (x.registerIn e).hostLink⟩ : Expander) =
    ⟨y.name, wwid, id, e.binding, e.hostLink⟩
  rw [hb, hl]

/-- An entry after a scan is that of the last sighting with its index. -/
theorem get?_expanders_ofSightings (layout : Layout) (seen : List Sighting) {i : Nat}
    (hi : i < layout.expanders) :
    (Scan.ofSightings layout seen).survey.topology.expanders.get? i =
      some ((lastAt? layout.expanders seen i).elim .empty fun x => x.registerIn .empty) := by
  induction seen using List.reverseRecOn with
  | nil => exact (ExpanderTable.get?_empty layout i).trans (if_pos hi)
  | append_singleton seen x ih =>
    have hs : (Scan.ofSightings layout seen).survey.topology.expanders.size = layout.expanders :=
      (size_foldl_step _ _).trans (size_start layout)
    have hx : Scan.ofSightings layout (seen ++ [x]) = (Scan.ofSightings layout seen).step x :=
      List.foldl_append
    rw [hx, get?_expanders_step, hs, ih, lastAt?_append]
    by_cases he : x.indexIn? layout.expanders = some i
    · rw [if_pos he, if_pos he, Option.map_some]
      cases hl : lastAt? layout.expanders seen i with
      | none => rfl
      | some y =>
        show some (x.registerIn (y.registerIn .empty)) = some (x.registerIn .empty)
        rw [registerIn_registerIn he]
    · rw [if_neg he, if_neg he]

theorem deviceName_registerIn {x : Sighting} {entries i : Nat} (hx : x.indexIn? entries = some i)
    (e : Expander) : (x.registerIn e).deviceName = x.name := by
  obtain ⟨wwid, ha, -⟩ := address?_of_indexIn? hx
  obtain ⟨id, hx⟩ := eq_of_address? ha
  rw [hx]
  rfl

/-! ## The count -/

theorem registered_ofSightings (layout : Layout) (seen : List Sighting) :
    (Scan.ofSightings layout seen).survey.topology.expanders.registered =
      (seen.filterMap (·.indexIn? layout.expanders)).length := by
  rw [List.length_filterMap_eq_countP]
  exact (account_total layout seen).1

/-- The entries with a device are those of the indices at which a sighting is registered. -/
theorem named_ofSightings (layout : Layout) {seen : List Sighting} (hn : ∀ x ∈ seen, x.name ≠ "") :
    (Scan.ofSightings layout seen).survey.topology.expanders.named =
      (seen.filterMap (·.indexIn? layout.expanders)).dedup.length := by
  let entry (i : Nat) : Expander :=
    (lastAt? layout.expanders seen i).elim .empty fun x => x.registerIn .empty
  have hs : (Scan.ofSightings layout seen).survey.topology.expanders.size = layout.expanders :=
    (size_foldl_step _ _).trans (size_start layout)
  have hl : (Scan.ofSightings layout seen).survey.topology.expanders.entries.toList =
      (List.range layout.expanders).map entry := by
    refine List.ext_getElem? fun i => ?_
    rw [Array.getElem?_toList]
    show ExpanderTable.get? _ i = _
    by_cases hi : i < layout.expanders
    · rw [get?_expanders_ofSightings layout seen hi, List.getElem?_map, List.getElem?_range hi]
      rfl
    · rw [ExpanderTable.get?_eq_none_iff.2 (by omega)]
      simp [hi]
  have he : ∀ i, decide ((entry i).deviceName ≠ "") = true ↔
      decide (i ∈ seen.filterMap (·.indexIn? layout.expanders)) = true := by
    intro i
    rw [decide_eq_true_iff, decide_eq_true_iff]
    show ((lastAt? layout.expanders seen i).elim _ _ : Expander).deviceName ≠ "" ↔ _
    cases hx : lastAt? layout.expanders seen i with
    | none => simpa [Expander.empty] using lastAt?_eq_none_iff.1 hx
    | some x =>
      obtain ⟨hm, hx⟩ := indexIn?_of_lastAt? hx
      show (x.registerIn .empty).deviceName ≠ "" ↔ _
      rw [deviceName_registerIn hx]
      exact iff_of_true (hn x hm) (List.mem_filterMap.2 ⟨x, hm, hx⟩)
  have hp : ((List.range layout.expanders).filter fun i =>
      i ∈ seen.filterMap (·.indexIn? layout.expanders)).Perm
        (seen.filterMap (·.indexIn? layout.expanders)).dedup := by
    refine (List.perm_ext_iff_of_nodup (List.nodup_range.filter _) (List.nodup_dedup _)).2
      fun i => ?_
    rw [List.mem_filter, List.mem_range, List.mem_dedup, decide_eq_true_iff]
    refine and_iff_right_of_imp fun hi => ?_
    obtain ⟨x, -, hx⟩ := List.mem_filterMap.1 hi
    obtain ⟨-, -, -, hlt⟩ := address?_of_indexIn? hx
    exact hlt
  rw [ExpanderTable.named, hl, List.countP_map, ← hp.length_eq, ← List.countP_eq_length_filter]
  exact List.countP_congr fun i _ => he i

/-- The count of the registered expanders is that of the entries with a device exactly if no two
expanders have one index. -/
theorem registered_eq_named_iff (layout : Layout) {seen : List Sighting}
    (hn : ∀ x ∈ seen, x.name ≠ "") :
    let expanders := (Scan.ofSightings layout seen).survey.topology.expanders
    expanders.registered = expanders.named ↔
      (seen.filterMap (·.indexIn? layout.expanders)).Nodup := by
  intro expanders
  rw [registered_ofSightings, named_ofSightings layout hn, ← List.dedup_eq_self]
  exact eq_comm.trans (List.dedup_sublist _).length_eq

/-! ## Each expander -/

/-- An expander whose address can be read is the device of its entry, or of a problem. -/
def Survey.KeepsOrTells (s : Survey) (x : Sighting) : Prop :=
  ∀ wwid, x.address? = some wwid →
    (s.topology.expanders.getD (expanderIndex wwid)).deviceName = x.name ∨
      ∃ problem ∈ s.diagnostics, problem.device? = some x.name

/-- An expander without an entry is a problem. -/
theorem tells_step {s : Scan} {x : Sighting} {wwid : UInt64} (ha : x.address? = some wwid)
    (hw : s.survey.topology.expanders.size ≤ expanderIndex wwid) :
    ∃ problem ∈ (s.step x).survey.diagnostics, problem.device? = some x.name := by
  obtain ⟨id, hx⟩ := eq_of_address? ha
  rw [← expanders_drain s x.name (expanderIndex wwid)] at hw
  rw [hx]
  refine ⟨.unplaced x.name (.expanderOutOfRange (expanderIndex wwid)), ?_, rfl⟩
  show _ ∈ (Survey.register _ x.name wwid id).diagnostics
  obtain ⟨hlt, -⟩ | ⟨-, hr⟩ := register_cases
    (s.drain x.name (expanderIndex wwid)).survey x.name wwid id
  · exact absurd hlt (Nat.not_lt.2 hw)
  · show _ ∈ ((s.drain x.name (expanderIndex wwid)).survey.register x.name wwid id).diagnostics
    rw [hr]
    exact List.mem_append_right _ (List.mem_singleton_self _)

theorem tells_ofSightings (layout : Layout) {seen : List Sighting} {x : Sighting} (hx : x ∈ seen)
    {wwid : UInt64} (ha : x.address? = some wwid) (hw : layout.expanders ≤ expanderIndex wwid) :
    ∃ problem ∈ (Scan.ofSightings layout seen).survey.diagnostics,
      problem.device? = some x.name := by
  obtain ⟨before, after, rfl⟩ := List.append_of_mem hx
  rw [← size_start layout, ← size_foldl_step before ⟨.start (.empty layout), []⟩] at hw
  obtain ⟨problem, hp, hd⟩ := tells_step ha hw
  refine ⟨problem, ?_, hd⟩
  rw [Scan.ofSightings, List.foldl_append, List.foldl_cons]
  exact (tellsMore_foldl_step after _).mem hp

theorem index_unique {seen : List Sighting} (hn : (seen.map (·.name)).Nodup) {i : Nat}
    {x : Sighting} (hx : seen[i]? = some x) (j : Nat) (y : Sighting) (hy : seen[j]? = some y)
    (h : y.name = x.name) : j = i := by
  have hj : j < (seen.map (·.name)).length := by
    rw [List.length_map]
    exact (List.getElem?_eq_some_iff.1 hy).1
  refine (List.getElem?_inj hj hn).1 ?_
  rw [List.getElem?_map, List.getElem?_map, hy, hx, Option.map_some, Option.map_some, h]

/-- Of devices with names of their own, a scan keeps or tells of those expanders that are the last
ones with their index. -/
theorem keepsOrTells_iff (layout : Layout) {seen : List Sighting}
    (hn : (seen.map (·.name)).Nodup) {x : Sighting} (hx : x ∈ seen) :
    (Scan.ofSightings layout seen).survey.KeepsOrTells x ↔
      ∀ i, x.indexIn? layout.expanders = some i → lastAt? layout.expanders seen i = some x := by
  constructor
  · intro h i hi
    obtain ⟨wwid, ha, rfl, hlt⟩ := address?_of_indexIn? hi
    obtain hname | ⟨problem, hp, hd⟩ := h wwid ha
    · rw [ExpanderTable.getD, get?_expanders_ofSightings layout seen hlt] at hname
      cases hz : lastAt? layout.expanders seen (expanderIndex wwid) with
      | none =>
        exact absurd (List.mem_filterMap.2 ⟨x, hx, hi⟩) (lastAt?_eq_none_iff.1 hz)
      | some z =>
        obtain ⟨hm, he⟩ := indexIn?_of_lastAt? hz
        rw [hz] at hname
        have hzx : z.name = x.name := (deviceName_registerIn he _).symm.trans hname
        rw [List.inj_on_of_nodup_map hn hm hx hzx]
    · -- The account of the expander has no room for a problem beside its entry.
      obtain ⟨k, hk⟩ := List.mem_iff_getElem?.1 hx
      have haccount := account_of_device layout hk (index_unique hn hk)
      have hreg : x.isRegistered layout.expanders = true := by
        rw [Sighting.isRegistered, hi, Option.isSome_some]
      have hpos : 0 < reported (· = x.name) (Scan.ofSightings layout seen).survey.diagnostics :=
        List.countP_pos_iff.2 ⟨problem, hp, by rw [hd]; simp⟩
      rw [if_pos hreg] at haccount
      omega
  · intro h wwid ha
    by_cases hlt : expanderIndex wwid < layout.expanders
    · have he : x.indexIn? layout.expanders = some (expanderIndex wwid) := by
        rw [Sighting.indexIn?, ha, Option.map_some, Option.filter_some, if_pos (decide_eq_true hlt)]
      left
      rw [ExpanderTable.getD, get?_expanders_ofSightings layout seen hlt, h _ he]
      exact deviceName_registerIn he _
    · exact .inr (tells_ofSightings layout hx ha (Nat.le_of_not_lt hlt))

/-- Of devices with names of their own, all expanders are the last ones with their indices exactly
if no two have one index. -/
theorem all_last_iff {entries : Nat} {seen : List Sighting} (hn : (seen.map (·.name)).Nodup) :
    (∀ x ∈ seen, ∀ i, x.indexIn? entries = some i → lastAt? entries seen i = some x) ↔
      (seen.filterMap (·.indexIn? entries)).Nodup := by
  rw [List.Nodup, List.pairwise_filterMap, List.pairwise_iff_getElem]
  constructor
  · rintro h j k hj hk hlt i hi i' hi' rfl
    have hx := h _ (List.getElem_mem hj) i hi
    have hy := h _ (List.getElem_mem hk) i hi'
    have hname : seen[k].name = seen[j].name := by
      rw [Option.some.inj (hx.symm.trans hy)]
    have := index_unique hn (List.getElem?_eq_getElem hj) k _ (List.getElem?_eq_getElem hk) hname
    omega
  · intro h x hx i hi
    cases hz : lastAt? entries seen i with
    | none => exact absurd (List.mem_filterMap.2 ⟨x, hx, hi⟩) (lastAt?_eq_none_iff.1 hz)
    | some z =>
      obtain ⟨hm, he⟩ := indexIn?_of_lastAt? hz
      obtain ⟨j, hj, rfl⟩ := List.mem_iff_getElem.1 hx
      obtain ⟨k, hk, rfl⟩ := List.mem_iff_getElem.1 hm
      obtain hlt | rfl | hlt := Nat.lt_trichotomy j k
      · exact absurd rfl (h j k hj hk hlt i hi i he)
      · rfl
      · exact absurd rfl (h k j hk hj hlt i he i hi)

/-! ## A scan -/

/-- The devices that a scan meets, none where they cannot be listed. -/
def sightings (t : Files.Tree) (config : Config) : List Sighting :=
  ((Sysfs.devices t config.devicesRoot).toOption.getD []).map
    (Sighting.ofEntry t config.devicesRoot)

theorem isDeviceName_of_mem {t : Files.Tree} {root : String} {listed : List Files.Entry}
    (h : Sysfs.devices t root = .ok listed) {e : Files.Entry} (he : e ∈ listed) :
    Sysfs.isDeviceName e.name = true := by
  unfold Sysfs.devices Sysfs.entries at h
  cases hl : t.list root with
  | error cause =>
    rw [hl] at h
    cases h
  | ok all =>
    rw [hl] at h
    obtain rfl : Sysfs.enumerate (all.filter fun e => Sysfs.isDeviceName e.name) = listed :=
      Except.ok.inj h
    obtain he | he := List.mem_append.1 he
    · exact (List.mem_filter.1 (List.mem_filter.1 he).1).2
    · obtain ⟨named, hm, rfl⟩ := List.mem_map.1 he
      obtain ⟨chosen, hc, ha⟩ := List.mem_filterMap.1 (List.mem_mergeSort.1 hm)
      obtain ⟨a, -, rfl⟩ := Option.map_eq_some_iff.1 ha
      exact (List.mem_filter.1 hc).2

theorem name_ne_of_mem_sightings {t : Files.Tree} {config : Config} {x : Sighting}
    (hx : x ∈ sightings t config) : x.name ≠ "" := by
  obtain ⟨e, he, rfl⟩ := List.mem_map.1 hx
  cases hd : Sysfs.devices t config.devicesRoot with
  | error cause =>
    rw [hd] at he
    cases he
  | ok listed =>
    rw [hd] at he
    have hn := isDeviceName_of_mem hd he
    intro (h : e.name = "")
    rw [h] at hn
    revert hn
    decide +kernel

theorem topology_scan (t : Files.Tree) (config : Config) :
    (scan t config).topology =
      (Scan.ofSightings config.layout (sightings t config)).survey.topology := by
  unfold sightings
  cases hd : Sysfs.devices t config.devicesRoot with
  | error cause =>
    rw [scan_of_error hd]
    rfl
  | ok listed =>
    rw [scan_of_devices hd]
    rfl

theorem scan_of_mem_sightings {t : Files.Tree} {config : Config} {x : Sighting}
    (hx : x ∈ sightings t config) :
    scan t config = (Scan.ofSightings config.layout (sightings t config)).survey := by
  unfold sightings at hx ⊢
  cases hd : Sysfs.devices t config.devicesRoot with
  | error cause =>
    rw [hd] at hx
    cases hx
  | ok listed => exact scan_of_devices hd

/-- The count of registered expanders is how often an index is registered, and the entries with a
device are the indices that are. The two agree, and with device names that are distinct each
expander is the device of its entry or of a problem, exactly if no two expanders that are registered
have one index. -/
theorem scan_keeps_expanders_iff (t : Files.Tree) (config : Config) :
    let seen := sightings t config
    let indices := seen.filterMap (·.indexIn? config.layout.expanders)
    let after := scan t config
    (∀ i < config.layout.expanders, after.topology.expanders.get? i =
      some ((lastAt? config.layout.expanders seen i).elim .empty fun x => x.registerIn .empty)) ∧
    after.topology.expanders.registered = indices.length ∧
    after.topology.expanders.named = indices.dedup.length ∧
    (after.topology.expanders.registered = after.topology.expanders.named ↔ indices.Nodup) ∧
    ((seen.map (·.name)).Nodup → ((∀ x ∈ seen, after.KeepsOrTells x) ↔ indices.Nodup)) := by
  intro seen indices after
  have ha : after.topology = (Scan.ofSightings config.layout seen).survey.topology :=
    topology_scan t config
  have hne : ∀ x ∈ seen, x.name ≠ "" := fun x hx => name_ne_of_mem_sightings hx
  rw [ha]
  refine ⟨fun i hi => get?_expanders_ofSightings config.layout seen hi,
    registered_ofSightings config.layout seen, named_ofSightings config.layout hne,
    registered_eq_named_iff config.layout hne, fun hn => ?_⟩
  rw [← all_last_iff hn]
  refine forall₂_congr fun x hx => ?_
  rw [← keepsOrTells_iff config.layout hn hx]
  show Survey.KeepsOrTells (scan t config) x ↔ _
  rw [scan_of_mem_sightings hx]

/-! ## Two expanders with one index -/

/-- The devices of two expanders whose addresses hold one index. -/
def twoExpanders : List (String × Files.Node) :=
  [("0:0:0:0", .directory
      [("enclosure", .directory []), ("sas_address", .file [0x30, 0x78, 0x33, 0x66])]),
    ("0:0:1:0", .directory
      [("enclosure", .directory []), ("sas_address", .file [0x30, 0x78, 0x31, 0x33, 0x66])])]

/-- A tree with these devices. -/
def expandersTree : Files.Tree :=
  ⟨[("bus", .directory [("scsi", .directory [("devices", .directory twoExpanders)])])]⟩

theorem devices_expandersTree : Sysfs.devices expandersTree "bus/scsi/devices" =
    .ok [⟨"0:0:0:0", .directory⟩, ⟨"0:0:1:0", .directory⟩] := by
  have hr : expandersTree.top.reach (Files.Path.parts "bus/scsi/devices") =
      some (.ok (.directory twoExpanders)) := rfl
  have hf : (twoExpanders.map fun e => (⟨e.1, e.2.kind⟩ : Files.Entry)).filter
      (fun e => Sysfs.isDeviceName e.name) =
        [⟨"0:0:0:0", .directory⟩, ⟨"0:0:1:0", .directory⟩] := by decide +kernel
  have hn : ([⟨"0:0:0:0", .directory⟩, ⟨"0:0:1:0", .directory⟩] : List Files.Entry).filterMap
      (fun e => (Sysfs.address e).toOption.map fun a => (a, e)) =
        [(⟨0, 0, 0, 0⟩, ⟨"0:0:0:0", .directory⟩), (⟨0, 0, 1, 0⟩, ⟨"0:0:1:0", .directory⟩)] := by
    decide +kernel
  rw [Sysfs.devices, Sysfs.entries, Files.Tree.list_of_reach (by decide +kernel) hr]
  show Except.ok (Sysfs.enumerate ((twoExpanders.map _).filter _)) = _
  rw [hf, Sysfs.enumerate, hn, List.mergeSort_of_pairwise (by decide +kernel)]
  rfl

theorem sightings_expandersTree : sightings expandersTree devicesConfig =
    [⟨.expander (.ok (some 0x3f)) "", "0:0:0:0", "", ""⟩,
      ⟨.expander (.ok (some 0x13f)) "", "0:0:1:0", "", ""⟩] := by
  have hfirst : Sighting.ofEntry expandersTree "bus/scsi/devices" ⟨"0:0:0:0", .directory⟩ =
      ⟨.expander (.ok (some 0x3f)) "", "0:0:0:0", "", ""⟩ :=
    sighting_of_expander (by decide +kernel) rfl (by decide +kernel) rfl (by decide +kernel)
      (by decide +kernel) rfl (by decide +kernel) rfl (by decide +kernel) rfl
  have hsecond : Sighting.ofEntry expandersTree "bus/scsi/devices" ⟨"0:0:1:0", .directory⟩ =
      ⟨.expander (.ok (some 0x13f)) "", "0:0:1:0", "", ""⟩ :=
    sighting_of_expander (by decide +kernel) rfl (by decide +kernel) rfl (by decide +kernel)
      (by decide +kernel) rfl (by decide +kernel) rfl (by decide +kernel) rfl
  rw [sightings, devicesRoot_devicesConfig, devices_expandersTree]
  show [Sighting.ofEntry _ _ _, Sighting.ofEntry _ _ _] = _
  rw [hfirst, hsecond]

/-- Of two expanders with one index the first one is lost, though both are counted. -/
theorem expander_replaced_expandersTree :
    let after := scan expandersTree devicesConfig
    after.topology.expanders.registered = 2 ∧ after.topology.expanders.named = 1 ∧
      after.diagnostics = [] ∧
      ∃ x ∈ sightings expandersTree devicesConfig, ¬ after.KeepsOrTells x := by
  intro after
  have hx : ⟨.expander (.ok (some 0x3f)) "", "0:0:0:0", "", ""⟩ ∈
      sightings expandersTree devicesConfig := by
    rw [sightings_expandersTree]
    exact List.mem_cons_self
  have ha : after = (Scan.ofSightings devicesConfig.layout
      [⟨.expander (.ok (some 0x3f)) "", "0:0:0:0", "", ""⟩,
        ⟨.expander (.ok (some 0x13f)) "", "0:0:1:0", "", ""⟩]).survey := by
    rw [← sightings_expandersTree]
    exact scan_of_mem_sightings hx
  have hd : after.diagnostics = [] := by
    rw [ha]
    rfl
  have hname : (after.topology.expanders.getD 0).deviceName = "0:0:1:0" := by
    rw [ha]
    rfl
  have hnamed : after.topology.expanders.named = 1 := by
    rw [ha, named_ofSightings _ (by simp [Sighting.name])]
    show ([0, 0] : List Nat).dedup.length = 1
    decide
  have hregistered : after.topology.expanders.registered = 2 := by
    rw [ha, registered_ofSightings]
    rfl
  refine ⟨hregistered, hnamed, hd, _, hx, fun hk => ?_⟩
  obtain h | ⟨problem, hp, -⟩ := hk 0x3f rfl
  · exact absurd (hname.symm.trans h) (by decide)
  · rw [hd] at hp
    cases hp

end BayMap.Topology
