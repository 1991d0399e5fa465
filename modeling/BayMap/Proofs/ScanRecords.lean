import BayMap.Proofs.ExpanderEntries

/-!
# What a scan recorded

A scan records devices and expanders, and passes over nodes write into the same slots and entries.
They add what nodes tell and leave what the scan recorded as it is (`KeepsScan`). The one field that
both write is the address of an expander, which a pass only fills in where there is none.

* `keepsScan_take`, `keepsScan_bindExpander`: the two writers, one report at a time.
* `keepsScan_of_passes`: any passes, one after another.
* `passes_keep_scan_records`: every pass, whatever the nodes answer.
-/

namespace BayMap.Topology

variable {σ ρ : Type}

/-- What a scan records of an expander is the same in another entry, where an address that was not
known may be. -/
structure Expander.KeepsScan (e f : Expander) : Prop where
  deviceName : f.deviceName = e.deviceName
  enclosureId : f.enclosureId = e.enclosureId
  wwid : e.wwid ≠ 0 → f.wwid = e.wwid

/-- What a scan records of a topology is the same in another. -/
structure KeepsScan (t u : Topology) : Prop where
  layout : u.layout = t.layout
  family : u.family = t.family
  /-- There are as many slots. -/
  slotCount : u.slots.size = t.slots.size
  /-- As many devices were placed. -/
  occupied : u.slots.occupied = t.slots.occupied
  /-- Each slot has the same device in it, with its name, identifier and block device, or none. -/
  disk : ∀ i, (u.slots.get? i).map (·.disk) = (t.slots.get? i).map (·.disk)
  /-- There are as many entries for expanders. -/
  expanderCount : u.expanders.size = t.expanders.size
  /-- As many expanders were registered. -/
  registered : u.expanders.registered = t.expanders.registered
  expander : ∀ i e, t.expanders.get? i = some e →
    ∃ f, u.expanders.get? i = some f ∧ e.KeepsScan f

namespace Expander.KeepsScan

theorem refl (e : Expander) : e.KeepsScan e := ⟨rfl, rfl, fun _ => rfl⟩

theorem trans {e f g : Expander} (h : e.KeepsScan f) (h' : f.KeepsScan g) : e.KeepsScan g := by
  refine ⟨h'.deviceName.trans h.deviceName, h'.enclosureId.trans h.enclosureId, fun h0 => ?_⟩
  have hf : f.wwid = e.wwid := h.wwid h0
  rw [h'.wwid (by rwa [hf]), hf]

/-- The fields that passes write are the address, where there is none, the binding and the link. -/
theorem of_withWwid (e : Expander) (address : UInt64) (binding : Option Binding)
    (hostLink : Option HostLink) :
    e.KeepsScan { e.withWwid address with binding, hostLink } := by
  unfold withWwid
  split
  · exact ⟨rfl, rfl, fun h0 => absurd ‹_› h0⟩
  · exact ⟨rfl, rfl, fun _ => rfl⟩

end Expander.KeepsScan

namespace KeepsScan

theorem refl (t : Topology) : t.KeepsScan t :=
  ⟨rfl, rfl, rfl, rfl, fun _ => rfl, rfl, rfl, fun _ e he => ⟨e, he, .refl e⟩⟩

theorem trans {t u w : Topology} (h : t.KeepsScan u) (h' : u.KeepsScan w) : t.KeepsScan w where
  layout := h'.layout.trans h.layout
  family := h'.family.trans h.family
  slotCount := h'.slotCount.trans h.slotCount
  occupied := h'.occupied.trans h.occupied
  disk i := (h'.disk i).trans (h.disk i)
  expanderCount := h'.expanderCount.trans h.expanderCount
  registered := h'.registered.trans h.registered
  expander i e he := by
    obtain ⟨f, hf, hk⟩ := h.expander i e he
    obtain ⟨g, hg, hk'⟩ := h'.expander i f hf
    exact ⟨g, hg, hk.trans hk'⟩

instance : IsPreorder Topology KeepsScan where
  refl := refl
  trans _ _ _ := trans

end KeepsScan

/-! ## Writers -/

theorem keepsScan_setRecord (t : Topology) (slot : Nat) (record : Smp.PhyRecord) :
    t.KeepsScan { t with slots := t.slots.setRecord slot record } := by
  refine ⟨rfl, rfl, SlotTable.size_setRecord .., rfl, fun i => ?_, rfl, rfl,
    fun _ e he => ⟨e, he, .refl e⟩⟩
  rw [SlotTable.get?_setRecord]
  split
  · subst i
    rw [Option.map_map]
    rfl
  · rfl

theorem keepsScan_change? {t : Topology} {u : ExpanderTable} {index : Nat}
    {f : Expander → Expander} (h : t.expanders.change? index f = some u)
    (hf : ∀ e : Expander, e.KeepsScan (f e)) : t.KeepsScan { t with expanders := u } := by
  refine ⟨rfl, rfl, rfl, rfl, fun _ => rfl, ExpanderTable.size_change? h,
    ExpanderTable.registered_change? h, fun i e he => ?_⟩
  have hu : u.get? i = if i = index then (t.expanders.get? index).map f else t.expanders.get? i :=
    ExpanderTable.get?_change? h i
  by_cases hi : i = index
  · subst hi
    exact ⟨f e, by rw [hu, if_pos rfl, he, Option.map_some], hf e⟩
  · exact ⟨e, by rw [hu, if_neg hi, he], .refl e⟩

theorem keepsScan_take (t : Topology) (x : Report) : t.KeepsScan (t.take x) := by
  obtain ⟨slot, -, h⟩ | ⟨name, e, u, -, -, -, hu, h⟩ | ⟨-, -, h⟩ := take_cases t x
  · rw [h]
    exact keepsScan_setRecord t slot x.record
  · rw [h]
    exact keepsScan_change? hu fun e => .of_withWwid e x.record.expanderAddress _ _
  · rw [h]
    exact .refl t

theorem keepsScan_bindExpander (path : String) (ordinal : UInt8) (s : Survey) (e : ExpanderEntry) :
    s.topology.KeepsScan (s.bindExpander path ordinal e).topology := by
  rw [bindExpander_eq]
  rcases hu : s.topology.expanders.change? (expanderIndex e.sasAddress)
      (Expander.boundTo path ordinal e.sasAddress) with _ | u
  · exact .refl _
  · apply keepsScan_change? hu
    intro entry
    exact .of_withWwid entry e.sasAddress _ (entry.withWwid e.sasAddress).hostLink

/-! ## Passes -/

theorem keepsScan_visitAll (visits : List Visit) (s : Survey) (r : Responder (nodes σ) ρ) (st : ρ) :
    s.topology.KeepsScan ((visitAll visits s).run r st).1.topology :=
  keeps_visitAll fun t x _ => keepsScan_take t x

theorem keepsScan_of_passes {t u : Topology} (h : Passes t u) : t.KeepsScan u :=
  keeps_of_passes keepsScan_take keepsScan_bindExpander h

/-- Slot discovery, the inventory of controllers and slot discovery through controllers leave what a
scan recorded as it is, in every topology and whatever the nodes answer. -/
theorem passes_keep_scan_records (t : Files.Tree) (config : Config) (before : Topology)
    (r : Responder (nodes σ) ρ) (st : ρ) :
    before.KeepsScan ((visitExpanders t config (.start before)).run r st).1.topology ∧
    before.KeepsScan ((takeInventory t config (.start before)).run r st).1.2.topology ∧
    before.KeepsScan
      ((visitThroughControllers t config (.start before)).run r st).1.2.topology := by
  have hbind : ∀ path ordinal, Transport.ordinalOf path = some ordinal →
      ∀ (s : Survey) (e : ExpanderEntry),
        s.topology.KeepsScan (s.bindExpander path ordinal e).topology :=
    fun path ordinal _ => keepsScan_bindExpander path ordinal
  refine ⟨?_, ?_, ?_⟩
  · rw [visitExpanders_eq]
    exact keepsScan_visitAll _ ((Survey.start before).note (listNodes t config .bsg).2) r st
  · exact keeps_takeInventory hbind t config (.start before) r st
  · apply keeps_visitThroughControllers hbind t config (.start before) r st
    exact fun found _ st' => keepsScan_visitAll _ found r st'

end BayMap.Topology
