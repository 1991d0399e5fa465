import BayMap.Proofs.Inquiries
import BayMap.Proofs.Registrations
import BayMap.Proofs.ScanRecords

/-!
# What comes of each slot

When phys are switched, each slot that is given has its turn, and one of four things comes of it: no
phy is known, no node is known, the node cannot be opened, or one frame is sent over it. Which
expander a slot belongs to is read off the layout, so the tables have to be of its shape (`Fits`):
they are from the start, and no pass changes their sizes.

* `fits_of_begun`, `fits_of_passes`: the shape of the tables that passes reach.
* `phyRoute_cases`: the way to the phy of a slot, or what is missing of it.
* `slotOutcome_switchPhy`: one turn.
* `each_slot_has_one_outcome`: all turns, in the order of the slots.
-/

namespace BayMap.Topology

open Dialogue (Turn)

variable {σ ρ : Type}

/-! ## The shape of the tables -/

/-- The tables are as large as the layout says. -/
structure Fits (t : Topology) : Prop where
  slots : t.slots.size = t.layout.slotCount
  expanders : t.expanders.size = t.layout.expanders

theorem fits_empty (layout : Layout) : (Topology.empty layout).Fits :=
  ⟨SlotTable.size_empty layout, size_start layout⟩

theorem fits_place {s : Survey} (h : s.topology.Fits) (disk : Disk)
    (slot : Except PlacementError Nat) : (s.place disk slot).topology.Fits := by
  rcases slot with cause | index
  · exact h
  · unfold Survey.place
    split
    · rename_i slots hslots
      have hassign : s.topology.slots.assign index disk = .ok slots := hslots
      exact ⟨(SlotTable.size_assign hassign).trans h.slots, h.expanders⟩
    · exact h

theorem fits_register {s : Survey} (h : s.topology.Fits) (deviceName : String) (wwid : UInt64)
    (enclosureId : String) : (s.register deviceName wwid enclosureId).topology.Fits := by
  obtain ⟨hlayout, -, hslots⟩ := register_frame s deviceName wwid enclosureId
  refine ⟨?_, ?_⟩
  · rw [hlayout, hslots]
    exact h.slots
  · rw [hlayout, size_register]
    exact h.expanders

theorem fits_drain {s : Scan} (h : s.survey.topology.Fits) (expander : String) (index : Nat) :
    (s.drain expander index).survey.topology.Fits := by
  unfold Scan.drain
  split
  · exact h
  · exact List.foldlRecOn (motive := fun u : Survey => u.topology.Fits) _ _ h
      fun u hu disk _ => fits_place hu disk _

theorem fits_step {s : Scan} (h : s.survey.topology.Fits) (x : Sighting) :
    (s.step x).survey.topology.Fits := by
  unfold Scan.step
  split
  · exact h
  · exact fits_place (s := s.byMarker.survey) ⟨h.slots, h.expanders⟩ _ _
  · exact fits_register (fits_drain h _ _) _ _ _
  · exact h
  · exact h

theorem fits_of_begun {t : Topology} (h : Begun t) : t.Fits := by
  cases h with
  | empty layout => exact fits_empty layout
  | scanned tree config =>
    rw [topology_scan]
    exact List.foldlRecOn (motive := fun s : Scan => s.survey.topology.Fits) _ _
      (fits_empty config.layout) fun s hs x _ => fits_step hs x

theorem fits_of_passes {t u : Topology} (h : Passes t u) (ht : t.Fits) : u.Fits := by
  have hkept : t.KeepsScan u := keepsScan_of_passes h
  refine ⟨?_, ?_⟩
  · rw [hkept.slotCount, hkept.layout, ht.slots]
  · rw [hkept.expanderCount, hkept.layout, ht.expanders]

/-- A slot of the table belongs to an expander of the table. -/
theorem Fits.exists_expander {t : Topology} (h : t.Fits) {slot : Nat} {s : Slot}
    (hs : t.slots.get? slot = some s) :
    0 < t.layout.slotsPerExpander ∧ ∃ e, t.expanders.get? (t.layout.expanderOf slot) = some e := by
  have hslot : slot < t.layout.slotCount := by
    rw [← h.slots]
    exact (Array.getElem?_eq_some_iff.1 hs).1
  obtain ⟨hpos, hlt⟩ := Layout.expanderOf_lt hslot
  rw [← h.expanders] at hlt
  exact ⟨hpos, Option.isSome_iff_exists.1 (ExpanderTable.get?_isSome_iff.2 hlt)⟩

/-! ## One slot -/

/-- The way to the phy of a slot leads over the node that its expander is bound to. It is missing if
no phy is known, or no such node. -/
theorem phyRoute_cases {t : Topology} (h : t.Fits) (slot : Nat) :
    ((t.slots.get? slot).bind Slot.phyId = none ∧ phyRoute t slot = .error (.phyUnknown slot)) ∨
      ∃ phy e, (t.slots.get? slot).bind Slot.phyId = some phy ∧
        t.expanders.get? (t.layout.expanderOf slot) = some e ∧
        (e.binding = none ∧
            phyRoute t slot = .error (.nodeUnknown slot (t.layout.expanderOf slot)) ∨
          ∃ b, e.binding = some b ∧ phyRoute t slot = .ok ⟨b.path, b.kind, e.wwid, phy⟩) := by
  rcases hphy : (t.slots.get? slot).bind Slot.phyId with _ | phy
  · exact .inl ⟨rfl, by simp only [phyRoute, hphy]⟩
  · obtain ⟨s, hs, -⟩ := Option.bind_eq_some_iff.1 hphy
    obtain ⟨-, e, he⟩ := h.exists_expander hs
    refine .inr ⟨phy, e, rfl, he, ?_⟩
    rcases hb : e.binding with _ | b
    · exact .inl ⟨rfl, by simp only [phyRoute, hphy, ExpanderTable.getD, he, Option.getD_some, hb]⟩
    · exact .inr ⟨b, rfl, phyRoute_eq_ok_iff.2 ⟨phy, e, b, hphy, he, hb, rfl⟩⟩

/-- What comes of a slot: a problem without a frame, or a frame without a problem, which is sent
over the node that the expander of the slot is bound to, after that is opened once. -/
inductive SlotOutcome (t : Topology) (disable : Bool) :
    Turn (nodes σ) Nat (Option Diagnostic) → Prop
  | phyUnknown (slot : Nat) (phy : (t.slots.get? slot).bind Slot.phyId = none) :
    SlotOutcome t disable ⟨slot, some (.phyUnknown slot), []⟩
  | nodeUnknown (slot : Nat) (e : Expander)
    (expander : t.expanders.get? (slot / t.layout.slotsPerExpander) = some e)
    (binding : e.binding = none) :
    SlotOutcome t disable
      ⟨slot, some (.nodeUnknown slot (slot / t.layout.slotsPerExpander)), []⟩
  | unopened (slot : Nat) (e : Expander) (b : Binding) (cause : TransportError)
    (expander : t.expanders.get? (slot / t.layout.slotsPerExpander) = some e)
    (binding : e.binding = some b) :
    SlotOutcome t disable
      ⟨slot, some (.nodeUnopened cause), [⟨.open b.path b.kind, .error cause⟩]⟩
  | switched (slot : Nat) (e : Expander) (b : Binding) (handle : σ) (label : String) (frame : Bytes)
    (answer : Except TransportError Transport.SmpReply)
    (expander : t.expanders.get? (slot / t.layout.slotsPerExpander) = some e)
    (binding : e.binding = some b) (isRequest : Smp.IsRequest .phyControl frame)
    (length : frame.length = 44) (phy : frame[9]? = (t.slots.get? slot).bind Slot.phyId)
    (operation : frame[10]? = some (if disable then 3 else 2)) :
    SlotOutcome t disable
      ⟨slot, none, [⟨.open b.path b.kind, .ok handle⟩,
        ⟨.on ⟨b.path, b.kind, handle⟩ (.trace label frame), ()⟩,
        ⟨.on ⟨b.path, b.kind, handle⟩ (.smp e.wwid frame 8), answer⟩]⟩

theorem slotOutcome_switchPhy {t : Topology} (h : t.Fits) (disable : Bool) (slot : Nat)
    (r : Responder (nodes σ) ρ) (st : ρ) :
    SlotOutcome t disable ⟨slot, ((switchPhy t disable slot).run r st).1,
      (switchPhy t disable slot).transcript r st⟩ := by
  unfold switchPhy
  obtain ⟨hphy, hroute⟩ | ⟨phy, e, hphy, he, ⟨hb, hroute⟩ | ⟨b, hb, hroute⟩⟩ :=
    phyRoute_cases h slot
  · rw [hroute]
    exact .phyUnknown slot hphy
  · rw [hroute]
    exact .nodeUnknown slot e he hb
  · rw [hroute, Dialogue.run_bind, Dialogue.transcript_bind]
    obtain ⟨cause, st', hrun, htold⟩ | ⟨handle, st', hrun, htold⟩ :=
      openNode_cases r st b.path b.kind
    · rw [hrun, htold]
      exact .unopened slot e b cause he hb
    · rw [hrun, htold]
      exact .switched slot e b handle _ (Smp.PhyControl.request phy disable) _ he hb
        ⟨_, rfl, rfl, rfl⟩ rfl hphy.symm (by cases disable <;> rfl)

/-! ## All slots -/

/-- In every topology that passes reach, whatever slots are given and whatever the nodes answer,
each slot has one outcome, in the order in which the slots are given. A slot with a phy has an
expander in the table, and no layout without bays has such a slot. -/
theorem each_slot_has_one_outcome {t u : Topology} (ht : Begun t) (hp : Passes t u) (disable : Bool)
    (slots : List Nat) (r : Responder (nodes σ) ρ) (st : ρ) :
    (∃ turns : List (Turn (nodes σ) Nat (Option Diagnostic)),
      turns.map (·.about) = slots ∧
      (switchPhys u disable slots).transcript r st = turns.flatMap (·.told) ∧
      ((switchPhys u disable slots).run r st).1 = turns.filterMap (·.result) ∧
      ∀ turn ∈ turns, SlotOutcome u disable turn) ∧
    ∀ slot phy, (u.slots.get? slot).bind Slot.phyId = some phy →
      0 < u.layout.slotsPerExpander ∧
        ∃ e, u.expanders.get? (slot / u.layout.slotsPerExpander) = some e := by
  have hu : u.Fits := fits_of_passes hp (fits_of_begun ht)
  refine ⟨?_, fun slot phy hphy => ?_⟩
  · obtain ⟨turns, habout, hresult, htold, hturns⟩ :=
      Dialogue.exists_turns r (switchPhy u disable) slots st
    refine ⟨turns, habout, ?_, ?_, fun turn hturn => ?_⟩
    · rw [← htold]
      exact Dialogue.transcript_map r _ _ st
    · have hrun : (switchPhys u disable slots).run r st = _ := Dialogue.run_map r _ _ st
      rw [hrun, hresult, List.filterMap_map]
      rfl
    · obtain ⟨s, hr, hd⟩ := hturns turn hturn
      have houtcome := slotOutcome_switchPhy hu disable turn.about r s
      rwa [← hr, ← hd] at houtcome
  · obtain ⟨s, hs, -⟩ := Option.bind_eq_some_iff.1 hphy
    exact hu.exists_expander hs

/-- Of two expanders with one index, the phy of slot 0 is switched once each time the slot is given;
slot 112 is outside the table. -/
theorem each_slot_has_one_outcome_twoNodes :
    let t := Topology.empty .standard
    let u := ((visitExpanders twoNodes hereConfig (.start t)).run sharedIndex ()).1.topology
    Begun t ∧ Passes t u ∧ (u.slots.get? 0).bind Slot.phyId = some 1 ∧
      (0 < u.layout.slotsPerExpander ∧
        ∃ e, u.expanders.get? (0 / u.layout.slotsPerExpander) = some e) ∧
      ∃ turns : List (Turn (nodes Unit) Nat (Option Diagnostic)),
        turns.map (·.about) = [0, 112, 0] ∧
        ((switchPhys u true [0, 112, 0]).run (opensAll ()) ()).1 = turns.filterMap (·.result) ∧
        ∀ turn ∈ turns, SlotOutcome u true turn := by
  intro t u
  have ht : Begun t := .empty .standard
  have hp : Passes t u := .single (.expanders twoNodes hereConfig t sharedIndex ())
  obtain ⟨⟨turns, habout, -, hresult, hturns⟩, hexpander⟩ :=
    each_slot_has_one_outcome ht hp true [0, 112, 0] (opensAll ()) ()
  have hphy : (u.slots.get? 0).bind Slot.phyId = some 1 := by
    show ((((visitExpanders twoNodes hereConfig (.start t)).run sharedIndex
      ()).1.topology).slots.get? 0).bind _ = _
    rw [visitExpanders_twoNodes]
    decide +kernel
  exact ⟨ht, hp, hphy, hexpander 0 1 hphy, turns, habout, hresult, hturns⟩

end BayMap.Topology
