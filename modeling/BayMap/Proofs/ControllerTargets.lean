import BayMap.Proofs.ControllerBindings
import BayMap.Proofs.FixedNodes
import BayMap.Proofs.Inquiries
import BayMap.Proofs.Registrations

/-!
# Targets behind controllers

The node of a controller is shared by the expanders behind it, so a management frame that is sent
over it needs a target. Slot discovery only goes to expanders that a controller reports, and reports
have addresses. A phy is then switched at the address in the entry of its expander, which is zero if
nothing but a phy that tells of no address has bound the entry.

* `hasTarget_listen`, `hasTarget_walk`: the conversations of slot discovery send no frame without a
  target.
* `inventoried_takeInventory`: after an inventory, an expander that is bound has an address.
* `phyRoute_of_visited`: the way to a phy leads to a controller, and when it leads to no target.
* `frames_have_targets_iff`: slot discovery sends no frame without a target, and exactly when
  switching phys does.
-/

namespace BayMap

open Transport (Conversation LinkQuery)

/-! ## Conversations -/

/-- If it is a management frame, it has a target. -/
def Transport.LinkQuery.HasTarget : LinkQuery → Prop
  | .smp target _ _ => target ≠ 0
  | .command .. | .trace .. => True

/-- What only reads, and goes to targets with an address if it is a management frame, has a
target. -/
theorem Transport.LinkQuery.OnlyReads.hasTarget {query : LinkQuery} (h : query.OnlyReads (· ≠ 0)) :
    query.HasTarget := by
  rcases query with _ | _ | _
  · exact h.1
  · trivial
  · trivial

namespace Topology

open Transport (Kind)

variable {σ ρ α β : Type}

theorem hasTarget_walk {target : UInt64} (h : target ≠ 0) (tableToTable : Bool)
    (asked : List UInt8) : (walk target tableToTable asked).Asks LinkQuery.HasTarget := by
  have hwalk : (walk target tableToTable asked).Asks (LinkQuery.OnlyReads (· ≠ 0)) := by
    apply onlyReads_walk
    exact h
  exact hwalk.mono fun _ hq => hq.hasTarget

theorem hasTarget_listen (path : String) (maxExpanders : Nat) :
    (ControllerReport.listen path maxExpanders).Asks LinkQuery.HasTarget :=
  (onlyReads_listen (fun _ h0 => h0) path maxExpanders).mono fun _ hq => hq.hasTarget

/-! ## Passes -/

/-- If it is a management frame, it goes over the node of a controller and has a target. -/
def NodeQuery.Aimed : NodeQuery σ → Prop
  | .on node (.smp target _ _) => node.kind = .mpi3mr ∧ target ≠ 0
  | .on _ (.command ..) | .on _ (.trace ..) | .open .. => True

theorem aimed_on {node : OpenNode σ} (hk : node.kind = .mpi3mr) {query : LinkQuery}
    (h : query.HasTarget) : (NodeQuery.on node query).Aimed := by
  rcases query with ⟨target, request, capacity⟩ | _ | _
  · exact ⟨hk, h⟩
  · trivial
  · trivial

theorem aimed_talk {kind : Kind} (hk : kind = .mpi3mr) {c : Conversation α}
    (h : c.Asks LinkQuery.HasTarget) (path : String) (f : Except TransportError α → β) :
    (Pass.talk path kind c f : Pass σ β).Asks NodeQuery.Aimed :=
  asks_talk trivial (fun _ _ hq => aimed_on hk hq) h f

theorem aimed_takeInventory (t : Files.Tree) (config : Config) (s : Survey) :
    (takeInventory t config s : Pass σ _).Asks NodeQuery.Aimed := by
  have hvisit (path : String) :
      (visitController config.layout.expanders path : Pass σ _).Asks NodeQuery.Aimed := by
    unfold visitController
    rcases Transport.ordinalOf path with _ | ordinal
    · trivial
    · exact aimed_talk rfl (hasTarget_listen path _) path (NodeBehaviour.visitOf ordinal)
  exact (Dialogue.asks_mapM fun path _ => hvisit path).map _

theorem aimed_visitAll {visits : List Visit} (h : ∀ v ∈ visits, v.kind = .mpi3mr ∧ v.target ≠ 0)
    (s : Survey) : (visitAll visits s : Pass σ _).Asks NodeQuery.Aimed := by
  apply Dialogue.asks_foldlM
  intro s v hv
  obtain ⟨hk, h0⟩ := h v hv
  exact (aimed_talk hk (hasTarget_walk h0 false slotPhys) v.path id).map _

/-! ## Entries -/

/-- What an inventory leaves of an expander that was bound to no node before. -/
structure Expander.Inventoried (e : Expander) : Prop where
  /-- No link to a host is known. -/
  hostLink : e.hostLink = none
  /-- It is bound to the node of a controller, if at all, and then has an address. -/
  binding : ∀ b, e.binding = some b → b.kind = .mpi3mr ∧ e.wwid ≠ 0

theorem inventoried_boundBy {e : Expander} (h : e.Inventoried) {x : Told} (h0 : x.address ≠ 0) :
    (e.boundBy x).Inventoried := by
  have hlink : (e.boundBy x).hostLink = e.hostLink := e.hostLink_withWwid x.address
  have hwwid : (e.boundBy x).wwid ≠ 0 := by
    show (e.withWwid x.address).wwid ≠ 0
    rw [Expander.wwid_withWwid]
    split
    · exact h0
    · assumption
  refine ⟨hlink.trans h.hostLink, ?_⟩
  rintro b ⟨⟩
  exact ⟨rfl, hwwid⟩

theorem inventoried_foldl_boundBy {xs : List Told} (h0 : ∀ x ∈ xs, x.address ≠ 0) {e : Expander}
    (h : e.Inventoried) : (xs.foldl Expander.boundBy e).Inventoried := by
  induction xs generalizing e with
  | nil => exact h
  | cons x rest ih =>
    obtain ⟨hx, hrest⟩ := List.forall_mem_cons.1 h0
    exact ih hrest (inventoried_boundBy h hx)

/-- The expanders of a topology are as an inventory leaves them. -/
def Inventoried (t : Topology) : Prop := ∀ i e, t.expanders.get? i = some e → e.Inventoried

/-- Before the first pass no expander is bound. -/
theorem inventoried_of_begun {t : Topology} (h : Begun t) : t.Inventoried := by
  have hempty : Expander.empty.Inventoried := ⟨rfl, by rintro _ ⟨⟩⟩
  intro i e he
  rcases h with layout | ⟨tree, config⟩
  · have hg : (ExpanderTable.empty layout).get? i = some e := he
    rw [ExpanderTable.get?_empty] at hg
    obtain ⟨-, hg⟩ := Option.ite_none_right_eq_some.1 hg
    rwa [← Option.some.inj hg]
  · rw [topology_scan] at he
    have hi : i < config.layout.expanders := by
      have hlt := ExpanderTable.get?_isSome_iff.1 (Option.isSome_of_eq_some he)
      rwa [Scan.ofSightings, size_foldl_step, size_start] at hlt
    rw [get?_expanders_ofSightings config.layout _ hi] at he
    rw [← Option.some.inj he]
    rcases lastAt? config.layout.expanders (sightings tree config) i with _ | x
    · exact hempty
    · obtain ⟨hb, hl⟩ := registerIn_frame x .empty
      refine ⟨hl, fun b hxb => ?_⟩
      have hnone : (none : Option Binding) = some b := hb.symm.trans hxb
      cases hnone

theorem inventoried_takeInventory (t : Files.Tree) (config : Config) {s : Survey}
    (hs : s.topology.Inventoried) (r : Responder (nodes σ) ρ) (st : ρ) :
    ((takeInventory t config s).run r st).1.2.topology.Inventoried := by
  intro i e he
  obtain ⟨hg, h0⟩ := get?_expanders_takeInventory t config s r st i
  rw [hg] at he
  obtain ⟨e', he', rfl⟩ := Option.map_eq_some_iff.1 he
  exact inventoried_foldl_boundBy h0 (hs i e' he')

/-- The expanders that are visited are those that are bound to the nodes of controllers, each at the
address of its entry. -/
theorem aimed_of_mem_bound {t : Topology} (h : t.Inventoried) {v : Visit}
    (hv : v ∈ boundToControllers t.expanders) : v.kind = .mpi3mr ∧ v.target ≠ 0 := by
  obtain ⟨i, e, b, hg, hb, -, rfl⟩ := exists_of_mem_bound hv
  exact ⟨rfl, ((h i e hg).binding b hb).2⟩

/-! ## The way to a phy -/

/-- The phy of a slot is switched without a target: its expander has no address before the visits,
and the report that binds it tells of none. -/
structure Misaimed (inventoried found : Topology) (heard : List Report) (slot : Nat) : Prop where
  /-- A phy is known for the slot. -/
  phy : ((found.slots.get? slot).bind Slot.phyId).isSome
  /-- The entry of the expander has no address. -/
  entry : ∃ e, inventoried.expanders.get? (found.layout.expanderOf slot) = some e ∧ e.wwid = 0
  /-- The first report of its link to a host has none either. -/
  report : ∃ x, firstLink? (found.layout.expanderOf slot) heard = some x ∧
    x.record.expanderAddress = 0

/-- Only an expander of index 0 is bound by a report without an address. -/
theorem Misaimed.expanderOf_eq_zero {inventoried found : Topology} {heard : List Report}
    {slot : Nat} (h : Misaimed inventoried found heard slot) :
    found.layout.expanderOf slot = 0 := by
  obtain ⟨x, hx, h0⟩ := h.report
  obtain ⟨hi, -⟩ := exists_takeLink hx (e := .empty) rfl
  rw [← hi, h0]
  rfl

section Visited

variable {inventoried : Topology} {heard : List Report}

/-- An expander after the visits: as it was before, or bound by the first report that links it to a
host. -/
theorem get?_expanders_visited (h : inventoried.Inventoried) (i : Nat) :
    (heard.foldl take inventoried).expanders.get? i =
      (inventoried.expanders.get? i).map fun e =>
        ((firstLink? i heard).map (e.takeLink i)).getD e := by
  rw [get?_expanders_foldl_take]
  rcases hg : inventoried.expanders.get? i with _ | e
  · rfl
  · rw [Option.map_some, Option.map_some, foldl_takeLink heard (h i e hg).hostLink]

/-- The way to a phy leads over the node of a controller, and to no target exactly where the slot is
misaimed. -/
theorem phyRoute_of_visited (h : inventoried.Inventoried) (hk : ∀ x ∈ heard, x.kind = .mpi3mr)
    {slot : Nat} {route : PhyRoute}
    (hr : phyRoute (heard.foldl take inventoried) slot = .ok route) :
    route.kind = .mpi3mr ∧
      (route.target = 0 ↔ Misaimed inventoried (heard.foldl take inventoried) heard slot) := by
  obtain ⟨phy, e', b, hp, he', hb, rfl⟩ := phyRoute_eq_ok_iff.1 hr
  rw [get?_expanders_visited h] at he'
  obtain ⟨e, he, rfl⟩ := Option.map_eq_some_iff.1 he'
  rcases hf : firstLink? ((heard.foldl take inventoried).layout.expanderOf slot) heard with _ | x
  · -- The entry is as the inventory left it.
    rw [hf] at hb
    obtain ⟨hkind, h0⟩ := (h _ e he).binding b hb
    refine ⟨hkind, iff_of_false h0 fun hm => ?_⟩
    obtain ⟨x, hx, -⟩ := hm.report
    rw [hf] at hx
    cases hx
  · obtain ⟨-, name, hl⟩ := exists_takeLink hf (h _ e he).hostLink
    rw [hf, Option.map_some, Option.getD_some, hl] at hb
    obtain rfl : Binding.ofNode x.path x.kind = b := Option.some.inj hb
    have hkind : x.kind = .mpi3mr := hk x (List.mem_of_find?_eq_some hf)
    refine ⟨(ofNode_kind x.path x.kind).trans hkind, ?_⟩
    rw [Option.map_some, Option.getD_some, hl]
    show (e.withWwid x.record.expanderAddress).wwid = 0 ↔ _
    rw [Expander.wwid_withWwid]
    constructor
    · intro h0
      have hw : e.wwid = 0 := by
        by_contra hne
        rw [if_neg hne] at h0
        exact hne h0
      rw [if_pos hw] at h0
      exact ⟨by rw [hp]; rfl, ⟨e, he, hw⟩, ⟨x, hf, h0⟩⟩
    · rintro ⟨-, ⟨e₂, he₂, hw⟩, ⟨x₂, hx₂, h0⟩⟩
      obtain rfl : e = e₂ := Option.some.inj (he.symm.trans he₂)
      obtain rfl : x = x₂ := Option.some.inj (hf.symm.trans hx₂)
      rw [if_pos hw, h0]

/-- There is a way to the phy of a slot that is misaimed. -/
theorem exists_phyRoute (h : inventoried.Inventoried) {slot : Nat}
    (hm : Misaimed inventoried (heard.foldl take inventoried) heard slot) :
    ∃ route, phyRoute (heard.foldl take inventoried) slot = .ok route := by
  obtain ⟨hp, ⟨e, he, -⟩, ⟨x, hx, -⟩⟩ := hm
  obtain ⟨phy, hp⟩ := Option.isSome_iff_exists.1 hp
  obtain ⟨-, name, hl⟩ := exists_takeLink hx (h _ e he).hostLink
  have hentry : (heard.foldl take inventoried).expanders.get?
      ((heard.foldl take inventoried).layout.expanderOf slot) =
        some (e.linked x.path x.kind name x.record) := by
    rw [get?_expanders_visited h, he, Option.map_some, hx, Option.map_some, Option.getD_some, hl]
  exact ⟨_, phyRoute_eq_ok_iff.2 ⟨phy, _, .ofNode x.path x.kind, hp, hentry, rfl, rfl⟩⟩

/-- A phy is switched over the node of a controller, and without a target exactly where its slot is
misaimed. -/
theorem sent_of_visited (h : inventoried.Inventoried) (hk : ∀ x ∈ heard, x.kind = .mpi3mr)
    (disable : Bool) (slots : List Nat) (r : Responder (nodes σ) ρ) (st : ρ) :
    let found := heard.foldl take inventoried
    ∀ e ∈ (switchPhys found disable slots).transcript r st, ∀ node target request capacity,
      e.1 = .on node (.smp target request capacity) →
        node.kind = .mpi3mr ∧ ∃ slot ∈ slots, ∃ phy,
          (found.slots.get? slot).bind Slot.phyId = some phy ∧
          request = Smp.PhyControl.request phy disable ∧
          (target = 0 ↔ Misaimed inventoried found heard slot) := by
  intro found e he node target request capacity hq
  obtain ⟨slot, hs, route, hr, hc⟩ :=
    (asks_switchPhys found disable slots).of_mem_transcript r st e he
  rw [hq] at hc
  obtain ⟨-, hnode, rfl, hrequest⟩ := hc
  obtain ⟨hkind, htarget⟩ := phyRoute_of_visited h hk hr
  obtain ⟨phy, _, _, hp, -, -, rfl⟩ := phyRoute_eq_ok_iff.1 hr
  exact ⟨hnode.trans hkind, slot, hs, phy, hp, hrequest, htarget⟩

/-- Phys are switched with targets exactly if no slot is misaimed. -/
theorem aimed_switchPhys_iff (handle : σ) (h : inventoried.Inventoried)
    (hk : ∀ x ∈ heard, x.kind = .mpi3mr) (disable : Bool) (slots : List Nat) :
    let found := heard.foldl take inventoried
    (∀ (ρ : Type) (r : Responder (nodes σ) ρ) (st : ρ),
        ∀ e ∈ (switchPhys found disable slots).transcript r st, e.1.Aimed) ↔
      ∀ slot ∈ slots, ¬ Misaimed inventoried found heard slot := by
  intro found
  constructor
  · intro haimed slot hs hm
    obtain ⟨route, hr⟩ := exists_phyRoute h hm
    obtain ⟨e, he, hq⟩ := exists_sent hr disable (r := opensAll handle) (fun _ => rfl) hs ()
    have htarget := haimed Unit (opensAll handle) () e he
    rw [hq] at htarget
    exact htarget.2 ((phyRoute_of_visited h hk hr).2.2 hm)
  · intro hslots ρ r st e he
    have hsent := sent_of_visited h hk disable slots r st e he
    rcases e with ⟨_ | ⟨node, ⟨target, request, capacity⟩ | _ | _⟩, answer⟩
    · trivial
    · obtain ⟨hkind, slot, hs, -, -, -, htarget⟩ := hsent node target request capacity rfl
      exact ⟨hkind, mt htarget.1 (hslots slot hs)⟩
    · trivial
    · trivial

end Visited

/-! ## Discovery and switching -/

section Pass

variable (t : Files.Tree) (config : Config) (s : Survey) (r : Responder (nodes σ) ρ) (st : ρ)

theorem topology_visitThroughControllers :
    let inventory := (takeInventory t config s).run r st
    let inventoried := inventory.1.2
    let visits := visitAll (boundToControllers inventoried.topology.expanders) inventoried
    ((visitThroughControllers t config s).run r st).1.2.topology =
      (reports (visits.transcript r inventory.2)).foldl take inventoried.topology := by
  rw [visitThroughControllers, Dialogue.run_bind]
  generalize (takeInventory t config s).run r st = inventory
  rw [Dialogue.run_bind]
  exact topology_visitAll _ _ r inventory.2

theorem aimed_visitThroughControllers (hs : s.topology.Inventoried) :
    ∀ e ∈ (visitThroughControllers t config s).transcript r st, e.1.Aimed := by
  intro e he
  have hi := inventoried_takeInventory t config hs r st
  rw [visitThroughControllers, Dialogue.transcript_bind] at he
  generalize (takeInventory t config s).run r st = inventory at he hi
  rw [Dialogue.transcript_bind] at he
  rcases List.mem_append.1 he with he | he
  · exact (aimed_takeInventory t config s).of_mem_transcript r st e he
  rcases List.mem_append.1 he with he | he
  · have hvisits := aimed_visitAll (σ := σ) (fun v hv => aimed_of_mem_bound hi hv) inventory.1.2
    exact hvisits.of_mem_transcript r inventory.2 e he
  · cases he

end Pass

/-- Slot discovery through controllers sends no management frame without a target, whatever
controllers and expanders answer. On the topology that it leaves, phys are switched over the nodes
of controllers too, and with a target unless a slot is misaimed, which only slots of the expander at
index 0 can be. -/
theorem frames_have_targets_iff (handle : σ) {before : Topology} (hb : Begun before)
    (t : Files.Tree) (config : Config) (r : Responder (nodes σ) ρ) (st : ρ) (disable : Bool)
    (slots : List Nat) :
    let inventory := (takeInventory t config (.start before)).run r st
    let inventoried := inventory.1.2
    let visits := visitAll (boundToControllers inventoried.topology.expanders) inventoried
    let heard := reports (visits.transcript r inventory.2)
    let pass : Pass σ _ := visitThroughControllers t config (.start before)
    let found := (pass.run r st).1.2.topology
    (∀ e ∈ pass.transcript r st, e.1.Aimed) ∧
      (∀ (ρ' : Type) (r' : Responder (nodes σ) ρ') (st' : ρ'),
        ∀ e ∈ (switchPhys found disable slots).transcript r' st', ∀ node target request capacity,
          e.1 = .on node (.smp target request capacity) →
            node.kind = .mpi3mr ∧ ∃ slot ∈ slots, ∃ phy,
              (found.slots.get? slot).bind Slot.phyId = some phy ∧
              request = Smp.PhyControl.request phy disable ∧
              (target = 0 ↔ Misaimed inventoried.topology found heard slot)) ∧
      ((∀ (ρ' : Type) (r' : Responder (nodes σ) ρ') (st' : ρ'),
          ∀ e ∈ (switchPhys found disable slots).transcript r' st', e.1.Aimed) ↔
        ∀ slot ∈ slots, ¬ Misaimed inventoried.topology found heard slot) ∧
      ∀ slot, Misaimed inventoried.topology found heard slot →
        found.layout.expanderOf slot = 0 := by
  intro inventory inventoried visits heard pass found
  have hbefore : before.Inventoried := inventoried_of_begun hb
  have hi : inventoried.topology.Inventoried :=
    inventoried_takeInventory t config hbefore r st
  have hfound : found = heard.foldl take inventoried.topology :=
    topology_visitThroughControllers t config (.start before) r st
  have hk : ∀ x ∈ heard, x.kind = .mpi3mr := by
    intro x hx
    obtain ⟨v, hv, -, hkind⟩ := visit_of_mem_reports hx
    exact hkind.trans (aimed_of_mem_bound hi hv).1
  refine ⟨aimed_visitThroughControllers t config (.start before) r st hbefore, ?_⟩
  clear_value found heard
  rw [hfound]
  exact ⟨fun _ => sent_of_visited hi hk disable slots,
    aimed_switchPhys_iff handle hi hk disable slots, fun _ hm => hm.expanderOf_eq_zero⟩

/-! ## An expander that tells of no address -/

/-- A tree with the node of one controller. -/
def oneController : Files.Tree := nodeFiles ["mpi3mrctl0"]

/-- A controller that reports one expander. The expander tells of the link to the host at phy 0 and
of the disk of bay 0 at phy 1, and each time gives zero for its address. -/
def withoutAddress : Responder (nodes Unit) Unit := fun q _ =>
  (match q with
    | .open .. => .ok ()
    | .on _ (.command (.config request) capacity) =>
      if request.pageType = Controller.expanderPageType ∧
          request.pageAddress = Controller.startForm then
        .ok ⟨List.replicate 16 0 ++ Bytes.of64 0x5000c5000000007f, capacity, 0⟩
      else .error (.noOrdinal "")
    | .on _ (.command ..) => .error (.noOrdinal "")
    | .on _ (.smp _ request _) =>
      let response :=
        match request.u8At 9 with
        | 0 => phyFrame 0 8 0 0x500605b000000100 0xff
        | 1 => phyFrame 1 0 0 0 0
        | _ => [Smp.responseType, Smp.Function.discover.code, 0x10, 0]
      .ok ⟨response, none, 0⟩
    | .on _ (.trace ..) => (), ())

theorem listNodes_oneController :
    listNodes oneController hereConfig .mpi3mr = (["bsg/mpi3mrctl0"], []) :=
  listNodes_nodeFiles .mpi3mr ["mpi3mrctl0"] rfl (by decide +kernel)
    (List.mergeSort_of_pairwise (by decide +kernel))

theorem frames_have_targets_oneController :
    let before := Topology.empty .standard
    let pass : Pass Unit _ := visitThroughControllers oneController hereConfig (.start before)
    Begun before ∧ ∀ e ∈ pass.transcript withoutAddress (), e.1.Aimed := by
  intro before pass
  have hb : Begun before := .empty .standard
  exact ⟨hb, (frames_have_targets_iff () hb oneController hereConfig withoutAddress () true [0]).1⟩

/-- The disk of bay 0 is switched off without a target: the expander at index 0 is bound by the link
to the host at phy 0, which tells of no address. -/
theorem phy_switched_without_target :
    let pass : Pass Unit _ :=
      visitThroughControllers oneController hereConfig (.start (.empty .standard))
    let found := (pass.run withoutAddress ()).1.2.topology
    ∃ e ∈ (switchPhys found true [0]).transcript withoutAddress (),
      e.1 = .on ⟨"bsg/mpi3mrctl0", .mpi3mr, ()⟩
          (.smp 0 (Smp.PhyControl.request 1 true) Smp.PhyControl.capacity) ∧
        ¬ e.1.Aimed := by
  intro pass found
  have hr : (phyRoute found 0).toOption = some ⟨"bsg/mpi3mrctl0", .mpi3mr, 0, 1⟩ := by
    show (phyRoute ((visitThroughControllers oneController hereConfig
      (.start (.empty .standard)) : Pass Unit _).run withoutAddress ()).1.2.topology 0).toOption = _
    rw [visitThroughControllers, takeInventory, listNodes_oneController]
    decide +kernel
  have hr : phyRoute found 0 = .ok ⟨"bsg/mpi3mrctl0", .mpi3mr, 0, 1⟩ := by
    generalize phyRoute found 0 = way at hr ⊢
    rcases way with problem | route
    · cases hr
    · exact congrArg Except.ok (Option.some.inj hr)
  obtain ⟨e, he, hq⟩ := exists_sent hr true (r := withoutAddress) (fun _ => rfl)
    (List.mem_singleton_self 0) ()
  refine ⟨e, he, hq, fun h => ?_⟩
  rw [hq] at h
  exact h.2 rfl

end Topology

end BayMap
