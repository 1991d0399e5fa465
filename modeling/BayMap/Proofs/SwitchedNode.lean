import BayMap.Proofs.LastReport
import BayMap.Proofs.PlainPath
import BayMap.Topology.PhySwitch

/-!
# Which node a phy is switched through

A slot keeps the last report of its bay, and an expander the first report that links it to a host.
A phy is switched through the node of the one and by the number of the other, which are reports of
one expander only where they came over one node.

* `expander_foldl_take`: an expander has what the first report of its link to a host gives it.
* `asks_switchPhys`: what is put to a node when phys are switched.
* `phyRoute_found_eq_ok_iff`: the way to the phy of a slot, and where there is one.
* `switched_where_heard_iff`: exactly when a phy is switched through the node it was heard over.
-/

namespace BayMap.Topology

open Smp (PhyRecord)
open Transport (Kind Conversation)

variable {σ ρ : Type}

/-! ## The expander of a slot -/

/-- The first one among reports that links the expander at an index to a host. -/
def firstLink? (index : Nat) (heard : List Report) : Option Report :=
  heard.find? fun x => (x.hostAt? index).isSome

theorem get?_expanders_foldl_take (heard : List Report) (t : Topology) (index : Nat) :
    (heard.foldl take t).expanders.get? index =
      (t.expanders.get? index).map fun e => heard.foldl (Expander.takeLink index) e := by
  induction heard generalizing t with
  | nil => simp
  | cons x rest ih =>
    rw [List.foldl_cons, ih, get?_expanders_take, Option.map_map]
    rfl

theorem takeLink_of_linked {index : Nat} {e : Expander} (x : Report) (h : e.hostLink.isSome) :
    e.takeLink index x = e := by
  unfold Expander.takeLink
  cases x.hostAt? index with
  | none => rfl
  | some name => exact if_pos h

theorem foldl_takeLink_of_linked {index : Nat} {e : Expander} (heard : List Report)
    (h : e.hostLink.isSome) : heard.foldl (Expander.takeLink index) e = e := by
  induction heard with
  | nil => rfl
  | cons x rest ih => rw [List.foldl_cons, takeLink_of_linked x h, ih]

/-- Of the reports that link an expander to a host only the first one counts. -/
theorem foldl_takeLink {index : Nat} {e : Expander} (heard : List Report) (h : e.hostLink = none) :
    heard.foldl (Expander.takeLink index) e =
      ((firstLink? index heard).map (e.takeLink index)).getD e := by
  induction heard with
  | nil => rfl
  | cons x rest ih =>
    rw [List.foldl_cons, firstLink?, List.find?_cons]
    cases hn : x.hostAt? index with
    | none =>
      have he : e.takeLink index x = e := by
        rw [Expander.takeLink, hn]
      rw [he, ih]
      rfl
    | some name =>
      refine foldl_takeLink_of_linked rest ?_
      rw [Expander.takeLink, hn, h]
      rfl

theorem expander_foldl_take (heard : List Report) (layout : Layout) (index : Nat) :
    (heard.foldl take (.empty layout)).expanders.get? index =
      if index < layout.expanders then
        some (((firstLink? index heard).map (Expander.empty.takeLink index)).getD .empty)
      else none := by
  rw [get?_expanders_foldl_take, Topology.empty, ExpanderTable.get?_empty]
  split
  · rw [Option.map_some, foldl_takeLink _ rfl]
  · rfl

/-- The first report that links an expander to a host binds it to the node the report came over. -/
theorem exists_takeLink {index : Nat} {heard : List Report} {x : Report}
    (h : firstLink? index heard = some x) {e : Expander} (he : e.hostLink = none) :
    expanderIndex x.record.expanderAddress = index ∧
      ∃ name, e.takeLink index x = e.linked x.path x.kind name x.record := by
  have hn := List.find?_some h
  obtain ⟨name, hn⟩ := Option.isSome_iff_exists.1 hn
  refine ⟨(Option.ite_none_right_eq_some.1 hn).1, name, ?_⟩
  rw [Expander.takeLink, hn, he]
  rfl

theorem takeLink_of_firstLink {index : Nat} {heard : List Report} {x : Report}
    (h : firstLink? index heard = some x) :
    (Expander.empty.takeLink index x).binding = some (.ofNode x.path x.kind) ∧
      (Expander.empty.takeLink index x).wwid = x.record.expanderAddress := by
  obtain ⟨-, name, hl⟩ := exists_takeLink h (e := .empty) rfl
  rw [hl]
  exact ⟨rfl, rfl⟩

theorem ofNode_path (path : String) (kind : Kind) : (Binding.ofNode path kind).path = path := by
  cases kind <;> rfl

theorem ofNode_kind (path : String) (kind : Kind) : (Binding.ofNode path kind).kind = kind := by
  cases kind <;> rfl

/-! ## The way to a phy -/

theorem slot_foldl_take (heard : List Report) (layout : Layout) (slot : Nat) :
    (heard.foldl take (.empty layout)).slots.get? slot =
      if slot < layout.slotCount then
        some ⟨none, (lastReport? layout slot heard).map (·.record)⟩
      else none := by
  rw [get?_foldl_take, Topology.empty, SlotTable.get?_empty]
  split
  · simp [Slot.empty]
  · rfl

theorem lt_of_lastReport {heard : List Report} {layout : Layout} {slot : Nat} {last : Report}
    (h : lastReport? layout slot heard = some last) : slot < layout.slotCount := by
  obtain ⟨-, number, -, hi, hd, rfl⟩ := Layout.slotTold?_eq_some_iff.1 (of_lastReport h).2
  exact Layout.slotOf_lt hi hd

theorem lastDiscovery_foldl_take {heard : List Report} {layout : Layout} {slot : Nat}
    {last : Report} (h : lastReport? layout slot heard = some last) :
    ((heard.foldl take (.empty layout)).slots.getD slot).lastDiscovery = some last.record := by
  rw [SlotTable.getD, slot_foldl_take, if_pos (lt_of_lastReport h), h]
  rfl

theorem phyId_foldl_take (told : List (Exchanged (nodes σ))) (layout : Layout) (slot : Nat) :
    (((reports told).foldl take (.empty layout)).slots.get? slot).bind Slot.phyId =
      (lastReport? layout slot (reports told)).map (·.record.phyId) := by
  rw [slot_foldl_take]
  cases hl : lastReport? layout slot (reports told) with
  | none => split <;> rfl
  | some last =>
    obtain ⟨hm, hs⟩ := of_lastReport hl
    rw [if_pos (lt_of_lastReport hl)]
    exact phyId_of_lastReport hm hs rfl

/-- The way to the phy of a slot goes over the node that first linked the expander of the slot to a
host, and to the phy that was last reported for the slot. -/
theorem phyRoute_found_eq_ok_iff {told : List (Exchanged (nodes σ))} {layout : Layout} {slot : Nat}
    {route : PhyRoute} :
    phyRoute ((reports told).foldl take (.empty layout)) slot = .ok route ↔
      ∃ first last, firstLink? (layout.expanderOf slot) (reports told) = some first ∧
        lastReport? layout slot (reports told) = some last ∧
        route = ⟨first.path, first.kind, first.record.expanderAddress, last.record.phyId⟩ := by
  simp only [phyRoute_eq_ok_iff, phyId_foldl_take, layout_foldl_take, layout_empty,
    expander_foldl_take, Option.map_eq_some_iff, Option.ite_none_right_eq_some, Option.some.injEq]
  constructor
  · rintro ⟨_, _, b, ⟨last, hl, rfl⟩, ⟨-, rfl⟩, hb, rfl⟩
    cases hf : firstLink? (layout.expanderOf slot) (reports told) with
    | none =>
      rw [hf] at hb
      cases hb
    | some first =>
      obtain ⟨hbinding, hw⟩ := takeLink_of_firstLink hf
      rw [hf, Option.map_some, Option.getD_some, hbinding] at hb
      obtain rfl := Option.some.inj hb
      refine ⟨first, last, rfl, hl, ?_⟩
      rw [Option.map_some, Option.getD_some, hw, ofNode_path, ofNode_kind]
  · rintro ⟨first, last, hf, hl, rfl⟩
    obtain ⟨hbinding, hw⟩ := takeLink_of_firstLink hf
    have hi : layout.expanderOf slot < layout.expanders := by
      obtain ⟨-, number, -, hi, hd, rfl⟩ := Layout.slotTold?_eq_some_iff.1 (of_lastReport hl).2
      rwa [Layout.expanderOf_slotOf hd]
    refine ⟨_, _, .ofNode first.path first.kind, ⟨last, hl, rfl⟩, ⟨hi, rfl⟩, ?_, ?_⟩
    · rw [hf]
      exact hbinding
    · rw [hf, Option.map_some, Option.getD_some, hw, ofNode_path, ofNode_kind]

/-! ## Switching -/

/-- What is put to the node of a phy to switch it. -/
def PhyRoute.Carries (route : PhyRoute) (disable : Bool) : NodeQuery σ → Prop
  | .on node (.smp target request _) =>
    node.path = route.path ∧ node.kind = route.kind ∧ target = route.target ∧
      request = Smp.PhyControl.request route.phy disable
  | _ => True

theorem asks_switchPhy (t : Topology) (disable : Bool) (slot : Nat) :
    (switchPhy t disable slot : Pass σ _).Asks fun q =>
      ∃ route, phyRoute t slot = .ok route ∧ route.Carries disable q := by
  unfold switchPhy
  cases hr : phyRoute t slot with
  | error problem => trivial
  | ok route =>
    have hc : ∀ q : NodeQuery σ, route.Carries disable q →
        ∃ route', (.ok route : Except Diagnostic PhyRoute) = .ok route' ∧
          route'.Carries disable q :=
      fun q hq => ⟨route, rfl, hq⟩
    refine ⟨hc _ trivial, fun answer => ?_⟩
    cases answer with
    | error cause => exact trivial
    | ok handle => exact ⟨hc _ trivial, fun _ => ⟨hc _ ⟨rfl, rfl, rfl, rfl⟩, fun _ => trivial⟩⟩

theorem asks_switchPhys (t : Topology) (disable : Bool) (slots : List Nat) :
    (switchPhys t disable slots : Pass σ _).Asks fun q =>
      ∃ slot ∈ slots, ∃ route, phyRoute t slot = .ok route ∧ route.Carries disable q :=
  (Dialogue.asks_mapM fun slot hs => (asks_switchPhy t disable slot).mono fun _ hq =>
    ⟨slot, hs, hq⟩).map _

/-- A phy to which there is a way is switched, where its node can be opened. -/
theorem exists_sent {t : Topology} {slot : Nat} {route : PhyRoute}
    (hr : phyRoute t slot = .ok route) (disable : Bool) {handle : σ} {r : Responder (nodes σ) ρ}
    (ho : ∀ st, (r (.open route.path route.kind) st).1 = .ok handle) {slots : List Nat}
    (hs : slot ∈ slots) (st : ρ) :
    ∃ e ∈ (switchPhys t disable slots).transcript r st,
      e.1 = .on ⟨route.path, route.kind, handle⟩
        (.smp route.target (Smp.PhyControl.request route.phy disable) Smp.PhyControl.capacity) := by
  unfold switchPhys
  rw [Dialogue.transcript_map]
  obtain ⟨st', hsub⟩ := Dialogue.transcript_subset_mapM r (f := switchPhy t disable) hs st
  suffices h : ∃ e ∈ (switchPhy t disable slot).transcript r st',
      e.1 = .on ⟨route.path, route.kind, handle⟩
        (.smp route.target (Smp.PhyControl.request route.phy disable) Smp.PhyControl.capacity) by
    obtain ⟨e, he, hq⟩ := h
    exact ⟨e, hsub he, hq⟩
  let opening : Pass σ _ := Pass.openNode route.path route.kind
  have hopened : (opening.run r st').1 = .ok ⟨route.path, route.kind, handle⟩ :=
    congrArg (Except.map fun handle => (⟨route.path, route.kind, handle⟩ : OpenNode σ)) (ho st')
  unfold switchPhy
  rw [hr, Dialogue.transcript_bind, hopened]
  dsimp only
  rw [Dialogue.transcript_map, transcript_converse]
  -- The frame comes after the opening, and within its conversation after the trace.
  exact ⟨_, List.mem_append_right _
    (List.mem_map_of_mem (List.mem_cons_of_mem _ List.mem_cons_self)), rfl⟩

/-- A device that opens every node, and then answers nothing. -/
def opensAll (handle : σ) : Responder (nodes σ) Unit := fun q _ =>
  (match q with
    | .open .. => .ok handle
    | .on _ (.smp ..) | .on _ (.command ..) => .error (.noOrdinal "")
    | .on _ (.trace ..) => (), ())

/-- Whatever answers, a request that switches the phy of a slot goes over the node that the record
of the slot came over. -/
def SwitchesWhereHeard (σ : Type) (found : Topology) (heard : List Report) (disable : Bool)
    (slot : Nat) : Prop :=
  ∀ (ρ : Type) (r : Responder (nodes σ) ρ) (st : ρ),
    ∀ e ∈ (switchPhys found disable [slot]).transcript r st, ∀ node target request capacity,
      e.1 = .on node (.smp target request capacity) →
        ∃ last, lastReport? found.layout slot heard = some last ∧ node.path = last.path

section Finding

variable {told : List (Exchanged (nodes σ))} {layout : Layout} {slot : Nat} (disable : Bool)

theorem asks_switchPhys_found :
    (switchPhys ((reports told).foldl take (.empty layout)) disable [slot] : Pass σ _).Asks fun q =>
      ∃ first last, firstLink? (layout.expanderOf slot) (reports told) = some first ∧
        lastReport? layout slot (reports told) = some last ∧
        PhyRoute.Carries
          ⟨first.path, first.kind, first.record.expanderAddress, last.record.phyId⟩ disable q := by
  refine (asks_switchPhys _ disable [slot]).mono fun q hq => ?_
  obtain ⟨_, hs, route, hr, hc⟩ := hq
  obtain rfl := List.mem_singleton.1 hs
  obtain ⟨first, last, hf, hl, rfl⟩ := phyRoute_found_eq_ok_iff.1 hr
  exact ⟨first, last, hf, hl, hc⟩

theorem path_eq_of_switchesWhereHeard (handle : σ)
    (h : SwitchesWhereHeard σ ((reports told).foldl take (.empty layout)) (reports told) disable
      slot)
    {first last : Report} (hf : firstLink? (layout.expanderOf slot) (reports told) = some first)
    (hl : lastReport? layout slot (reports told) = some last) : first.path = last.path := by
  have hr := phyRoute_found_eq_ok_iff.2 ⟨first, last, hf, hl, rfl⟩
  obtain ⟨e, he, hq⟩ := exists_sent hr disable (r := opensAll handle) (fun _ => rfl)
    (List.mem_singleton_self slot) ()
  obtain ⟨last', hl', hp⟩ := h Unit (opensAll handle) () e he _ _ _ _ hq
  rw [layout_foldl_take, layout_empty, hl] at hl'
  obtain rfl := Option.some.inj hl'
  exact hp

end Finding

/-- The phy of a slot is switched through the node that first linked the expander of the slot to a
host, and that is the node the phy was heard over exactly if the last report of the slot came over
the same node. -/
theorem switched_where_heard_iff (handle : σ) (t : Files.Tree) (config : Config) (layout : Layout)
    (r : Responder (nodes σ) ρ) (st : ρ) (disable : Bool) (slot : Nat) :
    let pass : Pass σ Survey := visitExpanders t config (.start (.empty layout))
    let heard := reports (pass.transcript r st)
    let found := (pass.run r st).1.topology
    (∀ (ρ' : Type) (r' : Responder (nodes σ) ρ') (st' : ρ'),
      ∀ e ∈ (switchPhys found disable [slot]).transcript r' st', ∀ node target request capacity,
        e.1 = .on node (.smp target request capacity) →
          ∃ first last, firstLink? (layout.expanderOf slot) heard = some first ∧
            lastReport? layout slot heard = some last ∧
            (found.slots.getD slot).lastDiscovery = some last.record ∧
            node.path = first.path ∧ node.kind = first.kind ∧
            target = first.record.expanderAddress ∧
            request = Smp.PhyControl.request last.record.phyId disable) ∧
    (SwitchesWhereHeard σ found heard disable slot ↔
      ∀ first last, firstLink? (layout.expanderOf slot) heard = some first →
        lastReport? layout slot heard = some last → first.path = last.path) := by
  intro pass heard found
  have hfound : found = heard.foldl take (.empty layout) := topology_visitAll _ _ r st
  rw [hfound]
  have hsent : ∀ (ρ' : Type) (r' : Responder (nodes σ) ρ') (st' : ρ'),
      ∀ e ∈ (switchPhys (heard.foldl take (.empty layout)) disable [slot]).transcript r' st',
      ∀ node target request capacity, e.1 = .on node (.smp target request capacity) →
        ∃ first last, firstLink? (layout.expanderOf slot) heard = some first ∧
          lastReport? layout slot heard = some last ∧ node.path = first.path ∧
          node.kind = first.kind ∧ target = first.record.expanderAddress ∧
          request = Smp.PhyControl.request last.record.phyId disable := by
    intro ρ' r' st' e he node target request capacity hq
    obtain ⟨first, last, hf, hl, hc⟩ :=
      (asks_switchPhys_found disable).of_mem_transcript r' st' e he
    rw [hq] at hc
    exact ⟨first, last, hf, hl, hc⟩
  refine ⟨?_, fun h first last => path_eq_of_switchesWhereHeard disable handle h, ?_⟩
  · intro ρ' r' st' e he node target request capacity hq
    obtain ⟨first, last, hf, hl, hc⟩ := hsent ρ' r' st' e he node target request capacity hq
    exact ⟨first, last, hf, hl, lastDiscovery_foldl_take hl, hc⟩
  · intro h ρ' r' st' e he node target request capacity hq
    obtain ⟨first, last, hf, hl, hp, -⟩ := hsent ρ' r' st' e he node target request capacity hq
    rw [layout_foldl_take, layout_empty]
    exact ⟨last, hl, hp.trans (h first last hf hl)⟩

/-! ## Two expanders with one index -/

/-- The answer of an expander about an active phy. -/
def phyFrame (phy initiator : UInt8) (address name : Nat) (bay : UInt8) : Bytes :=
  [Smp.responseType, Smp.Function.discover.code, 0, 29, 0, 0, 0, 0, 0, phy, 0, 0, 0x10, 0xa,
    initiator, 8] ++ Bytes.be 8 address ++ List.replicate 28 0 ++ Bytes.be 8 name ++
    List.replicate 48 0 ++ [bay]

/-- A tree with the nodes of two expanders. -/
def twoNodes : Files.Tree :=
  ⟨[("bsg", .directory [("expander-0:0", .file []), ("expander-0:1", .file [])])]⟩

/-- The places in a tree of the working directory. -/
def hereConfig : Config :=
  { Config.standard with sysfsRoot := "sys", bsgRoot := "bsg", devRoot := "dev" }

/-- Two expanders whose addresses agree in the bits of the index. Both have their link to the host
at phy 0, and at phy 1 a disk, the second expander that of bay 0 and the first one that of bay 1. -/
def sharedIndex : Responder (nodes Unit) Unit := fun q _ =>
  (match q with
    | .open .. => .ok ()
    | .on node (.smp _ request _) =>
      let second := node.path = "bsg/expander-0:1"
      let address := if second then 0x5000c5000000013f else 0x5000c5000000003f
      let response :=
        match request.u8At 9 with
        | 0 => phyFrame 0 8 address 0x500605b000000100 0xff
        | 1 => phyFrame 1 0 address 0 (if second then 0 else 1)
        | _ => [Smp.responseType, Smp.Function.discover.code, 0x10, 0]
      .ok ⟨response, none, 0⟩
    | .on _ (.command ..) => .error (.noOrdinal "")
    | .on _ (.trace ..) => (), ())

/-- A tree with files in the directory of the nodes. -/
def nodeFiles (names : List String) : Files.Tree :=
  ⟨[("bsg", .directory (names.map fun name => (name, .file [])))]⟩

theorem list_nodeFiles (names : List String) :
    (nodeFiles names).list "bsg" = .ok (names.map fun name => ⟨name, .other⟩) := by
  have hr : (nodeFiles names).top.reach (Files.Path.parts "bsg") =
      some (.ok (.directory (names.map fun name => (name, .file [])))) := rfl
  rw [Files.Tree.list_of_reach (by decide +kernel) hr, List.map_map]
  rfl

/-- Nodes that stand in order are listed as they stand. -/
theorem listNodes_nodeFiles (kind : Kind) (names : List String)
    (hd : hereConfig.nodesRoot kind = "bsg") (hn : ∀ name ∈ names, kind.names ⟨name, .other⟩)
    (hs : kind.sort (names.map fun name => ⟨name, .other⟩) = names.map fun name => ⟨name, .other⟩) :
    listNodes (nodeFiles names) hereConfig kind = (names.map (Files.Path.join "bsg"), []) := by
  have hf : (names.map fun name => (⟨name, .other⟩ : Files.Entry)).filter kind.names =
      names.map fun name => ⟨name, .other⟩ := by
    refine List.filter_eq_self.2 fun e he => ?_
    obtain ⟨name, hm, rfl⟩ := List.mem_map.1 he
    exact hn name hm
  have hl := list_nodeFiles names
  rw [← hd] at hl
  rw [listNodes_of_list hl, hf, hs, List.map_map, hd]
  rfl

theorem listNodes_twoNodes :
    listNodes twoNodes hereConfig .bsg = (["bsg/expander-0:0", "bsg/expander-0:1"], []) :=
  listNodes_nodeFiles .bsg ["expander-0:0", "expander-0:1"] rfl (by decide +kernel)
    (List.mergeSort_of_pairwise (by decide +kernel))

theorem visitExpanders_twoNodes (s : Survey) :
    (visitExpanders twoNodes hereConfig s : Pass σ _) =
      visitAll [⟨"bsg/expander-0:0", .bsg, 0⟩, ⟨"bsg/expander-0:1", .bsg, 0⟩] (s.note []) := by
  rw [visitExpanders_eq, listNodes_twoNodes]
  rfl

/-- The disk of bay 0 was heard over the second node, and is switched through the first one, where
its phy has the disk of bay 1. -/
theorem not_switched_where_heard :
    let pass : Pass Unit Survey := visitExpanders twoNodes hereConfig (.start (.empty .standard))
    ¬ SwitchesWhereHeard Unit (pass.run sharedIndex ()).1.topology
      (reports (pass.transcript sharedIndex ())) true 0 := by
  intro pass h
  have hp : pass = visitAll [⟨"bsg/expander-0:0", .bsg, 0⟩, ⟨"bsg/expander-0:1", .bsg, 0⟩]
      (.start (.empty .standard)) := visitExpanders_twoNodes _
  rw [hp, topology_visitAll] at h
  have hf : (firstLink? 0 (reports (pass.transcript sharedIndex ()))).map (·.path) =
      some "bsg/expander-0:0" := by
    rw [hp]
    decide +kernel
  have hl : (lastReport? .standard 0 (reports (pass.transcript sharedIndex ()))).map (·.path) =
      some "bsg/expander-0:1" := by
    rw [hp]
    decide +kernel
  rw [hp] at hf hl
  obtain ⟨first, hf, hfp⟩ := Option.map_eq_some_iff.1 hf
  obtain ⟨last, hl, hlp⟩ := Option.map_eq_some_iff.1 hl
  have hs : first.path = last.path := path_eq_of_switchesWhereHeard true () h hf hl
  rw [hfp, hlp] at hs
  exact absurd hs (by decide)

end BayMap.Topology
