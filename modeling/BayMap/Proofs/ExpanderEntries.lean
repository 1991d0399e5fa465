import BayMap.Proofs.PassFrames
import BayMap.Proofs.SwitchedNode
import BayMap.Topology.Scan
import Mathlib.Logic.Relation

/-!
# Expanders in reachable topologies

Scans, inventories and visits write to the same expanders, each of them other fields. What holds of
an expander whoever wrote last is `Expander.Sound`, and `Topology.Continues` says of a pass that it
keeps this and every link to a host.

* `continues_take`, `continues_bindExpander`: what the two writers of bindings keep.
* `sound_scan`: a scan only registers expanders where they belong.
* `continues_of_passStep`: what a pass keeps, whatever the nodes answer.
* `reached_expanders_sound`: what holds of every expander in every topology that passes reach.
-/

namespace BayMap.Topology

open Smp (PhyRecord)
open Transport (Kind Conversation)

variable {σ ρ α : Type}

/-- What holds of the expander at an index. -/
structure Expander.Sound (index : Nat) (e : Expander) : Prop where
  /-- A known address holds the index. -/
  wwid : e.wwid = 0 ∨ expanderIndex e.wwid = index
  /-- A binding to the node of an expander has no controller number, one to the node of a controller
  has the number that the path ends in. -/
  binding : ∀ b, e.binding = some b →
    (b.kind = .bsg ∧ b.ordinal = none) ∨
      (b.kind = .mpi3mr ∧ b.ordinal.isSome ∧ Transport.ordinalOf b.path = b.ordinal)
  /-- An expander with a link to a host is bound. -/
  bound : ∀ link, e.hostLink = some link → e.binding.isSome
  /-- A link to a host is what a phy of the expander told of it. -/
  link : ∀ link, e.hostLink = some link →
    link.initiator ≠ 0 ∧ 59 < link.record.responseLength ∧
      (∃ a, link.record.attached = some a ∧ a.isInitiator ∧
        a.deviceName = some link.initiator) ∧
      expanderIndex link.record.expanderAddress = index

/-- The expanders of a topology are sound. -/
def Sound (t : Topology) : Prop := ∀ i e, t.expanders.get? i = some e → e.Sound i

/-- The expanders of a topology go on in another: those that are sound stay so, and no link to a
host is lost or replaced. -/
def Continues (t u : Topology) : Prop :=
  ∀ i, ∃ f : Expander → Expander, u.expanders.get? i = (t.expanders.get? i).map f ∧
    ∀ e, (e.Sound i → (f e).Sound i) ∧ (e.hostLink.isSome → (f e).hostLink = e.hostLink)

namespace Continues

theorem of_expanders_eq {t u : Topology} (h : u.expanders = t.expanders) : t.Continues u :=
  fun i => ⟨id, by rw [h, Option.map_id_fun, id], fun _ => ⟨id, fun _ => rfl⟩⟩

theorem refl (t : Topology) : t.Continues t := of_expanders_eq rfl

theorem trans {t u w : Topology} (h : t.Continues u) (h' : u.Continues w) : t.Continues w := by
  intro i
  obtain ⟨f, hf, hk⟩ := h i
  obtain ⟨g, hg, hk'⟩ := h' i
  refine ⟨g ∘ f, by rw [hg, hf, Option.map_map], fun e => ⟨fun hs => (hk' _).1 ((hk e).1 hs), ?_⟩⟩
  intro hl
  have hf := (hk e).2 hl
  rw [Function.comp_apply, (hk' (f e)).2 (by rw [hf]; exact hl), hf]

theorem sound {t u : Topology} (h : t.Continues u) (hs : t.Sound) : u.Sound := by
  intro i e he
  obtain ⟨f, hf, hk⟩ := h i
  rw [hf] at he
  obtain ⟨e', he', rfl⟩ := Option.map_eq_some_iff.1 he
  exact (hk e').1 (hs i e' he')

theorem hostLink {t u : Topology} (h : t.Continues u) {i : Nat} {e : Expander}
    (he : t.expanders.get? i = some e) (hl : e.hostLink.isSome) :
    ∃ e', u.expanders.get? i = some e' ∧ e'.hostLink = e.hostLink := by
  obtain ⟨f, hf, hk⟩ := h i
  exact ⟨f e, by rw [hf, he, Option.map_some], (hk e).2 hl⟩

instance : IsPreorder Topology Continues where
  refl := refl
  trans _ _ _ := trans

end Continues

/-! ## Reports -/

theorem withWwid_wwid {index : Nat} {address : UInt64} (ha : expanderIndex address = index)
    {e : Expander} (hs : e.Sound index) :
    (e.withWwid address).wwid = 0 ∨ expanderIndex (e.withWwid address).wwid = index := by
  unfold Expander.withWwid
  split
  · exact .inr ha
  · exact hs.wwid

theorem of_hostName {record : PhyRecord} {name : UInt64} (h : record.hostName? = some name) :
    name ≠ 0 ∧ ∃ a, record.attached = some a ∧ a.isInitiator ∧ a.deviceName = some name := by
  obtain ⟨hi, hf⟩ := Option.ite_none_right_eq_some.1 h
  obtain ⟨hb, h0⟩ := Option.filter_eq_some_iff.1 hf
  obtain ⟨a, ha, hd⟩ := Option.bind_eq_some_iff.1 hb
  rw [PhyRecord.atInitiator, ha] at hi
  exact ⟨of_decide_eq_true h0, a, ha, hi, hd⟩

/-- The record of a phy that is attached to a host is long enough for the name of the host. -/
theorem long_of_hostName {phy : UInt8} {response : Bytes} {name : UInt64}
    (h : (PhyRecord.decode phy response false).hostName? = some name) :
    59 < (PhyRecord.decode phy response false).responseLength := by
  obtain ⟨-, a, ha, -, hd⟩ := of_hostName h
  obtain ⟨-, ha⟩ := Option.ite_none_right_eq_some.1 ha
  obtain rfl := Option.some.inj ha
  exact (Option.ite_none_right_eq_some.1 hd).1

/-- A report that the node of an expander brings, or that of a controller with a number. -/
def Report.Numbered (x : Report) : Prop :=
  x.kind = .bsg ∨ x.kind = .mpi3mr ∧ (Transport.ordinalOf x.path).isSome

theorem sound_linked {index : Nat} {e : Expander} (hs : e.Sound index) {x : Report}
    (hk : x.Numbered) (hd : ∃ phy response, x.record = PhyRecord.decode phy response false)
    {name : UInt64} (hn : x.hostAt? index = some name) :
    (e.linked x.path x.kind name x.record).Sound index := by
  obtain ⟨hi, hname⟩ := Option.ite_none_right_eq_some.1 hn
  refine ⟨withWwid_wwid hi hs, ?_, fun _ _ => rfl, ?_⟩
  · rintro b ⟨⟩
    obtain hk | ⟨hk, ho⟩ := hk
    · rw [hk]
      exact .inl ⟨rfl, rfl⟩
    · rw [hk]
      exact .inr ⟨rfl, ho, rfl⟩
  · rintro link ⟨⟩
    obtain ⟨h0, ha⟩ := of_hostName hname
    refine ⟨h0, ?_, ha, hi⟩
    obtain ⟨phy, response, hr⟩ := hd
    show 59 < x.record.responseLength
    rw [hr] at hname ⊢
    exact long_of_hostName hname

theorem sound_takeLink {index : Nat} {e : Expander} (hs : e.Sound index) {x : Report}
    (hk : x.Numbered) (hd : ∃ phy response, x.record = PhyRecord.decode phy response false) :
    (e.takeLink index x).Sound index := by
  unfold Expander.takeLink
  split
  · exact hs
  · rename_i name hn
    split
    · exact hs
    · exact sound_linked hs hk hd hn

theorem continues_take (t : Topology) {x : Report} (hk : x.Numbered)
    (hd : ∃ phy response, x.record = PhyRecord.decode phy response false) :
    t.Continues (t.take x) :=
  fun i => ⟨(·.takeLink i x), get?_expanders_take t x i, fun _ =>
    ⟨fun hs => sound_takeLink hs hk hd, fun hl => congrArg _ (takeLink_of_linked x hl)⟩⟩

/-- Visits keep what holds of expanders if the nodes of controllers that they go to have numbers. -/
theorem continues_visitAll {visits : List Visit}
    (hv : ∀ v ∈ visits, v.kind = .bsg ∨ v.kind = .mpi3mr ∧ (Transport.ordinalOf v.path).isSome)
    (s : Survey) (r : Responder (nodes σ) ρ) (st : ρ) :
    s.topology.Continues ((visitAll visits s).run r st).1.topology := by
  apply keeps_visitAll
  intro t x hx
  obtain ⟨v, hm, hp, hk⟩ := visit_of_mem_reports hx
  have hn : x.Numbered := by
    rw [Report.Numbered, hp, hk]
    exact hv v hm
  exact continues_take t hn (decoded_of_mem_reports hx)

/-! ## Inventories -/

/-- An expander once it is bound to the controller that reports it. -/
def Expander.boundTo (path : String) (ordinal : UInt8) (address : UInt64) (e : Expander) :
    Expander :=
  { e.withWwid address with binding := some ⟨path, .mpi3mr, some ordinal⟩ }

theorem hostLink_boundTo (path : String) (ordinal : UInt8) (address : UInt64) (e : Expander) :
    (e.boundTo path ordinal address).hostLink = e.hostLink :=
  e.hostLink_withWwid address

theorem sound_boundTo {index : Nat} {address : UInt64} (ha : expanderIndex address = index)
    {path : String} {ordinal : UInt8} (ho : Transport.ordinalOf path = some ordinal) {e : Expander}
    (hs : e.Sound index) : (e.boundTo path ordinal address).Sound index := by
  refine ⟨withWwid_wwid ha hs, ?_, fun _ _ => rfl, fun link h => hs.link link ?_⟩
  · rintro b ⟨⟩
    exact .inr ⟨rfl, rfl, ho⟩
  · rw [← h, hostLink_boundTo]

theorem continues_change? {t : Topology} {u : ExpanderTable} {index : Nat}
    {f : Expander → Expander} (h : t.expanders.change? index f = some u)
    (hf : ∀ e, (e.Sound index → (f e).Sound index) ∧
      (e.hostLink.isSome → (f e).hostLink = e.hostLink)) :
    t.Continues { t with expanders := u } := by
  intro i
  have hu := ExpanderTable.get?_change? h i
  by_cases hi : i = index
  · subst hi
    exact ⟨f, by rw [hu, if_pos rfl], hf⟩
  · exact ⟨id, by rw [hu, if_neg hi, Option.map_id_fun, id], fun _ => ⟨id, fun _ => rfl⟩⟩

theorem bindExpander_eq (path : String) (ordinal : UInt8) (s : Survey) (e : ExpanderEntry) :
    s.bindExpander path ordinal e =
      match s.topology.expanders.change? (expanderIndex e.sasAddress)
          (Expander.boundTo path ordinal e.sasAddress) with
      | some expanders => { s with topology := { s.topology with expanders } }
      | none => s.note [.unregistered path (expanderIndex e.sasAddress)] :=
  rfl

theorem continues_bindExpander {path : String} {ordinal : UInt8}
    (ho : Transport.ordinalOf path = some ordinal) (s : Survey) (e : ExpanderEntry) :
    s.topology.Continues (s.bindExpander path ordinal e).topology := by
  rw [bindExpander_eq]
  cases hu : s.topology.expanders.change? (expanderIndex e.sasAddress)
      (Expander.boundTo path ordinal e.sasAddress) with
  | none => exact .refl _
  | some u =>
    exact continues_change? hu fun entry =>
      ⟨sound_boundTo rfl ho, fun _ => hostLink_boundTo path ordinal e.sasAddress entry⟩

theorem continues_takeInventory (t : Files.Tree) (config : Config) (s : Survey)
    (r : Responder (nodes σ) ρ) (st : ρ) :
    s.topology.Continues ((takeInventory t config s).run r st).1.2.topology :=
  keeps_takeInventory (fun _ _ ho => continues_bindExpander ho) t config s r st

/-- A visit behind a controller goes to an expander that is bound to the node of the controller. -/
theorem exists_of_mem_bound {t : ExpanderTable} {v : Visit} (hv : v ∈ boundToControllers t) :
    ∃ i e b, t.get? i = some e ∧ e.binding = some b ∧ b.kind = .mpi3mr ∧
      v = ⟨b.path, .mpi3mr, e.wwid⟩ := by
  obtain ⟨e, he, h⟩ := List.mem_filterMap.1 hv
  obtain ⟨i, hi⟩ := List.mem_iff_getElem?.1 he
  have hg : t.get? i = some e := by
    rw [ExpanderTable.get?, ← Array.getElem?_toList, hi]
  rcases hb : e.binding with _ | b
  · rw [hb] at h
    cases h
  · simp only [hb] at h
    obtain ⟨hk, h⟩ := Option.ite_none_right_eq_some.1 h
    exact ⟨i, e, b, hg, hb, hk, (Option.some.inj h).symm⟩

theorem numbered_of_mem_bound {t : Topology} (hs : t.Sound) {v : Visit}
    (hv : v ∈ boundToControllers t.expanders) :
    v.kind = .mpi3mr ∧ (Transport.ordinalOf v.path).isSome := by
  obtain ⟨i, e, b, hg, hb, hk, rfl⟩ := exists_of_mem_bound hv
  rcases (hs i e hg).binding b hb with ⟨hk', -⟩ | ⟨-, ho, hp⟩
  · cases hk.symm.trans hk'
  · refine ⟨rfl, ?_⟩
    rw [hp]
    exact ho

theorem continues_visitThroughControllers (t : Files.Tree) (config : Config) (s : Survey)
    (hs : s.topology.Sound) (r : Responder (nodes σ) ρ) (st : ρ) :
    s.topology.Continues ((visitThroughControllers t config s).run r st).1.2.topology := by
  apply keeps_visitThroughControllers (fun _ _ ho => continues_bindExpander ho) t config s r st
  intro found hfound st'
  have hnumbered (v : Visit) (hv : v ∈ boundToControllers found.topology.expanders) :=
    numbered_of_mem_bound (hfound.sound hs) hv
  exact continues_visitAll (fun v hv => .inr (hnumbered v hv)) found r st'

/-! ## Scans -/

/-- A scan registers an expander at the index that its address holds. -/
theorem continues_register (s : Survey) (deviceName : String) (wwid : UInt64)
    (enclosureId : String) :
    s.topology.Continues (s.register deviceName wwid enclosureId).topology := by
  simp only [Survey.register, ExpanderTable.register]
  split
  · rename_i registered hr
    obtain ⟨u, hu, rfl⟩ := Option.map_eq_some_iff.1 hr
    have hc : s.topology.Continues { s.topology with expanders := u } :=
      continues_change? hu fun e =>
        ⟨fun hs => ⟨.inr rfl, hs.binding, hs.bound, hs.link⟩, fun _ => rfl⟩
    -- The count of what is registered is no part of any expander.
    exact fun i => hc i
  · exact .refl _

theorem continues_step (s : Scan) (seen : Sighting) :
    s.survey.topology.Continues (s.step seen).survey.topology := by
  unfold Scan.step
  split
  · exact .refl _
  · exact .of_expanders_eq (expanders_place _ _ _)
  · exact (Continues.of_expanders_eq (expanders_drain _ _ _)).trans (continues_register _ _ _ _)
  · exact .refl _
  · exact .refl _

theorem sound_empty (layout : Layout) : (Topology.empty layout).Sound := by
  intro i e he
  rw [Topology.empty, ExpanderTable.get?_empty] at he
  obtain ⟨-, he⟩ := Option.ite_none_right_eq_some.1 he
  obtain rfl := Option.some.inj he
  exact ⟨.inl rfl, by rintro _ ⟨⟩, by rintro _ ⟨⟩, by rintro _ ⟨⟩⟩

theorem sound_ofSightings (layout : Layout) (seen : List Sighting) :
    (Scan.ofSightings layout seen).survey.topology.Sound := by
  have h : ∀ s : Scan, s.survey.topology.Sound →
      (seen.foldl Scan.step s).survey.topology.Sound := by
    induction seen with
    | nil => exact fun _ hs => hs
    | cons x rest ih => exact fun s hs => ih (s.step x) ((continues_step s x).sound hs)
  exact h _ (sound_empty layout)

theorem sound_scan (t : Files.Tree) (config : Config) : (scan t config).topology.Sound := by
  cases h : Sysfs.devices t config.devicesRoot with
  | error cause =>
    rw [scan_of_error h]
    exact sound_empty config.layout
  | ok listed =>
    rw [scan_of_devices h]
    exact sound_ofSightings config.layout _

/-! ## Reachable topologies -/

/-- A topology to start from: one of which nothing is known, or what a scan finds. -/
inductive Begun : Topology → Prop
  | empty (layout : Layout) : Begun (.empty layout)
  | scanned (t : Files.Tree) (config : Config) : Begun (scan t config).topology

/-- A pass over nodes that answer anything takes a topology to another. -/
inductive PassStep : Topology → Topology → Prop
  | expanders (t : Files.Tree) (config : Config) (before : Topology) {σ ρ : Type}
      (r : Responder (nodes σ) ρ) (st : ρ) :
      PassStep before ((visitExpanders t config (.start before)).run r st).1.topology
  | inventory (t : Files.Tree) (config : Config) (before : Topology) {σ ρ : Type}
      (r : Responder (nodes σ) ρ) (st : ρ) :
      PassStep before ((takeInventory t config (.start before)).run r st).1.2.topology
  | controllers (t : Files.Tree) (config : Config) (before : Topology) {σ ρ : Type}
      (r : Responder (nodes σ) ρ) (st : ρ) :
      PassStep before ((visitThroughControllers t config (.start before)).run r st).1.2.topology

/-- Passes, one after another. -/
abbrev Passes : Topology → Topology → Prop := Relation.ReflTransGen PassStep

/-- A preorder that each report and each binding keeps is kept by every pass. -/
theorem keeps_of_passes {R : Topology → Topology → Prop} [IsPreorder Topology R]
    (htake : ∀ (t : Topology) (x : Report), R t (t.take x))
    (hbind : ∀ path ordinal (s : Survey) (e : ExpanderEntry),
      R s.topology (s.bindExpander path ordinal e).topology)
    {t u : Topology} (h : Passes t u) : R t u := by
  have hvisit {σ ρ : Type} (visits : List Visit) (s : Survey) (r : Responder (nodes σ) ρ) (st : ρ) :
      R s.topology ((visitAll visits s).run r st).1.topology :=
    keeps_visitAll fun t x _ => htake t x
  induction h with
  | refl => exact refl_of R t
  | @tail v w _ step ih =>
    refine trans_of R ih ?_
    cases step with
    | expanders tree config _ r st =>
      rw [visitExpanders_eq]
      exact hvisit _ ((Survey.start v).note (listNodes tree config .bsg).2) r st
    | inventory tree config _ r st =>
      exact keeps_takeInventory (fun path ordinal _ => hbind path ordinal) tree config
        (.start v) r st
    | controllers tree config _ r st =>
      apply keeps_visitThroughControllers (fun path ordinal _ => hbind path ordinal) tree config
        (.start v) r st
      exact fun found _ st' => hvisit _ found r st'

theorem continues_of_passStep {t u : Topology} (h : PassStep t u) (hs : t.Sound) :
    t.Continues u := by
  cases h with
  | expanders tree config _ r st =>
    refine continues_visitAll (fun v hv => .inl ?_) (Survey.note _ _) r st
    obtain ⟨path, -, rfl⟩ := List.mem_map.1 hv
    rfl
  | inventory tree config _ r st => exact continues_takeInventory tree config (.start t) r st
  | controllers tree config _ r st =>
    exact continues_visitThroughControllers tree config (.start t) hs r st

theorem continues_of_passes {t u : Topology} (h : Passes t u) (hs : t.Sound) : t.Continues u := by
  induction h with
  | refl => exact .refl t
  | tail _ step ih => exact ih.trans (continues_of_passStep step (ih.sound hs))

theorem sound_of_begun {t : Topology} (h : Begun t) : t.Sound := by
  cases h with
  | empty layout => exact sound_empty layout
  | scanned tree config => exact sound_scan tree config

/-- What holds of every expander in every topology that passes reach, and that no pass changes a
link to a host. -/
theorem reached_expanders_sound {t u : Topology} (ht : Begun t) (hp : Passes t u) (i : Nat)
    (e : Expander) (he : u.expanders.get? i = some e) :
    (e.wwid = 0 ∨ expanderIndex e.wwid = i) ∧
    ((e.binding.map (·.path)).isSome ↔ (e.binding.map (·.kind)).isSome) ∧
    ((e.binding.bind (·.ordinal)).isSome ↔ e.binding.map (·.kind) = some .mpi3mr) ∧
    ((e.hostLink.map (·.initiator)).isSome ↔ (e.hostLink.map (·.record)).isSome) ∧
    (∀ link, e.hostLink = some link →
      link.initiator ≠ 0 ∧ e.binding.isSome ∧ 59 < link.record.responseLength ∧
      (∃ a, link.record.attached = some a ∧ a.isInitiator ∧ a.deviceName = some link.initiator) ∧
      expanderIndex link.record.expanderAddress = i ∧
      ∀ w, Passes u w → ∃ e', w.expanders.get? i = some e' ∧ e'.hostLink = some link) := by
  have hu : u.Sound := (continues_of_passes hp (sound_of_begun ht)).sound (sound_of_begun ht)
  obtain ⟨hw, hb, hbound, hlink⟩ := hu i e he
  refine ⟨hw, by simp, ?_, by simp, fun link hl => ?_⟩
  · cases hbe : e.binding with
    | none => simp
    | some b =>
      obtain ⟨hk, ho⟩ | ⟨hk, ho, -⟩ := hb b hbe
      · simp [hk, ho]
      · simp [hk, ho]
  · obtain ⟨h0, h59, ha, hi⟩ := hlink link hl
    refine ⟨h0, hbound link hl, h59, ha, hi, fun w hwp => ?_⟩
    rw [← hl]
    exact (continues_of_passes hwp hu).hostLink he (by rw [hl]; rfl)

theorem reached_expanders_sound_twoNodes :
    let t := Topology.empty .standard
    let u := ((visitExpanders twoNodes hereConfig (.start t)).run sharedIndex ()).1.topology
    Begun t ∧ Passes t u ∧ ∃ e link, u.expanders.get? 0 = some e ∧ e.hostLink = some link ∧
      expanderIndex e.wwid = 0 ∧ e.binding.isSome ∧ 59 < link.record.responseLength := by
  intro t u
  have ht : Begun t := .empty .standard
  have hp : Passes t u := .single (.expanders twoNodes hereConfig t sharedIndex ())
  have hl : ((u.expanders.get? 0).bind fun e =>
      e.hostLink.map fun link => (e.wwid, link.initiator)) =
        some (0x5000c5000000003f, 0x500605b000000100) := by
    show (((((visitExpanders twoNodes hereConfig (.start t)).run sharedIndex
      ()).1.topology).expanders.get? 0).bind _) = _
    rw [visitExpanders_twoNodes]
    decide +kernel
  obtain ⟨e, he, hl⟩ := Option.bind_eq_some_iff.1 hl
  obtain ⟨link, hl, hw⟩ := Option.map_eq_some_iff.1 hl
  obtain ⟨hi, -, -, -, hlink⟩ := reached_expanders_sound ht hp 0 e he
  obtain ⟨-, hb, hlong, -⟩ := hlink link hl
  obtain ⟨hw, -⟩ := Prod.mk.inj hw
  refine ⟨ht, hp, e, link, he, hl, hi.resolve_left ?_, hb, hlong⟩
  rw [hw]
  decide

end BayMap.Topology
