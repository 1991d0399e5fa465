import BayMap.Proofs.SlotHistory
import BayMap.Proofs.SlotOutcomes
import BayMap.Topology.Table

/-!
# The rows of a slot table

A slot table as text has a row for each used slot, one for each expander that has such a slot or a
known address, and a last one with the counts. The rows of the expanders come in their order, each
with the rows of its used slots below it, and these in theirs. All of this is one order on rows
(`TableRow.Before`), in which the rows of a table are sorted.

* `tableLines_eq`: the lines of a table are the texts of its rows, in any style.
* `mem_rows_slot`, `mem_rows_expander`: which rows a table has.
* `pairwise_rows`: the rows are in order.
* `getLast?_expanders`: the expander above a slot.
* `occupied_of_begun`, `occupied_of_passes`: the count of the last row.
* `table_shows_used_slots_once`: the tables that passes reach.
-/

namespace BayMap.Topology

/-- A row of a slot table. -/
inductive TableRow where
  /-- The row of an expander. -/
  | expander (index : Nat)
  /-- The row of a slot. -/
  | slot (index : Nat)
  /-- The last row, with the number of occupied slots. -/
  | count (occupied : Nat)

namespace TableRow

/-- The line that shows a row. -/
def text (t : Topology) (style : LabelStyle) : TableRow → String
  | .expander index => expanderLine (t.expanders.getD index) index
  | .slot index => slotLine style (t.slots.getD index) index
  | .count occupied =>
    "occupied " ++ Text.decimal occupied ++ "/" ++ Text.decimal t.slots.size ++
      ", expanders " ++ Text.decimal t.expanders.registered

/-- The expander whose row it is. -/
def expander? : TableRow → Option Nat
  | .expander index => some index
  | _ => none

/-- The slot whose row it is. -/
def slot? : TableRow → Option Nat
  | .slot index => some index
  | _ => none

/-- A row comes before another: an expander before its slots and before those of later expanders, and
the counts after all others. -/
def Before (l : Layout) : TableRow → TableRow → Prop
  | .expander e, .expander f => e < f
  | .expander e, .slot i => e ≤ l.expanderOf i
  | .slot i, .expander e => l.expanderOf i < e
  | .slot i, .slot j => i < j
  | .count _, _ => False
  | _, .count _ => True

end TableRow

variable {t u : Topology} {l : Layout} {e i n : Nat} {row : TableRow}

/-! ## Rows -/

/-- The used slots of an expander. -/
def usedSlots (t : Topology) (e : Nat) : List Nat :=
  ((t.slotsOf e).filter fun (slot, _) => slot.isUsed).map (·.2)

/-- The rows of an expander and its used slots. -/
def rowsOf (t : Topology) (e : Nat) : List TableRow :=
  if t.expanders.wwid e = 0 ∧ (t.usedSlots e).isEmpty then []
  else .expander e :: (t.usedSlots e).map .slot

/-- The rows of a slot table. -/
def rows (t : Topology) : List TableRow :=
  (List.range t.expanders.size).flatMap t.rowsOf ++ [.count t.slots.occupied]

/-- The slot is in use. -/
def IsUsedSlot (t : Topology) (i : Nat) : Prop :=
  ∃ slot, t.slots.get? i = some slot ∧ (slot.isVacant = false ∨ slot.lastDiscovery.isSome)

theorem expanderOf_eq_iff (h : 0 < l.slotsPerExpander) :
    l.expanderOf i = e ↔ l.slotOf e 0 ≤ i ∧ i < l.slotOf (e + 1) 0 := by
  have hbay : l.slotOf (e + 1) 0 = l.slotOf e 0 + l.slotsPerExpander := by
    simp [Layout.slotOf, Nat.succ_mul]
  rw [hbay, Layout.expanderOf, Nat.div_eq_iff h]
  unfold Layout.slotOf
  omega

theorem mem_usedSlots (h : t.Fits) :
    i ∈ t.usedSlots e ↔ t.IsUsedSlot i ∧ t.layout.expanderOf i = e := by
  have hmem : i ∈ t.usedSlots e ↔ ∃ slot, (slot, i) ∈ t.slotsOf e ∧ slot.isUsed = true := by
    simp [usedSlots]
  have hused (slot : Slot) :
      slot.isUsed = true ↔ slot.isVacant = false ∨ slot.lastDiscovery.isSome := by
    simp [Slot.isUsed]
  rw [hmem]
  constructor
  · rintro ⟨slot, hslot, hu⟩
    obtain ⟨hs, hrange⟩ := mem_slotsOf.1 hslot
    exact ⟨⟨slot, hs, (hused slot).1 hu⟩,
      (expanderOf_eq_iff (h.exists_expander hs).1).2 hrange⟩
  · rintro ⟨⟨slot, hs, hu⟩, he⟩
    exact ⟨slot, mem_slotsOf.2 ⟨hs, (expanderOf_eq_iff (h.exists_expander hs).1).1 he⟩,
      (hused slot).2 hu⟩

theorem pairwise_usedSlots (t : Topology) (e : Nat) : (t.usedSlots e).Pairwise (· < ·) := by
  have hsub : (t.usedSlots e).Sublist ((t.slotsOf e).map (·.2)) := List.filter_sublist.map _
  refine List.Pairwise.sublist hsub ?_
  rw [slotsOf, List.zipIdx_map_snd]
  exact List.pairwise_lt_range' 1

/-! ## Lines -/

theorem wwid_of_get? {x : Expander} (hx : t.expanders.get? e = some x) :
    t.expanders.wwid e = x.wwid := by
  rw [ExpanderTable.wwid, hx]
  rfl

theorem expanderLines_eq (style : LabelStyle) {x : Expander} (hx : t.expanders.get? e = some x) :
    t.expanderLines style x e = (t.rowsOf e).map (·.text t style) := by
  have hexpander : t.expanders.getD e = x := by rw [ExpanderTable.getD, hx]; rfl
  rw [expanderLines, rowsOf, usedSlots, List.isEmpty_map, wwid_of_get? hx]
  split
  · rfl
  · rw [List.map_cons, List.map_map, List.map_map, TableRow.text, hexpander]
    congr 1
    refine List.map_congr_left fun pair hmem => ?_
    obtain ⟨slot, i⟩ := pair
    have hs : t.slots.get? i = some slot := (mem_slotsOf.1 (List.mem_of_mem_filter hmem)).1
    show slotLine style slot i = slotLine style (t.slots.getD i) i
    rw [SlotTable.getD, hs, Option.getD_some]

theorem tableLines_eq (t : Topology) (style : LabelStyle) :
    t.tableLines style = t.rows.map (·.text t style) := by
  have hindices : List.range t.expanders.size = t.expanders.entries.toList.zipIdx.map (·.2) := by
    rw [List.zipIdx_map_snd, List.range_eq_range']
    rfl
  rw [tableLines, rows, List.map_append, List.map_flatMap, hindices, List.flatMap_map]
  congr 1
  refine List.flatMap_congr fun pair hpair => ?_
  obtain ⟨x, e⟩ := pair
  have hx : t.expanders.get? e = some x := by
    rw [ExpanderTable.get?, ← Array.getElem?_toList]
    exact List.mem_zipIdx_iff_getElem?.1 hpair
  exact expanderLines_eq style hx

/-! ## Which rows there are -/

theorem mem_rowsOf_slot : .slot i ∈ t.rowsOf e ↔ i ∈ t.usedSlots e := by
  unfold rowsOf
  split
  · rename_i h
    simp [List.isEmpty_iff.1 h.2]
  · simp

theorem mem_rowsOf_expander {f : Nat} :
    .expander f ∈ t.rowsOf e ↔ f = e ∧ (t.expanders.wwid e ≠ 0 ∨ ∃ i, i ∈ t.usedSlots e) := by
  have hused : (∃ i, i ∈ t.usedSlots e) ↔ ¬ (t.usedSlots e).isEmpty := by
    rw [List.isEmpty_iff, List.eq_nil_iff_forall_not_mem, not_forall_not]
  rw [hused, ← not_and_or, rowsOf]
  split
  · rename_i h
    simp [h]
  · rename_i h
    simp only [h, not_false_eq_true, and_true, List.mem_cons, TableRow.expander.injEq,
      List.mem_map, reduceCtorEq, and_false, exists_false, or_false]

theorem not_mem_rowsOf_count : .count n ∉ t.rowsOf e := by
  unfold rowsOf
  split <;> simp

theorem mem_rows : row ∈ t.rows ↔
    (∃ e x, t.expanders.get? e = some x ∧ row ∈ t.rowsOf e) ∨ row = .count t.slots.occupied := by
  have hentry (e : Nat) : e < t.expanders.size ↔ ∃ x, t.expanders.get? e = some x := by
    rw [← ExpanderTable.get?_isSome_iff, Option.isSome_iff_exists]
  simp only [rows, List.mem_append, List.mem_flatMap, List.mem_range, List.mem_singleton, hentry,
    exists_and_right]

theorem mem_rows_slot (h : t.Fits) : .slot i ∈ t.rows ↔ t.IsUsedSlot i := by
  simp only [mem_rows, mem_rowsOf_slot, mem_usedSlots h, reduceCtorEq, or_false]
  constructor
  · rintro ⟨-, -, -, hi, -⟩
    exact hi
  · intro hi
    obtain ⟨slot, hs, -⟩ := id hi
    obtain ⟨-, x, hx⟩ := h.exists_expander hs
    exact ⟨_, x, hx, hi, rfl⟩

theorem mem_rows_expander (h : t.Fits) :
    .expander e ∈ t.rows ↔ ∃ x, t.expanders.get? e = some x ∧
      (x.wwid ≠ 0 ∨ ∃ i, t.IsUsedSlot i ∧ t.layout.expanderOf i = e) := by
  simp only [mem_rows, mem_rowsOf_expander, mem_usedSlots h, reduceCtorEq, or_false]
  constructor
  · rintro ⟨f, x, hx, rfl, hshown⟩
    rw [wwid_of_get? hx] at hshown
    exact ⟨x, hx, hshown⟩
  · rintro ⟨x, hx, hshown⟩
    rw [← wwid_of_get? hx] at hshown
    exact ⟨e, x, hx, rfl, hshown⟩

/-! ## Their order -/

theorem pairwise_rowsOf (h : t.Fits) (e : Nat) :
    (t.rowsOf e).Pairwise (TableRow.Before t.layout) := by
  unfold rowsOf
  split
  · exact .nil
  · refine .cons (fun row hrow => ?_) ?_
    · obtain ⟨i, hi, rfl⟩ := List.mem_map.1 hrow
      exact ((mem_usedSlots h).1 hi).2.ge
    · exact List.pairwise_map.2 (pairwise_usedSlots t e)

/-- The rows of an expander come before those of a later one. -/
theorem before_of_mem_rowsOf (h : t.Fits) {f : Nat} (hef : e < f) {a b : TableRow}
    (ha : a ∈ t.rowsOf e) (hb : b ∈ t.rowsOf f) : a.Before t.layout b := by
  have hslot {e i : Nat} (hi : .slot i ∈ t.rowsOf e) : t.layout.expanderOf i = e :=
    ((mem_usedSlots h).1 (mem_rowsOf_slot.1 hi)).2
  cases a with
  | count n => exact absurd ha not_mem_rowsOf_count
  | expander a =>
    obtain ⟨rfl, -⟩ := mem_rowsOf_expander.1 ha
    cases b with
    | count n => trivial
    | expander b =>
      obtain ⟨rfl, -⟩ := mem_rowsOf_expander.1 hb
      exact hef
    | slot j =>
      show a ≤ t.layout.expanderOf j
      rw [hslot hb]
      exact hef.le
  | slot i =>
    cases b with
    | count n => trivial
    | expander b =>
      obtain ⟨rfl, -⟩ := mem_rowsOf_expander.1 hb
      show t.layout.expanderOf i < b
      rwa [hslot ha]
    | slot j =>
      -- a slot with a number that is not smaller belongs to no smaller expander
      refine Nat.lt_of_not_le fun hji => ?_
      have hle : t.layout.expanderOf j ≤ t.layout.expanderOf i := Nat.div_le_div_right hji
      rw [hslot ha, hslot hb] at hle
      omega

theorem pairwise_rows (h : t.Fits) : t.rows.Pairwise (TableRow.Before t.layout) := by
  refine List.pairwise_append.2 ⟨List.pairwise_flatMap.2 ⟨fun e _ => pairwise_rowsOf h e, ?_⟩,
    List.pairwise_singleton .., fun a ha b hb => ?_⟩
  · exact List.pairwise_lt_range.imp fun hef a ha b hb => before_of_mem_rowsOf h hef ha hb
  · obtain ⟨e, -, ha⟩ := List.mem_flatMap.1 ha
    rw [List.mem_singleton.1 hb]
    cases a with
    | count n => exact absurd ha not_mem_rowsOf_count
    | expander | slot => trivial

theorem not_before_self (l : Layout) (a : TableRow) : ¬ a.Before l a := by
  cases a with
  | count n => exact id
  | expander | slot => exact Nat.lt_irrefl _

theorem nodup_rows (h : t.Fits) : t.rows.Nodup := by
  refine (pairwise_rows h).imp fun {a b} hab => ?_
  rintro rfl
  exact not_before_self _ _ hab

section Sorted

variable {list : List TableRow} (h : list.Pairwise (TableRow.Before l))

include h

theorem pairwise_slots : (list.filterMap TableRow.slot?).Pairwise (· < ·) := by
  refine h.filterMap _ fun a b hab i hi j hj => ?_
  cases a <;> cases hi
  cases b <;> cases hj
  exact hab

theorem pairwise_expanders : (list.filterMap TableRow.expander?).Pairwise (· < ·) := by
  refine h.filterMap _ fun a b hab e he f hf => ?_
  cases a <;> cases he
  cases b <;> cases hf
  exact hab

end Sorted

/-- Of a sorted list that has its bound, the bound is the last. -/
theorem getLast?_of_bound {list : List Nat} (hsorted : list.Pairwise (· < ·)) (hmem : n ∈ list)
    (hle : ∀ m ∈ list, m ≤ n) : list.getLast? = some n := by
  obtain ⟨init, last, rfl⟩ := (List.eq_nil_or_concat' list).resolve_left (List.ne_nil_of_mem hmem)
  obtain ⟨-, -, hinit⟩ := List.pairwise_append.1 hsorted
  have hlast : last ≤ n := hle last (by simp)
  rw [List.getLast?_concat]
  obtain hmem | hmem := List.mem_append.1 hmem
  · have hlt : n < last := hinit n hmem last List.mem_cons_self
    omega
  · rw [List.mem_singleton.1 hmem]

/-- The last expander with a row above that of a slot is its own. -/
theorem getLast?_expanders (h : t.Fits) {before after : List TableRow}
    (hrows : t.rows = before ++ .slot i :: after) :
    (before.filterMap TableRow.expander?).getLast? = some (t.layout.expanderOf i) := by
  have hused : t.IsUsedSlot i := (mem_rows_slot h).1 (by simp [hrows])
  obtain ⟨slot, hs, -⟩ := id hused
  obtain ⟨-, x, hx⟩ := h.exists_expander hs
  have hmem : .expander (t.layout.expanderOf i) ∈ t.rows :=
    (mem_rows_expander h).2 ⟨x, hx, .inr ⟨i, hused, rfl⟩⟩
  have hsorted := pairwise_rows h
  rw [hrows] at hmem hsorted
  obtain ⟨hbefore, hafter, hover⟩ := List.pairwise_append.1 hsorted
  have habove : .expander (t.layout.expanderOf i) ∈ before := by
    obtain hmem | hmem := List.mem_append.1 hmem
    · exact hmem
    · have hmem := (List.mem_cons.1 hmem).resolve_left nofun
      exact absurd (List.rel_of_pairwise_cons hafter hmem) (Nat.lt_irrefl _)
  refine getLast?_of_bound (pairwise_expanders hbefore)
    (List.mem_filterMap.2 ⟨_, habove, rfl⟩) fun e he => ?_
  obtain ⟨a, ha, he⟩ := List.mem_filterMap.1 he
  cases a <;> cases he
  exact hover _ ha _ List.mem_cons_self

/-! ## The count -/

/-- The slots that are not vacant. -/
theorem holding_eq_countP (table : SlotTable) :
    table.holding (fun _ => true) = table.slots.toList.countP (!·.isVacant) := by
  refine List.countP_congr fun slot _ => ?_
  simp [Slot.isVacant]

theorem occupied_of_begun (h : Begun t) : t.slots.occupied = t.slots.holding fun _ => true := by
  cases h with
  | empty layout => exact (holding_empty _ layout).symm
  | scanned tree config =>
    rw [topology_scan]
    exact occupied_ofSightings _ _

theorem occupied_of_passes (h : Passes t u)
    (ht : t.slots.occupied = t.slots.holding fun _ => true) :
    u.slots.occupied = u.slots.holding fun _ => true := by
  have hkept : t.KeepsScan u := keepsScan_of_passes h
  rw [hkept.occupied, ht, SlotTable.holding_congr _ hkept.disk]

/-! ## Tables -/

/-- In every topology that passes reach and every style, the table has one row for each slot that
holds a device or of which a record is kept, in the order of the slots; one for each expander that
has such a slot or an address; and a last one with the number of slots that are not vacant. The last
expander above a slot is the one it belongs to. -/
theorem table_shows_used_slots_once (ht : Begun t) (hp : Passes t u) :
    ∃ rows : List TableRow,
      (∀ style, u.table style = "\n".intercalate (rows.map (·.text u style))) ∧
      rows.Nodup ∧
      (∀ i, .slot i ∈ rows ↔ ∃ slot, u.slots.get? i = some slot ∧
        (slot.isVacant = false ∨ slot.lastDiscovery.isSome)) ∧
      (rows.filterMap TableRow.slot?).Pairwise (· < ·) ∧
      (∀ before i after, rows = before ++ .slot i :: after →
        (before.filterMap TableRow.expander?).getLast? = some (i / u.layout.slotsPerExpander)) ∧
      (∀ e, .expander e ∈ rows ↔ ∃ x, u.expanders.get? e = some x ∧
        (x.wwid ≠ 0 ∨ ∃ i, .slot i ∈ rows ∧ i / u.layout.slotsPerExpander = e)) ∧
      ∃ body, rows = body ++ [.count (u.slots.slots.toList.countP (!·.isVacant))] ∧
        ∀ n, .count n ∉ body := by
  have hu : u.Fits := fits_of_passes hp (fits_of_begun ht)
  have hcount : u.slots.occupied = u.slots.slots.toList.countP (!·.isVacant) := by
    rw [occupied_of_passes hp (occupied_of_begun ht), holding_eq_countP]
  refine ⟨u.rows, fun style => ?_, nodup_rows hu, fun i => mem_rows_slot hu,
    pairwise_slots (pairwise_rows hu),
    fun before i after hrows => getLast?_expanders hu hrows, fun e => ?_,
    (List.range u.expanders.size).flatMap u.rowsOf, ?_, fun n hn => ?_⟩
  · rw [table, tableLines_eq]
  · simp only [mem_rows_slot hu]
    exact mem_rows_expander hu
  · rw [rows, hcount]
  · obtain ⟨e, -, hn⟩ := List.mem_flatMap.1 hn
    exact not_mem_rowsOf_count hn

/-- Of two expanders with one index, two slots are told of. They have rows, and the next one has
none. -/
theorem table_shows_used_slots_once_twoNodes :
    let t := Topology.empty .standard
    let u := ((visitExpanders twoNodes hereConfig (.start t)).run sharedIndex ()).1.topology
    Begun t ∧ Passes t u ∧ ∃ rows : List TableRow,
      (∀ style, u.table style = "\n".intercalate (rows.map (·.text u style))) ∧
      .slot 0 ∈ rows ∧ .slot 1 ∈ rows ∧ .slot 2 ∉ rows ∧ .expander 0 ∈ rows := by
  intro t u
  have ht : Begun t := .empty .standard
  have hp : Passes t u := .single (.expanders twoNodes hereConfig t sharedIndex ())
  obtain ⟨rows, htable, -, hslot, -, -, hexpander, -⟩ := table_shows_used_slots_once ht hp
  have hused : [0, 1, 2].map (fun i => (u.slots.get? i).map Slot.isUsed) =
      [some true, some true, some false] := by
    show [0, 1, 2].map (fun i => ((((visitExpanders twoNodes hereConfig (.start t)).run sharedIndex
      ()).1.topology).slots.get? i).map _) = _
    rw [visitExpanders_twoNodes]
    decide +kernel
  simp only [List.map_cons, List.map_nil, List.cons.injEq, Option.map_eq_some_iff, Slot.isUsed,
    Bool.or_eq_true, Bool.or_eq_false_iff, Bool.not_eq_true', and_true] at hused
  obtain ⟨⟨first, hfirst, hu0⟩, ⟨second, hsecond, hu1⟩, third, hthird, hfull, hrecord⟩ := hused
  have h0 : .slot 0 ∈ rows := (hslot 0).2 ⟨first, hfirst, hu0⟩
  obtain ⟨-, x, hx⟩ := (fits_of_passes hp (fits_of_begun ht)).exists_expander hfirst
  rw [Layout.expanderOf, Nat.zero_div] at hx
  refine ⟨ht, hp, rows, htable, h0, (hslot 1).2 ⟨second, hsecond, hu1⟩, fun h2 => ?_,
    (hexpander 0).2 ⟨x, hx, .inr ⟨0, h0, Nat.zero_div _⟩⟩⟩
  obtain ⟨slot, hs, hu⟩ := (hslot 2).1 h2
  obtain rfl := Option.some.inj (hs.symm.trans hthird)
  rcases hu with hu | hu
  · simp [hu] at hfull
  · simp [hu] at hrecord

end BayMap.Topology
