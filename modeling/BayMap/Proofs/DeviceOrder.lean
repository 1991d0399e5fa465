import BayMap.Proofs.AddressGrammar
import BayMap.Proofs.PlainPath
import Mathlib.Data.List.Nodup
import Mathlib.Data.Prod.Lex
import Mathlib.Tactic.Tauto

/-!
# The order of devices

The devices of a directory are the entries whose names may be those of devices, each as often as it
is listed. An address has no other characters than digits, signs, colons and `N`, so that no entry
with an address is taken for a host, a target or an old auxiliary device. Entries without an address
come first, as they are listed; those with an address follow by address, and as they are listed
where addresses are equal.

* `isDeviceName_of_address`: an address is the name of a device.
* `perm_named`, `pairwise_named`, `filter_named`: what is listed with an address, its order, and
  the order of equals.
* `named_eq_of_perm`: the order in which a directory is read does not matter where addresses differ.
* `devices_in_address_order`: the devices of a directory.
-/

namespace BayMap.Hctl

variable {text : List Char} {a b : Address} {c : Char}

/-- The numbers of an address, compared from left to right. -/
def Address.key (a : Address) : ℤ ×ₗ ℤ ×ₗ ℤ ×ₗ ℕ :=
  toLex (a.host.toInt, toLex (a.channel.toInt, toLex (a.target.toInt, a.lun.toNat)))

theorem Address.le_iff_key : a.le b ↔ a.key ≤ b.key := by
  have hle : a.le b ↔ (a.order b).isLE := by
    unfold le
    cases a.order b <;> simp
  rw [hle, order, key, key]
  simp only [Prod.Lex.toLex_le_toLex, Ordering.isLE_then_iff_or, compare_lt_iff_lt,
    compare_eq_iff_eq, Std.isLE_compare]

theorem Address.key_injective : Function.Injective Address.key := by
  rintro ⟨h, c, t, l⟩ ⟨h', c', t', l'⟩ heq
  simpa [key, Int32.toInt_inj, UInt64.toNat_inj] using heq

/-! ## The characters of an address -/

theorem text_of_read (h : Address.read text = .ok a) :
    ∃ host channel target lun, text = host ++ ':' :: (channel ++ ':' :: (target ++ ':' :: lun)) ∧
      ∀ part ∈ [host, channel, target, lun], ∀ c ∈ part, c.isDigit ∨ c ∈ ['+', '-', 'N'] := by
  obtain ⟨host, channel, target, lun, hparts, hhost, hchannel, htarget, hlun⟩ := read_eq_ok_iff.1 h
  refine ⟨host, channel, target, lun, ?_, ?_⟩
  · have htext : [':'].intercalate (text.splitOn ':') = text := List.intercalate_splitOn ':'
    rw [← htext, hparts]
    simp
  · simp only [List.forall_mem_cons, List.not_mem_nil, false_imp_iff, implies_true, and_true]
    exact ⟨fun c => hhost.mem, fun c => hchannel.mem, fun c => htarget.mem, fun c => hlun.mem⟩

theorem mem_of_read (h : Address.read text = .ok a) (hc : c ∈ text) :
    c.isDigit ∨ c ∈ ['+', '-', 'N', ':'] := by
  obtain ⟨host, channel, target, lun, rfl, hchars⟩ := text_of_read h
  have hpart : c = ':' ∨ ∃ part ∈ [host, channel, target, lun], c ∈ part := by
    simp only [List.mem_append, List.mem_cons] at hc
    simp only [List.exists_mem_cons_iff, List.not_mem_nil]
    tauto
  rcases hpart with rfl | ⟨part, hp, hcp⟩
  · decide
  · refine (hchars part hp c hcp).imp_right fun hsign => ?_
    exact List.mem_append_left [':'] hsign

end BayMap.Hctl

namespace BayMap.Sysfs

open Files (Tree Entry)
open Hctl (Address)

variable {listed : List Entry} {e : Entry} {a : Address}

/-- No address is taken for the name of a host, a target or an old auxiliary device. -/
theorem isDeviceName_of_address (h : address e = .ok a) : isDeviceName e.name = true := by
  have hmem : ∀ {c}, c ∈ e.name.toList → c.isDigit ∨ c ∈ ['+', '-', 'N', ':'] := Hctl.mem_of_read h
  obtain ⟨host, channel, target, lun, htext, -⟩ := Hctl.text_of_read h
  have hcolon : Text.holds [':'] e.name.toList = true := by
    rw [Text.holds_iff, htext]
    exact ⟨host, channel ++ ':' :: (target ++ ':' :: lun), by simp⟩
  -- Each of the names that are left out has a letter that no address has.
  have hholds : ∀ part c, c ∈ part → ¬ (c.isDigit ∨ c ∈ ['+', '-', 'N', ':']) →
      Text.holds part e.name.toList = false := fun part c hc hno =>
    Bool.eq_false_iff.2 fun hin => hno (hmem ((Text.holds_iff.1 hin).mem hc))
  have hprefix : ∀ part c, c ∈ part → ¬ (c.isDigit ∨ c ∈ ['+', '-', 'N', ':']) →
      List.isPrefixOf part e.name.toList = false := fun part c hc hno =>
    Bool.eq_false_iff.2 fun hin => hno (hmem ((List.isPrefixOf_iff_prefix.1 hin).mem hc))
  rw [isDeviceName, hcolon, hholds ['m', 't'] 'm' (by decide) (by decide),
    hholds ['o', 't'] 'o' (by decide) (by decide), hholds ['g', 'e', 'n'] 'g' (by decide) (by decide),
    hprefix "host".toList 'h' (by decide) (by decide),
    hprefix "target".toList 'g' (by decide) (by decide)]
  rfl

/-! ## Sorting -/

/-- The entry has an address. -/
def IsNamed (e : Entry) : Prop := (address e).toOption.isSome

instance (e : Entry) : Decidable (IsNamed e) := inferInstanceAs (Decidable (_ = true))

theorem isNamed_iff : IsNamed e ↔ ∃ a, address e = .ok a := by
  rcases h : address e with cause | a <;> simp [IsNamed, h, Except.toOption]

theorem toOption_address_iff : (address e).toOption = some a ↔ address e = .ok a := by
  rcases h : address e with cause | b <;> simp [Except.toOption]

/-- Entries with an address, each beside its address, as they are listed. -/
def addressed (listed : List Entry) : List (Address × Entry) :=
  listed.filterMap fun e => (address e).toOption.map fun a => (a, e)

/-- Entries with an address in the order of their addresses. -/
def named (listed : List Entry) : List Entry :=
  ((addressed listed).mergeSort fun a b => a.1.le b.1).map (·.2)

theorem address_of_mem_addressed (h : (a, e) ∈ addressed listed) : address e = .ok a := by
  obtain ⟨e', -, he⟩ := List.mem_filterMap.1 h
  obtain ⟨a', ha, hpair⟩ := Option.map_eq_some_iff.1 he
  cases hpair
  exact toOption_address_iff.1 ha

theorem map_addressed (listed : List Entry) :
    (addressed listed).map (·.2) = listed.filter (IsNamed ·) := by
  unfold IsNamed
  induction listed with
  | nil => rfl
  | cons e rest ih =>
    rcases h : address e with cause | a <;> simpa [addressed, h, Except.toOption] using ih

theorem enumerate_eq (listed : List Entry) :
    enumerate listed = listed.filter (¬ IsNamed ·) ++ named listed := by
  have hpred : (fun e => (address e).toOption.isNone) = fun e => decide (¬ IsNamed e) := by
    funext e
    rcases h : address e with cause | a <;> simp [IsNamed, h, Except.toOption]
  rw [← hpred]
  rfl

theorem perm_named (listed : List Entry) : (named listed).Perm (listed.filter (IsNamed ·)) := by
  rw [← map_addressed]
  exact (List.mergeSort_perm _ _).map _

theorem mem_named_iff : e ∈ named listed ↔ e ∈ listed ∧ IsNamed e := by
  rw [(perm_named listed).mem_iff, List.mem_filter, decide_eq_true_iff]

/-- No entry is lost, and none is added. -/
theorem perm_enumerate (listed : List Entry) : (enumerate listed).Perm listed := by
  rw [enumerate_eq]
  have hsplit := List.filter_append_perm (fun e => decide (IsNamed e)) listed
  simp only [← decide_not] at hsplit
  exact ((perm_named listed).append_left _).trans (List.perm_append_comm.trans hsplit)

theorem le_trans_key (x y z : Address × Entry) (hxy : x.1.le y.1 = true) (hyz : y.1.le z.1 = true) :
    x.1.le z.1 = true := by
  rw [Hctl.Address.le_iff_key] at *
  exact hxy.trans hyz

theorem le_total_key (x y : Address × Entry) : (x.1.le y.1 || y.1.le x.1) = true := by
  rw [Bool.or_eq_true, Hctl.Address.le_iff_key, Hctl.Address.le_iff_key]
  exact le_total _ _

theorem pairwise_named (listed : List Entry) :
    (named listed).Pairwise fun e e' =>
      ∀ a a', address e = .ok a → address e' = .ok a' → a.key ≤ a'.key := by
  refine List.pairwise_map.2 ?_
  refine (List.pairwise_mergeSort le_trans_key le_total_key (addressed listed)).imp_of_mem ?_
  rintro ⟨x, e⟩ ⟨y, e'⟩ he he' hle a a' ha ha'
  rw [address_of_mem_addressed (List.mem_mergeSort.1 he)] at ha
  rw [address_of_mem_addressed (List.mem_mergeSort.1 he')] at ha'
  cases ha
  cases ha'
  exact Hctl.Address.le_iff_key.1 hle

/-- Sorting leaves those in their order that come in no other. -/
theorem filter_mergeSort {α : Type} {le : α → α → Bool}
    (htrans : ∀ x y z, le x y = true → le y z = true → le x z = true)
    (htotal : ∀ x y, (le x y || le y x) = true) {p : α → Bool} {l : List α}
    (h : ∀ x ∈ l, ∀ y ∈ l, p x = true → p y = true → le x y = true) :
    (l.mergeSort le).filter p = l.filter p := by
  have hpairs : (l.filter p).Pairwise fun x y => le x y = true :=
    List.pairwise_of_forall_mem_list fun x hx y hy =>
      h x (List.mem_filter.1 hx).1 y (List.mem_filter.1 hy).1 (List.mem_filter.1 hx).2
        (List.mem_filter.1 hy).2
  have hsub : (l.filter p).Sublist ((l.mergeSort le).filter p) := by
    have hsort := (List.sublist_mergeSort htrans htotal hpairs List.filter_sublist).filter p
    rwa [List.filter_filter, List.filter_congr fun x _ => Bool.and_self (p x)] at hsort
  exact (hsub.eq_of_length ((List.mergeSort_perm l le).filter p).length_eq.symm).symm

/-- Entries with one address are in the order in which they are listed. -/
theorem filter_named (listed : List Entry) (a : Address) :
    (named listed).filter (address · = .ok a) = listed.filter (address · = .ok a) := by
  have hcommute : ∀ l : List (Address × Entry), (∀ x ∈ l, address x.2 = .ok x.1) →
      (l.map (·.2)).filter (address · = .ok a) = (l.filter (·.1 = a)).map (·.2) := by
    intro l hl
    rw [List.filter_map]
    congr 1
    refine List.filter_congr fun x hx => ?_
    simp [hl x hx]
  have hmem : ∀ x ∈ addressed listed, address x.2 = .ok x.1 := fun x hx =>
    address_of_mem_addressed hx
  calc (named listed).filter (address · = .ok a)
      = (((addressed listed).mergeSort fun a b => a.1.le b.1).filter (·.1 = a)).map (·.2) :=
        hcommute _ fun x hx => hmem x (List.mem_mergeSort.1 hx)
    _ = ((addressed listed).filter (·.1 = a)).map (·.2) := by
        rw [filter_mergeSort le_trans_key le_total_key]
        rintro ⟨x, e⟩ - ⟨y, e'⟩ - hx hy
        obtain rfl : x = a := by simpa using hx
        obtain rfl : y = x := by simpa using hy
        exact Hctl.Address.le_iff_key.2 (le_refl _)
    _ = (listed.filter (IsNamed ·)).filter (address · = .ok a) := by
        rw [← hcommute _ hmem, map_addressed]
    _ = listed.filter (address · = .ok a) := by
        rw [List.filter_filter]
        refine List.filter_congr fun e _ => ?_
        rw [← Bool.decide_and, decide_eq_decide, and_iff_left_of_imp]
        exact fun h => isNamed_iff.2 ⟨a, h⟩

/-- Listings of the same entries come in one order where no two entries have one address. -/
theorem named_eq_of_perm {listed' : List Entry} (h : listed'.Perm listed)
    (hunique : ∀ e ∈ listed, ∀ e' ∈ listed, ∀ a, address e = .ok a → address e' = .ok a → e = e') :
    named listed' = named listed := by
  have hperm : (named listed').Perm (named listed) :=
    (perm_named listed').trans ((h.filter _).trans (perm_named listed).symm)
  -- Sorted lists of the same entries can only differ in the order of entries with one address.
  refine hperm.eq_of_pairwise ?_ (pairwise_named listed') (pairwise_named listed)
  intro e e' he he' hle hge
  obtain ⟨hin, hnamed⟩ := mem_named_iff.1 (hperm.mem_iff.1 he)
  obtain ⟨hin', hnamed'⟩ := mem_named_iff.1 he'
  obtain ⟨a, ha⟩ := isNamed_iff.1 hnamed
  obtain ⟨a', ha'⟩ := isNamed_iff.1 hnamed'
  obtain rfl : a = a' :=
    Hctl.Address.key_injective (le_antisymm (hle a a' ha ha') (hge a' a ha' ha))
  exact hunique e hin e' hin' a ha ha'

/-! ## The devices of a directory -/

theorem named_filter (listed : List Entry) :
    named (listed.filter fun e => isDeviceName e.name) = named listed := by
  have haddressed : addressed (listed.filter fun e => isDeviceName e.name) = addressed listed := by
    unfold addressed
    rw [List.filterMap_filter]
    refine List.filterMap_congr fun e _ => ?_
    rcases h : address e with cause | a
    · simp [Except.toOption]
    · simp [Except.toOption, isDeviceName_of_address h]
  rw [named, haddressed, named]

theorem enumerate_filter (listed : List Entry) :
    enumerate (listed.filter fun e => isDeviceName e.name) =
      listed.filter (fun e => isDeviceName e.name ∧ ¬ IsNamed e) ++ named listed := by
  rw [enumerate_eq, named_filter, List.filter_filter]
  simp only [Bool.decide_and, Bool.and_comm, Bool.decide_eq_true]

theorem count_filter_name (listed : List Entry) (h : isDeviceName e.name = true) :
    (listed.filter fun e => isDeviceName e.name).count e = listed.count e := by
  rw [List.count_filter]
  exact h

theorem devices_of_list {t : Tree} {root : String} (h : t.list root = .ok listed) :
    devices t root =
      .ok (listed.filter (fun e => isDeviceName e.name ∧ ¬ IsNamed e) ++ named listed) := by
  rw [devices, entries, h, ← enumerate_filter]
  rfl

/-- The devices of a directory are the entries that may be devices by their names, all those with an
address among them, and each as often as it is listed. Those without an address come first, as they
are listed; the others follow by address, and as they are listed where addresses are equal. How the
directory is read makes no difference to these if no two of them have one address. -/
theorem devices_in_address_order {t : Tree} {root : String} (h : t.list root = .ok listed) :
    ∃ first rest, devices t root = .ok (first ++ rest) ∧
      (∀ e ∈ listed, IsNamed e →
        isDeviceName e.name ∧ (first ++ rest).count e = listed.count e ∧
          (listed.Nodup → (first ++ rest).count e = 1)) ∧
      (first ++ rest).Perm (listed.filter fun e => isDeviceName e.name) ∧
      first = listed.filter (fun e => isDeviceName e.name ∧ ¬ IsNamed e) ∧
      (∀ e ∈ rest, IsNamed e) ∧
      (rest.Pairwise fun e e' =>
        ∀ a a', address e = .ok a → address e' = .ok a' → a.key ≤ a'.key) ∧
      (∀ a, rest.filter (address · = .ok a) = listed.filter (address · = .ok a)) ∧
      ∀ (t' : Tree) root' listed', t'.list root' = .ok listed' → listed'.Perm listed →
        (∀ e ∈ listed, ∀ e' ∈ listed, ∀ a, address e = .ok a → address e' = .ok a → e = e') →
        ∃ first', devices t' root' = .ok (first' ++ rest) ∧ ∀ e ∈ first', ¬ IsNamed e := by
  have hperm : (listed.filter (fun e => isDeviceName e.name ∧ ¬ IsNamed e) ++ named listed).Perm
      (listed.filter fun e => isDeviceName e.name) := by
    rw [← enumerate_filter]
    exact perm_enumerate _
  refine ⟨_, named listed, devices_of_list h, fun e he hnamed => ?_, hperm, rfl, fun e he => ?_,
    pairwise_named listed, filter_named listed, fun t' root' listed' h' hp hunique => ?_⟩
  · obtain ⟨a, ha⟩ := isNamed_iff.1 hnamed
    have hname := isDeviceName_of_address ha
    have hcount : (listed.filter (fun e => isDeviceName e.name ∧ ¬ IsNamed e) ++
        named listed).count e = listed.count e := by
      rw [hperm.count_eq, count_filter_name listed hname]
    exact ⟨hname, hcount, fun hdistinct =>
      hcount.trans (List.count_eq_one_of_mem hdistinct he)⟩
  · exact (mem_named_iff.1 he).2
  · refine ⟨listed'.filter fun e => isDeviceName e.name ∧ ¬ IsNamed e, ?_, fun e he => ?_⟩
    · rw [devices_of_list h', named_eq_of_perm hp hunique]
    · exact (of_decide_eq_true (List.mem_filter.1 he).2).2

/-- The entries of the witness: a host, two devices whose addresses are out of order, and a name with
a colon that is no address. -/
def fourDevices : List (String × Files.Node) :=
  [("host0", .directory []), ("0:0:1:0", .link "there"), ("bogus:1", .directory []),
    ("0:0:0:1", .link "here")]

/-- One directory with the entries of the witness, and one that has them the other way round. -/
def twoDirectories : Tree :=
  ⟨[("some", .directory fourDevices), ("same", .directory fourDevices.reverse)]⟩

theorem devices_in_address_order_twoDirectories :
    ∃ first rest first', devices twoDirectories "some" = .ok (first ++ rest) ∧
      devices twoDirectories "same" = .ok (first' ++ rest) := by
  have hsome : twoDirectories.list "some" = .ok (fourDevices.map fun e => ⟨e.1, e.2.kind⟩) :=
    Tree.list_of_reach (by decide +kernel) rfl
  have hsame : twoDirectories.list "same" =
      .ok (fourDevices.reverse.map fun e => ⟨e.1, e.2.kind⟩) :=
    Tree.list_of_reach (by decide +kernel) rfl
  obtain ⟨first, rest, h, -, -, -, -, -, -, hagain⟩ := devices_in_address_order hsome
  obtain ⟨first', h', -⟩ := hagain twoDirectories "same" _ hsame (by decide +kernel) (by
    intro e he e' he' a ha ha'
    rw [← toOption_address_iff] at ha ha'
    have hdiffer : ∀ e ∈ fourDevices.map fun e => (⟨e.1, e.2.kind⟩ : Entry),
        ∀ e' ∈ fourDevices.map fun e => (⟨e.1, e.2.kind⟩ : Entry),
        (address e).toOption.isSome → (address e).toOption = (address e').toOption → e = e' := by
      decide +kernel
    exact hdiffer e he e' he' (by rw [ha]; rfl) (ha.trans ha'.symm))
  exact ⟨first, rest, first', h, h'⟩

end BayMap.Sysfs
