import BayMap.Sysfs.Devices

/-!
# Paths without links

A path that meets no link and no point leads from name to name, and where it leads is plain to
compute: `reach` only looks at one directory after another.

* `resolveFrom_of_reach`: resolving such a path comes to what `reach` says.
* `list_of_reach`, `read_of_reach`: listing a directory and reading a file at the end of one.
* `readAttribute_of_reach`, `blockName_of_missing`: what sysfs says of a device at the end of one.
-/

namespace BayMap.Files

/-- Where the parts of a path lead from a node, if they meet no link and no point. -/
def Node.reach : Node → List String → Option (Except Errno Node)
  | n, [] => some (.ok n)
  | n, part :: rest =>
    match n.entries? with
    | none => some (.error .notDirectory)
    | some entries =>
      if part = "" ∨ part = "." ∨ part = ".." then none
      else if Tree.maxNameLength < part.utf8ByteSize then some (.error .nameTooLong)
      else
        match entries.lookup part with
        | none => some (.error .noEntry)
        | some (.link _) => none
        | some below => below.reach rest

theorem Node.at?_append (n : Node) (a b : Place) : n.at? (a ++ b) = (n.at? a).bind (·.at? b) := by
  induction a generalizing n with
  | nil => rfl
  | cons name rest ih =>
    rw [List.cons_append, at?, at?]
    cases n.child? name with
    | none => rfl
    | some below => exact ih below

namespace Tree

theorem resolveFrom_of_reach (t : Tree) (links : Nat) {place : Place} {n : Node}
    (hn : t.top.at? place = some n) {parts : List String} {result : Except Errno Node}
    (h : n.reach parts = some result) :
    t.resolveFrom links (.inside place) parts = result.map (fun _ => .inside (place ++ parts)) ∧
      ∀ m, result = .ok m → t.top.at? (place ++ parts) = some m := by
  induction parts generalizing n place with
  | nil =>
    obtain rfl := Option.some.inj h
    rw [resolveFrom, List.append_nil]
    exact ⟨rfl, fun m hm => Except.ok.inj hm ▸ hn⟩
  | cons part rest ih =>
    have hb : (t.nodeAt? (.inside place)).bind Node.entries? = n.entries? := by
      rw [nodeAt?, hn, Option.bind_some]
    rw [Node.reach] at h
    rw [resolveFrom, hb]
    cases he : n.entries? with
    | none =>
      rw [he] at h
      obtain rfl := Option.some.inj h
      exact ⟨rfl, by rintro m ⟨⟩⟩
    | some entries =>
      simp only [he] at h
      by_cases hd : part = "" ∨ part = "." ∨ part = ".."
      · rw [if_pos hd] at h
        cases h
      · obtain ⟨h0, h1, h2⟩ := not_or.1 hd |>.imp_right not_or.1
        rw [if_neg hd] at h
        simp only [if_neg (not_or.2 ⟨h0, h1⟩), if_neg h2]
        by_cases hl : maxNameLength < part.utf8ByteSize
        · rw [if_pos hl] at h ⊢
          obtain rfl := Option.some.inj h
          exact ⟨rfl, by rintro m ⟨⟩⟩
        · rw [if_neg hl] at h ⊢
          cases hn' : entries.lookup part with
          | none =>
            rw [hn'] at h
            obtain rfl := Option.some.inj h
            exact ⟨rfl, by rintro m ⟨⟩⟩
          | some below =>
            have hp : t.top.at? (place ++ [part]) = some below := by
              rw [Node.at?_append, hn, Option.bind_some, Node.at?, Node.child?, he,
                Option.bind_some, hn']
              rfl
            cases below with
            | link target =>
              rw [hn'] at h
              cases h
            | directory more =>
              rw [hn'] at h
              have hr := ih hp h
              rw [List.append_assoc] at hr
              exact hr
            | file data =>
              rw [hn'] at h
              have hr := ih hp h
              rw [List.append_assoc] at hr
              exact hr

/-- A path that can be put to the system and starts in the tree. -/
def IsPlain (path : String) : Prop :=
  '\x00' ∉ path.toList ∧ path.utf8ByteSize ≤ maxPathLength ∧ path ≠ "" ∧ ¬ Path.isAbsolute path

instance (path : String) : Decidable (IsPlain path) :=
  inferInstanceAs (Decidable (_ ∧ _ ∧ _ ∧ _))

theorem resolve_of_reach {t : Tree} {path : String} (hp : IsPlain path) {result : Except Errno Node}
    (h : t.top.reach (Path.parts path) = some result) :
    t.resolve path = (result.map fun _ => .inside (Path.parts path)).mapError .system ∧
      ∀ m, result = .ok m → t.top.at? (Path.parts path) = some m := by
  obtain ⟨h0, hl, he, ha⟩ := hp
  have ht : t.top.at? [] = some t.top := rfl
  obtain ⟨hr, hm⟩ := resolveFrom_of_reach t maxLinks ht h
  refine ⟨?_, hm⟩
  rw [resolve, if_neg h0, if_neg (Nat.not_lt.2 hl), if_neg he, Location.start, if_neg ha, hr]
  rfl

section Reaching

variable {t : Tree} {path : String} (hp : IsPlain path)

include hp

theorem list_of_reach {entries : List (String × Node)}
    (h : t.top.reach (Path.parts path) = some (.ok (.directory entries))) :
    t.list path = .ok (entries.map fun e => ⟨e.1, e.2.kind⟩) := by
  obtain ⟨hr, hm⟩ := resolve_of_reach hp h
  have hl : t.resolve path = .ok (.inside (Path.parts path)) := hr
  have hn : (t.nodeAt? (.inside (Path.parts path))).bind Node.entries? = some entries := by
    rw [nodeAt?, hm _ rfl]
    rfl
  simp only [list, hl, hn]

theorem list_of_reach_error {errno : Errno}
    (h : t.top.reach (Path.parts path) = some (.error errno)) :
    t.list path = .error ⟨.list, path, .system errno⟩ := by
  rw [list, (resolve_of_reach hp h).1]
  rfl

theorem read_of_reach {data : Bytes} {text : List Char}
    (h : t.top.reach (Path.parts path) = some (.ok (.file data)))
    (ht : Text.Utf8.text? data = some text) : t.read path = .ok text := by
  obtain ⟨hr, hm⟩ := resolve_of_reach hp h
  have hl : t.resolve path = .ok (.inside (Path.parts path)) := hr
  have hn : t.nodeAt? (.inside (Path.parts path)) = some (.file data) := hm _ rfl
  simp only [read, hl, hn, ht]

theorem read_of_reach_error {errno : Errno}
    (h : t.top.reach (Path.parts path) = some (.error errno)) :
    t.read path = .error ⟨.open, path, .system errno⟩ := by
  rw [read, (resolve_of_reach hp h).1]
  rfl

end Reaching

end Tree

end BayMap.Files

namespace BayMap.Sysfs

open Files (Tree)

variable {t : Tree} {directory name : String}

theorem readAttribute_of_reach (hp : Tree.IsPlain (Files.Path.join directory name)) {data : Bytes}
    {text : List Char}
    (h : t.top.reach (Files.Path.parts (Files.Path.join directory name)) = some (.ok (.file data)))
    (ht : Text.Utf8.text? data = some text) :
    readAttribute t directory name = .ok (some (.ofList (text.takeWhile (· ≠ '\n')))) := by
  rw [readAttribute, Tree.read_of_reach hp h ht]
  rfl

theorem readAttribute_of_missing (hp : Tree.IsPlain (Files.Path.join directory name))
    (h : t.top.reach (Files.Path.parts (Files.Path.join directory name)) =
      some (.error .noEntry)) : readAttribute t directory name = .ok none := by
  rw [readAttribute, Tree.read_of_reach_error hp h]
  rfl

theorem blockName_of_missing (hp : Tree.IsPlain (Files.Path.join directory "block"))
    (h : t.top.reach (Files.Path.parts (Files.Path.join directory "block")) =
      some (.error .noEntry)) : blockName t directory = .ok none := by
  rw [blockName, firstEntry, Tree.list_of_reach_error hp h]
  rfl

end BayMap.Sysfs
