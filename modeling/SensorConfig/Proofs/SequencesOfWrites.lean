import Mathlib.Data.List.Induction
import SensorConfig.Proofs.CompiledFiles
import SensorConfig.Proofs.WalkedPaths

/-!
# Sequences of Writes

What a tree holds after outputs are written to it one after another.

Which entry a path names depends on the tree: on the links on the way, on the
directories that the dots lead through, and on what earlier writes have replaced. So
two paths can name one entry, and one path can name different entries at different
times. Nothing is said here of paths that are written alike. What is compared is the
entries, each found in the tree as it was when its write began.

A write replaces the entry that its path names, or it leaves the tree as it was.
`Write.Replaces` is the first of the two, and it leaves nothing open: it fixes what
stands at every location. That is the step, and the run follows by induction from the
last write back. If the last write put its bytes at a location, they are there. If
not, it changed nothing there, and what is there is what the writes before it left.

## Main definitions

* `Write`: A path, the bytes to put there, and the disk that takes them.
* `Write.perform`: One write.
* `FileTree.afterWrites`: The tree after several.
* `Write.Replaces`: A write replaces the entry that its path names, and no other.
* `FileTree.PutBy`: One of several writes puts bytes at a location.
* `FileTree.HoldsLastPut`: A location holds what was put there last.

## Theorems

* `FileTree.Names.unique`: A path names one entry at most.
* `Write.perform_ok`, `Write.perform_error`: What one write does to a tree.
* `Write.Replaces.find?_target`: What a replaced link leads to is as it was.
* `Write.find?_temporary`: No temporary file is left.
* `FileTree.HoldsLastPut.append`, `FileTree.holdsLastPut`: One more write, and any
  number of them.
* `FileTree.afterWrites_lastWrite`: What each write of a sequence does, and all of
  them.
-/

namespace SensorConfig

/-- What is written: a path, the bytes to put in place of what it names, and the disk
    that takes them. -/
structure Write where
  path : String
  bytes : List UInt8
  disk : Disk

/-- One write, and the tree after it. -/
def Write.perform (write : Write) (tree : FileTree) : Except Fault Unit × FileTree :=
  tree.writeOutput write.path write.bytes write.disk

/-- The tree after several writes. -/
def FileTree.afterWrites (tree : FileTree) (writes : List Write) : FileTree :=
  writes.foldl (fun tree write => (write.perform tree).2) tree

/-- A write replaces an entry: it is the one that the path names and no directory, it
    is a file of the bytes afterwards, and every other entry is what it was. -/
structure Write.Replaces (write : Write) (before after : FileTree) (location : Location) :
    Prop where
  path : Path.IsFileName write.path
  names : before.Names write.path location
  no_directory : before.isDirectory location = false
  current_eq : after.current = before.current
  find?_eq : ∀ other, after.find? other =
    if other = location then some (.file write.bytes) else before.find? other

/-- The write at a place among several puts bytes at a location: it goes through, and
    that is the entry its path names in the tree that the writes before it left. -/
def FileTree.PutBy (tree : FileTree) (writes : List Write) (k : Nat) (location : Location)
    (bytes : List UInt8) : Prop :=
  ∃ write, writes[k]? = some write ∧
    (write.perform (tree.afterWrites (writes.take k))).1 = .ok () ∧
    (tree.afterWrites (writes.take k)).Names write.path location ∧ write.bytes = bytes

/-- After several writes there stands at a location a file of the bytes that were put
    there last, or what stood there at first if none were put there. -/
def FileTree.HoldsLastPut (tree : FileTree) (writes : List Write) (location : Location) : Prop :=
  (∃ k bytes, tree.PutBy writes k location bytes ∧
    (∀ j other, k < j → ¬ tree.PutBy writes j location other) ∧
    (tree.afterWrites writes).find? location = some (.file bytes)) ∨
  (∀ k bytes, ¬ tree.PutBy writes k location bytes) ∧
    (tree.afterWrites writes).find? location = tree.find? location

/-- A path names one entry at most. -/
theorem FileTree.Names.unique {tree : FileTree} {path : String} {location other : Location}
    (h : tree.Names path location) (hother : tree.Names path other) : location = other := by
  rcases h with ⟨directory, last, rfl, hlast, hwalk, _⟩
  rcases hother with ⟨directory', last', rfl, hlast', hwalk', _⟩
  rw [Option.some.inj (hlast.symm.trans hlast'), Except.ok.inj (hwalk.symm.trans hwalk')]

namespace Write

variable {write : Write} {before : FileTree}

theorem perform_eq {result : Except Fault Unit} (h : (write.perform before).1 = result) :
    write.perform before = (result, (write.perform before).2) := by
  rw [← h]

/-- A write that goes through replaces one entry. -/
theorem perform_ok (h : (write.perform before).1 = .ok ()) :
    ∃ location, write.Replaces before (write.perform before).2 location := by
  rcases (before.writeOutput_eq_ok_iff _ _ _ _).1 (perform_eq h) with
    ⟨location, haccepts, hafter⟩
  rcases (before.destination_eq_ok_iff _ _).1 haccepts.destination with
    ⟨hpath, hnames, hdirectory⟩
  rw [hafter]
  exact ⟨location, hpath, hnames, hdirectory, rfl,
    fun other => before.find?_set _ other hnames.ne_nil⟩

/-- A write that does not leaves the tree as it was. -/
theorem perform_error {fault : Fault} (h : (write.perform before).1 = .error fault) :
    (write.perform before).2 = before :=
  FileTree.writeOutput_error (perform_eq h)

/-- A write goes through exactly if the tree accepts a file at some entry. -/
theorem perform_ok_iff (write : Write) (before : FileTree) :
    (write.perform before).1 = .ok () ↔
      ∃ location, before.Accepts write.disk write.path location := by
  constructor
  · intro h
    rcases (before.writeOutput_eq_ok_iff _ _ _ _).1 (perform_eq h) with ⟨location, haccepts, _⟩
    exact ⟨location, haccepts⟩
  · rintro ⟨location, haccepts⟩
    exact congrArg Prod.fst
      ((before.writeOutput_eq_ok_iff _ _ _ _).2 ⟨location, haccepts, rfl⟩)

/-- What a replaced link leads to is another entry, so it is what it was. -/
theorem Replaces.find?_target {after : FileTree} {location found : Location} {target : String}
    (h : write.Replaces before after location)
    (hlink : before.find? location = some (.link target))
    (hfound : before.resolve write.path = .ok found) :
    found ≠ location ∧ after.find? found = before.find? found := by
  have hne := h.names.ne_of_resolve h.path hlink hfound
  exact ⟨hne, by rw [h.find?_eq, if_neg hne]⟩

/-- No temporary file is left. Where it stood there is nothing, unless the name that it
    was given happens to be that of the entry which was replaced. -/
theorem find?_temporary (write : Write) (before : FileTree) (directory : Location) :
    let temporary := directory ++ [write.disk.name before write.path directory]
    (write.perform before).2.find? temporary = none ∨
      (write.perform before).1 = .ok () ∧ before.Names write.path temporary := by
  intro temporary
  have hnew : before.find? temporary = none := write.disk.name_new before write.path directory
  cases hresult : (write.perform before).1 with
  | error fault =>
      rw [perform_error hresult]
      exact Or.inl hnew
  | ok =>
      rcases perform_ok hresult with ⟨location, hreplaces⟩
      by_cases htemporary : temporary = location
      · exact Or.inr ⟨rfl, htemporary ▸ hreplaces.names⟩
      · rw [hreplaces.find?_eq, if_neg htemporary]
        exact Or.inl hnew

end Write

namespace FileTree

variable {tree : FileTree} {writes : List Write}

theorem afterWrites_append (tree : FileTree) (writes : List Write) (write : Write) :
    tree.afterWrites (writes ++ [write]) = (write.perform (tree.afterWrites writes)).2 := by
  rw [afterWrites, List.foldl_append, afterWrites, List.foldl_cons, List.foldl_nil]

theorem afterWrites_take_succ {k : Nat} {write : Write} (h : writes[k]? = some write) :
    tree.afterWrites (writes.take (k + 1)) =
      (write.perform (tree.afterWrites (writes.take k))).2 := by
  rw [List.take_add_one, h, Option.toList_some, afterWrites_append]

/-- A write behind others puts what it puts, and they put what they put. -/
theorem putBy_append_iff (write : Write) (k : Nat) (location : Location) (bytes : List UInt8) :
    tree.PutBy (writes ++ [write]) k location bytes ↔
      tree.PutBy writes k location bytes ∨
        k = writes.length ∧ (write.perform (tree.afterWrites writes)).1 = .ok () ∧
          (tree.afterWrites writes).Names write.path location ∧ write.bytes = bytes := by
  unfold PutBy
  -- A place in front of the last write has the same writes in front of it as without it.
  rcases Nat.lt_trichotomy k writes.length with hk | rfl | hk
  · rw [List.getElem?_append_left hk, List.take_append_of_le_length (Nat.le_of_lt hk)]
    exact (or_iff_left fun h => Nat.ne_of_lt hk h.1).symm
  · rw [List.getElem?_append_right (Nat.le_refl _), Nat.sub_self, List.take_left,
      List.getElem?_eq_none (Nat.le_refl _)]
    simp
  · have hnone : (writes ++ [write])[k]? = none := by
      rw [List.getElem?_eq_none_iff, List.length_append, List.length_singleton]
      omega
    rw [hnone, List.getElem?_eq_none (Nat.le_of_lt hk)]
    simp [Nat.ne_of_gt hk]

/-- What is put is put by one of the writes. -/
theorem PutBy.lt_length {k : Nat} {location : Location} {bytes : List UInt8}
    (h : tree.PutBy writes k location bytes) : k < writes.length := by
  rcases h with ⟨write, hwrite, _⟩
  exact (List.getElem?_eq_some_iff.1 hwrite).1

/-- A write that puts nothing at a location changes nothing there. -/
theorem find?_perform_of_not_names {write : Write} {before : FileTree} {location : Location}
    (h : ¬ ((write.perform before).1 = .ok () ∧ before.Names write.path location)) :
    (write.perform before).2.find? location = before.find? location := by
  cases hresult : (write.perform before).1 with
  | error fault => rw [Write.perform_error hresult]
  | ok =>
      rcases Write.perform_ok hresult with ⟨replaced, hreplaces⟩
      rw [hreplaces.find?_eq, if_neg]
      rintro rfl
      exact h ⟨hresult, hreplaces.names⟩

/-- One more write: the bytes that it puts at a location are there, and where it puts
    none there is what the writes before it left. -/
theorem HoldsLastPut.append {location : Location} (h : tree.HoldsLastPut writes location)
    (write : Write) : tree.HoldsLastPut (writes ++ [write]) location := by
  unfold HoldsLastPut at h ⊢
  rw [afterWrites_append]
  by_cases hput : (write.perform (tree.afterWrites writes)).1 = .ok () ∧
      (tree.afterWrites writes).Names write.path location
  · -- The entry that was replaced is the one that is named, as there is no other.
    rcases Write.perform_ok hput.1 with ⟨replaced, hreplaces⟩
    cases hput.2.unique hreplaces.names
    refine Or.inl ⟨writes.length, write.bytes, ?_, fun j other hj hlater => ?_, ?_⟩
    · exact (putBy_append_iff _ _ _ _).2 (Or.inr ⟨rfl, hput.1, hput.2, rfl⟩)
    · have hlt := hlater.lt_length
      rw [List.length_append, List.length_singleton] at hlt
      omega
    · rw [hreplaces.find?_eq, if_pos rfl]
  · have hsame : ∀ k bytes, tree.PutBy (writes ++ [write]) k location bytes ↔
        tree.PutBy writes k location bytes := by
      intro k bytes
      rw [putBy_append_iff]
      exact or_iff_left fun hlast => hput ⟨hlast.2.1, hlast.2.2.1⟩
    simp only [hsame, find?_perform_of_not_names hput]
    exact h

/-- After several writes every entry is what was put there last. -/
theorem holdsLastPut (tree : FileTree) (writes : List Write) (location : Location) :
    tree.HoldsLastPut writes location := by
  induction writes using List.reverseRecOn with
  | nil => exact Or.inr ⟨fun k bytes h => absurd h.lt_length (Nat.not_lt_zero k), rfl⟩
  | append_singleton writes write ih => exact ih.append write

/-- Whatever is written to a tree, and in whatever order: each write either goes
    through, where a file can be put in place of what its path names, and then it
    replaces that entry and no other, a link rather than what the link leads to; or it
    fails and leaves the tree as it was. In either case no temporary file is left. So
    in the end every entry is a file of the bytes that the last write put there, or
    what it was at first if no write put any there. -/
theorem afterWrites_lastWrite (tree : FileTree) (writes : List Write) :
    (∀ k write, writes[k]? = some write →
      let before := tree.afterWrites (writes.take k)
      let result := write.perform before
      tree.afterWrites (writes.take (k + 1)) = result.2 ∧
      (result.1 = .ok () ↔ ∃ location, before.Accepts write.disk write.path location) ∧
      (result.1 = .ok () → ∃ location, write.Replaces before result.2 location ∧
        ∀ target found, before.find? location = some (.link target) →
          before.resolve write.path = .ok found →
          found ≠ location ∧ result.2.find? found = before.find? found) ∧
      (∀ fault, result.1 = .error fault → result.2 = before) ∧
      ∀ directory, before.directoryOf write.path = .ok directory →
        let temporary := directory ++ [write.disk.name before write.path directory]
        result.2.find? temporary = none ∨
          result.1 = .ok () ∧ before.Names write.path temporary) ∧
    ∀ location, tree.HoldsLastPut writes location := by
  refine ⟨fun k write hwrite => ?_, tree.holdsLastPut writes⟩
  intro before result
  refine ⟨afterWrites_take_succ hwrite, write.perform_ok_iff before, fun hok => ?_,
    fun fault => Write.perform_error, fun directory _ => write.find?_temporary before directory⟩
  rcases Write.perform_ok hok with ⟨location, hreplaces⟩
  exact ⟨location, hreplaces, fun target found => hreplaces.find?_target⟩

/-- A write to a link to a file, and one to the file's name with a slash behind it. The
    first replaces the link, the second fails, and the file is what it was. -/
theorem afterWrites_lastWrite_link :
    let tree : FileTree :=
      ⟨[(["d"], .directory), (["d", "f"], .file [9]), (["d", "l"], .link "f")], ["d"]⟩
    let writes : List Write := [⟨"../d/./l", [1], .willing⟩, ⟨"f/", [2], .willing⟩]
    (tree.afterWrites writes).find? ["d", "l"] = some (.file [1]) ∧
    (tree.afterWrites writes).find? ["d", "f"] = some (.file [9]) := by
  intro tree writes
  rcases (afterWrites_lastWrite tree writes).1 0 ⟨"../d/./l", [1], .willing⟩ rfl with
    ⟨hone, _, hok, _, _⟩
  rcases (afterWrites_lastWrite tree writes).1 1 ⟨"f/", [2], .willing⟩ rfl with
    ⟨htwo, _, _, herror, _⟩
  rcases hok (by decide +kernel) with ⟨location, hreplaces, htarget⟩
  have hlocation : location = ["d", "l"] := by
    refine hreplaces.names.unique ⟨["d"], "l", rfl, ?_, ?_, ?_⟩
    · decide
    · decide
    · decide
  subst hlocation
  have hlink : tree.find? ["d", "l"] = some (.link "f") := by simp [tree, find?, List.lookup_cons]
  have hfile : tree.find? ["d", "f"] = some (.file [9]) := by simp [tree, find?, List.lookup_cons]
  -- The second write leaves the tree of the first.
  have htree : tree.afterWrites writes = _ :=
    htwo.trans (herror (.file .create "f/" .notDirectory) (by decide +kernel))
  rw [hone] at htree
  rw [htree]
  constructor
  · rw [hreplaces.find?_eq]
    exact if_pos rfl
  · exact (htarget "f" ["d", "f"] hlink (by decide +kernel)).2.trans hfile

end FileTree

end SensorConfig
