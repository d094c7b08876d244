import SensorConfig.FileTree.Replace

/-!
# Replaced Files

What a replacement does to a tree: one entry is another, or nothing is.

While the destination of a replacement is looked for, the temporary file stands
in the tree already, and the way to the destination could lead past it. It is
met as a file there, where nothing was before. Nothing leads through a file and
nothing leads to a missing one, so the walks that end in a directory are the
same with it and without it, whatever name it was given. That is all that a
destination is found by, and it is why the name does not matter.

The temporary file is then removed in any case. With it gone the tree is the one
that was there at first, and if the replacement went through, the one entry that
the path names has been set.

## Main definitions

* `FileTree.Names`: Which entry a path names.
* `Path.IsFileName`: What a path must be like for a file to have it.
* `FileTree.Accepts`: When a file can be put in place of what a path names.

## Theorems

* `FileTree.destination_eq_ok_iff`: A destination is an entry that is named and
  is no directory.
* `FileTree.walk_set_new`: A new file changes no walk to a directory.
* `FileTree.destination_set_new`: A new file changes no destination.
* `FileTree.replace_eq_ok_iff`: When a replacement goes through, and what it does.
* `FileTree.Accepts.find?_set`: It changes the entry that the path names.
-/

namespace SensorConfig

/-- A path that a file can have, as far as the path alone tells. -/
structure Path.IsFileName (path : String) : Prop where
  holdsNul : Path.holdsNul path = false
  isEmpty : path.isEmpty = false
  size : path.utf8ByteSize < FileTree.pathLimit
  endsInSlash : Path.endsInSlash path = false
  last : ∀ last ∈ (Path.names path).getLast?,
    last ≠ "." ∧ last ≠ ".." ∧ last.utf8ByteSize ≤ FileTree.maxName

/-- A step gives what it gives if the disk does not refuse it. -/
theorem Disk.attempt_eq_ok_iff {α : Type} (disk : Disk) (step : ReplaceStep)
    (result : Except Cause α) (value : α) :
    disk.attempt step result = .ok value ↔ result = .ok value ∧ disk.refusal? step = none := by
  unfold attempt
  cases result with
  | error cause => simp only [reduceCtorEq, false_and]
  | ok found =>
      cases disk.refusal? step with
      | some cause => simp only [reduceCtorEq, and_false]
      | none => simp only [Except.ok.injEq, and_true]

namespace FileTree

/-- A path names an entry: its last name, which is not followed, in the directory
    that the names before it lead to. -/
def Names (tree : FileTree) (path : String) (location : Location) : Prop :=
  ∃ directory last, location = directory ++ [last] ∧ (Path.names path).getLast? = some last ∧
    tree.walk maxLinks (origin tree.current path) (Path.names path).dropLast = .ok directory ∧
    tree.isDirectory directory = true

/-- What a path names is never the root. -/
theorem Names.ne_nil {tree : FileTree} {path : String} {location : Location}
    (h : tree.Names path location) : location ≠ [] := by
  rcases h with ⟨directory, last, rfl, _⟩
  exact List.concat_ne_nil last directory

/-- A file can be put in place of what a path names: there is a directory for the
    temporary file, renaming it changes the entry at a location, and the disk
    refuses nothing. -/
structure Accepts (tree : FileTree) (disk : Disk) (path : String) (location : Location) :
    Prop where
  directory : ∃ directory, tree.directoryOf path = .ok directory
  destination : tree.destination path = .ok location
  willing : ∀ step, disk.refusal? step = none

/-- A destination is an entry that the path names, and no directory. -/
theorem destination_eq_ok_iff (tree : FileTree) (path : String) (location : Location) :
    tree.destination path = .ok location ↔
      Path.IsFileName path ∧ tree.Names path location ∧ tree.isDirectory location = false := by
  constructor
  · intro h
    unfold destination at h
    -- Each test that fails gives a cause, so where there is a destination all of them hold.
    split at h
    · cases h
    next hnul =>
    split at h
    · cases h
    next hempty =>
    split at h
    · cases h
    next hsize =>
    simp only at h
    split at h
    · cases h
    next last hlast =>
    split at h
    · cases h
    next here hwalk =>
    split at h
    · cases h
    next hhere =>
    split at h
    · cases h
    next hdots =>
    split at h
    · cases h
    next hlong =>
    split at h
    · cases h
    next hslash =>
    split at h
    · cases h
    next hdirectory =>
    cases h
    simp only [Bool.not_eq_true, Bool.not_eq_true', Bool.not_eq_false, ge_iff_le,
      Nat.not_le, not_or, Nat.not_lt, gt_iff_lt]
      at hnul hempty hsize hhere hdots hlong hslash hdirectory
    refine ⟨⟨hnul, hempty, hsize, hslash, fun name hname => ?_⟩,
      ⟨here, last, rfl, hlast, hwalk, hhere⟩, hdirectory⟩
    rw [hlast, Option.mem_some_iff] at hname
    rw [← hname]
    exact ⟨hdots.1, hdots.2, hlong⟩
  · rintro ⟨hpath, ⟨here, last, rfl, hlast, hwalk, hhere⟩, hdirectory⟩
    rcases hpath.last last hlast with ⟨hdot, hdots, hlong⟩
    simp only [destination, hpath.holdsNul, hpath.isEmpty, Nat.not_le.2 hpath.size, hlast, hwalk,
      hhere, hdot, hdots, Nat.not_lt.2 hlong, hpath.endsInSlash, hdirectory, Bool.false_eq_true,
      Bool.not_true, or_self, ↓reduceIte]

section

variable {tree : FileTree} {location : Location} {bytes : List UInt8}

/-- A new file makes no directory and hides none. -/
theorem isDirectory_set_new (h : tree.find? location = none) (other : Location) :
    (tree.set location (.file bytes)).isDirectory other = tree.isDirectory other := by
  have hroot : location ≠ [] := ((tree.find?_eq_none_iff location).1 h).1
  unfold isDirectory
  rw [find?_set tree _ other hroot]
  by_cases hother : other = location
  · rw [if_pos hother, hother, h]
  · rw [if_neg hother]

/-- A walk that has come to something other than a directory goes no further. -/
theorem eq_of_walkNames_eq_ok {follow : Location → List String → Except Cause Location}
    {here found : Location} {names : List String} (hhere : tree.isDirectory here = false)
    (h : walkNames follow tree here names = .ok found) : found = here := by
  cases names with
  | nil => exact (Except.ok.inj h).symm
  | cons name names =>
      rw [walkNames, hhere] at h
      exact absurd h (by simp only [Bool.not_false, ↓reduceIte, reduceCtorEq, not_false_eq_true])

theorem walkNames_set_new (h : tree.find? location = none)
    {follow followNew : Location → List String → Except Cause Location} {directory : Location}
    (hdirectory : tree.isDirectory directory = true)
    (hfollow : ∀ here names,
      followNew here names = .ok directory ↔ follow here names = .ok directory)
    (here : Location) (names : List String) :
    walkNames followNew (tree.set location (.file bytes)) here names = .ok directory ↔
      walkNames follow tree here names = .ok directory := by
  have hroot : location ≠ [] := ((tree.find?_eq_none_iff location).1 h).1
  induction names generalizing here with
  | nil => exact Iff.rfl
  | cons name names ih =>
      simp only [walkNames, isDirectory_set_new h]
      -- Up to where the next name is looked up nothing depends on the new file.
      split
      · exact Iff.rfl
      · split
        · exact ih here
        · split
          · exact ih here.dropLast
          · split
            · exact Iff.rfl
            · rw [find?_set tree _ _ hroot]
              by_cases hchild : here ++ [name] = location
              -- The walk has come to the new file, where there was nothing before.
              · rw [if_pos hchild, hchild, h]
                have hfile : (tree.set location (.file bytes)).isDirectory location = false := by
                  rw [isDirectory_set_new h, isDirectory, h]
                constructor
                · intro hnew
                  rw [eq_of_walkNames_eq_ok hfile hnew, isDirectory, h] at hdirectory
                  exact absurd hdirectory (by decide)
                · intro hold
                  exact absurd hold (by simp only [reduceCtorEq, not_false_eq_true])
              · rw [if_neg hchild]
                cases tree.find? (here ++ [name]) with
                | none => exact Iff.rfl
                | some entry =>
                    cases entry with
                    | link target => exact hfollow _ _
                    | file content => exact ih _
                    | directory => exact ih _
                    | device content => exact ih _
                    | unreadable cause => exact ih _

/-- A new file changes no walk to a directory. -/
theorem walk_set_new (h : tree.find? location = none) {directory : Location}
    (hdirectory : tree.isDirectory directory = true) (links : Nat) (here : Location)
    (names : List String) :
    (tree.set location (.file bytes)).walk links here names = .ok directory ↔
      tree.walk links here names = .ok directory := by
  induction links generalizing here names with
  | zero => exact walkNames_set_new h hdirectory (fun _ _ => Iff.rfl) here names
  | succ links ih => exact walkNames_set_new h hdirectory ih here names

/-- A new file changes no destination. -/
theorem destination_set_new (h : tree.find? location = none) (path : String) (found : Location) :
    (tree.set location (.file bytes)).destination path = .ok found ↔
      tree.destination path = .ok found := by
  have hnames : (tree.set location (.file bytes)).Names path found ↔ tree.Names path found := by
    refine exists_congr fun directory => exists_congr fun last => and_congr_right fun _ =>
      and_congr_right fun _ => ?_
    rw [isDirectory_set_new h]
    exact and_congr_left fun hdirectory => walk_set_new h hdirectory _ _ _
  rw [destination_eq_ok_iff, destination_eq_ok_iff, isDirectory_set_new h, hnames]

end

/-- A replacement goes through where the tree accepts it, and sets one entry. -/
theorem replace_eq_ok_iff (tree after : FileTree) (path : String) (bytes : List UInt8)
    (disk : Disk) :
    tree.replace path bytes disk = (.ok (), after) ↔
      ∃ location, tree.Accepts disk path location ∧ after = tree.set location (.file bytes) := by
  constructor
  · intro h
    simp only [replace] at h
    split at h
    · cases h
    next directory hcreate =>
    have hnew := disk.name_new tree path directory
    split at h
    · cases h
    next hwrite =>
    split at h
    · cases h
    next location hrename =>
    rw [Disk.attempt_eq_ok_iff] at hcreate hwrite hrename
    -- The destination was looked for with the temporary file in the tree.
    rw [set_set, destination_set_new hnew] at hrename
    rw [set_set, remove_set tree _ hnew] at h
    refine ⟨location, ⟨⟨directory, hcreate.1⟩, hrename.1, fun step => ?_⟩, (Prod.mk.inj h).2.symm⟩
    cases step with
    | create => exact hcreate.2
    | write => exact hwrite.2
    | rename => exact hrename.2
  · rintro ⟨location, ⟨⟨directory, hdirectory⟩, hdestination, hwilling⟩, rfl⟩
    have hnew := disk.name_new tree path directory
    have hcreate : disk.attempt .create (tree.directoryOf path) = .ok directory :=
      (disk.attempt_eq_ok_iff _ _ _).2 ⟨hdirectory, hwilling _⟩
    have hwrite : disk.attempt .write (.ok ()) = .ok () :=
      (disk.attempt_eq_ok_iff _ _ _).2 ⟨rfl, hwilling _⟩
    have hrename : disk.attempt .rename ((tree.set (directory ++ [disk.name tree path directory])
        (.file bytes)).destination path) = .ok location :=
      (disk.attempt_eq_ok_iff _ _ _).2 ⟨(destination_set_new hnew _ _).2 hdestination, hwilling _⟩
    simp only [replace, hcreate, hwrite, set_set, hrename, remove_set tree _ hnew]

/-- Where the tree accepts a file, the entry that is set is the one that the path
    names. It was no directory, and no other entry changes. -/
theorem Accepts.find?_set {tree : FileTree} {disk : Disk} {path : String} {location : Location}
    (h : tree.Accepts disk path location) (bytes : List UInt8) :
    tree.Names path location ∧ tree.isDirectory location = false ∧
      ∀ other, (tree.set location (.file bytes)).find? other =
        if other = location then some (.file bytes) else tree.find? other := by
  rcases (tree.destination_eq_ok_iff path location).1 h.destination with ⟨_, hnames, hdirectory⟩
  exact ⟨hnames, hdirectory, fun other => tree.find?_set _ other hnames.ne_nil⟩

end FileTree

end SensorConfig
