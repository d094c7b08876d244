import SensorConfig.FileTree

/-!
# Replacing Files

Putting a file in place of another so that a reader finds the one or the other.

The bytes are first written to a temporary file beside the destination, under a
name that nothing has. The temporary file is then renamed to the destination.
Renaming changes one entry and does so at once. It does not follow a link at
the destination, so a link is replaced and its target keeps its contents.

Every step can fail. The directory of the destination is found from the parts
of the path, where a dot or a slash at the end counts for nothing, so `d/` has
the directory of `d`. The temporary file is made under a path from the root,
which can be too long for the system where the path of the destination is not.
Renaming looks at the path as it is written, and there a slash at the end asks
for a directory, which a file is not. A disk can also refuse a step that
nothing in the tree forbids, as it does when it is full. Wherever a replacement
fails, the temporary file is removed, and what remains is the tree as it was.

Which name the temporary file gets is up to the disk, as long as it is new. The
disk that refuses nothing takes one that no path and no link leads to. How the
cause of a failure is passed on is up to the disk too: it may say more, such as
where the temporary file was to be.

## Main definitions

* `FileTree.lengthFromRoot`: The length of a directory's path from the root.
* `FileTree.directoryOf`: Where the temporary file for a path goes.
* `FileTree.destination`: Which entry renaming to a path changes.
* `FileTree.temporaryName`: A name that nothing has or refers to.
* `Disk`: The name of a temporary file, the steps that are refused, and how that is
  passed on.
* `Disk.willing`: A disk that refuses nothing.
* `FileTree.replace`: Put a file in place of what a path names.

## Theorems

* `FileTree.find?_temporary`: Nothing stands at a temporary location.
* `FileTree.replace_error`: A replacement that fails leaves the tree as it was.
-/

namespace SensorConfig

namespace FileTree

/-- The length of a temporary name with the slash before it, which a path has
    to have room for. -/
def temporaryRoom : Nat := 11

/-- The length of a directory's path from the root, in bytes. What is written
    counts as it is written, and a relative path goes on from the current
    directory and a slash. -/
def lengthFromRoot (tree : FileTree) (directory : String) : Nat :=
  if Path.isAbsolute directory then directory.utf8ByteSize
  else
    let current := tree.current.foldr (fun name count => name.utf8ByteSize + 1 + count) 0
    current + 1 + directory.utf8ByteSize

/-- The directory that takes the temporary file for a path: that of its last
    part. The temporary file has a path from the root, whatever the path it is
    made for. -/
def directoryOf (tree : FileTree) (path : String) : Except Cause Location :=
  let directory := Path.directory path
  if Path.holdsNul directory then .error .holdsNul
  else if tree.lengthFromRoot directory + temporaryRoom ≥ pathLimit then .error .nameTooLong
  else
    match tree.walk maxLinks (origin tree.current directory) (Path.names directory) with
    | .error cause => .error cause
    | .ok location => if tree.isDirectory location then .ok location else .error .notDirectory

/-- The entry that renaming a file to a path changes. The last name is not
    followed if it is a link. It has to be a name, and nothing but a directory
    may be named with a slash at the end. -/
def destination (tree : FileTree) (path : String) : Except Cause Location :=
  -- The path as a whole is looked at first, then the way, then the last name.
  if Path.holdsNul path then .error .invalidArgument
  else if path.isEmpty then .error .notFound
  else if path.utf8ByteSize ≥ pathLimit then .error .nameTooLong
  else
    let names := Path.names path
    match names.getLast? with
    | none => .error .busy
    | some last =>
        match tree.walk maxLinks (origin tree.current path) names.dropLast with
        | .error cause => .error cause
        | .ok here =>
            if !tree.isDirectory here then .error .notDirectory
            else if last = "." ∨ last = ".." then .error .busy
            else if last.utf8ByteSize > maxName then .error .nameTooLong
            else if Path.endsInSlash path then .error .notDirectory
            else if tree.isDirectory (here ++ [last]) then .error .isDirectory
            -- What stands here is replaced, a link as well as a file.
            else .ok (here ++ [last])

/-- The texts in which names of a tree occur: those of its locations and the
    targets of its links. -/
def texts (tree : FileTree) : List String :=
  tree.current ++ tree.entries.flatMap fun (location, entry) =>
    match entry with
    | .link target => target :: location
    | _ => location

/-- A name longer than every text in which a name occurs, in the tree or in a
    path. -/
def temporaryName (tree : FileTree) (path : String) : String :=
  let longest := ((path :: tree.texts).map String.length).foldl max 0
  String.ofList ('.' :: List.replicate longest 't')

theorem le_foldl_max (start : Nat) (ns : List Nat) :
    start ≤ ns.foldl max start ∧ ∀ n ∈ ns, n ≤ ns.foldl max start := by
  induction ns generalizing start with
  | nil => simp
  | cons m ns ih =>
      have h := ih (max start m)
      refine ⟨?_, ?_⟩
      · exact Nat.le_trans (Nat.le_max_left start m) h.1
      · intro n hn
        rcases List.mem_cons.1 hn with rfl | hn
        · exact Nat.le_trans (Nat.le_max_right start n) h.1
        · exact h.2 n hn

/-- A temporary name is longer than every text in which a name occurs. -/
theorem length_lt_temporaryName (tree : FileTree) (path : String) {text : String}
    (h : text ∈ path :: tree.texts) : text.length < (tree.temporaryName path).length := by
  have hle := (le_foldl_max 0 ((path :: tree.texts).map String.length)).2 text.length
    (List.mem_map_of_mem h)
  rw [temporaryName, String.length_ofList, List.length_cons, List.length_replicate]
  omega

/-- Nothing stands at a temporary location. -/
theorem find?_temporary (tree : FileTree) (path : String) (directory : Location) :
    tree.find? (directory ++ [tree.temporaryName path]) = none := by
  rw [find?_eq_none_iff]
  refine ⟨List.concat_ne_nil _ _, fun e he heq => ?_⟩
  have hmem : tree.temporaryName path ∈ path :: tree.texts := by
    refine List.mem_cons_of_mem path (List.mem_append_right tree.current ?_)
    refine List.mem_flatMap.2 ⟨e, he, ?_⟩
    rcases e with ⟨location, entry⟩
    -- The name would be the last on the way to the entry.
    have hlocation : tree.temporaryName path ∈ location := by
      simp only at heq
      rw [heq]
      exact List.mem_append_right directory (List.mem_singleton.2 rfl)
    cases entry with
    | link target => exact List.mem_cons_of_mem target hlocation
    | file bytes => exact hlocation
    | directory => exact hlocation
    | device content => exact hlocation
    | unreadable cause => exact hlocation
  -- A name of the tree is shorter than the one that was chosen.
  exact Nat.lt_irrefl _ (length_lt_temporaryName tree path hmem)

end FileTree

/-- The steps of a replacement, each of which a disk can refuse. -/
inductive ReplaceStep where
  | create
  | write
  | rename
  deriving DecidableEq, Repr

/-- What a disk brings to a replacement apart from the tree that is on it, with the
    means by which temporary files are made there: a name for the temporary file,
    which is new in its directory, the steps that are refused although nothing in
    the tree forbids them, and how the cause of a failure is passed on. -/
structure Disk where
  name : FileTree → String → Location → String
  name_new : ∀ (tree : FileTree) (path : String) (directory : Location),
    tree.find? (directory ++ [name tree path directory]) = none
  refusal? : ReplaceStep → Option Cause
  reported : FileTree → String → ReplaceStep → Cause → Cause

namespace Disk

/-- A disk that refuses nothing and passes on causes as they are. Its temporary names
    are such that no path and no link leads to them. -/
def willing : Disk where
  name tree path _ := tree.temporaryName path
  name_new tree path directory := tree.find?_temporary path directory
  refusal? _ := none
  reported _ _ _ cause := cause

/-- What a step gives, unless the disk refuses it. -/
def attempt {α : Type} (disk : Disk) (step : ReplaceStep) (result : Except Cause α) :
    Except (ReplaceStep × Cause) α :=
  match result, disk.refusal? step with
  | .error cause, _ | .ok _, some cause => .error (step, cause)
  | .ok value, none => .ok value

end Disk

namespace FileTree

/-- Put a file in place of what a path names. The temporary file is gone
    afterwards, whether it was renamed or not. -/
def replace (tree : FileTree) (path : String) (bytes : List UInt8) (disk : Disk := .willing) :
    Except (ReplaceStep × Cause) Unit × FileTree :=
  match disk.attempt .create (tree.directoryOf path) with
  | .error failure => (.error failure, tree)
  | .ok directory =>
      let temporary := directory ++ [disk.name tree path directory]
      let created := tree.set temporary (.file [])
      match disk.attempt .write (.ok ()) with
      -- As much of the bytes as was written goes with the file.
      | .error failure => (.error failure, created.remove temporary)
      | .ok () =>
          let written := created.set temporary (.file bytes)
          match disk.attempt .rename (written.destination path) with
          | .error failure => (.error failure, written.remove temporary)
          | .ok location => (.ok (), (written.remove temporary).set location (.file bytes))

/-- A replacement that fails leaves the tree as it was. -/
theorem replace_error {tree after : FileTree} {path : String} {bytes : List UInt8} {disk : Disk}
    {failure : ReplaceStep × Cause}
    (h : tree.replace path bytes disk = (.error failure, after)) : after = tree := by
  simp only [replace] at h
  split at h
  -- Without a directory nothing was written.
  · exact (Prod.mk.inj h).2.symm
  · next directory _ =>
    have hnew := disk.name_new tree path directory
    split at h
    -- The temporary file was new, so removing it gives back the tree.
    · rw [← (Prod.mk.inj h).2, remove_set tree _ hnew]
    · split at h
      · rw [← (Prod.mk.inj h).2, set_set, remove_set tree _ hnew]
      · simp at h

end FileTree

end SensorConfig
