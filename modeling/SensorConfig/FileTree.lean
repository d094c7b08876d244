import SensorConfig.Environment
import SensorConfig.Path

/-!
# File Trees

Files, directories and links, and where a path leads among them.

A tree gives an entry for each location, which is the list of names from the
root. It also has a current directory, where paths begin that do not begin at
the root. A path is walked name by name. Every name is looked up in a
directory; a link that is met is replaced by its target, which is walked from
the directory the link stands in; two dots go up, and at the root they stay.

A walk follows only so many links. That is what ends it where links lead in a
circle, and it is also why it is a recursion: over the names, and over the
number of links that may still be followed.

A slash at the end of a path asks for a directory. It is walked as one more
name, a dot.

Not everything that a path leads to can be read. The system can refuse to open a
file, and a disk can fail while it is read. Such an entry has a cause in place of
contents. It is there like any other, and can be replaced like any other.

## Main definitions

* `Entry`: What stands at a location.
* `FileTree`: Entries by location, and the current directory.
* `FileTree.walk`: Where names lead from a directory.
* `FileTree.resolve`: Where a path leads.
* `FileTree.read`: What a path gives when it is opened and read.
* `FileTree.environment`: A tree and a home directory as an environment.

## Theorems

* `FileTree.find?_set`: Setting an entry changes that entry and no other.
* `FileTree.set_set`: An entry is what it was set to last.
* `FileTree.remove_set`: Removing an entry that was new gives back the tree.
-/

namespace SensorConfig

/-- The names on the way from the root to an entry. -/
abbrev Location := List String

/-- What stands at a location. -/
inductive Entry where
  | file (bytes : List UInt8)
  | link (target : String)
  | directory
  | device (content : Content)
  /-- Something that gives a cause when it is opened or read. -/
  | unreadable (cause : Cause)

/-- Entries by location, and the directory where relative paths begin. The root
    is a directory whether it is listed or not. -/
structure FileTree where
  entries : List (Location × Entry)
  current : Location

namespace FileTree

/-- The longest name, in bytes. -/
def maxName : Nat := 255

/-- One more than the longest path, in bytes. -/
def pathLimit : Nat := 4096

/-- How many links one walk follows. -/
def maxLinks : Nat := 40

/-- The entry at a location. -/
def find? (tree : FileTree) : Location → Option Entry
  | [] => some .directory
  | name :: names => tree.entries.lookup (name :: names)

/-- The tree with an entry at a location, in place of the one that was
    there. -/
def set (tree : FileTree) (location : Location) (entry : Entry) : FileTree :=
  { tree with entries := (location, entry) :: tree.entries.filter (·.1 ≠ location) }

/-- The tree without the entry at a location. -/
def remove (tree : FileTree) (location : Location) : FileTree :=
  { tree with entries := tree.entries.filter (·.1 ≠ location) }

/-- Whether a directory stands at a location. -/
def isDirectory (tree : FileTree) (location : Location) : Bool :=
  match tree.find? location with
  | some .directory => true
  | _ => false

/-- Where a path begins: the root, or a directory. -/
def origin (directory : Location) (path : String) : Location :=
  if Path.isAbsolute path then [] else directory

/-- The names to walk for a path, with a dot for a slash at its end. -/
def steps (path : String) : List String :=
  Path.names path ++ if Path.endsInSlash path then ["."] else []

/-- Where names lead from a location. A link is left to `follow`, with the
    location to go on from and the names to go on with. -/
def walkNames (follow : Location → List String → Except Cause Location) (tree : FileTree) :
    Location → List String → Except Cause Location
  | here, [] => .ok here
  | here, name :: names =>
      -- A dot too is looked up, and only a directory can be looked into.
      if !tree.isDirectory here then .error .notDirectory
      else if name = "." then walkNames follow tree here names
      else if name = ".." then walkNames follow tree here.dropLast names
      else if name.utf8ByteSize > maxName then .error .nameTooLong
      else
        match tree.find? (here ++ [name]) with
        | none => .error .notFound
        -- The target is walked from here, and then the names that are left.
        | some (.link target) => follow (origin here target) (steps target ++ names)
        | some _ => walkNames follow tree (here ++ [name]) names

/-- Where names lead from a location, following at most `links` links. -/
def walk (tree : FileTree) : (links : Nat) → Location → List String → Except Cause Location
  | 0 => walkNames (fun _ _ => .error .tooManyLinks) tree
  | links + 1 => walkNames (walk tree links) tree

/-- Where a path leads, every link followed. -/
def resolve (tree : FileTree) (path : String) : Except Cause Location :=
  if path.isEmpty then .error .notFound
  else if path.utf8ByteSize ≥ pathLimit then .error .nameTooLong
  else tree.walk maxLinks (origin tree.current path) (steps path)

/-- What a path gives when it is opened and read. A directory can be opened and
    cannot be read. -/
def read (tree : FileTree) (path : String) : Except Cause Content :=
  if Path.holdsNul path then .error .holdsNul
  else
    match tree.resolve path with
    | .error cause => .error cause
    | .ok location =>
        match tree.find? location with
        | some (.file bytes) => .ok (.finite bytes)
        | some (.device content) => .ok content
        | some (.unreadable cause) => .error cause
        | some .directory => .error .isDirectory
        | some (.link _) | none => .error .notFound

/-- A tree and a home directory as what a configuration may consult. -/
def environment (tree : FileTree) (home : Option String) : Environment :=
  { home := home, files := tree.read }

theorem lookup_filter_ne (entries : List (Location × Entry)) {location other : Location}
    (h : other ≠ location) :
    (entries.filter (·.1 ≠ location)).lookup other = entries.lookup other := by
  induction entries with
  | nil => rfl
  | cons e entries ih =>
      rcases e with ⟨key, entry⟩
      by_cases hkey : key = location
      · subst hkey
        -- The entry that is left out has another key than the one that is looked up.
        rw [List.filter_cons_of_neg (by simp), ih, List.lookup_cons, beq_false_of_ne h]
      · rw [List.filter_cons_of_pos (by simp [hkey]), List.lookup_cons, List.lookup_cons, ih]

/-- Setting an entry changes that entry and no other. The root is a directory
    and stays one. -/
theorem find?_set (tree : FileTree) {location : Location} (entry : Entry) (other : Location)
    (h : location ≠ []) :
    (tree.set location entry).find? other =
      if other = location then some entry else tree.find? other := by
  cases other with
  | nil =>
      rw [if_neg (Ne.symm h)]
      rfl
  | cons name names =>
      by_cases hother : name :: names = location
      · rw [if_pos hother, find?, set, hother, List.lookup_cons_self]
      · rw [if_neg hother, find?, find?, set, List.lookup_cons, beq_false_of_ne hother]
        exact lookup_filter_ne tree.entries hother

/-- Nothing stands at a location other than the root if no entry is listed for
    it. -/
theorem find?_eq_none_iff (tree : FileTree) (location : Location) :
    tree.find? location = none ↔ location ≠ [] ∧ ∀ e ∈ tree.entries, e.1 ≠ location := by
  cases location with
  | nil => simp only [find?, reduceCtorEq, ne_eq, not_true_eq_false, false_and]
  | cons name names =>
      rw [find?, List.lookup_eq_none_iff]
      simp only [bne_iff_ne, ne_comm, ne_eq, reduceCtorEq, not_false_eq_true, true_and]

/-- Setting an entry twice is setting it to what it is set to last. -/
theorem set_set (tree : FileTree) (location : Location) (first last : Entry) :
    (tree.set location first).set location last = tree.set location last := by
  simp only [set, List.filter_cons, ne_eq, not_true_eq_false, decide_false, Bool.false_eq_true,
    ↓reduceIte, List.filter_filter, Bool.and_self]

/-- Removing an entry that was new gives back the tree. -/
theorem remove_set (tree : FileTree) {location : Location} (entry : Entry)
    (h : tree.find? location = none) : (tree.set location entry).remove location = tree := by
  -- There was nothing at the location, so nothing else is left out.
  have hkeep : tree.entries.filter (·.1 ≠ location) = tree.entries :=
    List.filter_eq_self.2 fun e he => by
      simpa using ((tree.find?_eq_none_iff location).1 h).2 e he
  rw [remove, set]
  simp only [List.filter_cons_of_neg, ne_eq, not_true_eq_false, decide_false,
    Bool.false_eq_true, not_false_eq_true]
  rw [hkeep, hkeep]

end FileTree

end SensorConfig
