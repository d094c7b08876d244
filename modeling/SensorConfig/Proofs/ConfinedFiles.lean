import SensorConfig.Proofs.ConsultedFiles
import SensorConfig.Proofs.HomePaths
import SensorConfig.Proofs.WalkedPaths

/-!
# Confined Files

A text whose file names stay under the home directory.

That a path lies under the home directory is told from the path alone. What is read
depends on the tree as well: the home directory can be a link, the way to it can lead
through others, and a link below it can lead anywhere. So the question is put to two
trees that have the same below the place where the home directory leads, and may have
anything elsewhere. If there are no links below that place, and the names of a text do
not go up, the text compiles alike in both.

A walk is cut for this where it has come to the home directory. How many links have been
followed up to there differs from tree to tree. It does not matter, as no link is met on
the way that is left.

## Main definitions

* `FileTree.SameBelow`: Two trees have the same at a location and below it.
* `FileTree.NoLinksBelow`: No link is stored below a location.

## Theorems

* `Path.names_eq_splitOn`: The names of a path are what stands between slashes.
* `FileTree.SameBelow.walk_eq`: Without links, walks in both trees go alike.
* `FileTree.SameBelow.read_eq`: A path under the home directory reads the same.
* `compilesAlike_of_sameBelow`: A text with such paths compiles alike.
-/

namespace SensorConfig

namespace Path

theorem runsFrom_eq_splitOn {run : List Char} (text : List Char) (hrun : '/' ∉ run.reverse) :
    runsFrom run text = ((run.reverse ++ text).splitOn '/').filter (· ≠ []) := by
  induction text generalizing run with
  | nil =>
      rw [runsFrom, List.append_nil, List.splitOn_eq_singleton hrun]
      cases run with
      | nil => rfl
      | cons c run => simp
  | cons c text ih =>
      by_cases hslash : c = '/'
      · subst hslash
        rw [runsFrom, if_pos rfl, List.splitOn_append_cons_self_of_not_mem hrun,
          ih List.not_mem_nil]
        -- An empty run ends in the slash and is left out on both sides.
        cases run with
        | nil => rfl
        | cons d run => simp
      · have hcons : '/' ∉ (c :: run).reverse := by
          rw [List.reverse_cons, List.mem_append, List.mem_singleton, not_or]
          exact ⟨hrun, Ne.symm hslash⟩
        rw [runsFrom, if_neg hslash, ih hcons, List.reverse_cons, List.append_assoc,
          List.singleton_append]

/-- The names of a path are what stands between slashes, if anything does. -/
theorem names_eq_splitOn (path : String) :
    names path = ((path.toList.splitOn '/').filter (· ≠ [])).map String.ofList := by
  rw [names, runsFrom_eq_splitOn _ List.not_mem_nil, List.reverse_nil, List.nil_append]

/-- Two dots are a name of a path if they stand between slashes. -/
theorem dots_mem_names_iff (path : String) :
    ".." ∈ names path ↔ ['.', '.'] ∈ path.toList.splitOn '/' := by
  have hdots : ".." = String.ofList ['.', '.'] := rfl
  rw [names_eq_splitOn, hdots, List.mem_map_of_injective fun _ _ h => String.ofList_injective h]
  simp

end Path

namespace FileTree

/-- Two trees have the same at a location and below it. -/
def SameBelow (left right : FileTree) (there : Location) : Prop :=
  ∀ below, left.find? (there ++ below) = right.find? (there ++ below)

/-- No link is stored below a location. -/
def NoLinksBelow (tree : FileTree) (there : Location) : Prop :=
  ∀ name names target, tree.find? (there ++ name :: names) ≠ some (.link target)

section

variable {left right tree : FileTree} {here there : Location} {names : List String}

theorem SameBelow.find?_eq (h : SameBelow left right there) (hbelow : there <+: here) :
    left.find? here = right.find? here := by
  rcases hbelow with ⟨below, rfl⟩
  exact h below

theorem SameBelow.isDirectory_eq (h : SameBelow left right there) (hbelow : there <+: here) :
    left.isDirectory here = right.isDirectory here := by
  rw [isDirectory, isDirectory, h.find?_eq hbelow]

/-- No name is that of a link at a location or below it, if there are no links below. -/
theorem NoLinksBelow.find?_ne (hlinks : tree.NoLinksBelow there) (hbelow : there <+: here)
    (name target : String) : tree.find? (here ++ [name]) ≠ some (.link target) := by
  rcases hbelow with ⟨below, rfl⟩
  rw [List.append_assoc]
  cases below with
  | nil => exact hlinks name [] target
  | cons first below => exact hlinks first (below ++ [name]) target

/-- Where there are no links, names that do not go up lead to the same place in both
    trees, and it is below. -/
theorem SameBelow.walkNames_eq (h : SameBelow left right there) (hlinks : left.NoLinksBelow there)
    (hbelow : there <+: here) (hdots : ".." ∉ names)
    (follow later : Location → List String → Except Cause Location) :
    walkNames follow left here names = walkNames later right here names ∧
      ∀ found, walkNames follow left here names = .ok found → there <+: found := by
  -- The names are taken from a location at the place or below it, and they keep to it.
  induction names generalizing here with
  | nil => exact ⟨rfl, fun found hfound => Except.ok.inj hfound ▸ hbelow⟩
  | cons name names ih =>
      rw [List.mem_cons, not_or] at hdots
      have hchild : there <+: here ++ [name] := hbelow.trans (List.prefix_append _ _)
      have hname : name ≠ ".." := Ne.symm hdots.1
      simp only [walkNames, ← h.isDirectory_eq hbelow, ← h.find?_eq hchild, hname, ↓reduceIte]
      split
      · exact ⟨rfl, fun found hfound => by cases hfound⟩
      · split
        · exact ih hbelow hdots.2
        · split
          · exact ⟨rfl, fun found hfound => by cases hfound⟩
          · split
            · exact ⟨rfl, fun found hfound => by cases hfound⟩
            · next target hlink => exact absurd hlink (hlinks.find?_ne hbelow name target)
            · exact ih hchild hdots.2

/-- A walk takes names in one way, however many links are left. -/
theorem exists_walk_eq (tree : FileTree) (links : Nat) :
    ∃ follow, tree.walk links = walkNames follow tree := by
  cases links with
  | zero => exact ⟨_, rfl⟩
  | succ links => exact ⟨_, rfl⟩

/-- So walks from there go alike in both trees, however many links are left in each. -/
theorem SameBelow.walk_eq (h : SameBelow left right there) (hlinks : left.NoLinksBelow there)
    (hdots : ".." ∉ names) (links links' : Nat) :
    left.walk links there names = right.walk links' there names ∧
      ∀ found, left.walk links there names = .ok found → there <+: found := by
  rcases exists_walk_eq left links with ⟨follow, hfollow⟩
  rcases exists_walk_eq right links' with ⟨later, hlater⟩
  rw [hfollow, hlater]
  exact h.walkNames_eq hlinks (List.prefix_refl there) hdots follow later

/-- The names of a path behind the home directory are those of the home directory and
    then others, which do not go up if there are no two dots between slashes. -/
theorem exists_steps_slash (home : String) {rest : List Char}
    (hdots : ['.', '.'] ∉ rest.splitOn '/') :
    ∃ names, steps (home ++ "/" ++ String.ofList rest) = Path.names home ++ names ∧
      ".." ∉ names := by
  refine ⟨_, by rw [steps, Path.names_slash, List.append_assoc], ?_⟩
  rw [List.mem_append, not_or, Path.dots_mem_names_iff, String.toList_ofList]
  refine ⟨hdots, ?_⟩
  split
  · decide
  · exact List.not_mem_nil

/-- A path that goes on behind the home directory without two dots reads the same in
    both trees. -/
theorem SameBelow.read_eq {home : String} {rest : List Char}
    (h : SameBelow left right there) (hhome : home ≠ "")
    (hleft : left.walk maxLinks (origin left.current home) (Path.names home) = .ok there)
    (hright : right.walk maxLinks (origin right.current home) (Path.names home) = .ok there)
    (hlinks : left.NoLinksBelow there) (hdots : ['.', '.'] ∉ rest.splitOn '/') :
    left.read (home ++ "/" ++ String.ofList rest) =
      right.read (home ++ "/" ++ String.ofList rest) := by
  rcases exists_steps_slash home hdots with ⟨names, hsteps, hnames⟩
  rcases exists_walk_append hleft with ⟨links, hfirst⟩
  rcases exists_walk_append hright with ⟨links', hfirst'⟩
  rcases h.walk_eq hlinks hnames links links' with ⟨heq, hbelow⟩
  have horigin : ∀ current, origin current (home ++ "/" ++ String.ofList rest) =
      origin current home := by
    intro current
    rw [origin, origin, Path.isAbsolute_slash _ hhome]
  have hresolve : left.resolve (home ++ "/" ++ String.ofList rest) =
      right.resolve (home ++ "/" ++ String.ofList rest) := by
    simp only [resolve, horigin, hsteps, hfirst, hfirst', heq]
  unfold read
  rw [← hresolve]
  split
  · rfl
  · split
    · rfl
    · next found hfound =>
      -- Whatever is found stands below, where both trees have the same.
      have hwalk := walk_of_resolve hfound
      rw [horigin, hsteps, hfirst] at hwalk
      rw [h.find?_eq (hbelow found hwalk)]

end

end FileTree

/-- A text is confined to its home directory if its file names all begin with a tilde and
    a slash and have no two dots between slashes: two file trees in which the home
    directory leads to the same place, and which have the same there and below, without
    links, compile it to the same program and the same bytes or with the same fault,
    whatever they have elsewhere. -/
theorem compilesAlike_of_sameBelow {left right : FileTree} {home : String} {text : List Char}
    (there : Location) (hhome : home ≠ "")
    (hnames : ∀ line ∈ significantLines text, ∀ name file, line.Writes name true file →
      ∃ rest, file = '~' :: '/' :: rest ∧ ['.', '.'] ∉ rest.splitOn '/')
    (hleft : left.walk FileTree.maxLinks (FileTree.origin left.current home)
      (Path.names home) = .ok there)
    (hright : right.walk FileTree.maxLinks (FileTree.origin right.current home)
      (Path.names home) = .ok there)
    (hlinks : left.NoLinksBelow there) (hsame : left.SameBelow right there) :
    CompilesAlike (left.environment (some home)) (right.environment (some home)) text := by
  refine compilesAlike_of_fileOfLine? rfl fun line hmem path hpath => ?_
  rcases (fileOfLine?_eq_some_iff _ _ _ _).1 hpath with
    ⟨file, ⟨set, _, hset, _, hvalue, _⟩, hexpand⟩
  have hwrites : line.Writes set.name true file :=
    (line.writes_iff _ _ _).2 ⟨set.value, (line.sets_iff _ _).2 hset, hvalue⟩
  rcases hnames line hmem set.name file hwrites with ⟨rest, rfl, hdots⟩
  cases (show some (home ++ "/" ++ String.ofList rest) = some path from hexpand)
  exact hsame.read_eq hhome hleft hright hlinks hdots

/-- A home directory that is a link in one tree and a link to a link in the other. -/
theorem compilesAlike_of_sameBelow_linkedHome :
    let tree : FileTree := ⟨[(["u"], .directory), (["u", "v"], .file [0x78])], []⟩
    let left := (tree.set ["h"] (.link "u")).set ["x"] (.file [9])
    let right := (tree.set ["h"] (.link "/w")).set ["w"] (.link "u")
    CompilesAlike (left.environment (some "/h")) (right.environment (some "/h"))
      "snappysense-compiled-config 1.0.0\nset ssid1 @~//v".toList := by
  intro tree left right
  have hlines : significantLines "snappysense-compiled-config 1.0.0\nset ssid1 @~//v".toList =
      [⟨"snappysense-compiled-config 1.0.0".toList, 1⟩, ⟨"set ssid1 @~//v".toList, 2⟩] := by decide
  refine compilesAlike_of_sameBelow ["u"] (by decide) (fun line hmem name file h => ?_)
    (by decide +kernel) (by decide +kernel) (fun name names target h => ?_) (fun below => ?_)
  · rcases (Line.writes_iff _ _ _ _).1 h with ⟨value, hset, hvalue⟩
    rw [Line.sets_iff] at hset
    rw [hlines] at hmem
    simp only [List.mem_cons, List.not_mem_nil, or_false] at hmem
    rcases hmem with rfl | rfl
    · cases (show none = some _ from hset)
    · cases (show some ⟨"ssid1".toList, "@~//v".toList⟩ = some (⟨name, value⟩ : SetLine) from hset)
      cases (show some ⟨true, "~//v".toList⟩ = some (⟨true, file⟩ : WrittenValue) from hvalue)
      exact ⟨"/v".toList, rfl, by decide⟩
  · simp [left, tree, FileTree.find?, FileTree.set, List.lookup_cons] at h
    split at h
    · cases h
    · cases h
  · simp [left, right, tree, FileTree.find?, FileTree.set, List.lookup_cons]

end SensorConfig
