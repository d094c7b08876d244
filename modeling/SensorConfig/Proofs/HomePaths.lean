import SensorConfig.Proofs.BoundedFiles
import SensorConfig.Proofs.SetLineFaults

/-!
# Paths Under the Home Directory

Where the file of a line is looked for, and how far from home that can be.

A file name that begins with a tilde and a slash is filled in as text, and text has no
notion of staying in a directory. That the path stays there comes from how paths are
taken apart. There is a slash between the home directory and the rest, so the parts of
the one are followed by the parts of the other, however many slashes there are beside
it, and nothing in the rest can move the beginning. Only an empty home directory could
not stand this: the slash would be the first character of the path.

Two dots are what is left. `Path.place` goes through the parts of a path and lets two
dots take back a part, which is all that can be told from the path alone. A path lies
under a directory if it leads on from the place of the directory by names that do not
lead up, and parts without two dots do.

Which file a line opens is told from outside: the files of an environment are exchanged
and the line is read again. `Line.Opens` says that only what one path gives makes a
difference, and that a fault of reading shows this path. The reader then never has to be
looked into, and it turns out to open the file that can be told from the line alone.

## Main definitions

* `Path.place`: Where a path leads, told from the path alone.
* `Path.LiesUnder`: A path does not lead out of a directory.
* `Line.Opens`: A line opens the file of a path, and no other.

## Theorems

* `Path.liesUnder_slash`: Parts without two dots do not lead out.
* `Setting.ofLine_of_unreadable`, `Setting.setsFromFile_of_unreadable`: A file of a line
  is unreadable where its path gives nothing.
* `Line.opens_iff`: A line opens the file it refers to.
* `Line.opens_underHome`: A name with a tilde opens a file under the home directory.
-/

namespace SensorConfig

namespace Path

/-- Where a name leads from the names so far. Two dots take back the name before them.
    At the root there is none, and elsewhere two dots without a name before them stay. -/
def enter (absolute : Bool) (above : List String) (name : String) : List String :=
  if name ≠ ".." then above ++ [name]
  else
    match above.getLast? with
    | none => if absolute then [] else [".."]
    | some last => if last = ".." then above ++ [".."] else above.dropLast

/-- Where a path leads, told from the path alone: its names after two dots have taken
    back what they can. -/
def place (path : String) : List String :=
  (parts path).foldl (enter (isAbsolute path)) []

/-- A path lies under a directory: it begins where the directory's path does, and its
    place is that of the directory and then names that do not lead up. -/
structure LiesUnder (directory path : String) : Prop where
  begins : isAbsolute path = isAbsolute directory
  goes_on : ∃ below, place path = place directory ++ below ∧ ".." ∉ below

/-- What goes on behind the place of a directory is what is left of the place of the
    path. -/
theorem liesUnder_iff (directory path : String) :
    LiesUnder directory path ↔ isAbsolute path = isAbsolute directory ∧
      place directory <+: place path ∧ ".." ∉ (place path).drop (place directory).length := by
  constructor
  · rintro ⟨hbegins, below, hplace, hdots⟩
    rw [hplace, List.drop_left]
    exact ⟨hbegins, List.prefix_append _ _, hdots⟩
  · rintro ⟨hbegins, ⟨below, hplace⟩, hdots⟩
    rw [← hplace, List.drop_left] at hdots
    exact ⟨hbegins, below, hplace.symm, hdots⟩

instance (directory path : String) : Decidable (LiesUnder directory path) :=
  decidable_of_iff _ (liesUnder_iff directory path).symm

/-- Two dots take back the part before them, and behind that they lead out. -/
example : LiesUnder "/home/d" "/home/d/a/../b" ∧ ¬ LiesUnder "/home/d" "/home/d/a/../../b" := by
  decide

/-- Names that are not two dots only lead on. -/
theorem foldl_enter_of_no_dots (absolute : Bool) (above : List String) {names : List String}
    (h : ".." ∉ names) : names.foldl (enter absolute) above = above ++ names := by
  induction names generalizing above with
  | nil => rw [List.foldl_nil, List.append_nil]
  | cons name names ih =>
      rw [List.mem_cons, not_or] at h
      have hname : enter absolute above name = above ++ [name] := if_pos (Ne.symm h.1)
      rw [List.foldl_cons, hname, ih _ h.2, List.append_assoc, List.singleton_append]

/-- A path that goes on behind a directory and a slash lies under the directory, if no
    two dots follow. -/
theorem liesUnder_slash {directory rest : String} (h : directory ≠ "")
    (hdots : ".." ∉ parts rest) : LiesUnder directory (directory ++ "/" ++ rest) := by
  have hbegins := isAbsolute_slash rest h
  refine ⟨hbegins, parts rest, ?_, hdots⟩
  rw [place, place, hbegins, parts_slash, List.foldl_append, foldl_enter_of_no_dots _ _ hdots]

end Path

section

variable {registry : Registry} {environment : Environment} {home : Option String} {line : Line}
  {v v' : Variable} {path path' : String}

/-- A line refers to one file. -/
theorem SetsFromFile.unique (h : SetsFromFile registry home line v path)
    (h' : SetsFromFile registry home line v' path') : path' = path := by
  rcases h with ⟨set, name, hset, _, hvalue, _, hpath⟩
  rcases h' with ⟨set', name', hset', _, hvalue', _, hpath'⟩
  cases hset.symm.trans hset'
  cases hvalue.symm.trans hvalue'
  exact Option.some.inj (hpath'.symm.trans hpath)

/-- A value that shows a path is the name of a file that cannot be read. -/
theorem Operand.unreadable_of_resolve {number count : Nat} {value : List Char} {cause : Cause}
    (h : resolve environment v count value = .error (.unreadable number path cause)) :
    number = count ∧ environment.files path = .error cause ∧
      ∃ name, WrittenValue.read? value = some ⟨true, name⟩ ∧ name ≠ [] ∧
        Path.expandTilde environment.home name = some path := by
  unfold resolve at h
  split at h
  · cases h
  · cases h
  · next name hvalue =>
    rcases cases_of_readFile h with hfault | hfault | ⟨_, _, hname, hpath, hfile, hfault⟩ |
      ⟨_, hfault⟩
    · cases hfault
    · cases hfault
    · cases hfault
      exact ⟨rfl, Environment.read_eq_error_iff.1 hfile, name, hvalue, hname, hpath⟩
    · cases hfault

namespace Setting

/-- A line is at fault where its file cannot be read, and the fault shows the path. -/
theorem ofLine_of_unreadable {cause : Cause}
    (hline : SetsFromFile registry environment.home line v path)
    (hfile : environment.files path = .error cause) :
    ofLine registry environment line = .error (.unreadable line.number path cause) := by
  rcases hline with ⟨set, name, hset, hlookup, hvalue, hname, hpath⟩
  rw [ofLine_of_read? hset, ofSetLine, hlookup]
  simp only [Operand.resolve, hvalue, Operand.readFile_of_unreadable hname hpath hfile]

/-- A fault that shows a path is that of a line that refers to the file and cannot read
    it. -/
theorem setsFromFile_of_unreadable {number : Nat} {cause : Cause}
    (h : ofLine registry environment line = .error (.unreadable number path cause)) :
    number = line.number ∧ environment.files path = .error cause ∧
      ∃ v, SetsFromFile registry environment.home line v path := by
  unfold ofLine at h
  split at h
  · rw [noSetLine_eq] at h
    cases h
  · next set hset =>
    split at h
    · cases h
    · next v hlookup =>
      split at h
      · next hresolve =>
        cases h
        rcases Operand.unreadable_of_resolve hresolve with ⟨hnumber, hfile, name, hvalue, hname,
          hpath⟩
        exact ⟨hnumber, hfile, v, set, name, hset, hlookup, hvalue, hname, hpath⟩
      -- No fault of a value that has been read shows a path.
      · rcases cases_of_ofOperand h with hfault | ⟨_, _, _, hfault⟩ | ⟨_, hfault⟩
        · cases hfault
        · cases hfault
        · cases hfault

end Setting

namespace Line

/-- A line opens the file of a path, and no other: what it sets depends on what this
    path gives and on nothing else, and a fault of reading shows this path just where it
    gives nothing. -/
structure Opens (registry : Registry) (home : Option String) (line : Line) (path : String) :
    Prop where
  only : ∀ files files' : String → Except Cause Content, files path = files' path →
    Setting.ofLine registry ⟨home, files⟩ line = Setting.ofLine registry ⟨home, files'⟩ line
  shown : ∀ (files : String → Except Cause Content) number shown cause,
    Setting.ofLine registry ⟨home, files⟩ line = .error (.unreadable number shown cause) ↔
      number = line.number ∧ shown = path ∧ files path = .error cause

/-- A line that refers to a file opens it. -/
theorem opens_of_setsFromFile (h : SetsFromFile registry home line v path) :
    line.Opens registry home path := by
  refine ⟨fun files files' hsame => ?_, fun files number shown cause => ⟨fun hfault => ?_, ?_⟩⟩
  -- What the path gives decides whether the line is at fault for it.
  · cases hfile : files path with
    | error cause =>
        rw [Setting.ofLine_of_unreadable h hfile,
          Setting.ofLine_of_unreadable h (hsame.symm.trans hfile)]
    | ok content =>
        rw [Setting.ofLine_of_setsFromFile h hfile,
          Setting.ofLine_of_setsFromFile h (hsame.symm.trans hfile)]
  · rcases Setting.setsFromFile_of_unreadable hfault with ⟨hnumber, hfile, v', h'⟩
    cases h.unique h'
    exact ⟨hnumber, rfl, hfile⟩
  · rintro ⟨rfl, rfl, hfile⟩
    exact Setting.ofLine_of_unreadable h hfile

/-- A line opens the file that it refers to, and no line opens another. -/
theorem opens_iff :
    line.Opens registry home path ↔ ∃ v, SetsFromFile registry home line v path := by
  constructor
  · intro h
    -- Where there are no files at all, the line is at fault for the one that it opens.
    have hfault :=
      (h.shown (fun _ => .error .notFound) line.number path .notFound).2 ⟨rfl, rfl, rfl⟩
    exact (Setting.setsFromFile_of_unreadable hfault).2.2
  · rintro ⟨v, h⟩
    exact opens_of_setsFromFile h

/-- A line that writes the name of a file opens it if the variable is registered, the
    name is not empty and the home directory is there if it is needed. -/
theorem Writes.opens_iff {name file : List Char} (h : line.Writes name true file) :
    line.Opens registry home path ↔
      (registry.lookup? (String.ofList name)).isSome ∧ file ≠ [] ∧
        Path.expandTilde home file = some path := by
  rcases (writes_iff _ _ _ _).1 h with ⟨value, hset, hread⟩
  rw [sets_iff] at hset
  rw [Line.opens_iff]
  constructor
  · rintro ⟨v, set, other, hset', hlookup, hvalue, hfile, hpath⟩
    cases hset.symm.trans hset'
    cases hread.symm.trans hvalue
    exact ⟨Option.isSome_of_eq_some hlookup, hfile, hpath⟩
  · rintro ⟨hsome, hfile, hpath⟩
    rcases Option.isSome_iff_exists.1 hsome with ⟨v, hlookup⟩
    exact ⟨v, _, file, hset, hlookup, hread, hfile, hpath⟩

end Line

end

namespace Line

/-- The file of a line is looked for where its name says. A name that begins with a
    tilde and a slash says the home directory, a slash and what follows, as text. This
    path has the parts of the home directory and then those of what follows, it begins
    at the root if the home directory does, and it lies under the home directory if no
    two dots follow. Any other name says itself, with a home directory or without. A
    line of no registered variable opens no file, and neither does an empty name. -/
theorem opens_underHome (registry : Registry) {line : Line} {name file : List Char}
    (hwrites : line.Writes name true file) :
    (∀ home rest, home ≠ "" → file = '~' :: '/' :: rest →
      (∀ path, line.Opens registry (some home) path ↔
        (registry.lookup? (String.ofList name)).isSome ∧
          path = home ++ "/" ++ String.ofList rest) ∧
      Path.parts (home ++ "/" ++ String.ofList rest) =
        Path.parts home ++ Path.parts (String.ofList rest) ∧
      Path.isAbsolute (home ++ "/" ++ String.ofList rest) = Path.isAbsolute home ∧
      (".." ∉ Path.parts (String.ofList rest) →
        Path.LiesUnder home (home ++ "/" ++ String.ofList rest))) ∧
    ((∀ rest, file ≠ '~' :: '/' :: rest) → ∀ home path, line.Opens registry home path ↔
      (registry.lookup? (String.ofList name)).isSome ∧ file ≠ [] ∧ path = String.ofList file) := by
  refine ⟨fun home rest hhome htilde => ?_, fun hplain home path => ?_⟩
  · refine ⟨fun path => ?_, Path.parts_slash _ _, Path.isAbsolute_slash _ hhome,
      Path.liesUnder_slash hhome⟩
    have hne : file ≠ [] := by
      rw [htilde]
      exact List.cons_ne_nil _ _
    have hpath : Path.expandTilde (some home) file = some (home ++ "/" ++ String.ofList rest) := by
      rw [htilde]
      rfl
    rw [hwrites.opens_iff, hpath, Option.some.injEq, eq_comm (b := path)]
    exact ⟨fun h => ⟨h.1, h.2.2⟩, fun h => ⟨h.1, hne, h.2⟩⟩
  · rw [hwrites.opens_iff, Path.expandTilde_of_no_tilde home hplain, Option.some.injEq,
      eq_comm (b := path)]

/-- A quoted name that looks like a path from the root, for a home directory with a slash
    at its end, and the home directory of another user where none is set. -/
theorem opens_underHome_slashes :
    (∀ path, Opens .snappySense (some "/home/d/")
        ⟨"set mqtt-root-cert @\"~//etc/./~/x\"".toList, 2⟩ path ↔
      path = "/home/d///etc/./~/x") ∧
    Path.LiesUnder "/home/d/" "/home/d///etc/./~/x" ∧
    ∀ path, Opens .snappySense none ⟨"set ssid1 @~user/x".toList, 3⟩ path ↔ path = "~user/x" := by
  have hquoted : Writes ⟨"set mqtt-root-cert @\"~//etc/./~/x\"".toList, 2⟩
      "mqtt-root-cert".toList true "~//etc/./~/x".toList :=
    (writes_iff _ _ _ _).2 ⟨"@\"~//etc/./~/x\"".toList, (sets_iff _ _ _).2 (by decide), by decide⟩
  have hbare : Writes ⟨"set ssid1 @~user/x".toList, 3⟩ "ssid1".toList true "~user/x".toList :=
    (writes_iff _ _ _ _).2 ⟨"@~user/x".toList, (sets_iff _ _ _).2 (by decide), by decide⟩
  rcases (opens_underHome .snappySense hquoted).1 "/home/d/" "/etc/./~/x".toList (by decide) rfl
    with ⟨hopens, _, _, hunder⟩
  refine ⟨fun path => ?_, hunder (by decide), fun path => ?_⟩
  · rw [hopens path]
    exact and_iff_right (by decide)
  · rw [(opens_underHome .snappySense hbare).2 (fun rest => by simp) none path]
    rw [and_iff_right (by decide), and_iff_right (by decide)]
    rfl

end Line

end SensorConfig
