/-!
# Paths

File names as they are written, and the names they are made of.

A path is text and stays text: it is opened as written and shown as written.
What it is made of only matters to whoever walks it. Slashes separate names,
and several of them separate as one does. A single dot names the directory it
stands in, so a path has the same parts with it and without it. Two dots are a
name like any other here, because where they lead depends on the tree.

A name that begins with a tilde and a slash stands for a file in the home
directory. The home directory is put in front of the slash as text. However
many slashes follow the tilde, the result begins with the home directory, which
would not hold if the remainder were taken for a path of its own.

## Main definitions

* `Path.names`: The names of a path, with dots, without empty ones.
* `Path.parts`: The names of a path that are not a single dot.
* `Path.directory`: The directory of the last part, as a path.
* `Path.expandTilde`: A file name with the home directory filled in.

## Theorems

* `Path.names_slash`, `Path.parts_slash`: The names and the parts of two paths
  joined by a slash are those of the one and then of the other.
* `Path.isAbsolute_slash`: The path begins where the first of them does.
* `Path.expandTilde_of_no_tilde`: Any other name stands for itself.
-/

namespace SensorConfig

namespace Path

/-- The runs of characters between slashes, in order. The first one begins with
    the characters of `run`, which stand in reverse; an empty run is none. -/
def runsFrom (run : List Char) : List Char → List (List Char)
  | [] => if run.isEmpty then [] else [run.reverse]
  | c :: text =>
      -- A slash ends a run, and one after another slash ends nothing.
      if c = '/' then
        if run.isEmpty then runsFrom [] text else run.reverse :: runsFrom [] text
      else runsFrom (c :: run) text

/-- The names of a path, in order. -/
def names (path : String) : List String :=
  (runsFrom [] path.toList).map String.ofList

/-- The names of a path that are not a single dot. -/
def parts (path : String) : List String :=
  (names path).filter (· ≠ ".")

/-- Whether a path begins at the root. -/
def isAbsolute (path : String) : Bool :=
  path.toList.head? = some '/'

/-- A path in reverse, without the slashes and single dots that end it. -/
def dropEnding : List Char → List Char
  | '/' :: text => dropEnding text
  | ['.'] => []
  | '.' :: '/' :: text => dropEnding text
  | text => text

/-- The directory of the last part of a path: the path as it is written, up to
    the part before. Where there is no part before, it is the root or the
    current directory. A path without parts has the current directory. -/
def directory (path : String) : String :=
  let last := dropEnding path.toList.reverse
  let above := dropEnding (last.dropWhile (· ≠ '/'))
  if !above.isEmpty then String.ofList above.reverse
  else if isAbsolute path && !last.isEmpty then "/"
  else "."

/-- Whether a path can only name a directory, by a slash at its end. -/
def endsInSlash (path : String) : Bool :=
  path.toList.getLast? = some '/'

/-- Whether a path holds the character that ends one for the system. -/
def holdsNul (path : String) : Bool :=
  path.toList.any (· = '\x00')

/-- A file name with the home directory in place of a tilde before a slash, or
    nothing if there is no home directory to put there. -/
def expandTilde (home : Option String) : List Char → Option String
  | '~' :: '/' :: rest => home.map fun directory => directory ++ "/" ++ String.ofList rest
  | name => some (String.ofList name)

theorem runsFrom_slash (run left right : List Char) :
    runsFrom run (left ++ '/' :: right) = runsFrom run left ++ runsFrom [] right := by
  induction left generalizing run with
  | nil =>
      simp only [List.nil_append, runsFrom, ↓reduceIte]
      split <;> rfl
  | cons c left ih =>
      simp only [List.cons_append, runsFrom, ih]
      split
      · split <;> rfl
      · rfl

/-- The names of two paths joined by a slash are the names of the one and then
    of the other. -/
theorem names_slash (left right : String) :
    names (left ++ "/" ++ right) = names left ++ names right := by
  have htext : (left ++ "/" ++ right).toList = left.toList ++ '/' :: right.toList := by
    simp
  rw [names, htext, runsFrom_slash, List.map_append]
  rfl

/-- So are their parts. -/
theorem parts_slash (left right : String) :
    parts (left ++ "/" ++ right) = parts left ++ parts right := by
  rw [parts, names_slash, List.filter_append]
  rfl

/-- A path that goes on behind a slash begins where it did before, unless there was
    nothing before the slash. -/
theorem isAbsolute_slash {left : String} (right : String) (h : left ≠ "") :
    isAbsolute (left ++ "/" ++ right) = isAbsolute left := by
  have htext : (left ++ "/" ++ right).toList = left.toList ++ '/' :: right.toList := by
    simp
  rw [isAbsolute, isAbsolute, htext]
  cases hleft : left.toList with
  | nil => exact absurd (String.toList_eq_nil_iff.1 hleft) h
  | cons c text => rfl

/-- A name that does not begin with a tilde and a slash stands for itself. -/
theorem expandTilde_of_no_tilde {name : List Char} (home : Option String)
    (h : ∀ rest, name ≠ '~' :: '/' :: rest) :
    expandTilde home name = some (String.ofList name) := by
  unfold expandTilde
  split
  · exact absurd rfl (h _)
  · rfl

example : names "/a//./b/../" = ["a", ".", "b", ".."] := by decide

example : directory "d/./o/" = "d" ∧ directory "/o" = "/" ∧ directory "o" = "." := by decide

/-- What stands inside a directory's path is kept. -/
example : directory "d//./e/.//o" = "d//./e" ∧ directory "./o/." = "." := by decide

example : expandTilde (some "/home/d") "~//etc/x".toList = some "/home/d//etc/x" := by decide

end Path

end SensorConfig
