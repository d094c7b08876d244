import SensorConfig.CommandLine.Log

/-!
# Worlds

What a run of the program acts on.

There are four things that a run does to its surroundings: it compiles an input,
it puts an output in place, it prints, and it says something. A `World` has an
action for each, in a monad of its own, so that the same run can be made on a
machine and on a file tree with a terminal.

A terminal has two streams, one for what was asked for and one for what there is
to say about it. Texts are written to a stream one after another, and it can refuse
one, as it does where a disk is full or where nobody reads any more. Some of the
text may have come out before that. Whether a text is refused may depend on what
has come out so far.

## Main definitions

* `World`: The actions of a run.
* `Stream`: Where texts are refused.
* `Stream.write`: What comes out, and why not all of it does.
* `Stream.Open`: A stream that takes every text.
* `Terminal`: The two streams of a program.
* `Scene`: A file tree, and what has come out of a terminal.
* `World.ofTree`: The actions on a scene.
-/

namespace SensorConfig

/-- The actions of a run. Those that write a text give the cause if not all of it
    came out. -/
structure World (m : Type → Type) where
  compile : (input : String) → m Compilation
  put : (output : String) → List UInt8 → m (Except Fault Unit)
  print : (text : String) → m (Option Cause)
  say : (text : String) → m (Option Cause)

/-- A stream, by the texts that it refuses: how many characters of a text come
    out behind what has come out so far, and why the others do not. -/
structure Stream where
  refusal? : (shown text : String) → Option (Nat × Cause)

namespace Stream

/-- What has come out with one more text, and the cause if not all of it has. -/
def write (stream : Stream) (shown text : String) : String × Option Cause :=
  match stream.refusal? shown text with
  | none => (shown ++ text, none)
  | some (count, cause) => (shown ++ String.ofList (text.toList.take count), some cause)

/-- A stream that refuses nothing. -/
def Open (stream : Stream) : Prop :=
  ∀ shown text, stream.refusal? shown text = none

/-- What is written to an open stream comes out. -/
theorem write_of_open {stream : Stream} (h : stream.Open) (shown text : String) :
    stream.write shown text = (shown ++ text, none) := by
  rw [write, h]

end Stream

/-- Where a program prints what was asked for, and where it says the rest. -/
structure Terminal where
  stdout : Stream
  stderr : Stream

/-- A terminal that refuses nothing. -/
def Terminal.willing : Terminal := ⟨⟨fun _ _ => none⟩, ⟨fun _ _ => none⟩⟩

/-- A file tree, and what has come out of a terminal. -/
structure Scene where
  tree : FileTree
  stdout : String
  stderr : String

/-- The scene before anything has been said. -/
def FileTree.scene (tree : FileTree) : Scene := ⟨tree, "", ""⟩

/-- The actions on a scene, with a terminal, a home directory and a disk. -/
def World.ofTree (terminal : Terminal) (home : Option String) (disk : Disk) :
    World (StateM Scene) where
  compile input := fun scene =>
    (Compilation.ofText (scene.tree.environment home) (scene.tree.readText input), scene)
  put output bytes := fun scene =>
    let written := scene.tree.writeOutput output bytes disk
    (written.1, { scene with tree := written.2 })
  print text := fun scene =>
    let written := terminal.stdout.write scene.stdout text
    (written.2, { scene with stdout := written.1 })
  say text := fun scene =>
    let written := terminal.stderr.write scene.stderr text
    (written.2, { scene with stderr := written.1 })

end SensorConfig
