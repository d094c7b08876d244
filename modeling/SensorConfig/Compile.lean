import SensorConfig.FileTree.Replace
import SensorConfig.Meaning.Program

/-!
# Compilation

From a configuration to the bytes that a device reads.

A source is read to a program and the program is written as records. The second
step cannot fail after the first has not: a text that would not fit its record
is refused where its line is read.

With files, the input is read whole and has to be text, and the output is put
in place only when there is something to put there. Whatever fails before that
leaves the files alone, and so does a failure to put it there.

## Main definitions

* `compile`: The program of a source and its bytes.
* `compileText`: The bytes of a text.
* `FileTree.readText`: The text of a file.
* `FileTree.writeOutput`: Put bytes in place of a file.
* `compileFile`: Compile one file to another.

## Theorems

* `compile_source`: Compiling leaves a source where reading its program does.
-/

namespace SensorConfig

/-- The program that a source says and its bytes, and where the source then
    stands. -/
def compile (registry : Registry) (environment : Environment) (source : Source) :
    Except Fault (Program × List UInt8) × Source :=
  match Program.ofSource registry environment source with
  | (.error fault, after) => (.error fault, after)
  | (.ok program, after) =>
      match program.encode with
      | .error overlong => (.error (.overlong overlong), after)
      | .ok bytes => (.ok (program, bytes), after)

/-- The bytes that a text compiles to. -/
def compileText (environment : Environment) (text : List Char) : Except Fault (List UInt8) :=
  (compile .snappySense environment (Source.ofText text)).1.map Prod.snd

/-- All bytes of a content, unless there is no end to them. -/
def Content.all? : Content → Option (List UInt8)
  | finite bytes => some bytes
  | endless _ => none

/-- The text that a file gives, from what opening and reading it gave. An input
    without end does not fit into memory. -/
def inputText (path : String) (contents : Except Cause Content) : Except Fault (List Char) :=
  match contents with
  | .error cause => .error (.file .read path cause)
  | .ok content =>
      match content.all? with
      | none => .error (.file .read path (.described "out of memory"))
      | some bytes =>
          match Utf8.decode? bytes with
          | none => .error (.file .read path .notText)
          | some text => .ok text

/-- What a step of a replacement is named where it failed. A file that cannot be
    renamed could not be created either, for those who asked for it. -/
def ReplaceStep.operation : ReplaceStep → FileOperation
  | create | rename => .create
  | write => .write

namespace FileTree

/-- The text of a file. -/
def readText (tree : FileTree) (path : String) : Except Fault (List Char) :=
  inputText path (tree.read path)

/-- Put bytes in place of what a path names. A failure is shown as the disk passes
    it on. -/
def writeOutput (tree : FileTree) (path : String) (bytes : List UInt8)
    (disk : Disk := .willing) : Except Fault Unit × FileTree :=
  match tree.replace path bytes disk with
  | (.error (step, cause), after) =>
      (.error (.file step.operation path (disk.reported tree path step cause)), after)
  | (.ok (), after) => (.ok (), after)

end FileTree

/-- Compile one file to another. The files that values refer to are read before
    anything is written. -/
def compileFile (home : Option String) (tree : FileTree) (input output : String)
    (disk : Disk := .willing) : Except Fault Program × FileTree :=
  match tree.readText input with
  | .error fault => (.error fault, tree)
  | .ok text =>
      match (compile .snappySense (tree.environment home) (Source.ofText text)).1 with
      | .error fault => (.error fault, tree)
      | .ok (program, bytes) =>
          match tree.writeOutput output bytes disk with
          | (.error fault, after) => (.error fault, after)
          | (.ok (), after) => (.ok program, after)

/-- Compiling leaves a source where reading its program does. -/
theorem compile_source (registry : Registry) (environment : Environment) (source : Source) :
    (compile registry environment source).2 =
      (Program.ofSource registry environment source).2 := by
  rw [compile]
  split
  · next h => rw [h]
  · next h =>
    rw [h]
    split <;> rfl

end SensorConfig
