import SensorConfig.Compile

/-!
# Logs

What happens during a compilation, for those who want to follow it.

Events are what a compilation does on its way: a file is read, a variable is
set, a program is compiled, an output is written. They are a function of the
lines and the environment, as the compilation itself is, and the compilation
does not depend on them. Events up to a fault are told also where there is one.

How much is shown is a matter of how often it was asked for: nothing, then what
concerns the whole, then what concerns each line. How an event looks when it is
shown is not decided here.

## Main definitions

* `Event`: What happens.
* `Event.ofLine`, `Event.ofSource`: What happens while lines are read.
* `Event.ofCompile`: What happens during a compilation.
* `Event.asked`: The events that are shown.
* `Compilation`: What compiling gave, and what happened on the way.
* `Compilation.ofText`: A compilation from what reading its input gave.
-/

namespace SensorConfig

/-- What happens during a compilation. -/
inductive Event where
  | fileRead (line : Nat) (path : String) (length : Nat)
  | variableSet (line : Nat) (name : String) (slot : UInt8)
  | compiled (settings length : Nat)
  | outputWritten (path : String) (length : Nat)
  deriving DecidableEq, Repr

namespace Event

/-- How often it has to be asked for an event before it is shown. -/
def verbosity : Event → Nat
  | fileRead .. | variableSet .. => 2
  | compiled .. | outputWritten .. => 1

/-- What happens when an operand has been found. -/
def ofOperand (line : Nat) : Operand → List Event
  | .inline _ => []
  | .file path bytes => [fileRead line path bytes.length]

/-- What happens while a line is read. -/
def ofLine (registry : Registry) (environment : Environment) (line : Line) : List Event :=
  match SetLine.read? line.text with
  | none => []
  | some set =>
      match registry.lookup? (String.ofList set.name) with
      | none => []
      | some v =>
          match Operand.resolve environment v line.number set.value with
          | .error _ => []
          | .ok operand =>
              ofOperand line.number operand ++
                match Setting.ofOperand registry v line.number operand with
                | .error _ => []
                | .ok _ => [variableSet line.number v.name v.slot]

/-- What happens while set lines are read, up to the end of the program or to a
    fault. -/
def ofSetLines (registry : Registry) (environment : Environment) : List Line → List Event
  | [] => []
  | line :: lines =>
      match terminator? line.text with
      | some _ => []
      | none =>
          match Setting.ofLine registry environment line with
          -- What happened on the line before its fault is still told.
          | .error _ => ofLine registry environment line
          | .ok _ =>
              ofLine registry environment line ++ ofSetLines registry environment lines

/-- What happens while a source is read. -/
def ofSource (registry : Registry) (environment : Environment) (source : Source) : List Event :=
  match source.lines with
  | [] => []
  | first :: lines =>
      match Version.ofLine first, lines with
      | .error _, _ => []
      | .ok _, [] => []
      | .ok _, line :: lines =>
          ofSetLines registry environment
            (if line.text = clearLine then lines else line :: lines)

/-- What happens during a compilation. -/
def ofCompile (registry : Registry) (environment : Environment) (source : Source) : List Event :=
  ofSource registry environment source ++
    match (compile registry environment source).1 with
    | .error _ => []
    | .ok (program, bytes) => [compiled program.settings.length bytes.length]

/-- The events that are shown where that was asked for so often. -/
def asked (verbosity : Nat) (events : List Event) : List Event :=
  events.filter fun event => event.verbosity ≤ verbosity

end Event

/-- What compiling gave, and what happened on the way. -/
structure Compilation where
  result : Except Fault (Program × List UInt8)
  events : List Event
  deriving Repr

/-- The compilation of an input, from what reading it gave. -/
def Compilation.ofText (environment : Environment) (text : Except Fault (List Char)) :
    Compilation :=
  match text with
  | .error fault => ⟨.error fault, []⟩
  | .ok text =>
      let source := Source.ofText text
      ⟨(compile .snappySense environment source).1,
        Event.ofCompile .snappySense environment source⟩

end SensorConfig
