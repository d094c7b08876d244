import SensorConfig.Meaning.Setting

/-!
# Programs of Sources

What the lines of a source say together.

    program ::= preamble [ "clear" ] set line* ( "save" | "end" )

The lines are read one after another and each is read once. The first fault
ends the reading, and then the source stands after the line at fault. A program
that is complete has to be the last thing in the source, so one more line is
looked for, and a source without a fault stands at its end.

The two faults of a source that ends too soon belong to no significant line.
They are located at its last physical line.

## Main definitions

* `Version.ofLine`: The version that a first line asks for.
* `Program.ofReads`: What lines say, after the version.
* `Program.ofSource`: What a source says, and where it then stands.
-/

namespace SensorConfig

/-- The line that asks to forget what was set before. -/
def clearLine : List Char := "clear".toList

/-- The line that ends a program and asks to keep what was set. -/
def saveLine : List Char := "save".toList

/-- The line that ends a program and asks for no more. -/
def endLine : List Char := "end".toList

/-- Whether a line ends a program, and whether it then asks to keep what was
    set. -/
def terminator? (text : List Char) : Option Bool :=
  if text = saveLine then some true
  else if text = endLine then some false
  else none

namespace Version

/-- The version that a first line asks for, which has to be the supported
    one. -/
def ofLine (line : Line) : Except Fault Version :=
  let text := String.ofList line.text
  match Preamble.read? line.text with
  | none =>
      match Lexeme.word? Preamble.keyword line.text with
      | some _ => .error (.form line.number (.preamble text))
      | none => .error (.form line.number .noPreamble)
  | some preamble =>
      match preamble.version? with
      | none => .error (.version line.number (.component text))
      | some version =>
          if version = supported then .ok version
          else .error (.version line.number (.unknown version))

end Version

namespace Program

/-- What follows the line that ends a program: nothing, or the fault of the
    line that does. -/
def ending (program : Program) (source : Source) :
    List (Line × Source) → Except Fault Program × Source
  | [] => (.ok program, source.exhausted)
  | (line, after) :: _ =>
      (.error (.form line.number (.trailing (String.ofList line.text))), after)

/-- What set lines say, up to the line that ends the program. The settings read
    so far stand in `program` in reverse. -/
def settingsOf (registry : Registry) (environment : Environment) (program : Program)
    (source : Source) : List (Line × Source) → Except Fault Program × Source
  | [] =>
      (.error (.form source.exhausted.consumed .unterminated), source.exhausted)
  | (line, after) :: reads =>
      match terminator? line.text with
      | some save =>
          ending { program with settings := program.settings.reverse, save := save } after reads
      | none =>
          match Setting.ofLine registry environment line with
          | .error fault => (.error fault, after)
          | .ok setting =>
              settingsOf registry environment
                { program with settings := setting :: program.settings } after reads

/-- What the lines after the first say. -/
def ofReads (registry : Registry) (environment : Environment) (version : Version)
    (source : Source) : List (Line × Source) → Except Fault Program × Source
  | (line, after) :: reads =>
      if line.text = clearLine then
        settingsOf registry environment ⟨version, true, [], false⟩ after reads
      else
        -- The line has not been used yet: it is the first of the others.
        settingsOf registry environment ⟨version, false, [], false⟩ source
          ((line, after) :: reads)
  | [] => settingsOf registry environment ⟨version, false, [], false⟩ source []

/-- What a source says from where it stands, and where it stands afterwards. -/
def ofSource (registry : Registry) (environment : Environment) (source : Source) :
    Except Fault Program × Source :=
  match source.reads with
  | [] => (.error (.form source.exhausted.consumed .emptyProgram), source.exhausted)
  | (line, after) :: reads =>
      match Version.ofLine line with
      | .error fault => (.error fault, after)
      | .ok version => ofReads registry environment version after reads

end Program

end SensorConfig
