import SensorConfig.Compile

/-!
# Sessions

A source that is used more than once.

A reader can take lines from a source, ask where it stands, go back to the
start, keep a place and return to it, and read or compile what is left from
wherever the source stands. What each of these gives depends on the source
alone, so a session is a source, a place that is kept, and one step at a time.
The place that is kept at first is the start.

## Main definitions

* `Session`: A source and a place that is kept.
* `Session.Command`: What can be asked of a session.
* `Session.Answer`: What it gives.
* `Session.step`: One command.
* `Session.after`: The session after several.
* `Session.run`: Several, with the answers and the places after them.
-/

namespace SensorConfig

/-- A source where it stands, and where it is kept. -/
structure Session where
  source : Source
  kept : Source
  deriving DecidableEq, Repr

namespace Session

/-- What can be asked of a session. -/
inductive Command where
  | next
  | last
  | rewind
  | keep
  | restore
  | program
  | compile
  deriving DecidableEq, Repr

/-- What a session gives. -/
inductive Answer where
  | line (line : Option Line)
  | number (consumed : Nat)
  | done
  | program (result : Except Fault Program)
  | compiled (result : Except Fault (Program × List UInt8))
  deriving Repr

/-- A session at the start of a text, with the start kept. -/
def ofText (text : List Char) : Session :=
  { source := Source.ofText text, kept := Source.ofText text }

/-- One command: what it gives and how it leaves the session. -/
def step (environment : Environment) (session : Session) : Command → Answer × Session
  | .next =>
      let (line, source) := session.source.next
      (.line line, { session with source := source })
  | .last => (.number session.source.consumed, session)
  | .rewind => (.done, { session with source := session.source.rewind })
  | .keep => (.done, { session with kept := session.source })
  | .restore => (.done, { session with source := session.kept })
  | .program =>
      let (result, source) := Program.ofSource .snappySense environment session.source
      (.program result, { session with source := source })
  | .compile =>
      let (result, source) := SensorConfig.compile .snappySense environment session.source
      (.compiled result, { session with source := source })

/-- A session after several commands. -/
def after (environment : Environment) (session : Session) (commands : List Command) : Session :=
  commands.foldl (fun session command => (session.step environment command).2) session

/-- Several commands: what each gives, with the number of lines consumed after
    it. -/
def run (environment : Environment) (session : Session) : List Command → List (Answer × Nat)
  | [] => []
  | command :: commands =>
      let (answer, session) := session.step environment command
      (answer, session.source.consumed) :: run environment session commands

end Session

end SensorConfig
