import SensorConfig.CommandLine.World
import SensorConfig.Listing

/-!
# Runs

What the program does with its arguments.

A run ends with `0` if what was asked for was done and with `1` if the configuration
does not compile, its output cannot be put in place or its listing cannot be
printed. The listing comes last, so it is printed only of an output that is in
place, and the output stays where it is if the listing cannot be printed.

What there is to say is said as it happens. A run that cannot say what is wrong
panics. Where a line of the log cannot be said, it is up to those who write the log
whether the run goes on.

Some of what the program does is done for it. A library reads its arguments, and
answers those that it does not accept. Another words the lines of its log. What a
failed run says of itself is worded by the runtime. These are the `Libraries` of a
run, and nothing is taken for granted about them.

## Main definitions

* `Invocation`: The paths and the flags of a compilation.
* `Libraries`: What is done for the program.
* `Libraries.log`: Say what happened.
* `Libraries.blame`, `Libraries.finish`: The two ways in which a run ends.
* `Invocation.conclude`: What is done with a compilation.
* `Invocation.run`: A compilation in a world.
* `CommandLine.run`: A run in a world.
-/

namespace SensorConfig

/-- The paths and the flags of a compilation. -/
structure Invocation where
  input : String
  output : String
  listing : Bool
  check : Bool
  verbosity : Nat
  deriving DecidableEq, Repr

/-- How arguments are answered that are not accepted. -/
structure Reply where
  exitCode : UInt32
  stdout : String
  stderr : String
  deriving DecidableEq, Repr

/-- What is done for the program by others. -/
structure Libraries where
  /-- The invocation that arguments are accepted as, or the reply to them. -/
  accept : List String → Except Reply Invocation
  /-- How an event is shown in the log. -/
  wording : Event → String
  /-- Whether a run goes on where a line of the log could not be said. -/
  goesOn : Cause → Bool
  /-- What is said of a run whose listing could not be printed. -/
  failure : Cause → String
  /-- What is said of a run that panics because it could not say something. -/
  panic : Cause → String

section

variable {m : Type → Type} [Monad m]

namespace Libraries

/-- Say what happened, and tell whether the run goes on. -/
def log (libraries : Libraries) (world : World m) : List Event → m Bool
  | [] => pure true
  | event :: events => do
      match ← world.say (libraries.wording event) with
      | none => libraries.log world events
      | some cause =>
          if libraries.goesOn cause then libraries.log world events else pure false

/-- End a run by saying what is wrong. -/
def blame (libraries : Libraries) (world : World m) (message : String) : m UInt32 := do
  match ← world.say (message ++ "\n") with
  | none => pure 1
  | some cause =>
      -- Whether the panic can be told does not matter any more.
      let _ ← world.say (libraries.panic cause)
      pure 101

/-- End a run that did what it was asked for, with a listing if that was part of
    it. -/
def finish (libraries : Libraries) (world : World m) (listing : Option String) : m UInt32 :=
  match listing with
  | none => pure 0
  | some text => do
      match ← world.print text with
      | none => pure 0
      | some cause =>
          let _ ← world.say (libraries.failure cause)
          pure 1

end Libraries

namespace Invocation

/-- The events that are shown. -/
def asked (invocation : Invocation) (events : List Event) : List Event :=
  Event.asked invocation.verbosity events

/-- What is said of an input that cannot be read or does not compile. -/
def inputMessage (invocation : Invocation) (fault : Fault) : String :=
  "confcomp: " ++ invocation.input ++ ": " ++ fault.message

/-- What is said of an output that cannot be put in place. -/
def outputMessage (fault : Fault) : String :=
  "confcomp: " ++ fault.message

/-- The listing of a program, if that was asked for. -/
def listing? (invocation : Invocation) (program : Program) : Option String :=
  if invocation.listing then some (Listing.render .snappySense program) else none

/-- Put what was compiled in place, unless there is only to be a check, and tell how
    that ended. -/
def conclude (invocation : Invocation) (libraries : Libraries) (world : World m)
    (result : Except Fault (Program × List UInt8)) : m UInt32 :=
  match result with
  | .error fault => libraries.blame world (invocation.inputMessage fault)
  | .ok (program, bytes) =>
      if invocation.check then
        libraries.finish world (invocation.listing? program)
      else do
        match ← world.put invocation.output bytes with
        | .error fault => libraries.blame world (outputMessage fault)
        | .ok () =>
            let written := [Event.outputWritten invocation.output bytes.length]
            if ← libraries.log world (invocation.asked written) then
              libraries.finish world (invocation.listing? program)
            else
              pure 101

/-- Compile an input, and conclude. -/
def run (invocation : Invocation) (libraries : Libraries) (world : World m) : m UInt32 := do
  let compilation ← world.compile invocation.input
  if ← libraries.log world (invocation.asked compilation.events) then
    invocation.conclude libraries world compilation.result
  else
    pure 101

end Invocation

namespace CommandLine

/-- Do what arguments ask for, or answer them if they are not accepted. -/
def run (libraries : Libraries) (world : World m) (arguments : List String) : m UInt32 := do
  match libraries.accept arguments with
  | .error reply =>
      let _ ← world.print reply.stdout
      let _ ← world.say reply.stderr
      pure reply.exitCode
  | .ok invocation => invocation.run libraries world

end CommandLine

end

end SensorConfig
