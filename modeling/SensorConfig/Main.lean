import SensorConfig.CommandLine.Run

/-!
# The Program

A world that is the machine.

Everything that is decided is decided elsewhere. What is done here is to read the
input and the files that it consults, to put an output in place, and to print what
is to be printed. A file is read when a compilation with the files so far comes to
it, so nothing is opened that the input does not get to.

The program is a run in this world. The libraries that it is linked with are given to
it, and so is the way in which failures of temporary files are passed on.
-/

namespace SensorConfig

namespace Machine

/-- The cause of a number of the system's. -/
def causeOfNumber (number : UInt32) (details : String) : Cause :=
  match number with
  | 2 => .notFound
  | 16 => .busy
  | 20 => .notDirectory
  | 21 => .isDirectory
  | 22 => .invalidArgument
  | 36 => .nameTooLong
  | 40 => .tooManyLinks
  | number => .described (Cause.system details number.toNat)

/-- The cause of a failure. -/
def causeOf : IO.Error → Cause
  | .noFileOrDirectory _ number details => causeOfNumber number details
  | .inappropriateType _ number details => causeOfNumber number details
  | .invalidArgument _ number details => causeOfNumber number details
  | .permissionDenied _ number details => causeOfNumber number details
  | .alreadyExists _ number details => causeOfNumber number details
  | .resourceExhausted _ number details => causeOfNumber number details
  | .resourceBusy number details => causeOfNumber number details
  | .otherError number details => causeOfNumber number details
  | failure => .described (toString failure)

/-- What an action gives, or the cause why it failed. -/
def attempt {α : Type} (action : IO α) : IO (Except Cause α) := do
  try
    return .ok (← action)
  catch failure =>
    return .error (causeOf failure)

/-- All bytes of a file. -/
def readAll (path : String) : IO (Except Cause Content) := do
  if Path.holdsNul path then
    return .error .holdsNul
  attempt do
    let handle ← IO.FS.Handle.mk path .read
    let bytes ← handle.readBinToEnd
    return .finite bytes.toList

/-- The first bytes of a file, as many as a value may ask for. -/
def readFirst (path : String) : IO (Except Cause Content) := do
  if Path.holdsNul path then
    return .error .holdsNul
  attempt do
    let count := maxPayload + 1
    let handle ← IO.FS.Handle.mk path .read
    let mut bytes := ByteArray.empty
    for _ in [0:count] do
      -- A read may give fewer bytes than it could, but none only at the end.
      let more ← handle.read (USize.ofNat (count - bytes.size))
      bytes := bytes ++ more
      if more.isEmpty || bytes.size ≥ count then
        break
    return .finite bytes.toList

/-- A home directory and the files that have been read. -/
def environmentOf (home : Option String) (files : List (String × Except Cause Content)) :
    Environment :=
  { home := home, files := fun path => (files.lookup path).getD (.error .notFound) }

/-- The home directory and the files that a text consults. -/
def environmentFor (home : Option String) (text : List Char) : IO Environment := do
  let source := Source.ofText text
  let mut files := []
  -- A line consults one file at most.
  for _ in source.lines do
    match (SensorConfig.compile .snappySense (environmentOf home files) source).1 with
    | .error (.unreadable _ path _) =>
        if (files.lookup path).isSome then
          break
        files := (path, ← readFirst path) :: files
    | _ => break
  return environmentOf home files

/-- A name for a temporary file. -/
def temporaryName : IO String := do
  let mut name := ".tmp"
  for _ in [0:6] do
    let letter ← IO.rand 0 25
    name := name.push (Char.ofNat ('a'.toNat + letter))
  return name

/-- A path from the root for a temporary file beside a path. -/
def temporaryPath (path : String) : IO String := do
  let directory := Path.directory path
  let name ← temporaryName
  if Path.isAbsolute directory then
    return directory ++ "/" ++ name
  let current ← IO.currentDir
  return toString current ++ "/" ++ directory ++ "/" ++ name

/-- How the cause of a failed step is passed on, with the path of the temporary
    file. -/
abbrev Reported := (temporary : String) → ReplaceStep → Cause → Cause

/-- Put bytes in place of a file, by a temporary file beside it. -/
def put (reported : Reported) (path : String) (bytes : List UInt8) : IO (Except Fault Unit) := do
  let failed (temporary : String) (step : ReplaceStep) (cause : Cause) : Except Fault Unit :=
    .error (.file step.operation path (reported temporary step cause))
  match ← attempt (temporaryPath path) with
  | .error cause => return .error (.file .create path cause)
  | .ok temporary =>
      match ← attempt (IO.FS.Handle.mk temporary .writeNew) with
      | .error cause => return failed temporary .create cause
      | .ok handle =>
          let written ← attempt do
            handle.write bytes.toByteArray
            handle.flush
          match written with
          | .error cause =>
              -- Whether the removal succeeds does not change what is reported.
              let _ ← attempt (IO.FS.removeFile temporary)
              return failed temporary .write cause
          | .ok () =>
              let renamed ←
                if Path.holdsNul path then pure (.error .invalidArgument)
                else attempt (IO.FS.rename temporary path)
              match renamed with
              | .error cause =>
                  let _ ← attempt (IO.FS.removeFile temporary)
                  return failed temporary .rename cause
              | .ok () => return .ok ()

/-- Compile the text of a file. -/
def compile (input : String) : IO Compilation := do
  let home ← IO.getEnv "HOME"
  let text := inputText input (← readAll input)
  return .ofText (← environmentFor home (text.toOption.getD [])) text

/-- Write a text to a stream, and tell why if not all of it comes out. -/
def write (stream : IO.FS.Stream) (text : String) : IO (Option Cause) := do
  let written ← attempt do
    stream.putStr text
    stream.flush
  match written with
  | .error cause => return some cause
  | .ok () => return none

/-- The actions on the machine. -/
def world (reported : Reported) : World IO where
  compile := compile
  put := put reported
  print text := do write (← IO.getStdout) text
  say text := do write (← IO.getStderr) text

/-- The program, with the libraries that it is linked with. -/
def program (libraries : Libraries) (reported : Reported) (arguments : List String) : IO UInt32 :=
  CommandLine.run libraries (world reported) arguments

end Machine

end SensorConfig
