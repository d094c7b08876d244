/-!
# Causes

Why a file could not be opened, read or put in place.

A cause comes from the system, except for two that are found before or after
it is asked: a path with a character in it that no path can hold, and contents
that were to be text and are not.

## Main definitions

* `Cause`: Why an operation on a file failed.
* `Cause.message`: How it is shown.
-/

namespace SensorConfig

/-- Why an operation on a file failed. -/
inductive Cause where
  | notFound
  | notDirectory
  | isDirectory
  | nameTooLong
  | tooManyLinks
  | invalidArgument
  | busy
  | holdsNul
  | notText
  /-- A cause that has only a description. -/
  | described (text : String)
  deriving DecidableEq, Repr

namespace Cause

/-- A cause as the system words it, with the system's number for it. -/
def system (text : String) (number : Nat) : String :=
  text ++ " (os error " ++ toString number ++ ")"

/-- How a cause is shown. -/
def message : Cause → String
  | notFound => system "No such file or directory" 2
  | busy => system "Device or resource busy" 16
  | notDirectory => system "Not a directory" 20
  | isDirectory => system "Is a directory" 21
  | invalidArgument => system "Invalid argument" 22
  | nameTooLong => system "File name too long" 36
  | tooManyLinks => system "Too many levels of symbolic links" 40
  | holdsNul => "file name contained an unexpected NUL byte"
  | notText => "stream did not contain valid UTF-8"
  | described text => text

end Cause

end SensorConfig
