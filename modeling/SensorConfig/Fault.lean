import SensorConfig.Cause
import SensorConfig.Grammar.Preamble
import SensorConfig.Records

/-!
# Faults

Why a configuration does not compile.

A fault is a cause with what is needed to show it, and the first one ends the
compilation. Nearly every fault belongs to a line. Two do not: a file of the
compiler's own that cannot be read or written, and a text that is too long for
its record in a program that was not compiled from lines.

The wording stands in one place. Whoever asks why a compilation failed looks at
the constructor; whoever reports it looks at the message.

## Main definitions

* `FormFault`: What can be wrong with the form of a configuration.
* `VersionFault`: What can be wrong with its version.
* `FileOperation`: What the compiler does with its own files.
* `Fault`: Why a configuration does not compile.
* `Fault.kind`: What sort of fault it is.
* `Fault.line?`: The line it belongs to.
* `Fault.message`: How it is shown.
-/

namespace SensorConfig

/-- What can be wrong with the form of a configuration. -/
inductive FormFault where
  /-- There is no significant line. -/
  | emptyProgram
  /-- The lines end before a line that ends the program. -/
  | unterminated
  /-- The first line does not begin with the keyword. -/
  | noPreamble
  /-- The first line begins with the keyword and is no preamble. -/
  | preamble (text : String)
  /-- A line begins like a setting and is none. -/
  | setting (text : String)
  /-- A line is nothing that may stand where it does. -/
  | unexpected (text : String)
  /-- A line follows the one that ends the program. -/
  | trailing (text : String)
  /-- A value opens a quote and does not close it at its end. -/
  | value (text : String)
  /-- A value is to be read from a file without a name. -/
  | emptyFileName
  deriving DecidableEq, Repr

/-- How a fault of form is shown. -/
def FormFault.message : FormFault → String
  | emptyProgram => "Empty program"
  | unterminated => "Requires `end` or `save`"
  | noPreamble => "First statement must be `" ++ Preamble.keyword ++ "`"
  | preamble text => "Bad syntax for `" ++ Preamble.keyword ++ "`: " ++ text
  | setting text => "Bad syntax for set: " ++ text
  | unexpected text => "Illegal statement in this context: " ++ text
  | trailing text => "Input follows `end` or `save`: " ++ text
  | value text => "Bad value: " ++ text
  | emptyFileName => "Empty filename"

/-- What can be wrong with the version of a configuration. -/
inductive VersionFault where
  /-- A component does not fit a byte. -/
  | component (text : String)
  /-- The version is not the one that is understood. -/
  | unknown (version : Version)
  deriving DecidableEq, Repr

/-- How a fault of the version is shown. -/
def VersionFault.message : VersionFault → String
  | component text => "Bad version value: " ++ text
  | unknown version => "Unknown version " ++ version.text

/-- What the compiler does with its own files. -/
inductive FileOperation where
  | read
  | create
  | write
  deriving DecidableEq, Repr

/-- How an operation on a file is named where it failed. -/
def FileOperation.name : FileOperation → String
  | read => "read"
  | create => "create"
  | write => "write output to"

/-- Why a configuration does not compile. -/
inductive Fault where
  /-- The form is wrong. -/
  | form (line : Nat) (fault : FormFault)
  /-- The version is wrong. -/
  | version (line : Nat) (fault : VersionFault)
  /-- No variable has the name. -/
  | unknownVariable (line : Nat) (name : String)
  /-- The value of an integer variable is no number of 32 bits. -/
  | notInteger (line : Nat) (value : String)
  /-- The value of an integer variable is outside its limit. -/
  | outOfRange (line : Nat) (name : String) (value min max : Int32)
  /-- A value has more bytes than a slot takes. -/
  | tooLong (line : Nat) (name : String) (length max : Nat)
  /-- A file name refers to the home directory and there is none. -/
  | homeUnset (line : Nat)
  /-- The file of a value could not be read. -/
  | unreadable (line : Nat) (path : String) (cause : Cause)
  /-- A file of the compiler's own could not be read or written. -/
  | file (operation : FileOperation) (path : String) (cause : Cause)
  /-- A text does not fit its record. -/
  | overlong (overlong : Overlong)
  deriving DecidableEq, Repr

/-- What sort of fault it is. -/
inductive FaultKind where
  | form
  | version
  | unknownVariable
  | type
  | range
  | length
  | file
  deriving DecidableEq, Repr

namespace Fault

/-- What sort of fault it is. -/
def kind : Fault → FaultKind
  | form .. => .form
  | version .. => .version
  | unknownVariable .. => .unknownVariable
  | notInteger .. => .type
  | outOfRange .. => .range
  | tooLong .. | overlong .. => .length
  | homeUnset .. | unreadable .. | file .. => .file

/-- The line that a fault belongs to. -/
def line? : Fault → Option Nat
  | form line _
  | version line _
  | unknownVariable line _
  | notInteger line _
  | outOfRange line ..
  | tooLong line ..
  | homeUnset line
  | unreadable line .. => some line
  | file .. | overlong _ => none

/-- A message with the line in front of it. -/
def located (line : Nat) (message : String) : String :=
  "Line " ++ toString line ++ ": " ++ message

/-- How a fault is shown. -/
def message : Fault → String
  | form line fault => located line fault.message
  | version line fault => located line fault.message
  | unknownVariable line name => located line ("Unknown variable " ++ name)
  | notInteger line value => located line ("Bad integer value " ++ value)
  | outOfRange line name value min max =>
      located line ("Out of range for " ++ name ++ ": " ++ toString value.toInt ++ " (allowed " ++
        toString min.toInt ++ "..=" ++ toString max.toInt ++ ")")
  | tooLong line name length max =>
      located line ("String too long for " ++ name ++ ": " ++ toString length ++ " bytes (max " ++
        toString max ++ ")")
  | homeUnset line => located line "$HOME not defined for tilde expansion"
  | unreadable line path cause =>
      located line ("Could not read " ++ path ++ ": " ++ cause.message)
  | file operation path cause =>
      "Could not " ++ operation.name ++ " " ++ path ++ ": " ++ cause.message
  | overlong ⟨slot, length⟩ =>
      "Codegen: string for slot " ++ toString slot.toNat ++ " is " ++ toString length ++
        " bytes, exceeds 16-bit length field"

example : (outOfRange 2 "enabled" 5 0 1).message =
    "Line 2: Out of range for enabled: 5 (allowed 0..=1)" := by decide

end Fault

end SensorConfig
