import SensorConfig.Records
import SensorConfig.Text.Numeral

/-!
# Listings

The records of a program as lines to read.

There is one line a record, in the order of the bytes: where the record begins,
what it does, and what it does it with. The offset is kept as the lines are
written, by the lengths that the program counts for its records, and never by
looking at the bytes.

A payload is shown as text as far as it is printable ASCII. Everything else is
escaped, so a line stays one line whatever the payload holds, and a quote in a
payload cannot be taken for its end. A long payload is cut after its first
bytes, and its length stands in front of it.

## Main definitions

* `escaped`: How one byte of a payload is shown.
* `preview`: How a payload is shown.
* `line`: An offset, a mnemonic and what follows it.
* `lines`: The lines of a program.
* `render`: The listing of a program.
-/

namespace SensorConfig

namespace Listing

/-- How many bytes of a payload are shown. -/
def previewLength : Nat := 32

/-- How one byte of a payload is shown. -/
def escaped (byte : UInt8) : List Char :=
  if byte = 0x22 then ['\\', '"']
  else if byte = 0x5C then ['\\', '\\']
  else if byte = 0x0A then ['\\', 'n']
  else if 0x20 ≤ byte ∧ byte ≤ 0x7E then [Char.ofNat byte.toNat]
  else
    ['\\', 'x', Nat.digitChar (byte.toNat / 16), Nat.digitChar (byte.toNat % 16)]

/-- A payload as far as it is shown, with three dots if that is not all. -/
def preview (payload : List UInt8) : List Char :=
  (payload.take previewLength).flatMap escaped ++
    if payload.length > previewLength then ['.', '.', '.'] else []

/-- One line: an offset in six hexadecimal digits or more, a mnemonic in five
    columns, and what follows it. -/
def line (offset : Nat) (operation : Operation) (operands : String) : String :=
  let mnemonic := operation.mnemonic
  let fill := String.ofList (List.replicate (5 - mnemonic.length) ' ')
  Numeral.hexadecimal 6 offset ++ "  " ++ mnemonic ++ fill ++ " " ++ operands

/-- A flag as a digit. -/
def flag (value : Bool) : String :=
  if value then "1" else "0"

/-- What a start record does it with. -/
def startOperands (program : Program) : String :=
  "version=" ++ program.version.text ++ " clear=" ++ flag program.clear

/-- What a stop record does it with. -/
def stopOperands (program : Program) : String :=
  "save=" ++ flag program.save

/-- What the record of a setting does it with. A slot that is not registered
    has a question mark for a name. -/
def operands (registry : Registry) (setting : Setting) : String :=
  let name := (registry.name? setting.kind setting.slot).getD "?"
  let slot := toString setting.slot.toNat
  match setting with
  | .integer _ value => name ++ "[" ++ slot ++ "] = " ++ toString value.toInt
  | .text _ payload =>
      name ++ "[" ++ slot ++ "] len=" ++ toString payload.length ++ " \"" ++
        String.ofList (preview payload) ++ "\""

/-- The lines of settings and of the stop record after them, from an offset
    on. -/
def linesFrom (registry : Registry) (program : Program) : Nat → List Setting → List String
  | offset, [] => [line offset .stop (stopOperands program)]
  | offset, setting :: settings =>
      line offset setting.operation (operands registry setting) ::
        linesFrom registry program (offset + setting.encodedLength) settings

/-- The lines of a program, without their line feeds. -/
def lines (registry : Registry) (program : Program) : List String :=
  line 0 .start (startOperands program) :: linesFrom registry program 5 program.settings

/-- The listing of a program. -/
def render (registry : Registry) (program : Program) : String :=
  String.join ((lines registry program).map (· ++ "\n"))

/-- There is a line a setting, one in front and one behind. -/
theorem length_lines (registry : Registry) (program : Program) :
    (lines registry program).length = program.settings.length + 2 := by
  have hfrom : ∀ settings offset,
      (linesFrom registry program offset settings).length = settings.length + 1 := by
    intro settings
    induction settings with
    | nil => intro offset; rfl
    | cons setting settings ih =>
        intro offset
        simp only [linesFrom, List.length_cons, ih]
  simp only [lines, List.length_cons, hfrom]

example : preview [0x61, 0x22, 0x62, 0x0A, 0x00] = "a\\\"b\\n\\x00".toList := by decide

end Listing

end SensorConfig
