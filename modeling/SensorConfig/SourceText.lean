import SensorConfig.Grammar.WrittenValue
import SensorConfig.Meaning.Program

/-!
# Programs as Source Text

A program written down, so that reading it gives the program.

There is one line a setting, with the name that the registry has for the slot.
An integer is written in decimal. A payload is written in quotes if it is text
of one line. Quotes make a payload safe whatever it begins or ends with: blanks
at its ends are no longer at the ends of the line, and an at sign or a quote
stands inside. A payload that is no such text is left to a file, under a name
that is chosen by its bytes.

## Main definitions

* `Setting.inlineText?`: The text of a payload that a line can hold.
* `Setting.writtenValue`: How the value of a setting is written.
* `Setting.sourceLine`: The line that sets it.
* `Program.sourceLines`: The lines of a program.
* `Program.sourceText`: A program as source text.
-/

namespace SensorConfig

namespace Setting

/-- The text of a payload, if it is text and of one line. -/
def inlineText? (payload : List UInt8) : Option (List Char) :=
  match Utf8.decode? payload with
  | some line => if line.contains '\n' then none else some line
  | none => none

/-- How the value of a setting is written. -/
def writtenValue (fileOf : List UInt8 → List Char) : Setting → List Char
  | integer _ value => (toString value.toInt).toList
  | text _ payload =>
      match inlineText? payload with
      | some line => WrittenValue.quoted line
      | none => '@' :: WrittenValue.quoted (fileOf payload)

/-- The line that sets a slot, under the name that the registry has for it. -/
def sourceLine (registry : Registry) (fileOf : List UInt8 → List Char) (setting : Setting) :
    List Char :=
  let name := (registry.name? setting.kind setting.slot).getD ""
  SetLine.keyword.toList ++ ' ' :: (name.toList ++ ' ' :: setting.writtenValue fileOf)

end Setting

namespace Program

/-- The line that a program begins with. -/
def preambleLine (program : Program) : List Char :=
  Preamble.keyword.toList ++ ' ' :: program.version.text.toList

/-- The lines of a program. -/
def sourceLines (registry : Registry) (fileOf : List UInt8 → List Char) (program : Program) :
    List (List Char) :=
  program.preambleLine :: ((if program.clear then [clearLine] else []) ++
    program.settings.map (Setting.sourceLine registry fileOf) ++
      [if program.save then saveLine else endLine])

/-- A program as source text. -/
def sourceText (registry : Registry) (fileOf : List UInt8 → List Char) (program : Program) :
    List Char :=
  (program.sourceLines registry fileOf).flatMap (· ++ ['\n'])

example : sourceText .snappySense (fun _ => "blob".toList)
    ⟨.supported, true, [.integer 4 (-7), .text 2 [0x20, 0x22], .text 10 [0x61, 0x0A]], true⟩ =
    ("snappysense-compiled-config 1.0.0\nclear\nset mqtt-use-tls -7\nset ssid1 \" \"\"\n" ++
      "set mqtt-root-cert @\"blob\"\nsave\n").toList := by
  decide +kernel

end Program

end SensorConfig
