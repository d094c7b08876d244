import SensorConfig.Grammar.Lexeme
import SensorConfig.Program
import SensorConfig.Text.Numeral

/-!
# Preambles

The line that a configuration begins with.

    preamble ::= keyword gap digits "." digits "." digits

A preamble gives a version. Its form is one thing and its numbers are another:
a component may have any number of digits, and leading zeros do not count, but
its number has to fit a byte. Which version is understood is not asked here.

## Main definitions

* `Preamble.keyword`: The word that a configuration begins with.
* `Preamble`: The digits of the three components.
* `Preamble.read?`: The preamble that a line is.
* `Preamble.version?`: The version that its digits denote.
-/

namespace SensorConfig

/-- The digits of a version as they are written. -/
structure Preamble where
  major : List Char
  minor : List Char
  patch : List Char
  deriving DecidableEq, Repr

namespace Preamble

/-- The word that a configuration begins with. -/
def keyword : String := "snappysense-compiled-config"

/-- The preamble that a line is, if it has the form of one. -/
def read? (text : List Char) : Option Preamble := do
  let text ← Lexeme.word? keyword text
  let (_, text) ← Lexeme.run? Lexeme.isGap text
  let (major, text) ← Lexeme.run? Char.isDigit text
  let text ← Lexeme.word? "." text
  let (minor, text) ← Lexeme.run? Char.isDigit text
  let text ← Lexeme.word? "." text
  let (patch, text) ← Lexeme.run? Char.isDigit text
  if text.isEmpty then some ⟨major, minor, patch⟩ else none

/-- The byte that digits denote, if their number fits one. -/
def component? (digits : List Char) : Option UInt8 :=
  match Numeral.natural? digits with
  | some n => if n < 256 then some (UInt8.ofNat n) else none
  | none => none

/-- The version of a preamble, if every component fits a byte. -/
def version? (preamble : Preamble) : Option Version := do
  let major ← component? preamble.major
  let minor ← component? preamble.minor
  let patch ← component? preamble.patch
  some ⟨major, minor, patch⟩

example : (read? "snappysense-compiled-config \t001.0.00".toList).bind version? =
    some .supported := by decide

example : (read? "snappysense-compiled-config 1.0.256".toList).map version? = some none := by
  decide

end Preamble

end SensorConfig
