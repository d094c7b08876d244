import SensorConfig.Grammar.Lexeme

/-!
# Set Lines

The lines that give a variable a value.

    set line ::= "set" gap name gap value
    name     ::= letter (letter | digit | "_" | "-")*

The value is everything after the second gap, whatever it is: it may hold gaps
of its own, and a number sign in it begins no comment. What the value means is
not asked here.

## Main definitions

* `SetLine`: The name and the value of a set line.
* `SetLine.read?`: The set line that a line is.
-/

namespace SensorConfig

/-- The name and the value of a set line, as they are written. -/
structure SetLine where
  name : List Char
  value : List Char
  deriving DecidableEq, Repr

namespace SetLine

/-- The word that a set line begins with. -/
def keyword : String := "set"

/-- Whether a text is a name: its first character is a letter. -/
def beginsWithLetter : List Char → Bool
  | [] => false
  | c :: _ => c.isAlpha

/-- The set line that a line is, if it has the form of one. -/
def read? (text : List Char) : Option SetLine := do
  let text ← Lexeme.word? keyword text
  let (_, text) ← Lexeme.run? Lexeme.isGap text
  let (name, text) ← Lexeme.run? Lexeme.isNameChar text
  let (_, value) ← Lexeme.run? Lexeme.isGap text
  if beginsWithLetter name && !value.isEmpty then some ⟨name, value⟩ else none

/-- A value keeps its gaps and its number signs. -/
example : read? "set ssid1 \t a  b # c".toList =
    some ⟨"ssid1".toList, "a  b # c".toList⟩ := by decide

/-- A name does not begin with a digit, and does not run into its value. -/
example : read? "set 1x y".toList = none ∧ read? "set x=y z".toList = none := by decide

end SetLine

end SensorConfig
