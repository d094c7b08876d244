/-!
# Written Values

How the value of a set line is spelled.

    value ::= text | quote text quote | "@" text | "@" quote text quote

A value is the text itself, or with an at sign in front the name of a file that
holds it. Either can stand in quotes, which are not part of it. A quote counts
only at the two ends: a value that opens with one has to close with another,
and quotes between them, or in a value that does not open with one, are
characters like any other.

## Main definitions

* `WrittenValue`: Whether a value is in a file, and its text or the file's name.
* `WrittenValue.read?`: The value that a text spells.
* `WrittenValue.quoted`: A text as a quoted value.

## Theorems

* `WrittenValue.read?_quoted`: A quoted text is read as it is.
-/

namespace SensorConfig

/-- A value as it is spelled: a text, or the name of the file that holds it. -/
structure WrittenValue where
  indirect : Bool
  text : List Char
  deriving DecidableEq, Repr

namespace WrittenValue

/-- A text without the quotes at its ends. A text that opens with a quote and
    does not close with another has no reading. -/
def unquote? : List Char → Option (List Char)
  | '"' :: text => if text.getLast? = some '"' then some text.dropLast else none
  | text => some text

/-- The value that a text spells, unless a quote in it stays open. -/
def read? : List Char → Option WrittenValue
  | '@' :: text => (unquote? text).map fun name => ⟨true, name⟩
  | text => (unquote? text).map fun text => ⟨false, text⟩

/-- A text in quotes. -/
def quoted (text : List Char) : List Char :=
  '"' :: (text ++ ['"'])

/-- A quoted text is unquoted to what it was, whatever quotes it holds. -/
@[simp]
theorem unquote?_quoted (text : List Char) : unquote? (quoted text) = some text := by
  simp [unquote?, quoted]

/-- A quoted text is read as it is. -/
@[simp]
theorem read?_quoted (text : List Char) : read? (quoted text) = some ⟨false, text⟩ := by
  have h : read? (quoted text) = (unquote? (quoted text)).map fun text => ⟨false, text⟩ := rfl
  rw [h, unquote?_quoted, Option.map_some]

/-- A quoted file name is read as it is. -/
@[simp]
theorem read?_at_quoted (name : List Char) : read? ('@' :: quoted name) = some ⟨true, name⟩ := by
  rw [read?, unquote?_quoted, Option.map_some]

/-- One quote does not both open and close. -/
example : read? ['"'] = none ∧ read? ['@', '"'] = none := by decide

end WrittenValue

end SensorConfig
