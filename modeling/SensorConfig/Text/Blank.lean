/-!
# Blank Characters

What may surround a line, or the digits in a file, without mattering.

Blank is a property of Unicode, not of ASCII: a no-break space at the end of a
line is as invisible to a reader as a plain one, so it has to be as invisible
to the compiler. The property is `White_Space`. It leaves out the zero width
space and the byte order mark, which stay where they are and make a line
something other than what it looks like.

The line feed and the carriage return are blank too. A physical line therefore
loses its ending, of either kind, together with its indentation.

## Main definitions

* `blankRanges`: The ranges of the property, as code points.
* `isBlank`: Whether a character has the property.
* `trim`: A text without the blanks at its two ends.

## Theorems

* `trim_eq_nil_iff`: A text trims to nothing exactly if it is all blanks.
-/

namespace SensorConfig

namespace Text

/-- The ranges of the `White_Space` property, first and last code point, in
    ascending order. -/
def blankRanges : List (Nat × Nat) :=
  [(0x9, 0xD), (0x20, 0x20), (0x85, 0x85), (0xA0, 0xA0), (0x1680, 0x1680), (0x2000, 0x200A),
    (0x2028, 0x2029), (0x202F, 0x202F), (0x205F, 0x205F), (0x3000, 0x3000)]

/-- Whether a character is white space. -/
def isBlank (c : Char) : Bool :=
  blankRanges.any fun range => range.1 ≤ c.toNat && c.toNat ≤ range.2

/-- A text without the blanks at its two ends; blanks inside it stay. -/
def trim (text : List Char) : List Char :=
  ((text.dropWhile isBlank).reverse.dropWhile isBlank).reverse

/-- The property has twenty-five members. -/
example : (blankRanges.map fun range => range.2 + 1 - range.1).sum = 25 := by decide

theorem dropWhile_isBlank_eq_nil_iff (text : List Char) :
    text.dropWhile isBlank = [] ↔ ∀ c ∈ text, isBlank c = true := by
  induction text with
  | nil => simp
  | cons c text ih =>
      cases h : isBlank c with
      | true => simp [h, ih]
      | false => simp [h]

/-- A text trims to nothing exactly if it is all blanks. -/
theorem trim_eq_nil_iff (text : List Char) :
    trim text = [] ↔ ∀ c ∈ text, isBlank c = true := by
  rw [← dropWhile_isBlank_eq_nil_iff, trim, List.reverse_eq_nil_iff, dropWhile_isBlank_eq_nil_iff]
  constructor
  · intro h
    cases htext : text.dropWhile isBlank with
    | nil => rfl
    | cons c rest =>
        -- What stopped the trimming of the front is not blank.
        have hfirst : isBlank c = false := by
          have := List.head?_dropWhile_not isBlank text
          simpa [htext] using this
        have := h c (by simp [htext])
        simp [hfirst] at this
  · intro h
    simp [h]

end Text

end SensorConfig
