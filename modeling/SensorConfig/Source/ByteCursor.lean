import SensorConfig.Source

/-!
# Byte Cursors

A text that is read from a byte on.

A `Source` holds the lines that it has not read. What a machine holds is the
whole text and the number of a byte, and the next line is found by cutting the
text at that byte and looking for the first line feed behind it. Beside that
number goes a second one, of the lines read so far. Both are moved at every
line, also at those that are passed over, and nothing else keeps them together.

A text cannot be cut everywhere. A number may lie behind the end of the text or
point into the middle of a character. `fromByte?` has a result only where it
does neither, and so has `ByteCursor.next?`.

## Main definitions

* `fromByte?`: A text from one of its bytes on.
* `ByteCursor`: A text, a byte of it and a number of lines.
* `ByteCursor.next?`: The next significant line and the cursor behind it.

## Theorems

* `fromByte?_append`: A text can be cut where two texts meet.
* `byteLength_of_fromByte?`: What is cut off and what is left add up.
-/

namespace SensorConfig

/-- A text from one of its bytes on. There is no such text behind the end, nor
    between the bytes of one character. -/
def fromByte? : Nat → List Char → Option (List Char)
  | 0, text => some text
  | _ + 1, [] => none
  | offset + 1, c :: text =>
      if c.utf8Size ≤ offset + 1 then fromByte? (offset + 1 - c.utf8Size) text else none

/-- What follows the first character begins after the bytes of that character. -/
theorem fromByte?_add_cons (offset : Nat) (c : Char) (text : List Char) :
    fromByte? (c.utf8Size + offset) (c :: text) = fromByte? offset text := by
  have hsize : 0 < c.utf8Size := c.utf8Size_pos
  have hsucc : c.utf8Size + offset = (c.utf8Size + offset - 1) + 1 := by omega
  rw [hsucc, fromByte?, if_pos (by omega)]
  congr 1
  omega

/-- A text can be cut where two texts meet. -/
theorem fromByte?_append (left right : List Char) :
    fromByte? (byteLength left) (left ++ right) = some right := by
  induction left with
  | nil => rw [byteLength_nil, List.nil_append, fromByte?]
  | cons c left ih => rw [byteLength_cons, List.cons_append, fromByte?_add_cons, ih]

/-- What is cut off and what is left are the whole text. -/
theorem byteLength_of_fromByte? {offset : Nat} {text rest : List Char}
    (h : fromByte? offset text = some rest) : offset + byteLength rest = byteLength text := by
  induction text generalizing offset with
  | nil =>
      cases offset with
      | zero =>
          rw [fromByte?, Option.some.injEq] at h
          rw [← h, Nat.zero_add]
      | succ offset => exact absurd h (by simp only [fromByte?, reduceCtorEq, not_false_eq_true])
  | cons c text ih =>
      cases offset with
      | zero =>
          rw [fromByte?, Option.some.injEq] at h
          rw [← h, Nat.zero_add]
      | succ offset =>
          simp only [fromByte?, Option.ite_none_right_eq_some] at h
          have hrest := ih h.2
          rw [byteLength_cons]
          omega

/-- How many bytes the first line of a text takes, with its line feed if it has
    one. -/
def firstLineBytes (text : List Char) : Nat :=
  if '\n' ∈ text then byteLength (text.takeWhile (· ≠ '\n')) + 1 else byteLength text

theorem firstLineBytes_pos {text : List Char} (h : 0 < byteLength text) :
    0 < firstLineBytes text := by
  unfold firstLineBytes
  split
  · exact Nat.succ_pos _
  · exact h

/-- A text, the byte of it where reading goes on, and the number of lines read. -/
structure ByteCursor where
  text : List Char
  offset : Nat
  consumed : Nat
  deriving DecidableEq, Repr

namespace ByteCursor

/-- A cursor behind the first line of what is left. -/
def behind (cursor : ByteCursor) (rest : List Char) : ByteCursor :=
  { cursor with
    offset := cursor.offset + firstLineBytes rest
    consumed := cursor.consumed + 1 }

/-- The next significant line and the cursor behind it. At the end of the text
    there is no line, and where the text cannot be cut there is no result. -/
def next? (cursor : ByteCursor) : Option (Option Line × ByteCursor) :=
  if byteLength cursor.text ≤ cursor.offset then some (none, cursor)
  else
    match _hcut : fromByte? cursor.offset cursor.text with
    | none => none
    | some rest =>
        match significant? (rest.takeWhile (· ≠ '\n')) with
        | some text => some (some ⟨text, cursor.consumed + 1⟩, cursor.behind rest)
        | none => (cursor.behind rest).next?
termination_by byteLength cursor.text - cursor.offset
decreasing_by
  -- What is left is not empty, so its first line takes a byte or more.
  have hsum := byteLength_of_fromByte? _hcut
  have hline := @firstLineBytes_pos rest (by omega)
  simp only [behind]
  omega

/-- At the end of the text there is no line. -/
theorem next?_of_end {cursor : ByteCursor} (h : byteLength cursor.text ≤ cursor.offset) :
    cursor.next? = some (none, cursor) := by
  rw [next?, if_pos h]

/-- Anywhere else the first line of what is left is the next one, if it says
    something, and is passed over if it does not. -/
theorem next?_of_fromByte? {cursor : ByteCursor} {rest : List Char}
    (hcut : fromByte? cursor.offset cursor.text = some rest) (hrest : rest ≠ []) :
    cursor.next? =
      match significant? (rest.takeWhile (· ≠ '\n')) with
      | some text => some (some ⟨text, cursor.consumed + 1⟩, cursor.behind rest)
      | none => (cursor.behind rest).next? := by
  have hsum := byteLength_of_fromByte? hcut
  have hpos : 0 < byteLength rest := by
    cases rest with
    | nil => exact absurd rfl hrest
    | cons c rest =>
        have hsize : 0 < c.utf8Size := c.utf8Size_pos
        rw [byteLength_cons]
        omega
  rw [next?, if_neg (by omega)]
  split
  · next hnone =>
    rw [hcut] at hnone
    exact absurd hnone (by simp only [reduceCtorEq, not_false_eq_true])
  · next other hother =>
    rw [hcut, Option.some.injEq] at hother
    rw [← hother]

end ByteCursor

end SensorConfig
