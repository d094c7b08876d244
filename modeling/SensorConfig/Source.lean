import SensorConfig.Source.PhysicalLines

/-!
# Sources

The lines of a configuration that say something, one after another.

Only significant lines are read; the others are passed over on the way to the
next. Counting takes in every physical line, whatever it holds, and begins at
one.

A source is a text cut into its physical lines and a place among them. The
lines keep their line feeds, so together they are the text, and what has not
been read yet is the end of it. How many lines have been read says where a
reader stands, which is how the end of a text is named in a diagnostic.

## Main definitions

* `Line`: What a line says, with its number.
* `Source`: A text and how far it has been read.
* `Source.next`: The next significant line and the source after it.
* `Source.reads`: All significant lines to come, each with the source after it.
* `Source.offset`: How many bytes have been read.

## Theorems

* `byteLength_append`: The bytes of two texts add up.
* `Source.next_eq`: The next line is the first of those to come.
-/

namespace SensorConfig

/-- A significant line: what it says, and its number among all the lines. -/
structure Line where
  text : List Char
  number : Nat
  deriving DecidableEq, Repr

/-- A text in its physical lines, the lines not read yet, and the number of
    those that have been. -/
structure Source where
  all : List (List Char)
  unread : List (List Char)
  consumed : Nat
  deriving DecidableEq, Repr

/-- How many bytes a text takes. -/
def byteLength (text : List Char) : Nat :=
  text.foldr (fun c count => c.utf8Size + count) 0

@[simp]
theorem byteLength_nil : byteLength [] = 0 := rfl

@[simp]
theorem byteLength_cons (c : Char) (text : List Char) :
    byteLength (c :: text) = c.utf8Size + byteLength text := rfl

/-- The bytes of two texts add up. -/
@[simp]
theorem byteLength_append (left right : List Char) :
    byteLength (left ++ right) = byteLength left + byteLength right := by
  induction left with
  | nil => rw [List.nil_append, byteLength_nil, Nat.zero_add]
  | cons c left ih => rw [List.cons_append, byteLength_cons, byteLength_cons, ih, Nat.add_assoc]

namespace Source

/-- A source at the start of a text. -/
def ofText (text : List Char) : Source :=
  { all := physicalLines text, unread := physicalLines text, consumed := 0 }

/-- The text of a source. -/
def text (source : Source) : List Char :=
  source.all.flatten

/-- The text that has not been read. -/
def rest (source : Source) : List Char :=
  source.unread.flatten

/-- How many bytes have been read. -/
def offset (source : Source) : Nat :=
  byteLength source.text - byteLength source.rest

/-- The same text from its start. -/
def rewind (source : Source) : Source :=
  { source with unread := source.all, consumed := 0 }

/-- The same text read to its end. -/
def exhausted (source : Source) : Source :=
  { source with unread := [], consumed := source.consumed + source.unread.length }

/-- The next significant line among physical lines, with the source after it.
    If there is none, all of them have been read. -/
def nextAmong (all : List (List Char)) : Nat → List (List Char) → Option Line × Source
  | consumed, [] => (none, ⟨all, [], consumed⟩)
  | consumed, physical :: unread =>
      match significant? physical with
      | some text => (some ⟨text, consumed + 1⟩, ⟨all, unread, consumed + 1⟩)
      | none => nextAmong all (consumed + 1) unread

/-- The next significant line and the source after it. -/
def next (source : Source) : Option Line × Source :=
  nextAmong source.all source.consumed source.unread

/-- The significant lines among physical lines, each with the source after
    it. -/
def readsAmong (all : List (List Char)) : Nat → List (List Char) → List (Line × Source)
  | _, [] => []
  | consumed, physical :: unread =>
      match significant? physical with
      | some text =>
          (⟨text, consumed + 1⟩, ⟨all, unread, consumed + 1⟩) ::
            readsAmong all (consumed + 1) unread
      | none => readsAmong all (consumed + 1) unread

/-- The significant lines to come, each with the source after it. -/
def reads (source : Source) : List (Line × Source) :=
  readsAmong source.all source.consumed source.unread

/-- The significant lines to come. -/
def lines (source : Source) : List Line :=
  source.reads.map Prod.fst

theorem nextAmong_eq (all : List (List Char)) (consumed : Nat) (unread : List (List Char)) :
    nextAmong all consumed unread =
      match readsAmong all consumed unread with
      | [] => (none, ⟨all, [], consumed + unread.length⟩)
      | (line, after) :: _ => (some line, after) := by
  induction unread generalizing consumed with
  | nil => rfl
  | cons physical unread ih =>
      simp only [nextAmong, readsAmong]
      cases significant? physical with
      | some text => rfl
      -- A line that says nothing is passed over on both sides.
      | none => simp only [ih, List.length_cons, Nat.add_assoc, Nat.add_comm 1]

/-- The next line is the first of those to come; where none is, the source is
    read to its end. -/
theorem next_eq (source : Source) :
    source.next =
      match source.reads with
      | [] => (none, source.exhausted)
      | (line, after) :: _ => (some line, after) :=
  nextAmong_eq source.all source.consumed source.unread

/-- The line feed of a blank line counts, and so does the last line. -/
example : (ofText "# top\n\n a \nb".toList).lines = [⟨['a'], 3⟩, ⟨['b'], 4⟩] := by decide

end Source

end SensorConfig
