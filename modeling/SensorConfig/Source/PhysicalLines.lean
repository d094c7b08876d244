import SensorConfig.Text.Blank

/-!
# Physical Lines

A text cut into lines, and what a line says.

A physical line ends after a line feed, and the last one also where the text
does. It keeps its line feed, so the lines together are the text and none of
them is empty. Nothing else ends a line: a carriage return is a blank like any
other, and whether it stands before a line feed makes no difference.

A line is significant if something is left of it once the blanks at its ends
are gone, and if that does not begin with a number sign. What is left is what
the line says.

## Main definitions

* `physicalLines`: A text cut after each line feed.
* `significant?`: What a significant line says.

## Theorems

* `flatten_physicalLines`: The physical lines together are the text.
* `physicalLines_line`: The first line of a text goes on to its first line feed.
* `physicalLines_last`: A text without a line feed is one line.
-/

namespace SensorConfig

/-- Put a character in front of the physical lines of what follows it. A line
    feed is a line of its own until something is put in front of it. -/
def putFirst (c : Char) (lines : List (List Char)) : List (List Char) :=
  if c = '\n' then [c] :: lines
  else
    match lines with
    | [] => [[c]]
    | line :: lines => (c :: line) :: lines

/-- A text cut after each line feed. There is no empty line at the end: a text
    that ends in a line feed has as many lines as line feeds. -/
def physicalLines (text : List Char) : List (List Char) :=
  text.foldr putFirst []

theorem physicalLines_cons (c : Char) (text : List Char) :
    physicalLines (c :: text) = putFirst c (physicalLines text) := rfl

/-- The physical lines together are the text. -/
@[simp]
theorem flatten_physicalLines (text : List Char) : (physicalLines text).flatten = text := by
  induction text with
  | nil => rfl
  | cons c text ih =>
      rw [physicalLines_cons]
      unfold putFirst
      split
      -- A line feed is a line of its own; anything else joins the first line.
      · rw [List.flatten_cons, ih, List.singleton_append]
      · split
        · next h =>
          rw [h] at ih
          rw [← ih]
          rfl
        · next h =>
          rw [h] at ih
          rw [← ih]
          rfl

/-- The first physical line of a text goes on to its first line feed. -/
theorem physicalLines_line {line : List Char} (h : '\n' ∉ line) (rest : List Char) :
    physicalLines (line ++ '\n' :: rest) = (line ++ ['\n']) :: physicalLines rest := by
  induction line with
  | nil => rfl
  | cons c line ih =>
      have hc : c ≠ '\n' := fun hc => h (hc ▸ List.mem_cons_self)
      have hline : '\n' ∉ line := fun hline => h (List.mem_cons_of_mem c hline)
      rw [List.cons_append, physicalLines_cons, ih hline, putFirst, if_neg hc]
      rfl

/-- A text without a line feed is one physical line, unless it is empty. -/
theorem physicalLines_last {line : List Char} (h : '\n' ∉ line) :
    physicalLines line = if line = [] then [] else [line] := by
  induction line with
  | nil => rfl
  | cons c line ih =>
      have hc : c ≠ '\n' := fun hc => h (hc ▸ List.mem_cons_self)
      have hline : '\n' ∉ line := fun hline => h (List.mem_cons_of_mem c hline)
      rw [physicalLines_cons, ih hline, if_neg (List.cons_ne_nil c line)]
      unfold putFirst
      rw [if_neg hc]
      cases line <;> rfl

/-- What a physical line says, unless it is blank or a comment. -/
def significant? (physical : List Char) : Option (List Char) :=
  match Text.trim physical with
  | [] => none
  | c :: rest => if c = '#' then none else some (c :: rest)

end SensorConfig
