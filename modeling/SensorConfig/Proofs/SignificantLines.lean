import SensorConfig.Source

/-!
# Significant Lines

The lines of a text that say something, named without a reader.

A source is read line by line, so its significant lines are what a recursion
over the physical lines returns. What a text says should not depend on how it
is read. Here the lines are cut out of the text at once: it is split at its
line feeds, the pieces are numbered from one, and those are kept of which
something is left without blanks and which are no comments.

The two differ in what they do with a line feed. A physical line keeps it and a
piece does not, and there is one more piece than line feeds where the last
physical line may be missing. Neither shows: a line feed is blank, so it is
trimmed away, and a piece that is empty says nothing.

`line_induction` is the shape of all arguments about the lines of a text: it
either has no line feed or is a line, a line feed and another text.

## Main definitions

* `linesFrom`: The significant lines among pieces of a text.
* `numbered`: Lines under their numbers.
* `significantLines`: The significant lines of a text.

## Theorems

* `Text.trim_append_blank`: A blank at the end is trimmed away.
* `line_induction`: Induction over the lines of a text.
* `Source.lines_eq_linesFrom`: The lines to come are those among the unread.
* `Source.lines_ofText`: The lines of a source are the significant ones.
* `linesFrom_pairwise`: Lines stand in the order of their numbers.
* `exists_pieces_of_linesFrom`: A line stands in a piece of its own.
* `Source.exists_of_mem_reads`: Where the lines to come are found.
* `splitOn_flatMap_lineFeed`, `linesFrom_flatMap`: Lines that are written one by one
  are pieces, and read as such.
-/

namespace SensorConfig

/-- A blank at the end of a text is trimmed away. -/
theorem Text.trim_append_blank (text : List Char) {c : Char} (h : isBlank c = true) :
    trim (text ++ [c]) = trim text := by
  by_cases hall : ∀ d ∈ text, isBlank d = true
  · have hboth : ∀ d ∈ text ++ [c], isBlank d = true := by
      intro d hd
      rcases List.mem_append.1 hd with hd | hd
      · exact hall d hd
      · rw [List.mem_singleton.1 hd]
        exact h
    rw [(trim_eq_nil_iff _).2 hall, (trim_eq_nil_iff _).2 hboth]
  · -- What the front trimming leaves is not empty, so the blank stands behind it.
    have hleft : (text.dropWhile isBlank).isEmpty = false := by
      rw [List.isEmpty_eq_false_iff, ne_eq, dropWhile_isBlank_eq_nil_iff]
      exact hall
    rw [trim, trim, List.dropWhile_append, hleft]
    simp only [Bool.false_eq_true, ↓reduceIte, List.reverse_append, List.reverse_singleton,
      List.singleton_append, List.dropWhile_cons_of_pos h]

/-- A line feed at the end of a line makes no difference to what it says. -/
theorem significant?_append_lineFeed (line : List Char) :
    significant? (line ++ ['\n']) = significant? line := by
  have hblank : Text.isBlank '\n' = true := by decide
  rw [significant?, significant?, Text.trim_append_blank line hblank]

/-- Induction over the lines of a text. -/
theorem line_induction {motive : List Char → Prop}
    (last : ∀ line, '\n' ∉ line → motive line)
    (cons : ∀ line rest, '\n' ∉ line → motive rest → motive (line ++ '\n' :: rest))
    (text : List Char) : motive text := by
  generalize hn : text.length = n
  induction n using Nat.strongRecOn generalizing text with
  | ind n ih =>
    by_cases hfeed : '\n' ∈ text
    · rcases List.eq_append_cons_of_mem hfeed with ⟨line, rest, rfl, hline⟩
      have hshort : rest.length < n := by
        simp only [List.length_append, List.length_cons] at hn
        omega
      exact cons line rest hline (ih rest.length hshort rest rfl)
    · exact last text hfeed

/-- The line that a piece of a text is under its number, if it is significant. -/
def lineOf? : List Char × Nat → Option Line
  | (piece, number) => (significant? piece).map fun text => ⟨text, number⟩

/-- The significant lines among pieces of a text, the first of which has the
    number `number`. -/
def linesFrom (number : Nat) (pieces : List (List Char)) : List Line :=
  (pieces.zipIdx number).filterMap lineOf?

/-- Lines under their numbers, the first of which has the number `number`. -/
def numbered (number : Nat) (texts : List (List Char)) : List Line :=
  (texts.zipIdx number).map fun (text, number) => ⟨text, number⟩

/-- The significant lines of a text: of its pieces between line feeds, numbered
    from one, those that say something. -/
def significantLines (text : List Char) : List Line :=
  linesFrom 1 (text.splitOn '\n')

theorem numbered_cons (number : Nat) (text : List Char) (texts : List (List Char)) :
    numbered number (text :: texts) = ⟨text, number⟩ :: numbered (number + 1) texts := rfl

/-- A piece that says something is a line, and any other is passed over. -/
theorem linesFrom_cons (number : Nat) (piece : List Char) (pieces : List (List Char)) :
    linesFrom number (piece :: pieces) =
      match significant? piece with
      | some text => ⟨text, number⟩ :: linesFrom (number + 1) pieces
      | none => linesFrom (number + 1) pieces := by
  unfold linesFrom
  rw [List.zipIdx_cons, List.filterMap_cons, lineOf?]
  cases significant? piece <;> rfl

/-- The lines among pieces are those among the first and those among the rest,
    which have the numbers behind them. -/
theorem linesFrom_append (number : Nat) (front back : List (List Char)) :
    linesFrom number (front ++ back) =
      linesFrom number front ++ linesFrom (number + front.length) back := by
  simp only [linesFrom, List.zipIdx_append, List.filterMap_append]

/-- The numbers of lines are those of their pieces. -/
theorem number_of_mem_linesFrom {number : Nat} {pieces : List (List Char)} {line : Line}
    (h : line ∈ linesFrom number pieces) :
    number ≤ line.number ∧ line.number < number + pieces.length := by
  rcases List.mem_filterMap.1 h with ⟨⟨piece, place⟩, hpiece, hline⟩
  rcases Option.map_eq_some_iff.1 hline with ⟨text, _, rfl⟩
  have hplace := List.mem_zipIdx hpiece
  exact ⟨hplace.1, hplace.2.1⟩

/-- Lines stand in the order of their numbers. -/
theorem linesFrom_pairwise (number : Nat) (pieces : List (List Char)) :
    (linesFrom number pieces).Pairwise fun line other => line.number < other.number := by
  induction pieces generalizing number with
  | nil => exact List.Pairwise.nil
  | cons piece pieces ih =>
      rw [linesFrom_cons]
      split
      · exact List.Pairwise.cons (fun other hmem => (number_of_mem_linesFrom hmem).1)
          (ih (number + 1))
      · exact ih (number + 1)

/-- The lines among the first pieces are those with numbers before the rest. -/
theorem filter_lt_linesFrom (number : Nat) (front back : List (List Char)) :
    (linesFrom number (front ++ back)).filter (fun line => line.number < number + front.length) =
      linesFrom number front := by
  have hfront : ∀ line ∈ linesFrom number front,
      decide (line.number < number + front.length) = true :=
    fun line hmem => decide_eq_true (number_of_mem_linesFrom hmem).2
  have hback : ∀ line ∈ linesFrom (number + front.length) back,
      ¬ decide (line.number < number + front.length) = true := by
    intro line hmem
    rw [decide_eq_true_eq, Nat.not_lt]
    exact (number_of_mem_linesFrom hmem).1
  rw [linesFrom_append, List.filter_append, List.filter_eq_self.2 hfront,
    List.filter_eq_nil_iff.2 hback, List.append_nil]

/-- The lines among the rest are those with the other numbers. -/
theorem filter_le_linesFrom (number : Nat) (front back : List (List Char)) :
    (linesFrom number (front ++ back)).filter (fun line => number + front.length ≤ line.number) =
      linesFrom (number + front.length) back := by
  have hfront : ∀ line ∈ linesFrom number front,
      ¬ decide (number + front.length ≤ line.number) = true := by
    intro line hmem
    rw [decide_eq_true_eq, Nat.not_le]
    exact (number_of_mem_linesFrom hmem).2
  have hback : ∀ line ∈ linesFrom (number + front.length) back,
      decide (number + front.length ≤ line.number) = true :=
    fun line hmem => decide_eq_true (number_of_mem_linesFrom hmem).1
  rw [linesFrom_append, List.filter_append, List.filter_eq_nil_iff.2 hfront,
    List.filter_eq_self.2 hback, List.nil_append]

/-- A line stands in a piece of its own, and the lines before it are those of
    the pieces before that. -/
theorem exists_pieces_of_linesFrom {number : Nat} {pieces : List (List Char)}
    {before after : List Line} {line : Line}
    (h : linesFrom number pieces = before ++ line :: after) :
    ∃ front piece back, pieces = front ++ piece :: back ∧ linesFrom number front = before ∧
      linesFrom (number + front.length) [piece] = [line] := by
  induction pieces generalizing number before with
  | nil => exact absurd h.symm (List.append_ne_nil_of_right_ne_nil _ (List.cons_ne_nil _ _))
  | cons piece pieces ih =>
      have hplace : ∀ front : List (List Char),
          number + (piece :: front).length = number + 1 + front.length := by
        intro front
        rw [List.length_cons, Nat.add_assoc, Nat.add_comm 1]
      rw [linesFrom_cons] at h
      cases hsig : significant? piece with
      | none =>
          rw [hsig] at h
          rcases ih h with ⟨front, found, back, rfl, hfront, hline⟩
          refine ⟨piece :: front, found, back, rfl, ?_, ?_⟩
          · rw [linesFrom_cons, hsig, hfront]
          · rw [hplace, hline]
      | some text =>
          rw [hsig] at h
          -- The line is the one that this piece is, or it comes later.
          cases before with
          | nil =>
              refine ⟨[], piece, pieces, rfl, rfl, ?_⟩
              rw [List.length_nil, Nat.add_zero, linesFrom_cons, hsig, ← (List.cons.inj h).1]
              rfl
          | cons first before =>
              rcases ih (List.cons.inj h).2 with ⟨front, found, back, rfl, hfront, hline⟩
              refine ⟨piece :: front, found, back, rfl, ?_, ?_⟩
              · rw [linesFrom_cons, hsig, hfront, ← (List.cons.inj h).1]
              · rw [hplace, hline]

/-- The significant lines are the same whether lines keep their line feeds. -/
theorem linesFrom_physicalLines (number : Nat) (text : List Char) :
    linesFrom number (physicalLines text) = linesFrom number (text.splitOn '\n') := by
  induction text using line_induction generalizing number with
  | last line hline =>
      rw [physicalLines_last hline, List.splitOn_eq_singleton hline]
      by_cases hnil : line = []
      · subst hnil
        rfl
      · rw [if_neg hnil]
  | cons line rest hline ih =>
      rw [physicalLines_line hline, List.splitOn_append_cons_self_of_not_mem hline,
        linesFrom_cons, linesFrom_cons, significant?_append_lineFeed, ih]

/-- No significant line is behind the last physical one. -/
theorem number_le_of_mem_significantLines {text : List Char} {line : Line}
    (h : line ∈ significantLines text) : line.number ≤ (physicalLines text).length := by
  rw [significantLines, ← linesFrom_physicalLines] at h
  have hnumber := number_of_mem_linesFrom h
  omega

/-- Lines that are written one by one are the pieces of what is written, with an empty
    piece behind them. -/
theorem splitOn_flatMap_lineFeed {lines : List (List Char)} (h : ∀ line ∈ lines, '\n' ∉ line) :
    (lines.flatMap (· ++ ['\n'])).splitOn '\n' = lines ++ [[]] := by
  induction lines with
  | nil => rfl
  | cons line lines ih =>
      rw [List.forall_mem_cons] at h
      rw [List.flatMap_cons, List.append_assoc, List.singleton_append,
        List.splitOn_append_cons_self_of_not_mem h.1, ih h.2, List.cons_append]

/-- Lines that say all that they hold read as themselves, in order. The number
    of each is its place among them. -/
theorem linesFrom_flatMap (number : Nat) {lines : List (List Char)}
    (hfeed : ∀ line ∈ lines, '\n' ∉ line) (hself : ∀ line ∈ lines, significant? line = some line) :
    linesFrom number ((lines.flatMap (· ++ ['\n'])).splitOn '\n') = numbered number lines := by
  rw [splitOn_flatMap_lineFeed hfeed]
  clear hfeed
  induction lines generalizing number with
  | nil => rfl
  | cons line lines ih =>
      rw [List.forall_mem_cons] at hself
      rw [List.cons_append, linesFrom_cons, hself.1, numbered_cons, ih (number + 1) hself.2]

namespace Source

theorem map_fst_readsAmong (all : List (List Char)) (consumed : Nat) (unread : List (List Char)) :
    (readsAmong all consumed unread).map Prod.fst = linesFrom (consumed + 1) unread := by
  induction unread generalizing consumed with
  | nil => rfl
  | cons physical unread ih =>
      rw [readsAmong, linesFrom_cons]
      cases significant? physical with
      | some text => rw [List.map_cons, ih]
      | none => exact ih (consumed + 1)

/-- The lines to come are those among the physical lines that are unread. -/
theorem lines_eq_linesFrom (source : Source) :
    source.lines = linesFrom (source.consumed + 1) source.unread :=
  map_fst_readsAmong source.all source.consumed source.unread

/-- A line to come is one of the unread physical lines, and the source after it
    stands behind that line. -/
theorem exists_of_mem_reads {source : Source} {read : Line × Source} (h : read ∈ source.reads) :
    ∃ front physical behind text, source.unread = front ++ physical :: behind ∧
      significant? physical = some text ∧
      read = (⟨text, source.consumed + front.length + 1⟩,
        ⟨source.all, behind, source.consumed + front.length + 1⟩) := by
  rcases source with ⟨all, unread, consumed⟩
  simp only [reads] at h
  induction unread generalizing consumed with
  | nil => exact absurd h List.not_mem_nil
  | cons physical unread ih =>
      -- A line that is passed over is in front of the one that is read.
      have hlater : ∀ front : List (List Char),
          consumed + 1 + front.length = consumed + (physical :: front).length := by
        intro front
        rw [List.length_cons, Nat.add_assoc, Nat.add_comm 1]
      rw [readsAmong] at h
      cases hsig : significant? physical with
      | none =>
          rw [hsig] at h
          rcases ih _ h with ⟨front, found, behind, text, hunread, htext, hread⟩
          rw [hlater] at hread
          refine ⟨physical :: front, found, behind, text, ?_, htext, hread⟩
          exact congrArg (physical :: ·) hunread
      | some text =>
          rw [hsig] at h
          rcases List.mem_cons.1 h with rfl | h
          · exact ⟨[], physical, unread, text, rfl, hsig, rfl⟩
          · rcases ih _ h with ⟨front, found, behind, text', hunread, htext, hread⟩
            rw [hlater] at hread
            refine ⟨physical :: front, found, behind, text', ?_, htext, hread⟩
            exact congrArg (physical :: ·) hunread

/-- The lines of a source at the start of a text are its significant lines. -/
theorem lines_ofText (text : List Char) : (ofText text).lines = significantLines text := by
  rw [lines_eq_linesFrom]
  exact linesFrom_physicalLines 1 text

end Source

end SensorConfig
