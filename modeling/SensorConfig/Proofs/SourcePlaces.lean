import SensorConfig.Proofs.SignificantLines
import SensorConfig.Session
import SensorConfig.Source.ByteCursor

/-!
# Places in Sources

Where a source can stand.

A source holds a text in lines, the lines that are unread, and a number. Most
such values are of no text at all: the unread lines need not be among the
others, and the number need not be that of the lines before them.
`Source.IsPlaceIn` says what ties the three together. The number alone then
says everything, so there is one place for each number from none of the lines
to all of them.

Reading begins at a place and every way of reading leaves a source at one,
whatever is read and whether or not it can be read. A single line leaves it
behind that line. A program leaves it at its end, and with a fault it may also
be left behind any of the lines that were to come. From then on nothing about a
session has to look at how it came to where it is.

## Main definitions

* `Source.IsPlaceIn`: A source stands somewhere in a text.
* `Session.IsWithin`: So do both sources of a session.
* `Session.afterEach`: A session after commands in changing environments.

## Theorems

* `physicalLines_flatten_drop`: The last lines of a text are those of their text.
* `Source.IsPlaceIn.eq_of_consumed`: A place is known by its number.
* `Source.IsPlaceIn.of_mem_reads`: Behind a line there is a place.
* `Source.IsPlaceIn.fromByte?_offset`: A text can be cut at every place.
* `Program.ofSource_stops`: Where reading a program leaves a source.
* `Program.isPlaceIn_ofSource`: That is a place of the same text.
* `Session.isPlaceIn_afterEach`: So does every session.
-/

namespace SensorConfig

/-- The last physical lines of a text are the lines of the text that they make. -/
theorem physicalLines_flatten_drop (text : List Char) (count : Nat) :
    physicalLines ((physicalLines text).drop count).flatten = (physicalLines text).drop count := by
  induction text using line_induction generalizing count with
  | last line hline =>
      rw [physicalLines_last hline]
      by_cases hnil : line = []
      · rw [if_pos hnil, List.drop_nil]
        rfl
      · rw [if_neg hnil]
        cases count with
        | zero => rw [List.drop_zero, List.flatten_singleton, physicalLines_last hline, if_neg hnil]
        | succ count =>
            rw [List.drop_succ_cons, List.drop_nil]
            rfl
  | cons line rest hline ih =>
      rw [physicalLines_line hline]
      cases count with
      | zero =>
          rw [List.drop_zero, List.flatten_cons, flatten_physicalLines, List.append_assoc,
            List.singleton_append, physicalLines_line hline]
      | succ count => rw [List.drop_succ_cons, ih]

namespace Source

/-- A source stands in a text: the lines that it has consumed are the first of
    the text, and the others are unread. -/
structure IsPlaceIn (text : List Char) (source : Source) : Prop where
  all_eq : source.all = physicalLines text
  consumed_le : source.consumed ≤ (physicalLines text).length
  unread_eq : source.unread = (physicalLines text).drop source.consumed

/-- Behind each of the significant lines to come the end is the same. -/
theorem exhausted_of_mem_reads {source : Source} {read : Line × Source}
    (h : read ∈ source.reads) : read.2.exhausted = source.exhausted := by
  rcases exists_of_mem_reads h with ⟨front, physical, behind, text, hunread, _, rfl⟩
  simp only [Source.exhausted, hunread, List.length_append, List.length_cons, mk.injEq, true_and]
  omega

/-- If behind several lines the end is the same, it is the same behind the first
    and from there on. -/
theorem exhausted_of_forall_cons {source after : Source} {line : Line}
    {reads : List (Line × Source)}
    (h : ∀ read ∈ (line, after) :: reads, read.2.exhausted = source.exhausted) :
    after.exhausted = source.exhausted ∧ ∀ read ∈ reads, read.2.exhausted = after.exhausted := by
  have hafter : after.exhausted = source.exhausted := h (line, after) List.mem_cons_self
  exact ⟨hafter, fun read hmem => (h read (List.mem_cons_of_mem _ hmem)).trans hafter.symm⟩

namespace IsPlaceIn

variable {text : List Char} {source : Source}

theorem start (text : List Char) : (ofText text).IsPlaceIn text :=
  ⟨rfl, Nat.zero_le _, rfl⟩

/-- A place is known by the number of lines consumed. -/
theorem eq_of_consumed {first second : Source} (hfirst : first.IsPlaceIn text)
    (hsecond : second.IsPlaceIn text) (h : first.consumed = second.consumed) : first = second := by
  rcases first with ⟨all, unread, consumed⟩
  rcases second with ⟨all', unread', consumed'⟩
  have hconsumed : consumed = consumed' := h
  subst hconsumed
  have hall : all = all' := hfirst.all_eq.trans hsecond.all_eq.symm
  have hunread : unread = unread' := hfirst.unread_eq.trans hsecond.unread_eq.symm
  rw [hall, hunread]

theorem rewind (h : source.IsPlaceIn text) : source.rewind.IsPlaceIn text :=
  ⟨h.all_eq, Nat.zero_le _, h.all_eq⟩

/-- At the end of a text all its lines have been consumed. -/
theorem consumed_exhausted (h : source.IsPlaceIn text) :
    source.exhausted.consumed = (physicalLines text).length := by
  have hle := h.consumed_le
  simp only [Source.exhausted, h.unread_eq, List.length_drop]
  omega

theorem exhausted (h : source.IsPlaceIn text) : source.exhausted.IsPlaceIn text := by
  have hend := h.consumed_exhausted
  refine ⟨h.all_eq, Nat.le_of_eq hend, ?_⟩
  rw [hend, List.drop_length]
  rfl

/-- Behind each of the significant lines to come there is a place, and it is not
    the first. -/
theorem of_mem_reads {line : Line} {after : Source} (h : source.IsPlaceIn text)
    (hmem : (line, after) ∈ source.reads) : after.IsPlaceIn text ∧ 0 < after.consumed := by
  rcases exists_of_mem_reads hmem with ⟨front, physical, behind, said, hunread, _, hread⟩
  rw [Prod.mk.injEq] at hread
  rcases hread with ⟨_, rfl⟩
  have hdrop : (physicalLines text).drop source.consumed = front ++ physical :: behind := by
    rw [← h.unread_eq, hunread]
  refine ⟨⟨h.all_eq, ?_, ?_⟩, Nat.succ_pos _⟩
  · have hlength := congrArg List.length hdrop
    simp only [List.length_drop, List.length_append, List.length_cons] at hlength
    show source.consumed + front.length + 1 ≤ (physicalLines text).length
    omega
  · -- As many lines are dropped as stand in front of those that are then unread.
    have hbehind : (front ++ physical :: behind).drop (front.length + 1) = behind := by
      rw [← List.drop_drop, List.drop_left, List.drop_succ_cons, List.drop_zero]
    rw [← hdrop, List.drop_drop, ← Nat.add_assoc] at hbehind
    exact hbehind.symm

theorem next (h : source.IsPlaceIn text) : source.next.2.IsPlaceIn text := by
  rw [next_eq]
  cases hreads : source.reads with
  | nil => exact h.exhausted
  | cons read reads => exact (h.of_mem_reads (hreads ▸ List.mem_cons_self)).1

/-- The lines to come are the significant lines that are not among those
    consumed. -/
theorem lines_eq_filter (h : source.IsPlaceIn text) :
    source.lines = (significantLines text).filter fun line => source.consumed < line.number := by
  have hlength : ((physicalLines text).take source.consumed).length = source.consumed := by
    rw [List.length_take]
    exact Nat.min_eq_left h.consumed_le
  have hfilter := filter_le_linesFrom 1 ((physicalLines text).take source.consumed) source.unread
  rw [hlength, h.unread_eq, List.take_append_drop, linesFrom_physicalLines, ← h.unread_eq,
    Nat.add_comm 1] at hfilter
  rw [lines_eq_linesFrom, ← hfilter]
  rfl

/-- The next line is the first significant line behind those consumed. -/
theorem next_fst (h : source.IsPlaceIn text) :
    source.next.1 = (significantLines text).find? fun line => source.consumed < line.number := by
  have hhead : source.next.1 = source.lines.head? := by
    rw [next_eq, Source.lines]
    cases source.reads <;> rfl
  rw [hhead, h.lines_eq_filter, List.head?_filter]

/-- What has been read and what has not are the text. -/
theorem take_append_rest (h : source.IsPlaceIn text) :
    ((physicalLines text).take source.consumed).flatten ++ source.rest = text := by
  rw [Source.rest, h.unread_eq, ← List.flatten_append, List.take_append_drop, flatten_physicalLines]

/-- As many bytes have been read as the lines consumed take. -/
theorem offset_eq (h : source.IsPlaceIn text) :
    source.offset = byteLength ((physicalLines text).take source.consumed).flatten := by
  have htext : source.text = text := by rw [Source.text, h.all_eq, flatten_physicalLines]
  have hsum := congrArg byteLength h.take_append_rest
  rw [byteLength_append] at hsum
  rw [offset, htext]
  omega

/-- A text can be cut at every place in it, and what is unread is left. -/
theorem fromByte?_offset (h : source.IsPlaceIn text) :
    fromByte? source.offset text = some source.rest := by
  have hcut := fromByte?_append ((physicalLines text).take source.consumed).flatten source.rest
  rwa [h.take_append_rest, ← h.offset_eq] at hcut

theorem physicalLines_rest (h : source.IsPlaceIn text) :
    physicalLines source.rest = source.unread := by
  rw [Source.rest, h.unread_eq, physicalLines_flatten_drop]

end IsPlaceIn

end Source

namespace Program

section

variable {registry : Registry} {environment : Environment} {text : List Char}

/-- Set lines are read to the end of a source, or there is a fault and the
    source stands behind one of the lines that were to come. -/
theorem settingsOf_stops {program : Program} {source : Source} {reads : List (Line × Source)}
    (hreads : ∀ read ∈ reads, read.2.exhausted = source.exhausted) :
    (settingsOf registry environment program source reads).2 = source.exhausted ∨
      (∃ fault, (settingsOf registry environment program source reads).1 = .error fault) ∧
        (settingsOf registry environment program source reads).2 ∈ reads.map Prod.snd := by
  induction reads generalizing program source with
  | nil => exact Or.inl rfl
  | cons read reads ih =>
      rcases read with ⟨line, after⟩
      rcases Source.exhausted_of_forall_cons hreads with ⟨hafter, hothers⟩
      rw [settingsOf]
      split
      · -- One more line is looked for behind the line that ends a program.
        cases reads with
        | nil => exact Or.inl hafter
        | cons read reads =>
            exact Or.inr ⟨⟨_, rfl⟩, List.mem_cons_of_mem _ List.mem_cons_self⟩
      · split
        · exact Or.inr ⟨⟨_, rfl⟩, List.mem_cons_self⟩
        · rw [← hafter]
          exact (ih hothers).imp_right fun h => ⟨h.1, List.mem_cons_of_mem _ h.2⟩

theorem ofReads_stops (version : Version) {source : Source} {reads : List (Line × Source)}
    (hreads : ∀ read ∈ reads, read.2.exhausted = source.exhausted) :
    (ofReads registry environment version source reads).2 = source.exhausted ∨
      (∃ fault, (ofReads registry environment version source reads).1 = .error fault) ∧
        (ofReads registry environment version source reads).2 ∈ reads.map Prod.snd := by
  cases reads with
  | nil => exact settingsOf_stops hreads
  | cons read reads =>
      rcases read with ⟨line, after⟩
      rcases Source.exhausted_of_forall_cons hreads with ⟨hafter, hothers⟩
      rw [ofReads]
      split
      · rw [← hafter]
        exact (settingsOf_stops hothers).imp_right fun h => ⟨h.1, List.mem_cons_of_mem _ h.2⟩
      · exact settingsOf_stops hreads

/-- Reading a program leaves a source at its end, or there is a fault and the
    source stands behind one of the lines that were to come. -/
theorem ofSource_stops (source : Source) :
    (ofSource registry environment source).2 = source.exhausted ∨
      (∃ fault, (ofSource registry environment source).1 = .error fault) ∧
        (ofSource registry environment source).2 ∈ source.reads.map Prod.snd := by
  have hreads : ∀ read ∈ source.reads, read.2.exhausted = source.exhausted :=
    fun read hmem => Source.exhausted_of_mem_reads hmem
  unfold ofSource
  split
  · exact Or.inl rfl
  · next line after reads heq =>
    rw [heq] at hreads ⊢
    rcases Source.exhausted_of_forall_cons hreads with ⟨hafter, hothers⟩
    split
    · exact Or.inr ⟨⟨_, rfl⟩, List.mem_cons_self⟩
    · rw [← hafter]
      exact (ofReads_stops _ hothers).imp_right fun h => ⟨h.1, List.mem_cons_of_mem _ h.2⟩

/-- Reading a program leaves a source at a place of the same text. -/
theorem isPlaceIn_ofSource {source : Source} (h : source.IsPlaceIn text) :
    (ofSource registry environment source).2.IsPlaceIn text := by
  rcases ofSource_stops source with hend | ⟨_, hmem⟩
  · rw [hend]
    exact h.exhausted
  · rcases List.mem_map.1 hmem with ⟨⟨line, after⟩, hread, hafter⟩
    rw [← hafter]
    exact (h.of_mem_reads hread).1

end

end Program

namespace Session

variable {environment : Environment} {text : List Char} {session : Session}

/-- Both sources of a session stand in a text. -/
structure IsWithin (text : List Char) (session : Session) : Prop where
  source : session.source.IsPlaceIn text
  kept : session.kept.IsPlaceIn text

theorem isWithin_ofText (text : List Char) : (ofText text).IsWithin text :=
  ⟨Source.IsPlaceIn.start text, Source.IsPlaceIn.start text⟩

/-- No command takes a session out of its text. -/
theorem isWithin_step (h : session.IsWithin text) (command : Command) :
    (session.step environment command).2.IsWithin text := by
  cases command with
  | next => exact ⟨h.source.next, h.kept⟩
  | last => exact h
  | rewind => exact ⟨h.source.rewind, h.kept⟩
  | keep => exact ⟨h.source, h.source⟩
  | restore => exact ⟨h.kept, h.kept⟩
  | program => exact ⟨Program.isPlaceIn_ofSource h.source, h.kept⟩
  | compile =>
      have hafter : (Program.ofSource .snappySense environment session.source).2.IsPlaceIn text :=
        Program.isPlaceIn_ofSource h.source
      rw [← compile_source] at hafter
      exact ⟨hafter, h.kept⟩

/-- A session after several commands, each carried out in an environment of its
    own. -/
def afterEach (session : Session) (commands : List (Environment × Command)) : Session :=
  commands.foldl (fun session command => (session.step command.1 command.2).2) session

/-- No commands take a session out of its text, in whatever environments. -/
theorem isWithin_afterEach (h : session.IsWithin text) (commands : List (Environment × Command)) :
    (session.afterEach commands).IsWithin text := by
  induction commands generalizing session with
  | nil => exact h
  | cons command commands ih => exact ih (isWithin_step h command.2)

theorem isPlaceIn_afterEach (text : List Char) (commands : List (Environment × Command)) :
    ((ofText text).afterEach commands).source.IsPlaceIn text :=
  (isWithin_afterEach (isWithin_ofText text) commands).source

theorem isPlaceIn_after (environment : Environment) (text : List Char) (commands : List Command) :
    ((ofText text).after environment commands).source.IsPlaceIn text := by
  have hafter : (ofText text).after environment commands =
      (ofText text).afterEach (commands.map fun command => (environment, command)) := by
    rw [after, afterEach, List.foldl_map]
  rw [hafter]
  exact isPlaceIn_afterEach text _

end Session

end SensorConfig
