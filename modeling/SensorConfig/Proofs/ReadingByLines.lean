import SensorConfig.Proofs.SourcePlaces

/-!
# Reading by Lines

What a source says as a function of its lines.

A source is read from a place to a place, so what it says seems to depend on
where it stands, on the text behind it and on how its lines are found. It does
not. The lines to come decide it, and besides them only one number, that of all
lines of the text, which the two faults of a source that ends too soon are
located with. `Program.ofLines` is the reading as a function of these, and
`Program.ofSource_fst` says that it is what reading a source gives.

Here the settings that were read stand in order, as there is no need to put each
of them in front of the others.

## Main definitions

* `Program.settingsOfLines`: What set lines say, behind a program so far.
* `Program.ofLines`: What lines say.

## Theorems

* `Program.settingsOf_fst`: The loop over set lines as a function of lines.
* `Program.ofSource_fst`: The reading of a source as a function of its lines.
* `Program.ofSource_ofText_fst`: That of a text, of its significant lines.
-/

namespace SensorConfig

namespace Program

/-- What set lines say behind what a program says already, up to the line that
    ends it. The text has `count` lines in all. -/
def settingsOfLines (registry : Registry) (environment : Environment) (count : Nat) :
    Program → List Line → Except Fault Program
  | _, [] => .error (.form count .unterminated)
  | program, line :: lines =>
      match terminator? line.text with
      | some save =>
          match lines with
          | [] => .ok { program with save := save }
          | extra :: _ =>
              .error (.form extra.number (.trailing (String.ofList extra.text)))
      | none =>
          match Setting.ofLine registry environment line with
          | .error fault => .error fault
          | .ok setting =>
              settingsOfLines registry environment count
                { program with settings := program.settings ++ [setting] } lines

/-- What lines say, where the text has `count` lines in all. -/
def ofLines (registry : Registry) (environment : Environment) (count : Nat) :
    List Line → Except Fault Program
  | [] => .error (.form count .emptyProgram)
  | first :: lines =>
      match Version.ofLine first with
      | .error fault => .error fault
      | .ok version =>
          if lines.head?.map Line.text = some clearLine then
            settingsOfLines registry environment count ⟨version, true, [], false⟩ lines.tail
          else settingsOfLines registry environment count ⟨version, false, [], false⟩ lines

section

variable {registry : Registry} {environment : Environment}

/-- The loop over set lines depends on the lines and on where they end. What it
    has read already it keeps in reverse. -/
theorem settingsOf_fst {program : Program} {source : Source} {reads : List (Line × Source)}
    (hreads : ∀ read ∈ reads, read.2.exhausted = source.exhausted) :
    (settingsOf registry environment program source reads).1 =
      settingsOfLines registry environment source.exhausted.consumed
        { program with settings := program.settings.reverse } (reads.map Prod.fst) := by
  induction reads generalizing program source with
  | nil => rfl
  | cons read reads ih =>
      rcases read with ⟨line, after⟩
      rcases Source.exhausted_of_forall_cons hreads with ⟨hafter, hothers⟩
      rw [settingsOf, List.map_cons, settingsOfLines]
      cases terminator? line.text with
      | some save =>
          cases reads <;> rfl
      | none =>
          cases Setting.ofLine registry environment line with
          | error fault => rfl
          -- A setting is put in front of those in reverse, so it ends up behind them.
          | ok setting => simp only [ih hothers, hafter, List.reverse_cons]

theorem ofReads_fst (version : Version) {source : Source} {reads : List (Line × Source)}
    (hreads : ∀ read ∈ reads, read.2.exhausted = source.exhausted) :
    (ofReads registry environment version source reads).1 =
      if (reads.map Prod.fst).head?.map Line.text = some clearLine then
        settingsOfLines registry environment source.exhausted.consumed ⟨version, true, [], false⟩
          (reads.map Prod.fst).tail
      else
        settingsOfLines registry environment source.exhausted.consumed ⟨version, false, [], false⟩
          (reads.map Prod.fst) := by
  cases reads with
  | nil => exact settingsOf_fst hreads
  | cons read reads =>
      rcases read with ⟨line, after⟩
      rcases Source.exhausted_of_forall_cons hreads with ⟨hafter, hothers⟩
      simp only [ofReads, List.map_cons, List.head?_cons, Option.map_some, Option.some.injEq,
        List.tail_cons]
      split
      · rw [settingsOf_fst hothers, hafter]
        rfl
      · rw [settingsOf_fst hreads]
        rfl

/-- What a source says is what its lines say. -/
theorem ofSource_fst (registry : Registry) (environment : Environment) (source : Source) :
    (ofSource registry environment source).1 =
      ofLines registry environment source.exhausted.consumed source.lines := by
  have hreads : ∀ read ∈ source.reads, read.2.exhausted = source.exhausted :=
    fun read hmem => Source.exhausted_of_mem_reads hmem
  unfold ofSource Source.lines
  cases hsource : source.reads with
  | nil => rfl
  | cons read reads =>
      rcases read with ⟨first, after⟩
      rw [hsource] at hreads
      rcases Source.exhausted_of_forall_cons hreads with ⟨hafter, hothers⟩
      simp only [List.map_cons, ofLines]
      cases Version.ofLine first with
      | error fault => rfl
      | ok version =>
          rw [← hafter]
          exact ofReads_fst version hothers

/-- What a text says is what its significant lines say. -/
theorem ofSource_ofText_fst (registry : Registry) (environment : Environment) (text : List Char) :
    (ofSource registry environment (Source.ofText text)).1 =
      ofLines registry environment (physicalLines text).length (significantLines text) := by
  rw [ofSource_fst, Source.lines_ofText, (Source.IsPlaceIn.start text).consumed_exhausted]

end

end Program

end SensorConfig
