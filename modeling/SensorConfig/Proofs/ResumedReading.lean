import SensorConfig.Proofs.CompiledPrograms
import SensorConfig.Proofs.LineCursors
import SensorConfig.Proofs.ReadingByLines

/-!
# Resumed Reading

A program that is read from the middle of a text.

What a source says depends on its lines and on the number of all of them, and
both are counted from the start of the text. If reading begins later, the same
lines have larger numbers. Numbers are never looked at, they are only put into
faults, so the larger numbers come out where the smaller ones would have and
nothing else changes. `Fault.later` moves the line of a fault, and every step of
the reading commutes with it: the preamble, the file of a value, the value, the
loop over set lines.

So reading what is left of a text from any place is reading that text alone.
Where it stops is known as well. Without a fault it is the end, and with one it
is behind the line of the fault, which is where a reader who looks at the
remaining lines goes on.

## Main definitions

* `Line.later`: A line with a larger number.
* `Fault.later`: A fault of a line with a larger number.

## Theorems

* `linesFrom_later`: Lines behind others are the same with larger numbers.
* `Setting.ofLine_later`: A line sets the same wherever it stands.
* `Program.ofLines_later`: Lines say the same wherever they stand.
* `Program.ofSource_of_isPlaceIn`: What is left says what it says alone.
* `Session.resumed_reading`: What is read from any place, and where that stops.
-/

namespace SensorConfig

/-- A line with its number increased. -/
def Line.later (k : Nat) (line : Line) : Line :=
  { line with number := line.number + k }

namespace Fault

/-- A fault with the number of its line increased. -/
def later (k : Nat) : Fault → Fault
  | form line fault => .form (line + k) fault
  | version line fault => .version (line + k) fault
  | unknownVariable line name => .unknownVariable (line + k) name
  | notInteger line value => .notInteger (line + k) value
  | outOfRange line name value min max => .outOfRange (line + k) name value min max
  | tooLong line name length max => .tooLong (line + k) name length max
  | homeUnset line => .homeUnset (line + k)
  | unreadable line path cause => .unreadable (line + k) path cause
  | file operation path cause => .file operation path cause
  | overlong text => .overlong text

end Fault

/-- The lines among pieces that are counted from a larger number are the same
    lines with larger numbers. -/
theorem linesFrom_later (number k : Nat) (pieces : List (List Char)) :
    linesFrom (number + k) pieces = (linesFrom number pieces).map (Line.later k) := by
  induction pieces generalizing number with
  | nil => rfl
  | cons piece pieces ih =>
      have hrest := ih (number + 1)
      rw [Nat.add_right_comm] at hrest
      rw [linesFrom_cons, linesFrom_cons]
      cases significant? piece with
      | none => exact hrest
      | some text => rw [List.map_cons, hrest, Line.later]

section

variable {registry : Registry} {environment : Environment}

theorem noSetLine_later (k : Nat) (line : Line) :
    noSetLine (line.later k) = (noSetLine line).later k := by
  unfold noSetLine
  simp only [Line.later]
  cases Lexeme.word? SetLine.keyword line.text <;> rfl

theorem Version.ofLine_later (k : Nat) (line : Line) :
    ofLine (line.later k) = (ofLine line).mapError (Fault.later k) := by
  unfold ofLine
  simp only [Line.later]
  split
  · split <;> rfl
  · split
    · rfl
    · split <;> rfl

namespace Operand

theorem readFile_later (v : Variable) (line k : Nat) (name : List Char) :
    readFile environment v (line + k) name =
      (readFile environment v line name).mapError (Fault.later k) := by
  unfold readFile
  split
  · rfl
  · split
    · rfl
    · split
      · rfl
      · split <;> rfl

theorem resolve_later (v : Variable) (line k : Nat) (value : List Char) :
    resolve environment v (line + k) value =
      (resolve environment v line value).mapError (Fault.later k) := by
  unfold resolve
  split
  · rfl
  · rfl
  · exact readFile_later v line k _

end Operand

namespace Setting

theorem ofOperand_later (v : Variable) (line k : Nat) (operand : Operand) :
    ofOperand registry v (line + k) operand =
      (ofOperand registry v line operand).mapError (Fault.later k) := by
  unfold ofOperand
  split
  · unfold ofInteger
    split
    · rfl
    · split
      · rfl
      · split <;> rfl
  · simp only [ofText]
    split <;> rfl

/-- A line sets the same wherever it stands, and its fault is the same but for
    its line. -/
theorem ofLine_later (k : Nat) (line : Line) :
    ofLine registry environment (line.later k) =
      (ofLine registry environment line).mapError (Fault.later k) := by
  -- The text of the line decides each step, and its number only goes into faults.
  unfold ofLine
  rw [noSetLine_later]
  simp only [Line.later]
  split
  · rfl
  · next set _ =>
    split
    · rfl
    · next v _ =>
      rw [Operand.resolve_later]
      cases Operand.resolve environment v line.number set.value with
      | error fault => rfl
      | ok operand => exact ofOperand_later v line.number k operand

end Setting

namespace Program

theorem settingsOfLines_later (count k : Nat) (program : Program) (lines : List Line) :
    settingsOfLines registry environment (count + k) program (lines.map (Line.later k)) =
      (settingsOfLines registry environment count program lines).mapError (Fault.later k) := by
  induction lines generalizing program with
  | nil => rfl
  | cons line lines ih =>
      have htext : (line.later k).text = line.text := rfl
      rw [List.map_cons, settingsOfLines, settingsOfLines, htext, Setting.ofLine_later]
      cases terminator? line.text with
      | some save =>
          cases lines <;> rfl
      | none =>
          cases Setting.ofLine registry environment line with
          | error fault => rfl
          | ok setting => exact ih _

/-- Lines say the same wherever they stand. -/
theorem ofLines_later (count k : Nat) (lines : List Line) :
    ofLines registry environment (count + k) (lines.map (Line.later k)) =
      (ofLines registry environment count lines).mapError (Fault.later k) := by
  cases lines with
  | nil => rfl
  | cons first lines =>
      have hhead : (lines.map (Line.later k)).head?.map Line.text = lines.head?.map Line.text := by
        cases lines <;> rfl
      rw [List.map_cons, ofLines, ofLines, Version.ofLine_later, hhead]
      cases Version.ofLine first with
      | error fault => rfl
      | ok version =>
          simp only [Except.mapError]
          split
          · rw [← List.map_tail]
            exact settingsOfLines_later count k _ lines.tail
          · exact settingsOfLines_later count k _ lines

/-- What is left of a text says what it says alone, but for the lines of
    faults. -/
theorem ofSource_of_isPlaceIn {text : List Char} {source : Source} (h : source.IsPlaceIn text) :
    (ofSource registry environment source).1 =
      (ofSource registry environment (Source.ofText source.rest)).1.mapError
        (Fault.later source.consumed) := by
  have hlines : source.lines =
      (significantLines source.rest).map (Line.later source.consumed) := by
    rw [Source.lines_eq_linesFrom, Nat.add_comm, linesFrom_later, ← h.physicalLines_rest,
      linesFrom_physicalLines]
    rfl
  -- The faults of an end that comes too soon are moved like those of lines.
  have hcount : source.exhausted.consumed =
      (physicalLines source.rest).length + source.consumed := by
    rw [h.physicalLines_rest, Nat.add_comm]
    rfl
  rw [ofSource_fst, ofSource_ofText_fst, hlines, hcount, ofLines_later]

end Program

theorem compile_of_isPlaceIn {text : List Char} {source : Source} (h : source.IsPlaceIn text) :
    (compile registry environment source).1 =
      (compile registry environment (Source.ofText source.rest)).1.mapError
        (Fault.later source.consumed) := by
  rw [compile_fst, compile_fst, Program.ofSource_of_isPlaceIn h]
  cases (Program.ofSource registry environment (Source.ofText source.rest)).1 <;> rfl

namespace Program

/-- A source that says a program is read to its end. -/
theorem ofSource_snd_of_ok {source : Source} {program : Program}
    (h : (ofSource registry environment source).1 = .ok program) :
    (ofSource registry environment source).2 = source.exhausted := by
  rcases ofSource_stops source with hend | ⟨⟨fault, hfault⟩, _⟩
  · exact hend
  · rw [hfault] at h
    exact absurd h (by simp only [reduceCtorEq, not_false_eq_true])

/-- A source is not read without a line being consumed, unless its text has
    none. -/
theorem text_eq_nil_of_consumed {text : List Char} {source : Source} (h : source.IsPlaceIn text)
    (hzero : (ofSource registry environment source).2.consumed = 0) : text = [] := by
  rcases ofSource_stops source with hend | ⟨_, hmem⟩
  · rw [hend, h.consumed_exhausted, List.length_eq_zero_iff] at hzero
    rw [← flatten_physicalLines text, hzero]
    rfl
  · rcases List.mem_map.1 hmem with ⟨⟨line, after⟩, hread, hafter⟩
    have hpos := (h.of_mem_reads hread).2
    rw [← hafter] at hzero
    exact absurd hzero (Nat.ne_of_gt hpos)

end Program

namespace Session

/-- Wherever a session has come to, the text can be cut there. What is left says
    the program that it says alone, or it has the same fault at a line that is
    later by the number of lines consumed. A source that says a program is read
    to the end of the text. A fault is that of the line read last, and reading
    goes on with the first significant line behind it. -/
theorem resumed_reading (registry : Registry) (environment : Environment) (text : List Char)
    (commands : List (Environment × Command)) :
    let source := ((ofText text).afterEach commands).source
    let result := Program.ofSource registry environment source
    let compiled := compile registry environment source
    (∃ rest, fromByte? source.offset text = some rest ∧
      result.1 = (Program.ofSource registry environment (Source.ofText rest)).1.mapError
        (Fault.later source.consumed) ∧
      compiled.1 = (compile registry environment (Source.ofText rest)).1.mapError
        (Fault.later source.consumed)) ∧
    compiled.2 = result.2 ∧
    (((∃ program, result.1 = .ok program) ∨ ∃ output, compiled.1 = .ok output) →
      result.2.next = (none, result.2) ∧ result.2.consumed = (bareLines text).length) ∧
    ∀ fault, (result.1 = .error fault ∨ compiled.1 = .error fault) →
      fault.line? = some result.2.consumed ∧ result.2.consumed ≤ (bareLines text).length ∧
      (result.2.consumed = 0 → text = []) ∧
      result.2.next.1 =
        (significantLines text).find? fun line => result.2.consumed < line.number := by
  intro source result compiled
  have hplace : source.IsPlaceIn text := isPlaceIn_afterEach text commands
  have hafter : result.2.IsPlaceIn text := Program.isPlaceIn_ofSource hplace
  refine ⟨⟨source.rest, hplace.fromByte?_offset, Program.ofSource_of_isPlaceIn hplace,
    compile_of_isPlaceIn hplace⟩, compile_source registry environment source, ?_, ?_⟩
  · intro hok
    have hprogram : ∃ program, result.1 = .ok program := by
      rcases hok with hok | ⟨⟨program, bytes⟩, hbytes⟩
      · exact hok
      · have hpair : compiled = (.ok (program, bytes), compiled.2) := Prod.ext hbytes rfl
        exact ⟨program, congrArg Prod.fst ((compile_eq_ok_iff _ _ _ _).1 hpair).1⟩
    rcases hprogram with ⟨program, hprogram⟩
    have hend : result.2 = source.exhausted := Program.ofSource_snd_of_ok hprogram
    refine ⟨?_, ?_⟩
    · rw [hend]
      rfl
    · rw [hend, hplace.consumed_exhausted, length_physicalLines]
  · intro fault herror
    have hfault : result.1 = .error fault := by
      rcases herror with herror | herror
      · exact herror
      · have hpair : compiled = (.error fault, compiled.2) := Prod.ext herror rfl
        exact congrArg Prod.fst ((compile_eq_error_iff _ _ _).1 hpair)
    -- The line of the fault says how many lines were consumed, so reading goes on behind it.
    have hsource : Program.ofSource registry environment source = (.error fault, result.2) :=
      Prod.ext hfault rfl
    have hline := Program.line?_of_ofSource hsource
    refine ⟨hline, ?_, Program.text_eq_nil_of_consumed hplace, hafter.next_fst⟩
    rw [← length_physicalLines]
    exact hafter.consumed_le

/-- Behind a first line that is no preamble a program begins, with a fault in its
    second line. -/
theorem resumed_reading_twice :
    let text := ("set enabled 9\nsnappysense-compiled-config 1.0.0\n" ++
      "set enabled 7\n# é\n end").toList
    let environment : Environment := ⟨none, fun _ => .error .notFound⟩
    let source := ((ofText text).afterEach [(environment, .program), (environment, .keep),
      (environment, .next), (environment, .restore)]).source
    let result := Program.ofSource .snappySense environment source
    result.1 = .error (.outOfRange 3 "enabled" 7 0 1) ∧
      result.2.next.1 =
        (significantLines text).find? fun line => result.2.consumed < line.number :=
  ⟨rfl, ((resumed_reading .snappySense _ _ _).2.2.2 _ (Or.inl rfl)).2.2.2⟩

end Session

end

end SensorConfig
