import SensorConfig.Proofs.CompiledPrograms
import SensorConfig.Proofs.ReadingByLines

/-!
# The First Fault

Which line a fault is found at, and why nothing behind that line matters.

The reading of lines stops at the first that cannot be used. To say which one
that is, one has to say what the lines before it are: not a program, which they
may not be until many lines later, but the beginning of one. `Program.OpenedBy`
is that notion. It is what the reader knows between two lines, so it is also the
invariant of the loop, and every way in which the loop can end is described by
what stands behind an opened program.

`Program.FaultOf` lists the ways that are faults. There is no line, the lines
end too soon, or there is a line at fault. In the last case the line is a first
line that is no preamble, a line that sets nothing, or a line behind the end.
Lines have a fault in this sense exactly if reading them gives it.

## Main definitions

* `Program.OpenedBy`: Lines that a program can begin with.
* `Program.FaultAt`: A line at fault behind others that are not.
* `Program.FaultOf`: Lines and the fault that they have.
* `firstLines`: The first physical lines of a text.

## Theorems

* `Program.OpenedBy.ofLines_append`: Reading goes on from what was opened.
* `Program.FaultAt.ofLines_eq`: What follows a line at fault is not read.
* `Program.ofLines_eq_error_iff`: Reading lines gives the fault that they have.
* `Program.ofSource_firstFault`: A fault is located at the first line at fault.
-/

namespace SensorConfig

section

variable {registry : Registry} {environment : Environment} {count : Nat}

namespace Program

/-- Lines that a program can begin with, and what they say so far: a preamble,
    the line that clears if there is one, and set lines. -/
inductive OpenedBy (registry : Registry) (environment : Environment) :
    List Line → Program → Prop where
  | plain {first : Line} {sets : List Line} {settings : List Setting}
      (hfirst : Version.ofLine first = .ok Version.supported)
      (hsets : sets.map (Setting.ofLine registry environment) = settings.map .ok) :
      OpenedBy registry environment (first :: sets) ⟨Version.supported, false, settings, false⟩
  | clearing {first second : Line} {sets : List Line} {settings : List Setting}
      (hfirst : Version.ofLine first = .ok Version.supported) (hclear : second.text = clearLine)
      (hsets : sets.map (Setting.ofLine registry environment) = settings.map .ok) :
      OpenedBy registry environment (first :: second :: sets)
        ⟨Version.supported, true, settings, false⟩

/-- A line at fault behind lines that are not. A line that clears is at fault
    anywhere but behind the preamble, where it is used. -/
inductive FaultAt (registry : Registry) (environment : Environment) :
    List Line → Line → Fault → Prop where
  | preamble {line : Line} {fault : Fault} (h : Version.ofLine line = .error fault) :
      FaultAt registry environment [] line fault
  | setting {before : List Line} {line : Line} {fault : Fault} {program : Program}
      (hbefore : OpenedBy registry environment before program)
      (hline : terminator? line.text = none)
      (hclear : before.length = 1 → line.text ≠ clearLine)
      (h : Setting.ofLine registry environment line = .error fault) :
      FaultAt registry environment before line fault
  | trailing {before : List Line} {last line : Line} {save : Bool} {program : Program}
      (hbefore : OpenedBy registry environment before program)
      (hlast : terminator? last.text = some save) :
      FaultAt registry environment (before ++ [last]) line
        (.form line.number (.trailing (String.ofList line.text)))

/-- The fault of lines, where the text has `count` lines in all: there is none,
    they end too soon, or one of them is at fault. -/
inductive FaultOf (registry : Registry) (environment : Environment) (count : Nat) :
    List Line → Fault → Prop where
  | empty : FaultOf registry environment count [] (.form count .emptyProgram)
  | unterminated {lines : List Line} {program : Program}
      (h : OpenedBy registry environment lines program) :
      FaultOf registry environment count lines (.form count .unterminated)
  | atLine {before : List Line} {line : Line} {fault : Fault}
      (h : FaultAt registry environment before line fault) (after : List Line) :
      FaultOf registry environment count (before ++ line :: after) fault

/-- Lines that set something are read one after another. -/
theorem settingsOfLines_append {sets : List Line} {settings : List Setting}
    (h : sets.map (Setting.ofLine registry environment) = settings.map .ok) (program : Program)
    (rest : List Line) :
    settingsOfLines registry environment count program (sets ++ rest) =
      settingsOfLines registry environment count
        { program with settings := program.settings ++ settings } rest := by
  induction sets generalizing program settings with
  | nil =>
      have hnil : settings = [] := List.map_eq_nil_iff.1 h.symm
      rw [hnil, List.nil_append, List.append_nil]
  | cons line sets ih =>
      cases settings with
      | nil => exact absurd h (List.cons_ne_nil _ _)
      | cons setting settings =>
          rw [List.map_cons, List.map_cons, List.cons.injEq] at h
          rw [List.cons_append, settingsOfLines, Setting.terminator?_of_ofLine h.1, h.1]
          simp only [ih h.2, List.append_assoc, List.singleton_append]

/-- Lines that set something do not begin with the line that clears. -/
theorem head?_ne_clearLine_of_map {sets : List Line} {settings : List Setting}
    (h : sets.map (Setting.ofLine registry environment) = settings.map .ok) :
    sets.head?.map Line.text ≠ some clearLine := by
  cases sets with
  | nil => simp only [List.head?_nil, Option.map_none, ne_eq, reduceCtorEq, not_false_eq_true]
  | cons line sets =>
      cases settings with
      | nil => exact absurd h (List.cons_ne_nil _ _)
      | cons setting settings =>
          rw [List.map_cons, List.map_cons, List.cons.injEq] at h
          intro htext
          exact Setting.text_ne_of_ofLine (by decide) h.1 (Option.some.inj htext)

namespace OpenedBy

variable {lines : List Line} {program : Program}

theorem length_pos (h : OpenedBy registry environment lines program) : 0 < lines.length := by
  cases h with
  | plain => exact Nat.succ_pos _
  | clearing => exact Nat.succ_pos _

/-- One more set line keeps a program open. -/
theorem append_setting (h : OpenedBy registry environment lines program) {line : Line}
    {setting : Setting} (hsetting : Setting.ofLine registry environment line = .ok setting) :
    OpenedBy registry environment (lines ++ [line])
      { program with settings := program.settings ++ [setting] } := by
  have hmap : ∀ (sets : List Line) (settings : List Setting),
      sets.map (Setting.ofLine registry environment) = settings.map .ok →
        (sets ++ [line]).map (Setting.ofLine registry environment) =
          (settings ++ [setting]).map .ok := by
    intro sets settings hsets
    rw [List.map_append, List.map_append, hsets, List.map_singleton, List.map_singleton, hsetting]
  cases h with
  | plain hfirst hsets => exact .plain hfirst (hmap _ _ hsets)
  | clearing hfirst hclear hsets => exact .clearing hfirst hclear (hmap _ _ hsets)

/-- Reading goes on behind lines that open a program, unless what follows the
    preamble is the line that clears. -/
theorem ofLines_append (h : OpenedBy registry environment lines program) {rest : List Line}
    (hrest : lines.length = 1 → rest.head?.map Line.text ≠ some clearLine) :
    ofLines registry environment count (lines ++ rest) =
      settingsOfLines registry environment count program rest := by
  cases h with
  | @plain first sets settings hfirst hsets =>
      have hclear : (sets ++ rest).head?.map Line.text ≠ some clearLine := by
        cases sets with
        | nil => exact hrest rfl
        | cons line sets =>
            have hhead := head?_ne_clearLine_of_map hsets
            exact hhead
      rw [List.cons_append, ofLines, hfirst]
      simp only [hclear, ↓reduceIte, settingsOfLines_append hsets, List.nil_append]
  | @clearing first second sets settings hfirst hclear hsets =>
      rw [List.cons_append, List.cons_append, ofLines, hfirst]
      simp only [List.head?_cons, Option.map_some, hclear, ↓reduceIte, List.tail_cons,
        settingsOfLines_append hsets, List.nil_append]

/-- A line that ends a program completes what was opened. -/
theorem ofLines_ends (h : OpenedBy registry environment lines program) {last : Line} {save : Bool}
    (hlast : terminator? last.text = some save) :
    ofLines registry environment count (lines ++ [last]) = .ok { program with save := save } := by
  have hrest : lines.length = 1 → [last].head?.map Line.text ≠ some clearLine :=
    fun _ htext => ne_clearLine_of_terminator? hlast (Option.some.inj htext)
  rw [h.ofLines_append hrest, settingsOfLines, hlast]

/-- What lines that open a program say so far is what the set lines among them
    set. -/
theorem map_drop_firstSetLine (h : OpenedBy registry environment lines program) :
    (lines.drop (firstSetLine lines)).map (Setting.ofLine registry environment) =
      program.settings.map .ok := by
  cases h with
  | @plain first sets settings hfirst hsets =>
      have hstart : firstSetLine (first :: sets) = 1 := by
        rw [firstSetLine, List.getElem?_cons_succ, ← List.head?_eq_getElem?,
          if_neg (head?_ne_clearLine_of_map hsets)]
      rw [hstart]
      exact hsets
  | @clearing first second sets settings hfirst hclear hsets =>
      have hstart : firstSetLine (first :: second :: sets) = 2 :=
        (firstSetLine_eq_two_iff _).2 (congrArg some hclear)
      rw [hstart]
      exact hsets

end OpenedBy

namespace FaultAt

variable {before : List Line} {line : Line} {fault : Fault}

/-- The fault of a line at fault has its number. -/
theorem line?_eq (h : FaultAt registry environment before line fault) :
    fault.line? = some line.number := by
  cases h with
  | preamble h => exact (Version.fault_of_ofLine h).1
  | setting _ _ _ h => exact (Setting.fault_of_ofLine h).1
  | trailing => rfl

/-- A line at fault is no preamble, it sets nothing, or it stands behind the end. -/
theorem origin (h : FaultAt registry environment before line fault) :
    Version.ofLine line = .error fault ∨ Setting.ofLine registry environment line = .error fault ∨
      fault = .form line.number (.trailing (String.ofList line.text)) := by
  cases h with
  | preamble h => exact Or.inl h
  | setting _ _ _ h => exact Or.inr (Or.inl h)
  | trailing => exact Or.inr (Or.inr rfl)

/-- In front of a set line at fault stand lines that open a program. -/
theorem openedBy_of_setting (h : FaultAt registry environment before line fault)
    (hsite : fault.site = .setting) : ∃ program, OpenedBy registry environment before program := by
  cases h with
  | preamble h =>
      rw [(Version.fault_of_ofLine h).2] at hsite
      exact absurd hsite (by decide)
  | setting hbefore => exact ⟨_, hbefore⟩
  | trailing => exact absurd hsite (by simp only [Fault.site, reduceCtorEq, not_false_eq_true])

/-- In front of a line behind the end stand lines that open a program and the
    line that ends it. -/
theorem exists_ends_of_behind (h : FaultAt registry environment before line fault)
    (hsite : fault.site = .behind) :
    ∃ opened last program save, before = opened ++ [last] ∧
      OpenedBy registry environment opened program ∧ terminator? last.text = some save := by
  cases h with
  | preamble h =>
      rw [(Version.fault_of_ofLine h).2] at hsite
      exact absurd hsite (by decide)
  | setting _ _ _ h =>
      rw [(Setting.fault_of_ofLine h).2] at hsite
      exact absurd hsite (by decide)
  | trailing hbefore hlast => exact ⟨_, _, _, _, rfl, hbefore, hlast⟩

/-- Whatever follows a line at fault, reading gives its fault. -/
theorem ofLines_eq (h : FaultAt registry environment before line fault) (after : List Line) :
    ofLines registry environment count (before ++ line :: after) = .error fault := by
  cases h with
  | preamble h => simp only [List.nil_append, ofLines, h]
  | setting hbefore hline hclear h =>
      have hrest : before.length = 1 →
          (line :: after).head?.map Line.text ≠ some clearLine :=
        fun hone htext => hclear hone (Option.some.inj htext)
      rw [hbefore.ofLines_append hrest, settingsOfLines, hline, h]
  | @trailing before last line save program hbefore hlast =>
      have hrest : before.length = 1 →
          (last :: line :: after).head?.map Line.text ≠ some clearLine := by
        intro _ htext
        exact ne_clearLine_of_terminator? hlast (Option.some.inj htext)
      rw [List.append_assoc, List.singleton_append, hbefore.ofLines_append hrest, settingsOfLines,
        hlast]

end FaultAt

/-- What can follow lines that open a program: nothing, and then they end too
    soon, or a line at fault, after more set lines or none. -/
theorem faultOf_of_settingsOfLines {before lines : List Line} {program : Program} {fault : Fault}
    (hbefore : OpenedBy registry environment before program)
    (hclear : before.length = 1 → lines.head?.map Line.text ≠ some clearLine)
    (h : settingsOfLines registry environment count program lines = .error fault) :
    FaultOf registry environment count (before ++ lines) fault := by
  induction lines generalizing before program with
  | nil =>
      rw [settingsOfLines, Except.error.injEq] at h
      rw [← h, List.append_nil]
      exact .unterminated hbefore
  | cons line lines ih =>
      have hline : before.length = 1 → line.text ≠ clearLine :=
        fun hone htext => hclear hone (congrArg some htext)
      rw [settingsOfLines] at h
      -- The line ends the program, is at fault, or is one more of those that are not.
      cases hend : terminator? line.text with
      | some save =>
          rw [hend] at h
          cases lines with
          | nil => exact absurd h (by simp only [reduceCtorEq, not_false_eq_true])
          | cons extra after =>
              simp only [Except.error.injEq] at h
              rw [← h, ← List.singleton_append, ← List.append_assoc]
              exact .atLine (.trailing hbefore hend) after
      | none =>
          rw [hend] at h
          cases hsetting : Setting.ofLine registry environment line with
          | error found =>
              rw [hsetting] at h
              simp only [Except.error.injEq] at h
              rw [← h]
              exact .atLine (.setting hbefore hend hline hsetting) lines
          | ok setting =>
              rw [hsetting] at h
              -- Behind two lines or more the line that clears is one like any other.
              have hpos := hbefore.length_pos
              have hlong : (before ++ [line]).length = 1 →
                  lines.head?.map Line.text ≠ some clearLine := by
                intro hone
                rw [List.length_append, List.length_singleton] at hone
                omega
              have hrest := ih (hbefore.append_setting hsetting) hlong h
              rwa [List.append_assoc, List.singleton_append] at hrest

/-- Reading lines gives a fault exactly if it is theirs. -/
theorem ofLines_eq_error_iff (lines : List Line) (fault : Fault) :
    ofLines registry environment count lines = .error fault ↔
      FaultOf registry environment count lines fault := by
  constructor
  · intro h
    cases lines with
    | nil =>
        rw [ofLines, Except.error.injEq] at h
        rw [← h]
        exact .empty
    | cons first lines =>
        rw [ofLines] at h
        cases hfirst : Version.ofLine first with
        | error found =>
            rw [hfirst] at h
            simp only [Except.error.injEq] at h
            rw [← h]
            exact .atLine (.preamble hfirst) lines
        | ok version =>
            rw [hfirst] at h
            have hversion := ((Version.ofLine_eq_ok_iff first version).1 hfirst).1
            subst hversion
            simp only at h
            -- What has been opened is the preamble, with the line that clears if it follows.
            split at h
            · next hclear =>
              cases lines with
              | nil => exact absurd hclear (by simp)
              | cons second lines =>
                  have hopened : OpenedBy registry environment [first, second]
                      ⟨Version.supported, true, [], false⟩ :=
                    .clearing hfirst (Option.some.inj hclear) rfl
                  exact faultOf_of_settingsOfLines hopened (fun hone => absurd hone (by simp)) h
            · next hclear =>
              have hopened : OpenedBy registry environment [first]
                  ⟨Version.supported, false, [], false⟩ := .plain hfirst rfl
              exact faultOf_of_settingsOfLines hopened (fun _ => hclear) h
  · intro h
    cases h with
    | empty => rfl
    | @unterminated lines program h =>
        have hrest : lines.length = 1 → ([] : List Line).head?.map Line.text ≠ some clearLine :=
          fun _ => by simp
        rw [← List.append_nil lines, h.ofLines_append hrest, settingsOfLines]
    | atLine h after => exact h.ofLines_eq after

/-- A fault that is not that of lines which end too soon is that of a line. -/
theorem exists_faultAt {lines : List Line} {fault : Fault} {n : Nat}
    (h : ofLines registry environment count lines = .error fault)
    (hline : fault.line? = some n) (hempty : fault ≠ .form n .emptyProgram)
    (hunterminated : fault ≠ .form n .unterminated) :
    ∃ before line after, lines = before ++ line :: after ∧
      FaultAt registry environment before line fault := by
  cases (ofLines_eq_error_iff lines fault).1 h with
  | empty =>
      rw [Fault.line?, Option.some.injEq] at hline
      rw [hline] at hempty
      exact absurd rfl hempty
  | unterminated =>
      rw [Fault.line?, Option.some.injEq] at hline
      rw [hline] at hunterminated
      exact absurd rfl hunterminated
  | atLine h after => exact ⟨_, _, after, rfl, h⟩

end Program

end

/-- The first physical lines of a text, without the line feed of the last. -/
def firstLines (count : Nat) (text : List Char) : List Char :=
  ['\n'].intercalate ((text.splitOn '\n').take count)

theorem lineFeed_not_mem_of_mem_splitOn {text piece : List Char}
    (h : piece ∈ text.splitOn '\n') : '\n' ∉ piece := by
  induction text using line_induction with
  | last line hline =>
      rw [List.splitOn_eq_singleton hline] at h
      rw [List.mem_singleton.1 h]
      exact hline
  | cons line rest hline ih =>
      rw [List.splitOn_append_cons_self_of_not_mem hline] at h
      rcases List.mem_cons.1 h with rfl | h
      · exact hline
      · exact ih h

/-- The pieces of the first lines of a text are its first pieces. -/
theorem splitOn_firstLines {count : Nat} (h : 0 < count) (text : List Char) :
    (firstLines count text).splitOn '\n' = (text.splitOn '\n').take count := by
  refine List.splitOn_intercalate '\n' (fun piece hpiece => ?_) ?_
  · exact lineFeed_not_mem_of_mem_splitOn (List.mem_of_mem_take hpiece)
  · rw [ne_eq, List.take_eq_nil_iff]
    rintro (hzero | hnil)
    · omega
    · exact List.splitOn_ne_nil '\n' text hnil

/-- The significant lines of the first lines of a text, whatever follows them. -/
theorem significantLines_firstLines {front back : List (List Char)} {text : List Char}
    (hfront : front ≠ []) (htext : text.splitOn '\n' = front ++ back) (rest : List Char) :
    significantLines (firstLines front.length text) = linesFrom 1 front ∧
      significantLines (firstLines front.length text ++ '\n' :: rest) =
        linesFrom 1 front ++ linesFrom (1 + front.length) (rest.splitOn '\n') := by
  have hpieces : (firstLines front.length text).splitOn '\n' = front := by
    rw [splitOn_firstLines (List.length_pos_iff.2 hfront), htext, List.take_left]
  constructor
  · rw [significantLines, hpieces]
  · rw [significantLines, List.splitOn_append_cons_self, hpieces, linesFrom_append]

/-- Where a text has a significant line it can be cut behind the line or before
    it, and the lines up to there are what they were. -/
theorem significantLines_cut {text : List Char} {before after : List Line} {line : Line}
    (h : significantLines text = before ++ line :: after) :
    (significantLines text).filter (fun other => other.number < line.number) = before ∧
    significantLines (firstLines line.number text) = before ++ [line] ∧
    (∀ rest, ∃ others,
      significantLines (firstLines line.number text ++ '\n' :: rest) = before ++ line :: others) ∧
    (before ≠ [] →
      significantLines (firstLines (line.number - 1) text) = before ∧
      ∀ rest, significantLines (firstLines (line.number - 1) text ++ '\n' :: rest) =
        before ++ linesFrom line.number (rest.splitOn '\n')) := by
  rcases exists_pieces_of_linesFrom h with ⟨front, piece, back, hpieces, hbefore, hpiece⟩
  have hnumber : line.number = 1 + front.length := by
    have hrange := number_of_mem_linesFrom (hpiece ▸ List.mem_singleton_self line)
    rw [List.length_singleton] at hrange
    omega
  -- The pieces up to that of the line give the lines up to it, and no others.
  have hupto : linesFrom 1 (front ++ [piece]) = before ++ [line] := by
    rw [linesFrom_append, hbefore, hpiece]
  have hbehind : firstLines line.number text = firstLines (front ++ [piece]).length text := by
    rw [hnumber, List.length_append, List.length_singleton, Nat.add_comm 1]
  have hprevious : firstLines (line.number - 1) text = firstLines front.length text := by
    rw [hnumber, Nat.add_sub_cancel_left]
  have htext : text.splitOn '\n' = (front ++ [piece]) ++ back := by
    rw [hpieces, List.append_assoc, List.singleton_append]
  have hcut := significantLines_firstLines
    (List.append_ne_nil_of_right_ne_nil front (List.cons_ne_nil piece [])) htext
  refine ⟨?_, ?_, fun rest => ?_, fun hne => ?_⟩
  · rw [significantLines, hpieces, hnumber, filter_lt_linesFrom, hbefore]
  · rw [hbehind, (hcut []).1, hupto]
  · rw [hbehind, (hcut rest).2, hupto, List.append_assoc]
    exact ⟨_, rfl⟩
  · -- A line that stands before it has a piece, so the cut leaves something in front.
    have hfront : front ≠ [] := by
      rintro rfl
      exact hne hbefore.symm
    rw [hprevious, hnumber, ← hbefore]
    exact ⟨(significantLines_firstLines hfront hpieces []).1,
      fun rest => (significantLines_firstLines hfront hpieces rest).2⟩

namespace Program

/-- A fault is located at the first line at fault, unless the lines end too
    soon. That line is a significant one, and the text up to it has the same
    fault, whatever follows. If it is a set line, the lines before it and a line
    that ends a program are a program, of the settings of the set lines among
    them. If it stands behind the end, the lines before it are a program. -/
theorem ofSource_firstFault (registry : Registry) (environment : Environment) {text : List Char}
    {fault : Fault} {n : Nat}
    (h : (ofSource registry environment (Source.ofText text)).1 = .error fault)
    (hline : fault.line? = some n) (hempty : fault ≠ .form n .emptyProgram)
    (hunterminated : fault ≠ .form n .unterminated) :
    (∃ line ∈ significantLines text, line.number = n ∧
      (Version.ofLine line = .error fault ∨
        Setting.ofLine registry environment line = .error fault ∨
        fault = .form n (.trailing (String.ofList line.text)))) ∧
    (ofSource registry environment (Source.ofText (firstLines n text))).1 = .error fault ∧
    (∀ after, (ofSource registry environment
      (Source.ofText (firstLines n text ++ '\n' :: after))).1 = .error fault) ∧
    ((∃ line, Setting.ofLine registry environment line = .error fault) →
      ∃ program, (ofSource registry environment
          (Source.ofText (firstLines (n - 1) text ++ '\n' :: endLine))).1 = .ok program ∧
        let before := (significantLines text).filter fun line => line.number < n
        (before.drop (firstSetLine before)).map (Setting.ofLine registry environment) =
          program.settings.map .ok) ∧
    ((∃ said, fault = .form n (.trailing said)) →
      ∃ program, (ofSource registry environment
        (Source.ofText (firstLines (n - 1) text))).1 = .ok program) := by
  simp only [ofSource_ofText_fst] at h ⊢
  rcases exists_faultAt h hline hempty hunterminated with ⟨before, line, after, hsplit, hfault⟩
  have hnumber : line.number = n := Option.some.inj (hfault.line?_eq.symm.trans hline)
  rcases significantLines_cut hsplit with ⟨hfilter, hupto, hfollowed, hfront⟩
  rw [hnumber] at hfilter hupto hfollowed hfront
  refine ⟨⟨line, ?_, hnumber, hnumber ▸ hfault.origin⟩, ?_, fun rest => ?_, ?_, ?_⟩
  · rw [hsplit]
    exact List.mem_append_right _ List.mem_cons_self
  · rw [hupto]
    exact hfault.ofLines_eq []
  · rcases hfollowed rest with ⟨others, hothers⟩
    rw [hothers]
    exact hfault.ofLines_eq others
  · rintro ⟨other, hother⟩
    rcases hfault.openedBy_of_setting (Setting.fault_of_ofLine hother).2 with ⟨program, hopened⟩
    -- A line that ends a program takes the place of the line at fault.
    have hend : linesFrom n (endLine.splitOn '\n') = [⟨endLine, n⟩] := by
      have hself : significant? endLine = some endLine := by decide
      rw [List.splitOn_eq_singleton (by decide), linesFrom_cons, hself]
      rfl
    refine ⟨{ program with save := false }, ?_, ?_⟩
    · rw [(hfront (List.length_pos_iff.1 hopened.length_pos)).2, hend]
      exact hopened.ofLines_ends rfl
    · simp only [hfilter]
      exact hopened.map_drop_firstSetLine
  · rintro ⟨said, hsaid⟩
    have hsite : fault.site = .behind := by
      rw [hsaid]
      rfl
    rcases hfault.exists_ends_of_behind hsite with
      ⟨opened, last, program, save, rfl, hopened, hlast⟩
    have hne : opened ++ [last] ≠ [] :=
      List.append_ne_nil_of_right_ne_nil _ (List.cons_ne_nil _ _)
    rw [(hfront hne).1]
    exact ⟨_, hopened.ofLines_ends hlast⟩

/-- A value out of range behind a blank line, with the program ended after it and
    with a comment and nothing else after it. -/
theorem ofSource_firstFault_outOfRange :
    (ofSource .snappySense ⟨none, fun _ => .error .notFound⟩ (Source.ofText
      (firstLines 4 ("snappysense-compiled-config 1.0.0\nset enabled 1\n \n" ++
        "set enabled 7\nend").toList ++ '\n' :: "# é".toList))).1 =
      .error (.outOfRange 4 "enabled" 7 0 1) := by
  have hfault : (ofSource .snappySense ⟨none, fun _ => .error .notFound⟩ (Source.ofText
      ("snappysense-compiled-config 1.0.0\nset enabled 1\n \nset enabled 7\nend").toList)).1 =
        .error (.outOfRange 4 "enabled" 7 0 1) := rfl
  exact (ofSource_firstFault _ _ hfault rfl (by decide) (by decide)).2.2.1 _

end Program

end SensorConfig
