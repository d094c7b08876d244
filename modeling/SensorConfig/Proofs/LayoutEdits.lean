import Mathlib.Logic.Relation
import SensorConfig.Proofs.FirstFault
import SensorConfig.Proofs.ResumedReading

/-!
# Edits of Layout

What can be done to a text without changing what it says.

A text has more in it than its significant lines. There are lines that say
nothing, blanks around what a line says, and two ways to end a line, and an
editor changes all of these without being asked. `LayoutEdit` lists what such a
change is. None of them reaches into a line: a blank in quotes, or between the
words of a value, is no layout, and no edit adds or removes it.

An edit moves lines to other places, so it cannot leave everything alone. What it
leaves alone is the texts of the significant lines and their order. That is
enough, because a number is never looked at while lines are read. Two texts with
the same significant lines are both programs or both at fault, and a fault is
found at the line that has the same place among the significant ones. Only the
faults of lines that end too soon are not at such a line. They are located by the
number of all lines, which every edit may change.

## Main definitions

* `SaysNothing`: A line of blanks, or a comment.
* `LayoutEdit`: One edit of the layout of a text.
* `SameLayout`: Texts that edits and their reversals lead between.
* `Fault.onLine`: A fault at another line.
* `Program.ReadAlike`: Two results that differ by lines at most.

## Theorems

* `Text.trim_blanks_append`: Blanks in front of a text are trimmed away.
* `LayoutEdit.texts_eq`: An edit keeps what the significant lines say.
* `SameLayout.texts_eq`: So do several.
* `eq_mapError_onLine`: The number of a line only goes into its fault.
* `Program.readAlike_of_texts`: Lines that say the same are read alike.
* `Program.ofSource_sameLayout`: Texts of the same layout are read alike.
-/

namespace SensorConfig

namespace Text

/-- Blanks in front of a text are trimmed away. -/
theorem trim_blanks_append {blanks : List Char} (h : ∀ c ∈ blanks, isBlank c = true)
    (text : List Char) : trim (blanks ++ text) = trim text := by
  have hdrop : (blanks ++ text).dropWhile isBlank = text.dropWhile isBlank := by
    rw [List.dropWhile_append, (dropWhile_isBlank_eq_nil_iff blanks).2 h]
    rfl
  rw [trim, trim, hdrop]

/-- And so are blanks behind it. -/
theorem trim_append_blanks (text : List Char) {blanks : List Char}
    (h : ∀ c ∈ blanks, isBlank c = true) : trim (text ++ blanks) = trim text := by
  induction blanks generalizing text with
  | nil => rw [List.append_nil]
  | cons c blanks ih =>
      have hrest := ih (text ++ [c]) fun d hd => h d (List.mem_cons_of_mem c hd)
      rw [List.append_assoc, List.singleton_append] at hrest
      rw [hrest, trim_append_blank text (h c List.mem_cons_self)]

end Text

/-- Blanks at the ends of a line make no difference to what it says. -/
theorem significant?_blanks {left right : List Char} (hleft : ∀ c ∈ left, Text.isBlank c = true)
    (line : List Char) (hright : ∀ c ∈ right, Text.isBlank c = true) :
    significant? (left ++ line ++ right) = significant? line := by
  rw [significant?, significant?, Text.trim_append_blanks _ hright,
    Text.trim_blanks_append hleft]

/-- A line that says nothing: it is all blanks, or its first character that is no
    blank is a number sign. -/
def SaysNothing (line : List Char) : Prop :=
  (∀ c ∈ line, Text.isBlank c = true) ∨
    ∃ blanks comment, line = blanks ++ '#' :: comment ∧ ∀ c ∈ blanks, Text.isBlank c = true

/-- Such a line is not significant. -/
theorem SaysNothing.significant?_eq_none {line : List Char} (h : SaysNothing line) :
    significant? line = none := by
  rcases h with hblank | ⟨blanks, comment, rfl, hblanks⟩
  · rw [significant?, (Text.trim_eq_nil_iff line).2 hblank]
  · have hsign : Text.isBlank '#' = false := by decide
    rw [significant?, Text.trim_blanks_append hblanks]
    -- The number sign is no blank, so whatever the trimming removes it begins the rest.
    have hhead : (Text.trim ('#' :: comment)).head? = some '#' := by
      rw [Text.trim, List.dropWhile_cons_of_neg (by simp [hsign]), List.reverse_cons,
        List.dropWhile_append]
      split
      · simp [hsign]
      · simp
    cases htrim : Text.trim ('#' :: comment) with
    | nil => rfl
    | cons c rest =>
        rw [htrim, List.head?_cons, Option.some.injEq] at hhead
        rw [hhead]
        rfl

/-- A text behind which a line begins: it is empty or ends in a line feed. -/
def BeginsLine (before : List Char) : Prop :=
  before = [] ∨ before.getLast? = some '\n'

/-- A text in front of which a line ends: it is empty or begins with a line
    feed. -/
def EndsLine (after : List Char) : Prop :=
  after = [] ∨ after.head? = some '\n'

/-- One edit of the layout of a text: a line that says nothing is put in, blanks
    are put to the ends of a line, a line feed gets a carriage return in front of
    it, or the text gets one more line feed at its end. -/
inductive LayoutEdit : List Char → List Char → Prop where
  | line {before line : List Char} (hbefore : BeginsLine before) (hline : '\n' ∉ line)
      (hnothing : SaysNothing line) (after : List Char) :
      LayoutEdit (before ++ after) (before ++ (line ++ '\n' :: after))
  | blanks {before left line right after : List Char} (hbefore : BeginsLine before)
      (hleft : ∀ c ∈ left, Text.isBlank c = true ∧ c ≠ '\n') (hline : '\n' ∉ line)
      (hright : ∀ c ∈ right, Text.isBlank c = true ∧ c ≠ '\n') (hafter : EndsLine after) :
      LayoutEdit (before ++ (line ++ after)) (before ++ (left ++ line ++ right ++ after))
  | carriageReturn (before after : List Char) :
      LayoutEdit (before ++ '\n' :: after) (before ++ '\r' :: '\n' :: after)
  | lastLineFeed (text : List Char) : LayoutEdit text (text ++ ['\n'])

/-- Two texts of the same layout: edits lead from one to the other, in whatever
    order, and each of them forwards or back. -/
def SameLayout : List Char → List Char → Prop :=
  Relation.EqvGen LayoutEdit

/-- What the significant lines of a text say, in order. -/
def significantTexts (text : List Char) : List (List Char) :=
  (significantLines text).map Line.text

theorem map_text_linesFrom (number : Nat) (pieces : List (List Char)) :
    (linesFrom number pieces).map Line.text = pieces.filterMap significant? := by
  induction pieces generalizing number with
  | nil => rfl
  | cons piece pieces ih =>
      rw [linesFrom_cons, List.filterMap_cons]
      cases significant? piece with
      | none => exact ih (number + 1)
      | some text => rw [List.map_cons, ih]

theorem significantTexts_eq (text : List Char) :
    significantTexts text = (text.splitOn '\n').filterMap significant? :=
  map_text_linesFrom 1 _

/-- The lines of a text that is cut at a line feed are those of its two parts. -/
theorem significantTexts_append_lineFeed (left right : List Char) :
    significantTexts (left ++ '\n' :: right) = significantTexts left ++ significantTexts right := by
  rw [significantTexts_eq, significantTexts_eq, significantTexts_eq,
    List.splitOn_append_cons_self, List.filterMap_append]

/-- One line says what is left of it, if it says something. -/
theorem significantTexts_line {line : List Char} (h : '\n' ∉ line) :
    significantTexts line = (significant? line).toList := by
  rw [significantTexts_eq, List.splitOn_eq_singleton h, List.filterMap_cons]
  cases significant? line <;> rfl

theorem BeginsLine.exists_texts {before : List Char} (h : BeginsLine before) :
    ∃ texts, ∀ rest, significantTexts (before ++ rest) = texts ++ significantTexts rest := by
  rcases h with rfl | hlast
  · exact ⟨[], fun rest => rfl⟩
  · refine ⟨significantTexts before.dropLast, fun rest => ?_⟩
    have hsplit : before = before.dropLast ++ ['\n'] :=
      (List.dropLast_append_getLast? '\n' hlast).symm
    conv_lhs => rw [hsplit, List.append_assoc, List.singleton_append]
    exact significantTexts_append_lineFeed _ _

theorem EndsLine.exists_texts {after : List Char} (h : EndsLine after) :
    ∃ texts, ∀ line, '\n' ∉ line →
      significantTexts (line ++ after) = (significant? line).toList ++ texts := by
  rcases h with rfl | hhead
  · refine ⟨[], fun line hline => ?_⟩
    rw [List.append_nil, List.append_nil, significantTexts_line hline]
  · rcases List.head?_eq_some_iff.1 hhead with ⟨rest, rfl⟩
    refine ⟨significantTexts rest, fun line hline => ?_⟩
    rw [significantTexts_append_lineFeed, significantTexts_line hline]

/-- A blank at the end of a text, other than a line feed, is one at the end of its
    last line. -/
theorem significantTexts_append_blank {c : Char} (hblank : Text.isBlank c = true) (hc : c ≠ '\n')
    (text : List Char) : significantTexts (text ++ [c]) = significantTexts text := by
  induction text using line_induction with
  | last line hline =>
      have hfeed : '\n' ∉ line ++ [c] := by
        rw [List.mem_append, List.mem_singleton]
        rintro (hfeed | hfeed)
        · exact hline hfeed
        · exact hc hfeed.symm
      rw [significantTexts_line hfeed, significantTexts_line hline, significant?, significant?,
        Text.trim_append_blank line hblank]
  | cons line rest _ ih =>
      rw [List.append_assoc, List.cons_append, significantTexts_append_lineFeed, ih,
        significantTexts_append_lineFeed]

/-- An edit keeps what the significant lines say. -/
theorem LayoutEdit.texts_eq {text other : List Char} (h : LayoutEdit text other) :
    significantTexts text = significantTexts other := by
  cases h with
  | @line before line hbefore hline hnothing after =>
      rcases hbefore.exists_texts with ⟨texts, htexts⟩
      rw [htexts, htexts, significantTexts_append_lineFeed, significantTexts_line hline,
        hnothing.significant?_eq_none]
      rfl
  | @blanks before left line right after hbefore hleft hline hright hafter =>
      rcases hbefore.exists_texts with ⟨texts, htexts⟩
      rcases hafter.exists_texts with ⟨others, hothers⟩
      have hpadded : '\n' ∉ left ++ line ++ right := by
        rw [List.mem_append, List.mem_append]
        rintro ((hfeed | hfeed) | hfeed)
        · exact (hleft _ hfeed).2 rfl
        · exact hline hfeed
        · exact (hright _ hfeed).2 rfl
      rw [htexts, htexts, hothers _ hpadded, hothers _ hline,
        significant?_blanks (fun c hc => (hleft c hc).1) line fun c hc => (hright c hc).1]
  | carriageReturn before after =>
      have hsplit : before ++ '\r' :: '\n' :: after = (before ++ ['\r']) ++ '\n' :: after := by
        rw [List.append_assoc, List.singleton_append]
      rw [hsplit, significantTexts_append_lineFeed, significantTexts_append_lineFeed,
        significantTexts_append_blank (by decide) (by decide)]
  | lastLineFeed text =>
      rw [significantTexts_append_lineFeed]
      exact (List.append_nil _).symm

/-- Texts of the same layout have significant lines that say the same. -/
theorem SameLayout.texts_eq {text other : List Char} (h : SameLayout text other) :
    significantTexts text = significantTexts other := by
  induction h with
  | rel _ _ h => exact h.texts_eq
  | refl _ => rfl
  | symm _ _ _ ih => exact ih.symm
  | trans _ _ _ _ _ first second => exact first.trans second

namespace Fault

/-- A fault at another line, and otherwise the same. -/
def onLine (n : Nat) : Fault → Fault
  | form _ fault => .form n fault
  | version _ fault => .version n fault
  | unknownVariable _ name => .unknownVariable n name
  | notInteger _ value => .notInteger n value
  | outOfRange _ name value min max => .outOfRange n name value min max
  | tooLong _ name length max => .tooLong n name length max
  | homeUnset _ => .homeUnset n
  | unreadable _ path cause => .unreadable n path cause
  | file operation path cause => .file operation path cause
  | overlong text => .overlong text

theorem onLine_later (n k : Nat) (fault : Fault) : (fault.later k).onLine n = fault.onLine n := by
  cases fault <;> rfl

theorem later_eq_onLine {fault : Fault} (h : fault.line? = some 0) (n : Nat) :
    fault.later n = fault.onLine n := by
  cases fault with
  | file => exact absurd h (by simp only [line?, reduceCtorEq, not_false_eq_true])
  | overlong => exact absurd h (by simp only [line?, reduceCtorEq, not_false_eq_true])
  | _ =>
      rw [line?, Option.some.injEq] at h
      rw [later, h, Nat.zero_add, onLine]

theorem onLine_of_line? {fault : Fault} {n : Nat} (h : fault.line? = some n) :
    fault.onLine n = fault := by
  cases fault with
  | file => rfl
  | overlong => rfl
  | _ =>
      rw [line?, Option.some.injEq] at h
      rw [onLine, h]

theorem line?_onLine {fault : Fault} (h : fault.line? ≠ none) (n : Nat) :
    (fault.onLine n).line? = some n := by
  cases fault with
  | file => exact absurd rfl h
  | overlong => exact absurd rfl h
  | _ => rfl

end Fault

/-- Where the number of a line only goes into its fault, lines of the same text
    give the same, but for the line of a fault. -/
theorem eq_mapError_onLine {α : Type} {read : Line → Except Fault α}
    (hlater : ∀ k line, read (line.later k) = (read line).mapError (Fault.later k))
    (hfault : ∀ line fault, read line = .error fault → fault.line? = some line.number)
    {line other : Line} (h : line.text = other.text) :
    read other = (read line).mapError (Fault.onLine other.number) := by
  rcases line with ⟨text, n⟩
  rcases other with ⟨text', m⟩
  have htext : text = text' := h
  subst htext
  have hfirst := hlater n ⟨text, 0⟩
  have hsecond := hlater m ⟨text, 0⟩
  simp only [Line.later, Nat.zero_add] at hfirst hsecond
  rw [hfirst, hsecond]
  cases hzero : read ⟨text, 0⟩ with
  | ok result => rfl
  | error fault =>
      simp only [Except.mapError, Fault.onLine_later,
        Fault.later_eq_onLine (hfault _ _ hzero) m]

section

variable {registry : Registry} {environment : Environment}

/-- A preamble is the same on every line. -/
theorem Version.ofLine_eq_of_text {line other : Line} (h : line.text = other.text) :
    ofLine other = (ofLine line).mapError (Fault.onLine other.number) :=
  eq_mapError_onLine ofLine_later (fun _ _ hfault => (fault_of_ofLine hfault).1) h

/-- A set line sets the same on every line. -/
theorem Setting.ofLine_eq_of_text {line other : Line} (h : line.text = other.text) :
    ofLine registry environment other =
      (ofLine registry environment line).mapError (Fault.onLine other.number) :=
  eq_mapError_onLine ofLine_later (fun _ _ hfault => (fault_of_ofLine hfault).1) h

theorem Setting.map_ofLine_of_texts {lines others : List Line} {settings : List Setting}
    (h : lines.map Line.text = others.map Line.text)
    (hlines : lines.map (ofLine registry environment) = settings.map .ok) :
    others.map (ofLine registry environment) = settings.map .ok := by
  have hothers : others.map (ofLine registry environment) =
      lines.map (ofLine registry environment) := by
    induction lines generalizing others settings with
    | nil => rw [List.map_eq_nil_iff.1 h.symm]
    | cons line lines ih =>
        rcases List.map_eq_cons_iff.1 h.symm with ⟨other, others, rfl, htext, hrest⟩
        cases settings with
        | nil => exact absurd hlines (List.cons_ne_nil _ _)
        | cons setting settings =>
            rw [List.map_cons, List.map_cons, List.cons.injEq] at hlines
            rw [List.map_cons, List.map_cons, ih hrest.symm hlines.2, hlines.1,
              ofLine_eq_of_text htext.symm, hlines.1]
            rfl
  rw [hothers, hlines]

/-- Lines that say the same as set lines are set lines. -/
theorem SetLines.of_texts {lines others : List Line} {settings : List Setting} {save : Bool}
    (h : SetLines registry environment lines settings save)
    (hothers : lines.map Line.text = others.map Line.text) :
    SetLines registry environment others settings save := by
  rw [setLines_iff_map] at h ⊢
  rcases h with ⟨sets, last, rfl, hlast, hnone, hmap⟩
  rw [List.map_append, eq_comm, List.map_eq_append_iff] at hothers
  rcases hothers with ⟨sets', lasts, rfl, hsets, hlasts⟩
  rcases List.map_eq_singleton_iff.1 hlasts with ⟨last', rfl, htext⟩
  refine ⟨sets', last', rfl, ?_, fun line hmem => ?_,
    Setting.map_ofLine_of_texts hsets.symm hmap⟩
  · rw [htext]
    exact hlast
  · have hmem' : line.text ∈ sets.map Line.text := hsets ▸ List.mem_map_of_mem hmem
    rcases List.mem_map.1 hmem' with ⟨line', hline', hsame⟩
    rw [← hsame]
    exact hnone line' hline'

theorem Version.ofLine_ok_of_text {line other : Line} {version : Version}
    (h : ofLine line = .ok version) (htext : other.text = line.text) :
    ofLine other = .ok version := by
  rw [ofLine_eq_of_text htext.symm, h]
  rfl

namespace Program

/-- Lines that say the same say the same program. -/
theorem SaidBy.of_texts {lines others : List Line} {program : Program}
    (h : SaidBy registry environment lines program)
    (hothers : lines.map Line.text = others.map Line.text) :
    SaidBy registry environment others program := by
  cases h with
  | @plain first lines settings save hfirst hclear hsets =>
      rcases List.map_eq_cons_iff.1 hothers.symm with ⟨first', others, rfl, htext, hrest⟩
      refine .plain (Version.ofLine_ok_of_text hfirst htext) ?_ (hsets.of_texts hrest.symm)
      rw [← List.head?_map, hrest, List.head?_map]
      exact hclear
  | @clearing first second lines settings save hfirst hclear hsets =>
      rcases List.map_eq_cons_iff.1 hothers.symm with ⟨first', others, rfl, htext, hrest⟩
      rcases List.map_eq_cons_iff.1 hrest with ⟨second', others, rfl, hsecond, hrest⟩
      exact .clearing (Version.ofLine_ok_of_text hfirst htext) (hsecond.trans hclear)
        (hsets.of_texts hrest.symm)

/-- Lines that say the same open the same program. -/
theorem OpenedBy.of_texts {lines others : List Line} {program : Program}
    (h : OpenedBy registry environment lines program)
    (hothers : lines.map Line.text = others.map Line.text) :
    OpenedBy registry environment others program := by
  cases h with
  | @plain first sets settings hfirst hsets =>
      rcases List.map_eq_cons_iff.1 hothers.symm with ⟨first', others, rfl, htext, hrest⟩
      exact .plain (Version.ofLine_ok_of_text hfirst htext)
        (Setting.map_ofLine_of_texts hrest.symm hsets)
  | @clearing first second sets settings hfirst hclear hsets =>
      rcases List.map_eq_cons_iff.1 hothers.symm with ⟨first', others, rfl, htext, hrest⟩
      rcases List.map_eq_cons_iff.1 hrest with ⟨second', others, rfl, hsecond, hrest⟩
      exact .clearing (Version.ofLine_ok_of_text hfirst htext) (hsecond.trans hclear)
        (Setting.map_ofLine_of_texts hrest.symm hsets)

/-- A line that says the same as one at fault, behind lines that say the same as
    those before that, has the same fault. -/
theorem FaultAt.of_texts {before before' : List Line} {line line' : Line} {fault : Fault}
    (h : FaultAt registry environment before line fault)
    (hbefore : before.map Line.text = before'.map Line.text) (hline : line.text = line'.text) :
    FaultAt registry environment before' line' (fault.onLine line'.number) := by
  cases h with
  | preamble h =>
      rw [List.map_eq_nil_iff.1 hbefore.symm]
      refine .preamble ?_
      rw [Version.ofLine_eq_of_text hline, h]
      rfl
  | setting hopened hend hclear h =>
      have hlength := congrArg List.length hbefore
      rw [List.length_map, List.length_map] at hlength
      refine .setting (hopened.of_texts hbefore) (hline ▸ hend) (fun hone => ?_) ?_
      · rw [← hline]
        exact hclear (hlength.trans hone)
      · rw [Setting.ofLine_eq_of_text hline, h]
        rfl
  | @trailing before last line save program hopened hlast =>
      rw [List.map_append, eq_comm, List.map_eq_append_iff] at hbefore
      rcases hbefore with ⟨opened, lasts, rfl, hopened', hlasts⟩
      rcases List.map_eq_singleton_iff.1 hlasts with ⟨last', rfl, htext⟩
      rw [Fault.onLine, hline]
      exact .trailing (hopened.of_texts hopened'.symm) (htext ▸ hlast)

/-- A line at fault is not where lines end. -/
theorem FaultAt.site_ne_ending {before : List Line} {line : Line} {fault : Fault}
    (h : FaultAt registry environment before line fault) : fault.site ≠ .ending := by
  cases h with
  | preamble h =>
      rw [(Version.fault_of_ofLine h).2]
      decide
  | setting _ _ _ h =>
      rw [(Setting.fault_of_ofLine h).2]
      decide
  | trailing =>
      rw [Fault.site]
      decide

/-- Two results of reading that differ by lines at most: a program that is the
    same, the fault of lines that end too soon, each located by the number of all
    lines of its text, or any other fault, at lines with the same place among those
    of their texts. -/
inductive ReadAlike (lines others : List Line) (count count' : Nat) :
    Except Fault Program → Except Fault Program → Prop where
  | program (program : Program) : ReadAlike lines others count count' (.ok program) (.ok program)
  | ending {fault : FormFault} (h : fault = .emptyProgram ∨ fault = .unterminated) :
      ReadAlike lines others count count' (.error (.form count fault)) (.error (.form count' fault))
  | atLine {fault : Fault} {i : Nat} {line line' : Line} (hline : lines[i]? = some line)
      (hline' : others[i]? = some line') (hlocated : fault.line? ≠ none)
      (hsite : fault.site ≠ .ending) :
      ReadAlike lines others count count' (.error (fault.onLine line.number))
        (.error (fault.onLine line'.number))

/-- Lines in the order of their numbers have the same number only at the same
    place. -/
theorem number_eq_iff_of_pairwise {lines : List Line}
    (horder : lines.Pairwise fun line other => line.number < other.number) {i j : Nat}
    {line other : Line} (hi : lines[i]? = some line) (hj : lines[j]? = some other) :
    line.number = other.number ↔ i = j := by
  rcases List.getElem?_eq_some_iff.1 hi with ⟨hilt, rfl⟩
  rcases List.getElem?_eq_some_iff.1 hj with ⟨hjlt, rfl⟩
  rw [List.pairwise_iff_getElem] at horder
  constructor
  · intro hnumber
    rcases Nat.lt_trichotomy i j with hlt | heq | hgt
    · have := horder i j hilt hjlt hlt
      omega
    · exact heq
    · have := horder j i hjlt hilt hgt
      omega
  · rintro rfl
    rfl

/-- If lines stand in the order of their numbers, a fault is that of a line exactly
    if the other fault is that of the line with the same place. -/
theorem ReadAlike.line?_eq_iff {lines others : List Line} {count count' : Nat}
    {fault fault' : Fault}
    (h : ReadAlike lines others count count' (.error fault) (.error fault'))
    (hsite : fault.site ≠ .ending)
    (hlines : lines.Pairwise fun line other => line.number < other.number)
    (hothers : others.Pairwise fun line other => line.number < other.number) {i : Nat}
    {line line' : Line} (hline : lines[i]? = some line) (hline' : others[i]? = some line') :
    fault.line? = some line.number ↔ fault'.line? = some line'.number := by
  cases h with
  | ending h =>
      rcases h with rfl | rfl
      · exact absurd rfl hsite
      · exact absurd rfl hsite
  | atLine hblamed hblamed' hlocated =>
      rw [Fault.line?_onLine hlocated, Fault.line?_onLine hlocated, Option.some.injEq,
        Option.some.injEq, number_eq_iff_of_pairwise hlines hblamed hline,
        number_eq_iff_of_pairwise hothers hblamed' hline']

/-- Texts whose significant lines say the same are read alike. -/
theorem readAlike_of_texts {text other : List Char}
    (h : significantTexts text = significantTexts other) :
    ReadAlike (significantLines text) (significantLines other) (bareLines text).length
      (bareLines other).length (ofSource registry environment (Source.ofText text)).1
      (ofSource registry environment (Source.ofText other)).1 := by
  cases hresult : (ofSource registry environment (Source.ofText text)).1 with
  | ok program =>
      have hsaid := (ofSource_eq_ok_iff _ _).1 hresult
      rw [Source.lines_ofText] at hsaid
      have hother := hsaid.of_texts h
      rw [← Source.lines_ofText, ← ofSource_eq_ok_iff] at hother
      rw [hother]
      exact .program program
  | error fault =>
      rw [ofSource_ofText_fst, ofLines_eq_error_iff] at hresult
      -- The other text has a fault by the same rule, so it is enough to find its own fault.
      suffices hother : ∃ fault', FaultOf registry environment (physicalLines other).length
          (significantLines other) fault' ∧ ReadAlike (significantLines text)
            (significantLines other) (bareLines text).length (bareLines other).length
            (.error fault) (.error fault') by
        rcases hother with ⟨fault', hfault', halike⟩
        rwa [ofSource_ofText_fst, (ofLines_eq_error_iff _ _).2 hfault']
      rw [length_physicalLines] at hresult ⊢
      unfold significantTexts at h
      generalize significantLines text = lines at hresult h ⊢
      generalize significantLines other = others at h ⊢
      cases hresult with
      | empty =>
          rw [List.map_nil, eq_comm, List.map_eq_nil_iff] at h
          rw [h]
          exact ⟨_, .empty, .ending (Or.inl rfl)⟩
      | unterminated hopened =>
          exact ⟨_, .unterminated (hopened.of_texts h), .ending (Or.inr rfl)⟩
      | @atLine before line fault hfault after =>
          rw [List.map_append, eq_comm, List.map_eq_append_iff] at h
          rcases h with ⟨before', rest, rfl, hbefore, hrest⟩
          rcases List.map_eq_cons_iff.1 hrest with ⟨line', after', rfl, htext, _⟩
          have hlength := congrArg List.length hbefore
          rw [List.length_map, List.length_map] at hlength
          refine ⟨_, .atLine (hfault.of_texts hbefore.symm htext.symm) after', ?_⟩
          have hline := hfault.line?_eq
          have hlocated : fault.line? ≠ none := by
            rw [hline]
            exact Option.some_ne_none _
          have hplace : (before ++ line :: after)[before.length]? = some line := by simp
          have hplace' : (before' ++ line' :: after')[before.length]? = some line' := by
            simp [← hlength]
          have halike : ReadAlike (before ++ line :: after) (before' ++ line' :: after')
              (bareLines text).length (bareLines other).length
              (.error (fault.onLine line.number)) (.error (fault.onLine line'.number)) :=
            .atLine hplace hplace' hlocated hfault.site_ne_ending
          rwa [Fault.onLine_of_line? hline] at halike

/-- Texts of the same layout say the same. Their significant lines have the same
    texts. Either both are the same program, or both are at fault and the faults
    differ by their lines only. Where lines end too soon, that is the number of all
    lines of each text. Any other fault is at a significant line, and it is at the
    one if it is at the other that has the same place. -/
theorem ofSource_sameLayout (registry : Registry) (environment : Environment)
    {text other : List Char} (h : SameLayout text other) :
    let result := (ofSource registry environment (Source.ofText text)).1
    let result' := (ofSource registry environment (Source.ofText other)).1
    (significantLines text).map Line.text = (significantLines other).map Line.text ∧
    ReadAlike (significantLines text) (significantLines other) (bareLines text).length
      (bareLines other).length result result' ∧
    ∀ fault fault', result = .error fault → result' = .error fault' → fault.site ≠ .ending →
      ∀ (i : Nat) (line line' : Line), (significantLines text)[i]? = some line →
        (significantLines other)[i]? = some line' →
        (fault.line? = some line.number ↔ fault'.line? = some line'.number) := by
  intro result result'
  have halike : ReadAlike (significantLines text) (significantLines other) (bareLines text).length
      (bareLines other).length result result' := readAlike_of_texts h.texts_eq
  refine ⟨h.texts_eq, halike, fun fault fault' hfault hfault' hsite i line line' hline hline' => ?_⟩
  rw [hfault, hfault'] at halike
  exact halike.line?_eq_iff hsite (linesFrom_pairwise 1 _) (linesFrom_pairwise 1 _) hline hline'

/-- A value out of range, before and after a comment is put in front, a line feed is
    turned into the other ending, a line is set in by a blank that is no space and
    the last line gets an ending. -/
theorem ofSource_sameLayout_moved :
    let text := "snappysense-compiled-config 1.0.0\nset enabled 7\nend".toList
    let other :=
      "\t# é\nsnappysense-compiled-config 1.0.0\r\n\u00A0set enabled 7\nend\n".toList
    let environment : Environment := ⟨none, fun _ => .error .notFound⟩
    SameLayout text other ∧
    (ofSource .snappySense environment (Source.ofText text)).1 =
      .error (.outOfRange 2 "enabled" 7 0 1) ∧
    (ofSource .snappySense environment (Source.ofText other)).1 =
      .error (.outOfRange 3 "enabled" 7 0 1) ∧
    ReadAlike (significantLines text) (significantLines other) 3 4
      (.error (.outOfRange 2 "enabled" 7 0 1)) (.error (.outOfRange 3 "enabled" 7 0 1)) := by
  intro text other environment
  have hcomment := @LayoutEdit.line [] "\t# é".toList (Or.inl rfl) (by decide)
    (Or.inr ⟨['\t'], " é".toList, rfl, List.forall_mem_singleton.2 (by decide)⟩) text
  have hending := LayoutEdit.carriageReturn "\t# é\nsnappysense-compiled-config 1.0.0".toList
    "set enabled 7\nend".toList
  have hblank := @LayoutEdit.blanks "\t# é\nsnappysense-compiled-config 1.0.0\r\n".toList
    ['\u00A0'] "set enabled 7".toList [] "\nend".toList (Or.inr (by decide))
    (List.forall_mem_singleton.2 (by decide)) (by decide) (List.forall_mem_nil _) (Or.inr rfl)
  have hlast := LayoutEdit.lastLineFeed
    "\t# é\nsnappysense-compiled-config 1.0.0\r\n\u00A0set enabled 7\nend".toList
  -- Each edit begins with the text that the one before ends with, cut at another place.
  have hsecond : [] ++ ("\t# é".toList ++ '\n' :: text) =
      "\t# é\nsnappysense-compiled-config 1.0.0".toList ++
        '\n' :: "set enabled 7\nend".toList := by decide +kernel
  have hthird : "\t# é\nsnappysense-compiled-config 1.0.0".toList ++
      '\r' :: '\n' :: "set enabled 7\nend".toList =
        "\t# é\nsnappysense-compiled-config 1.0.0\r\n".toList ++
          ("set enabled 7".toList ++ "\nend".toList) := by decide +kernel
  have hfourth : "\t# é\nsnappysense-compiled-config 1.0.0\r\n".toList ++
      (['\u00A0'] ++ "set enabled 7".toList ++ [] ++ "\nend".toList) =
        "\t# é\nsnappysense-compiled-config 1.0.0\r\n\u00A0set enabled 7\nend".toList := by
    decide +kernel
  have hother : "\t# é\nsnappysense-compiled-config 1.0.0\r\n\u00A0set enabled 7\nend".toList ++
      ['\n'] = other := by decide +kernel
  rw [hsecond] at hcomment
  rw [hthird] at hending
  rw [hfourth] at hblank
  rw [hother] at hlast
  have h : SameLayout text other :=
    .trans _ _ _ (.rel _ _ hcomment) (.trans _ _ _ (.rel _ _ hending)
      (.trans _ _ _ (.rel _ _ hblank) (.rel _ _ hlast)))
  exact ⟨h, by decide +kernel, by decide +kernel,
    (ofSource_sameLayout .snappySense environment h).2.1⟩

end Program

end

end SensorConfig
