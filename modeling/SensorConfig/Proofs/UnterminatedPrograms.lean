import SensorConfig.Proofs.FaultMessages
import SensorConfig.Proofs.LayoutEdits
import SensorConfig.Proofs.PreambleVersions

/-!
# Unterminated Programs

When lines end too soon, and what completes them.

That lines end too soon is said of lines that open a program, and of no others: a
line at fault is found first, and a line that ends the program leaves nothing to be
asked for. So the fault says more than it seems to. One line is missing and it is
the last one, and whichever of the two words is written there, the text is a
program. What it sets has been decided already, and the word decides only whether it
is kept.

The converse is what makes the fault exact. The lines of a program without the last
one open that program, whatever the text looks like at its end: the last physical
line may lack its line feed, or be a comment, or be blank. A line feed and a word
behind any of these are one more significant line.

A fault is recognized by what is shown. A wording of form that quotes nothing is that
of one fault only.

## Theorems

* `FormFault.eq_of_message_eq`: A fault of form that quotes nothing is told by its
  wording.
* `significantLines_append_terminator`: A word that ends a program is one more line.
* `Program.SaidBy.openedBy_of_append`: The lines of a program before its last one
  open it.
* `Program.reports_unterminated_iff`, `Program.reports_emptyProgram_iff`: Which lines
  end too soon, and which are none.
* `Program.ofSource_completed_iff`: Which texts a word completes.
* `Program.ofSource_unterminated`: A text ends too soon exactly if it can be
  completed.
-/

namespace SensorConfig

/-- Texts that begin with different letters differ, whatever follows the one. -/
theorem append_ne_of_head? {front whole : String} {c : Char}
    (hfront : front.toList.head? = some c) (hwhole : whole.toList.head? ≠ some c)
    (back : String) : front ++ back ≠ whole := by
  rintro rfl
  rw [String.toList_append, List.head?_append, hfront] at hwhole
  exact hwhole rfl

namespace FormFault

/-- A fault of form that quotes nothing is told by its wording from all others. -/
theorem eq_of_message_eq {fault : FormFault} (other : FormFault) (hother : other.quoted = [])
    (h : fault.message = other.message) : fault = other := by
  -- What quotes something begins with one of two letters, and what does not never does.
  have hletters : other.message.toList.head? ≠ some 'B' ∧
      other.message.toList.head? ≠ some 'I' := by
    cases other with
    | emptyProgram | unterminated | noPreamble | emptyFileName => decide
    | _ => exact absurd hother (List.cons_ne_nil _ _)
  cases fault with
  | preamble text | setting text | value text =>
      exact absurd h (append_ne_of_head? (by decide) hletters.1 text)
  | unexpected text | trailing text =>
      exact absurd h (append_ne_of_head? (by decide) hletters.2 text)
  | emptyProgram | unterminated | noPreamble | emptyFileName =>
      cases other with
      | emptyProgram | unterminated | noPreamble | emptyFileName =>
          revert h
          decide
      | _ => exact absurd hother (List.cons_ne_nil _ _)

end FormFault

/-- A word that ends a program is one more significant line of a text. -/
theorem significantLines_append_terminator (text : List Char) {word : List Char} {save : Bool}
    (hword : terminator? word = some save) :
    ∃ last : Line, last.text = word ∧
      significantLines (text ++ '\n' :: word) = significantLines text ++ [last] := by
  have hself : '\n' ∉ word ∧ significant? word = some word := by
    rw [(terminator?_eq_some_iff word save).1 hword]
    cases save with
    | true => decide
    | false => decide
  refine ⟨⟨word, 1 + (text.splitOn '\n').length⟩, rfl, ?_⟩
  rw [significantLines, List.splitOn_append_cons_self, List.splitOn_eq_singleton hself.1,
    linesFrom_append, linesFrom_cons, hself.2]
  rfl

namespace Program

section

variable {registry : Registry} {environment : Environment} {count : Nat} {lines : List Line}

/-- What reading lines reports of form is a fault of theirs with the wording. -/
theorem exists_faultOf_of_reports {line : Nat} {wording : String}
    (h : Reports (ofLines registry environment count lines) .form line wording) :
    ∃ fault : FormFault, FaultOf registry environment count lines (.form line fault) ∧
      fault.message = wording := by
  rcases h with ⟨fault, hresult, hkind, hline, hmessage⟩
  have hfault := (ofLines_eq_error_iff lines fault).1 hresult
  cases fault with
  | form number fault =>
      cases hline
      exact ⟨fault, hfault, (String.append_right_inj _).1 hmessage⟩
  | _ => exact absurd hkind (by simp only [Fault.kind, reduceCtorEq, not_false_eq_true])

/-- Lines are reported to end too soon exactly if they open a program, and then at
    the last physical line. -/
theorem reports_unterminated_iff (line : Nat) :
    Reports (ofLines registry environment count lines) .form line "Requires `end` or `save`" ↔
      line = count ∧ ∃ program, OpenedBy registry environment lines program := by
  constructor
  · intro h
    rcases exists_faultOf_of_reports h with ⟨fault, hfault, hmessage⟩
    cases FormFault.eq_of_message_eq .unterminated rfl hmessage
    cases hfault with
    | unterminated hopened => exact ⟨rfl, _, hopened⟩
    | atLine hfault _ => exact absurd rfl hfault.site_ne_ending
  · rintro ⟨rfl, program, hopened⟩
    exact ⟨_, (ofLines_eq_error_iff lines _).2 (.unterminated hopened), rfl, rfl, rfl⟩

/-- A program is reported to be empty exactly if there are no lines. -/
theorem reports_emptyProgram_iff (line : Nat) :
    Reports (ofLines registry environment count lines) .form line "Empty program" ↔
      line = count ∧ lines = [] := by
  constructor
  · intro h
    rcases exists_faultOf_of_reports h with ⟨fault, hfault, hmessage⟩
    cases FormFault.eq_of_message_eq .emptyProgram rfl hmessage
    cases hfault with
    | empty => exact ⟨rfl, rfl⟩
    | atLine hfault _ => exact absurd rfl hfault.site_ne_ending
  · rintro ⟨rfl, rfl⟩
    exact ⟨_, rfl, rfl, rfl, rfl⟩

/-- The lines of a program before its last one open it, and the last one says whether
    it is kept. -/
theorem SaidBy.openedBy_of_append {last : Line} {program : Program}
    (h : SaidBy registry environment (lines ++ [last]) program) :
    OpenedBy registry environment lines { program with save := false } ∧
      terminator? last.text = some program.save := by
  -- Set lines end with the line that ends the program, so that is the last one.
  generalize hall : lines ++ [last] = all at h
  cases h with
  | @plain first rest settings save hfirst _ hsets =>
      rcases (setLines_iff_map rest settings save).1 hsets with
        ⟨sets, ends, rfl, hends, _, hmap⟩
      rw [← List.cons_append] at hall
      rcases List.append_inj' hall rfl with ⟨rfl, hlast⟩
      cases hlast
      exact ⟨.plain hfirst hmap, hends⟩
  | @clearing first second rest settings save hfirst hclear hsets =>
      rcases (setLines_iff_map rest settings save).1 hsets with
        ⟨sets, ends, rfl, hends, _, hmap⟩
      rw [← List.cons_append, ← List.cons_append] at hall
      rcases List.append_inj' hall rfl with ⟨rfl, hlast⟩
      cases hlast
      exact ⟨.clearing hfirst hclear hmap, hends⟩

/-- A word that ends a program completes a text exactly if the lines of the text open
    a program. -/
theorem ofSource_completed_iff (text : List Char) {word : List Char} {save : Bool}
    (hword : terminator? word = some save) (program : Program) :
    (ofSource registry environment (Source.ofText (text ++ '\n' :: word))).1 = .ok program ↔
      OpenedBy registry environment (significantLines text) { program with save := false } ∧
        program.save = save := by
  rcases significantLines_append_terminator text hword with ⟨last, hlast, hlines⟩
  constructor
  · intro h
    rw [ofSource_eq_ok_iff, Source.lines_ofText, hlines] at h
    rcases h.openedBy_of_append with ⟨hopened, hends⟩
    rw [hlast, hword, Option.some.injEq] at hends
    exact ⟨hopened, hends.symm⟩
  · rintro ⟨hopened, rfl⟩
    rw [ofSource_ofText_fst, hlines]
    exact hopened.ofLines_ends (hlast ▸ hword)

/-- What lines open is a program that does not ask to keep anything yet. -/
theorem OpenedBy.iff_save_eq {program : Program} :
    OpenedBy registry environment lines program ↔
      OpenedBy registry environment lines { program with save := false } ∧
        program.save = false := by
  rcases program with ⟨version, clear, settings, save⟩
  constructor
  · intro h
    cases h with
    | plain hfirst hsets => exact ⟨.plain hfirst hsets, rfl⟩
    | clearing hfirst hclear hsets => exact ⟨.clearing hfirst hclear hsets, rfl⟩
  · rintro ⟨h, rfl⟩
    exact h

end

/-- A text ends too soon exactly if it can be completed. The fault is reported, at the
    last physical line, exactly if a line feed and the word `end` behind the text make
    it a program. Then the word `save` makes it one too, which differs only in being
    kept, and both set what the set lines of the text do, in order. A text is reported
    to be empty exactly if it has no significant line. -/
theorem ofSource_unterminated (registry : Registry) (environment : Environment)
    (text : List Char) :
    let read := fun text => (ofSource registry environment (Source.ofText text)).1
    let lines := significantLines text
    (∀ line, Reports (read text) .form line "Requires `end` or `save`" ↔
      line = (bareLines text).length ∧ ∃ program, read (text ++ '\n' :: endLine) = .ok program) ∧
    (∀ program, read (text ++ '\n' :: endLine) = .ok program →
      program.save = false ∧
      read (text ++ '\n' :: saveLine) = .ok { program with save := true } ∧
      (lines.drop (firstSetLine lines)).map (Setting.ofLine registry environment) =
        program.settings.map .ok) ∧
    ∀ line, Reports (read text) .form line "Empty program" ↔
      line = (bareLines text).length ∧ lines = [] := by
  have hend : terminator? endLine = some false := by decide
  have hsave : terminator? saveLine = some true := by decide
  simp only
  refine ⟨fun line => ?_, fun program hprogram => ?_, fun line => ?_⟩
  · rw [ofSource_ofText_fst, reports_unterminated_iff, length_physicalLines]
    refine and_congr_right fun _ => exists_congr fun program => ?_
    rw [ofSource_completed_iff text hend]
    exact OpenedBy.iff_save_eq
  · rcases (ofSource_completed_iff text hend program).1 hprogram with ⟨hopened, hkept⟩
    exact ⟨hkept, (ofSource_completed_iff text hsave _).2 ⟨hopened, rfl⟩,
      hopened.map_drop_firstSetLine⟩
  · rw [ofSource_ofText_fst, reports_emptyProgram_iff, length_physicalLines]

/-- A text that ends in a comment without a line feed, and one of a comment and a blank
    line. The word behind the first is read as a line of its own. -/
theorem ofSource_unterminated_comment :
    Reports (ofSource .snappySense ⟨none, fun _ => .error .notFound⟩ (Source.ofText
        "snappysense-compiled-config 1.0.0\nclear\nset enabled 1\n# save".toList)).1
      .form 4 "Requires `end` or `save`" ∧
    (ofSource .snappySense ⟨none, fun _ => .error .notFound⟩ (Source.ofText
        ("snappysense-compiled-config 1.0.0\nclear\nset enabled 1\n# save".toList ++
          '\n' :: saveLine))).1 = .ok ⟨.supported, true, [.integer 0 1], true⟩ ∧
    Reports (ofSource .snappySense ⟨none, fun _ => .error .notFound⟩ (Source.ofText
        "# save\n\n".toList)).1 .form 2 "Empty program" := by
  have hcompleted : (ofSource .snappySense ⟨none, fun _ => .error .notFound⟩ (Source.ofText
      ("snappysense-compiled-config 1.0.0\nclear\nset enabled 1\n# save".toList ++
        '\n' :: endLine))).1 = .ok ⟨.supported, true, [.integer 0 1], false⟩ := rfl
  rcases ofSource_unterminated .snappySense ⟨none, fun _ => .error .notFound⟩
    "snappysense-compiled-config 1.0.0\nclear\nset enabled 1\n# save".toList with
    ⟨hreported, hwords, _⟩
  refine ⟨(hreported 4).2 ⟨by decide, _, hcompleted⟩, (hwords _ hcompleted).2.1, ?_⟩
  exact ((ofSource_unterminated .snappySense ⟨none, fun _ => .error .notFound⟩
    "# save\n\n".toList).2.2 2).2 (by decide)

end Program

end SensorConfig
