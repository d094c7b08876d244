import Mathlib.Data.List.Basic
import SensorConfig.Meaning.Program
import SensorConfig.Proofs.SignificantLines

/-!
# The Grammar of Programs

What lines have to be for a source to say a program, and which one it says.

A source is read by a loop that keeps what it has read so far, looks one line
ahead for the line that clears, and stops at the first line that ends a
program. None of that is part of what a program is. `SetLines` and `SaidBy` give
the grammar as rules over a list of lines instead, one rule for every way in
which a line can be used, and `ofSource_eq_ok_iff` says that the loop accepts
exactly what the rules derive.

`ProgramLines` says the same once more by the places of lines, in the way in
which the format is described to its users: a preamble first, a line that ends
the program last and nowhere else, set lines between them from the second or
the third on. From it a program can be read off line by line.

## Main definitions

* `SetLines`: Set lines up to the line that ends a program, and what they say.
* `Program.SaidBy`: Lines and the program that they say.
* `firstSetLine`: The place where the set lines of a program begin.
* `ProgramLines`: What has to hold of lines for them to say a program.

## Theorems

* `Version.ofLine_eq_ok_iff`: When a first line is accepted.
* `Program.settingsOf_eq_ok_iff`: The loop over set lines follows the rules.
* `Program.ofSource_eq_ok_iff`: So does the reading of a source.
* `setLines_iff_map`: What set lines say is what each of them says.
* `Setting.exists_of_getElem?`: Each of them sets the setting in its place.
* `Program.exists_saidBy`: Lines say a program if each is in its place.
* `Program.SaidBy.ofLine_of_settings`: Each setting has a line in its place.
* `Program.accepts_grammar`: The programs of texts, line by line.
-/

namespace SensorConfig

/-- A line ends a program as one of two words. -/
theorem terminator?_eq_some_iff (text : List Char) (save : Bool) :
    terminator? text = some save ↔ text = if save then saveLine else endLine := by
  have hwords : endLine ≠ saveLine := by decide
  unfold terminator?
  by_cases hsave : text = saveLine
  · subst hsave
    cases save <;> simp [hwords.symm]
  · by_cases hend : text = endLine
    · subst hend
      cases save <;> simp [hwords]
    · cases save <;> simp [hsave, hend]

/-- Any other line does not end one. -/
theorem terminator?_eq_none_iff (text : List Char) :
    terminator? text = none ↔ text ≠ saveLine ∧ text ≠ endLine := by
  unfold terminator?
  by_cases hsave : text = saveLine
  · simp [hsave]
  · by_cases hend : text = endLine
    · subst hend
      simp [hsave]
    · simp [hsave, hend]

/-- The line that clears does not end a program. -/
theorem ne_clearLine_of_terminator? {text : List Char} {save : Bool}
    (h : terminator? text = some save) : text ≠ clearLine := by
  have hword : terminator? clearLine = none := by decide
  rintro rfl
  rw [hword] at h
  exact absurd h (by simp only [reduceCtorEq, not_false_eq_true])

/-- A first line is accepted if it is a preamble for the supported version. -/
theorem Version.ofLine_eq_ok_iff (line : Line) (version : Version) :
    ofLine line = .ok version ↔
      version = supported ∧ ∃ preamble, Preamble.read? line.text = some preamble ∧
        preamble.version? = some supported := by
  unfold ofLine
  cases hread : Preamble.read? line.text with
  | none =>
      simp only [reduceCtorEq, false_and, exists_false, and_false, iff_false]
      split <;> simp
  | some preamble =>
      cases hversion : preamble.version? with
      | none => simp [hversion]
      | some found =>
          by_cases hfound : found = supported
          · simp [hversion, hfound, eq_comm]
          · simp [hversion, hfound]

section

variable {registry : Registry} {environment : Environment}

/-- Set lines up to the line that ends a program: what they set, in order, and
    whether the program then asks to keep it. -/
inductive SetLines (registry : Registry) (environment : Environment) :
    List Line → List Setting → Bool → Prop where
  | ends {line : Line} {save : Bool} (h : terminator? line.text = some save) :
      SetLines registry environment [line] [] save
  | sets {line : Line} {setting : Setting} {lines : List Line} {settings : List Setting}
      {save : Bool} (hline : terminator? line.text = none)
      (hsetting : Setting.ofLine registry environment line = .ok setting)
      (hrest : SetLines registry environment lines settings save) :
      SetLines registry environment (line :: lines) (setting :: settings) save

theorem not_setLines_nil (settings : List Setting) (save : Bool) :
    ¬ SetLines registry environment [] settings save := by
  intro h
  cases h

-- Inversion: which rule a first line was used by is decided by whether it ends a program.
theorem setLines_cons_iff (line : Line) (lines : List Line) (settings : List Setting)
    (save : Bool) :
    SetLines registry environment (line :: lines) settings save ↔
      (terminator? line.text = some save ∧ lines = [] ∧ settings = []) ∨
        (terminator? line.text = none ∧ ∃ setting others,
          Setting.ofLine registry environment line = .ok setting ∧
            settings = setting :: others ∧ SetLines registry environment lines others save) := by
  constructor
  · intro h
    cases h with
    | ends h => exact Or.inl ⟨h, rfl, rfl⟩
    | sets hline hsetting hrest => exact Or.inr ⟨hline, _, _, hsetting, rfl, hrest⟩
  · rintro (⟨h, rfl, rfl⟩ | ⟨hline, setting, others, hsetting, rfl, hrest⟩)
    · exact .ends h
    · exact .sets hline hsetting hrest

namespace Setting

/-- A line that sets something is none of the words that are no set lines. -/
theorem text_ne_of_ofLine {line : Line} {setting : Setting} {word : List Char}
    (hword : SetLine.read? word = none) (h : ofLine registry environment line = .ok setting) :
    line.text ≠ word := by
  intro heq
  rw [ofLine, heq, hword] at h
  exact absurd h (by simp only [reduceCtorEq, not_false_eq_true])

theorem terminator?_of_ofLine {line : Line} {setting : Setting}
    (h : ofLine registry environment line = .ok setting) : terminator? line.text = none :=
  (terminator?_eq_none_iff line.text).2
    ⟨text_ne_of_ofLine (by decide) h, text_ne_of_ofLine (by decide) h⟩

end Setting

/-- Set lines do not begin with the line that clears, so a program is read in
    one way only. -/
theorem SetLines.head?_ne_clearLine {lines : List Line} {settings : List Setting} {save : Bool}
    (h : SetLines registry environment lines settings save) :
    lines.head?.map Line.text ≠ some clearLine := by
  intro hclear
  cases h with
  | ends hends => exact ne_clearLine_of_terminator? hends (Option.some.inj hclear)
  | sets _ hsetting _ =>
      exact Setting.text_ne_of_ofLine (by decide) hsetting (Option.some.inj hclear)

/-- What set lines say is what each of them says, in order, and the last line
    is the one that ends the program. -/
theorem setLines_iff_map (lines : List Line) (settings : List Setting) (save : Bool) :
    SetLines registry environment lines settings save ↔
      ∃ sets last, lines = sets ++ [last] ∧ terminator? last.text = some save ∧
        (∀ line ∈ sets, terminator? line.text = none) ∧
        sets.map (Setting.ofLine registry environment) = settings.map .ok := by
  constructor
  · intro h
    induction h with
    | @ends line save h =>
        exact ⟨[], line, rfl, h, fun line hmem => absurd hmem List.not_mem_nil, rfl⟩
    | @sets line setting lines settings save hline hsetting _ ih =>
        rcases ih with ⟨sets, last, rfl, hlast, hsets, hmap⟩
        refine ⟨line :: sets, last, rfl, hlast, ?_, ?_⟩
        · intro other hmem
          rcases List.mem_cons.1 hmem with rfl | hmem
          · exact hline
          · exact hsets other hmem
        · rw [List.map_cons, List.map_cons, hsetting, hmap]
  · rintro ⟨sets, last, rfl, hlast, hsets, hmap⟩
    induction sets generalizing settings with
    | nil =>
        have hnil : settings = [] := List.map_eq_nil_iff.1 hmap.symm
        rw [hnil]
        exact .ends hlast
    | cons line sets ih =>
        cases settings with
        | nil => exact absurd hmap (List.cons_ne_nil _ _)
        | cons setting settings =>
            rw [List.map_cons, List.map_cons, List.cons.injEq] at hmap
            exact .sets (hsets line List.mem_cons_self) hmap.1
              (ih settings (fun other hmem => hsets other (List.mem_cons_of_mem line hmem)) hmap.2)

/-- Where lines set settings one by one, a line sets the setting in its place. -/
theorem Setting.exists_of_getElem? {sets : List Line} {settings : List Setting}
    (h : sets.map (ofLine registry environment) = settings.map .ok) {k : Nat} {line : Line}
    (hk : sets[k]? = some line) :
    ∃ setting, settings[k]? = some setting ∧ ofLine registry environment line = .ok setting := by
  have hresult : (settings.map (.ok : Setting → Except Fault Setting))[k]? =
      some (ofLine registry environment line) := by
    rw [← h, List.getElem?_map, hk, Option.map_some]
  rw [List.getElem?_map, Option.map_eq_some_iff] at hresult
  rcases hresult with ⟨setting, hsetting, hline⟩
  exact ⟨setting, hsetting, hline.symm⟩

/-- Lines that each set something say settings. -/
theorem exists_setLines {sets : List Line} {last : Line} {save : Bool}
    (hlast : terminator? last.text = some save)
    (hsets : ∀ line ∈ sets, terminator? line.text = none ∧
      ∃ setting, Setting.ofLine registry environment line = .ok setting) :
    ∃ settings, SetLines registry environment (sets ++ [last]) settings save := by
  induction sets with
  | nil => exact ⟨[], .ends hlast⟩
  | cons line sets ih =>
      rcases hsets line List.mem_cons_self with ⟨hline, setting, hsetting⟩
      rcases ih fun other hmem => hsets other (List.mem_cons_of_mem line hmem) with
        ⟨settings, hrest⟩
      exact ⟨setting :: settings, .sets hline hsetting hrest⟩

namespace Program

/-- Lines and the program that they say: a preamble, and then set lines, with
    or without a line that clears between the two. -/
inductive SaidBy (registry : Registry) (environment : Environment) :
    List Line → Program → Prop where
  | plain {first : Line} {lines : List Line} {settings : List Setting} {save : Bool}
      (hfirst : Version.ofLine first = .ok Version.supported)
      (hclear : lines.head?.map Line.text ≠ some clearLine)
      (hsets : SetLines registry environment lines settings save) :
      SaidBy registry environment (first :: lines) ⟨Version.supported, false, settings, save⟩
  | clearing {first second : Line} {lines : List Line} {settings : List Setting} {save : Bool}
      (hfirst : Version.ofLine first = .ok Version.supported) (hclear : second.text = clearLine)
      (hsets : SetLines registry environment lines settings save) :
      SaidBy registry environment (first :: second :: lines)
        ⟨Version.supported, true, settings, save⟩

/-- After the line that ends a program nothing may follow. -/
theorem ending_eq_ok_iff (program result : Program) (source : Source)
    (reads : List (Line × Source)) :
    (ending program source reads).1 = .ok result ↔ reads = [] ∧ result = program := by
  cases reads with
  | nil => simp [ending, eq_comm]
  | cons read reads => simp [ending]

/-- The loop over set lines returns what the lines say, behind what it has read
    already. -/
theorem settingsOf_eq_ok_iff (program result : Program) (source : Source)
    (reads : List (Line × Source)) :
    (settingsOf registry environment program source reads).1 = .ok result ↔
      ∃ settings save, SetLines registry environment (reads.map Prod.fst) settings save ∧
        result =
          { program with settings := program.settings.reverse ++ settings, save := save } := by
  induction reads generalizing program source with
  | nil =>
      simp only [settingsOf, reduceCtorEq, List.map_nil, false_iff, not_exists, not_and]
      intro settings save h
      exact absurd h (not_setLines_nil settings save)
  | cons read reads ih =>
      rcases read with ⟨line, after⟩
      simp only [settingsOf, List.map_cons, setLines_cons_iff]
      cases hline : terminator? line.text with
      | some save =>
          simp only [ending_eq_ok_iff, List.map_eq_nil_iff, reduceCtorEq, false_and, or_false,
            Option.some.injEq]
          constructor
          · rintro ⟨rfl, rfl⟩
            exact ⟨[], save, ⟨rfl, rfl, rfl⟩, by rw [List.append_nil]⟩
          · rintro ⟨settings, save', ⟨rfl, rfl, rfl⟩, rfl⟩
            exact ⟨rfl, by rw [List.append_nil]⟩
      | none =>
          simp only [reduceCtorEq, false_and, true_and, false_or]
          cases hsetting : Setting.ofLine registry environment line with
          | error fault =>
              simp only [reduceCtorEq, false_and, exists_false]
          | ok setting =>
              -- The setting of this line moves from what is read to what has been.
              simp only [ih, Except.ok.injEq]
              constructor
              · rintro ⟨others, save, hrest, rfl⟩
                refine ⟨setting :: others, save, ⟨setting, others, rfl, rfl, hrest⟩, ?_⟩
                simp only [List.reverse_cons, List.append_assoc, List.singleton_append]
              · rintro ⟨settings, save, ⟨setting', others, rfl, rfl, hrest⟩, rfl⟩
                refine ⟨others, save, hrest, ?_⟩
                simp only [List.reverse_cons, List.append_assoc, List.singleton_append]

/-- What follows the first line begins with the line that clears, or it does
    not and is all set lines. -/
theorem ofReads_eq_ok_iff (version : Version) (result : Program) (source : Source)
    (reads : List (Line × Source)) :
    (ofReads registry environment version source reads).1 = .ok result ↔
      ∃ settings save,
        ((reads.map Prod.fst).head?.map Line.text ≠ some clearLine ∧
          SetLines registry environment (reads.map Prod.fst) settings save ∧
            result = ⟨version, false, settings, save⟩) ∨
        (∃ second lines, reads.map Prod.fst = second :: lines ∧ second.text = clearLine ∧
          SetLines registry environment lines settings save ∧
            result = ⟨version, true, settings, save⟩) := by
  cases reads with
  | nil =>
      simp only [ofReads, settingsOf, reduceCtorEq, List.map_nil, not_setLines_nil, false_and,
        and_false, List.nil_eq, exists_false, or_self]
  | cons read reads =>
      rcases read with ⟨line, after⟩
      simp only [ofReads, List.map_cons, List.head?_cons, Option.map_some, ne_eq,
        Option.some.injEq, List.cons.injEq]
      by_cases hclear : line.text = clearLine
      · simp only [hclear, ↓reduceIte, settingsOf_eq_ok_iff, List.reverse_nil, List.nil_append,
          not_true_eq_false, false_and, false_or]
        constructor
        · rintro ⟨settings, save, hsets, rfl⟩
          exact ⟨settings, save, line, _, ⟨rfl, rfl⟩, hclear, hsets, rfl⟩
        · rintro ⟨settings, save, second, lines, ⟨rfl, rfl⟩, _, hsets, rfl⟩
          exact ⟨settings, save, hsets, rfl⟩
      · simp only [hclear, ↓reduceIte, settingsOf_eq_ok_iff, List.reverse_nil, List.nil_append,
          not_false_eq_true, true_and, List.map_cons]
        constructor
        · rintro ⟨settings, save, hsets, rfl⟩
          exact ⟨settings, save, Or.inl ⟨hsets, rfl⟩⟩
        · rintro ⟨settings, save, ⟨hsets, rfl⟩ | ⟨second, lines, ⟨rfl, _⟩, hsecond, _, _⟩⟩
          · exact ⟨settings, save, hsets, rfl⟩
          · exact absurd hsecond hclear

/-- A source says the program that the rules derive from its lines. -/
theorem ofSource_eq_ok_iff (source : Source) (program : Program) :
    (ofSource registry environment source).1 = .ok program ↔
      SaidBy registry environment source.lines program := by
  unfold ofSource Source.lines
  cases source.reads with
  | nil =>
      simp only [reduceCtorEq, List.map_nil, false_iff]
      intro h
      cases h
  | cons read reads =>
      rcases read with ⟨first, after⟩
      simp only [List.map_cons]
      cases hfirst : Version.ofLine first with
      | error fault =>
          simp only [reduceCtorEq, false_iff]
          generalize reads.map Prod.fst = lines
          intro h
          cases h with
          | plain h _ _ => rw [hfirst] at h; exact absurd h (by simp)
          | clearing h _ _ => rw [hfirst] at h; exact absurd h (by simp)
      | ok version =>
          have hversion := ((Version.ofLine_eq_ok_iff first version).1 hfirst).1
          subst hversion
          simp only [ofReads_eq_ok_iff]
          generalize reads.map Prod.fst = lines
          constructor
          · rintro ⟨settings, save, ⟨hclear, hsets, rfl⟩ | ⟨second, rest, rfl, hclear, hsets, rfl⟩⟩
            · exact .plain hfirst hclear hsets
            · exact .clearing hfirst hclear hsets
          · intro h
            cases h with
            | plain _ hclear hsets => exact ⟨_, _, Or.inl ⟨hclear, hsets, rfl⟩⟩
            | clearing _ hclear hsets => exact ⟨_, _, Or.inr ⟨_, _, rfl, hclear, hsets, rfl⟩⟩

end Program

/-- The place of the first set line of a program, counted from zero: after the
    preamble, and after the line that clears if that is the second. -/
def firstSetLine (lines : List Line) : Nat :=
  if lines[1]?.map Line.text = some clearLine then 2 else 1

/-- What has to hold of lines for them to say a program: the first is a preamble
    for the supported version, the last and no other ends a program, and every
    line between them sets something, but for a second line that clears. -/
structure ProgramLines (registry : Registry) (environment : Environment) (lines : List Line) :
    Prop where
  two_le_length : 2 ≤ lines.length
  preamble : ∃ first ∈ lines.head?, ∃ preamble, Preamble.read? first.text = some preamble ∧
    preamble.version? = some Version.supported
  ends : ∃ last ∈ lines.getLast?, last.text = saveLine ∨ last.text = endLine
  ends_once : ∀ line ∈ lines.dropLast, line.text ≠ saveLine ∧ line.text ≠ endLine
  sets : ∀ line ∈ lines.dropLast.drop (firstSetLine lines),
    ∃ setting, Setting.ofLine registry environment line = .ok setting

theorem firstSetLine_eq_two_iff (lines : List Line) :
    firstSetLine lines = 2 ↔ lines[1]?.map Line.text = some clearLine := by
  unfold firstSetLine
  split
  · next h => simp [h]
  · next h => simp [h]

-- A preamble begins with its keyword, and neither word that ends a program does.
theorem terminator?_of_preamble {line : Line} {version : Version}
    (h : Version.ofLine line = .ok version) : terminator? line.text = none := by
  rcases (Version.ofLine_eq_ok_iff line version).1 h with ⟨_, preamble, hread, _⟩
  have hsave : Preamble.read? saveLine = none := by decide
  have hend : Preamble.read? endLine = none := by decide
  rw [terminator?_eq_none_iff]
  constructor
  · intro heq
    rw [heq, hsave] at hread
    exact absurd hread (by simp only [reduceCtorEq, not_false_eq_true])
  · intro heq
    rw [heq, hend] at hread
    exact absurd hread (by simp only [reduceCtorEq, not_false_eq_true])

namespace Program

/-- The parts of the lines that say a program, with their places. -/
theorem SaidBy.parts {lines : List Line} {program : Program}
    (h : SaidBy registry environment lines program) :
    ∃ first clears sets last, lines = first :: (clears ++ (sets ++ [last])) ∧
      firstSetLine lines = clears.length + 1 ∧
      Version.ofLine first = .ok program.version ∧ program.version = Version.supported ∧
      clears.map Line.text = (if program.clear then [clearLine] else []) ∧
      terminator? last.text = some program.save ∧
      (∀ line ∈ sets, terminator? line.text = none) ∧
      sets.map (Setting.ofLine registry environment) = program.settings.map .ok := by
  cases h with
  | @plain first lines settings save hfirst hclear hsets =>
      rcases (setLines_iff_map lines settings save).1 hsets with
        ⟨sets, last, rfl, hlast, hnone, hmap⟩
      refine ⟨first, [], sets, last, rfl, ?_, hfirst, rfl, rfl, hlast, hnone, hmap⟩
      rw [firstSetLine, List.getElem?_cons_succ, ← List.head?_eq_getElem?, if_neg hclear]
      rfl
  | @clearing first second lines settings save hfirst hclear hsets =>
      rcases (setLines_iff_map lines settings save).1 hsets with
        ⟨sets, last, rfl, hlast, hnone, hmap⟩
      refine ⟨first, [second], sets, last, rfl, ?_, hfirst, rfl, ?_, hlast, hnone, hmap⟩
      · exact (firstSetLine_eq_two_iff _).2 (congrArg some hclear)
      · exact congrArg (fun text => [text]) hclear

/-- Lines that say a program have every line in its place. -/
theorem SaidBy.programLines {lines : List Line} {program : Program}
    (h : SaidBy registry environment lines program) :
    ProgramLines registry environment lines := by
  rcases h.parts with ⟨first, clears, sets, last, hlines, hstart, hfirst, hversion, hclears, hlast,
    hnone, hmap⟩
  have hdrop : lines.dropLast = first :: (clears ++ sets) := by
    rw [hlines, ← List.append_assoc, ← List.cons_append, List.dropLast_concat]
  refine ⟨?_, ?_, ?_, ?_, ?_⟩
  · rw [hlines]
    simp only [List.length_cons, List.length_append]
    omega
  · rw [hversion] at hfirst
    rcases (Version.ofLine_eq_ok_iff first _).1 hfirst with ⟨_, hpreamble⟩
    exact ⟨first, by rw [hlines]; rfl, hpreamble⟩
  · refine ⟨last, ?_, ?_⟩
    · rw [hlines, ← List.append_assoc, ← List.cons_append, List.getLast?_concat]
      rfl
    · have htext := (terminator?_eq_some_iff _ _).1 hlast
      cases hsave : program.save with
      | true => exact Or.inl (by rw [htext, hsave]; rfl)
      | false => exact Or.inr (by rw [htext, hsave]; rfl)
  · intro line hmem
    rw [← terminator?_eq_none_iff]
    rw [hdrop] at hmem
    rcases List.mem_cons.1 hmem with rfl | hmem
    · exact terminator?_of_preamble hfirst
    · rcases List.mem_append.1 hmem with hmem | hmem
      · -- There is at most one line before the set lines, and it is the one that clears.
        have htext : line.text ∈ clears.map Line.text := List.mem_map_of_mem hmem
        rw [hclears] at htext
        have hline : line.text = clearLine := by
          split at htext
          · exact List.mem_singleton.1 htext
          · exact absurd htext List.not_mem_nil
        rw [hline]
        decide
      · exact hnone line hmem
  · intro line hmem
    rw [hdrop, hstart, List.drop_succ_cons, List.drop_left] at hmem
    rcases List.getElem?_of_mem hmem with ⟨k, hk⟩
    rcases Setting.exists_of_getElem? hmap hk with ⟨setting, _, hsetting⟩
    exact ⟨setting, hsetting⟩

/-- Lines that have every line in its place say a program. -/
theorem exists_saidBy {lines : List Line} (h : ProgramLines registry environment lines) :
    ∃ program, SaidBy registry environment lines program := by
  rcases h with ⟨hlength, ⟨first, hhead, hpreamble⟩, ⟨last, hlast, hends⟩, honce, hsets⟩
  have hfirst : Version.ofLine first = .ok Version.supported :=
    (Version.ofLine_eq_ok_iff _ _).2 ⟨rfl, hpreamble⟩
  have hsave : ∃ save, terminator? last.text = some save := by
    rcases hends with h | h
    · exact ⟨true, (terminator?_eq_some_iff _ _).2 h⟩
    · exact ⟨false, (terminator?_eq_some_iff _ _).2 h⟩
  rcases hsave with ⟨save, hsave⟩
  have hsplit : ∃ middle, lines = first :: (middle ++ [last]) := by
    cases lines with
    | nil => exact absurd hhead (by simp)
    | cons line rest =>
        simp only [List.head?_cons, Option.mem_def, Option.some.injEq] at hhead
        subst hhead
        have hrest : rest ≠ [] := by
          rintro rfl
          simp at hlength
        rw [List.getLast?_cons_of_ne_nil hrest] at hlast
        exact ⟨rest.dropLast, by rw [List.dropLast_append_getLast? last hlast]⟩
  rcases hsplit with ⟨middle, rfl⟩
  have hdrop : (first :: (middle ++ [last])).dropLast = first :: middle := by
    rw [← List.cons_append, List.dropLast_concat]
  rw [hdrop] at honce hsets
  have hnone : ∀ line ∈ middle, terminator? line.text = none := fun line hmem =>
    (terminator?_eq_none_iff _).2 (honce line (List.mem_cons_of_mem first hmem))
  by_cases hclear : (middle ++ [last]).head?.map Line.text = some clearLine
  · cases middle with
    | nil =>
        -- The line that ends the program is not the one that clears.
        exact absurd (Option.some.inj hclear) (ne_clearLine_of_terminator? hsave)
    | cons second sets =>
        have htext : second.text = clearLine := Option.some.inj hclear
        have hstart : firstSetLine (first :: (second :: sets ++ [last])) = 2 :=
          (firstSetLine_eq_two_iff _).2 (congrArg some htext)
        rw [hstart, List.drop_succ_cons, List.drop_succ_cons, List.drop_zero] at hsets
        rcases exists_setLines hsave fun line hmem =>
          ⟨hnone line (List.mem_cons_of_mem second hmem), hsets line hmem⟩ with ⟨settings, h⟩
        exact ⟨_, .clearing hfirst htext h⟩
  · have hstart : firstSetLine (first :: (middle ++ [last])) = 1 := by
      rw [firstSetLine, List.getElem?_cons_succ, ← List.head?_eq_getElem?, if_neg hclear]
    rw [hstart, List.drop_succ_cons, List.drop_zero] at hsets
    rcases exists_setLines hsave fun line hmem => ⟨hnone line hmem, hsets line hmem⟩ with
      ⟨settings, h⟩
    exact ⟨_, .plain hfirst hclear h⟩

namespace SaidBy

variable {lines : List Line} {program : Program}

/-- Whether a program clears is said by the second line. -/
theorem clear_eq_true_iff (h : SaidBy registry environment lines program) :
    program.clear = true ↔ lines[1]?.map Line.text = some clearLine := by
  rcases h.parts with ⟨first, clears, sets, last, _, hstart, _, _, hclears, _, _, _⟩
  rw [← firstSetLine_eq_two_iff, hstart]
  have hone := congrArg List.length hclears
  rw [List.length_map] at hone
  cases hclear : program.clear with
  | true => simp [hone, hclear]
  | false => simp [hone, hclear]

/-- Whether a program saves is said by the last line. -/
theorem save_eq_true_iff (h : SaidBy registry environment lines program) :
    program.save = true ↔ lines.getLast?.map Line.text = some saveLine := by
  rcases h.parts with ⟨first, clears, sets, last, hlines, _, _, _, _, hlast, _, _⟩
  have hend : lines.getLast? = some last := by
    rw [hlines, ← List.append_assoc, ← List.cons_append, List.getLast?_concat]
  rw [hend, Option.map_some, Option.some.injEq, (terminator?_eq_some_iff _ _).1 hlast]
  have hwords : endLine ≠ saveLine := by decide
  cases program.save with
  | true => simp
  | false => simp [hwords]

/-- The settings are what the lines between the first set line and the last line
    set, in order. -/
theorem map_drop_firstSetLine (h : SaidBy registry environment lines program) :
    (lines.dropLast.drop (firstSetLine lines)).map (Setting.ofLine registry environment) =
      program.settings.map .ok := by
  rcases h.parts with ⟨first, clears, sets, last, hlines, hstart, _, _, _, _, _, hmap⟩
  rw [hstart, hlines, ← List.append_assoc, ← List.cons_append, List.dropLast_concat,
    List.drop_succ_cons, List.drop_left, hmap]

/-- There are as many settings as lines between the first set line and the
    last line. -/
theorem length_settings (h : SaidBy registry environment lines program) :
    program.settings.length = lines.length - 1 - firstSetLine lines := by
  have hcount := congrArg List.length h.map_drop_firstSetLine
  rw [List.length_map, List.length_map, List.length_drop, List.length_dropLast] at hcount
  exact hcount.symm

/-- Each setting is what the line in its place sets. -/
theorem ofLine_of_settings (h : SaidBy registry environment lines program) {k : Nat}
    {setting : Setting} (hk : program.settings[k]? = some setting) :
    ∃ line, lines[firstSetLine lines + k]? = some line ∧
      Setting.ofLine registry environment line = .ok setting := by
  have hget : ((lines.dropLast.drop (firstSetLine lines)).map
      (Setting.ofLine registry environment))[k]? = some (.ok setting) := by
    rw [h.map_drop_firstSetLine, List.getElem?_map, hk, Option.map_some]
  rw [List.getElem?_map, Option.map_eq_some_iff] at hget
  rcases hget with ⟨line, hline, hsetting⟩
  -- A place among the set lines is one among all lines, before the last.
  rw [List.getElem?_drop, List.getElem?_dropLast] at hline
  exact ⟨line, (Option.ite_none_right_eq_some.1 hline).2, hsetting⟩

end SaidBy

/-- A program is read from a text exactly if every significant line is in its
    place, and then it is read off line by line: its settings are those of the
    set lines, one for each and in their order. -/
theorem accepts_grammar (registry : Registry) (environment : Environment) (text : List Char) :
    ((∃ program, (ofSource registry environment (Source.ofText text)).1 = .ok program) ↔
      ProgramLines registry environment (significantLines text)) ∧
    ∀ program, (ofSource registry environment (Source.ofText text)).1 = .ok program →
      program.version = Version.supported ∧
      (program.clear = true ↔ (significantLines text)[1]?.map Line.text = some clearLine) ∧
      (program.save = true ↔ (significantLines text).getLast?.map Line.text = some saveLine) ∧
      program.settings.length =
        (significantLines text).length - 1 - firstSetLine (significantLines text) ∧
      ∀ k setting, program.settings[k]? = some setting →
        ∃ line, (significantLines text)[firstSetLine (significantLines text) + k]? = some line ∧
          Setting.ofLine registry environment line = .ok setting := by
  simp only [ofSource_eq_ok_iff, Source.lines_ofText]
  constructor
  · constructor
    · rintro ⟨program, h⟩
      exact h.programLines
    · exact exists_saidBy
  · intro program h
    have hversion : program.version = Version.supported := by
      rcases h.parts with ⟨_, _, _, _, _, _, _, hversion, _, _, _, _⟩
      exact hversion
    exact ⟨hversion, h.clear_eq_true_iff, h.save_eq_true_iff, h.length_settings,
      fun k setting hk => h.ofLine_of_settings hk⟩

/-- A variable that is set twice, behind a comment and the line that clears. -/
theorem accepts_grammar_twice :
    ProgramLines .snappySense ⟨none, fun _ => .error .notFound⟩
      (significantLines ("snappysense-compiled-config 1.0.0\n# twice\nclear\n" ++
        "set enabled 1\nset enabled 0\nsave").toList) :=
  (accepts_grammar _ _ _).1.1 ⟨⟨.supported, true, [.integer 0 1, .integer 0 0], true⟩, rfl⟩

end Program

end

end SensorConfig
