import Mathlib.Data.List.Basic
import Mathlib.Data.List.TakeWhile
import SensorConfig.Meaning.Setting

/-!
# Splits of Set Lines

Where the name of a set line ends and its value begins.

The grammar of set lines is ambiguous. A value may be any text, so a blank in
front of it can be counted to the gap or to the value, and a line with two blanks
there has two splits. The reader does not choose among them. It takes every gap
as long as it goes and never gives a blank back, so it can only find the split
whose value begins with neither a space nor a tab. That one is unique, because in
it every piece ends where the characters change their class.

Taking as much as there is could lose a line: if the last gap went on to the end,
nothing would be left for the value, although the grammar has a split with a blank
as the value. A line has lost the blanks at its ends before it is read, so its
last character is no gap and this does not happen. It is the only thing that the
reader needs to know about the line.

## Main definitions

* `SetLine.Split`: The pieces of a line behind its word.
* `SetLine.SplitsAs`: A split of a line as the grammar allows it.
* `SetLine.Split.IsLongest`: The gap is as long as it can be.
* `Setting.ofSetLine`: What a name and a value set.

## Theorems

* `Lexeme.append_inj_of_stop`: A text is split in one way where a class ends.
* `SetLine.read?_eq_some_iff`: The reader finds the splits with longest gaps.
* `SetLine.SplitsAs.eq_of_isLongest`: There is at most one of them.
* `SetLine.SplitsAs.exists_isLongest`: On a trimmed line there is one if there is
  any split.
* `Setting.ofLine_splits`: What a trimmed line sets, by its split.
-/

namespace SensorConfig

theorem Lexeme.run?_append {inClass : Char → Bool} {run rest : List Char} (hne : run ≠ [])
    (hrun : ∀ c ∈ run, inClass c = true) (hrest : ∀ c ∈ rest.head?, inClass c = false) :
    run? inClass (run ++ rest) = some (run, rest) :=
  (run?_eq_some_iff inClass (run ++ rest) run rest).2 ⟨rfl, hne, hrun, hrest⟩

/-- Where a class ends, a text is split in one way only. -/
theorem Lexeme.append_inj_of_stop {inClass : Char → Bool} {run run' rest rest' : List Char}
    (hrun : ∀ c ∈ run, inClass c = true) (hrest : ∀ c ∈ rest.head?, inClass c = false)
    (hrun' : ∀ c ∈ run', inClass c = true) (hrest' : ∀ c ∈ rest'.head?, inClass c = false)
    (h : run ++ rest = run' ++ rest') : run = run' ∧ rest = rest' := by
  rcases takeWhile_append_of_stop hrun hrest with ⟨htake, hdrop⟩
  rcases takeWhile_append_of_stop hrun' hrest' with ⟨htake', hdrop'⟩
  rw [h, htake'] at htake
  rw [h, hdrop'] at hdrop
  exact ⟨htake.symm, hdrop.symm⟩

/-- A text begins with a word where the word is read, and only there. -/
theorem Lexeme.word?_cases (word : String) (text : List Char) :
    (word.toList <+: text ∧ ∃ rest, word? word text = some rest) ∨
      (¬ word.toList <+: text ∧ word? word text = none) := by
  cases hword : word? word text with
  | some rest => exact Or.inl ⟨⟨rest, ((word?_eq_some_iff _ _ _).1 hword).symm⟩, rest, rfl⟩
  | none =>
      refine Or.inr ⟨?_, rfl⟩
      rintro ⟨rest, hrest⟩
      rw [(word?_eq_some_iff word text rest).2 hrest.symm] at hword
      exact absurd hword (by simp only [reduceCtorEq, not_false_eq_true])

theorem Text.isBlank_of_isGap {c : Char} (h : Lexeme.isGap c = true) : isBlank c = true := by
  simp only [Lexeme.isGap, Bool.or_eq_true, decide_eq_true_eq] at h
  rcases h with rfl | rfl
  · decide
  · decide

theorem Text.isGap_eq_false {c : Char} (h : isBlank c = false) : Lexeme.isGap c = false := by
  rw [← Bool.not_eq_true]
  intro hgap
  rw [isBlank_of_isGap hgap] at h
  exact absurd h (by decide)

/-- What is left at the end of a text that has been trimmed is no blank. -/
theorem Text.isBlank_of_getLast?_trim {text : List Char} {c : Char}
    (h : c ∈ (trim text).getLast?) : isBlank c = false := by
  rw [trim, List.getLast?_reverse] at h
  have hhead := List.head?_dropWhile_not isBlank (text.dropWhile isBlank).reverse
  rw [Option.mem_def.1 h] at hhead
  simpa using hhead

namespace SetLine

/-- The pieces of a line behind its word: a gap, a name, a second gap and a
    value. -/
structure Split where
  gap : List Char
  name : List Char
  space : List Char
  value : List Char

/-- A split of a line as the grammar allows it: both gaps are spaces and tabs, the
    name is a letter and characters of names, and the value is not empty. -/
structure SplitsAs (text : List Char) (split : Split) : Prop where
  text_eq : text =
    "set".toList ++ (split.gap ++ (split.name ++ (split.space ++ split.value)))
  gap_ne : split.gap ≠ []
  gap_chars : ∀ c ∈ split.gap, c = ' ' ∨ c = '\t'
  name_letter : ∃ c ∈ split.name.head?, c.isAlpha = true
  name_chars : ∀ c ∈ split.name, c.isAlphanum = true ∨ c = '_' ∨ c = '-'
  space_ne : split.space ≠ []
  space_chars : ∀ c ∈ split.space, c = ' ' ∨ c = '\t'
  value_ne : split.value ≠ []

/-- The gap in front of the value is as long as it can be: the value begins with
    neither a space nor a tab. -/
def Split.IsLongest (split : Split) : Prop :=
  ∀ c ∈ split.value.head?, c ≠ ' ' ∧ c ≠ '\t'

theorem isGap_eq_true_iff (c : Char) : Lexeme.isGap c = true ↔ c = ' ' ∨ c = '\t' := by
  simp only [Lexeme.isGap, Bool.or_eq_true, decide_eq_true_eq]

theorem isGap_eq_false_iff (c : Char) : Lexeme.isGap c = false ↔ c ≠ ' ' ∧ c ≠ '\t' := by
  rw [← Bool.not_eq_true, isGap_eq_true_iff, not_or]

theorem isNameChar_eq_true_iff (c : Char) :
    Lexeme.isNameChar c = true ↔ c.isAlphanum = true ∨ c = '_' ∨ c = '-' := by
  simp only [Lexeme.isNameChar, Bool.or_eq_true, decide_eq_true_eq, or_assoc]

theorem beginsWithLetter_iff (name : List Char) :
    beginsWithLetter name = true ↔ ∃ c ∈ name.head?, c.isAlpha = true := by
  cases name with
  | nil => simp [beginsWithLetter]
  | cons c name => simp [beginsWithLetter]

/-- No character separates and is part of a name. -/
theorem isNameChar_of_isGap {c : Char} (h : Lexeme.isGap c = true) :
    Lexeme.isNameChar c = false := by
  rcases (isGap_eq_true_iff c).1 h with rfl | rfl
  · decide
  · decide

instance (text : List Char) (split : Split) : Decidable (SplitsAs text split) :=
  decidable_of_iff
    (text = "set".toList ++ (split.gap ++ (split.name ++ (split.space ++ split.value))) ∧
      split.gap ≠ [] ∧ split.gap.all Lexeme.isGap = true ∧ beginsWithLetter split.name = true ∧
      split.name.all Lexeme.isNameChar = true ∧ split.space ≠ [] ∧
      split.space.all Lexeme.isGap = true ∧ split.value ≠ []) <| by
    simp only [List.all_eq_true, isGap_eq_true_iff, isNameChar_eq_true_iff, beginsWithLetter_iff]
    constructor
    · rintro ⟨htext, hgap, hgaps, hletter, hname, hspace, hspaces, hvalue⟩
      exact ⟨htext, hgap, hgaps, hletter, hname, hspace, hspaces, hvalue⟩
    · intro h
      exact ⟨h.text_eq, h.gap_ne, h.gap_chars, h.name_letter, h.name_chars, h.space_ne,
        h.space_chars, h.value_ne⟩

namespace SplitsAs

variable {text : List Char} {split : Split}

theorem isGap_gap (h : SplitsAs text split) : ∀ c ∈ split.gap, Lexeme.isGap c = true :=
  fun c hc => (isGap_eq_true_iff c).2 (h.gap_chars c hc)

theorem isNameChar_name (h : SplitsAs text split) :
    ∀ c ∈ split.name, Lexeme.isNameChar c = true :=
  fun c hc => (isNameChar_eq_true_iff c).2 (h.name_chars c hc)

theorem isGap_space (h : SplitsAs text split) : ∀ c ∈ split.space, Lexeme.isGap c = true :=
  fun c hc => (isGap_eq_true_iff c).2 (h.space_chars c hc)

theorem name_ne (h : SplitsAs text split) : split.name ≠ [] := by
  rcases h.name_letter with ⟨first, hfirst, _⟩
  intro hnil
  rw [hnil] at hfirst
  exact absurd hfirst (by simp)

-- The class changes behind each of the first three pieces.
theorem head?_name (h : SplitsAs text split) (rest : List Char) :
    ∀ c ∈ (split.name ++ rest).head?, Lexeme.isGap c = false := by
  intro c hc
  rw [List.head?_append_of_ne_nil _ h.name_ne] at hc
  have hname := h.isNameChar_name c (List.mem_of_head? hc)
  cases hgap : Lexeme.isGap c with
  | false => rfl
  | true =>
      rw [isNameChar_of_isGap hgap] at hname
      exact absurd hname (by decide)

theorem head?_space (h : SplitsAs text split) (rest : List Char) :
    ∀ c ∈ (split.space ++ rest).head?, Lexeme.isNameChar c = false := by
  intro c hc
  rw [List.head?_append_of_ne_nil _ h.space_ne] at hc
  exact isNameChar_of_isGap (h.isGap_space c (List.mem_of_head? hc))

theorem head?_value (hlongest : split.IsLongest) :
    ∀ c ∈ split.value.head?, Lexeme.isGap c = false :=
  fun c hc => (isGap_eq_false_iff c).2 (hlongest c hc)

end SplitsAs

/-- The reader finds the name and the value of a split whose gap is as long as it
    can be, and it finds nothing else. -/
theorem read?_eq_some_iff (text name value : List Char) :
    read? text = some ⟨name, value⟩ ↔
      ∃ gap space, SplitsAs text ⟨gap, name, space, value⟩ ∧
        Split.IsLongest ⟨gap, name, space, value⟩ := by
  constructor
  · intro h
    simp only [read?, Option.bind_eq_bind, Option.bind_eq_some_iff, Option.ite_none_right_eq_some,
      Option.some.injEq, Prod.exists, Bool.and_eq_true, Bool.not_eq_true',
      List.isEmpty_eq_false_iff, mk.injEq] at h
    rcases h with ⟨afterWord, hword, gap, afterGap, hgap, name, afterName, hname, space, value,
      hspace, ⟨hletter, hvalue⟩, rfl, rfl⟩
    rw [Lexeme.word?_eq_some_iff] at hword
    rw [Lexeme.run?_eq_some_iff] at hgap hname hspace
    refine ⟨gap, space, ⟨?_, hgap.2.1, ?_, (beginsWithLetter_iff name).1 hletter, ?_, hspace.2.1,
      ?_, hvalue⟩, ?_⟩
    · rw [hword, hgap.1, hname.1, hspace.1]
      rfl
    · exact fun c hc => (isGap_eq_true_iff c).1 (hgap.2.2.1 c hc)
    · exact fun c hc => (isNameChar_eq_true_iff c).1 (hname.2.2.1 c hc)
    · exact fun c hc => (isGap_eq_true_iff c).1 (hspace.2.2.1 c hc)
    · exact fun c hc => (isGap_eq_false_iff c).1 (hspace.2.2.2 c hc)
  · rintro ⟨gap, space, h, hlongest⟩
    have hword : Lexeme.word? keyword text = some (gap ++ (name ++ (space ++ value))) :=
      (Lexeme.word?_eq_some_iff _ _ _).2 h.text_eq
    have hgap := Lexeme.run?_append h.gap_ne h.isGap_gap (h.head?_name (space ++ value))
    have hname := Lexeme.run?_append h.name_ne h.isNameChar_name (h.head?_space value)
    have hspace := Lexeme.run?_append h.space_ne h.isGap_space (SplitsAs.head?_value hlongest)
    have hletter := (beginsWithLetter_iff name).2 h.name_letter
    have hvalue : value.isEmpty = false := List.isEmpty_eq_false_iff.2 h.value_ne
    simp only at hgap hname hspace
    simp only [read?, hword, hgap, hname, hspace, hletter, hvalue, Option.bind_eq_bind,
      Option.bind_some, Bool.not_false, Bool.and_self, ↓reduceIte]

namespace SplitsAs

variable {text : List Char} {split other : Split}

/-- A line has at most one split whose gap is as long as it can be. -/
theorem eq_of_isLongest (h : SplitsAs text split) (hlongest : split.IsLongest)
    (hother : SplitsAs text other) (hother_longest : other.IsLongest) : other = split := by
  have hsame := hother.text_eq.symm.trans h.text_eq
  rw [List.append_cancel_left_eq] at hsame
  rcases Lexeme.append_inj_of_stop hother.isGap_gap (hother.head?_name _) h.isGap_gap
    (h.head?_name _) hsame with ⟨hgap, hsame⟩
  rcases Lexeme.append_inj_of_stop hother.isNameChar_name (hother.head?_space _) h.isNameChar_name
    (h.head?_space _) hsame with ⟨hname, hsame⟩
  rcases Lexeme.append_inj_of_stop hother.isGap_space (head?_value hother_longest) h.isGap_space
    (head?_value hlongest) hsame with ⟨hspace, hvalue⟩
  rcases split with ⟨gap, name, space, value⟩
  rw [Split.mk.injEq]
  exact ⟨hgap, hname, hspace, hvalue⟩

/-- The last character of a line is that of its value. -/
theorem getLast?_value (h : SplitsAs text split) : split.value.getLast? = text.getLast? := by
  have hne := h.value_ne
  rw [h.text_eq, List.getLast?_append_of_ne_nil _ (by simp [hne]),
    List.getLast?_append_of_ne_nil _ (by simp [hne]),
    List.getLast?_append_of_ne_nil _ (by simp [hne]), List.getLast?_append_of_ne_nil _ hne]

/-- On a line that does not end in a gap, the gap characters in front of the value
    can go to the gap. -/
theorem exists_isLongest (h : SplitsAs text split)
    (hlast : ∀ c ∈ text.getLast?, Lexeme.isGap c = false) :
    ∃ space value, SplitsAs text ⟨split.gap, split.name, space, value⟩ ∧
      Split.IsLongest ⟨split.gap, split.name, space, value⟩ := by
  have hvalue : split.value.takeWhile Lexeme.isGap ++ split.value.dropWhile Lexeme.isGap =
      split.value := List.takeWhile_append_dropWhile
  refine ⟨split.space ++ split.value.takeWhile Lexeme.isGap, split.value.dropWhile Lexeme.isGap,
    ⟨?_, h.gap_ne, h.gap_chars, h.name_letter, h.name_chars, ?_, ?_, ?_⟩, ?_⟩
  · simp only
    rw [List.append_assoc, hvalue]
    exact h.text_eq
  · exact List.append_ne_nil_of_left_ne_nil h.space_ne _
  · intro c hc
    rcases List.mem_append.1 hc with hc | hc
    · exact h.space_chars c hc
    · exact (isGap_eq_true_iff c).1 (List.all_eq_true.1 List.all_takeWhile c hc)
  · -- The last character of the value is that of the line, so something is left.
    intro hnil
    have hall : ∀ c ∈ split.value, Lexeme.isGap c = true := List.dropWhile_eq_nil_iff.1 hnil
    have hmem := List.getLast_mem h.value_ne
    have hend := List.getLast?_eq_some_getLast h.value_ne
    rw [h.getLast?_value] at hend
    have hgap := hlast _ hend
    rw [hall _ hmem] at hgap
    exact absurd hgap (by decide)
  · intro c hc
    rw [← isGap_eq_false_iff]
    have hhead := List.head?_dropWhile_not Lexeme.isGap split.value
    simp only at hc
    rw [Option.mem_def.1 hc] at hhead
    simpa using hhead

end SplitsAs

/-- A line that does not end in a gap is a set line if it has any split. -/
theorem exists_read?_iff {text : List Char}
    (hlast : ∀ c ∈ text.getLast?, Lexeme.isGap c = false) :
    (∃ set, read? text = some set) ↔ ∃ split, SplitsAs text split := by
  constructor
  · rintro ⟨⟨name, value⟩, hread⟩
    rcases (read?_eq_some_iff text name value).1 hread with ⟨gap, space, h, _⟩
    exact ⟨_, h⟩
  · rintro ⟨split, h⟩
    rcases h.exists_isLongest hlast with ⟨space, value, hsplit, hlongest⟩
    exact ⟨_, (read?_eq_some_iff text split.name value).2 ⟨_, space, hsplit, hlongest⟩⟩

end SetLine

/-- The fault of a line that is no set line shows the line, in one of two ways. -/
theorem noSetLine_eq (line : Line) :
    noSetLine line = .form line.number
      (if "set".toList <+: line.text then .setting (String.ofList line.text)
        else .unexpected (String.ofList line.text)) := by
  rcases Lexeme.word?_cases "set" line.text with ⟨hbegins, rest, hword⟩ | ⟨hbegins, hword⟩
  · simp only [noSetLine, SetLine.keyword, hword, if_pos hbegins]
  · simp only [noSetLine, SetLine.keyword, hword, if_neg hbegins]

namespace Setting

section

variable {registry : Registry} {environment : Environment}

/-- What a name and a value set, on a line of a number. -/
def ofSetLine (registry : Registry) (environment : Environment) (number : Nat) (set : SetLine) :
    Except Fault Setting :=
  match registry.lookup? (String.ofList set.name) with
  | none => .error (.unknownVariable number (String.ofList set.name))
  | some v =>
      match Operand.resolve environment v number set.value with
      | .error fault => .error fault
      | .ok operand => ofOperand registry v number operand

/-- A line sets what its name and its value do. -/
theorem ofLine_of_read? {line : Line} {set : SetLine} (h : SetLine.read? line.text = some set) :
    ofLine registry environment line = ofSetLine registry environment line.number set := by
  rw [ofLine, h]
  rfl

/-- A line that is no set line is at fault, and its fault tells whether it begins
    like one. -/
theorem ofLine_of_read?_eq_none {line : Line} (h : SetLine.read? line.text = none) :
    ∃ fault, ofLine registry environment line = .error fault ∧ fault.kind = .form ∧
      fault.line? = some line.number ∧
      fault.message = "Line " ++ toString line.number ++ ": " ++
        ((if "set".toList <+: line.text then "Bad syntax for set: "
          else "Illegal statement in this context: ") ++ String.ofList line.text) := by
  refine ⟨_, by rw [ofLine, h, noSetLine_eq], rfl, rfl, ?_⟩
  by_cases hbegins : "set".toList <+: line.text
  · rw [if_pos hbegins, if_pos hbegins]
    rfl
  · rw [if_neg hbegins, if_neg hbegins]
    rfl

/-- A trimmed line is a set line exactly if the grammar has a split of it. It then
    has one and only one whose value begins with neither a space nor a tab, and the
    name and the value of that split are what is set. Any other line is at fault
    with a fault of form, which tells whether the line begins like a set line. -/
theorem ofLine_splits (registry : Registry) (environment : Environment) {line : Line}
    (h : Text.trim line.text = line.text) :
    ((∃ set, SetLine.read? line.text = some set) ↔
      ∃ split, SetLine.SplitsAs line.text split) ∧
    ((∃ split, SetLine.SplitsAs line.text split) →
      ∃! split, SetLine.SplitsAs line.text split ∧ split.IsLongest) ∧
    (∀ split, SetLine.SplitsAs line.text split → split.IsLongest →
      SetLine.read? line.text = some ⟨split.name, split.value⟩ ∧
      ofLine registry environment line =
        ofSetLine registry environment line.number ⟨split.name, split.value⟩) ∧
    ((¬ ∃ split, SetLine.SplitsAs line.text split) →
      ∃ fault, ofLine registry environment line = .error fault ∧ fault.kind = .form ∧
        fault.line? = some line.number ∧
        fault.message = "Line " ++ toString line.number ++ ": " ++
          ((if "set".toList <+: line.text then "Bad syntax for set: "
            else "Illegal statement in this context: ") ++ String.ofList line.text)) := by
  -- The trimming has taken the blanks from the end of the line, and a gap is a blank.
  have hlast : ∀ c ∈ line.text.getLast?, Lexeme.isGap c = false := by
    intro c hc
    rw [← h] at hc
    exact Text.isGap_eq_false (Text.isBlank_of_getLast?_trim hc)
  have hiff := SetLine.exists_read?_iff hlast
  refine ⟨hiff, ?_, fun split hsplit hlongest => ?_, fun hnone => ?_⟩
  · rintro ⟨split, hsplit⟩
    rcases hsplit.exists_isLongest hlast with ⟨space, value, hother, hlongest⟩
    exact ⟨_, ⟨hother, hlongest⟩, fun other hboth =>
      hother.eq_of_isLongest hlongest hboth.1 hboth.2⟩
  · have hread := (SetLine.read?_eq_some_iff line.text split.name split.value).2
      ⟨split.gap, split.space, hsplit, hlongest⟩
    exact ⟨hread, ofLine_of_read? hread⟩
  · refine ofLine_of_read?_eq_none ?_
    rw [← hiff] at hnone
    exact Option.eq_none_iff_forall_not_mem.2 fun set hset => hnone ⟨set, hset⟩

/-- The hypothesis holds of a line with three gap characters in front of its value
    and two inside it. Counting some of the first three to the value is a split as
    well, but not the one that is read. -/
theorem ofLine_splits_threeGaps :
    Text.trim "set ssid1 \t a  b".toList = "set ssid1 \t a  b".toList ∧
    SetLine.SplitsAs "set ssid1 \t a  b".toList
      ⟨[' '], "ssid1".toList, [' '], "\t a  b".toList⟩ ∧
    SetLine.read? "set ssid1 \t a  b".toList = some ⟨"ssid1".toList, "a  b".toList⟩ := by
  have htrim : Text.trim "set ssid1 \t a  b".toList = "set ssid1 \t a  b".toList := by decide
  have hsplits := @ofLine_splits .snappySense ⟨none, fun _ => .error .notFound⟩
    ⟨"set ssid1 \t a  b".toList, 3⟩ htrim
  have hlongest : SetLine.Split.IsLongest
      ⟨[' '], "ssid1".toList, " \t ".toList, "a  b".toList⟩ := by
    intro c hc
    have hhead : "a  b".toList.head? = some 'a' := by decide
    rw [hhead, Option.mem_some_iff] at hc
    rw [← hc]
    decide
  exact ⟨htrim, by decide, (hsplits.2.2.1 _ (by decide) hlongest).1⟩

end

end Setting

end SensorConfig
