/-!
# Lexemes

The pieces that lines are read from.

Inside a line only spaces and tabs separate, and letters and digits are those
of ASCII. A piece is a run of characters of one class, taken as long as the
class goes on. A longer piece never has to be given back, because what follows
a piece is always of another class.

## Main definitions

* `isGap`, `isNameChar`: The classes of characters.
* `run?`: The run at the start of a text, and what follows it.
* `word?`: What follows a given word at the start of a text.

## Theorems

* `run?_eq_some_iff`: A run is all of its class and what follows is not.
* `word?_eq_some_iff`: A word is read where the text begins with it.
-/

namespace SensorConfig

namespace Lexeme

/-- The characters that separate the pieces of a line. -/
def isGap (c : Char) : Bool :=
  c = ' ' || c = '\t'

/-- The characters of a name, after the first. -/
def isNameChar (c : Char) : Bool :=
  c.isAlphanum || c = '_' || c = '-'

/-- The longest run of a class at the start of a text and what follows it. An
    empty run is none. -/
def run? (inClass : Char → Bool) (text : List Char) : Option (List Char × List Char) :=
  match text.takeWhile inClass with
  | [] => none
  | run => some (run, text.dropWhile inClass)

/-- What follows a word that a text begins with. -/
def word? (word : String) (text : List Char) : Option (List Char) :=
  word.toList.isPrefixOf? text

theorem takeWhile_append_of_stop {inClass : Char → Bool} {run rest : List Char}
    (hrun : ∀ c ∈ run, inClass c = true) (hrest : ∀ c ∈ rest.head?, inClass c = false) :
    (run ++ rest).takeWhile inClass = run ∧ (run ++ rest).dropWhile inClass = rest := by
  induction run with
  | nil =>
      cases rest with
      | nil => exact ⟨rfl, rfl⟩
      | cons c rest =>
          have hc : inClass c = false := hrest c rfl
          simp [hc]
  | cons c run ih =>
      have hc : inClass c = true := hrun c (by simp)
      have h := ih fun d hd => hrun d (List.mem_cons_of_mem c hd)
      simp [hc, h]

/-- A run is not empty and all of its class, and what follows it does not go
    on in the class. -/
theorem run?_eq_some_iff (inClass : Char → Bool) (text run rest : List Char) :
    run? inClass text = some (run, rest) ↔
      text = run ++ rest ∧ run ≠ [] ∧ (∀ c ∈ run, inClass c = true) ∧
        ∀ c ∈ rest.head?, inClass c = false := by
  constructor
  · intro h
    -- The run is what the class takes from the text, and it is not empty.
    have hsplit : text.takeWhile inClass = run ∧ text.dropWhile inClass = rest ∧ run ≠ [] := by
      rw [run?] at h
      split at h
      · exact absurd h (by simp)
      · next hne =>
          simp only [Option.some.injEq, Prod.mk.injEq] at h
          rcases h with ⟨rfl, rfl⟩
          exact ⟨rfl, rfl, fun hnil => hne hnil⟩
    rcases hsplit with ⟨rfl, rfl, hne⟩
    refine ⟨(List.takeWhile_append_dropWhile).symm, hne, ?_, ?_⟩
    · intro c hc
      have hall := List.all_takeWhile (p := inClass) (l := text)
      exact List.all_eq_true.1 hall c hc
    · intro c hc
      -- The first character that is left is the one that stopped the run.
      have hhead := List.head?_dropWhile_not inClass text
      rw [Option.mem_def.1 hc] at hhead
      simpa using hhead
  · rintro ⟨rfl, hne, hrun, hrest⟩
    rcases takeWhile_append_of_stop hrun hrest with ⟨htake, hdrop⟩
    rw [run?, htake, hdrop]
    cases run with
    | nil => exact absurd rfl hne
    | cons c run => rfl

/-- A word is read where the text begins with it, and the rest follows. -/
theorem word?_eq_some_iff (word : String) (text rest : List Char) :
    word? word text = some rest ↔ text = word.toList ++ rest := by
  rw [word?]
  generalize word.toList = cs
  induction cs generalizing text with
  | nil =>
      have hnil : List.isPrefixOf? [] text = some text := rfl
      rw [hnil, Option.some.injEq, List.nil_append]
  | cons c cs ih =>
      cases text with
      | nil =>
          have hnone : (c :: cs).isPrefixOf? [] = none := rfl
          simp [hnone]
      | cons d text =>
          have hstep : (c :: cs).isPrefixOf? (d :: text) =
              if c == d then cs.isPrefixOf? text else none := rfl
          rw [hstep, List.cons_append, List.cons.injEq]
          by_cases hcd : c = d
          · subst hcd
            simp [ih]
          · have hdc : ¬ d = c := fun h => hcd h.symm
            simp [hcd, hdc]

end Lexeme

end SensorConfig
