/-!
# Numerals

Numbers read from text and offsets written to it.

A numeral is digits and at most one sign. Nothing else is forgiven: no blanks,
no separators, no other base. The number of digits is not limited, so a
numeral is read as an unbounded number first and narrowed afterwards, and a
numeral that is too large is told apart from a text that is no numeral only by
the step that fails.

## Main definitions

* `natural?`: The number that a run of digits denotes.
* `integer?`: The number that a run of digits with an optional sign denotes.
* `int32?`: The same, where the number has 32 bits.
* `hexadecimal`: A number in lower-case hexadecimal, filled up to a width.

## Theorems

* `natural?_eq_some_iff`: What is read is a run of digits, by its value.
* `natural?_toDigits`: A written number reads back.
* `integer?_repr`: So does a number with a sign.
* `int32?_toString`: And one of 32 bits.
-/

namespace SensorConfig

namespace Numeral

/-- The number that a run of digits denotes. A text with any other character
    denotes none, and neither does the empty text. -/
def natural? (text : List Char) : Option Nat :=
  if !text.isEmpty && text.all Char.isDigit then some (Nat.ofDigitChars 10 text 0) else none

/-- The number that digits after at most one sign denote. -/
def integer? : List Char → Option Int
  | '-' :: digits => (natural? digits).map fun n => -(n : Int)
  | '+' :: digits => (natural? digits).map fun n => (n : Int)
  | digits => (natural? digits).map fun n => (n : Int)

/-- The number of 32 bits that a numeral denotes, if it is in their range. -/
def int32? (text : List Char) : Option Int32 :=
  match integer? text with
  | some n =>
      if Int32.minValue.toInt ≤ n ∧ n ≤ Int32.maxValue.toInt then some (Int32.ofInt n) else none
  | none => none

/-- A number in lower-case hexadecimal, with zeros in front up to `width`
    digits; a longer number is written in full. -/
def hexadecimal (width n : Nat) : String :=
  let digits := Nat.toDigits 16 n
  String.ofList (List.replicate (width - digits.length) '0' ++ digits)

theorem toNat_of_isDigit {c : Char} (h : c.isDigit = true) : 48 ≤ c.toNat ∧ c.toNat ≤ 57 := by
  simpa [Char.isDigit, UInt32.le_iff_toNat_le] using h

/-- What is read is a run of digits, by its value. -/
theorem natural?_eq_some_iff (text : List Char) (n : Nat) :
    natural? text = some n ↔
      text ≠ [] ∧ (∀ c ∈ text, c.isDigit = true) ∧ Nat.ofDigitChars 10 text 0 = n := by
  simp only [natural?, Bool.and_eq_true, Bool.not_eq_true', List.isEmpty_eq_false_iff,
    List.all_eq_true, Option.ite_none_right_eq_some, Option.some.injEq, and_assoc]

/-- A written number reads back. -/
theorem natural?_toDigits (n : Nat) : natural? (Nat.toDigits 10 n) = some n := by
  rw [natural?_eq_some_iff]
  exact ⟨Nat.toDigits_ne_nil,
    fun c hc => Nat.isDigit_of_mem_toDigits (by decide) (by decide) hc,
    Nat.ofDigitChars_toDigits (by decide) (by decide)⟩

/-- A run of digits has no sign to lose. -/
theorem integer?_of_digits {text : List Char} (h : ∀ c ∈ text, c.isDigit = true) :
    integer? text = (natural? text).map fun n => (n : Int) := by
  unfold integer?
  split
  -- A sign in front would be a character that is no digit.
  · have := h '-' (by simp)
    simp at this
  · have := h '+' (by simp)
    simp at this
  · rfl

/-- A number written with its sign reads back. -/
theorem integer?_repr (n : Int) : integer? n.repr.toList = some n := by
  cases n with
  | ofNat m =>
      have hdigits : ∀ c ∈ Nat.toDigits 10 m, c.isDigit = true :=
        fun c hc => Nat.isDigit_of_mem_toDigits (by decide) (by decide) hc
      simp only [Int.repr, Nat.toList_repr]
      rw [integer?_of_digits hdigits, natural?_toDigits]
      rfl
  | negSucc m =>
      have htext : (Int.negSucc m).repr.toList = '-' :: Nat.toDigits 10 (m + 1) := by
        simp [Int.repr]
      rw [htext, integer?, natural?_toDigits]
      simp [Int.negSucc_eq]

/-- A number of 32 bits reads back. -/
theorem int32?_toString (n : Int32) : int32? (toString n.toInt).toList = some n := by
  -- The type keeps the number in range, so narrowing it changes nothing.
  have hlow : Int32.minValue.toInt ≤ n.toInt := Int32.minValue_le_toInt n
  have hhigh : n.toInt ≤ Int32.maxValue.toInt := Int32.toInt_le n
  rw [int32?, Int.toString_eq_repr, integer?_repr]
  simp only [hlow, hhigh, and_self, ↓reduceIte, Int32.ofInt_toInt]

example : int32? "+0007".toList = some 7 := by decide

/-- One past the range is no number of 32 bits, in either direction. -/
example : int32? "2147483648".toList = none ∧ int32? "-2147483649".toList = none := by decide

example : hexadecimal 6 11 = "00000b" ∧ hexadecimal 6 0x1000000 = "1000000" := by decide

end Numeral

end SensorConfig
