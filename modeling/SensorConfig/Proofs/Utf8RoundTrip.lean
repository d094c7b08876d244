import SensorConfig.Text.Utf8

/-!
# UTF-8 Read Back

Why decoding is the inverse of encoding, in both directions.

The automaton emits parts, and the strict reading keeps their characters if all
of them are characters. Between two bytes the automaton is in a state, so the
statement has to be about a state as well: `textFrom?` is what the bytes from a
state on read as. It obeys three equivalences, one for a state in which nothing
is pending and one each for the last and for an earlier byte of a pending
sequence, and after them neither the automaton nor its parts are opened again.

What remains is arithmetic, once for each width. The range of the second byte,
which depends on the first, is what keeps the code point of a sequence in the
range that is written with just as many bytes, and away from the surrogates.

## Main definitions

* `textFrom?`: The text of bytes from a state on.

## Theorems

* `textFrom?_pending_zero_iff`: The last byte of a sequence completes a character.
* `textFrom?_pending_succ_iff`: An earlier one leaves the others pending.
* `textFrom?_encodeChar_append`: The bytes of a character read as the character.
* `textFrom?_ready_cons`: Bytes that read as text begin with those of a character.
* `decode?_eq_some_iff`: Bytes read as a text if they are its bytes.
-/

namespace SensorConfig

namespace Utf8

/-- The text of bytes from a state on. -/
def textFrom? (state : State) (bytes : List UInt8) : Option (List Char) :=
  (partsFrom state [] bytes).mapM Part.char?

-- The parts that were read before stand in front of those that follow.
theorem partsFrom_eq_append (state : State) (read : List Part) (bytes : List UInt8) :
    partsFrom state read bytes = read.reverse ++ partsFrom state [] bytes := by
  induction bytes generalizing state read with
  | nil => rfl
  | cons byte bytes ih =>
      rw [partsFrom, partsFrom, ih, ih _ ((step state byte.toNat).2.reverse ++ [])]
      simp only [List.reverse_append, List.reverse_reverse, List.reverse_nil, List.nil_append,
        List.append_assoc]

theorem textFrom?_cons (state : State) (byte : UInt8) (bytes : List UInt8) :
    textFrom? state (byte :: bytes) =
      ((step state byte.toNat).2.mapM Part.char?).bind fun first =>
        (textFrom? (step state byte.toNat).1 bytes).map (first ++ ·) := by
  unfold textFrom?
  rw [partsFrom, partsFrom_eq_append, List.mapM_append]
  simp only [List.append_nil, List.reverse_reverse, Option.bind_eq_bind, Option.pure_def]
  cases (step state byte.toNat).2.mapM Part.char? with
  | none => rfl
  | some first =>
      cases (partsFrom (step state byte.toNat).1 [] bytes).mapM Part.char? <;> rfl

theorem textFrom?_of_char {state next : State} {byte : UInt8} {c : Char}
    (h : step state byte.toNat = (next, [.char c])) (bytes : List UInt8) :
    textFrom? state (byte :: bytes) = (textFrom? next bytes).map (c :: ·) := by
  rw [textFrom?_cons, h]
  rfl

theorem textFrom?_of_silent {state next : State} {byte : UInt8}
    (h : step state byte.toNat = (next, [])) (bytes : List UInt8) :
    textFrom? state (byte :: bytes) = textFrom? next bytes := by
  rw [textFrom?_cons, h]
  cases textFrom? next bytes <;> rfl

theorem textFrom?_of_illFormed {state next : State} {byte : UInt8} {others : List Part}
    (h : step state byte.toNat = (next, .illFormed :: others)) (bytes : List UInt8) :
    textFrom? state (byte :: bytes) = none := by
  rw [textFrom?_cons, h, List.mapM_cons]
  rfl

theorem textFrom?_ready_nil : textFrom? .ready [] = some [] := rfl

theorem textFrom?_pending_nil (more code low high : Nat) :
    textFrom? (.pending more code low high) [] = none := rfl

-- A byte outside the range ends a pending sequence, which is then ill-formed.
theorem textFrom?_pending_outside {more code low high : Nat} {byte : UInt8}
    (h : ¬ (low ≤ byte.toNat ∧ byte.toNat ≤ high)) (bytes : List UInt8) :
    textFrom? (.pending more code low high) (byte :: bytes) = none := by
  have hstep : step (.pending more code low high) byte.toNat =
      ((begin byte.toNat).1, .illFormed :: (begin byte.toNat).2) := by
    rw [step, if_neg h]
  exact textFrom?_of_illFormed hstep bytes

/-- The last byte of a pending sequence completes a character. -/
theorem textFrom?_pending_zero_iff (code low high : Nat) (bytes : List UInt8) (text : List Char) :
    textFrom? (.pending 0 code low high) bytes = some text ↔
      ∃ byte rest others, bytes = byte :: rest ∧ low ≤ byte.toNat ∧ byte.toNat ≤ high ∧
        text = Char.ofNat (code * 0x40 + (byte.toNat - 0x80)) :: others ∧
          textFrom? .ready rest = some others := by
  have hstep : ∀ byte : UInt8, low ≤ byte.toNat ∧ byte.toNat ≤ high →
      step (.pending 0 code low high) byte.toNat =
        (.ready, [.char (Char.ofNat (code * 0x40 + (byte.toNat - 0x80)))]) := by
    intro byte hrange
    rw [step, if_pos hrange]
  constructor
  · intro h
    cases bytes with
    | nil => exact absurd h (by simp [textFrom?_pending_nil])
    | cons byte rest =>
        by_cases hrange : low ≤ byte.toNat ∧ byte.toNat ≤ high
        · rw [textFrom?_of_char (hstep byte hrange), Option.map_eq_some_iff] at h
          rcases h with ⟨others, hrest, rfl⟩
          exact ⟨byte, rest, others, rfl, hrange.1, hrange.2, rfl, hrest⟩
        · rw [textFrom?_pending_outside hrange] at h
          exact absurd h (by simp only [reduceCtorEq, not_false_eq_true])
  · rintro ⟨byte, rest, others, rfl, hlow, hhigh, rfl, hrest⟩
    rw [textFrom?_of_char (hstep byte ⟨hlow, hhigh⟩), hrest, Option.map_some]

/-- An earlier byte of a pending sequence leaves the others pending. -/
theorem textFrom?_pending_succ_iff (more code low high : Nat) (bytes : List UInt8)
    (text : List Char) :
    textFrom? (.pending (more + 1) code low high) bytes = some text ↔
      ∃ byte rest, bytes = byte :: rest ∧ low ≤ byte.toNat ∧ byte.toNat ≤ high ∧
        textFrom? (.pending more (code * 0x40 + (byte.toNat - 0x80)) 0x80 0xBF) rest =
          some text := by
  have hstep : ∀ byte : UInt8, low ≤ byte.toNat ∧ byte.toNat ≤ high →
      step (.pending (more + 1) code low high) byte.toNat =
        (.pending more (code * 0x40 + (byte.toNat - 0x80)) 0x80 0xBF, []) := by
    intro byte hrange
    rw [step, if_pos hrange]
  constructor
  · intro h
    cases bytes with
    | nil => exact absurd h (by simp [textFrom?_pending_nil])
    | cons byte rest =>
        by_cases hrange : low ≤ byte.toNat ∧ byte.toNat ≤ high
        · rw [textFrom?_of_silent (hstep byte hrange)] at h
          exact ⟨byte, rest, rfl, hrange.1, hrange.2, h⟩
        · rw [textFrom?_pending_outside hrange] at h
          exact absurd h (by simp only [reduceCtorEq, not_false_eq_true])
  · rintro ⟨byte, rest, rfl, hlow, hhigh, hrest⟩
    rw [textFrom?_of_silent (hstep byte ⟨hlow, hhigh⟩), hrest]

/-- The least second byte of a sequence of three that is not overlong. -/
def lowThree (byte : Nat) : Nat := if byte = 0xE0 then 0xA0 else 0x80

/-- The greatest second byte of a sequence of three that is no surrogate. -/
def highThree (byte : Nat) : Nat := if byte = 0xED then 0x9F else 0xBF

/-- The least second byte of a sequence of four that is not overlong. -/
def lowFour (byte : Nat) : Nat := if byte = 0xF0 then 0x90 else 0x80

/-- The greatest second byte of a sequence of four in the last plane or below. -/
def highFour (byte : Nat) : Nat := if byte = 0xF4 then 0x8F else 0xBF

theorem lowThree_le_iff (byte n : Nat) :
    lowThree byte ≤ n ↔ 0x80 ≤ n ∧ (byte = 0xE0 → 0xA0 ≤ n) := by
  unfold lowThree
  split <;> omega

theorem le_highThree_iff (byte n : Nat) :
    n ≤ highThree byte ↔ n ≤ 0xBF ∧ (byte = 0xED → n ≤ 0x9F) := by
  unfold highThree
  split <;> omega

theorem lowFour_le_iff (byte n : Nat) :
    lowFour byte ≤ n ↔ 0x80 ≤ n ∧ (byte = 0xF0 → 0x90 ≤ n) := by
  unfold lowFour
  split <;> omega

theorem le_highFour_iff (byte n : Nat) :
    n ≤ highFour byte ↔ n ≤ 0xBF ∧ (byte = 0xF4 → n ≤ 0x8F) := by
  unfold highFour
  split <;> omega

theorem step_ready_one {byte : Nat} (h : byte < 0x80) :
    step .ready byte = (.ready, [.char (Char.ofNat byte)]) := by
  rw [step, begin, if_pos h]

theorem step_ready_two {byte : Nat} (hlow : 0xC2 ≤ byte) (hhigh : byte < 0xE0) :
    step .ready byte = (.pending 0 (byte - 0xC0) 0x80 0xBF, []) := by
  rw [step, begin, if_neg (by omega), if_neg (by omega), if_pos hhigh]

theorem step_ready_three {byte : Nat} (hlow : 0xE0 ≤ byte) (hhigh : byte < 0xF0) :
    step .ready byte = (.pending 1 (byte - 0xE0) (lowThree byte) (highThree byte), []) := by
  rw [step, begin, if_neg (by omega), if_neg (by omega), if_neg (by omega), lowThree, highThree]
  by_cases hfirst : byte = 0xE0
  · subst hfirst
    rfl
  · by_cases hsurrogate : byte = 0xED
    · subst hsurrogate
      rfl
    · rw [if_neg hfirst, if_neg hsurrogate, if_pos hhigh, if_neg hfirst, if_neg hsurrogate]

theorem step_ready_four {byte : Nat} (hlow : 0xF0 ≤ byte) (hhigh : byte ≤ 0xF4) :
    step .ready byte = (.pending 2 (byte - 0xF0) (lowFour byte) (highFour byte), []) := by
  rw [step, begin, if_neg (by omega), if_neg (by omega), if_neg (by omega), if_neg (by omega),
    if_neg (by omega), if_neg (by omega), lowFour, highFour]
  by_cases hfirst : byte = 0xF0
  · subst hfirst
    rfl
  · by_cases hlast : byte = 0xF4
    · subst hlast
      rfl
    · rw [if_neg hfirst, if_pos (by omega), if_neg hfirst, if_neg hlast]

-- Bytes that only continue a sequence, and those that are in none.
theorem step_ready_illFormed {byte : Nat} (h : (0x80 ≤ byte ∧ byte < 0xC2) ∨ 0xF4 < byte) :
    step .ready byte = (.ready, [.illFormed]) := by
  rw [step, begin]
  rcases h with ⟨hlow, hhigh⟩ | hbeyond
  · rw [if_neg (by omega), if_pos hhigh]
  · rw [if_neg (by omega), if_neg (by omega), if_neg (by omega), if_neg (by omega),
      if_neg (by omega), if_neg (by omega), if_neg (by omega), if_neg (by omega), if_neg (by omega)]

theorem toNat_ofNat_of_isValidChar {code : Nat} (h : code.isValidChar) :
    (Char.ofNat code).toNat = code := by
  rw [Char.ofNat, dif_pos h]
  rfl

theorem ofNat_eq_of_eq_toNat (byte : UInt8) {n : Nat} (h : n = byte.toNat) :
    UInt8.ofNat n = byte := by
  rw [h, UInt8.ofNat_toNat]

theorem encodeChar_one {c : Char} {byte : UInt8} (hbyte : byte.toNat < 0x80)
    (hc : c.toNat = byte.toNat) : encodeChar c = [byte] := by
  rw [encodeChar, if_pos (by omega), ofNat_eq_of_eq_toNat byte hc]

theorem encodeChar_two {c : Char} {byte second : UInt8}
    (hbyte : 0xC2 ≤ byte.toNat ∧ byte.toNat < 0xE0)
    (hsecond : 0x80 ≤ second.toNat ∧ second.toNat ≤ 0xBF)
    (hc : c.toNat = (byte.toNat - 0xC0) * 0x40 + (second.toNat - 0x80)) :
    encodeChar c = [byte, second] := by
  rw [encodeChar, if_neg (by omega), if_pos (by omega), ofNat_eq_of_eq_toNat byte (by omega),
    ofNat_eq_of_eq_toNat second (by omega)]

-- The least second byte of `E0` makes the code point large enough for three bytes.
theorem encodeChar_three {c : Char} {byte second third : UInt8}
    (hbyte : 0xE0 ≤ byte.toNat ∧ byte.toNat < 0xF0)
    (hlow : 0x80 ≤ second.toNat ∧ (byte.toNat = 0xE0 → 0xA0 ≤ second.toNat))
    (hhigh : second.toNat ≤ 0xBF) (hthird : 0x80 ≤ third.toNat ∧ third.toNat ≤ 0xBF)
    (hc : c.toNat = ((byte.toNat - 0xE0) * 0x40 + (second.toNat - 0x80)) * 0x40 +
      (third.toNat - 0x80)) :
    encodeChar c = [byte, second, third] := by
  rw [encodeChar, if_neg (by omega), if_neg (by omega), if_pos (by omega),
    ofNat_eq_of_eq_toNat byte (by omega), ofNat_eq_of_eq_toNat second (by omega),
    ofNat_eq_of_eq_toNat third (by omega)]

theorem encodeChar_four {c : Char} {byte second third fourth : UInt8}
    (hbyte : 0xF0 ≤ byte.toNat ∧ byte.toNat ≤ 0xF4)
    (hlow : 0x80 ≤ second.toNat ∧ (byte.toNat = 0xF0 → 0x90 ≤ second.toNat))
    (hhigh : second.toNat ≤ 0xBF) (hthird : 0x80 ≤ third.toNat ∧ third.toNat ≤ 0xBF)
    (hfourth : 0x80 ≤ fourth.toNat ∧ fourth.toNat ≤ 0xBF)
    (hc : c.toNat = (((byte.toNat - 0xF0) * 0x40 + (second.toNat - 0x80)) * 0x40 +
      (third.toNat - 0x80)) * 0x40 + (fourth.toNat - 0x80)) :
    encodeChar c = [byte, second, third, fourth] := by
  rw [encodeChar, if_neg (by omega), if_neg (by omega), if_neg (by omega),
    ofNat_eq_of_eq_toNat byte (by omega), ofNat_eq_of_eq_toNat second (by omega),
    ofNat_eq_of_eq_toNat third (by omega), ofNat_eq_of_eq_toNat fourth (by omega)]

/-- Bytes that read as text begin with those of its first character. -/
theorem textFrom?_ready_cons {byte : UInt8} {bytes : List UInt8} {text : List Char}
    (h : textFrom? .ready (byte :: bytes) = some text) :
    ∃ c rest others, byte :: bytes = encodeChar c ++ rest ∧ text = c :: others ∧
      textFrom? .ready rest = some others := by
  by_cases hone : byte.toNat < 0x80
  · rw [textFrom?_of_char (step_ready_one hone), Option.map_eq_some_iff] at h
    rcases h with ⟨others, hrest, rfl⟩
    have hvalid : byte.toNat.isValidChar := Or.inl (by omega)
    have hc := encodeChar_one hone (toNat_ofNat_of_isValidChar hvalid)
    exact ⟨_, bytes, others, by rw [hc]; rfl, rfl, hrest⟩
  by_cases hill : (0x80 ≤ byte.toNat ∧ byte.toNat < 0xC2) ∨ 0xF4 < byte.toNat
  · rw [textFrom?_of_illFormed (step_ready_illFormed hill)] at h
    exact absurd h (by simp only [reduceCtorEq, not_false_eq_true])
  by_cases htwo : byte.toNat < 0xE0
  · have hbyte : 0xC2 ≤ byte.toNat ∧ byte.toNat < 0xE0 := by omega
    rw [textFrom?_of_silent (step_ready_two hbyte.1 hbyte.2), textFrom?_pending_zero_iff] at h
    rcases h with ⟨second, rest, others, rfl, hlow, hhigh, rfl, hrest⟩
    have hvalid : ((byte.toNat - 0xC0) * 0x40 + (second.toNat - 0x80)).isValidChar :=
      Or.inl (by omega)
    have hc := encodeChar_two hbyte ⟨hlow, hhigh⟩ (toNat_ofNat_of_isValidChar hvalid)
    exact ⟨_, rest, others, by rw [hc]; rfl, rfl, hrest⟩
  by_cases hthree : byte.toNat < 0xF0
  · have hbyte : 0xE0 ≤ byte.toNat ∧ byte.toNat < 0xF0 := by omega
    rw [textFrom?_of_silent (step_ready_three hbyte.1 hbyte.2), textFrom?_pending_succ_iff] at h
    rcases h with ⟨second, after, rfl, hlow, hhigh, h⟩
    rw [textFrom?_pending_zero_iff] at h
    rcases h with ⟨third, rest, others, rfl, hlow', hhigh', rfl, hrest⟩
    rw [lowThree_le_iff] at hlow
    rw [le_highThree_iff] at hhigh
    have hvalid : (((byte.toNat - 0xE0) * 0x40 + (second.toNat - 0x80)) * 0x40 +
        (third.toNat - 0x80)).isValidChar := by
      -- Below `ED` the code point is below the surrogates, and above `ED` it is above them.
      unfold Nat.isValidChar
      omega
    have hc := encodeChar_three hbyte hlow hhigh.1 ⟨hlow', hhigh'⟩
      (toNat_ofNat_of_isValidChar hvalid)
    exact ⟨_, rest, others, by rw [hc]; rfl, rfl, hrest⟩
  · have hbyte : 0xF0 ≤ byte.toNat ∧ byte.toNat ≤ 0xF4 := by omega
    rw [textFrom?_of_silent (step_ready_four hbyte.1 hbyte.2), textFrom?_pending_succ_iff] at h
    rcases h with ⟨second, after, rfl, hlow, hhigh, h⟩
    rw [textFrom?_pending_succ_iff] at h
    rcases h with ⟨third, after, rfl, hlow', hhigh', h⟩
    rw [textFrom?_pending_zero_iff] at h
    rcases h with ⟨fourth, rest, others, rfl, hlow'', hhigh'', rfl, hrest⟩
    rw [lowFour_le_iff] at hlow
    rw [le_highFour_iff] at hhigh
    have hvalid : ((((byte.toNat - 0xF0) * 0x40 + (second.toNat - 0x80)) * 0x40 +
        (third.toNat - 0x80)) * 0x40 + (fourth.toNat - 0x80)).isValidChar := by
      unfold Nat.isValidChar
      omega
    have hc := encodeChar_four hbyte hlow hhigh.1 ⟨hlow', hhigh'⟩ ⟨hlow'', hhigh''⟩
      (toNat_ofNat_of_isValidChar hvalid)
    exact ⟨_, rest, others, by rw [hc]; rfl, rfl, hrest⟩

theorem toNat_ofNat_of_lt {n : Nat} (h : n < 0x100) : (UInt8.ofNat n).toNat = n :=
  UInt8.toNat_ofNat_of_lt' h

theorem ofNat_eq_of_eq_char (c : Char) {n : Nat} (h : n = c.toNat) : Char.ofNat n = c := by
  rw [h, Char.ofNat_toNat]

/-- The bytes of a character read as the character. -/
theorem textFrom?_encodeChar_append (c : Char) {rest : List UInt8} {others : List Char}
    (h : textFrom? .ready rest = some others) :
    textFrom? .ready (encodeChar c ++ rest) = some (c :: others) := by
  have hvalid : c.toNat < 0xD800 ∨ (0xDFFF < c.toNat ∧ c.toNat < 0x110000) := c.valid
  rw [encodeChar]
  by_cases hone : c.toNat < 0x80
  · have hbyte : (UInt8.ofNat c.toNat).toNat = c.toNat := toNat_ofNat_of_lt (by omega)
    rw [if_pos hone, List.singleton_append, textFrom?_of_char (step_ready_one (by omega)), h,
      Option.map_some, ofNat_eq_of_eq_char c hbyte]
  rw [if_neg hone]
  -- The last byte holds the six low bits, whatever the width.
  have hlast : (UInt8.ofNat (0x80 + c.toNat % 0x40)).toNat = 0x80 + c.toNat % 0x40 :=
    toNat_ofNat_of_lt (by omega)
  by_cases htwo : c.toNat < 0x800
  · have hbyte : (UInt8.ofNat (0xC0 + c.toNat / 0x40)).toNat = 0xC0 + c.toNat / 0x40 :=
      toNat_ofNat_of_lt (by omega)
    rw [if_pos htwo, List.cons_append, List.singleton_append,
      textFrom?_of_silent (step_ready_two (by omega) (by omega)), textFrom?_pending_zero_iff]
    refine ⟨_, rest, others, rfl, by omega, by omega, ?_, h⟩
    rw [ofNat_eq_of_eq_char c (by omega)]
  rw [if_neg htwo]
  have hmiddle : (UInt8.ofNat (0x80 + c.toNat / 0x40 % 0x40)).toNat =
      0x80 + c.toNat / 0x40 % 0x40 := toNat_ofNat_of_lt (by omega)
  by_cases hthree : c.toNat < 0x10000
  · have hbyte : (UInt8.ofNat (0xE0 + c.toNat / 0x1000)).toNat = 0xE0 + c.toNat / 0x1000 :=
      toNat_ofNat_of_lt (by omega)
    rw [if_pos hthree, List.cons_append, List.cons_append, List.singleton_append,
      textFrom?_of_silent (step_ready_three (by omega) (by omega)), textFrom?_pending_succ_iff]
    refine ⟨_, _, rfl, ?_, ?_, ?_⟩
    · rw [lowThree_le_iff]
      omega
    · rw [le_highThree_iff]
      omega
    · rw [textFrom?_pending_zero_iff]
      refine ⟨_, rest, others, rfl, by omega, by omega, ?_, h⟩
      rw [ofNat_eq_of_eq_char c (by omega)]
  · have hbyte : (UInt8.ofNat (0xF0 + c.toNat / 0x40000)).toNat = 0xF0 + c.toNat / 0x40000 :=
      toNat_ofNat_of_lt (by omega)
    have hsecond : (UInt8.ofNat (0x80 + c.toNat / 0x1000 % 0x40)).toNat =
        0x80 + c.toNat / 0x1000 % 0x40 := toNat_ofNat_of_lt (by omega)
    rw [if_neg hthree, List.cons_append, List.cons_append, List.cons_append, List.singleton_append,
      textFrom?_of_silent (step_ready_four (by omega) (by omega)), textFrom?_pending_succ_iff]
    refine ⟨_, _, rfl, ?_, ?_, ?_⟩
    · rw [lowFour_le_iff]
      omega
    · rw [le_highFour_iff]
      omega
    · rw [textFrom?_pending_succ_iff]
      refine ⟨_, _, rfl, by omega, by omega, ?_⟩
      rw [textFrom?_pending_zero_iff]
      refine ⟨_, rest, others, rfl, by omega, by omega, ?_, h⟩
      rw [ofNat_eq_of_eq_char c (by omega)]

theorem textFrom?_ready_eq_some_iff (bytes : List UInt8) (text : List Char) :
    textFrom? .ready bytes = some text ↔ bytes = encode text := by
  constructor
  · intro h
    induction text generalizing bytes with
    | nil =>
        cases bytes with
        | nil => rfl
        | cons byte bytes =>
            rcases textFrom?_ready_cons h with ⟨c, rest, others, _, hnil, _⟩
            exact absurd hnil.symm (List.cons_ne_nil c others)
    | cons c text ih =>
        cases bytes with
        | nil => exact absurd h (by simp [textFrom?_ready_nil])
        | cons byte bytes =>
            rcases textFrom?_ready_cons h with ⟨c', rest, others, hbytes, htext, hrest⟩
            rw [List.cons.injEq] at htext
            rcases htext with ⟨rfl, rfl⟩
            rw [hbytes, encode_cons, ih rest hrest]
  · rintro rfl
    induction text with
    | nil => rfl
    | cons c text ih =>
        rw [encode_cons]
        exact textFrom?_encodeChar_append c ih

/-- Bytes read as a text if they are its bytes, and else they read as none. -/
theorem decode?_eq_some_iff (bytes : List UInt8) (text : List Char) :
    decode? bytes = some text ↔ bytes = encode text :=
  textFrom?_ready_eq_some_iff bytes text

end Utf8

end SensorConfig
