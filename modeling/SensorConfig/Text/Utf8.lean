/-!
# UTF-8

Bytes as text and text as bytes.

Payloads are bytes and configuration lines are text, so every inline value is
encoded once, and every file that has to be text is decoded once. A file that
should hold an integer and does not is shown in a diagnostic whatever its bytes
are. That display needs a reading of ill-formed bytes as well: each maximal
part that no well-formed sequence could continue becomes one replacement
character.

Both readings come from one automaton. It reads a byte at a time and emits a
`Part`, which is a character or the mark of ill-formed bytes. A byte that
does not continue the pending sequence ends it, and is then read again as the
first of a new one. Strict decoding is the case where no mark occurs.

Which bytes may follow a leading byte is where overlong forms, surrogates and
code points past the last plane are excluded: the range of the second byte
depends on the first, and every later byte ranges over `80` to `BF`.

## Main definitions

* `encodeChar`, `encode`: The bytes of a character and of a text.
* `State`: What the automaton knows between two bytes.
* `parts`: The characters and ill-formed parts of a byte string.
* `decode?`: The text of a well-formed byte string.
* `decodeLossy`: The text of any byte string, with replacement characters.

## Theorems

* `decodeLossy_of_decode?`: On well-formed bytes the two readings agree.
-/

namespace SensorConfig

namespace Utf8

/-- The bytes of one character: one below `80`, two below `800`, three in the
    rest of the first plane, four above it. -/
def encodeChar (c : Char) : List UInt8 :=
  let code := c.toNat
  if code < 0x80 then
    [UInt8.ofNat code]
  else if code < 0x800 then
    [UInt8.ofNat (0xC0 + code / 0x40), UInt8.ofNat (0x80 + code % 0x40)]
  else if code < 0x10000 then
    [UInt8.ofNat (0xE0 + code / 0x1000), UInt8.ofNat (0x80 + code / 0x40 % 0x40),
      UInt8.ofNat (0x80 + code % 0x40)]
  else
    [UInt8.ofNat (0xF0 + code / 0x40000), UInt8.ofNat (0x80 + code / 0x1000 % 0x40),
      UInt8.ofNat (0x80 + code / 0x40 % 0x40), UInt8.ofNat (0x80 + code % 0x40)]

/-- The bytes of a text. -/
def encode (text : List Char) : List UInt8 :=
  text.flatMap encodeChar

/-- What a byte string is made of: characters, and parts that are none. -/
inductive Part where
  | char (c : Char)
  | illFormed
  deriving DecidableEq, Repr

/-- What is known between two bytes. In `pending more code low high` a sequence
    has begun: `more + 1` bytes are missing, `code` is the value so far, and
    the next byte has to lie between `low` and `high`. -/
inductive State where
  | ready
  | pending (more : Nat) (code : Nat) (low high : Nat)
  deriving DecidableEq, Repr

/-- Read a byte where a sequence may begin. -/
def begin (byte : Nat) : State × List Part :=
  if byte < 0x80 then (.ready, [.char (Char.ofNat byte)])
  -- Bytes below `C0` only continue; the two after them could only begin overlong forms.
  else if byte < 0xC2 then (.ready, [.illFormed])
  else if byte < 0xE0 then (.pending 0 (byte - 0xC0) 0x80 0xBF, [])
  -- A second byte below `A0` would make the form overlong.
  else if byte = 0xE0 then (.pending 1 0 0xA0 0xBF, [])
  -- A second byte above `9F` would make a surrogate.
  else if byte = 0xED then (.pending 1 0xD 0x80 0x9F, [])
  else if byte < 0xF0 then (.pending 1 (byte - 0xE0) 0x80 0xBF, [])
  -- A second byte below `90` would make the form overlong.
  else if byte = 0xF0 then (.pending 2 0 0x90 0xBF, [])
  else if byte < 0xF4 then (.pending 2 (byte - 0xF0) 0x80 0xBF, [])
  -- A second byte above `8F` would leave the last plane.
  else if byte = 0xF4 then (.pending 2 4 0x80 0x8F, [])
  else (.ready, [.illFormed])

/-- Read one byte. A byte outside the range of a pending sequence ends it as
    ill-formed and begins anew. -/
def step : State → Nat → State × List Part
  | .ready, byte => begin byte
  | .pending more code low high, byte =>
      if low ≤ byte ∧ byte ≤ high then
        let code := code * 0x40 + (byte - 0x80)
        match more with
        | 0 => (.ready, [.char (Char.ofNat code)])
        | more + 1 => (.pending more code 0x80 0xBF, [])
      else
        ((begin byte).1, .illFormed :: (begin byte).2)

/-- A sequence still pending where the bytes end is ill-formed. -/
def finish : State → List Part
  | .ready => []
  | .pending .. => [.illFormed]

/-- The parts from a state on, after those already `read`, which stand in
    reverse. -/
def partsFrom (state : State) (read : List Part) : List UInt8 → List Part
  | [] => read.reverse ++ finish state
  | byte :: bytes =>
      let next := step state byte.toNat
      partsFrom next.1 (next.2.reverse ++ read) bytes

/-- The characters and ill-formed parts of a byte string, in order. -/
def parts (bytes : List UInt8) : List Part :=
  partsFrom .ready [] bytes

/-- The character of a part that is one. -/
def Part.char? : Part → Option Char
  | .char c => some c
  | .illFormed => none

/-- How a part is shown: an ill-formed part as the replacement character. -/
def Part.shown : Part → Char
  | .char c => c
  | .illFormed => '\uFFFD'

/-- The text of a well-formed byte string. -/
def decode? (bytes : List UInt8) : Option (List Char) :=
  (parts bytes).mapM Part.char?

/-- The text of any byte string, with one replacement character for every
    maximal ill-formed part. -/
def decodeLossy (bytes : List UInt8) : List Char :=
  (parts bytes).map Part.shown

@[simp]
theorem encode_nil : encode [] = [] := rfl

@[simp]
theorem encode_cons (c : Char) (text : List Char) :
    encode (c :: text) = encodeChar c ++ encode text := by
  simp only [encode, List.flatMap_cons]

/-- On well-formed bytes the strict and the lossy reading agree. -/
theorem decodeLossy_of_decode? {bytes : List UInt8} {text : List Char}
    (h : decode? bytes = some text) : decodeLossy bytes = text := by
  rw [decode?] at h
  rw [decodeLossy]
  generalize parts bytes = ps at h ⊢
  induction ps generalizing text with
  | nil =>
      simp only [List.mapM_nil, Option.pure_def, Option.some.injEq] at h
      rw [← h, List.map_nil]
  | cons p ps ih =>
      cases p with
      -- A mark among the parts leaves the strict reading without a text.
      | illFormed => simp [List.mapM_cons, Part.char?] at h
      | char c =>
          simp only [List.mapM_cons, Part.char?, Option.pure_def, Option.bind_eq_bind,
            Option.bind_some, Option.bind_eq_some_iff, Option.some.injEq] at h
          rcases h with ⟨rest, hrest, rfl⟩
          rw [List.map_cons, ih hrest]
          rfl

/-- The second byte of a surrogate's form is already out of range, so the three
    bytes are three ill-formed parts. -/
example : parts [0xED, 0xA0, 0x80] = [.illFormed, .illFormed, .illFormed] := by decide

/-- A sequence that breaks off is one ill-formed part, however long it was. -/
example : decodeLossy [0xF0, 0x9F, 0x98, 0x41] = ['\uFFFD', 'A'] := by decide

example : decode? (encode ['a', 'é', '世', '😀']) = some ['a', 'é', '世', '😀'] := by decide

end Utf8

end SensorConfig
