import Mathlib.Algebra.Group.Nat.Defs
import SensorConfig.Proofs.PrintedPrograms

/-!
# Values of Integer Variables

Which number an integer variable is set to, and when it is set to none.

A numeral is read digit by digit, and what a digit is worth is known only at the
end. Its meaning is therefore said apart from the reading, by the places of its
digits. `placeValue` knows nothing of how far a reader has come, so it makes no
difference to it how many zeros stand in front and how large the number is. The
range of 32 bits is a second question, asked of the number and not of its digits,
and the limit of the slot is a third. A number between the second and the third is
the only one that is out of range. All other texts, a number too large for 32 bits
among them, are no integers.

A value in the line and a value in a file differ in the text that is looked at and
in nothing else. `ReadsInteger` is said of a text, so one proof covers both, and
what is left is that a file of bytes has a text at all.

The last step is the bytes of the record. They stand for the remainder of the
number by the 32nd power of two, and that is what two's complement means.

## Main definitions

* `Numeral.placeValue`: The number that digits stand for, by their places.
* `Numeral.Denotes`: A numeral and its number.
* `Registry.Within`: A slot accepts a number.
* `Setting.ReadsInteger`: What comes of a text as the value of an integer variable.

## Theorems

* `Numeral.ofDigitChars_eq`: Reading digits gives their places.
* `Numeral.integer?_eq_some_iff`: Numerals are read, and nothing else.
* `Numeral.integer?_zeros`: Zeros in front change nothing.
* `Numeral.int32?_eq_some_iff`: Numbers of 32 bits are kept as they are.
* `Setting.ofInteger_cases`: What becomes of an operand.
* `Setting.readsInteger_ofInteger`: One proof for both places of a value.
* `Setting.exists_record_integer`: The bytes of an integer.
* `Program.eq_of_getElem?_settings`: Where the record of a setting stands.
* `Setting.ofLine_integer`: What a line sets an integer variable to.
-/

namespace SensorConfig

namespace Numeral

/-- One or more decimal digits. -/
structure Digits (text : List Char) : Prop where
  nonempty : text ≠ []
  digits : ∀ c ∈ text, c.isDigit = true

instance (text : List Char) : Decidable (Digits text) :=
  decidable_of_iff (text ≠ [] ∧ text.all Char.isDigit = true)
    ⟨fun h => ⟨h.1, List.all_eq_true.1 h.2⟩, fun h => ⟨h.nonempty, List.all_eq_true.2 h.digits⟩⟩

/-- The number that digits stand for: each is worth ten times as much for every
    digit behind it. -/
def placeValue : List Char → Nat
  | [] => 0
  | c :: digits => (c.toNat - '0'.toNat) * 10 ^ digits.length + placeValue digits

/-- A numeral and the number that it denotes: digits after at most one sign. -/
inductive Denotes : List Char → Int → Prop where
  | unsigned {digits : List Char} (h : Digits digits) : Denotes digits (placeValue digits)
  | plus {digits : List Char} (h : Digits digits) : Denotes ('+' :: digits) (placeValue digits)
  | minus {digits : List Char} (h : Digits digits) :
      Denotes ('-' :: digits) (-(placeValue digits : Int))

/-- A number in the range of 32 bits. -/
def IsInt32 (n : Int) : Prop :=
  -2147483648 ≤ n ∧ n ≤ 2147483647

instance : DecidablePred IsInt32 :=
  fun n => inferInstanceAs (Decidable (-2147483648 ≤ n ∧ n ≤ 2147483647))

/-- Reading digits gives their places, on top of what was read before them. -/
theorem ofDigitChars_eq (digits : List Char) (n : Nat) :
    Nat.ofDigitChars 10 digits n = n * 10 ^ digits.length + placeValue digits := by
  induction digits generalizing n with
  | nil =>
      rw [Nat.ofDigitChars_nil, placeValue, List.length_nil, Nat.pow_zero, Nat.mul_one,
        Nat.add_zero]
  | cons c digits ih =>
      rw [Nat.ofDigitChars_cons, ih, placeValue, List.length_cons, Nat.pow_succ', Nat.add_mul,
        Nat.add_assoc, Nat.mul_comm 10 n, Nat.mul_assoc]

theorem natural?_eq_some_iff_digits (text : List Char) (n : Nat) :
    natural? text = some n ↔ Digits text ∧ placeValue text = n := by
  rw [natural?_eq_some_iff, ofDigitChars_eq, Nat.zero_mul, Nat.zero_add, ← and_assoc]
  exact and_congr_left fun _ => ⟨fun h => ⟨h.1, h.2⟩, fun h => ⟨h.nonempty, h.digits⟩⟩

/-- Numerals are read, each as the number that it denotes, and nothing else is. -/
theorem integer?_eq_some_iff (text : List Char) (n : Int) :
    integer? text = some n ↔ Denotes text n := by
  constructor
  · intro h
    unfold integer? at h
    split at h
    all_goals
      simp only [Option.map_eq_some_iff, Option.bind_eq_bind, Option.bind_eq_some_iff,
        Option.pure_def, Option.some.injEq, natural?_eq_some_iff_digits] at h
      rcases h with ⟨_, ⟨_, ⟨hdigits, rfl⟩, rfl⟩, rfl⟩
    · exact .minus hdigits
    · exact .plus hdigits
    · exact .unsigned hdigits
  · have hread : ∀ {digits : List Char}, Digits digits →
        natural? digits = some (placeValue digits) :=
      fun hdigits => (natural?_eq_some_iff_digits _ _).2 ⟨hdigits, rfl⟩
    intro h
    cases h with
    | unsigned hdigits => rw [integer?_of_digits hdigits.digits, hread hdigits]; rfl
    | plus hdigits => rw [integer?, hread hdigits]; rfl
    | minus hdigits => rw [integer?, hread hdigits]; rfl

/-- A numeral denotes one number. -/
theorem Denotes.unique {text : List Char} {n m : Int} (hn : Denotes text n) (hm : Denotes text m) :
    n = m := by
  rw [← integer?_eq_some_iff] at hn hm
  rw [hn] at hm
  exact Option.some.inj hm

theorem placeValue_zeros (count : Nat) (digits : List Char) :
    placeValue (List.replicate count '0' ++ digits) = placeValue digits := by
  induction count with
  | zero => rfl
  | succ count ih =>
      rw [List.replicate_succ, List.cons_append, placeValue, ih, Nat.sub_self, Nat.zero_mul,
        Nat.zero_add]

theorem Digits.zeros {digits : List Char} (h : Digits digits) (count : Nat) :
    Digits (List.replicate count '0' ++ digits) := by
  refine ⟨List.append_ne_nil_of_right_ne_nil _ h.nonempty, fun c hc => ?_⟩
  rcases List.mem_append.1 hc with hzero | hdigit
  · rw [List.eq_of_mem_replicate hzero]
    decide
  · exact h.digits c hdigit

/-- Zeros behind the sign do not change what is read. -/
theorem integer?_zeros {sign digits : List Char} (hsign : sign = [] ∨ sign = ['+'] ∨ sign = ['-'])
    (h : Digits digits) (count : Nat) :
    integer? (sign ++ (List.replicate count '0' ++ digits)) = integer? (sign ++ digits) := by
  have hread : natural? (List.replicate count '0' ++ digits) = natural? digits := by
    rw [(natural?_eq_some_iff_digits _ _).2 ⟨h.zeros count, rfl⟩,
      (natural?_eq_some_iff_digits _ _).2 ⟨h, rfl⟩, placeValue_zeros]
  rcases hsign with rfl | rfl | rfl
  · rw [List.nil_append, List.nil_append, integer?_of_digits (h.zeros count).digits,
      integer?_of_digits h.digits, hread]
  · rw [List.singleton_append, List.singleton_append, integer?, integer?, hread]
  · rw [List.singleton_append, List.singleton_append, integer?, integer?, hread]

theorem isInt32_toInt (value : Int32) : IsInt32 value.toInt :=
  ⟨Int32.minValue_le_toInt value, Int32.toInt_le value⟩

/-- A number of 32 bits is one in their range. -/
theorem exists_int32_iff {p : Int → Prop} :
    (∃ value : Int32, p value.toInt) ↔ ∃ n, p n ∧ IsInt32 n := by
  constructor
  · rintro ⟨value, h⟩
    exact ⟨value.toInt, h, isInt32_toInt value⟩
  · rintro ⟨n, h, hlow, hhigh⟩
    rw [← Int32.toInt_ofInt_of_le hlow (Int.lt_add_one_of_le hhigh)] at h
    exact ⟨Int32.ofInt n, h⟩

/-- A number of 32 bits is kept as it is. -/
theorem int32?_eq_some_iff (text : List Char) (value : Int32) :
    int32? text = some value ↔ Denotes text value.toInt := by
  have hends : Int32.minValue.toInt = -2147483648 ∧ Int32.maxValue.toInt = 2147483647 := by decide
  rw [← integer?_eq_some_iff, int32?, hends.1, hends.2]
  cases integer? text with
  | none => simp only [reduceCtorEq]
  | some n =>
      simp only [Option.ite_none_right_eq_some, Option.some.injEq]
      constructor
      · rintro ⟨⟨hlow, hhigh⟩, rfl⟩
        exact (Int32.toInt_ofInt_of_le hlow (Int.lt_add_one_of_le hhigh)).symm
      · rintro rfl
        exact ⟨isInt32_toInt value, Int32.ofInt_toInt value⟩

/-- No other text is read as a number of 32 bits. -/
theorem int32?_eq_none_iff (text : List Char) :
    int32? text = none ↔ ¬ ∃ n, Denotes text n ∧ IsInt32 n := by
  rw [Option.eq_none_iff_forall_ne_some, ← exists_int32_iff, not_exists]
  exact forall_congr' fun value => not_congr (int32?_eq_some_iff text value)

end Numeral

/-- A slot accepts a number: the number is within the limit of the slot, if it has
    one. -/
def Registry.Within (registry : Registry) (slot : UInt8) (n : Int) : Prop :=
  ∀ limit, registry.limit? slot = some limit → limit.min.toInt ≤ n ∧ n ≤ limit.max.toInt

theorem Limit.admits_eq_true_iff (limit : Limit) (value : Int32) :
    limit.admits value = true ↔
      limit.min.toInt ≤ value.toInt ∧ value.toInt ≤ limit.max.toInt := by
  rw [admits, Bool.and_eq_true, decide_eq_true_eq, decide_eq_true_eq, Int32.le_iff_toInt_le,
    Int32.le_iff_toInt_le]

namespace Setting

/-- What comes of a text as the value of an integer variable, on a line of a number:
    the setting of the number that it denotes, a fault that names this number and
    the limit, or a fault that shows the value. -/
structure ReadsInteger (registry : Registry) (v : Variable) (line : Nat) (text : List Char)
    (shown : String) (result : Except Fault Setting) : Prop where
  accepted : ∀ n : Int,
    (∃ value : Int32, value.toInt = n ∧ result = .ok (.integer v.slot value)) ↔
      Numeral.Denotes text n ∧ Numeral.IsInt32 n ∧ registry.Within v.slot n
  refused : ∀ (n : Int) (min max : Int32),
    (∃ value : Int32, value.toInt = n ∧
        result = .error (.outOfRange line v.name value min max)) ↔
      Numeral.Denotes text n ∧ Numeral.IsInt32 n ∧
        ∃ limit, registry.limit? v.slot = some limit ∧ limit.min = min ∧ limit.max = max ∧
          ¬ (min.toInt ≤ n ∧ n ≤ max.toInt)
  otherwise : result = .error (.notInteger line shown) ↔
    ¬ ∃ n, Numeral.Denotes text n ∧ Numeral.IsInt32 n

section

variable {registry : Registry} {v : Variable} {line : Nat} {text : List Char} {shown : String}

/-- The three cases exclude each other, so each of them settles the other two. -/
theorem readsInteger_of_accepted {value : Int32} (h : Numeral.Denotes text value.toInt)
    (hwithin : registry.Within v.slot value.toInt) :
    ReadsInteger registry v line text shown (.ok (.integer v.slot value)) where
  accepted n := by
    constructor
    · rintro ⟨other, rfl, heq⟩
      rw [Except.ok.injEq, integer.injEq] at heq
      rw [← heq.2]
      exact ⟨h, Numeral.isInt32_toInt value, hwithin⟩
    · rintro ⟨hdenotes, _, _⟩
      exact ⟨value, h.unique hdenotes, rfl⟩
  refused n min max := by
    constructor
    · rintro ⟨other, _, heq⟩
      exact absurd heq (by simp only [reduceCtorEq, not_false_eq_true])
    · rintro ⟨hdenotes, _, limit, hlimit, rfl, rfl, houtside⟩
      rw [hdenotes.unique h] at houtside
      exact absurd (hwithin limit hlimit) houtside
  otherwise := by
    constructor
    · intro heq
      exact absurd heq (by simp only [reduceCtorEq, not_false_eq_true])
    · exact fun hnone => absurd ⟨value.toInt, h, Numeral.isInt32_toInt value⟩ hnone

theorem readsInteger_of_refused {value : Int32} (h : Numeral.Denotes text value.toInt)
    {limit : Limit} (hlimit : registry.limit? v.slot = some limit)
    (houtside : ¬ (limit.min.toInt ≤ value.toInt ∧ value.toInt ≤ limit.max.toInt)) :
    ReadsInteger registry v line text shown
      (.error (.outOfRange line v.name value limit.min limit.max)) where
  accepted n := by
    constructor
    · rintro ⟨other, _, heq⟩
      exact absurd heq (by simp only [reduceCtorEq, not_false_eq_true])
    · rintro ⟨hdenotes, _, hwithin⟩
      rw [hdenotes.unique h] at hwithin
      exact absurd (hwithin limit hlimit) houtside
  refused n min max := by
    constructor
    · rintro ⟨other, rfl, heq⟩
      rw [Except.error.injEq, Fault.outOfRange.injEq] at heq
      rcases heq with ⟨_, _, rfl, rfl, rfl⟩
      exact ⟨h, Numeral.isInt32_toInt value, limit, hlimit, rfl, rfl, houtside⟩
    · rintro ⟨hdenotes, _, other, hother, rfl, rfl, _⟩
      rw [hlimit, Option.some.injEq] at hother
      rw [hother]
      exact ⟨value, h.unique hdenotes, rfl⟩
  otherwise := by
    constructor
    · intro heq
      exact absurd heq (by simp only [Except.error.injEq, reduceCtorEq, not_false_eq_true])
    · exact fun hnone => absurd ⟨value.toInt, h, Numeral.isInt32_toInt value⟩ hnone

theorem readsInteger_of_notInteger (h : ¬ ∃ n, Numeral.Denotes text n ∧ Numeral.IsInt32 n) :
    ReadsInteger registry v line text shown (.error (.notInteger line shown)) where
  accepted n := by
    constructor
    · rintro ⟨other, _, heq⟩
      exact absurd heq (by simp only [reduceCtorEq, not_false_eq_true])
    · exact fun hread => absurd ⟨n, hread.1, hread.2.1⟩ h
  refused n min max := by
    constructor
    · rintro ⟨other, _, heq⟩
      exact absurd heq (by simp only [Except.error.injEq, reduceCtorEq, not_false_eq_true])
    · exact fun hread => absurd ⟨n, hread.1, hread.2.1⟩ h
  otherwise := ⟨fun _ => h, fun _ => rfl⟩

/-- What becomes of an operand: it is no number of 32 bits, or the number is within
    the limit or outside it. -/
theorem ofInteger_cases (registry : Registry) (v : Variable) (line : Nat) (operand : Operand) :
    (operand.integer? = none ∧
      ofInteger registry v line operand = .error (.notInteger line operand.shown)) ∨
    ∃ value, operand.integer? = some value ∧
      ((registry.Within v.slot value.toInt ∧
          ofInteger registry v line operand = .ok (.integer v.slot value)) ∨
        ∃ limit, registry.limit? v.slot = some limit ∧
          ¬ (limit.min.toInt ≤ value.toInt ∧ value.toInt ≤ limit.max.toInt) ∧
          ofInteger registry v line operand =
            .error (.outOfRange line v.name value limit.min limit.max)) := by
  unfold ofInteger
  cases hread : operand.integer? with
  | none => exact Or.inl ⟨rfl, rfl⟩
  | some value =>
      refine Or.inr ⟨value, rfl, ?_⟩
      cases hlimit : registry.limit? v.slot with
      | none =>
          refine Or.inl ⟨fun limit hsome => ?_, rfl⟩
          cases hlimit.symm.trans hsome
      | some limit =>
          by_cases hadmits : limit.admits value = true
          · refine Or.inl ⟨fun other hsome => ?_, if_pos hadmits⟩
            cases hlimit.symm.trans hsome
            exact (limit.admits_eq_true_iff value).1 hadmits
          · exact Or.inr ⟨limit, rfl, mt (limit.admits_eq_true_iff value).2 hadmits,
              if_neg hadmits⟩

/-- An operand that is read by a text comes out as the text does. -/
theorem readsInteger_ofInteger {operand : Operand}
    (hinteger : operand.integer? = Numeral.int32? text) :
    ReadsInteger registry v line text operand.shown (ofInteger registry v line operand) := by
  rcases ofInteger_cases registry v line operand with ⟨hread, hresult⟩ | ⟨value, hread, hlimit⟩
  · rw [hresult]
    exact readsInteger_of_notInteger ((Numeral.int32?_eq_none_iff text).1 (hinteger ▸ hread))
  · have hdenotes := (Numeral.int32?_eq_some_iff text value).1 (hinteger ▸ hread)
    rcases hlimit with ⟨hwithin, hresult⟩ | ⟨limit, hlimit, houtside, hresult⟩
    · rw [hresult]
      exact readsInteger_of_accepted hdenotes hwithin
    · rw [hresult]
      exact readsInteger_of_refused hdenotes hlimit houtside

end

/-- A file is read by the text that its bytes are, without the blanks around it. -/
theorem readsInteger_file {registry : Registry} {v : Variable} {line : Nat} (path : String)
    {bytes : List UInt8} {text : List Char} (h : bytes = Utf8.encode text) :
    ReadsInteger registry v line (Text.trim text) (String.ofList (Text.trim text))
      (ofInteger registry v line (.file path bytes)) := by
  have hdecode := (Utf8.decode?_eq_some_iff bytes text).2 h
  have hshown : (Operand.file path bytes).shown = String.ofList (Text.trim text) := by
    rw [Operand.shown, Utf8.decodeLossy_of_decode? hdecode]
  rw [← hshown]
  refine readsInteger_ofInteger ?_
  rw [Operand.integer?, hdecode, Option.bind_some]

/-- Bytes that are no text are no integer. -/
theorem ofInteger_file_of_noText {registry : Registry} {v : Variable} {line : Nat} (path : String)
    {bytes : List UInt8} (h : ∀ text, bytes ≠ Utf8.encode text) :
    ofInteger registry v line (.file path bytes) =
      .error (.notInteger line (String.ofList (Text.trim (Utf8.decodeLossy bytes)))) := by
  have hdecode : Utf8.decode? bytes = none :=
    Option.eq_none_iff_forall_ne_some.2 fun text htext =>
      h text ((Utf8.decode?_eq_some_iff bytes text).1 htext)
  rw [ofInteger, Operand.integer?, hdecode]
  rfl

/-- The bytes of an integer are its two's complement, the lowest first. -/
theorem exists_record_integer (slot : UInt8) (value : Int32) :
    ∃ b₀ b₁ b₂ b₃ : UInt8, (integer slot value).record = [3, slot, b₀, b₁, b₂, b₃] ∧
      (b₀.toNat : Int) + 256 * b₁.toNat + 65536 * b₂.toNat + 16777216 * b₃.toNat =
        value.toInt % 4294967296 := by
  have hlt : value.toUInt32.toNat < 4294967296 := value.toUInt32.toNat_lt
  have hmod : value.toInt % 4294967296 = value.toUInt32.toNat := by
    rw [← Int32.toInt_toBitVec, BitVec.toInt_eq_toNat_cond, Int32.toNat_toBitVec]
    split <;> omega
  have hfits : value.toUInt32.toNat < LittleEndian.capacity 4 := hlt
  have hvalue := LittleEndian.value_write hfits
  refine ⟨_, _, _, _, rfl, ?_⟩
  simp only [LittleEndian.write, LittleEndian.value] at hvalue
  rw [hmod]
  omega

end Setting

/-- The record of a setting stands behind that of the start and those of the settings
    in front of it. -/
theorem Program.eq_of_getElem?_settings {program : Program} {bytes : List UInt8} {k : Nat}
    {setting : Setting} (h : program.encode = .ok bytes)
    (hk : program.settings[k]? = some setting) :
    bytes = (program.records.take (k + 1)).flatten ++
      (setting.record ++ (program.records.drop (k + 2)).flatten) := by
  rw [← ((encode_eq_ok_iff program bytes).1 h).2, flatten_of_getElem? (getElem?_records_succ hk)]

namespace Setting

/-- What a set line sets an integer variable to. A value in the line is read as it
    stands. One in a file is read without the blanks around it, and a file that is
    no text sets nothing. Zeros in front of the digits make no difference. The
    bytes of the record are the number in two's complement. -/
theorem ofLine_integer (registry : Registry) (environment : Environment) (line : Line) :
    (∀ (set : SetLine) (v : Variable), SetLine.read? line.text = some set →
      registry.lookup? (String.ofList set.name) = some v → v.kind = .integer →
      (∀ text, WrittenValue.read? set.value = some ⟨false, text⟩ →
        ReadsInteger registry v line.number text (String.ofList text)
          (ofLine registry environment line)) ∧
      (∀ name path bytes, WrittenValue.read? set.value = some ⟨true, name⟩ → name ≠ [] →
        Path.expandTilde environment.home name = some path →
        environment.files path = .ok (.finite bytes) → bytes.length ≤ 65535 →
        (∀ text, bytes = Utf8.encode text →
          ReadsInteger registry v line.number (Text.trim text) (String.ofList (Text.trim text))
            (ofLine registry environment line)) ∧
        ((∀ text, bytes ≠ Utf8.encode text) →
          ofLine registry environment line = .error (.notInteger line.number
            (String.ofList (Text.trim (Utf8.decodeLossy bytes))))))) ∧
    (∀ (sign digits : List Char) (count : Nat) (n : Int),
      sign = [] ∨ sign = ['+'] ∨ sign = ['-'] → Numeral.Digits digits →
      (Numeral.Denotes (sign ++ (List.replicate count '0' ++ digits)) n ↔
        Numeral.Denotes (sign ++ digits) n)) ∧
    (∀ (program : Program) (bytes : List UInt8) (k : Nat) (slot : UInt8) (value : Int32),
      program.encode = .ok bytes → program.settings[k]? = some (.integer slot value) →
      ∃ b₀ b₁ b₂ b₃ : UInt8,
        bytes = (program.records.take (k + 1)).flatten ++
          ([3, slot, b₀, b₁, b₂, b₃] ++ (program.records.drop (k + 2)).flatten) ∧
        (b₀.toNat : Int) + 256 * b₁.toNat + 65536 * b₂.toNat + 16777216 * b₃.toNat =
          value.toInt % 4294967296) := by
  refine ⟨fun set v hset hv hkind => ?_, fun sign digits count n hsign hdigits => ?_,
    fun program bytes k slot value hbytes hk => ?_⟩
  · have hline : ∀ operand : Operand,
        Operand.resolve environment v line.number set.value = .ok operand →
        ofLine registry environment line = ofInteger registry v line.number operand := by
      intro operand hoperand
      simp only [ofLine_of_read? hset, ofSetLine, hv, hoperand, ofOperand, hkind]
    refine ⟨fun text hvalue => ?_, fun name path bytes hvalue hname hpath hfile hlength => ?_⟩
    · rw [hline (.inline text) (by rw [Operand.resolve, hvalue])]
      exact readsInteger_ofInteger (by rw [Operand.integer?])
    · have hoperand : Operand.resolve environment v line.number set.value =
          .ok (.file path bytes) := by
        rw [Operand.resolve, hvalue]
        exact readFile_of_files hname hpath hfile hlength
      rw [hline _ hoperand]
      exact ⟨fun text => readsInteger_file path, ofInteger_file_of_noText path⟩
  · rw [← Numeral.integer?_eq_some_iff, ← Numeral.integer?_eq_some_iff,
      Numeral.integer?_zeros hsign hdigits]
  · rcases exists_record_integer slot value with ⟨b₀, b₁, b₂, b₃, hrecord, hvalue⟩
    refine ⟨b₀, b₁, b₂, b₃, ?_, hvalue⟩
    rw [← hrecord]
    exact Program.eq_of_getElem?_settings hbytes hk

/-- The lowest number of 32 bits is out of range, the one below it is no integer, and
    a number in a file is read without the blanks around it. -/
theorem ofLine_integer_lowest :
    ofLine .snappySense ⟨none, fun _ => .error .notFound⟩ ⟨"set enabled -02147483648".toList, 3⟩ =
      .error (.outOfRange 3 "enabled" (-2147483648) 0 1) ∧
    ofLine .snappySense ⟨none, fun _ => .error .notFound⟩ ⟨"set enabled -2147483649".toList, 3⟩ =
      .error (.notInteger 3 "-2147483649") ∧
    ofLine .snappySense ⟨none, fun _ => .ok (.finite [0x20, 0x2B, 0x31, 0x0A])⟩
      ⟨"set enabled @switch".toList, 3⟩ = .ok (.integer 0 1) := by
  have hdigits : Numeral.Digits "2147483649".toList := by decide
  have hzero : Numeral.Digits "02147483648".toList := by decide
  have hone : Numeral.Digits "1".toList := by decide
  refine ⟨?_, ?_, ?_⟩
  · have hread := ((ofLine_integer .snappySense ⟨none, fun _ => .error .notFound⟩
      ⟨"set enabled -02147483648".toList, 3⟩).1 ⟨"enabled".toList, "-02147483648".toList⟩
      ⟨"enabled", .integer, 0⟩ (by decide) (by decide) rfl).1 "-02147483648".toList (by decide)
    rcases (hread.refused (-2147483648) 0 1).2 ⟨.minus hzero, by decide,
      ⟨0, 0, 1⟩, by decide, rfl, rfl, by decide⟩ with ⟨value, hvalue, hresult⟩
    rw [hresult, ← Int32.toInt_inj.1 (hvalue.trans (by decide : _ = (-2147483648 : Int32).toInt))]
  · have hread := ((ofLine_integer .snappySense ⟨none, fun _ => .error .notFound⟩
      ⟨"set enabled -2147483649".toList, 3⟩).1 ⟨"enabled".toList, "-2147483649".toList⟩
      ⟨"enabled", .integer, 0⟩ (by decide) (by decide) rfl).1 "-2147483649".toList (by decide)
    refine hread.otherwise.2 ?_
    rintro ⟨n, hdenotes, hrange⟩
    rw [hdenotes.unique (.minus hdigits)] at hrange
    exact absurd hrange.1 (by decide)
  · have hread := (((ofLine_integer .snappySense
      ⟨none, fun _ => .ok (.finite [0x20, 0x2B, 0x31, 0x0A])⟩
      ⟨"set enabled @switch".toList, 3⟩).1 ⟨"enabled".toList, "@switch".toList⟩
      ⟨"enabled", .integer, 0⟩ (by decide) (by decide) rfl).2 "switch".toList "switch"
      [0x20, 0x2B, 0x31, 0x0A] (by decide) (by decide) (by decide) rfl (by decide)).1
      " +1\n".toList (by decide)
    have hwithin : Registry.snappySense.Within 0 1 := by
      intro limit hlimit
      have hswitch : Registry.snappySense.limit? 0 = some ⟨0, 0, 1⟩ := by decide
      rw [hswitch, Option.some.injEq] at hlimit
      rw [← hlimit]
      decide
    rcases (hread.accepted 1).2 ⟨.plus hone, by decide, hwithin⟩ with
      ⟨value, hvalue, hresult⟩
    rw [hresult, Int32.toInt_inj.1 (hvalue.trans (by decide : _ = (1 : Int32).toInt))]

end Setting

end SensorConfig
