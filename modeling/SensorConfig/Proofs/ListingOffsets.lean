import SensorConfig.Listing
import SensorConfig.Proofs.PrintedPrograms

/-!
# Offsets of Listings

Why a listing can be laid beside the bytes that it lists.

A listing is written without the bytes. It adds up lengths that the program
counts for its records, and a length is a formula that knows nothing of how a
record is written. Whether an offset is where its record begins is therefore a
question about three counts: that of the listing, that of the program, and the
one that comes from laying records end to end. They agree record by record, so
a line that is found by its place among the lines is found at the same place
among the records.

The other half is the shape of a line. A payload holds any bytes, and one line
feed among them would make two lines of one and put every later line in the
wrong place. `AllPrintable` is what keeps that from happening. It holds of all
parts of a line, down to the escape of one byte, and a line feed is not
printable.

An offset is read back by `hexValue`, which knows the sixteen digits and nothing
of how a number is written.

## Main definitions

* `hexValue`: The number that lower-case hexadecimal digits denote.
* `ShowsOffset`: Digits as a listing shows an offset.
* `AllPrintable`: A text of printable ASCII.
* `Program.operations`: The operations of a program's records.

## Theorems

* `toDigits_induction`: Induction over the hexadecimal digits of a number.
* `showsOffset_hexadecimal`: A number in six digits or more shows an offset.
* `all_isPrintable_escaped`: A byte is shown in printable characters.
* `exists_line_of_linesFrom`: A line has the offset of its record.
* `getElem?_flatten_of_head?`: Where a record begins is its first byte.
* `render_offsets`: A listing has a line a record, at the record's offset.
-/

namespace SensorConfig

namespace Listing

/-- The digits of a hexadecimal number, by their values. -/
def hexDigits : List Char := "0123456789abcdef".toList

/-- The number that lower-case hexadecimal digits denote. -/
def hexValue (text : List Char) : Nat :=
  text.foldl (fun value c => 16 * value + hexDigits.idxOf c) 0

/-- An offset as it is shown: in lower-case hexadecimal digits, in six or more
    of them, and in more than six only if it does not take fewer. -/
structure ShowsOffset (text : List Char) (offset : Nat) : Prop where
  digits : ∀ c ∈ text, c ∈ hexDigits
  value_eq : hexValue text = offset
  width : 6 ≤ text.length
  no_fill : 6 < text.length → text.head? ≠ some '0'

/-- Induction over the hexadecimal digits of a number: it has one, or the number
    before its last digit is not zero. -/
theorem toDigits_induction {motive : Nat → List Char → Prop}
    (digit : ∀ n < 16, motive n [n.digitChar])
    (append : ∀ n, 0 < n → ∀ d < 16, motive n (Nat.toDigits 16 n) →
      motive (16 * n + d) (Nat.toDigits 16 n ++ [d.digitChar]))
    (n : Nat) : motive n (Nat.toDigits 16 n) := by
  induction n using Nat.strongRecOn with
  | ind n ih =>
    by_cases hlt : n < 16
    · rw [Nat.toDigits_of_lt_base hlt]
      exact digit n hlt
    · have hstep := append (n / 16) (by omega) (n % 16) (by omega) (ih (n / 16) (by omega))
      rw [Nat.toDigits_of_base_le (by omega) (by omega)]
      rwa [Nat.div_add_mod] at hstep

theorem digitChar_mem_hexDigits : ∀ d < 16, Nat.digitChar d ∈ hexDigits := by decide

theorem idxOf_digitChar : ∀ d < 16, hexDigits.idxOf (Nat.digitChar d) = d := by decide

theorem mem_hexDigits_of_mem_toDigits {n : Nat} {c : Char} (h : c ∈ Nat.toDigits 16 n) :
    c ∈ hexDigits := by
  revert c
  induction n using toDigits_induction with
  | digit n hn =>
      intro c h
      rw [List.mem_singleton.1 h]
      exact digitChar_mem_hexDigits n hn
  | append n _ d hd ih =>
      intro c h
      rcases List.mem_append.1 h with h | h
      · exact ih h
      · rw [List.mem_singleton.1 h]
        exact digitChar_mem_hexDigits d hd

/-- The digits of a number denote it. -/
theorem hexValue_toDigits (n : Nat) : hexValue (Nat.toDigits 16 n) = n := by
  induction n using toDigits_induction with
  | digit n hn =>
      rw [hexValue, List.foldl_cons, List.foldl_nil, idxOf_digitChar n hn]
      omega
  | append n _ d hd ih =>
      rw [hexValue] at ih
      rw [hexValue, List.foldl_append, ih, List.foldl_cons, List.foldl_nil,
        idxOf_digitChar d hd]

/-- Only zero begins with a zero. -/
theorem head?_toDigits {n : Nat} (h : 0 < n) : (Nat.toDigits 16 n).head? ≠ some '0' := by
  have hdigit : ∀ d < 16, 0 < d → [Nat.digitChar d].head? ≠ some '0' := by decide
  revert h
  induction n using toDigits_induction with
  | digit n hn => exact hdigit n hn
  | append n hpos d _ ih =>
      intro _
      rw [List.head?_append_of_ne_nil _ Nat.toDigits_ne_nil]
      exact ih hpos

/-- Zeros in front do not change a number. -/
theorem hexValue_replicate_append (count : Nat) (text : List Char) :
    hexValue (List.replicate count '0' ++ text) = hexValue text := by
  have hzero : hexDigits.idxOf '0' = 0 := by decide
  induction count with
  | zero => rfl
  | succ count ih =>
      rw [hexValue] at ih ⊢
      rw [List.replicate_succ, List.cons_append, List.foldl_cons, hzero, ih]

/-- A number in six hexadecimal digits or more is shown as an offset is. -/
theorem showsOffset_hexadecimal (n : Nat) : ShowsOffset (Numeral.hexadecimal 6 n).toList n := by
  simp only [Numeral.hexadecimal, String.toList_ofList]
  refine ⟨fun c hc => ?_, ?_, ?_, fun hlong => ?_⟩
  · rcases List.mem_append.1 hc with hc | hc
    · rw [List.eq_of_mem_replicate hc]
      decide
    · exact mem_hexDigits_of_mem_toDigits hc
  · rw [hexValue_replicate_append, hexValue_toDigits]
  · simp only [List.length_append, List.length_replicate]
    omega
  · -- There is nothing to fill up, and a number of so many digits is not zero.
    rw [List.length_append, List.length_replicate] at hlong
    have hfill : 6 - (Nat.toDigits 16 n).length = 0 := by omega
    have hpos : 0 < n := by
      rcases Nat.eq_zero_or_pos n with rfl | hpos
      · rw [Nat.toDigits_of_lt_base (by omega), List.length_singleton] at hlong
        omega
      · exact hpos
    rw [hfill, List.replicate_zero, List.nil_append]
    exact head?_toDigits hpos

/-- Whether a character is a printable one of ASCII. -/
def isPrintable (c : Char) : Bool :=
  0x20 ≤ c.toNat && c.toNat ≤ 0x7E

/-- A text of printable characters. -/
def AllPrintable (text : String) : Prop :=
  text.toList.all isPrintable = true

instance : DecidablePred AllPrintable :=
  fun text => inferInstanceAs (Decidable (text.toList.all isPrintable = true))

theorem allPrintable_iff (text : String) :
    AllPrintable text ↔ ∀ c ∈ text.toList, isPrintable c = true :=
  List.all_eq_true

theorem AllPrintable.append {left right : String} (hleft : AllPrintable left)
    (hright : AllPrintable right) : AllPrintable (left ++ right) := by
  rw [AllPrintable] at hleft hright ⊢
  rw [String.toList_append, List.all_append, hleft, hright, Bool.and_self]

theorem isPrintable_iff (c : Char) : isPrintable c = true ↔ 0x20 ≤ c.toNat ∧ c.toNat ≤ 0x7E := by
  simp only [isPrintable, Bool.and_eq_true, decide_eq_true_eq]

theorem isPrintable_of_mem_hexDigits {c : Char} (h : c ∈ hexDigits) : isPrintable c = true := by
  have hall : hexDigits.all isPrintable = true := by decide
  exact List.all_eq_true.1 hall c h

theorem isPrintable_of_isDigit {c : Char} (h : c.isDigit = true) : isPrintable c = true := by
  have hrange := Numeral.toNat_of_isDigit h
  rw [isPrintable_iff]
  omega

/-- A number is written in digits alone. -/
theorem isDigit_of_mem_natural {n : Nat} {c : Char} (h : c ∈ (toString n).toList) :
    c.isDigit = true := by
  rw [Nat.toString_eq_repr, Nat.toList_repr] at h
  exact Nat.isDigit_of_mem_toDigits (by decide) (by decide) h

theorem allPrintable_natural (n : Nat) : AllPrintable (toString n) := by
  rw [allPrintable_iff]
  exact fun c hc => isPrintable_of_isDigit (isDigit_of_mem_natural hc)

theorem allPrintable_integer (n : Int) : AllPrintable (toString n) := by
  rw [allPrintable_iff]
  intro c hc
  rw [Int.toString_eq_repr] at hc
  rcases Numeral.chars_of_mem_repr hc with rfl | hdigit
  · decide
  · exact isPrintable_of_isDigit hdigit

theorem isPrintable_of_isNameChar {c : Char} (h : Lexeme.isNameChar c = true) :
    isPrintable c = true := by
  have hletter : ∀ low high : Char, 0x20 ≤ low.val.toNat → high.val.toNat ≤ 0x7E →
      low.val ≤ c.val → c.val ≤ high.val → isPrintable c = true := by
    intro low high hlow hhigh hfirst hlast
    rw [isPrintable_iff]
    exact ⟨Nat.le_trans hlow (UInt32.le_iff_toNat_le.1 hfirst),
      Nat.le_trans (UInt32.le_iff_toNat_le.1 hlast) hhigh⟩
  simp only [Lexeme.isNameChar, Bool.or_eq_true, decide_eq_true_eq] at h
  rcases h with (halphanum | rfl) | rfl
  · rcases Bool.or_eq_true_iff.1 halphanum with halpha | hdigit
    · rcases Bool.or_eq_true_iff.1 halpha with hupper | hlower
      · have hrange := of_decide_eq_true hupper
        exact hletter 'A' 'Z' (by decide) (by decide) hrange.1 hrange.2
      · have hrange := Bool.and_eq_true_iff.1 hlower
        exact hletter 'a' 'z' (by decide) (by decide) (of_decide_eq_true hrange.1)
          (of_decide_eq_true hrange.2)
    · exact isPrintable_of_isDigit hdigit
  · decide
  · decide

/-- A byte of a payload is shown in printable characters, whatever it is. -/
theorem all_isPrintable_escaped (byte : UInt8) : (escaped byte).all isPrintable = true := by
  have hbyte : byte.toNat < 256 := byte.toNat_lt
  unfold escaped
  split
  · decide
  · split
    · decide
    · split
      · decide
      · split
        · next hrange =>
          -- The character has the number of the byte, which is in the range already.
          have hlow : 0x20 ≤ byte.toNat := UInt8.le_iff_toNat_le.1 hrange.1
          have hhigh : byte.toNat ≤ 0x7E := UInt8.le_iff_toNat_le.1 hrange.2
          have hvalid : byte.toNat.isValidChar := Or.inl (by omega)
          rw [List.all_cons, List.all_nil, Bool.and_true, isPrintable_iff,
            Utf8.toNat_ofNat_of_isValidChar hvalid]
          exact ⟨hlow, hhigh⟩
        · have hfirst := digitChar_mem_hexDigits (byte.toNat / 16) (by omega)
          have hsecond := digitChar_mem_hexDigits (byte.toNat % 16) (by omega)
          have hescape : isPrintable '\\' = true ∧ isPrintable 'x' = true := by decide
          simp only [List.all_cons, List.all_nil, hescape.1, hescape.2,
            isPrintable_of_mem_hexDigits hfirst, isPrintable_of_mem_hexDigits hsecond,
            Bool.and_self]

theorem allPrintable_preview (payload : List UInt8) :
    AllPrintable (String.ofList (preview payload)) := by
  have hbytes : ((payload.take previewLength).flatMap escaped).all isPrintable = true := by
    rw [List.all_flatMap, List.all_eq_true]
    exact fun byte _ => all_isPrintable_escaped byte
  rw [AllPrintable, String.toList_ofList, preview, List.all_append, hbytes, Bool.true_and]
  split <;> decide

theorem allPrintable_flag (value : Bool) : AllPrintable (flag value) := by
  cases value <;> decide

theorem allPrintable_startOperands (program : Program) : AllPrintable (startOperands program) := by
  have hversion : AllPrintable program.version.text :=
    ((((allPrintable_natural _).append (by decide)).append (allPrintable_natural _)).append
      (by decide)).append (allPrintable_natural _)
  exact ((AllPrintable.append (by decide) hversion).append (by decide)).append (allPrintable_flag _)

theorem allPrintable_stopOperands (program : Program) : AllPrintable (stopOperands program) :=
  AllPrintable.append (by decide) (allPrintable_flag _)

section

variable {registry : Registry}

/-- The name of a slot holds characters of names, and one that has none is shown by a
    mark. -/
theorem chars_of_mem_name (hregistry : registry.Printable) {kind : Kind} {slot : UInt8} {c : Char}
    (h : c ∈ ((registry.name? kind slot).getD "?").toList) :
    c = '?' ∨ Lexeme.isNameChar c = true := by
  unfold Registry.name? at h
  cases hfind : registry.variables.find? fun v => v.kind = kind ∧ v.slot = slot with
  | none =>
      rw [hfind] at h
      exact Or.inl (List.mem_singleton.1 h)
  | some v =>
      rw [hfind] at h
      exact Or.inr (hregistry.chars v (List.mem_of_find?_eq_some hfind) c h)

/-- The name of a slot is printable, and so is the mark of one that has none. -/
theorem allPrintable_name (hregistry : registry.Printable) (kind : Kind) (slot : UInt8) :
    AllPrintable ((registry.name? kind slot).getD "?") := by
  rw [allPrintable_iff]
  intro c hc
  rcases chars_of_mem_name hregistry hc with rfl | hname
  · decide
  · exact isPrintable_of_isNameChar hname

theorem allPrintable_operands (hregistry : registry.Printable) (setting : Setting) :
    AllPrintable (operands registry setting) := by
  have hname := allPrintable_name hregistry setting.kind setting.slot
  have hslot := (hname.append (by decide : AllPrintable "[")).append
    (allPrintable_natural setting.slot.toNat)
  cases setting with
  | integer slot value =>
      exact (hslot.append (by decide)).append (allPrintable_integer value.toInt)
  | text slot payload =>
      exact ((((hslot.append (by decide)).append (allPrintable_natural payload.length)).append
        (by decide)).append (allPrintable_preview payload)).append (by decide)

theorem allPrintable_line (offset : Nat) (operation : Operation) {text : String}
    (h : AllPrintable text) : AllPrintable (line offset operation text) := by
  have hnumber : AllPrintable (Numeral.hexadecimal 6 offset) :=
    (allPrintable_iff _).2 fun c hc =>
      isPrintable_of_mem_hexDigits ((showsOffset_hexadecimal offset).digits c hc)
  have hmnemonic : AllPrintable operation.mnemonic := by
    cases operation <;> decide
  have hfill :
      AllPrintable (String.ofList (List.replicate (5 - operation.mnemonic.length) ' ')) := by
    rw [allPrintable_iff]
    intro c hc
    rw [String.toList_ofList] at hc
    rw [List.eq_of_mem_replicate hc]
    decide
  exact ((((hnumber.append (by decide)).append hmnemonic).append hfill).append
    (by decide)).append h

/-- A line is an offset, two blanks, a mnemonic, and a blank before anything
    that follows. -/
theorem exists_tail_line (offset : Nat) (operation : Operation) (text : String) :
    ∃ tail, (line offset operation text).toList =
      (Numeral.hexadecimal 6 offset).toList ++
        ("  ".toList ++ (operation.mnemonic.toList ++ ' ' :: tail)) := by
  refine ⟨List.replicate (5 - operation.mnemonic.length) ' ' ++ text.toList, ?_⟩
  -- Among blanks it makes no difference which of them are the columns that are filled up.
  have hblanks : List.replicate (5 - operation.mnemonic.length) ' ' ++ " ".toList =
      ' ' :: List.replicate (5 - operation.mnemonic.length) ' ' := List.replicate_succ'.symm
  simp only [line, String.toList_append, String.toList_ofList, List.append_assoc]
  rw [← List.append_assoc _ " ".toList, hblanks, List.cons_append]

/-- A line has the offset at which its record begins, counted from that of the
    first, and what follows the offset is printable. -/
theorem exists_line_of_linesFrom (hregistry : registry.Printable) (program : Program)
    {settings : List Setting} {offset k : Nat} {text : String}
    (h : (linesFrom registry program offset settings)[k]? = some text) :
    ∃ operation operands, (settings.map Setting.operation ++ [.stop])[k]? = some operation ∧
      AllPrintable operands ∧
      text = line (offset +
        ((settings.map Setting.record ++ [program.stopRecord]).take k).flatten.length)
          operation operands := by
  induction settings generalizing offset k with
  | nil =>
      cases k with
      | zero =>
          refine ⟨.stop, stopOperands program, rfl, allPrintable_stopOperands program, ?_⟩
          exact (Option.some.inj h).symm
      | succ k => exact absurd h (by simp [linesFrom])
  | cons setting settings ih =>
      cases k with
      | zero =>
          refine ⟨setting.operation, operands registry setting, rfl,
            allPrintable_operands hregistry setting, ?_⟩
          exact (Option.some.inj h).symm
      | succ k =>
          rw [linesFrom, List.getElem?_cons_succ] at h
          rcases ih h with ⟨operation, operands, hoperation, hoperands, htext⟩
          refine ⟨operation, operands, hoperation, hoperands, ?_⟩
          -- The length that the listing adds is that of the record.
          rw [htext, List.map_cons, List.cons_append, List.take_succ_cons, List.flatten_cons,
            List.length_append, Setting.length_record, Nat.add_assoc]

end

end Listing

namespace Program

/-- The operations of a program's records, in order. -/
def operations (program : Program) : List Operation :=
  .start :: (program.settings.map Setting.operation ++ [.stop])

/-- Every record begins with the code of its operation. -/
theorem map_head?_records (program : Program) :
    program.records.map List.head? =
      program.operations.map fun operation => some operation.code := by
  have hsetting : ∀ setting : Setting,
      setting.record.head? = some setting.operation.code := by
    intro setting
    cases setting <;> rfl
  have hsettings : program.settings.map (fun setting => setting.record.head?) =
      program.settings.map fun setting => some setting.operation.code :=
    List.map_congr_left fun setting _ => hsetting setting
  simp only [records, operations, List.map_cons, List.map_append, List.map_map, List.map_nil,
    Function.comp_def, hsettings]
  rfl

/-- Where a record begins among the bytes of all of them is its first byte. -/
theorem getElem?_flatten_of_head? {records : List (List UInt8)} {k : Nat} {code : UInt8}
    (h : (records.map List.head?)[k]? = some (some code)) :
    records.flatten[(records.take k).flatten.length]? = some code := by
  rw [List.getElem?_map, Option.map_eq_some_iff] at h
  rcases h with ⟨record, hrecord, hhead⟩
  rcases List.head?_eq_some_iff.1 hhead with ⟨others, rfl⟩
  rw [flatten_of_getElem? hrecord, List.getElem?_append_right (Nat.le_refl _), Nat.sub_self]
  rfl

end Program

namespace Listing

/-- The lines of a program have the offsets of its records. -/
theorem exists_line_of_lines {registry : Registry} (hregistry : registry.Printable)
    {program : Program} {k : Nat} {text : String} (h : (lines registry program)[k]? = some text) :
    ∃ operation operands, program.operations[k]? = some operation ∧ AllPrintable operands ∧
      text = line (program.records.take k).flatten.length operation operands := by
  cases k with
  | zero =>
      refine ⟨.start, startOperands program, rfl, allPrintable_startOperands program, ?_⟩
      exact (Option.some.inj h).symm
  | succ k =>
      rw [lines, List.getElem?_cons_succ] at h
      have hstart : program.startRecord.length = 5 := rfl
      rcases exists_line_of_linesFrom hregistry program h with
        ⟨operation, operands, hoperation, hoperands, htext⟩
      refine ⟨operation, operands, hoperation, hoperands, ?_⟩
      rw [htext, Program.records, List.take_succ_cons, List.flatten_cons, List.length_append,
        hstart]

/-- A listing is its lines, each with a line feed behind it. -/
theorem toList_render (registry : Registry) (program : Program) :
    (render registry program).toList =
      ((lines registry program).map String.toList).flatMap (· ++ ['\n']) := by
  have hfeed : "\n".toList = ['\n'] := by decide
  simp only [render, String.toList_join, List.flatMap_map, String.toList_append, hfeed]

/-- A listing has one line a record and is printable but for the ends of its
    lines. A line begins with the place where its record begins among the bytes,
    and shows the operation whose code stands there. The last record takes two
    bytes, with which all of them are counted. -/
theorem render_offsets {program : Program} {bytes : List UInt8}
    (h : program.encode = .ok bytes) :
    ∃ lines : List (List Char),
      (render .snappySense program).toList = lines.flatMap (· ++ ['\n']) ∧
      lines.length = program.settings.length + 2 ∧
      (∀ line ∈ lines, ∀ c ∈ line, isPrintable c = true) ∧
      bytes = program.records.flatten ∧ program.records.length = lines.length ∧
      (∀ k line, lines[k]? = some line →
        ∃ digits operation tail,
          line = digits ++ ("  ".toList ++ (operation.mnemonic.toList ++ ' ' :: tail)) ∧
          ShowsOffset digits (program.records.take k).flatten.length ∧
          program.operations[k]? = some operation ∧
          bytes[(program.records.take k).flatten.length]? = some operation.code) ∧
      (program.records.take (program.settings.length + 1)).flatten.length + 2 = bytes.length ∧
      bytes.length = program.encodedLength := by
  have hbytes := (Program.encode_eq_ok_iff program bytes).1 h
  have hrecords : program.records.length = program.settings.length + 2 := by
    simp [Program.records]
  have hregistry := Registry.printable_snappySense
  refine ⟨(lines .snappySense program).map String.toList, toList_render _ program, ?_, ?_,
    hbytes.2.symm, ?_, ?_, ?_, ?_⟩
  · rw [List.length_map, length_lines]
  · intro line hline
    rcases List.mem_map.1 hline with ⟨text, htext, rfl⟩
    rcases List.mem_iff_getElem?.1 htext with ⟨k, hk⟩
    rcases exists_line_of_lines hregistry hk with ⟨operation, operands, _, hoperands, rfl⟩
    exact (allPrintable_iff _).1 (allPrintable_line _ operation hoperands)
  · rw [List.length_map, length_lines, hrecords]
  · intro k line hline
    rw [List.getElem?_map, Option.map_eq_some_iff] at hline
    rcases hline with ⟨text, htext, rfl⟩
    rcases exists_line_of_lines hregistry htext with ⟨operation, operands, hoperation, _, rfl⟩
    rcases exists_tail_line (program.records.take k).flatten.length operation operands with
      ⟨tail, htail⟩
    have hhead : (program.records.map List.head?)[k]? = some (some operation.code) := by
      rw [Program.map_head?_records, List.getElem?_map, hoperation, Option.map_some]
    -- The offset that is shown is where the record begins, which is where its code stands.
    refine ⟨_, operation, tail, htail, showsOffset_hexadecimal _, hoperation, ?_⟩
    rw [← hbytes.2]
    exact Program.getElem?_flatten_of_head? hhead
  · -- All records but the last are those in front of the record that stops.
    have hfront : program.records.take (program.settings.length + 1) =
        program.startRecord :: program.settings.map Setting.record := by
      rw [Program.records, List.take_succ_cons,
        List.take_left' (by rw [List.length_map])]
    have hstop : program.stopRecord.length = 2 := rfl
    rw [hfront, ← hbytes.2, Program.records, ← List.cons_append, List.flatten_append,
      List.flatten_singleton, List.length_append, hstop]
  · rw [← hbytes.2, Program.length_flatten_records]

/-- A slot without a name and a payload of a line feed, a quote and a byte that
    is no character. -/
theorem render_offsets_unknown :
    ∃ lines : List (List Char),
      (render .snappySense ⟨⟨255, 0, 7⟩, true,
        [.integer 200 (-1), .text 99 [0x0A, 0x22, 0xFF]], true⟩).toList =
          lines.flatMap (· ++ ['\n']) ∧
      lines.length = 4 := by
  have hbytes : Program.encode ⟨⟨255, 0, 7⟩, true,
      [.integer 200 (-1), .text 99 [0x0A, 0x22, 0xFF]], true⟩ =
        .ok [1, 255, 0, 7, 1, 3, 200, 255, 255, 255, 255, 4, 99, 3, 0, 0x0A, 0x22, 0xFF, 2, 1] :=
    rfl
  rcases render_offsets hbytes with ⟨lines, hrender, hlength, _⟩
  exact ⟨lines, hrender, hlength⟩

end Listing

end SensorConfig
