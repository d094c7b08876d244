import Mathlib.Data.List.Forall2
import SensorConfig.Proofs.ListingOffsets

/-!
# Comparing Listings

How much of a program its listing gives away.

A listing shows all of a program but the tail of a long payload. Two programs
with the same listing have the same version, the same flags and the same
settings, up to payloads that agree in their length and in as many bytes as are
shown. Nothing in a listing says where its parts end, so this rests on what the
parts cannot hold: a line no line feed, a name no bracket, a number nothing but
digits.

A payload holds anything, and its part of a line is the one that could be forged.
It is read back one byte at a time. `unescape?` takes a byte off the front of what
is shown and leaves the rest, and it refuses a quote that nothing escapes. The
quote at the end of a payload is therefore the first that is refused, so what
stands between the quotes is the same if two lines are. That settles the dots as
well. They are read back as three bytes behind 32 others, and no payload that is
shown whole has so many.

Both directions go by the records in order. The same settings move the offset by
the same length, as the length in front of a payload is that of the payload and
not that of its preview, so the lines that follow start at the same offset.

## Main definitions

* `unescape?`: The byte at the start of what is shown of a payload.
* `shownBytes`: The bytes of a preview, its dots among them.
* `Setting.ShownAlike`: Two settings that differ in nothing that is shown.

## Theorems

* `unescape?_escaped`: A byte is read back, whatever follows it.
* `flatMap_escaped_inj`: The quote behind a payload cannot stand in it.
* `shownBytes_inj`: Whether a payload was cut can be seen.
* `operands_inj`: What is shown of a setting.
* `linesFrom_inj`: What is shown of settings.
* `render_eq_iff`: A listing identifies a program up to what is cut.
-/

namespace SensorConfig

/-- The first place of a character cuts a text in one way only. -/
theorem Lexeme.append_stop_inj {stop : Char} {run run' rest rest' : List Char} (h : stop ∉ run)
    (h' : stop ∉ run') :
    run ++ stop :: rest = run' ++ stop :: rest' ↔ run = run' ∧ rest = rest' := by
  have hrun : ∀ {run : List Char}, stop ∉ run → ∀ c ∈ run, (fun c => decide (c ≠ stop)) c = true :=
    fun hstop c hc => decide_eq_true fun heq => hstop (heq ▸ hc)
  have hrest : ∀ rest : List Char, ∀ c ∈ (stop :: rest).head?,
      (fun c => decide (c ≠ stop)) c = false := by
    intro rest c hc
    rw [List.head?_cons, Option.mem_some_iff] at hc
    simp only [hc, ne_eq, not_true_eq_false, decide_false]
  constructor
  · intro heq
    rcases append_inj_of_stop (hrun h) (hrest rest) (hrun h') (hrest rest') heq with ⟨hsame, htail⟩
    exact ⟨hsame, (List.cons.inj htail).2⟩
  · rintro ⟨rfl, rfl⟩
    rfl

namespace Setting

/-- Two settings that a listing does not tell apart: of the same kind and slot, and
    with the same integer, or with texts of the same length and the same first 32
    bytes. -/
inductive ShownAlike : Setting → Setting → Prop where
  | integer (slot : UInt8) (value : Int32) :
      ShownAlike (.integer slot value) (.integer slot value)
  | text (slot : UInt8) {payload other : List UInt8} (length_eq : payload.length = other.length)
      (take_eq : payload.take 32 = other.take 32) :
      ShownAlike (.text slot payload) (.text slot other)

theorem ShownAlike.operation_eq {setting other : Setting} (h : ShownAlike setting other) :
    setting.operation = other.operation := by
  cases h <;> rfl

theorem ShownAlike.encodedLength_eq {setting other : Setting} (h : ShownAlike setting other) :
    setting.encodedLength = other.encodedLength := by
  cases h with
  | integer slot value => rfl
  | text slot length_eq _ => rw [encodedLength, encodedLength, length_eq]

end Setting

namespace Listing

/-- A mnemonic in the columns that it takes, with the blank behind them. -/
def column (operation : Operation) : List Char :=
  operation.mnemonic.toList ++
    (List.replicate (5 - operation.mnemonic.length) ' ' ++ [' '])

/-- The byte at the start of what is shown of a payload, and what follows it. A
    quote that nothing escapes shows no byte. -/
def unescape? : List Char → Option (UInt8 × List Char)
  | [] => none
  | c :: text =>
      if c = '"' then none
      else if c = '\\' then
        match text with
        | 'n' :: rest => some (0x0A, rest)
        | 'x' :: high :: low :: rest => some (UInt8.ofNat (hexValue [high, low]), rest)
        | d :: rest => some (UInt8.ofNat d.toNat, rest)
        | [] => none
      else some (UInt8.ofNat c.toNat, text)

/-- A byte is read back from what is shown of it, whatever follows. -/
theorem unescape?_escaped (byte : UInt8) (rest : List Char) :
    unescape? (escaped byte ++ rest) = some (byte, rest) := by
  have hbyte : byte.toNat < 256 := byte.toNat_lt
  unfold escaped
  split
  · next h => rw [h]; rfl
  · next hquote =>
    split
    · next h => rw [h]; rfl
    · next hslash =>
      split
      · next h => rw [h]; rfl
      · split
        · next hrange =>
          -- The character has the number of the byte, so it is no other one.
          have hvalid : byte.toNat.isValidChar := Or.inl (by omega)
          have hnumber := Utf8.toNat_ofNat_of_isValidChar hvalid
          have hne : ∀ d : Char, byte ≠ UInt8.ofNat d.toNat → Char.ofNat byte.toNat ≠ d := by
            intro d hd heq
            rw [heq] at hnumber
            exact hd (by rw [hnumber, UInt8.ofNat_toNat])
          have hquote' := hne '"' hquote
          have hslash' := hne '\\' hslash
          simp only [List.singleton_append, unescape?, hquote', hslash', ↓reduceIte, hnumber,
            UInt8.ofNat_toNat]
        · have hvalue : hexValue [Nat.digitChar (byte.toNat / 16), Nat.digitChar (byte.toNat % 16)] =
              byte.toNat := by
            rw [hexValue, List.foldl_cons, List.foldl_cons, List.foldl_nil,
              idxOf_digitChar _ (by omega), idxOf_digitChar _ (by omega)]
            omega
          simp only [List.cons_append, List.nil_append, unescape?, hvalue, UInt8.ofNat_toNat]
          rfl

theorem escaped_append_inj {byte other : UInt8} {rest rest' : List Char}
    (h : escaped byte ++ rest = escaped other ++ rest') : byte = other ∧ rest = rest' := by
  have hread := congrArg unescape? h
  rw [unescape?_escaped, unescape?_escaped, Option.some.injEq, Prod.mk.injEq] at hread
  exact hread

/-- No byte is shown by a quote that nothing escapes. -/
theorem escaped_append_ne_quote (byte : UInt8) (rest rest' : List Char) :
    escaped byte ++ rest ≠ '"' :: rest' := by
  intro h
  have hread := congrArg unescape? h
  have hquote : unescape? ('"' :: rest') = none := rfl
  rw [unescape?_escaped, hquote] at hread
  exact absurd hread (by simp only [reduceCtorEq, not_false_eq_true])

/-- The bytes that are shown before a quote can be told by it, and so can what
    follows it. -/
theorem flatMap_escaped_inj {bytes others : List UInt8} {rest rest' : List Char} :
    bytes.flatMap escaped ++ '"' :: rest = others.flatMap escaped ++ '"' :: rest' ↔
      bytes = others ∧ rest = rest' := by
  constructor
  · intro h
    induction bytes generalizing others with
    | nil =>
        cases others with
        | nil => exact ⟨rfl, (List.cons.inj h).2⟩
        | cons other others =>
            rw [List.flatMap_cons, List.append_assoc] at h
            exact absurd h.symm (escaped_append_ne_quote other _ _)
    | cons byte bytes ih =>
        rw [List.flatMap_cons, List.append_assoc] at h
        cases others with
        | nil => exact absurd h (escaped_append_ne_quote byte _ _)
        | cons other others =>
            rw [List.flatMap_cons, List.append_assoc] at h
            rcases escaped_append_inj h with ⟨rfl, htail⟩
            rcases ih htail with ⟨rfl, hrest⟩
            exact ⟨rfl, hrest⟩
  · rintro ⟨rfl, rfl⟩
    rfl

/-- The bytes of a preview. The dots of a payload that is cut are bytes that show
    themselves. -/
def shownBytes (payload : List UInt8) : List UInt8 :=
  payload.take previewLength ++
    if payload.length > previewLength then [0x2E, 0x2E, 0x2E] else []

theorem preview_eq (payload : List UInt8) :
    preview payload = (shownBytes payload).flatMap escaped := by
  rw [preview, shownBytes, List.flatMap_append]
  split <;> rfl

theorem take_shownBytes (payload : List UInt8) :
    (shownBytes payload).take 32 = payload.take 32 := by
  unfold shownBytes previewLength
  split
  · next hlong => rw [List.take_left' (by rw [List.length_take]; omega)]
  · rw [List.append_nil, List.take_take, Nat.min_self]

theorem lt_length_shownBytes_iff (payload : List UInt8) :
    32 < (shownBytes payload).length ↔ 32 < payload.length := by
  unfold shownBytes previewLength
  rw [List.length_append, List.length_take]
  split
  · rw [List.length_cons, List.length_cons, List.length_cons, List.length_nil]
    omega
  · rw [List.length_nil]
    omega

/-- A preview tells the bytes that are shown, and whether these are all. -/
theorem shownBytes_inj (payload other : List UInt8) :
    shownBytes payload = shownBytes other ↔
      payload.take 32 = other.take 32 ∧ (32 < payload.length ↔ 32 < other.length) := by
  constructor
  · intro h
    refine ⟨?_, ?_⟩
    · rw [← take_shownBytes payload, h, take_shownBytes]
    · rw [← lt_length_shownBytes_iff payload, h, lt_length_shownBytes_iff]
  · rintro ⟨htake, hlong⟩
    simp only [shownBytes, previewLength, gt_iff_lt, htake, hlong]

/-- What is shown of a payload ends at the quote behind it and nowhere else. -/
theorem preview_quote_inj {payload other : List UInt8} {rest rest' : List Char} :
    preview payload ++ '"' :: rest = preview other ++ '"' :: rest' ↔
      payload.take 32 = other.take 32 ∧ (32 < payload.length ↔ 32 < other.length) ∧
        rest = rest' := by
  rw [preview_eq, preview_eq, flatMap_escaped_inj, shownBytes_inj, and_assoc]

theorem preview_inj {payload other : List UInt8} :
    preview payload = preview other ↔
      payload.take 32 = other.take 32 ∧ (32 < payload.length ↔ 32 < other.length) := by
  rw [← List.append_cancel_right_eq _ ['"'], preview_quote_inj]
  simp only [and_true]

theorem natural_inj {m n : Nat} : (toString m).toList = (toString n).toList ↔ m = n := by
  constructor
  · intro h
    have hread := congrArg Numeral.natural? h
    rw [Nat.toString_eq_repr, Nat.toString_eq_repr, Nat.toList_repr, Nat.toList_repr,
      Numeral.natural?_toDigits, Numeral.natural?_toDigits] at hread
    exact Option.some.inj hread
  · rintro rfl
    rfl

theorem integer_inj {value other : Int32} :
    (toString value.toInt).toList = (toString other.toInt).toList ↔ value = other := by
  constructor
  · intro h
    have hread := congrArg Numeral.int32? h
    rw [Numeral.int32?_toString, Numeral.int32?_toString] at hread
    exact Option.some.inj hread
  · rintro rfl
    rfl

/-- A number ends where no digit follows. -/
theorem natural_append_inj {stop : Char} (hstop : stop.isDigit = false) {m n : Nat}
    {rest rest' : List Char} :
    (toString m).toList ++ stop :: rest = (toString n).toList ++ stop :: rest' ↔
      m = n ∧ rest = rest' := by
  have hmem : ∀ n : Nat, stop ∉ (toString n).toList := by
    intro n hmem
    rw [isDigit_of_mem_natural hmem] at hstop
    exact absurd hstop (by decide)
  rw [Lexeme.append_stop_inj (hmem m) (hmem n), natural_inj]

theorem flag_inj {value other : Bool} : flag value = flag other ↔ value = other := by
  cases value <;> cases other <;> decide

/-- What is shown of the start of a program. -/
theorem startOperands_inj {program other : Program} :
    startOperands program = startOperands other ↔
      program.version = other.version ∧ program.clear = other.clear := by
  have hdot : ".".toList = ['.'] := by decide
  have hclear : " clear=".toList = ' ' :: "clear=".toList := by decide
  have hstops : Char.isDigit '.' = false ∧ Char.isDigit ' ' = false := by decide
  rcases program with ⟨⟨major, minor, patch⟩, clear, settings, save⟩
  rcases other with ⟨⟨major', minor', patch'⟩, clear', settings', save'⟩
  rw [← String.toList_inj]
  simp only [startOperands, Version.text, String.toList_append, hdot, hclear, List.append_assoc,
    List.cons_append, List.nil_append, List.append_cancel_left_eq,
    natural_append_inj hstops.1, natural_append_inj hstops.2,
    UInt8.toNat_inj, String.toList_inj, flag_inj, Version.mk.injEq, and_assoc]

/-- What is shown of its end. -/
theorem stopOperands_inj {program other : Program} :
    stopOperands program = stopOperands other ↔ program.save = other.save := by
  rw [← String.toList_inj]
  simp only [stopOperands, String.toList_append, List.append_cancel_left_eq, String.toList_inj,
    flag_inj]

theorem length_column (operation : Operation) : (column operation).length = 6 := by
  cases operation <;> decide

theorem column_inj {operation other : Operation} (h : column operation = column other) :
    operation = other := by
  revert h
  cases operation <;> cases other <;> decide

theorem toList_line (offset : Nat) (operation : Operation) (text : String) :
    (line offset operation text).toList =
      ((Numeral.hexadecimal 6 offset).toList ++ "  ".toList) ++
        (column operation ++ text.toList) := by
  have hblank : " ".toList = [' '] := by decide
  simp only [line, column, String.toList_append, String.toList_ofList, hblank, List.append_assoc]

section

variable {registry : Registry}

/-- The slot stands in brackets behind its name, which holds none. -/
theorem name_append_inj (hregistry : registry.Printable) {kind kind' : Kind} {slot slot' : UInt8}
    {rest rest' : List Char} :
    ((registry.name? kind slot).getD "?").toList ++
        '[' :: ((toString slot.toNat).toList ++ ']' :: rest) =
      ((registry.name? kind' slot').getD "?").toList ++
        '[' :: ((toString slot'.toNat).toList ++ ']' :: rest') →
      slot = slot' ∧ rest = rest' := by
  have hmem : ∀ kind slot, '[' ∉ ((registry.name? kind slot).getD "?").toList := by
    intro kind slot hmem
    rcases chars_of_mem_name hregistry hmem with hmark | hname
    · exact absurd hmark (by decide)
    · exact absurd hname (by decide)
  intro h
  rcases (Lexeme.append_stop_inj (hmem kind slot) (hmem kind' slot')).1 h with ⟨_, h⟩
  rw [natural_append_inj (by decide), UInt8.toNat_inj] at h
  exact h

/-- What is shown of a setting. -/
theorem operands_inj (hregistry : registry.Printable) {setting other : Setting}
    (hoperation : setting.operation = other.operation) :
    operands registry setting = operands registry other ↔ setting.ShownAlike other := by
  have hopen : "[".toList = ['['] := by decide
  have hvalue : "] = ".toList = ']' :: " = ".toList := by decide
  have hlength : "] len=".toList = ']' :: " len=".toList := by decide
  have hquote : " \"".toList = [' ', '"'] ∧ "\"".toList = ['"'] := by decide
  cases setting with
  | integer slot value =>
      cases other with
      | integer slot' value' =>
          constructor
          · intro h
            have htext := congrArg String.toList h
            simp only [operands, String.toList_append, hopen, hvalue, List.append_assoc,
              List.cons_append, List.nil_append] at htext
            rcases name_append_inj hregistry htext with ⟨rfl, hrest⟩
            rw [List.append_cancel_left_eq, integer_inj] at hrest
            rw [hrest]
            exact .integer slot value'
          · rintro ⟨⟩
            rfl
      | text slot' payload => exact absurd hoperation Operation.noConfusion
  | text slot payload =>
      cases other with
      | integer slot' value => exact absurd hoperation Operation.noConfusion
      | text slot' payload' =>
          constructor
          · intro h
            have htext := congrArg String.toList h
            simp only [operands, String.toList_append, hopen, hlength, hquote, String.toList_ofList,
              List.append_assoc, List.cons_append, List.nil_append] at htext
            rcases name_append_inj hregistry htext with ⟨rfl, hrest⟩
            rw [List.append_cancel_left_eq, natural_append_inj (by decide), List.cons.injEq,
              preview_quote_inj] at hrest
            exact .text slot hrest.1 hrest.2.2.1
          · rintro (_ | ⟨_, hlength, htake⟩)
            have hpreview : preview payload = preview payload' := by
              rw [preview_inj, hlength]
              exact ⟨htake, Iff.rfl⟩
            simp only [operands, Setting.kind, Setting.slot, hlength, hpreview]

/-- A line of a known offset tells its operation and its operands. -/
theorem line_inj {offset : Nat} {operation other : Operation} {text text' : String} :
    line offset operation text = line offset other text' ↔
      operation = other ∧ text = text' := by
  constructor
  · intro h
    have htext := congrArg String.toList h
    rw [toList_line, toList_line, List.append_cancel_left_eq] at htext
    -- All mnemonics take the same columns, so the operands begin at the same place.
    have hwidth : (column operation).length = (column other).length := by
      rw [length_column, length_column]
    rcases List.append_inj htext hwidth with ⟨hcolumn, hoperands⟩
    exact ⟨column_inj hcolumn, String.toList_inj.1 hoperands⟩
  · rintro ⟨rfl, rfl⟩
    rfl

/-- Lines from the same offset on tell what is set and whether it is kept. -/
theorem linesFrom_inj (hregistry : registry.Printable) {program other : Program}
    {settings others : List Setting} {offset : Nat} :
    linesFrom registry program offset settings = linesFrom registry other offset others ↔
      List.Forall₂ Setting.ShownAlike settings others ∧ program.save = other.save := by
  have hstop : ∀ setting : Setting, Operation.stop ≠ setting.operation := by
    intro setting
    cases setting <;> exact Operation.noConfusion
  induction settings generalizing others offset with
  | nil =>
      cases others with
      | nil =>
          rw [linesFrom, linesFrom, List.cons.injEq, line_inj, stopOperands_inj]
          simp only [and_true, true_and, List.Forall₂.nil]
      | cons setting others =>
          rw [linesFrom, linesFrom, List.cons.injEq, line_inj]
          simp only [hstop, false_and, List.forall₂_nil_left_iff, reduceCtorEq]
  | cons setting settings ih =>
      cases others with
      | nil =>
          rw [linesFrom, linesFrom, List.cons.injEq, line_inj]
          simp only [(hstop setting).symm, false_and, List.forall₂_nil_right_iff, reduceCtorEq]
      | cons other' others =>
          rw [linesFrom, linesFrom, List.cons.injEq, line_inj, List.forall₂_cons]
          constructor
          · rintro ⟨⟨hoperation, hoperands⟩, hrest⟩
            have halike := (operands_inj hregistry hoperation).1 hoperands
            rw [halike.encodedLength_eq] at hrest
            rcases ih.1 hrest with ⟨hothers, hsave⟩
            exact ⟨⟨halike, hothers⟩, hsave⟩
          · rintro ⟨⟨halike, hrest⟩, hsave⟩
            have hoperation := halike.operation_eq
            refine ⟨⟨hoperation, (operands_inj hregistry hoperation).2 halike⟩, ?_⟩
            rw [halike.encodedLength_eq]
            exact ih.2 ⟨hrest, hsave⟩

/-- What is shown of a program. -/
theorem lines_inj (hregistry : registry.Printable) {program other : Program} :
    lines registry program = lines registry other ↔
      program.version = other.version ∧ program.clear = other.clear ∧ program.save = other.save ∧
        List.Forall₂ Setting.ShownAlike program.settings other.settings := by
  rw [lines, lines, List.cons.injEq, line_inj, startOperands_inj, linesFrom_inj hregistry]
  tauto

theorem lineFeed_notMem_lines (hregistry : registry.Printable) {program : Program}
    {line : List Char} (h : line ∈ (lines registry program).map String.toList) :
    '\n' ∉ line := by
  rcases List.mem_map.1 h with ⟨text, htext, rfl⟩
  rcases List.mem_iff_getElem?.1 htext with ⟨k, hk⟩
  rcases exists_line_of_lines hregistry hk with ⟨operation, operands, _, hoperands, rfl⟩
  intro hmem
  exact absurd ((allPrintable_iff _).1 (allPrintable_line _ operation hoperands) _ hmem) (by decide)

/-- Lines without line feeds can be told from all of them together. -/
theorem flatMap_lineFeed_inj {lines others : List (List Char)} (h : ∀ line ∈ lines, '\n' ∉ line)
    (h' : ∀ line ∈ others, '\n' ∉ line) :
    lines.flatMap (· ++ ['\n']) = others.flatMap (· ++ ['\n']) ↔ lines = others := by
  constructor
  · intro heq
    have hpieces := congrArg (List.splitOn '\n') heq
    rw [splitOn_flatMap_lineFeed h, splitOn_flatMap_lineFeed h'] at hpieces
    exact List.append_cancel_right hpieces
  · rintro rfl
    rfl

theorem render_inj (hregistry : registry.Printable) {program other : Program} :
    render registry program = render registry other ↔
      lines registry program = lines registry other := by
  rw [← String.toList_inj, toList_render, toList_render,
    flatMap_lineFeed_inj (fun _ => lineFeed_notMem_lines hregistry)
      fun _ => lineFeed_notMem_lines hregistry]
  exact List.map_inj_right fun _ _ => String.toList_inj.1

end

/-- Two programs have the same listing exactly if they agree in their version, in their
    flags and, one by one, in all that is shown of their settings. No payload is taken
    for another that is shown whole as well, the quote behind a payload and the dots
    of one that is cut are not to be had from other bytes, and no payload reaches
    the next line. -/
theorem render_eq_iff :
    (∀ program other : Program,
      render .snappySense program = render .snappySense other ↔
        program.version = other.version ∧ program.clear = other.clear ∧
          program.save = other.save ∧
          List.Forall₂ Setting.ShownAlike program.settings other.settings) ∧
    (∀ payload other : List UInt8, payload.length ≤ 32 → other.length ≤ 32 →
      preview payload = preview other → payload = other) ∧
    (∀ (payload other : List UInt8) (rest rest' : List Char),
      preview payload ++ '"' :: rest = preview other ++ '"' :: rest' ↔
        payload.take 32 = other.take 32 ∧ (32 < payload.length ↔ 32 < other.length) ∧
          rest = rest') ∧
    (∀ payload : List UInt8, '\n' ∉ preview payload) := by
  refine ⟨fun program other => ?_, fun payload other hshort hshort' h => ?_,
    fun payload other rest rest' => preview_quote_inj, fun payload hmem => ?_⟩
  · rw [render_inj Registry.printable_snappySense, lines_inj Registry.printable_snappySense]
  · have htake := (preview_inj.1 h).1
    rwa [List.take_of_length_le hshort, List.take_of_length_le hshort'] at htake
  · have hprintable := (allPrintable_iff _).1 (allPrintable_preview payload)
    rw [String.toList_ofList] at hprintable
    exact absurd (hprintable _ hmem) (by decide)

/-- Two payloads that are cut can be shown alike. One that ends in three dots and one
    that is cut there are not, and neither are a quote and a backslash with a quote
    behind it. -/
theorem render_eq_iff_dots :
    (∀ save : Bool, render .snappySense ⟨.supported, true,
        [.text 3 (List.replicate 32 0x78 ++ [0x2E])], save⟩ =
      render .snappySense ⟨.supported, true, [.text 3 (List.replicate 33 0x78)], save⟩) ∧
    render .snappySense ⟨.supported, true, [.text 3 (List.replicate 29 0x78 ++ [0x2E, 0x2E, 0x2E])],
        true⟩ ≠
      render .snappySense ⟨.supported, true, [.text 3 (List.replicate 33 0x78)], true⟩ ∧
    preview [0x61, 0x22] ≠ preview [0x61, 0x5C, 0x22] := by
  refine ⟨fun save => ?_, fun h => ?_, fun h => ?_⟩
  · refine (render_eq_iff.1 _ _).2 ⟨rfl, rfl, rfl, .cons (.text 3 ?_ ?_) .nil⟩
    · decide
    · decide
  · have halike := ((render_eq_iff.1 _ _).1 h).2.2.2
    rcases halike with _ | ⟨_ | ⟨_, hlength, _⟩, _⟩
    exact absurd hlength (by decide)
  · exact absurd (render_eq_iff.2.1 _ _ (by decide) (by decide) h) (by decide)

end Listing

end SensorConfig
