import SensorConfig.Proofs.IntegerValues

/-!
# Bounded Files

What a value in a file gives, however long the file is.

A file is asked for one byte more than a slot takes. That is enough to tell a file
that fits from one that does not, and it is all that a line ever learns of the file.
A content is therefore looked at as far as `Content.take` goes, and two contents
that agree so far are the same to every line. Whether there are as many bytes as
were asked for is the one question that decides about the length. It has the same
answer for a file that ends just there, for one that goes on and for one that never
ends, so `Content.HasAtLeast` asks it without a length.

Of a file that is short enough nothing is lost, and nothing is looked at either
where the variable is a text: the bytes of the file are the payload, and they are
found again in the record. Finding the record takes the way back from a line to its
place. `Program.SaidBy.exists_setting` goes it for all set lines: each has a setting
at the place that it has among the set lines.

## Main definitions

* `Content.HasAtLeast`: A content does not end before a number of bytes.
* `SetsFromFile`: A line sets a variable to the contents of a file.
* `Line.isSetLine`: A line has the form of a set line.

## Theorems

* `Content.length_take_of_hasAtLeast`: Such a content gives as many as are asked for.
* `Operand.readFile_of_content`, `Operand.readFile_of_unreadable`: A file is read as far
  as it is asked for, if it can be.
* `Setting.ofLine_of_setsFromFile`: So is the file of a line.
* `Program.SaidBy.filter_isSetLine`, `Program.SaidBy.map_setLines`: The set lines of a
  program are told by their form, and they are its settings.
* `Program.SaidBy.exists_setting`: A set line has a setting in its place.
* `Setting.exists_record_text`: The bytes of a text.
* `Setting.ofLine_file`: What a line sets whose value is in a file.
-/

namespace SensorConfig

namespace Content

/-- A content has a number of bytes, or more. -/
def HasAtLeast (count : Nat) : Content → Prop
  | finite bytes => count ≤ bytes.length
  | endless _ => True

instance (count : Nat) : (content : Content) → Decidable (content.HasAtLeast count)
  | finite bytes => inferInstanceAs (Decidable (count ≤ bytes.length))
  | endless _ => isTrue trivial

/-- A content that has as many bytes as are asked for gives as many. -/
theorem length_take_of_hasAtLeast {count : Nat} {content : Content}
    (h : content.HasAtLeast count) : (content.take count).length = count := by
  cases content with
  | finite bytes => rw [take, List.length_take, Nat.min_eq_left h]
  | endless byteAt => exact length_take_endless count byteAt

/-- A content that has fewer bytes ends, and it gives all of them. -/
theorem exists_of_not_hasAtLeast {count : Nat} {content : Content}
    (h : ¬ content.HasAtLeast count) :
    ∃ bytes, content = finite bytes ∧ bytes.length < count ∧ content.take count = bytes := by
  cases content with
  | finite bytes =>
      have hlength : bytes.length < count := Nat.not_le.1 h
      exact ⟨bytes, rfl, hlength, List.take_of_length_le (Nat.le_of_lt hlength)⟩
  | endless byteAt => exact absurd trivial h

end Content

/-- A line sets a variable to the contents of a file: it is a set line of the
    variable, and its value is a file name that stands for the path. -/
def SetsFromFile (registry : Registry) (home : Option String) (line : Line) (v : Variable)
    (path : String) : Prop :=
  ∃ set name, SetLine.read? line.text = some set ∧
    registry.lookup? (String.ofList set.name) = some v ∧
    WrittenValue.read? set.value = some ⟨true, name⟩ ∧ name ≠ [] ∧
    Path.expandTilde home name = some path

section

variable {registry : Registry} {environment : Environment}

/-- A file that can be read is refused by the number of bytes that it gives, or it
    gives these bytes. -/
theorem Operand.readFile_of_content {v : Variable} {line : Nat} {name : List Char}
    {path : String} {content : Content} (hname : name ≠ [])
    (hpath : Path.expandTilde environment.home name = some path)
    (hfile : environment.files path = .ok content) :
    readFile environment v line name =
      if maxPayload < (content.take (maxPayload + 1)).length then
        .error (.tooLong line v.name (content.take (maxPayload + 1)).length maxPayload)
      else .ok (.file path (content.take (maxPayload + 1))) := by
  have hread : environment.read path (maxPayload + 1) = .ok (content.take (maxPayload + 1)) :=
    Environment.read_eq_ok_iff.2 ⟨content, hfile, rfl⟩
  rw [readFile, if_neg (mt List.isEmpty_iff.1 hname), hpath]
  simp only [hread, gt_iff_lt]

/-- A file that cannot be read is refused, and the fault shows its path. -/
theorem Operand.readFile_of_unreadable {v : Variable} {line : Nat} {name : List Char}
    {path : String} {cause : Cause} (hname : name ≠ [])
    (hpath : Path.expandTilde environment.home name = some path)
    (hfile : environment.files path = .error cause) :
    readFile environment v line name = .error (.unreadable line path cause) := by
  have hread : environment.read path (maxPayload + 1) = .error cause :=
    Environment.read_eq_error_iff.2 hfile
  rw [readFile, if_neg (mt List.isEmpty_iff.1 hname), hpath]
  simp only [hread]

/-- No set line begins a program. -/
theorem Preamble.read?_of_setLine {text : List Char} {set : SetLine}
    (h : SetLine.read? text = some set) : read? text = none := by
  rcases (SetLine.read?_eq_some_iff text set.name set.value).1 h with ⟨gap, space, hsplit, _⟩
  rw [hsplit.text_eq]
  rfl

/-- Whether a line has the form of a set line. -/
def Line.isSetLine (line : Line) : Bool :=
  (SetLine.read? line.text).isSome

namespace Program.SaidBy

variable {lines : List Line} {program : Program}

/-- The lines of a program that have the form of set lines are those in their places. -/
theorem filter_isSetLine (h : SaidBy registry environment lines program) :
    lines.filter Line.isSetLine = lines.dropLast.drop (firstSetLine lines) := by
  rcases h.parts with ⟨first, clears, sets, last, hlines, hstart, hfirst, _, hclears, hlast, _,
    hmap⟩
  have hpreamble : first.isSetLine = false := by
    rcases (Version.ofLine_eq_ok_iff _ _).1 hfirst with ⟨_, preamble, hpreamble, _⟩
    rw [Line.isSetLine, Option.isSome_eq_false_iff, Option.isNone_iff_eq_none]
    refine Option.eq_none_iff_forall_ne_some.2 fun set hset => ?_
    rw [Preamble.read?_of_setLine hset] at hpreamble
    exact absurd hpreamble (by simp only [reduceCtorEq, not_false_eq_true])
  have hclear : clears.filter Line.isSetLine = [] := by
    rw [List.filter_eq_nil_iff]
    intro line hmem
    have htext : line.text ∈ clears.map Line.text := List.mem_map_of_mem hmem
    rw [hclears] at htext
    split at htext
    · rw [Line.isSetLine, List.mem_singleton.1 htext]
      decide
    · exact absurd htext List.not_mem_nil
  have hends : last.isSetLine = false := by
    rw [Line.isSetLine, (terminator?_eq_some_iff _ _).1 hlast]
    cases program.save with
    | true => decide
    | false => decide
  -- A line that sets something has the form of a set line.
  have hsets : sets.filter Line.isSetLine = sets := by
    rw [List.filter_eq_self]
    intro line hmem
    rcases List.getElem?_of_mem hmem with ⟨k, hk⟩
    rcases Setting.exists_of_getElem? hmap hk with ⟨setting, _, hsetting⟩
    rw [Line.isSetLine, Option.isSome_iff_ne_none]
    exact fun hnone => Setting.text_ne_of_ofLine hnone hsetting rfl
  have hplaces : lines.dropLast.drop (firstSetLine lines) = sets := by
    rw [hstart, hlines, ← List.append_assoc, ← List.cons_append, List.dropLast_concat,
      List.drop_succ_cons, List.drop_left]
  rw [hplaces, hlines, List.filter_cons_of_neg (by rw [hpreamble]; decide), List.filter_append,
    hclear, List.nil_append, List.filter_append, hsets,
    List.filter_cons_of_neg (by rw [hends]; decide), List.filter_nil, List.append_nil]

/-- The settings of a program are what its set lines set, in order. -/
theorem map_setLines (h : SaidBy registry environment lines program) :
    (lines.filter Line.isSetLine).map (Setting.ofLine registry environment) =
      program.settings.map .ok := by
  rw [h.filter_isSetLine, h.map_drop_firstSetLine]

/-- A set line of a program has a setting in its place, and sets it. -/
theorem exists_setting (h : SaidBy registry environment lines program) {line : Line}
    {set : SetLine} (hmem : line ∈ lines) (hset : SetLine.read? line.text = some set) :
    ∃ k setting, lines[firstSetLine lines + k]? = some line ∧
      program.settings[k]? = some setting ∧
      Setting.ofLine registry environment line = .ok setting := by
  have hform : line.isSetLine = true := by
    rw [Line.isSetLine, hset]
    rfl
  rcases List.getElem?_of_mem (List.mem_filter.2 ⟨hmem, hform⟩) with ⟨k, hk⟩
  rcases Setting.exists_of_getElem? h.map_setLines hk with ⟨setting, hsetting, hline⟩
  refine ⟨k, setting, ?_, hsetting, hline⟩
  rw [h.filter_isSetLine, List.getElem?_drop, List.getElem?_dropLast] at hk
  exact (Option.ite_none_right_eq_some.1 hk).2

end Program.SaidBy

namespace Setting

/-- A line whose value is in a file is read as far as the file is. -/
theorem ofLine_of_setsFromFile {line : Line} {v : Variable} {path : String} {content : Content}
    (hline : SetsFromFile registry environment.home line v path)
    (hfile : environment.files path = .ok content) :
    ofLine registry environment line =
      if maxPayload < (content.take (maxPayload + 1)).length then
        .error (.tooLong line.number v.name (content.take (maxPayload + 1)).length maxPayload)
      else ofOperand registry v line.number (.file path (content.take (maxPayload + 1))) := by
  rcases hline with ⟨set, name, hset, hlookup, hvalue, hname, hpath⟩
  rw [ofLine_of_read? hset, ofSetLine, hlookup]
  simp only [Operand.resolve, hvalue, Operand.readFile_of_content hname hpath hfile]
  by_cases hlong : maxPayload < (content.take (maxPayload + 1)).length
  · simp only [hlong, ↓reduceIte]
  · simp only [hlong, ↓reduceIte]

/-- Where a file is makes no difference to what its bytes set. -/
theorem ofOperand_file_path (v : Variable) (line : Nat) (path other : String)
    (bytes : List UInt8) :
    ofOperand registry v line (.file path bytes) =
      ofOperand registry v line (.file other bytes) := by
  rfl

/-- The bytes of a text stand behind its length in two bytes, the lowest first. -/
theorem exists_record_text (slot : UInt8) {payload : List UInt8}
    (h : payload.length ≤ maxPayload) :
    ∃ low high : UInt8, (text slot payload).record = 4 :: slot :: low :: high :: payload ∧
      low.toNat + 256 * high.toNat = payload.length := by
  have hvalue := LittleEndian.value_write ((lt_capacity_two_iff payload.length).2 h)
  refine ⟨_, _, rfl, ?_⟩
  simpa only [LittleEndian.write, LittleEndian.value, Nat.mul_zero, Nat.add_zero] using hvalue

end Setting

end

namespace Setting

/-- A line whose value is in a file depends on the first 65536 bytes of the file
    alone. If there are as many, the file is refused, whatever the bytes and whatever
    the variable. If there are fewer, a text variable is set to the bytes as they are,
    and the bytes stand in the record that the line compiles to. -/
theorem ofLine_file (registry : Registry) (environment : Environment) {line : Line}
    {v : Variable} {path : String} {content : Content}
    (hline : SetsFromFile registry environment.home line v path)
    (hfile : environment.files path = .ok content) :
    (∀ (other : Environment) (path' : String) (content' : Content),
      SetsFromFile registry other.home line v path' → other.files path' = .ok content' →
      content'.take 65536 = content.take 65536 →
        ofLine registry other line = ofLine registry environment line) ∧
    (content.HasAtLeast 65536 →
      ofLine registry environment line = .error (.tooLong line.number v.name 65536 65535)) ∧
    (¬ content.HasAtLeast 65536 → v.kind = .text →
      ∃ bytes, content = .finite bytes ∧
        ofLine registry environment line = .ok (.text v.slot bytes) ∧
        ∀ source program out, line ∈ source.lines →
          (compile registry environment source).1 = .ok (program, out) →
          ∃ (k : Nat) (low high : UInt8), source.lines[firstSetLine source.lines + k]? = some line ∧
            out = (program.records.take (k + 1)).flatten ++
              (4 :: v.slot :: low :: high :: bytes ++ (program.records.drop (k + 2)).flatten) ∧
            low.toNat + 256 * high.toNat = bytes.length) := by
  have hread := ofLine_of_setsFromFile hline hfile
  refine ⟨fun other path' content' hother hfile' hsame => ?_, fun hlong => ?_,
    fun hshort hkind => ?_⟩
  · have htake : content'.take (maxPayload + 1) = content.take (maxPayload + 1) := hsame
    rw [hread, ofLine_of_setsFromFile hother hfile', htake,
      ofOperand_file_path v line.number path' path]
  · have hlength : (content.take (maxPayload + 1)).length = 65536 :=
      Content.length_take_of_hasAtLeast hlong
    rw [hread, hlength]
    rfl
  · rcases Content.exists_of_not_hasAtLeast hshort with ⟨bytes, rfl, hlength, htake⟩
    have hfits : bytes.length ≤ maxPayload := Nat.le_of_lt_succ hlength
    have hset : ofLine registry environment line = .ok (.text v.slot bytes) := by
      have htake' : (Content.finite bytes).take (maxPayload + 1) = bytes := htake
      rw [hread, htake', if_neg (Nat.not_lt.2 hfits)]
      simp only [ofOperand, hkind, ofText, Operand.payload, gt_iff_lt,
        if_neg (Nat.not_lt.2 hfits)]
    refine ⟨bytes, rfl, hset, fun source program out hmem hcompile => ?_⟩
    -- The line has a setting in its place, which is the one that it sets by itself.
    rcases (compile_fst_eq_ok_iff source program out).1 hcompile with ⟨hsource, hencode⟩
    rcases hline with ⟨set, name, hsetLine, _⟩
    rcases ((Program.ofSource_eq_ok_iff source program).1 hsource).exists_setting hmem hsetLine with
      ⟨k, setting, hplace, hsetting, hline⟩
    rw [hset, Except.ok.injEq] at hline
    rw [← hline] at hsetting
    rcases exists_record_text v.slot hfits with ⟨low, high, hrecord, hcount⟩
    refine ⟨k, low, high, hplace, ?_, hcount⟩
    rw [← hrecord]
    exact Program.eq_of_getElem?_settings hencode hsetting

/-- Blanks without end for an integer variable, and a key with a byte that is in no
    text, between a blank and a line feed. -/
theorem ofLine_file_endless :
    ofLine .snappySense ⟨none, fun _ => .ok (.endless fun _ => 0x20)⟩
      ⟨"set enabled @\"v\"".toList, 3⟩ = .error (.tooLong 3 "enabled" 65536 65535) ∧
    ∃ (k : Nat) (low high : UInt8),
      [1, 1, 0, 0, 0, 3, 0, 1, 0, 0, 0, 4, 13, 3, 0, 0x20, 0xFF, 0x0A, 2, 0] =
        ((Program.records ⟨.supported, false, [.integer 0 1, .text 13 [0x20, 0xFF, 0x0A]],
          false⟩).take (k + 1)).flatten ++ (4 :: 13 :: low :: high :: [0x20, 0xFF, 0x0A] ++
        ((Program.records ⟨.supported, false, [.integer 0 1, .text 13 [0x20, 0xFF, 0x0A]],
          false⟩).drop (k + 2)).flatten) ∧
      low.toNat + 256 * high.toNat = 3 := by
  constructor
  · have hline : SetsFromFile .snappySense none ⟨"set enabled @\"v\"".toList, 3⟩
        ⟨"enabled", .integer, 0⟩ "v" :=
      ⟨⟨"enabled".toList, "@\"v\"".toList⟩, "v".toList, by decide, by decide, by decide,
        by decide, by decide⟩
    exact (ofLine_file .snappySense ⟨none, fun _ => .ok (.endless fun _ => 0x20)⟩ hline rfl).2.1
      trivial
  · have hline : SetsFromFile .snappySense none ⟨"set mqtt-private-key @k".toList, 3⟩
        ⟨"mqtt-private-key", .text, 13⟩ "k" :=
      ⟨⟨"mqtt-private-key".toList, "@k".toList⟩, "k".toList, by decide, by decide, by decide,
        by decide, by decide⟩
    rcases (ofLine_file .snappySense ⟨none, fun _ => .ok (.finite [0x20, 0xFF, 0x0A])⟩ hline
      rfl).2.2 (by decide) rfl with ⟨bytes, hbytes, _, hrecord⟩
    cases hbytes
    rcases hrecord (Source.ofText ("snappysense-compiled-config 1.0.0\nset enabled 1\n" ++
      "set mqtt-private-key @k\nend").toList) _ _ (by decide +kernel) rfl with
        ⟨k, low, high, _, hout, hcount⟩
    exact ⟨k, low, high, hout, hcount⟩

end Setting

end SensorConfig
