import SensorConfig.Proofs.ListingsCompared
import SensorConfig.Proofs.RecordBoundaries
import SensorConfig.Proofs.SetLineFaults

/-!
# Traced Records

Which line of a source a record comes from.

A name stands in a source and in a listing, and between the two there is only a slot,
which is a number that an integer and a text can share. It is looked up for its name
on the way in, where the variable tells the kind, and for its kind and number on the
way back, where the code of a record tells the kind. A record that had the wrong code
would be shown under the name of another variable, and nothing would be amiss with
it.

Nothing that is compared here comes from the program in between. The set lines are
found in the source by their form, the records among the bytes by their lengths, and
the lines of settings in the text of a listing by their mnemonics. There are as many
of each, and those with the same place belong together: the record is for the name
that its line writes, and the listing shows the name, the slot, and the number or
the length of what the line gives to its variable.

## Main definitions

* `setLinesOf`: The set lines of a text.
* `Listing.setLines`: The lines of a listing that show settings.
* `TracesTo`: A record and the line that shows it, for a name and what it is set to.

## Theorems

* `Supplies.of_resolve`: What a value stands for is what it gives to its variable.
* `Setting.cases_of_ofLine`: What a line sets that sets something.
* `Listing.setLines_render`: A listing shows the settings of a program in order.
* `tracesTo_of_ofLine`: What a line sets can be traced to it.
* `compile_traced`: So can every record.
-/

namespace SensorConfig

/-- The set lines of a text, in order. -/
def setLinesOf (text : List Char) : List Line :=
  (significantLines text).filter Line.isSetLine

namespace Listing

/-- Whether a line of a listing shows a setting: behind its offset stands one of the two
    mnemonics of settings, which begin alike. -/
def showsSetting (line : List Char) : Bool :=
  "  SET".toList.isPrefixOf (line.dropWhile fun c => hexDigits.contains c)

/-- The lines of a listing that show settings, in order. -/
def setLines (listing : List Char) : List (List Char) :=
  (listing.splitOn '\n').filter showsSetting

end Listing

/-- A record and a line of a listing both set a variable to what an operand denotes. The
    name of the variable is that of the slot in the record, for the kind that the code
    of the record stands for. The line shows the name and the slot, and of an integer
    the number, of a text the length and the beginning. -/
inductive TracesTo (registry : Registry) (name : String) (operand : Operand) (offset : Nat) :
    List UInt8 → List Char → Prop where
  | integer {slot : UInt8} {value : Int32} {rest : List UInt8}
      (name?_eq : registry.name? .integer slot = some name)
      (means : operand.Means value.toInt) :
      TracesTo registry name operand offset
        (Operation.setInteger.code :: slot ::
          (LittleEndian.write 4 value.toUInt32.toNat ++ rest))
        (Listing.line offset .setInteger
          (name ++ "[" ++ toString slot.toNat ++ "] = " ++ toString value.toInt)).toList
  | text {slot : UInt8} {rest : List UInt8}
      (name?_eq : registry.name? .text slot = some name) :
      TracesTo registry name operand offset
        (Operation.setText.code :: slot ::
          (LittleEndian.write 2 operand.payload.length ++ (operand.payload ++ rest)))
        (Listing.line offset .setText
          (name ++ "[" ++ toString slot.toNat ++ "] len=" ++ toString operand.payload.length ++
            " \"" ++ String.ofList (Listing.preview operand.payload) ++ "\"")).toList

section

variable {registry : Registry} {environment : Environment}

/-- What a value stands for is what it gives to its variable. -/
theorem Supplies.of_resolve {v : Variable} {line : Nat} {value : List Char} {operand : Operand}
    (h : Operand.resolve environment v line value = .ok operand) :
    ∃ indirect inner, WrittenValue.read? value = some ⟨indirect, inner⟩ ∧
      Supplies environment indirect inner operand := by
  rcases Operand.of_resolve h with
    ⟨text, hread, rfl⟩ | ⟨name, path, bytes, hread, _, hpath, hbytes, rfl⟩
  · exact ⟨false, text, hread, .inline text⟩
  · have hlength := Operand.length_of_resolve h
    rcases Environment.read_eq_ok_iff.1 hbytes with ⟨content, hcontent, rfl⟩
    -- A file that is no longer than a text may be ends, and it was read to its end.
    have hends : ¬ content.HasAtLeast (maxPayload + 1) := by
      intro hlong
      rw [Content.length_take_of_hasAtLeast hlong] at hlength
      omega
    rcases Content.exists_of_not_hasAtLeast hends with ⟨bytes, rfl, _, htake⟩
    rw [htake]
    exact ⟨true, name, hread, .file hpath hcontent⟩

/-- A line that sets something writes the name of a variable, and it sets the slot of the
    variable to what its value gives: the number that this denotes, or its bytes. -/
theorem Setting.cases_of_ofLine {line : Line} {setting : Setting}
    (h : ofLine registry environment line = .ok setting) :
    ∃ name indirect inner operand v, line.Writes name indirect inner ∧
      registry.lookup? (String.ofList name) = some v ∧
      Supplies environment indirect inner operand ∧
      ((v.kind = .integer ∧ ∃ value, operand.Means value.toInt ∧
          setting = .integer v.slot value) ∨
        v.kind = .text ∧ setting = .text v.slot operand.payload) := by
  rw [ofLine] at h
  split at h
  · cases h
  next set hset =>
  split at h
  · cases h
  next v hlookup =>
  split at h
  · cases h
  next operand hoperand =>
  rcases Supplies.of_resolve hoperand with ⟨indirect, inner, hread, hsupplies⟩
  refine ⟨set.name, indirect, inner, operand, v, ?_, hlookup, hsupplies, ?_⟩
  · exact (Line.writes_iff _ _ _ _).2 ⟨set.value, (Line.sets_iff _ _ _).2 hset, hread⟩
  · rw [ofOperand] at h
    cases hkind : v.kind with
    | integer =>
        rw [hkind] at h
        refine Or.inl ⟨rfl, ?_⟩
        rcases ofInteger_cases registry v line.number operand with
          ⟨_, hresult⟩ | ⟨value, hvalue, ⟨_, hresult⟩ | ⟨_, _, _, hresult⟩⟩
        · cases hresult.symm.trans h
        · cases hresult.symm.trans h
          exact ⟨value, (Operand.integer?_eq_some_iff_means operand value).1 hvalue, rfl⟩
        · cases hresult.symm.trans h
    | text =>
        rw [hkind] at h
        simp only [ofText] at h
        split at h
        · cases h
        · cases h
          exact Or.inr ⟨rfl, rfl⟩

namespace Listing

/-- Behind the offset of a line stands its mnemonic, and that tells whether the line shows
    a setting. -/
theorem showsSetting_line (offset : Nat) (operation : Operation) (text : String) :
    showsSetting (line offset operation text).toList =
      match operation with
      | .setInteger | .setText => true
      | .start | .stop => false := by
  have hdigits : ∀ c ∈ (Numeral.hexadecimal 6 offset).toList, hexDigits.contains c = true :=
    fun c hc => List.contains_iff_mem.2 ((showsOffset_hexadecimal offset).digits c hc)
  rw [showsSetting, toList_line, List.append_assoc, List.dropWhile_append_of_pos hdigits]
  cases operation <;> rfl

/-- Of the lines from an offset on, those of settings show settings. -/
theorem filter_linesFrom (program : Program) (settings : List Setting) (offset : Nat) :
    ((linesFrom registry program offset settings).map String.toList).filter showsSetting =
      settings.mapIdx fun k setting =>
        (line (offset + ((settings.map Setting.record).take k).flatten.length)
          setting.operation (operands registry setting)).toList := by
  induction settings generalizing offset with
  | nil =>
      rw [linesFrom, List.map_singleton, List.filter_cons_of_neg, List.filter_nil, List.mapIdx_nil]
      rw [showsSetting_line]
      decide
  | cons setting settings ih =>
      have hshows : showsSetting
          (line offset setting.operation (operands registry setting)).toList = true := by
        rw [showsSetting_line]
        cases setting <;> rfl
      rw [linesFrom, List.map_cons, List.filter_cons_of_pos hshows, ih, List.mapIdx_cons]
      -- The length that the listing adds is that of the record.
      simp only [List.map_cons, List.take_succ_cons, List.flatten_cons, List.length_append,
        Setting.length_record, Nat.add_assoc, List.take_zero, List.flatten_nil, List.length_nil,
        Nat.add_zero]

/-- The lines of a listing that show settings are those of the settings of its program, in
    order and at the offsets of their records. -/
theorem setLines_render (hregistry : registry.Printable) (program : Program) :
    setLines (render registry program).toList =
      program.settings.mapIdx fun k setting =>
        (line (program.records.take (k + 1)).flatten.length setting.operation
          (operands registry setting)).toList := by
  have hstart : showsSetting (line 0 .start (startOperands program)).toList = false :=
    showsSetting_line _ _ _
  have hnone : [([] : List Char)].filter showsSetting = [] := by decide
  have hlength : program.startRecord.length = 5 := rfl
  rw [setLines, toList_render, splitOn_flatMap_lineFeed fun _ => lineFeed_notMem_lines hregistry,
    List.filter_append, hnone, List.append_nil, lines, List.map_cons,
    List.filter_cons_of_neg (by rw [hstart]; decide), filter_linesFrom]
  refine List.ext_getElem? fun k => ?_
  rw [List.getElem?_mapIdx, List.getElem?_mapIdx]
  cases hk : program.settings[k]? with
  | none => rw [Option.map_none, Option.map_none]
  | some setting =>
      -- The records in front are the first one and those of settings.
      have hle : k ≤ (program.settings.map Setting.record).length := by
        rw [List.length_map]
        exact Nat.le_of_lt (List.getElem?_eq_some_iff.1 hk).1
      rw [Program.records, List.take_succ_cons, List.take_append_of_le_length hle,
        List.flatten_cons, List.length_append, hlength]

end Listing

/-- What a line sets can be traced to it: from the record of the setting, and from the
    line of a listing that shows the setting. -/
theorem tracesTo_of_ofLine (hregistry : registry.Printable) {line : Line} {setting : Setting}
    (h : Setting.ofLine registry environment line = .ok setting) (offset : Nat)
    (rest : List UInt8) :
    ∃ name indirect inner operand, line.Writes name indirect inner ∧
      Supplies environment indirect inner operand ∧ String.ofList name ≠ "?" ∧
      TracesTo registry (String.ofList name) operand offset (setting.record ++ rest)
        (Listing.line offset setting.operation (Listing.operands registry setting)).toList := by
  rcases Setting.cases_of_ofLine h with
    ⟨name, indirect, inner, operand, v, hwrites, hlookup, hsupplies, hsetting⟩
  have hname := Registry.name_of_lookup? hlookup
  have hslot := hregistry.name?_eq v (Registry.mem_of_lookup? hlookup)
  -- The mark of a slot without a name is in no name.
  have hmark : String.ofList name ≠ "?" := by
    intro hmark
    have hchars := hregistry.chars v (Registry.mem_of_lookup? hlookup) '?'
    rw [hname, hmark] at hchars
    exact absurd (hchars (by decide)) (by decide)
  refine ⟨name, indirect, inner, operand, hwrites, hsupplies, hmark, ?_⟩
  rw [hname] at hslot
  rcases hsetting with ⟨hkind, value, hmeans, rfl⟩ | ⟨hkind, rfl⟩
  · rw [hkind] at hslot
    have hoperands : Listing.operands registry (.integer v.slot value) =
        String.ofList name ++ "[" ++ toString v.slot.toNat ++ "] = " ++ toString value.toInt := by
      simp only [Listing.operands, Setting.kind, Setting.slot, hslot, Option.getD_some]
    rw [hoperands]
    exact .integer hslot hmeans
  · rw [hkind] at hslot
    have hoperands : Listing.operands registry (.text v.slot operand.payload) =
        String.ofList name ++ "[" ++ toString v.slot.toNat ++ "] len=" ++
          toString operand.payload.length ++ " \"" ++
            String.ofList (Listing.preview operand.payload) ++ "\"" := by
      simp only [Listing.operands, Setting.kind, Setting.slot, hslot, Option.getD_some]
    rw [hoperands, Setting.record, List.cons_append, List.cons_append, List.append_assoc]
    exact .text hslot

end

/-- Every record of a setting can be traced to the line of the source that it comes from.
    A text that compiles has as many set lines as there are records between the first and
    the last, and as many as a listing has lines for settings. The record and the line of
    the listing that have the same place as a set line are for the variable whose name
    that line writes. The record has the code for the kind of the variable and its slot,
    and the listing shows the name, never a mark in its place, with the slot, and with
    the number or the number of bytes that the line's value gives. -/
theorem compile_traced (environment : Environment) (text : List Char) {program : Program}
    {bytes : List UInt8}
    (h : (compile .snappySense environment (Source.ofText text)).1 = .ok (program, bytes)) :
    let sets := setLinesOf text
    let shown := Listing.setLines (Listing.render .snappySense program).toList
    shown.length = sets.length ∧
    fromRecord (sets.length + 1) bytes = [Operation.stop.code, flagByte program.save] ∧
    ∀ k line, sets[k]? = some line →
      ∃ name indirect inner operand offset shownLine, line.Writes name indirect inner ∧
        Supplies environment indirect inner operand ∧ shown[k]? = some shownLine ∧
        fromRecord (k + 1) bytes = bytes.drop offset ∧ String.ofList name ≠ "?" ∧
        TracesTo .snappySense (String.ofList name) operand offset (fromRecord (k + 1) bytes)
          shownLine := by
  intro sets shown
  rcases (compile_fst_eq_ok_iff _ program bytes).1 h with ⟨hsource, hencode⟩
  rw [Program.ofSource_eq_ok_iff, Source.lines_ofText] at hsource
  have hsets : sets.map (Setting.ofLine .snappySense environment) = program.settings.map .ok :=
    hsource.map_setLines
  have hcount : sets.length = program.settings.length := by
    have hlength := congrArg List.length hsets
    rwa [List.length_map, List.length_map] at hlength
  have hshown : shown = _ := Listing.setLines_render Registry.printable_snappySense program
  refine ⟨?_, ?_, fun k line hline => ?_⟩
  · rw [hshown, List.length_mapIdx, hcount]
  · rw [hcount, Program.fromRecord_encode_stop hencode]
    rfl
  · -- The setting in the place of the line is the one that the line sets.
    rcases Setting.exists_of_getElem? hsets hline with ⟨setting, hsetting, hresult⟩
    rcases tracesTo_of_ofLine Registry.printable_snappySense hresult
      (program.records.take (k + 1)).flatten.length (fromRecord (k + 2) bytes) with
      ⟨name, indirect, inner, operand, hwrites, hsupplies, hmark, htraces⟩
    rw [← Program.fromRecord_encode_setting hencode hsetting] at htraces
    refine ⟨name, indirect, inner, operand, _, _, hwrites, hsupplies, ?_,
      Program.fromRecord_encode_eq_drop hencode (k + 1), hmark, htraces⟩
    rw [hshown, List.getElem?_mapIdx, hsetting, Option.map_some]

/-- Slot 0 of the integers and slot 0 of the texts, with a comment between the two and the
    text in a file. The second record is for the text. -/
theorem compile_traced_slots :
    ∃ operand offset shownLine,
      Supplies ⟨none, fun _ => .ok (.finite [0x41, 0x0A])⟩ true ['f'] operand ∧
      TracesTo .snappySense "device-id" operand offset [4, 0, 2, 0, 0x41, 0x0A, 2, 1] shownLine ∧
      (Listing.setLines (Listing.render .snappySense ⟨.supported, false,
        [.integer 0 1, .text 0 [0x41, 0x0A]], true⟩).toList)[1]? = some shownLine := by
  have hcompile : (compile .snappySense ⟨none, fun _ => .ok (.finite [0x41, 0x0A])⟩
      (Source.ofText ("snappysense-compiled-config 1.0.0\nset enabled 1\n# set ssid1 x\n" ++
        "set device-id @f\nsave\n").toList)).1 =
      .ok (⟨.supported, false, [.integer 0 1, .text 0 [0x41, 0x0A]], true⟩,
        [1, 1, 0, 0, 0, 3, 0, 1, 0, 0, 0, 4, 0, 2, 0, 0x41, 0x0A, 2, 1]) := by
    decide +kernel
  have hline : (setLinesOf ("snappysense-compiled-config 1.0.0\nset enabled 1\n# set ssid1 x\n" ++
      "set device-id @f\nsave\n").toList)[1]? = some ⟨"set device-id @f".toList, 4⟩ := by decide
  rcases (compile_traced _ _ hcompile).2.2 1 _ hline with
    ⟨name, indirect, inner, operand, offset, shownLine, hwrites, hsupplies, hshown, _, _, htraces⟩
  have hwritten : Line.Writes ⟨"set device-id @f".toList, 4⟩ "device-id".toList true ['f'] :=
    (Line.writes_iff _ _ _ _).2 ⟨"@f".toList, (Line.sets_iff _ _ _).2 (by decide), by decide⟩
  rcases hwritten.unique hwrites with ⟨rfl, rfl, rfl⟩
  exact ⟨operand, offset, shownLine, hsupplies, htraces, hshown⟩

end SensorConfig
