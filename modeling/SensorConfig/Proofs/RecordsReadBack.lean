import SensorConfig.Records.Decode

/-!
# Records Read Back

Why a device that knows only the codes cannot misread a program.

Records follow one another without anything between them, and a payload may
hold any bytes, those of a stop record among them. What keeps them apart is
that every record says how long it is before its payload begins. Reading is
therefore the inverse of writing in both directions: the records of a program
read back as that program whatever follows them, and bytes that read as a
program begin with its records and with nothing else.

Each piece of a record has such a lemma, an equivalence between reading it and
beginning with its written form, and the lemma of a whole is put together from
those of its pieces. The settings are the one part whose length no field gives.
They need an induction in each direction: over the settings where they are
known, and over the fuel of the reader where only the bytes are.

That no payload can be mistaken for a record is a consequence. Two programs
whose bytes begin the same text are both what that text reads as.

## Theorems

* `decodeFlag?_eq_some_iff`: A flag is read from its byte and from no other.
* `splitBytes?_eq_some_iff`: Bytes are split where the count says.
* `Setting.decode?_eq_some_iff`: A setting is read from its record.
* `Program.decodeSettings?_records_append`: Records up to a stop record read
  back as the settings.
* `Program.eq_records_of_decodeSettings?`: And nothing else reads as those.
* `Program.exists_encode_iff`: A program has bytes if its texts are short enough.
* `Program.decode?_eq_some_iff`: A program is read from its bytes.
* `Program.encode_prefix_code`: The bytes of programs are a prefix code.
-/

namespace SensorConfig

/-- A flag is read from its byte and from no other. -/
theorem decodeFlag?_eq_some_iff (byte : UInt8) (flag : Bool) :
    decodeFlag? byte = some flag ↔ byte = flagByte flag := by
  unfold decodeFlag? flagByte
  by_cases hzero : byte = 0
  · subst hzero
    cases flag <;> simp
  · by_cases hone : byte = 1
    · subst hone
      cases flag <;> simp
    · cases flag <;> simp [hzero, hone]

/-- Bytes are split where the count says, and only if there are so many. -/
theorem splitBytes?_eq_some_iff (count : Nat) (bytes left right : List UInt8) :
    splitBytes? count bytes = some (left, right) ↔ bytes = left ++ right ∧ left.length = count := by
  unfold splitBytes?
  constructor
  · intro h
    simp only [Option.ite_none_right_eq_some, Option.some.injEq, Prod.mk.injEq] at h
    rcases h with ⟨hlength, rfl, rfl⟩
    exact ⟨(List.take_append_drop count bytes).symm, hlength⟩
  · rintro ⟨rfl, rfl⟩
    have htake : (left ++ right).take left.length = left := List.take_left
    have hdrop : (left ++ right).drop left.length = right := List.drop_left
    rw [htake, hdrop, if_pos rfl]

/-- An integer reads back from the four bytes of its two's complement. -/
theorem toInt32_value_write (n : Int32) :
    (UInt32.ofNat (LittleEndian.value (LittleEndian.write 4 n.toUInt32.toNat))).toInt32 = n := by
  have hfits : n.toUInt32.toNat < LittleEndian.capacity 4 := n.toUInt32.toNat_lt
  rw [LittleEndian.value_write hfits, UInt32.ofNat_toNat]
  rfl

/-- Four bytes are the two's complement of the integer that they read as. -/
theorem write_toInt32_value {bytes : List UInt8} (h : bytes.length = 4) :
    LittleEndian.write 4 (UInt32.ofNat (LittleEndian.value bytes)).toInt32.toUInt32.toNat =
      bytes := by
  have hfits : LittleEndian.value bytes < LittleEndian.capacity 4 := h ▸ LittleEndian.value_lt bytes
  have hnat : (UInt32.ofNat (LittleEndian.value bytes)).toInt32.toUInt32.toNat =
      LittleEndian.value bytes := UInt32.toNat_ofNat_of_lt hfits
  rw [hnat, ← h, LittleEndian.write_value]

/-- Two bytes hold the lengths that a text can have. -/
theorem lt_capacity_two_iff (n : Nat) : n < LittleEndian.capacity 2 ↔ n ≤ maxPayload := by
  have hcapacity : LittleEndian.capacity 2 = maxPayload + 1 := by decide
  rw [hcapacity, Nat.lt_add_one_iff]

namespace Setting

/-- A text fits its record if its length fits two bytes. -/
theorem overlong?_text_eq_none_iff (slot : UInt8) (payload : List UInt8) :
    (text slot payload).overlong? = none ↔ payload.length ≤ maxPayload := by
  simp only [overlong?, ite_eq_left_iff, reduceCtorEq, imp_false, Decidable.not_not]

/-- Settings fit their records if the texts among them do. -/
theorem forall_overlong?_eq_none_iff (settings : List Setting) :
    (∀ setting ∈ settings, setting.overlong? = none) ↔
      ∀ slot payload, text slot payload ∈ settings → payload.length ≤ maxPayload := by
  constructor
  · intro h slot payload hmem
    exact (overlong?_text_eq_none_iff slot payload).1 (h _ hmem)
  · intro h setting hmem
    cases setting with
    | integer slot value => rfl
    | text slot payload => exact (overlong?_text_eq_none_iff slot payload).2 (h slot payload hmem)

/-- The record of a setting reads back as the setting, whatever follows it. -/
theorem decode?_record_append {setting : Setting} (h : setting.overlong? = none)
    (rest : List UInt8) : decode? (setting.record ++ rest) = some (setting, rest) := by
  cases setting with
  | integer slot value =>
      have hsplit : splitBytes? 4 (LittleEndian.write 4 value.toUInt32.toNat ++ rest) =
          some (LittleEndian.write 4 value.toUInt32.toNat, rest) :=
        (splitBytes?_eq_some_iff _ _ _ _).2 ⟨rfl, LittleEndian.length_write _ _⟩
      rw [record, List.cons_append, List.cons_append, decode?, if_pos rfl, hsplit]
      simp only [Option.map_some, toInt32_value_write]
  | text slot payload =>
      have hfits : payload.length < LittleEndian.capacity 2 := by
        rw [lt_capacity_two_iff]
        exact (overlong?_text_eq_none_iff slot payload).1 h
      have hlength : splitBytes? 2 (LittleEndian.write 2 payload.length ++ (payload ++ rest)) =
          some (LittleEndian.write 2 payload.length, payload ++ rest) :=
        (splitBytes?_eq_some_iff _ _ _ _).2 ⟨rfl, LittleEndian.length_write _ _⟩
      have hpayload : splitBytes? payload.length (payload ++ rest) = some (payload, rest) :=
        (splitBytes?_eq_some_iff _ _ _ _).2 ⟨rfl, rfl⟩
      have hcode : Operation.setText.code ≠ Operation.setInteger.code := by decide
      rw [record, List.cons_append, List.cons_append, List.append_assoc, decode?, if_neg hcode,
        if_pos rfl, hlength]
      simp only [Option.bind_eq_bind, Option.bind_some, LittleEndian.value_write hfits, hpayload]

/-- Bytes that read as a setting begin with its record, which is not too long. -/
theorem eq_record_append_of_decode? {bytes rest : List UInt8} {setting : Setting}
    (h : decode? bytes = some (setting, rest)) :
    setting.overlong? = none ∧ bytes = setting.record ++ rest := by
  unfold decode? at h
  split at h
  · next code slot tail =>
    by_cases hinteger : code = Operation.setInteger.code
    · rw [if_pos hinteger, Option.map_eq_some_iff] at h
      rcases h with ⟨⟨field, after⟩, hsplit, heq⟩
      rcases (splitBytes?_eq_some_iff _ _ _ _).1 hsplit with ⟨htail, hwidth⟩
      simp only [Prod.mk.injEq] at heq
      rcases heq with ⟨rfl, rfl⟩
      refine ⟨rfl, ?_⟩
      rw [record, write_toInt32_value hwidth, hinteger, htail, List.cons_append, List.cons_append]
    · rw [if_neg hinteger] at h
      by_cases htext : code = Operation.setText.code
      · rw [if_pos htext] at h
        simp only [Option.bind_eq_bind, Option.bind_eq_some_iff, Prod.exists, Option.some.injEq,
          Prod.mk.injEq] at h
        rcases h with ⟨field, tail', hlength, payload, after, hpayload, rfl, rfl⟩
        rcases (splitBytes?_eq_some_iff _ _ _ _).1 hlength with ⟨rfl, hwidth⟩
        rcases (splitBytes?_eq_some_iff _ _ _ _).1 hpayload with ⟨rfl, hcount⟩
        -- Two bytes are the length that they stand for, so the field is the one that is written.
        have hfield : LittleEndian.write 2 payload.length = field := by
          rw [hcount, ← hwidth, LittleEndian.write_value]
        have hfits : payload.length < LittleEndian.capacity 2 := by
          rw [hcount, ← hwidth]
          exact LittleEndian.value_lt field
        refine ⟨(overlong?_text_eq_none_iff slot payload).2 ?_, ?_⟩
        · exact (lt_capacity_two_iff payload.length).1 hfits
        · rw [record, hfield, htext, List.cons_append, List.cons_append, List.append_assoc]
      · rw [if_neg htext] at h
        exact absurd h (by simp only [reduceCtorEq, not_false_eq_true])
  · exact absurd h (by simp only [reduceCtorEq, not_false_eq_true])

/-- A setting is read from its record and from nothing else. -/
theorem decode?_eq_some_iff (bytes : List UInt8) (setting : Setting) (rest : List UInt8) :
    decode? bytes = some (setting, rest) ↔
      setting.overlong? = none ∧ bytes = setting.record ++ rest := by
  constructor
  · intro h
    exact eq_record_append_of_decode? h
  · rintro ⟨hfits, rfl⟩
    exact decode?_record_append hfits rest

/-- A record begins with the code of its operation and is longer than that. -/
theorem record_eq_cons (setting : Setting) :
    ∃ slot tail, setting.record = setting.operation.code :: slot :: tail := by
  cases setting with
  | integer slot value => exact ⟨slot, _, rfl⟩
  | text slot payload => exact ⟨slot, _, rfl⟩

/-- No setting has the code of a stop record. -/
theorem operation_code_ne_stop (setting : Setting) :
    setting.operation.code ≠ Operation.stop.code := by
  cases setting <;> simp only [operation, Operation.code] <;> decide

end Setting

namespace Program

/-- Records of settings and a stop record read back as the settings and the
    flag. One unit of fuel for every byte is enough. -/
theorem decodeSettings?_records_append {settings : List Setting}
    (h : ∀ setting ∈ settings, setting.overlong? = none) (save : Bool) (rest : List UInt8)
    {fuel : Nat} (hfuel : ((settings.map Setting.record).flatten ++
      Operation.stop.code :: flagByte save :: rest).length ≤ fuel) :
    decodeSettings? fuel ((settings.map Setting.record).flatten ++
      Operation.stop.code :: flagByte save :: rest) = some (settings, save, rest) := by
  induction settings generalizing fuel with
  | nil =>
      have hflag : decodeFlag? (flagByte save) = some save := (decodeFlag?_eq_some_iff _ _).2 rfl
      cases fuel with
      | zero => exact absurd hfuel (by simp)
      | succ fuel =>
          simp only [List.map_nil, List.flatten_nil, List.nil_append, decodeSettings?, ↓reduceIte,
            hflag, Option.map_some]
  | cons first others ih =>
      have hothers : ∀ setting ∈ others, setting.overlong? = none :=
        fun setting hmem => h setting (List.mem_cons_of_mem first hmem)
      rw [List.map_cons, List.flatten_cons, List.append_assoc] at hfuel ⊢
      have hread := Setting.decode?_record_append (h first List.mem_cons_self)
        ((others.map Setting.record).flatten ++ Operation.stop.code :: flagByte save :: rest)
      -- The record of the first setting takes more bytes than one unit of fuel.
      rcases first.record_eq_cons with ⟨slot, tail, hrecord⟩
      rw [hrecord, List.cons_append, List.cons_append] at hread hfuel ⊢
      cases fuel with
      | zero => exact absurd hfuel (by simp)
      | succ fuel =>
          have hshort : ((others.map Setting.record).flatten ++
              Operation.stop.code :: flagByte save :: rest).length ≤ fuel := by
            simp only [List.length_cons, List.length_append] at hfuel ⊢
            omega
          simp only [decodeSettings?, first.operation_code_ne_stop, ↓reduceIte, hread,
            Option.bind_eq_bind, Option.bind_some, ih hothers hshort]

/-- Bytes that read as settings and a flag begin with the records of the
    settings and a stop record, whatever the fuel was. -/
theorem eq_records_of_decodeSettings? {fuel : Nat} {bytes rest : List UInt8}
    {settings : List Setting} {save : Bool}
    (h : decodeSettings? fuel bytes = some (settings, save, rest)) :
    (∀ setting ∈ settings, setting.overlong? = none) ∧
      bytes = (settings.map Setting.record).flatten ++
        Operation.stop.code :: flagByte save :: rest := by
  induction fuel generalizing bytes settings with
  | zero => exact absurd h (by simp only [decodeSettings?, reduceCtorEq, not_false_eq_true])
  | succ fuel ih =>
      unfold decodeSettings? at h
      split at h
      · next code flag tail =>
        by_cases hstop : code = Operation.stop.code
        · rw [if_pos hstop, Option.map_eq_some_iff] at h
          rcases h with ⟨save', hflag, heq⟩
          simp only [Prod.mk.injEq] at heq
          rcases heq with ⟨rfl, rfl, rfl⟩
          rw [hstop, (decodeFlag?_eq_some_iff _ _).1 hflag]
          exact ⟨fun setting hmem => absurd hmem List.not_mem_nil, rfl⟩
        · rw [if_neg hstop] at h
          simp only [Option.bind_eq_bind, Option.bind_eq_some_iff, Prod.exists, Option.some.injEq,
            Prod.mk.injEq] at h
          rcases h with ⟨first, after, hfirst, others, save', after', hothers, rfl, rfl, rfl⟩
          rcases (Setting.decode?_eq_some_iff _ _ _).1 hfirst with ⟨hfits, hbytes⟩
          rcases ih hothers with ⟨hall, hafter⟩
          refine ⟨?_, ?_⟩
          · intro setting hmem
            rcases List.mem_cons.1 hmem with rfl | hmem
            · exact hfits
            · exact hall setting hmem
          · rw [hbytes, hafter, List.map_cons, List.flatten_cons, List.append_assoc]
      · exact absurd h (by simp only [reduceCtorEq, not_false_eq_true])

/-- A program has no text that is too long if none of its settings has. -/
theorem overlong?_eq_none_iff (program : Program) :
    program.overlong? = none ↔ ∀ setting ∈ program.settings, setting.overlong? = none := by
  rw [overlong?, List.findSome?_eq_none_iff]

/-- A program has bytes if every text in it fits its length field. -/
theorem exists_encode_iff (program : Program) :
    (∃ bytes, program.encode = .ok bytes) ↔
      ∀ slot payload, Setting.text slot payload ∈ program.settings →
        payload.length ≤ maxPayload := by
  have hfits : (∃ bytes, program.encode = .ok bytes) ↔ program.overlong? = none :=
    ⟨fun ⟨bytes, h⟩ => ((encode_eq_ok_iff program bytes).1 h).1,
      fun h => ⟨_, (encode_eq_ok_iff program _).2 ⟨h, rfl⟩⟩⟩
  rw [hfits, overlong?_eq_none_iff, Setting.forall_overlong?_eq_none_iff]

/-- The bytes of a program are its first record, and then what the settings are
    read from. -/
theorem flatten_records (program : Program) :
    program.records.flatten = Operation.start.code :: program.version.major ::
      program.version.minor :: program.version.patch :: flagByte program.clear ::
        ((program.settings.map Setting.record).flatten ++
          [Operation.stop.code, flagByte program.save]) := by
  rw [records, List.flatten_cons, List.flatten_append, List.flatten_singleton]
  rfl

/-- A program is read from its bytes and from nothing else. -/
theorem decode?_eq_some_iff (bytes : List UInt8) (program : Program) (rest : List UInt8) :
    decode? bytes = some (program, rest) ↔
      ∃ encoded, program.encode = .ok encoded ∧ bytes = encoded ++ rest := by
  constructor
  · intro h
    unfold decode? at h
    split at h
    · next code major minor patch flag tail =>
      by_cases hstart : code = Operation.start.code
      · rw [if_pos hstart] at h
        simp only [Option.bind_eq_bind, Option.bind_eq_some_iff, Prod.exists, Option.some.injEq,
          Prod.mk.injEq] at h
        rcases h with ⟨clear, hclear, settings, save, after, hsettings, rfl, rfl⟩
        rcases eq_records_of_decodeSettings? hsettings with ⟨hall, htail⟩
        refine ⟨_, (encode_eq_ok_iff _ _).2 ⟨(overlong?_eq_none_iff _).2 hall, rfl⟩, ?_⟩
        rw [flatten_records, htail, hstart, (decodeFlag?_eq_some_iff _ _).1 hclear]
        simp only [List.cons_append, List.append_assoc, List.nil_append]
      · rw [if_neg hstart] at h
        exact absurd h (by simp only [reduceCtorEq, not_false_eq_true])
    · exact absurd h (by simp only [reduceCtorEq, not_false_eq_true])
  · rintro ⟨encoded, hencode, rfl⟩
    rcases (encode_eq_ok_iff _ _).1 hencode with ⟨hfits, rfl⟩
    have hclear : decodeFlag? (flagByte program.clear) = some program.clear :=
      (decodeFlag?_eq_some_iff _ _).2 rfl
    have hsettings := decodeSettings?_records_append ((overlong?_eq_none_iff program).1 hfits)
      program.save rest (Nat.le_refl _)
    rw [flatten_records]
    simp only [List.cons_append, List.append_assoc, List.nil_append, decode?, ↓reduceIte, hclear,
      hsettings, Option.bind_eq_bind, Option.bind_some]

/-- The bytes of programs are a prefix code, and reading inverts it. A program
    has bytes exactly if its texts fit their fields; reading gives a program and
    a rest for exactly the bytes that are those of the program and then the
    rest; and two programs whose bytes begin the same text are one program. -/
theorem encode_prefix_code :
    (∀ program : Program, (∃ bytes, program.encode = .ok bytes) ↔
      ∀ slot payload, Setting.text slot payload ∈ program.settings →
        payload.length ≤ maxPayload) ∧
    (∀ (program : Program) (bytes rest : List UInt8),
      decode? bytes = some (program, rest) ↔
        ∃ encoded, program.encode = .ok encoded ∧ bytes = encoded ++ rest) ∧
    ∀ (left right : Program) (leftBytes rightBytes leftRest rightRest : List UInt8),
      left.encode = .ok leftBytes → right.encode = .ok rightBytes →
        leftBytes ++ leftRest = rightBytes ++ rightRest → left = right ∧ leftRest = rightRest := by
  refine ⟨exists_encode_iff, fun program bytes rest => decode?_eq_some_iff bytes program rest, ?_⟩
  intro left right leftBytes rightBytes leftRest rightRest hleft hright heq
  have hreadLeft : decode? (leftBytes ++ leftRest) = some (left, leftRest) :=
    (decode?_eq_some_iff _ _ _).2 ⟨leftBytes, hleft, rfl⟩
  have hreadRight : decode? (leftBytes ++ leftRest) = some (right, rightRest) :=
    (decode?_eq_some_iff _ _ _).2 ⟨rightBytes, hright, heq⟩
  -- The same bytes read as both.
  rw [hreadLeft, Option.some.injEq, Prod.mk.injEq] at hreadRight
  exact hreadRight

/-- A payload that spells a stop record and the start of another program stays
    a payload. -/
theorem encode_prefix_code_imitation :
    decode? ([1, 1, 0, 0, 0, 4, 9, 7, 0, 2, 0, 1, 1, 0, 0, 0, 2, 1] ++ [2, 0]) =
      some (⟨.supported, false, [.text 9 [2, 0, 1, 1, 0, 0, 0]], true⟩, [2, 0]) :=
  (encode_prefix_code.2.1 ⟨.supported, false, [.text 9 [2, 0, 1, 1, 0, 0, 0]], true⟩ _ _).2
    ⟨_, rfl, rfl⟩

end Program

end SensorConfig
