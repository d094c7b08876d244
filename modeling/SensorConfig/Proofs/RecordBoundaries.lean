import SensorConfig.Proofs.RecordsReadBack

/-!
# Boundaries of Records

Where the next record begins, told from the bytes alone.

A record has to be read only as far as its length to get behind it. Its code tells
the length, and for a text the two bytes behind the slot tell the rest of it. Nothing
else is looked at, so bytes can be walked from record to record without a registry, a
program or a count of what is to come.

A walk that goes by the bytes stays on the records of a program, as each of them
has the length that its first bytes tell, whatever stands behind it. A text that is
too long would not: it could not tell its length, and a walk would go on in the middle
of its payload. That the program has bytes is all that is needed.

## Main definitions

* `recordLength`: How long the record is that bytes begin with.
* `fromRecord`: Bytes from one of their records on.

## Theorems

* `Setting.recordLength_record_append`: A record of a setting tells its length.
* `fromRecord_flatten`: A walk over records that tell their lengths stays on them.
* `Program.fromRecord_encode`: The bytes of a program from one of its records on.
* `Program.fromRecord_encode_setting`, `Program.fromRecord_encode_stop`: The record of a
  setting in its place, and the last record.
-/

namespace SensorConfig

/-- How long the record is that bytes begin with, by its code and by the length of a
    payload. No other code begins a record. -/
def recordLength : List UInt8 → Nat
  | [] => 0
  | code :: rest =>
      if code = Operation.start.code then 5
      else if code = Operation.stop.code then 2
      else if code = Operation.setInteger.code then 6
      else if code = Operation.setText.code then
        4 + LittleEndian.value ((rest.drop 1).take 2)
      else 0

/-- Bytes from the record on that has so many in front of it. -/
def fromRecord : Nat → List UInt8 → List UInt8
  | 0, bytes => bytes
  | k + 1, bytes => fromRecord k (bytes.drop (recordLength bytes))

/-- The record of a setting tells its length, whatever follows it. -/
theorem Setting.recordLength_record_append {setting : Setting} (h : setting.overlong? = none)
    (rest : List UInt8) : recordLength (setting.record ++ rest) = setting.record.length := by
  rw [length_record]
  cases setting with
  | integer slot value => rfl
  | text slot payload =>
      have hfits : payload.length < LittleEndian.capacity 2 :=
        (lt_capacity_two_iff _).2 ((overlong?_text_eq_none_iff slot payload).1 h)
      -- Behind the slot stands the length, and the length of a text that fits reads back.
      have hfield : (((slot :: (LittleEndian.write 2 payload.length ++ payload)) ++ rest).drop
          1).take 2 = LittleEndian.write 2 payload.length := rfl
      have hlength : recordLength ((text slot payload).record ++ rest) = 4 + LittleEndian.value
          ((((slot :: (LittleEndian.write 2 payload.length ++ payload)) ++ rest).drop 1).take 2) :=
        rfl
      rw [hlength, hfield, LittleEndian.value_write hfits, encodedLength]

/-- Bytes that are records which tell their lengths are walked record by record. -/
theorem fromRecord_flatten {records : List (List UInt8)}
    (h : ∀ record ∈ records, ∀ rest, recordLength (record ++ rest) = record.length) (k : Nat) :
    fromRecord k records.flatten = (records.drop k).flatten := by
  induction k generalizing records with
  | zero => rfl
  | succ k ih =>
      cases records with
      | nil =>
          rw [List.drop_nil]
          exact (ih h).trans (congrArg List.flatten List.drop_nil)
      | cons record records =>
          rw [fromRecord, List.flatten_cons, h record List.mem_cons_self, List.drop_left,
            List.drop_succ_cons]
          exact ih fun other hmem => h other (List.mem_cons_of_mem record hmem)

namespace Program

/-- The bytes of a program from one of its records on are that record and those behind
    it. -/
theorem fromRecord_encode {program : Program} {bytes : List UInt8}
    (h : program.encode = .ok bytes) (k : Nat) :
    fromRecord k bytes = (program.records.drop k).flatten := by
  rcases (program.encode_eq_ok_iff bytes).1 h with ⟨hfits, rfl⟩
  refine fromRecord_flatten (fun record hmem rest => ?_) k
  rcases List.mem_cons.1 hmem with rfl | hmem
  · rfl
  · rcases List.mem_append.1 hmem with hmem | hmem
    · rcases List.mem_map.1 hmem with ⟨setting, hsetting, rfl⟩
      exact Setting.recordLength_record_append
        ((overlong?_eq_none_iff program).1 hfits setting hsetting) rest
    · rw [List.mem_singleton.1 hmem]
      rfl

/-- They are the bytes behind the records in front of it. -/
theorem fromRecord_encode_eq_drop {program : Program} {bytes : List UInt8}
    (h : program.encode = .ok bytes) (k : Nat) :
    fromRecord k bytes = bytes.drop (program.records.take k).flatten.length := by
  have hsplit : bytes = (program.records.take k).flatten ++ (program.records.drop k).flatten := by
    rw [← List.flatten_append, List.take_append_drop]
    exact ((program.encode_eq_ok_iff bytes).1 h).2.symm
  rw [fromRecord_encode h]
  generalize (program.records.take k).flatten = front at hsplit ⊢
  rw [hsplit, List.drop_left]

/-- Behind the first record stands that of each setting in turn. -/
theorem fromRecord_encode_setting {program : Program} {bytes : List UInt8}
    (h : program.encode = .ok bytes) {k : Nat} {setting : Setting}
    (hk : program.settings[k]? = some setting) :
    fromRecord (k + 1) bytes = setting.record ++ fromRecord (k + 2) bytes := by
  rw [fromRecord_encode h, fromRecord_encode h, List.drop_eq_getElem?_toList_append,
    getElem?_records_succ hk, Option.toList_some, List.singleton_append, List.flatten_cons]

/-- Behind those of all settings stands the last record. -/
theorem fromRecord_encode_stop {program : Program} {bytes : List UInt8}
    (h : program.encode = .ok bytes) :
    fromRecord (program.settings.length + 1) bytes = program.stopRecord := by
  rw [fromRecord_encode h, records, List.drop_succ_cons,
    List.drop_left' (List.length_map _), List.flatten_singleton]

end Program

end SensorConfig
