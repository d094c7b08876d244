import SensorConfig.Program
import SensorConfig.Records.LittleEndian

/-!
# Records

A program as the bytes that a device reads.

The bytes are records without anything between them. Each begins with the code
of its operation, and the rest has a length that the code and at most one
length field fix:

    start         01  major minor patch  clear
    set integer   03  slot  value in four bytes
    set text      04  slot  length in two bytes  payload
    stop          02  save

Numbers are little-endian and integers are in two's complement. There is one
start record, then one record a setting, then one stop record.

The one thing that cannot be written is a text whose length does not fit its
field. The first such text in the program is the one that is reported.

## Main definitions

* `Operation`: The four operations, with their codes and mnemonics.
* `Overlong`: Why a program has no bytes.
* `Setting.record`: The record of a setting.
* `Program.records`: The records of a program.
* `Program.encode`: The bytes of a program.

## Theorems

* `Setting.length_record`: A record takes the bytes that the program counts.
* `Program.length_flatten_records`: So do the records together.
* `Program.flatten_of_getElem?`: Where a record stands among the bytes.
* `Program.getElem?_records_succ`: The record of a setting has its place.
* `Program.encode_eq_ok_iff`: A program has bytes unless a text is too long.
-/

namespace SensorConfig

/-- What a record tells the device to do. -/
inductive Operation where
  | start
  | stop
  | setInteger
  | setText
  deriving DecidableEq, Repr

namespace Operation

/-- The byte that a record of the operation begins with. -/
def code : Operation → UInt8
  | start => 1
  | stop => 2
  | setInteger => 3
  | setText => 4

/-- The name that listings use. -/
def mnemonic : Operation → String
  | start => "START"
  | stop => "STOP"
  | setInteger => "SETI"
  | setText => "SETS"

end Operation

/-- A text that is too long for its length field. -/
structure Overlong where
  slot : UInt8
  length : Nat
  deriving DecidableEq, Repr

/-- A flag as one byte. -/
def flagByte (flag : Bool) : UInt8 :=
  if flag then 1 else 0

namespace Setting

/-- The operation that carries a setting out. -/
def operation : Setting → Operation
  | integer .. => .setInteger
  | text .. => .setText

/-- The record of a setting. A text that is too long would lose the high part
    of its length. -/
def record : Setting → List UInt8
  | integer slot value =>
      Operation.setInteger.code :: slot :: LittleEndian.write 4 value.toUInt32.toNat
  | text slot payload =>
      Operation.setText.code :: slot :: (LittleEndian.write 2 payload.length ++ payload)

/-- What is wrong with a setting whose text is too long for its record. -/
def overlong? : Setting → Option Overlong
  | integer .. => none
  | text slot payload =>
      if payload.length ≤ maxPayload then none else some ⟨slot, payload.length⟩

/-- A record takes the bytes that the program counts for it. -/
theorem length_record (setting : Setting) : setting.record.length = setting.encodedLength := by
  cases setting with
  | integer slot value => rfl
  | text slot payload =>
      simp only [record, encodedLength, List.length_cons, List.length_append,
        LittleEndian.length_write]
      omega

/-- A setting is too long for its record by its text, and by nothing else. -/
theorem overlong?_eq_some_iff (setting : Setting) (overlong : Overlong) :
    setting.overlong? = some overlong ↔
      ∃ slot payload, setting = .text slot payload ∧ maxPayload < payload.length ∧
        overlong = ⟨slot, payload.length⟩ := by
  cases setting with
  | integer slot value => simp [overlong?]
  | text slot payload =>
      simp only [overlong?, Option.ite_none_left_eq_some, Nat.not_le, Option.some.injEq]
      constructor
      · rintro ⟨hlong, rfl⟩
        exact ⟨slot, payload, rfl, hlong, rfl⟩
      · rintro ⟨_, _, heq, hlong, rfl⟩
        simp only [text.injEq] at heq
        rcases heq with ⟨rfl, rfl⟩
        exact ⟨hlong, rfl⟩

end Setting

namespace Program

/-- The first record: the version and whether to forget what was set before. -/
def startRecord (program : Program) : List UInt8 :=
  Operation.start.code :: (program.version.bytes ++ [flagByte program.clear])

/-- The last record: whether to keep what was set. -/
def stopRecord (program : Program) : List UInt8 :=
  [Operation.stop.code, flagByte program.save]

/-- The records of a program, in order. -/
def records (program : Program) : List (List UInt8) :=
  program.startRecord :: (program.settings.map Setting.record ++ [program.stopRecord])

/-- The first text of a program that is too long for its record. -/
def overlong? (program : Program) : Option Overlong :=
  program.settings.findSome? Setting.overlong?

/-- The bytes of a program: its records, one after another. A text that is too
    long keeps it from having any. -/
def encode (program : Program) : Except Overlong (List UInt8) :=
  match program.overlong? with
  | some overlong => .error overlong
  | none => .ok program.records.flatten

/-- The records take the bytes that the program counts for them. -/
theorem length_flatten_records (program : Program) :
    program.records.flatten.length = program.encodedLength := by
  have hsettings : ∀ settings : List Setting,
      (settings.map Setting.record).flatten.length =
        settings.foldr (fun setting count => setting.encodedLength + count) 0 := by
    intro settings
    induction settings with
    | nil => rfl
    | cons setting settings ih =>
        rw [List.map_cons, List.flatten_cons, List.length_append, ih, Setting.length_record,
          List.foldr_cons]
  -- The two records around the settings have a fixed length.
  have hstart : program.startRecord.length = 5 := rfl
  have hstop : program.stopRecord.length = 2 := rfl
  rw [records, List.flatten_cons, List.flatten_append, List.length_append, List.length_append,
    hsettings, List.flatten_singleton, hstart, hstop, encodedLength]
  omega

/-- A record stands between those in front of it and those behind. -/
theorem flatten_of_getElem? {records : List (List UInt8)} {k : Nat} {record : List UInt8}
    (h : records[k]? = some record) :
    records.flatten = (records.take k).flatten ++ (record ++ (records.drop (k + 1)).flatten) := by
  have hsplit := List.take_append_drop k records
  rw [List.drop_eq_getElem?_toList_append, h] at hsplit
  calc records.flatten = (records.take k ++ ([record] ++ records.drop (k + 1))).flatten :=
        congrArg List.flatten hsplit.symm
    _ = (records.take k).flatten ++ (record ++ (records.drop (k + 1)).flatten) := by
        rw [List.flatten_append, List.singleton_append, List.flatten_cons]

/-- The record of a setting stands behind the first record and those of the settings
    before it. -/
theorem getElem?_records_succ {program : Program} {k : Nat} {setting : Setting}
    (h : program.settings[k]? = some setting) : program.records[k + 1]? = some setting.record := by
  have hlt : k < (program.settings.map Setting.record).length := by
    rw [List.length_map]
    exact (List.getElem?_eq_some_iff.1 h).1
  rw [records, List.getElem?_cons_succ, List.getElem?_append_left hlt, List.getElem?_map, h,
    Option.map_some]

/-- A program has bytes if no text is too long, and they are its records. -/
theorem encode_eq_ok_iff (program : Program) (bytes : List UInt8) :
    program.encode = .ok bytes ↔
      program.overlong? = none ∧ program.records.flatten = bytes := by
  rw [encode]
  split
  · next h => simp [h]
  · next h => simp [h]

example : encode ⟨.supported, false, [], false⟩ = .ok [1, 1, 0, 0, 0, 2, 0] := rfl

example : encode ⟨.supported, false, [.integer 4 (-2), .text 9 [0x61, 0x62, 0x63]], true⟩ =
    .ok [1, 1, 0, 0, 0, 3, 4, 0xFE, 0xFF, 0xFF, 0xFF, 4, 9, 3, 0, 0x61, 0x62, 0x63, 2, 1] := rfl

end Program

end SensorConfig
