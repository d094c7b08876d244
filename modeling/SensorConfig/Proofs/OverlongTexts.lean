import Mathlib.Algebra.Ring.Nat
import SensorConfig.Fault
import SensorConfig.Proofs.RecordsReadBack

/-!
# Overlong Texts

Which text keeps a program from having bytes.

A program has bytes or it does not, and `Program.encode` decides this before it puts
anything down: it looks for a text that is too long among all settings. A writer
cannot work like that if it has only one pass. It puts the records into a buffer one
after another, looks at the length of a text when it comes to it, and gives up there
with the buffer partly filled. `Program.write` is that writer.

The two are the same, which is why the fault is always that of the first text that
is too long. What carries the induction is a buffer that holds anything: from there
the settings are all written behind it, or the first of them that cannot be written
is reported and the buffer does not matter. So neither what was written before nor
what would come later can change which text is blamed.

## Main definitions

* `Setting.append`: Write the record of a setting behind others.
* `Program.write`: Write a program in one pass.

## Theorems

* `Setting.append_eq`: What one setting does to a buffer.
* `foldlM_append`: What several do, one after another.
* `Program.write_eq_encode`: A program is written in one pass.
* `Program.encode_eq_error_iff`: When a program has none.
* `Program.encode_firstOverlong`: A program has bytes, or its first text that is too
  long is reported.
-/

namespace SensorConfig

namespace Setting

/-- The record of a setting written behind what a buffer holds. A text that is too
    long is reported instead. -/
def append (buffer : List UInt8) : Setting → Except Overlong (List UInt8)
  | integer slot value =>
      .ok (buffer ++ Operation.setInteger.code :: slot ::
        LittleEndian.write 4 value.toUInt32.toNat)
  | text slot payload =>
      if payload.length ≤ maxPayload then
        .ok (buffer ++ Operation.setText.code :: slot ::
          (LittleEndian.write 2 payload.length ++ payload))
      else .error ⟨slot, payload.length⟩

/-- A setting is written behind anything, or its text is too long and is reported,
    whatever the buffer holds. -/
theorem append_eq (setting : Setting) (buffer : List UInt8) :
    append buffer setting =
      match setting.overlong? with
      | some overlong => .error overlong
      | none => .ok (buffer ++ setting.record) := by
  cases setting with
  | integer slot value => rfl
  | text slot payload =>
      rw [append, overlong?]
      split
      · rfl
      · rfl

end Setting

/-- Settings are written behind anything, one after another, or the first of them that
    has a text that is too long is reported. -/
theorem foldlM_append (settings : List Setting) (buffer : List UInt8) :
    settings.foldlM Setting.append buffer =
      match settings.findSome? Setting.overlong? with
      | some overlong => .error overlong
      | none => .ok (buffer ++ (settings.map Setting.record).flatten) := by
  induction settings generalizing buffer with
  | nil =>
      rw [List.map_nil, List.flatten_nil, List.append_nil]
      rfl
  | cons setting settings ih =>
      rw [List.foldlM_cons, List.findSome?_cons, Setting.append_eq]
      -- What cannot be written ends the pass, and the rest is written behind what can.
      cases setting.overlong? with
      | some overlong => rfl
      | none =>
          refine (ih (buffer ++ setting.record)).trans ?_
          rw [List.map_cons, List.flatten_cons, List.append_assoc]

namespace Program

/-- A program written in one pass: the first record, the settings one after another,
    and the last record. -/
def write (program : Program) : Except Overlong (List UInt8) := do
  let written ← program.settings.foldlM Setting.append program.startRecord
  return written ++ program.stopRecord

/-- Writing in one pass gives the bytes that a program has, and the same fault if it
    has none. -/
theorem write_eq_encode (program : Program) : program.write = program.encode := by
  rw [write, foldlM_append, encode, overlong?]
  cases program.settings.findSome? Setting.overlong? with
  | some overlong => rfl
  | none =>
      rw [records, List.flatten_cons, List.flatten_append, List.flatten_singleton,
        ← List.append_assoc]
      rfl

/-- A program has no bytes exactly if a text is too long, and the first such text is
    reported. -/
theorem encode_eq_error_iff (program : Program) (overlong : Overlong) :
    program.encode = .error overlong ↔
      ∃ before setting after, program.settings = before ++ setting :: after ∧
        (∀ other ∈ before, other.overlong? = none) ∧ setting.overlong? = some overlong := by
  have hfirst : program.encode = .error overlong ↔ program.overlong? = some overlong := by
    rw [encode]
    cases program.overlong? with
    | some found => simp only [Except.error.injEq, Option.some.injEq]
    | none => simp only [reduceCtorEq]
  rw [hfirst, Program.overlong?, List.findSome?_eq_some_iff]
  simp only [and_comm]

/-- A count of settings from the last one on is their sum. -/
theorem encodedLength_eq_sum (program : Program) :
    program.encodedLength = 5 + (program.settings.map Setting.encodedLength).sum + 2 := by
  rw [encodedLength, List.sum, List.foldr_map]

/-- A program is written in one pass. It has bytes exactly if every text in it has at most
    65535, and then there are as many as the program counts: five and two around six for
    an integer, and four and the payload for a text. Otherwise the first text that is too
    long is reported with its slot and its length, whatever stands before and behind it.
    As a fault of a compilation it is one of length and has no line. -/
theorem encode_firstOverlong (program : Program) :
    program.write = program.encode ∧
    ((∃ bytes, program.encode = .ok bytes) ↔
      ∀ slot payload, Setting.text slot payload ∈ program.settings → payload.length ≤ 65535) ∧
    (∀ bytes, program.encode = .ok bytes → bytes.length = program.encodedLength) ∧
    program.encodedLength = 5 + (program.settings.map fun
      | .integer .. => 6
      | .text _ payload => 4 + payload.length).sum + 2 ∧
    (∀ overlong, program.encode = .error overlong ↔
      ∃ before slot payload after, program.settings = before ++ .text slot payload :: after ∧
        (∀ slot payload, Setting.text slot payload ∈ before → payload.length ≤ 65535) ∧
        65535 < payload.length ∧ overlong = ⟨slot, payload.length⟩) ∧
    ∀ overlong, (Fault.overlong overlong).kind = .length ∧
      (Fault.overlong overlong).line? = none := by
  refine ⟨program.write_eq_encode, exists_encode_iff program, fun bytes hbytes => ?_,
    encodedLength_eq_sum program, fun overlong => ?_, fun overlong => ⟨rfl, rfl⟩⟩
  · rw [← ((program.encode_eq_ok_iff bytes).1 hbytes).2, length_flatten_records]
  · rw [encode_eq_error_iff]
    constructor
    · rintro ⟨before, setting, after, hsplit, hfits, hsetting⟩
      rcases (setting.overlong?_eq_some_iff overlong).1 hsetting with
        ⟨slot, payload, rfl, hlong, rfl⟩
      exact ⟨before, slot, payload, after, hsplit,
        (Setting.forall_overlong?_eq_none_iff before).1 hfits, hlong, rfl⟩
    · rintro ⟨before, slot, payload, after, hsplit, hfits, hlong, rfl⟩
      exact ⟨before, .text slot payload, after, hsplit,
        (Setting.forall_overlong?_eq_none_iff before).2 hfits,
        (Setting.overlong?_eq_some_iff _ _).2 ⟨slot, payload, rfl, hlong, rfl⟩⟩

/-- Two texts that are too long, the second by more. The first is reported, in a slot
    that no registry knows and behind a text that just fits. -/
theorem encode_firstOverlong_two :
    encode ⟨.supported, false, [.integer 0 1, .text 9 (List.replicate 65535 0),
      .text 200 (List.replicate 65536 7), .text 3 (List.replicate 70000 0)], true⟩ =
        .error ⟨200, 65536⟩ := by
  refine ((encode_firstOverlong _).2.2.2.2.1 _).2
    ⟨[.integer 0 1, .text 9 (List.replicate 65535 0)], 200, List.replicate 65536 7,
      [.text 3 (List.replicate 70000 0)], rfl, ?_, ?_, ?_⟩
  · intro slot payload hmem
    simp only [List.mem_cons, reduceCtorEq, Setting.text.injEq, List.not_mem_nil, or_false,
      false_or] at hmem
    exact Nat.le_of_eq (hmem.2 ▸ List.length_replicate)
  · rw [List.length_replicate]
    decide
  · rw [List.length_replicate]

end Program

end SensorConfig
