/-!
# Little-Endian Numbers

Numbers as bytes, the lowest first.

A field of a record is a fixed number of bytes. Writing keeps the low bytes of
a number, so it loses nothing exactly when the number fits the width, and every
list of bytes is the written form of the number it stands for.

## Main definitions

* `write`: The low bytes of a number, a given number of them.
* `value`: The number that bytes stand for.
* `capacity`: How many numbers a field can hold.

## Theorems

* `length_write`: A field has the width that was asked for.
* `value_write`: A number that fits reads back.
* `write_value`: Bytes that are read write back.
* `value_lt`: Bytes stand for a number that fits them.
-/

namespace SensorConfig

namespace LittleEndian

/-- The low bytes of a number, `width` of them, the lowest first. -/
def write : Nat → Nat → List UInt8
  | 0, _ => []
  | width + 1, n => UInt8.ofNat (n % 256) :: write width (n / 256)

/-- The number that bytes stand for, the lowest first. -/
def value : List UInt8 → Nat
  | [] => 0
  | byte :: bytes => byte.toNat + 256 * value bytes

/-- How many numbers a field of `width` bytes can hold. -/
def capacity : Nat → Nat
  | 0 => 1
  | width + 1 => 256 * capacity width

/-- A field has the width that was asked for. -/
@[simp]
theorem length_write (width n : Nat) : (write width n).length = width := by
  induction width generalizing n with
  | zero => rfl
  | succ width ih => simp only [write, List.length_cons, ih]

/-- Bytes stand for a number that fits them. -/
theorem value_lt (bytes : List UInt8) : value bytes < capacity bytes.length := by
  induction bytes with
  | nil => exact Nat.zero_lt_one
  | cons byte bytes ih =>
      have hbyte : byte.toNat < 256 := byte.toNat_lt
      simp only [value, List.length_cons, capacity]
      omega

/-- A number that fits its field reads back. -/
theorem value_write {width n : Nat} (h : n < capacity width) : value (write width n) = n := by
  induction width generalizing n with
  | zero =>
      simp only [capacity, Nat.lt_one_iff] at h
      rw [h, write, value]
  | succ width ih =>
      -- What is left above the low byte fits what is left of the field.
      have hrest : n / 256 < capacity width := by
        rw [capacity] at h
        omega
      have hbyte : (UInt8.ofNat (n % 256)).toNat = n % 256 := by
        rw [UInt8.toNat_ofNat']
        omega
      rw [write, value, ih hrest, hbyte]
      omega

/-- Bytes that are read write back. -/
theorem write_value (bytes : List UInt8) : write bytes.length (value bytes) = bytes := by
  induction bytes with
  | nil => rfl
  | cons byte bytes ih =>
      have hbyte : byte.toNat < 256 := byte.toNat_lt
      -- The lowest byte is the remainder, and the others are the quotient.
      have hlow : (byte.toNat + 256 * value bytes) % 256 = byte.toNat := by omega
      have hhigh : (byte.toNat + 256 * value bytes) / 256 = value bytes := by omega
      rw [List.length_cons, value, write, hlow, hhigh, ih, UInt8.ofNat_toNat]

example : write 4 8883 = [0xB3, 0x22, 0, 0] := by decide

end LittleEndian

end SensorConfig
