import SensorConfig.Records

/-!
# Reading Records

The bytes of a program, read back.

This is what a device does with them. A reader takes the start record, then one
record after another until a stop record, and returns the program with the
bytes that follow. It has to know nothing but the codes: each record says how
long it is before its payload begins, so a payload is passed over whatever it
contains.

Reading is strict. A flag is `0` or `1`, every code is one of the four, and
bytes that end inside a record are not a program.

## Main definitions

* `decodeFlag?`: A flag from its byte.
* `Setting.decode?`: One setting and the bytes after its record.
* `Program.decode?`: A program and the bytes after its records.
-/

namespace SensorConfig

/-- A flag from its byte. -/
def decodeFlag? (byte : UInt8) : Option Bool :=
  if byte = 0 then some false else if byte = 1 then some true else none

/-- The first `count` bytes and the others, if there are so many. -/
def splitBytes? (count : Nat) (bytes : List UInt8) : Option (List UInt8 × List UInt8) :=
  if (bytes.take count).length = count then some (bytes.take count, bytes.drop count) else none

namespace Setting

/-- The setting whose record begins the bytes, and the bytes after it. -/
def decode? : List UInt8 → Option (Setting × List UInt8)
  | code :: slot :: rest =>
      if code = Operation.setInteger.code then
        (splitBytes? 4 rest).map fun (value, rest) =>
          (.integer slot (UInt32.ofNat (LittleEndian.value value)).toInt32, rest)
      else if code = Operation.setText.code then do
        let (length, rest) ← splitBytes? 2 rest
        let (payload, rest) ← splitBytes? (LittleEndian.value length) rest
        some (.text slot payload, rest)
      else none
  | _ => none

end Setting

namespace Program

/-- The settings up to the stop record, its flag, and the bytes after it. No
    record is empty, so there are at most as many as `fuel` when that is the
    number of bytes. -/
def decodeSettings? : (fuel : Nat) → List UInt8 → Option (List Setting × Bool × List UInt8)
  | 0, _ => none
  | fuel + 1, bytes =>
      match bytes with
      | code :: flag :: rest =>
          if code = Operation.stop.code then
            (decodeFlag? flag).map fun save => ([], save, rest)
          else do
            -- Any other code is that of a setting, whose record begins with it.
            let (setting, rest) ← Setting.decode? bytes
            let (settings, save, rest) ← decodeSettings? fuel rest
            some (setting :: settings, save, rest)
      | _ => none

/-- The program whose records begin the bytes, and the bytes after them. -/
def decode? : List UInt8 → Option (Program × List UInt8)
  | code :: major :: minor :: patch :: flag :: rest =>
      if code = Operation.start.code then do
        let clear ← decodeFlag? flag
        let (settings, save, rest) ← decodeSettings? rest.length rest
        some (⟨⟨major, minor, patch⟩, clear, settings, save⟩, rest)
      else none
  | _ => none

/-- A payload that looks like a stop record does not end the program. -/
example : decode? [1, 1, 0, 0, 1, 4, 2, 2, 0, 2, 0, 2, 1, 7] =
    some (⟨.supported, true, [.text 2 [2, 0]], true⟩, [7]) := by decide

end Program

end SensorConfig
