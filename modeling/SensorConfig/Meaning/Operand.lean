import SensorConfig.Environment
import SensorConfig.Fault
import SensorConfig.Grammar.WrittenValue
import SensorConfig.Path
import SensorConfig.Text.Blank
import SensorConfig.Text.Utf8

/-!
# Operands

What a written value stands for, before it is known to suit its variable.

A value is written in the line or read from a file, and both kinds of variable
take both. The difference between them is kept until the kind is looked at,
because a text is passed on as it is while an integer in a file may have blanks
around it.

A file is read as far as one byte more than a slot takes. A longer file is
refused without being read to its end, so an endless one is refused as well,
and whether the variable is an integer makes no difference.

## Main definitions

* `Operand`: A text from the line, or the bytes of a file.
* `Operand.resolve`: What a written value stands for.
* `Operand.integer?`: The number that an operand denotes.
* `Operand.shown`: How an operand that denotes none is shown.
* `Operand.payload`: The bytes of an operand.

## Theorems

* `Operand.length_of_resolve`: The bytes of a file that is accepted fit a slot.
-/

namespace SensorConfig

/-- What a written value stands for: a text from the line, or the bytes of a
    file. -/
inductive Operand where
  | inline (text : List Char)
  | file (path : String) (bytes : List UInt8)
  deriving DecidableEq, Repr

namespace Operand

/-- The bytes of the file that a name leads to, for the value of a variable. -/
def readFile (environment : Environment) (v : Variable) (line : Nat) (name : List Char) :
    Except Fault Operand :=
  if name.isEmpty then .error (.form line .emptyFileName)
  else
    match Path.expandTilde environment.home name with
    | none => .error (.homeUnset line)
    | some path =>
        match environment.read path (maxPayload + 1) with
        | .error cause => .error (.unreadable line path cause)
        | .ok bytes =>
            if bytes.length > maxPayload then
              .error (.tooLong line v.name bytes.length maxPayload)
            else .ok (.file path bytes)

/-- What a written value stands for, for a variable and on a line. -/
def resolve (environment : Environment) (v : Variable) (line : Nat) (value : List Char) :
    Except Fault Operand :=
  match WrittenValue.read? value with
  | none => .error (.form line (.value (String.ofList value)))
  | some ⟨false, text⟩ => .ok (.inline text)
  | some ⟨true, name⟩ => readFile environment v line name

/-- The number of 32 bits that an operand denotes. Only in a file may there be
    blanks around it. -/
def integer? : Operand → Option Int32
  | inline text => Numeral.int32? text
  | file _ bytes => (Utf8.decode? bytes).bind fun text => Numeral.int32? (Text.trim text)

/-- How an operand that denotes no number is shown. -/
def shown : Operand → String
  | inline text => String.ofList text
  | file _ bytes => String.ofList (Text.trim (Utf8.decodeLossy bytes))

/-- The bytes of an operand. Those of a file are passed on as they are. -/
def payload : Operand → List UInt8
  | inline text => Utf8.encode text
  | file _ bytes => bytes

/-- The bytes of a file that is accepted fit a slot. -/
theorem length_of_resolve {environment : Environment} {v : Variable} {line : Nat}
    {value : List Char} {path : String} {bytes : List UInt8}
    (h : resolve environment v line value = .ok (.file path bytes)) :
    bytes.length ≤ maxPayload := by
  rw [resolve] at h
  split at h
  · simp at h
  · simp at h
  -- Only the reading of a file gives the bytes of one.
  · rw [readFile] at h
    split at h
    · simp at h
    · split at h
      · simp at h
      · split at h
        · simp at h
        · split at h
          · simp at h
          -- The length was tested before the bytes were accepted.
          · simp only [Except.ok.injEq, file.injEq] at h
            rw [← h.2]
            omega

end Operand

end SensorConfig
