import SensorConfig.Cause

/-!
# Environments

What a configuration may consult besides its own text.

A value can be the contents of a file, and the name of a file can refer to the
home directory. Nothing else about the machine matters, so an environment is
the home directory, if there is one, and what each path gives when it is
opened and read: contents, or the cause why there are none.

Contents need not end. A device can go on giving bytes, and a reader asks for
no more than a number of them.

## Main definitions

* `Content`: Bytes that end, or that do not.
* `Content.take`: The first bytes of a content.
* `Environment`: The home directory and the files.
* `Environment.read`: The first bytes of a file.

## Theorems

* `Content.length_take_endless`: Content without end gives what was asked for.
* `Environment.read_eq_error_iff`, `Environment.read_eq_ok_iff`: What a file gives is
  what the beginning of it gives.
-/

namespace SensorConfig

/-- What an open file gives: bytes that end, or bytes without end. -/
inductive Content where
  | finite (bytes : List UInt8)
  | endless (byteAt : Nat → UInt8)

namespace Content

/-- The first `count` bytes of a content, or all of them if there are fewer. -/
def take (count : Nat) : Content → List UInt8
  | finite bytes => bytes.take count
  | endless byteAt => (List.range count).map byteAt

/-- Content without end gives as many bytes as were asked for. -/
theorem length_take_endless (count : Nat) (byteAt : Nat → UInt8) :
    ((endless byteAt).take count).length = count := by
  rw [take, List.length_map, List.length_range]

end Content

/-- What a configuration may consult: the home directory, if there is one, and
    what a path gives when it is opened and read. -/
structure Environment where
  home : Option String
  files : String → Except Cause Content

/-- The first `count` bytes of a file, or why there are none. -/
def Environment.read (environment : Environment) (path : String) (count : Nat) :
    Except Cause (List UInt8) :=
  (environment.files path).map (Content.take count)

namespace Environment

variable {environment : Environment} {path : String} {count : Nat}

/-- A part of a file cannot be read where the file cannot be. -/
theorem read_eq_error_iff {cause : Cause} :
    environment.read path count = .error cause ↔ environment.files path = .error cause := by
  rw [read]
  cases environment.files path with
  | error other => simp only [Except.map, Except.error.injEq]
  | ok content => simp only [Except.map, reduceCtorEq]

/-- A part that is read is the beginning of the file. -/
theorem read_eq_ok_iff {bytes : List UInt8} :
    environment.read path count = .ok bytes ↔
      ∃ content, environment.files path = .ok content ∧ content.take count = bytes := by
  rw [read]
  cases environment.files path with
  | error cause => simp only [Except.map, reduceCtorEq, false_and, exists_false]
  | ok content => simp only [Except.map, Except.ok.injEq, exists_eq_left']

end Environment

end SensorConfig
