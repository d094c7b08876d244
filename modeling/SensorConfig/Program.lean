import SensorConfig.Registry

/-!
# Programs

What a configuration says, apart from how it is written down.

A program is a version, two flags and the variables to set, in the order in
which they are set. The order and the repetitions are kept: the device carries
the settings out one after the other, so setting a variable twice is not the
same as setting it once.

A setting names a slot, not a variable. A program can therefore hold slots that
no registry knows and texts longer than a slot takes; what a configuration
compiles to never does.

## Main definitions

* `Version`: The three components of a language version.
* `Version.supported`: The one version that is understood.
* `Setting`: A value for a slot.
* `Program`: The version, the flags and the settings.
* `Program.encodedLength`: How many bytes the records of a program take.
* `Program.WellFormed`: What holds of every program that was compiled.
-/

namespace SensorConfig

/-- A version of the configuration language. -/
structure Version where
  major : UInt8
  minor : UInt8
  patch : UInt8
  deriving DecidableEq, Repr

namespace Version

/-- The version that is understood. -/
def supported : Version := ⟨1, 0, 0⟩

/-- The components in order. -/
def bytes (version : Version) : List UInt8 :=
  [version.major, version.minor, version.patch]

/-- The components in decimal, with dots between them. -/
def text (version : Version) : String :=
  toString version.major.toNat ++ "." ++ toString version.minor.toNat ++ "." ++
    toString version.patch.toNat

end Version

/-- A value for a slot. -/
inductive Setting where
  | integer (slot : UInt8) (value : Int32)
  | text (slot : UInt8) (payload : List UInt8)
  deriving DecidableEq, Repr

namespace Setting

/-- The kind of slot that is set. -/
def kind : Setting → Kind
  | integer .. => .integer
  | text .. => .text

/-- The slot that is set. -/
def slot : Setting → UInt8
  | integer slot _ => slot
  | text slot _ => slot

/-- How many bytes the record of a setting takes. -/
def encodedLength : Setting → Nat
  | integer .. => 6
  | text _ payload => 4 + payload.length

end Setting

/-- A configuration: whether the device forgets what it knew before, what it
    sets, and whether it keeps the result. -/
structure Program where
  version : Version
  clear : Bool
  settings : List Setting
  save : Bool
  deriving DecidableEq, Repr

namespace Program

/-- How many bytes the records of a program take: five for the first record,
    two for the last, and those of the settings between them. -/
def encodedLength (program : Program) : Nat :=
  5 + program.settings.foldr (fun setting count => setting.encodedLength + count) 0 + 2

end Program

/-- A setting that a registry allows: the slot is registered for its kind, an
    integer is within the slot's limit, and a text is no longer than a slot
    takes. -/
def Setting.Allowed (registry : Registry) : Setting → Prop
  | .integer slot value =>
      (∃ v ∈ registry.variables, v.kind = .integer ∧ v.slot = slot) ∧
        registry.admits slot value = true
  | .text slot payload =>
      (∃ v ∈ registry.variables, v.kind = .text ∧ v.slot = slot) ∧ payload.length ≤ maxPayload

instance (registry : Registry) (setting : Setting) : Decidable (setting.Allowed registry) := by
  cases setting <;> unfold Setting.Allowed <;> infer_instance

/-- What holds of every program that was compiled: the version is the supported
    one and the registry allows every setting. -/
structure Program.WellFormed (registry : Registry) (program : Program) : Prop where
  version_eq : program.version = Version.supported
  allowed : ∀ setting ∈ program.settings, setting.Allowed registry

end SensorConfig
