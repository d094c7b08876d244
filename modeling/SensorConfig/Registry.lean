/-!
# Variables

The variables a configuration can set, and where the device keeps them.

A variable is known by name in a configuration and by slot on the device. Slots
are numbered separately for integers and for texts, so a slot means something
only together with its kind: slot 2 is an interval among the integers and a
network name among the texts. The numbers are fixed by the firmware and are
never reassigned.

Some integer slots accept only a range of values. A slot without a range
accepts every number of 32 bits.

## Main definitions

* `Kind`: Whether a variable holds an integer or a text.
* `Variable`: A name with the kind and slot it stands for.
* `Limit`: The values an integer slot accepts.
* `Registry`: Variables and limits, with look-up in both directions.
* `Registry.snappySense`: The variables of the SnappySense firmware.
* `maxPayload`: The longest text a slot takes.

## Theorems

* `Registry.mem_of_lookup?`: A variable that is found is registered.
* `Registry.name_of_lookup?`: It is found under its own name.
-/

namespace SensorConfig

/-- Whether a variable holds an integer or a text. Each kind has slots of its
    own. -/
inductive Kind where
  | integer
  | text
  deriving DecidableEq, Repr

/-- A variable: the name in a configuration, the kind and slot on the device. -/
structure Variable where
  name : String
  kind : Kind
  slot : UInt8
  deriving DecidableEq, Repr

/-- The values that an integer slot accepts, both ends included. -/
structure Limit where
  slot : UInt8
  min : Int32
  max : Int32
  deriving DecidableEq, Repr

/-- Whether a value lies within a limit. A limit whose ends are the wrong way
    round admits nothing. -/
def Limit.admits (limit : Limit) (value : Int32) : Bool :=
  limit.min ≤ value && value ≤ limit.max

/-- The longest text, in bytes, that a slot takes: its length is sent in 16
    bits. -/
def maxPayload : Nat := 65535

/-- The variables of a device and the limits of its integer slots. -/
structure Registry where
  «variables» : List Variable
  limits : List Limit
  deriving DecidableEq, Repr

namespace Registry

/-- The variable of a name. -/
def lookup? (registry : Registry) (name : String) : Option Variable :=
  registry.variables.find? fun v => v.name = name

/-- The limit of an integer slot; a slot without one accepts every value. -/
def limit? (registry : Registry) (slot : UInt8) : Option Limit :=
  registry.limits.find? fun l => l.slot = slot

/-- The name that a slot of a kind goes by. -/
def name? (registry : Registry) (kind : Kind) (slot : UInt8) : Option String :=
  (registry.variables.find? fun v => v.kind = kind ∧ v.slot = slot).map Variable.name

/-- Whether a slot accepts a value. -/
def admits (registry : Registry) (slot : UInt8) (value : Int32) : Bool :=
  match registry.limit? slot with
  | some limit => limit.admits value
  | none => true

/-- The variables of the SnappySense firmware. Intervals are in seconds: an
    observation at least every eight hours and an upload at least every two
    days, neither more than once a minute. -/
def snappySense : Registry where
  «variables» :=
    [⟨"enabled", .integer, 0⟩,
      ⟨"observation-interval", .integer, 1⟩,
      ⟨"upload-interval", .integer, 2⟩,
      ⟨"mqtt-endpoint-port", .integer, 3⟩,
      ⟨"mqtt-use-tls", .integer, 4⟩,
      ⟨"device-id", .text, 0⟩,
      ⟨"device-class", .text, 1⟩,
      ⟨"ssid1", .text, 2⟩,
      ⟨"ssid2", .text, 3⟩,
      ⟨"ssid3", .text, 4⟩,
      ⟨"password1", .text, 5⟩,
      ⟨"password2", .text, 6⟩,
      ⟨"password3", .text, 7⟩,
      ⟨"mqtt-endpoint-host", .text, 8⟩,
      ⟨"mqtt-id", .text, 9⟩,
      ⟨"mqtt-root-cert", .text, 10⟩,
      ⟨"mqtt-auth", .text, 11⟩,
      ⟨"mqtt-device-cert", .text, 12⟩,
      ⟨"mqtt-private-key", .text, 13⟩,
      ⟨"mqtt-username", .text, 14⟩,
      ⟨"mqtt-password", .text, 15⟩]
  limits :=
    [⟨0, 0, 1⟩,
      ⟨1, 60, 8 * 60 * 60⟩,
      ⟨2, 60, 48 * 60 * 60⟩,
      ⟨3, 1000, 65535⟩]

/-- A variable that is found is registered. -/
theorem mem_of_lookup? {registry : Registry} {name : String} {v : Variable}
    (h : registry.lookup? name = some v) : v ∈ registry.variables :=
  List.mem_of_find?_eq_some h

/-- A variable is found under its own name. -/
theorem name_of_lookup? {registry : Registry} {name : String} {v : Variable}
    (h : registry.lookup? name = some v) : v.name = name := by
  simpa using List.find?_some h

/-- Looking a name up and naming the slot found leads back, for every variable
    of the firmware. -/
example : ∀ v ∈ snappySense.variables,
    snappySense.lookup? v.name = some v ∧ snappySense.name? v.kind v.slot = some v.name := by
  decide

end Registry

end SensorConfig
