import SensorConfig.Grammar.SetLine
import SensorConfig.Meaning.Operand
import SensorConfig.Source

/-!
# Settings of Lines

What a set line sets.

A line is read in steps, each of which can fail, and the first that does gives
the fault: the form of the line, the name, the value, and whether the value
suits the variable. A later step is not taken when an earlier one has failed,
so a file is not opened for a variable that does not exist.

## Main definitions

* `Setting.ofOperand`: What an operand sets a variable to.
* `Setting.ofLine`: What a line sets.
* `fileOfLine?`: The file that a line refers to.

## Theorems

* `Setting.allowed_of_ofLine`: What a line sets is allowed.
-/

namespace SensorConfig

/-- The fault of a line that is no set line. It tells whether the line begins
    like one. -/
def noSetLine (line : Line) : Fault :=
  let text := String.ofList line.text
  match Lexeme.word? SetLine.keyword line.text with
  | some _ => .form line.number (.setting text)
  | none => .form line.number (.unexpected text)

namespace Setting

/-- What an operand sets an integer variable to. -/
def ofInteger (registry : Registry) (v : Variable) (line : Nat) (operand : Operand) :
    Except Fault Setting :=
  match operand.integer? with
  | none => .error (.notInteger line operand.shown)
  | some value =>
      match registry.limit? v.slot with
      | none => .ok (.integer v.slot value)
      | some limit =>
          if limit.admits value then .ok (.integer v.slot value)
          else .error (.outOfRange line v.name value limit.min limit.max)

/-- What an operand sets a text variable to. -/
def ofText (v : Variable) (line : Nat) (operand : Operand) : Except Fault Setting :=
  let payload := operand.payload
  if payload.length > maxPayload then .error (.tooLong line v.name payload.length maxPayload)
  else .ok (.text v.slot payload)

/-- What an operand sets a variable to. -/
def ofOperand (registry : Registry) (v : Variable) (line : Nat) (operand : Operand) :
    Except Fault Setting :=
  match v.kind with
  | .integer => ofInteger registry v line operand
  | .text => ofText v line operand

/-- What a line sets. -/
def ofLine (registry : Registry) (environment : Environment) (line : Line) :
    Except Fault Setting :=
  match SetLine.read? line.text with
  | none => .error (noSetLine line)
  | some set =>
      match registry.lookup? (String.ofList set.name) with
      | none => .error (.unknownVariable line.number (String.ofList set.name))
      | some v =>
          match Operand.resolve environment v line.number set.value with
          | .error fault => .error fault
          | .ok operand => ofOperand registry v line.number operand

theorem allowed_of_ofOperand {registry : Registry} {v : Variable} {line : Nat}
    {operand : Operand} {setting : Setting} (hv : v ∈ registry.variables)
    (h : ofOperand registry v line operand = .ok setting) : setting.Allowed registry := by
  rw [ofOperand] at h
  split at h
  · next hkind =>
    rw [ofInteger] at h
    split at h
    · simp at h
    · split at h
      -- A slot without a limit accepts every value.
      · next hlimit =>
        simp only [Except.ok.injEq] at h
        subst h
        exact ⟨⟨v, hv, hkind, rfl⟩, by rw [Registry.admits, hlimit]⟩
      -- With a limit, the value was tested against it.
      · next limit hlimit =>
        split at h
        · next hadmits =>
          simp only [Except.ok.injEq] at h
          subst h
          exact ⟨⟨v, hv, hkind, rfl⟩, by rw [Registry.admits, hlimit]; exact hadmits⟩
        · simp at h
  · next hkind =>
    rw [ofText] at h
    split at h
    · simp at h
    · simp only [Except.ok.injEq] at h
      subst h
      -- The length of a text was tested.
      exact ⟨⟨v, hv, hkind, rfl⟩, by omega⟩

/-- What a line sets is allowed. -/
theorem allowed_of_ofLine {registry : Registry} {environment : Environment} {line : Line}
    {setting : Setting} (h : ofLine registry environment line = .ok setting) :
    setting.Allowed registry := by
  rw [ofLine] at h
  split at h
  · simp at h
  · split at h
    · simp at h
    · next hlookup =>
      split at h
      · simp at h
      · exact allowed_of_ofOperand (Registry.mem_of_lookup? hlookup) h

end Setting

/-- The path of the file that a line refers to: its value names a file, its
    variable is registered, and the home directory is there if it is needed. -/
def fileOfLine? (registry : Registry) (home : Option String) (line : Line) : Option String := do
  let set ← SetLine.read? line.text
  let _ ← registry.lookup? (String.ofList set.name)
  let value ← WrittenValue.read? set.value
  if value.indirect && !value.text.isEmpty then Path.expandTilde home value.text else none

end SensorConfig
