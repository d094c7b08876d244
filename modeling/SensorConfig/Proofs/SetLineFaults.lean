import SensorConfig.Proofs.BoundedFiles

/-!
# Faults of Set Lines

What can be wrong with a set line, each said for itself.

A set line is checked for nine things, and more than one of them can be wrong with
it. `Fails` tells what is wrong in the terms of the line and of what it refers to.
Each of its rules is for one check and supposes no more than it takes to ask the
question: a file name needs no variable to be asked about, and a number needs no
file unless it is in one. Nothing in the rules tells that one check comes before
another, so a line can fail many of them at once.

The rules speak of the grammar of lines and values and not of their readers. A value
is a text behind at most one at sign and between at most one pair of quotes, and the
readers are shown to find that text, or to find a quote that stays open. A line is
split in one way, and its value, its file and its number are then determined as
well. This is why a line fails a check with one fault.

## Main definitions

* `WrittenValue.Marked`, `WrittenValue.Unquoted`: What of a value is its text.
* `WrittenValue.StaysOpen`: A quote that is not closed.
* `Line.Sets`, `Line.Writes`: The name and the value of a line.
* `Supplies`: What a value gives to its variable.
* `Operand.Means`: An operand denotes a number.
* `Check`: The nine checks, and `Check.place`, their order.
* `Fails`: A line fails a check with a fault.

## Theorems

* `WrittenValue.read?_eq_some_iff_marked`, `WrittenValue.read?_eq_none_iff`: Values are
  read unless a quote stays open.
* `Operand.integer?_eq_some_iff_means`, `Operand.integer?_eq_none_iff`: So are numbers
  that fit.
* `Line.Sets.unique`, `Line.Writes.unique`: A line says one thing.
* `Fails.line?_kind`: A fault has the number of its line and the sort of its check.
* `Fails.unique`: A check fails with one fault.
-/

namespace SensorConfig

namespace WrittenValue

/-- A value without the at sign in front of it, and whether it has one. -/
inductive Marked : List Char → Bool → List Char → Prop where
  | file (text : List Char) : Marked ('@' :: text) true text
  | inline {text : List Char} (h : ∀ c ∈ text.head?, c ≠ '@') : Marked text false text

/-- A text without the quotes around it, if there are any. -/
inductive Unquoted : List Char → List Char → Prop where
  | bare {text : List Char} (h : ∀ c ∈ text.head?, c ≠ '"') : Unquoted text text
  | quoted (text : List Char) : Unquoted (quoted text) text

/-- A text begins with a quote and does not end in another. -/
def StaysOpen (text : List Char) : Prop :=
  ∃ rest, text = '"' :: rest ∧ rest.getLast? ≠ some '"'

/-- What is left of a text is what stands in its quotes. -/
theorem unquote?_eq_some_iff (text inner : List Char) :
    unquote? text = some inner ↔ Unquoted text inner := by
  constructor
  · intro h
    unfold unquote? at h
    split at h
    · next rest =>
      rw [Option.ite_none_right_eq_some, Option.some.injEq] at h
      rcases h with ⟨hlast, rfl⟩
      -- The quote at the end goes back to where it was.
      have htext : '"' :: rest = quoted rest.dropLast := by
        rw [quoted, List.dropLast_append_getLast? '"' hlast]
      rw [htext]
      exact .quoted rest.dropLast
    · next hquote =>
      rw [Option.some.injEq] at h
      subst h
      refine .bare fun c hc => ?_
      rintro rfl
      rcases List.head?_eq_some_iff.1 hc with ⟨rest, rfl⟩
      exact hquote rest rfl
  · intro h
    cases h with
    | bare hhead =>
        unfold unquote?
        split
        · exact absurd rfl (hhead '"' rfl)
        · rfl
    | quoted => exact unquote?_quoted inner

/-- Nothing is left of a text if its quote stays open. -/
theorem unquote?_eq_none_iff (text : List Char) : unquote? text = none ↔ StaysOpen text := by
  unfold unquote?
  split
  · next rest =>
    rw [ite_eq_right_iff]
    constructor
    · exact fun h => ⟨rest, rfl, fun hlast => absurd (h hlast) (by simp)⟩
    · rintro ⟨_, hrest, hlast⟩ hlast'
      cases hrest
      exact absurd hlast' hlast
  · next hquote =>
    constructor
    · intro h
      exact absurd h (by simp only [reduceCtorEq, not_false_eq_true])
    · rintro ⟨rest, htext, _⟩
      exact absurd htext (hquote rest)

theorem exists_marked (value : List Char) : ∃ indirect text, Marked value indirect text := by
  by_cases h : ∀ c ∈ value.head?, c ≠ '@'
  · exact ⟨false, value, .inline h⟩
  · push Not at h
    rcases h with ⟨_, hc, rfl⟩
    rcases List.head?_eq_some_iff.1 hc with ⟨text, rfl⟩
    exact ⟨true, text, .file text⟩

theorem read?_of_marked {value text : List Char} {indirect : Bool}
    (h : Marked value indirect text) :
    read? value = (unquote? text).map fun inner => ⟨indirect, inner⟩ := by
  cases h with
  | file => rfl
  | inline hhead =>
      unfold read?
      split
      · exact absurd rfl (hhead '@' rfl)
      · rfl

/-- A value is read as the text in its quotes, behind its at sign. -/
theorem read?_eq_some_iff_marked (value inner : List Char) (indirect : Bool) :
    read? value = some ⟨indirect, inner⟩ ↔
      ∃ text, Marked value indirect text ∧ Unquoted text inner := by
  constructor
  · intro h
    rcases exists_marked value with ⟨_, text, hmarked⟩
    rw [read?_of_marked hmarked, Option.map_eq_some_iff] at h
    rcases h with ⟨_, hinner, heq⟩
    cases heq
    exact ⟨text, hmarked, (unquote?_eq_some_iff text inner).1 hinner⟩
  · rintro ⟨text, hmarked, hinner⟩
    rw [read?_of_marked hmarked, (unquote?_eq_some_iff text inner).2 hinner, Option.map_some]

/-- A value is not read if its quote stays open. -/
theorem read?_eq_none_iff (value : List Char) :
    read? value = none ↔ ∃ indirect text, Marked value indirect text ∧ StaysOpen text := by
  constructor
  · intro h
    rcases exists_marked value with ⟨indirect, text, hmarked⟩
    rw [read?_of_marked hmarked, Option.map_eq_none_iff] at h
    exact ⟨indirect, text, hmarked, (unquote?_eq_none_iff text).1 h⟩
  · rintro ⟨indirect, text, hmarked, hopen⟩
    rw [read?_of_marked hmarked, (unquote?_eq_none_iff text).2 hopen, Option.map_none]

end WrittenValue

/-- A file name leads nowhere if it begins with a tilde and a slash and there is no
    home directory. -/
theorem Path.expandTilde_eq_none_iff (home : Option String) (name : List Char) :
    expandTilde home name = none ↔ home = none ∧ ∃ rest, name = '~' :: '/' :: rest := by
  unfold expandTilde
  split
  · next rest => simp
  · next hname =>
    constructor
    · intro h
      exact absurd h (by simp only [reduceCtorEq, not_false_eq_true])
    · rintro ⟨_, rest, rfl⟩
      exact absurd rfl (hname rest)

namespace Operand

/-- An operand denotes a number: a text in the line does as it stands, and bytes do
    if they are those of a text that does without the blanks around it. -/
inductive Means : Operand → Int → Prop where
  | inline {text : List Char} {n : Int} (h : Numeral.Denotes text n) : Means (.inline text) n
  | file {path : String} {text : List Char} {n : Int}
      (h : Numeral.Denotes (Text.trim text) n) : Means (.file path (Utf8.encode text)) n

/-- An operand is read as a number of 32 bits if it denotes one. -/
theorem integer?_eq_some_iff_means (operand : Operand) (value : Int32) :
    operand.integer? = some value ↔ operand.Means value.toInt := by
  cases operand with
  | inline text =>
      rw [integer?, Numeral.int32?_eq_some_iff]
      constructor
      · exact .inline
      · intro h
        cases h with
        | inline h => exact h
  | file path bytes =>
      simp only [integer?, Option.bind_eq_some_iff, Utf8.decode?_eq_some_iff,
        Numeral.int32?_eq_some_iff]
      constructor
      · rintro ⟨text, rfl, h⟩
        exact .file h
      · intro h
        cases h with
        | file h => exact ⟨_, rfl, h⟩

/-- No other operand is. -/
theorem integer?_eq_none_iff (operand : Operand) :
    operand.integer? = none ↔ ¬ ∃ n, operand.Means n ∧ Numeral.IsInt32 n := by
  rw [Option.eq_none_iff_forall_ne_some, ← Numeral.exists_int32_iff, not_exists]
  exact forall_congr' fun value => not_congr (integer?_eq_some_iff_means operand value)

end Operand

namespace Line

/-- A line sets a name to a value: the grammar splits it into the two, behind gaps
    that are as long as they can be. -/
def Sets (line : Line) (name value : List Char) : Prop :=
  ∃ gap space, SetLine.SplitsAs line.text ⟨gap, name, space, value⟩ ∧
    SetLine.Split.IsLongest ⟨gap, name, space, value⟩

/-- A line writes a text for a name, or the name of a file. -/
def Writes (line : Line) (name : List Char) (indirect : Bool) (inner : List Char) : Prop :=
  ∃ value text, line.Sets name value ∧ WrittenValue.Marked value indirect text ∧
    WrittenValue.Unquoted text inner

theorem sets_iff (line : Line) (name value : List Char) :
    line.Sets name value ↔ SetLine.read? line.text = some ⟨name, value⟩ :=
  (SetLine.read?_eq_some_iff line.text name value).symm

theorem writes_iff (line : Line) (name inner : List Char) (indirect : Bool) :
    line.Writes name indirect inner ↔ ∃ value, line.Sets name value ∧
      WrittenValue.read? value = some ⟨indirect, inner⟩ := by
  simp only [Writes, WrittenValue.read?_eq_some_iff_marked, exists_and_left]

variable {line : Line} {name name' value value' inner inner' : List Char}
  {indirect indirect' : Bool}

/-- A line sets one name to one value. -/
theorem Sets.unique (h : line.Sets name value) (h' : line.Sets name' value') :
    name' = name ∧ value' = value := by
  rw [sets_iff] at h h'
  rw [h, Option.some.injEq, SetLine.mk.injEq] at h'
  exact ⟨h'.1.symm, h'.2.symm⟩

/-- A line writes one thing. -/
theorem Writes.unique (h : line.Writes name indirect inner)
    (h' : line.Writes name' indirect' inner') :
    name' = name ∧ indirect' = indirect ∧ inner' = inner := by
  rcases (writes_iff _ _ _ _).1 h with ⟨value, hset, hread⟩
  rcases (writes_iff _ _ _ _).1 h' with ⟨_, hset', hread'⟩
  rcases hset.unique hset' with ⟨rfl, rfl⟩
  rw [hread, Option.some.injEq, WrittenValue.mk.injEq] at hread'
  exact ⟨rfl, hread'.1.symm, hread'.2.symm⟩

/-- A line does not write a text and the name of a file. -/
theorem Writes.not_inline (h : line.Writes name true inner) : ¬ line.Writes name' false inner' :=
  fun h' => absurd (h.unique h').2.1 (by decide)

/-- A line sets one variable. -/
theorem Writes.variable_unique {registry : Registry} {v v' : Variable}
    (h : line.Writes name indirect inner)
    (hlookup : registry.lookup? (String.ofList name) = some v)
    (h' : line.Writes name' indirect' inner')
    (hlookup' : registry.lookup? (String.ofList name') = some v') : v' = v := by
  rw [(h.unique h').1] at hlookup'
  exact Option.some.inj (hlookup'.symm.trans hlookup)

end Line

/-- What a written text gives to its variable: itself, or the bytes of the file of
    its name. -/
inductive Supplies (environment : Environment) : Bool → List Char → Operand → Prop where
  | inline (text : List Char) : Supplies environment false text (.inline text)
  | file {name : List Char} {path : String} {bytes : List UInt8}
      (path_eq : Path.expandTilde environment.home name = some path)
      (files_eq : environment.files path = .ok (.finite bytes)) :
      Supplies environment true name (.file path bytes)

/-- What a set line is checked for. -/
inductive Check where
  | form
  | name
  | quotes
  | fileName
  | home
  | reading
  | length
  | number
  | limit
  deriving DecidableEq, Repr

namespace Check

/-- The place of a check among the others. -/
def place : Check → Nat
  | form => 1
  | name => 2
  | quotes => 3
  | fileName => 4
  | home => 5
  | reading => 6
  | length => 7
  | number => 8
  | limit => 9

/-- What sort of fault a check finds. -/
def kind : Check → FaultKind
  | form | quotes | fileName => .form
  | name => .unknownVariable
  | home | reading => .file
  | length => .length
  | number => .type
  | limit => .range

theorem one_le_place (check : Check) : 1 ≤ check.place := by
  cases check <;> decide

theorem place_le_nine (check : Check) : check.place ≤ 9 := by
  cases check <;> decide

theorem eq_of_place_eq {check other : Check} (h : check.place = other.place) : check = other := by
  cases check <;> cases other <;> first | rfl | exact absurd h (by decide)

end Check

/-- A line fails a check with a fault. The rules take no notice of each other: each
    asks about the line what its check is for. -/
inductive Fails (registry : Registry) (environment : Environment) (line : Line) :
    Check → Fault → Prop where
  /-- The line is no set line. -/
  | form (h : ¬ ∃ name value, line.Sets name value) :
      Fails registry environment line .form (.form line.number
        (if "set".toList <+: line.text then .setting (String.ofList line.text)
          else .unexpected (String.ofList line.text)))
  /-- The name is that of no variable. -/
  | name {name value : List Char} (hset : line.Sets name value)
      (h : registry.lookup? (String.ofList name) = none) :
      Fails registry environment line .name
        (.unknownVariable line.number (String.ofList name))
  /-- The value begins with a quote, maybe behind an at sign, that stays open. -/
  | quotes {name value text : List Char} {indirect : Bool} (hset : line.Sets name value)
      (hmarked : WrittenValue.Marked value indirect text) (h : WrittenValue.StaysOpen text) :
      Fails registry environment line .quotes (.form line.number (.value (String.ofList value)))
  /-- The value is in a file without a name. -/
  | fileName {name : List Char} (h : line.Writes name true []) :
      Fails registry environment line .fileName (.form line.number .emptyFileName)
  /-- The file is in a home directory that there is not. -/
  | home {name rest : List Char} (hwrites : line.Writes name true ('~' :: '/' :: rest))
      (h : environment.home = none) :
      Fails registry environment line .home (.homeUnset line.number)
  /-- The file cannot be opened or read. -/
  | reading {name file : List Char} {path : String} {cause : Cause}
      (hwrites : line.Writes name true file)
      (hpath : Path.expandTilde environment.home file = some path)
      (h : environment.files path = .error cause) :
      Fails registry environment line .reading (.unreadable line.number path cause)
  /-- The file has more bytes than a slot takes. -/
  | fileLength {name file : List Char} {path : String} {content : Content}
      (hwrites : line.Writes name true file)
      (hpath : Path.expandTilde environment.home file = some path)
      (hfile : environment.files path = .ok content) (h : content.HasAtLeast 65536) :
      Fails registry environment line .length
        (.tooLong line.number (String.ofList name) 65536 65535)
  /-- The text of a text variable has more bytes than a slot takes. -/
  | textLength {name text : List Char} {v : Variable} (hwrites : line.Writes name false text)
      (hlookup : registry.lookup? (String.ofList name) = some v) (hkind : v.kind = .text)
      (h : 65535 < (Utf8.encode text).length) :
      Fails registry environment line .length
        (.tooLong line.number (String.ofList name) (Utf8.encode text).length 65535)
  /-- The value of an integer variable is no number of 32 bits. -/
  | number {name inner : List Char} {v : Variable} {indirect : Bool} {operand : Operand}
      (hwrites : line.Writes name indirect inner)
      (hlookup : registry.lookup? (String.ofList name) = some v) (hkind : v.kind = .integer)
      (hsupplies : Supplies environment indirect inner operand)
      (h : ¬ ∃ n, operand.Means n ∧ Numeral.IsInt32 n) :
      Fails registry environment line .number (.notInteger line.number operand.shown)
  /-- The number of an integer variable is outside its limit. -/
  | limit {name inner : List Char} {v : Variable} {indirect : Bool} {operand : Operand}
      {value : Int32} {limit : Limit} (hwrites : line.Writes name indirect inner)
      (hlookup : registry.lookup? (String.ofList name) = some v) (hkind : v.kind = .integer)
      (hsupplies : Supplies environment indirect inner operand) (hmeans : operand.Means value.toInt)
      (hlimit : registry.limit? v.slot = some limit)
      (h : ¬ (limit.min.toInt ≤ value.toInt ∧ value.toInt ≤ limit.max.toInt)) :
      Fails registry environment line .limit
        (.outOfRange line.number (String.ofList name) value limit.min limit.max)

section

variable {registry : Registry} {environment : Environment} {line : Line}

/-- A written text gives one thing. -/
theorem Supplies.unique {inner : List Char} {indirect : Bool} {operand operand' : Operand}
    (h : Supplies environment indirect inner operand)
    (h' : Supplies environment indirect inner operand') : operand' = operand := by
  cases h with
  | inline =>
      cases h' with
      | inline => rfl
  | file hpath hfile =>
      cases h' with
      | file hpath' hfile' =>
          cases hpath.symm.trans hpath'
          cases hfile.symm.trans hfile'
          rfl

/-- An operand denotes one number of 32 bits. -/
theorem Operand.Means.unique {operand : Operand} {value value' : Int32}
    (h : operand.Means value.toInt) (h' : operand.Means value'.toInt) : value' = value := by
  rw [← integer?_eq_some_iff_means] at h h'
  exact Option.some.inj (h'.symm.trans h)

namespace Fails

/-- A check finds faults of one sort, and they are faults of the line. -/
theorem line?_kind {check : Check} {fault : Fault}
    (h : Fails registry environment line check fault) :
    fault.line? = some line.number ∧ fault.kind = check.kind := by
  cases h <;> exact ⟨rfl, rfl⟩

/-- A check fails with one fault. -/
theorem unique {check : Check} {fault fault' : Fault}
    (h : Fails registry environment line check fault)
    (h' : Fails registry environment line check fault') : fault' = fault := by
  -- Both faults follow from the one thing that the line says and from what it leads to.
  cases h with
  | form =>
      cases h' with
      | form => rfl
  | name hset =>
      cases h' with
      | name hset' => rw [(hset.unique hset').1]
  | quotes hset =>
      cases h' with
      | quotes hset' => rw [(hset.unique hset').2]
  | fileName =>
      cases h' with
      | fileName => rfl
  | home =>
      cases h' with
      | home => rfl
  | reading hwrites hpath hfile =>
      cases h' with
      | reading hwrites' hpath' hfile' =>
          rcases hwrites.unique hwrites' with ⟨_, _, rfl⟩
          cases hpath.symm.trans hpath'
          cases hfile.symm.trans hfile'
          rfl
  | fileLength hwrites =>
      cases h' with
      | fileLength hwrites' => rw [(hwrites.unique hwrites').1]
      | textLength hwrites' => exact absurd hwrites' hwrites.not_inline
  | textLength hwrites =>
      cases h' with
      | fileLength hwrites' => exact absurd hwrites hwrites'.not_inline
      | textLength hwrites' =>
          rcases hwrites.unique hwrites' with ⟨rfl, _, rfl⟩
          rfl
  | number hwrites _ _ hsupplies =>
      cases h' with
      | number hwrites' _ _ hsupplies' =>
          rcases hwrites.unique hwrites' with ⟨_, rfl, rfl⟩
          rw [hsupplies.unique hsupplies']
  | limit hwrites hlookup _ hsupplies hmeans hlimit =>
      cases h' with
      | limit hwrites' hlookup' _ hsupplies' hmeans' hlimit' =>
          cases hwrites.variable_unique hlookup hwrites' hlookup'
          rcases hwrites.unique hwrites' with ⟨rfl, rfl, rfl⟩
          cases hlimit.symm.trans hlimit'
          cases hsupplies.unique hsupplies'
          rw [hmeans.unique hmeans']

end Fails

end

end SensorConfig
