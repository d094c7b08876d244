import SensorConfig.Proofs.SetLineFaults

/-!
# Order of Checks

Which of several faults of a set line is reported.

The rules of `Fails` do not know of each other, so the order of the checks is all that
is left to say, and it is a number for each of them. A line is read by going through
the checks in this order, and the reading ends at the first that fails. What is known
on the way is `PassedBelow`: no check below a number fails. A step of the reading
either ends in a fault, which no check below it precedes, or it rules out its own
check and raises the number by one. Past the last number there is no check left that
could fail.

The steps differ in what is known when they are taken, and a value in the line takes
fewer of them than one in a file. It passes the checks of files at once, because it
has none, and a text passes those of numbers. So the numbers of both ways meet again
where the value is at hand.

That a check fails with one fault makes the result an equivalence: a line with a
fault that no other precedes is reported with this fault.

## Main definitions

* `PassedBelow`: A line passes all checks up to a place.
* `Decides`: A result is that of the first check that fails.

## Theorems

* `PassedBelow.next`: Passing a check leads to the next.
* `PassedBelow.decides_ofInteger`: The checks of a number.
* `Setting.decides_inline`, `Setting.decides_file`: The checks of a value.
* `Setting.decides_ofLine`: Every line is decided by the first check that fails.
* `Setting.ofLine_lowestCheck`: A line is reported with the fault of this check.
-/

namespace SensorConfig

/-- A line passes all checks whose place is below a number. -/
def PassedBelow (registry : Registry) (environment : Environment) (line : Line) (place : Nat) :
    Prop :=
  ∀ check fault, Fails registry environment line check fault → place ≤ check.place

/-- A result is that of the first check that fails: a fault is that of a check below
    which all are passed, and without a fault all checks are passed. -/
def Decides (registry : Registry) (environment : Environment) (line : Line) :
    Except Fault Setting → Prop
  | .ok _ => ∀ check fault, ¬ Fails registry environment line check fault
  | .error fault => ∃ check, Fails registry environment line check fault ∧
      PassedBelow registry environment line check.place

section

variable {registry : Registry} {environment : Environment} {line : Line}

namespace PassedBelow

theorem first : PassedBelow registry environment line 1 :=
  fun check _ _ => check.one_le_place

/-- Passing a check leads to the next. -/
theorem next (check : Check) (h : PassedBelow registry environment line check.place)
    (hpass : ∀ fault, ¬ Fails registry environment line check fault) :
    PassedBelow registry environment line (check.place + 1) := by
  intro other fault hfails
  rcases Nat.lt_or_eq_of_le (h other fault hfails) with hlt | heq
  · exact hlt
  · cases Check.eq_of_place_eq heq
    exact absurd hfails (hpass fault)

/-- A line that passes the last check passes all of them. -/
theorem decides (h : PassedBelow registry environment line 10) (setting : Setting) :
    Decides registry environment line (.ok setting) := by
  intro check fault hfails
  have hplace := h check fault hfails
  have hlast := check.place_le_nine
  omega

variable {name value inner : List Char} {indirect : Bool} {v : Variable} {path : String}
  {content : Content}

theorem past_form (hset : line.Sets name value) : PassedBelow registry environment line 2 := by
  refine first.next .form fun fault hfails => ?_
  cases hfails with
  | form h => exact h ⟨name, value, hset⟩

theorem past_name (h : PassedBelow registry environment line 2) (hset : line.Sets name value)
    (hlookup : registry.lookup? (String.ofList name) = some v) :
    PassedBelow registry environment line 3 := by
  refine h.next .name fun fault hfails => ?_
  cases hfails with
  | name hset' hnone =>
      rw [(hset.unique hset').1] at hnone
      cases hlookup.symm.trans hnone

theorem past_quotes (h : PassedBelow registry environment line 3)
    (hwrites : line.Writes name indirect inner) : PassedBelow registry environment line 4 := by
  rcases (Line.writes_iff _ _ _ _).1 hwrites with ⟨value, hset, hread⟩
  -- The line writes something, so no quote of its one value is open.
  refine h.next .quotes fun fault hfails => ?_
  cases hfails with
  | quotes hset' hmarked hopen =>
      have hnone := (WrittenValue.read?_eq_none_iff _).2 ⟨_, _, hmarked, hopen⟩
      rw [(hset.unique hset').2] at hnone
      cases hread.symm.trans hnone

theorem past_fileName (h : PassedBelow registry environment line 4)
    (hwrites : line.Writes name true inner) (hne : inner ≠ []) :
    PassedBelow registry environment line 5 := by
  refine h.next .fileName fun fault hfails => ?_
  cases hfails with
  | fileName hwrites' => exact hne (hwrites.unique hwrites').2.2.symm

theorem past_home (h : PassedBelow registry environment line 5)
    (hwrites : line.Writes name true inner)
    (hpath : Path.expandTilde environment.home inner = some path) :
    PassedBelow registry environment line 6 := by
  refine h.next .home fun fault hfails => ?_
  cases hfails with
  | @home _ rest hwrites' hunset =>
      have hnone := (Path.expandTilde_eq_none_iff _ _).2 ⟨hunset, rest, rfl⟩
      rw [(hwrites.unique hwrites').2.2] at hnone
      cases hpath.symm.trans hnone

theorem past_reading (h : PassedBelow registry environment line 6)
    (hwrites : line.Writes name true inner)
    (hpath : Path.expandTilde environment.home inner = some path)
    (hfile : environment.files path = .ok content) : PassedBelow registry environment line 7 := by
  refine h.next .reading fun fault hfails => ?_
  cases hfails with
  | reading hwrites' hpath' herror =>
      rw [(hwrites.unique hwrites').2.2] at hpath'
      cases hpath.symm.trans hpath'
      cases hfile.symm.trans herror

/-- A value in the line has no file to be checked. -/
theorem past_reading_of_inline (h : PassedBelow registry environment line 4)
    (hwrites : line.Writes name false inner) : PassedBelow registry environment line 7 := by
  have hhome : PassedBelow registry environment line 5 := by
    refine h.next .fileName fun fault hfails => ?_
    cases hfails with
    | fileName hwrites' => exact hwrites'.not_inline hwrites
  have hreading : PassedBelow registry environment line 6 := by
    refine hhome.next .home fun fault hfails => ?_
    cases hfails with
    | home hwrites' => exact hwrites'.not_inline hwrites
  refine hreading.next .reading fun fault hfails => ?_
  cases hfails with
  | reading hwrites' => exact hwrites'.not_inline hwrites

/-- A file may not be long, whatever the variable is. -/
theorem past_length (h : PassedBelow registry environment line 7)
    (hwrites : line.Writes name true inner)
    (hpath : Path.expandTilde environment.home inner = some path)
    (hfile : environment.files path = .ok content) (hshort : ¬ content.HasAtLeast 65536) :
    PassedBelow registry environment line 8 := by
  refine h.next .length fun fault hfails => ?_
  cases hfails with
  | fileLength hwrites' hpath' hfile' hlong =>
      rw [(hwrites.unique hwrites').2.2] at hpath'
      cases hpath.symm.trans hpath'
      cases hfile.symm.trans hfile'
      exact hshort hlong
  | textLength hwrites' => exact hwrites.not_inline hwrites'

/-- A value in the line may be long if its variable is an integer. -/
theorem past_length_of_inline (h : PassedBelow registry environment line 7)
    (hwrites : line.Writes name false inner)
    (hlookup : registry.lookup? (String.ofList name) = some v)
    (hshort : v.kind = .text → (Utf8.encode inner).length ≤ 65535) :
    PassedBelow registry environment line 8 := by
  refine h.next .length fun fault hfails => ?_
  cases hfails with
  | fileLength hwrites' => exact hwrites'.not_inline hwrites
  | textLength hwrites' hlookup' hkind hlong =>
      cases hwrites.variable_unique hlookup hwrites' hlookup'
      rw [(hwrites.unique hwrites').2.2] at hlong
      exact absurd hlong (Nat.not_lt.2 (hshort hkind))

theorem past_number (h : PassedBelow registry environment line 8)
    (hwrites : line.Writes name indirect inner) {operand : Operand} {value : Int32}
    (hsupplies : Supplies environment indirect inner operand)
    (hmeans : operand.Means value.toInt) : PassedBelow registry environment line 9 := by
  refine h.next .number fun fault hfails => ?_
  cases hfails with
  | number hwrites' _ _ hsupplies' hnone =>
      rcases hwrites.unique hwrites' with ⟨_, rfl, rfl⟩
      rw [hsupplies.unique hsupplies'] at hnone
      exact hnone (Numeral.exists_int32_iff.1 ⟨value, hmeans⟩)

theorem past_limit (h : PassedBelow registry environment line 9)
    (hwrites : line.Writes name indirect inner)
    (hlookup : registry.lookup? (String.ofList name) = some v) {operand : Operand} {value : Int32}
    (hsupplies : Supplies environment indirect inner operand)
    (hmeans : operand.Means value.toInt) (hwithin : registry.Within v.slot value.toInt) :
    PassedBelow registry environment line 10 := by
  refine h.next .limit fun fault hfails => ?_
  cases hfails with
  | limit hwrites' hlookup' _ hsupplies' hmeans' hlimit houtside =>
      -- The limit is asked for one variable and the number of one operand.
      cases hwrites.variable_unique hlookup hwrites' hlookup'
      rcases hwrites.unique hwrites' with ⟨_, rfl, rfl⟩
      cases hsupplies.unique hsupplies'
      cases hmeans.unique hmeans'
      exact houtside (hwithin _ hlimit)

/-- A text has no number to be checked. -/
theorem past_limit_of_text (h : PassedBelow registry environment line 8)
    (hwrites : line.Writes name indirect inner)
    (hlookup : registry.lookup? (String.ofList name) = some v) (hkind : v.kind = .text) :
    PassedBelow registry environment line 10 := by
  have hlimit : PassedBelow registry environment line 9 := by
    refine h.next .number fun fault hfails => ?_
    cases hfails with
    | number hwrites' hlookup' hkind' =>
        cases hwrites.variable_unique hlookup hwrites' hlookup'
        cases hkind.symm.trans hkind'
  refine hlimit.next .limit fun fault hfails => ?_
  cases hfails with
  | limit hwrites' hlookup' hkind' =>
      cases hwrites.variable_unique hlookup hwrites' hlookup'
      cases hkind.symm.trans hkind'

/-- An integer variable is decided by the checks of its number. -/
theorem decides_ofInteger (h : PassedBelow registry environment line 8)
    (hwrites : line.Writes name indirect inner)
    (hlookup : registry.lookup? (String.ofList name) = some v) (hkind : v.kind = .integer)
    {operand : Operand} (hsupplies : Supplies environment indirect inner operand) :
    Decides registry environment line (Setting.ofInteger registry v line.number operand) := by
  rcases Setting.ofInteger_cases registry v line.number operand with ⟨hread, hresult⟩ |
    ⟨value, hread, hlimit⟩
  · have hnone := (Operand.integer?_eq_none_iff operand).1 hread
    rw [hresult]
    exact ⟨.number, .number hwrites hlookup hkind hsupplies hnone, h⟩
  · have hmeans := (Operand.integer?_eq_some_iff_means operand value).1 hread
    have hnumber := h.past_number hwrites hsupplies hmeans
    rcases hlimit with ⟨hwithin, hresult⟩ | ⟨limit, hlimit, houtside, hresult⟩
    · rw [hresult]
      exact (hnumber.past_limit hwrites hlookup hsupplies hmeans hwithin).decides _
    · rw [hresult, Registry.name_of_lookup? hlookup]
      exact ⟨.limit, .limit hwrites hlookup hkind hsupplies hmeans hlimit houtside, hnumber⟩

end PassedBelow

namespace Setting

variable {name inner : List Char} {v : Variable}

/-- A value in the line is decided by the checks of its variable. -/
theorem decides_inline (h : PassedBelow registry environment line 4)
    (hwrites : line.Writes name false inner)
    (hlookup : registry.lookup? (String.ofList name) = some v) :
    Decides registry environment line (ofOperand registry v line.number (.inline inner)) := by
  have hlength := h.past_reading_of_inline hwrites
  rw [ofOperand]
  cases hkind : v.kind with
  | integer =>
      have hnumber := hlength.past_length_of_inline hwrites hlookup fun htext => by
        cases hkind.symm.trans htext
      exact hnumber.decides_ofInteger hwrites hlookup hkind (.inline inner)
  | text =>
      by_cases hlong : 65535 < (Utf8.encode inner).length
      · have hresult : ofText v line.number (.inline inner) =
            .error (.tooLong line.number v.name (Utf8.encode inner).length 65535) := if_pos hlong
        simp only [hresult, Registry.name_of_lookup? hlookup]
        exact ⟨.length, .textLength hwrites hlookup hkind hlong, hlength⟩
      · have hresult : ofText v line.number (.inline inner) =
            .ok (.text v.slot (Utf8.encode inner)) := if_neg hlong
        have hnumber := hlength.past_length_of_inline hwrites hlookup fun _ => Nat.not_lt.1 hlong
        simp only [hresult]
        exact (hnumber.past_limit_of_text hwrites hlookup hkind).decides _

/-- A value in a file is decided by the checks of the file and then by those of its
    variable. -/
theorem decides_file (h : PassedBelow registry environment line 4)
    (hwrites : line.Writes name true inner)
    (hlookup : registry.lookup? (String.ofList name) = some v) :
    Decides registry environment line
      (match Operand.readFile environment v line.number inner with
      | .error fault => .error fault
      | .ok operand => ofOperand registry v line.number operand) := by
  -- The checks of the file, each where its own step of the reading is taken.
  by_cases hne : inner = []
  · subst hne
    exact ⟨.fileName, .fileName hwrites, h⟩
  have hhome := h.past_fileName hwrites hne
  cases hpath : Path.expandTilde environment.home inner with
  | none =>
      rcases (Path.expandTilde_eq_none_iff _ _).1 hpath with ⟨hunset, rest, rfl⟩
      rw [Operand.readFile, hpath]
      exact ⟨.home, .home hwrites hunset, hhome⟩
  | some path =>
      have hreading := hhome.past_home hwrites hpath
      cases hfile : environment.files path with
      | error cause =>
          rw [Operand.readFile_of_unreadable hne hpath hfile]
          exact ⟨.reading, .reading hwrites hpath hfile, hreading⟩
      | ok content =>
          have hlength := hreading.past_reading hwrites hpath hfile
          rw [Operand.readFile_of_content hne hpath hfile]
          by_cases hlong : content.HasAtLeast 65536
          · have hcount : (content.take (maxPayload + 1)).length = 65536 :=
              Content.length_take_of_hasAtLeast hlong
            rw [hcount, Registry.name_of_lookup? hlookup]
            exact ⟨.length, .fileLength hwrites hpath hfile hlong, hlength⟩
          -- Nothing of a short file is lost, so its bytes are what the line supplies.
          · have hnumber := hlength.past_length hwrites hpath hfile hlong
            rcases Content.exists_of_not_hasAtLeast hlong with ⟨bytes, rfl, hcount, htake⟩
            have htake' : (Content.finite bytes).take (maxPayload + 1) = bytes := htake
            have hfits : ¬ maxPayload < bytes.length := Nat.not_lt.2 (Nat.le_of_lt_succ hcount)
            simp only [htake', if_neg hfits, ofOperand]
            cases hkind : v.kind with
            | integer => exact hnumber.decides_ofInteger hwrites hlookup hkind (.file hpath hfile)
            | text =>
                have hresult : ofText v line.number (.file path bytes) =
                    .ok (.text v.slot bytes) := if_neg hfits
                simp only [hresult]
                exact (hnumber.past_limit_of_text hwrites hlookup hkind).decides _

/-- Every line is decided by the first check that fails. -/
theorem decides_ofLine (registry : Registry) (environment : Environment) (line : Line) :
    Decides registry environment line (ofLine registry environment line) := by
  cases hread : SetLine.read? line.text with
  | none =>
      have hnone : ¬ ∃ name value, line.Sets name value := by
        rintro ⟨name, value, hset⟩
        cases hread.symm.trans ((line.sets_iff name value).1 hset)
      rw [ofLine, hread]
      exact ⟨.form, noSetLine_eq line ▸ .form hnone, PassedBelow.first⟩
  | some set =>
      rcases set with ⟨name, value⟩
      have hset := (line.sets_iff name value).2 hread
      have hname : PassedBelow registry environment line 2 := PassedBelow.past_form hset
      rw [ofLine_of_read? hread, ofSetLine]
      cases hlookup : registry.lookup? (String.ofList name) with
      | none => exact ⟨.name, .name hset hlookup, hname⟩
      | some v =>
          have hquotes := hname.past_name hset hlookup
          simp only [Operand.resolve]
          cases hvalue : WrittenValue.read? value with
          | none =>
              rcases (WrittenValue.read?_eq_none_iff value).1 hvalue with
                ⟨indirect, text, hmarked, hopen⟩
              exact ⟨.quotes, .quotes hset hmarked hopen, hquotes⟩
          | some written =>
              rcases written with ⟨indirect, inner⟩
              have hwrites := (line.writes_iff name inner indirect).2 ⟨value, hset, hvalue⟩
              cases indirect with
              | false => exact decides_inline (hquotes.past_quotes hwrites) hwrites hlookup
              | true => exact decides_file (hquotes.past_quotes hwrites) hwrites hlookup

end Setting

end

namespace Setting

/-- A set line sets something if it fails no check, and else it is reported with the
    fault of the check that comes first among those that it fails. The fault has the
    number of the line, and it is of the sort that the check finds. -/
theorem ofLine_lowestCheck (registry : Registry) (environment : Environment) (line : Line) :
    ((∃ setting, ofLine registry environment line = .ok setting) ↔
      ∀ check fault, ¬ Fails registry environment line check fault) ∧
    (∀ fault, ofLine registry environment line = .error fault ↔
      ∃ check, Fails registry environment line check fault ∧
        ∀ other fault', Fails registry environment line other fault' →
          check.place ≤ other.place) ∧
    (∀ check fault, Fails registry environment line check fault →
      fault.line? = some line.number ∧ fault.kind = check.kind) := by
  have hdecides := decides_ofLine registry environment line
  refine ⟨⟨?_, fun hnone => ?_⟩, fun fault => ⟨fun herror => ?_, ?_⟩, fun _ _ => Fails.line?_kind⟩
  · rintro ⟨setting, hok⟩
    rw [hok] at hdecides
    exact hdecides
  · cases hresult : ofLine registry environment line with
    | ok setting => exact ⟨setting, rfl⟩
    | error fault =>
        rw [hresult] at hdecides
        rcases hdecides with ⟨check, hfails, _⟩
        exact absurd hfails (hnone check fault)
  · rw [herror] at hdecides
    exact hdecides
  · rintro ⟨check, hfails, hfirst⟩
    cases hresult : ofLine registry environment line with
    | ok setting =>
        rw [hresult] at hdecides
        exact absurd hfails (hdecides check fault)
    | error fault' =>
        rw [hresult] at hdecides
        rcases hdecides with ⟨check', hfails', hpassed⟩
        -- Both checks come first, so they are one, and it fails with one fault.
        have hplace := Nat.le_antisymm (hfirst check' fault' hfails') (hpassed check fault hfails)
        cases Check.eq_of_place_eq hplace
        rw [hfails.unique hfails']

/-- A quote that stays open after the name of no variable, and a file without a name
    that cannot be opened either. -/
theorem ofLine_lowestCheck_two :
    (Fails .snappySense ⟨none, fun _ => .error .notFound⟩ ⟨"set ssid @\"x".toList, 3⟩ .quotes
        (.form 3 (.value "@\"x")) ∧
      ofLine .snappySense ⟨none, fun _ => .error .notFound⟩ ⟨"set ssid @\"x".toList, 3⟩ =
        .error (.unknownVariable 3 "ssid")) ∧
    (Fails .snappySense ⟨none, fun _ => .error .notFound⟩ ⟨"set enabled @".toList, 3⟩ .reading
        (.unreadable 3 "" .notFound) ∧
      ofLine .snappySense ⟨none, fun _ => .error .notFound⟩ ⟨"set enabled @".toList, 3⟩ =
        .error (.form 3 .emptyFileName)) := by
  constructor
  · have hset : Line.Sets ⟨"set ssid @\"x".toList, 3⟩ "ssid".toList "@\"x".toList :=
      (Line.sets_iff _ _ _).2 (by decide)
    refine ⟨.quotes hset (.file _) ⟨['x'], rfl, by decide⟩, ?_⟩
    exact ((ofLine_lowestCheck _ _ _).2.1 _).2
      ⟨.name, .name hset (by decide), PassedBelow.past_form hset⟩
  · have hset : Line.Sets ⟨"set enabled @".toList, 3⟩ "enabled".toList "@".toList :=
      (Line.sets_iff _ _ _).2 (by decide)
    have hwrites : Line.Writes ⟨"set enabled @".toList, 3⟩ "enabled".toList true [] :=
      (Line.writes_iff _ _ _ _).2 ⟨_, hset, by decide⟩
    refine ⟨.reading hwrites rfl rfl, ?_⟩
    have hlookup : Registry.snappySense.lookup? (String.ofList "enabled".toList) =
        some ⟨"enabled", .integer, 0⟩ := by decide
    exact ((ofLine_lowestCheck _ _ _).2.1 _).2 ⟨.fileName, .fileName hwrites,
      ((PassedBelow.past_form hset).past_name hset hlookup).past_quotes hwrites⟩

end Setting

end SensorConfig
