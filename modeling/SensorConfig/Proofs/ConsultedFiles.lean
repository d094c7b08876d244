import SensorConfig.Proofs.FirstFault

/-!
# Consulted Files

What a compilation learns from its environment.

An environment is a home directory and what every path gives, and a text may name
any path. Which of them are opened is decided while the text is read: a line has
to be a set line, its variable has to be registered and its quotes have to be
closed before its file is opened, and nothing behind the first fault is read at
all. So what is consulted depends on what was consulted before, and two
environments have to be compared along a run.

The comparison does not follow both runs at once. A fault says what it needs: the
lines up to its own. `Program.FaultOf` keeps these apart from the lines behind, so
where the two environments are alike on the lines up to the fault, it is a fault
in the one exactly as it is in the other. A run without a fault needs all lines.

## Main definitions

* `NamesFile`: A line that names a file which may be opened.
* `SetAlike`: Lines that set the same in two environments.
* `Environment.Alike`: Two environments that give the same for a file name.
* `Program.Consults`: A file name on a line that is read.
* `CompilesAlike`: A text that compiles to the same in two environments.

## Theorems

* `Setting.ofLine_congr`: A line sets the same where its file is alike.
* `Program.OpenedBy.congr`, `Program.FaultAt.congr`: So do the lines up to a fault.
* `Program.ofLines_congr`: Lines say the same where the lines read do.
* `Program.ofSource_congr`: A text says the same where what it consults is alike.
* `compilesAlike_of_fileOfLine?`: The files that lines refer to are enough.
* `compile_consulted`: Only what a text consults matters.
-/

namespace SensorConfig

/-- A line names a file: it is a set line of a registered variable, and its value
    is an at sign and a name that is not empty, with its quotes closed if it has
    any. -/
def NamesFile (registry : Registry) (line : Line) (name : List Char) : Prop :=
  ∃ set v, SetLine.read? line.text = some set ∧
    registry.lookup? (String.ofList set.name) = some v ∧
    WrittenValue.read? set.value = some ⟨true, name⟩ ∧ name ≠ []

/-- Two environments give the same for a file name: it stands for the same path,
    and as much of the file as is read is the same, or there is the same cause why
    it cannot be read. -/
structure Environment.Alike (left right : Environment) (name : List Char) : Prop where
  path : Path.expandTilde left.home name = Path.expandTilde right.home name
  bytes : ∀ path, Path.expandTilde left.home name = some path →
    left.read path (maxPayload + 1) = right.read path (maxPayload + 1)

/-- A value in a file begins with an at sign. -/
theorem WrittenValue.head?_of_read? {text name : List Char}
    (h : read? text = some ⟨true, name⟩) : text.head? = some '@' := by
  unfold read? at h
  split at h
  · rfl
  · rcases Option.map_eq_some_iff.1 h with ⟨inner, _, hinner⟩
    exact absurd hinner (by simp only [mk.injEq, Bool.false_eq_true, false_and, not_false_eq_true])

/-- Lines set the same in two environments, or have the same faults. -/
def SetAlike (registry : Registry) (left right : Environment) (lines : List Line) : Prop :=
  ∀ line ∈ lines, Setting.ofLine registry left line = Setting.ofLine registry right line

section

variable {registry : Registry} {left right : Environment} {count : Nat}

theorem SetAlike.mono {lines others : List Line} (h : SetAlike registry left right lines)
    (hothers : others ⊆ lines) : SetAlike registry left right others :=
  fun line hmem => h line (hothers hmem)

theorem SetAlike.map_eq {lines : List Line} (h : SetAlike registry left right lines) :
    lines.map (Setting.ofLine registry right) = lines.map (Setting.ofLine registry left) :=
  List.map_congr_left fun line hmem => (h line hmem).symm

theorem Operand.readFile_congr {v : Variable} {line : Nat} {name : List Char}
    (h : name ≠ [] → left.Alike right name) :
    readFile left v line name = readFile right v line name := by
  unfold readFile
  split
  · rfl
  · next hempty =>
    have halike := h fun hnil => hempty (List.isEmpty_iff.2 hnil)
    rw [← halike.path]
    cases hpath : Path.expandTilde left.home name with
    | none => rfl
    | some path => simp only [halike.bytes path hpath]

/-- A line sets the same, or has the same fault, where the file that it names is
    alike. -/
theorem Setting.ofLine_congr {line : Line}
    (h : ∀ name, NamesFile registry line name → left.Alike right name) :
    ofLine registry left line = ofLine registry right line := by
  unfold ofLine
  split
  · rfl
  · next set hset =>
    split
    · rfl
    · next v hlookup =>
      have hresolve : Operand.resolve left v line.number set.value =
          Operand.resolve right v line.number set.value := by
        unfold Operand.resolve
        split
        · rfl
        · rfl
        · next name hvalue =>
          exact Operand.readFile_congr fun hne => h name ⟨set, v, hset, hlookup, hvalue, hne⟩
      rw [hresolve]

namespace Program

/-- Lines that open a program in one environment open it in another where they set
    the same. -/
theorem OpenedBy.congr {lines : List Line} {program : Program}
    (h : OpenedBy registry left lines program) (hsame : SetAlike registry left right lines) :
    OpenedBy registry right lines program := by
  cases h with
  | @plain first sets settings hfirst hsets =>
      have hothers := hsame.mono (List.subset_cons_self first sets)
      exact .plain hfirst (hothers.map_eq.trans hsets)
  | @clearing first second sets settings hfirst hclear hsets =>
      have hothers := (hsame.mono (List.subset_cons_self first (second :: sets))).mono
        (List.subset_cons_self second sets)
      exact .clearing hfirst hclear (hothers.map_eq.trans hsets)

/-- A line at fault in one environment is at fault in another where it and the
    lines before it set the same. -/
theorem FaultAt.congr {before : List Line} {line : Line} {fault : Fault}
    (h : FaultAt registry left before line fault)
    (hsame : SetAlike registry left right (before ++ [line])) :
    FaultAt registry right before line fault := by
  have hbefore := hsame.mono (List.subset_append_left before [line])
  cases h with
  | preamble h => exact .preamble h
  | setting hopened hline hclear h =>
      refine .setting (hopened.congr hbefore) hline hclear ?_
      rw [← hsame line (List.mem_append_right _ (List.mem_singleton_self line)), h]
  | @trailing opened last line save program hopened hlast =>
      exact .trailing (hopened.congr (hbefore.mono (List.subset_append_left opened [last]))) hlast

theorem settingsOfLines_congr {program : Program} {lines : List Line}
    (hsame : SetAlike registry left right lines) :
    settingsOfLines registry left count program lines =
      settingsOfLines registry right count program lines := by
  induction lines generalizing program with
  | nil => rfl
  | cons line lines ih =>
      rw [settingsOfLines, settingsOfLines, ← hsame line List.mem_cons_self]
      cases terminator? line.text with
      | some save => rfl
      | none =>
          cases Setting.ofLine registry left line with
          | error fault => rfl
          | ok setting => exact ih (hsame.mono (List.subset_cons_self line lines))

/-- Lines say the same in two environments in which all of them set the same. -/
theorem ofLines_congr_of_setAlike {lines : List Line}
    (hsame : SetAlike registry left right lines) :
    ofLines registry left count lines = ofLines registry right count lines := by
  cases lines with
  | nil => rfl
  | cons first lines =>
      -- Set lines begin behind the preamble, or one line later behind a clear line.
      have hothers := hsame.mono (List.subset_cons_self first lines)
      have htail := hothers.mono fun _ => List.mem_of_mem_tail
      simp only [ofLines, settingsOfLines_congr hothers, settingsOfLines_congr htail]

/-- Lines in the order of their numbers say the same in two environments in which
    those up to the first fault set the same. -/
theorem ofLines_congr {lines : List Line}
    (horder : lines.Pairwise fun line other => line.number < other.number)
    (hcount : ∀ line ∈ lines, line.number ≤ count)
    (hsame : ∀ line ∈ lines,
      (∀ fault n, ofLines registry left count lines = .error fault → fault.line? = some n →
        line.number ≤ n) →
      Setting.ofLine registry left line = Setting.ofLine registry right line) :
    ofLines registry left count lines = ofLines registry right count lines := by
  cases hleft : ofLines registry left count lines with
  | ok program =>
      rw [hleft] at hsame
      rw [← hleft]
      refine ofLines_congr_of_setAlike fun line hmem => hsame line hmem fun fault n hfault => ?_
      exact absurd hfault (by simp only [reduceCtorEq, not_false_eq_true])
  | error fault =>
      rw [hleft] at hsame
      -- It is enough that a line is not behind the one at fault.
      have hupto : ∀ line ∈ lines, (∀ n, fault.line? = some n → line.number ≤ n) →
          Setting.ofLine registry left line = Setting.ofLine registry right line := by
        intro line hmem hnumber
        refine hsame line hmem fun found n hfound => ?_
        rw [← Except.error.inj hfound]
        exact hnumber n
      symm
      rw [ofLines_eq_error_iff]
      cases (ofLines_eq_error_iff _ _).1 hleft with
      | empty => exact .empty
      | unterminated hopened =>
          refine .unterminated (hopened.congr fun line hmem => hupto line hmem fun n hn => ?_)
          rw [← Option.some.inj hn]
          exact hcount line hmem
      | @atLine before line fault hfault after =>
          -- The lines of the derivation are those up to the one at fault.
          rw [List.pairwise_append] at horder
          refine .atLine (hfault.congr fun other hmem => ?_) after
          rcases List.mem_append.1 hmem with hbefore | hself
          · refine hupto other (List.mem_append_left _ hbefore) fun n hn => ?_
            rw [hfault.line?_eq, Option.some.injEq] at hn
            rw [← hn]
            exact Nat.le_of_lt (horder.2.2 other hbefore line List.mem_cons_self)
          · rw [List.mem_singleton.1 hself]
            refine hupto line (List.mem_append_right _ List.mem_cons_self) fun n hn => ?_
            rw [hfault.line?_eq, Option.some.injEq] at hn
            exact Nat.le_of_eq hn

end Program

end

namespace Program

/-- A text has a run that comes to a file name: it stands on a line that names a
    file and is not behind the one at fault, if the run has a fault. -/
def Consults (registry : Registry) (environment : Environment) (text : List Char)
    (name : List Char) : Prop :=
  ∃ line ∈ significantLines text, NamesFile registry line name ∧
    ∀ fault n, (ofSource registry environment (Source.ofText text)).1 = .error fault →
      fault.line? = some n → line.number ≤ n

/-- A text says the same in two environments that are alike for every name that a
    run in the first comes to. -/
theorem ofSource_congr {registry : Registry} {left right : Environment} {text : List Char}
    (h : ∀ name, Consults registry left text name → left.Alike right name) :
    (ofSource registry left (Source.ofText text)).1 =
      (ofSource registry right (Source.ofText text)).1 := by
  simp only [Consults, ofSource_ofText_fst] at h ⊢
  refine ofLines_congr (linesFrom_pairwise 1 _)
    (fun line hmem => number_le_of_mem_significantLines hmem) fun line hmem hread => ?_
  exact Setting.ofLine_congr fun name hname => h name ⟨line, hmem, hname, hread⟩

end Program

/-- A text compiles to the same in two environments: it says the same program or
    has the same fault, and so it has the same bytes. -/
def CompilesAlike (left right : Environment) (text : List Char) : Prop :=
  (Program.ofSource .snappySense left (Source.ofText text)).1 =
      (Program.ofSource .snappySense right (Source.ofText text)).1 ∧
    compileText left text = compileText right text

theorem compilesAlike_of_ofSource {left right : Environment} {text : List Char}
    (h : (Program.ofSource .snappySense left (Source.ofText text)).1 =
      (Program.ofSource .snappySense right (Source.ofText text)).1) :
    CompilesAlike left right text := by
  refine ⟨h, ?_⟩
  rw [compileText, compileText, compile_fst, compile_fst, h]

/-- The path of the file that a line refers to is that of the name on it. -/
theorem fileOfLine?_eq_some_iff (registry : Registry) (home : Option String) (line : Line)
    (path : String) :
    fileOfLine? registry home line = some path ↔
      ∃ name, NamesFile registry line name ∧ Path.expandTilde home name = some path := by
  simp only [fileOfLine?, Option.bind_eq_bind, Option.bind_eq_some_iff,
    Option.ite_none_right_eq_some, Bool.and_eq_true, Bool.not_eq_true', List.isEmpty_eq_false_iff]
  constructor
  · rintro ⟨set, hset, v, hlookup, ⟨indirect, name⟩, hvalue, ⟨rfl, hne⟩, hpath⟩
    exact ⟨name, ⟨set, v, hset, hlookup, hvalue, hne⟩, hpath⟩
  · rintro ⟨name, ⟨set, v, hset, hlookup, hvalue, hne⟩, hpath⟩
    exact ⟨set, hset, v, hlookup, ⟨true, name⟩, hvalue, ⟨rfl, hne⟩, hpath⟩

/-- To compile a text it is enough to have the files that its lines refer to, as
    they can be told from the text and the home directory. -/
theorem compilesAlike_of_fileOfLine? {left right : Environment} {text : List Char}
    (hhome : left.home = right.home)
    (hfiles : ∀ line ∈ significantLines text, ∀ path,
      fileOfLine? .snappySense left.home line = some path → left.files path = right.files path) :
    CompilesAlike left right text := by
  refine compilesAlike_of_ofSource (Program.ofSource_congr fun name hconsults => ⟨?_, ?_⟩)
  · rw [hhome]
  · intro path hpath
    rcases hconsults with ⟨line, hmem, hname, _⟩
    have hfile := (fileOfLine?_eq_some_iff _ _ _ _).2 ⟨name, hname, hpath⟩
    rw [Environment.read, Environment.read, hfiles line hmem path hfile]

/-- A compilation depends on its environment by the files that it consults. Two
    environments that are alike for these give the same. So a text without an at
    sign before a value compiles to the same in all environments, and so does one
    whose first line is no preamble of the supported version. The home directory
    matters only if a name that is consulted begins with a tilde and a slash, and
    no file matters that no such name leads to. A line with an unknown variable or a
    quote that stays open has no such name. -/
theorem compile_consulted (text : List Char) :
    (∀ left right : Environment,
      (∀ name, Program.Consults .snappySense left text name → left.Alike right name) →
      CompilesAlike left right text) ∧
    ((∀ line ∈ significantLines text, ∀ set, SetLine.read? line.text = some set →
        set.value.head? ≠ some '@') →
      ∀ left right : Environment, CompilesAlike left right text) ∧
    ((∃ first fault, (significantLines text).head? = some first ∧
        Version.ofLine first = .error fault) →
      ∀ left right : Environment, CompilesAlike left right text) ∧
    (∀ left right : Environment, left.files = right.files →
      (∀ name, Program.Consults .snappySense left text name →
        ∀ rest, name ≠ '~' :: '/' :: rest) →
      CompilesAlike left right text) ∧
    (∀ left right : Environment, left.home = right.home →
      (∀ name path, Program.Consults .snappySense left text name →
        Path.expandTilde left.home name = some path → left.files path = right.files path) →
      CompilesAlike left right text) ∧
    ∀ line ∈ significantLines text, ∀ set, SetLine.read? line.text = some set →
      (Registry.snappySense.lookup? (String.ofList set.name) = none ∨
        WrittenValue.read? set.value = none) →
      ∀ name, ¬ NamesFile .snappySense line name := by
  have hmain : ∀ left right : Environment,
      (∀ name, Program.Consults .snappySense left text name → left.Alike right name) →
        CompilesAlike left right text :=
    fun left right h => compilesAlike_of_ofSource (Program.ofSource_congr h)
  refine ⟨hmain, fun hvalue left right => ?_, fun hversion left right => ?_,
    fun left right hfiles hname => ?_, fun left right hhome hfiles => ?_,
    fun line _ set hset hclosed name ⟨other, v, hother, hlookup, hread, _⟩ => ?_⟩
  · refine hmain left right fun name ⟨line, hmem, ⟨set, _, hset, _, hread, _⟩, _⟩ => ?_
    exact absurd (WrittenValue.head?_of_read? hread) (hvalue line hmem set hset)
  -- The preamble is at fault in both, and nothing behind it is read.
  · rcases hversion with ⟨first, fault, hfirst, hfault⟩
    rcases List.head?_eq_some_iff.1 hfirst with ⟨lines, hlines⟩
    refine compilesAlike_of_ofSource ?_
    simp only [Program.ofSource_ofText_fst, hlines, Program.ofLines, hfault]
  -- A name without a tilde stands for the same path under every home directory.
  · refine hmain left right fun name hconsults => ⟨?_, fun path _ => ?_⟩
    · rw [Path.expandTilde_of_no_tilde _ (hname name hconsults),
        Path.expandTilde_of_no_tilde _ (hname name hconsults)]
    · rw [Environment.read, Environment.read, hfiles]
  · refine hmain left right fun name hconsults => ⟨?_, fun path hpath => ?_⟩
    · rw [hhome]
    · rw [Environment.read, Environment.read, hfiles name path hconsults hpath]
  · -- The line is one set line, so it is the one whose name or value is not good.
    rw [hset, Option.some.injEq] at hother
    rw [← hother] at hlookup hread
    rcases hclosed with hunknown | hopen
    · rw [hunknown] at hlookup
      exact absurd hlookup (by simp only [reduceCtorEq, not_false_eq_true])
    · rw [hopen] at hread
      exact absurd hread (by simp only [reduceCtorEq, not_false_eq_true])

/-- A file of a variable that does not exist, and a file named behind it. -/
theorem compile_consulted_unknown :
    let text := "snappysense-compiled-config 1.0.0\nset ssid1 @a\nset no @b\nset ssid2 @c".toList
    let left : Environment :=
      ⟨none, fun path => if path = "a" then .ok (.finite [0x78]) else .error .notFound⟩
    let right : Environment :=
      ⟨some "/", fun path => .ok (if path = "a" then .finite [0x78] else .endless fun _ => 0)⟩
    CompilesAlike left right text := by
  intro text left right
  have hlines : significantLines text =
      [⟨"snappysense-compiled-config 1.0.0".toList, 1⟩, ⟨"set ssid1 @a".toList, 2⟩,
        ⟨"set no @b".toList, 3⟩, ⟨"set ssid2 @c".toList, 4⟩] := by decide
  have hfault : (Program.ofSource .snappySense left (Source.ofText text)).1 =
      .error (.unknownVariable 3 "no") := by decide +kernel
  refine (compile_consulted text).1 left right fun name ⟨line, hmem, hname, hread⟩ => ?_
  have hnumber : line.number ≤ 3 := hread _ 3 hfault rfl
  rcases hname with ⟨set, v, hset, hlookup, hvalue, _⟩
  rw [hlines] at hmem
  simp only [List.mem_cons, List.not_mem_nil, or_false] at hmem
  rcases hmem with rfl | rfl | rfl | rfl
  · cases (show none = some set from hset)
  · cases (show some ⟨"ssid1".toList, "@a".toList⟩ = some set from hset)
    cases (show some ⟨true, "a".toList⟩ = some (⟨true, name⟩ : WrittenValue) from hvalue)
    refine ⟨rfl, fun path hpath => ?_⟩
    cases (show some "a" = some path from hpath)
    rfl
  · cases (show some ⟨"no".toList, "@b".toList⟩ = some set from hset)
    cases (show none = some v from hlookup)
  · exact absurd hnumber (by decide)

end SensorConfig
