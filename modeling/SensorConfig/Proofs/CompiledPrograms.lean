import SensorConfig.Compile
import SensorConfig.Proofs.ProgramGrammar
import SensorConfig.Proofs.RecordsReadBack

/-!
# Compiled Programs

What holds of every program that a source says, and why writing it cannot fail.

A value reaches a program by several ways: it stands in the line, in quotes or
without, or it comes from a file. Its length, its kind and its range are looked
at in different places, and no one place looks at all of them. What all ways
have in common is where they end. Every setting is what some line sets, and
what a line sets the registry allows.

A text that the registry allows fits its record, so a program that was read can
be written. The fault of a text that does not fit is therefore never the fault
of a compilation. It is told apart from the others by having no line: a fault
of reading is always that of a line, and the source then stands behind it. What
that line was read as, a preamble or a set line, can be told from the fault too.

## Main definitions

* `Fault.site`: Where in a program a fault is found.

## Theorems

* `Operand.readFile_cases`: What a file name gives.
* `Version.cases_of_ofLine`, `Operand.cases_of_readFile`, `Setting.cases_of_ofOperand`:
  What can go wrong with a preamble, a file name and an operand.
* `Setting.fault_of_ofLine`: A fault of a set line has the line's number.
* `Source.number_of_mem_reads`: A line has the number of lines read with it.
* `Program.line?_of_ofSource`: A fault of a source has the line read last.
* `Program.wellFormed_of_ofSource`: A program that is read is well formed.
* `Program.WellFormed.encode_eq`: And it has bytes.
* `compile_eq_ok_iff`, `compile_eq_error_iff`: Compiling follows reading.
* `compile_ne_overlong`: No text of a program that was read is too long.
* `compile_wellFormed`: Compiling gives every program that is read, and its bytes.
-/

namespace SensorConfig

section

variable {registry : Registry} {environment : Environment}

/-- Where in a program a fault is found: in its preamble, in a set line, behind
    the line that ends it, or where its lines end. -/
inductive FaultSite where
  | preamble
  | setting
  | behind
  | ending
  | outside
  deriving DecidableEq, Repr

/-- Where in a program a fault is found. -/
def Fault.site : Fault → FaultSite
  | form _ .noPreamble | form _ (.preamble _) | version .. => .preamble
  | form _ (.setting _) | form _ (.unexpected _) | form _ (.value _) | form _ .emptyFileName
  | unknownVariable .. | notInteger .. | outOfRange .. | tooLong .. | homeUnset _
  | unreadable .. => .setting
  | form _ (.trailing _) => .behind
  | form _ .emptyProgram | form _ .unterminated => .ending
  | file .. | overlong _ => .outside

theorem fault_noSetLine (line : Line) :
    (noSetLine line).line? = some line.number ∧ (noSetLine line).site = .setting := by
  unfold noSetLine
  split <;> exact ⟨rfl, rfl⟩

/-- What can be wrong with a preamble: it is none, it has not the form of one, a
    component is too large or the version is unknown. -/
theorem Version.cases_of_ofLine {line : Line} {fault : Fault} (h : ofLine line = .error fault) :
    fault = .form line.number .noPreamble ∨
    fault = .form line.number (.preamble (String.ofList line.text)) ∨
    fault = .version line.number (.component (String.ofList line.text)) ∨
    ∃ version, fault = .version line.number (.unknown version) := by
  unfold ofLine at h
  simp only at h
  split at h
  · split at h
    · cases h
      exact Or.inr (Or.inl rfl)
    · cases h
      exact Or.inl rfl
  · split at h
    · cases h
      exact Or.inr (Or.inr (Or.inl rfl))
    · split at h
      · cases h
      · cases h
        exact Or.inr (Or.inr (Or.inr ⟨_, rfl⟩))

/-- A fault of a preamble has its line's number. -/
theorem Version.fault_of_ofLine {line : Line} {fault : Fault} (h : ofLine line = .error fault) :
    fault.line? = some line.number ∧ fault.site = .preamble := by
  rcases cases_of_ofLine h with rfl | rfl | rfl | ⟨version, rfl⟩ <;> exact ⟨rfl, rfl⟩

/-- What a file name gives: it is empty, it needs a home directory that is not
    there, or it stands for a path, and then the file cannot be read, is too long or
    is an operand. -/
theorem Operand.readFile_cases (environment : Environment) (v : Variable) (line : Nat)
    (name : List Char) :
    (name = [] ∧ readFile environment v line name = .error (.form line .emptyFileName)) ∨
    (name ≠ [] ∧ Path.expandTilde environment.home name = none ∧
      readFile environment v line name = .error (.homeUnset line)) ∨
    (name ≠ [] ∧ ∃ path, Path.expandTilde environment.home name = some path ∧
      ((∃ cause, environment.read path (maxPayload + 1) = .error cause ∧
          readFile environment v line name = .error (.unreadable line path cause)) ∨
        ∃ bytes, environment.read path (maxPayload + 1) = .ok bytes ∧
          ((maxPayload < bytes.length ∧ readFile environment v line name =
              .error (.tooLong line v.name bytes.length maxPayload)) ∨
            bytes.length ≤ maxPayload ∧
              readFile environment v line name = .ok (.file path bytes)))) := by
  unfold readFile
  by_cases hempty : name = []
  · exact Or.inl ⟨hempty, by rw [hempty]; rfl⟩
  · rw [if_neg (mt List.isEmpty_iff.1 hempty)]
    refine Or.inr ?_
    cases hpath : Path.expandTilde environment.home name with
    | none => exact Or.inl ⟨hempty, rfl, rfl⟩
    | some path =>
        refine Or.inr ⟨hempty, path, rfl, ?_⟩
        cases hread : environment.read path (maxPayload + 1) with
        | error cause => exact Or.inl ⟨cause, rfl, by simp only [hread]⟩
        | ok bytes =>
            refine Or.inr ⟨bytes, rfl, ?_⟩
            by_cases hlong : bytes.length > maxPayload
            · exact Or.inl ⟨hlong, by simp only [hread, hlong, ↓reduceIte]⟩
            · exact Or.inr ⟨Nat.not_lt.1 hlong, by simp only [hread, hlong, ↓reduceIte]⟩

/-- What can be wrong with a file name: it is empty, there is no home directory, the
    file cannot be read, or it is too long. -/
theorem Operand.cases_of_readFile {v : Variable} {line : Nat} {name : List Char} {fault : Fault}
    (h : readFile environment v line name = .error fault) :
    fault = .form line .emptyFileName ∨ fault = .homeUnset line ∨
    (∃ path cause, name ≠ [] ∧ Path.expandTilde environment.home name = some path ∧
      environment.read path (maxPayload + 1) = .error cause ∧
      fault = .unreadable line path cause) ∨
    ∃ length, fault = .tooLong line v.name length maxPayload := by
  rcases readFile_cases environment v line name with ⟨_, hread⟩ | ⟨_, _, hread⟩ |
    ⟨hne, path, hpath, ⟨cause, hcause, hread⟩ | ⟨bytes, _, ⟨_, hread⟩ | ⟨_, hread⟩⟩⟩
  · cases hread.symm.trans h
    exact Or.inl rfl
  · cases hread.symm.trans h
    exact Or.inr (Or.inl rfl)
  · cases hread.symm.trans h
    exact Or.inr (Or.inr (Or.inl ⟨path, cause, hne, hpath, hcause, rfl⟩))
  · cases hread.symm.trans h
    exact Or.inr (Or.inr (Or.inr ⟨bytes.length, rfl⟩))
  · cases hread.symm.trans h

theorem Operand.fault_of_readFile {v : Variable} {line : Nat} {name : List Char} {fault : Fault}
    (h : readFile environment v line name = .error fault) :
    fault.line? = some line ∧ fault.site = .setting := by
  rcases cases_of_readFile h with rfl | rfl | ⟨path, cause, _, _, _, rfl⟩ | ⟨length, rfl⟩ <;>
    exact ⟨rfl, rfl⟩

theorem Operand.fault_of_resolve {v : Variable} {line : Nat} {value : List Char} {fault : Fault}
    (h : resolve environment v line value = .error fault) :
    fault.line? = some line ∧ fault.site = .setting := by
  unfold resolve at h
  split at h
  · cases h
    exact ⟨rfl, rfl⟩
  · cases h
  · exact fault_of_readFile h

/-- An operand is a text from the value, or it is read from the path that a name
    in the value stands for. -/
theorem Operand.of_resolve {v : Variable} {line : Nat} {value : List Char} {operand : Operand}
    (h : resolve environment v line value = .ok operand) :
    (∃ text, WrittenValue.read? value = some ⟨false, text⟩ ∧ operand = .inline text) ∨
    ∃ name path bytes, WrittenValue.read? value = some ⟨true, name⟩ ∧ name ≠ [] ∧
      Path.expandTilde environment.home name = some path ∧
      environment.read path (maxPayload + 1) = .ok bytes ∧ operand = .file path bytes := by
  unfold resolve at h
  split at h
  · cases h
  · next text hvalue =>
    cases h
    exact Or.inl ⟨text, hvalue, rfl⟩
  · next name hvalue =>
    rcases readFile_cases environment v line name with ⟨_, hread⟩ | ⟨_, _, hread⟩ |
      ⟨hne, path, hpath, ⟨cause, _, hread⟩ | ⟨bytes, hbytes, ⟨_, hread⟩ | ⟨_, hread⟩⟩⟩
    · cases hread.symm.trans h
    · cases hread.symm.trans h
    · cases hread.symm.trans h
    · cases hread.symm.trans h
    · cases hread.symm.trans h
      exact Or.inr ⟨name, path, bytes, hvalue, hne, hpath, hbytes, rfl⟩

namespace Setting

/-- What can be wrong with an operand: it denotes no integer, the integer is out of
    range, or the text is too long. -/
theorem cases_of_ofOperand {v : Variable} {line : Nat} {operand : Operand} {fault : Fault}
    (h : ofOperand registry v line operand = .error fault) :
    fault = .notInteger line operand.shown ∨
    (∃ value min max, fault = .outOfRange line v.name value min max) ∨
    ∃ length, fault = .tooLong line v.name length maxPayload := by
  unfold ofOperand at h
  split at h
  · unfold ofInteger at h
    split at h
    · cases h
      exact Or.inl rfl
    · split at h
      · cases h
      · split at h
        · cases h
        · cases h
          exact Or.inr (Or.inl ⟨_, _, _, rfl⟩)
  · unfold ofText at h
    simp only at h
    split at h
    · cases h
      exact Or.inr (Or.inr ⟨_, rfl⟩)
    · cases h

theorem fault_of_ofOperand {v : Variable} {line : Nat} {operand : Operand} {fault : Fault}
    (h : ofOperand registry v line operand = .error fault) :
    fault.line? = some line ∧ fault.site = .setting := by
  rcases cases_of_ofOperand h with rfl | ⟨value, min, max, rfl⟩ | ⟨length, rfl⟩ <;>
    exact ⟨rfl, rfl⟩

/-- A fault of a set line has its number, and is none of any other line. -/
theorem fault_of_ofLine {line : Line} {fault : Fault}
    (h : ofLine registry environment line = .error fault) :
    fault.line? = some line.number ∧ fault.site = .setting := by
  unfold ofLine at h
  split at h
  · cases h
    exact fault_noSetLine line
  · split at h
    · cases h
      exact ⟨rfl, rfl⟩
    · split at h
      · next hresolve =>
        cases h
        exact Operand.fault_of_resolve hresolve
      · exact fault_of_ofOperand h

end Setting

/-- A line that is read has the number of lines that have then been read. -/
theorem Source.number_of_mem_reads {source after : Source} {line : Line}
    (h : (line, after) ∈ source.reads) : line.number = after.consumed := by
  rcases exists_of_mem_reads h with ⟨_, _, _, _, _, _, hread⟩
  rw [Prod.mk.injEq] at hread
  rw [hread.1, hread.2]

namespace Program

theorem line?_of_settingsOf {program : Program} {source after : Source}
    {reads : List (Line × Source)} (hreads : ∀ read ∈ reads, read.1.number = read.2.consumed)
    {fault : Fault}
    (h : settingsOf registry environment program source reads = (.error fault, after)) :
    fault.line? = some after.consumed := by
  induction reads generalizing program source with
  | nil =>
      simp only [settingsOf, Prod.mk.injEq, Except.error.injEq] at h
      rw [← h.1, ← h.2]
      rfl
  | cons read reads ih =>
      rcases read with ⟨line, next⟩
      have hline : line.number = next.consumed := hreads (line, next) List.mem_cons_self
      have hothers : ∀ read ∈ reads, read.1.number = read.2.consumed :=
        fun read hmem => hreads read (List.mem_cons_of_mem _ hmem)
      simp only [settingsOf] at h
      split at h
      · -- The program has ended: the fault is that of a line which follows.
        cases reads with
        | nil => simp [ending] at h
        | cons read reads =>
            rcases read with ⟨extra, behind⟩
            simp only [ending, Prod.mk.injEq, Except.error.injEq] at h
            have hextra : extra.number = behind.consumed :=
              hothers (extra, behind) List.mem_cons_self
            rw [← h.1, ← h.2, ← hextra]
            rfl
      · split at h
        · next hsetting =>
          simp only [Prod.mk.injEq, Except.error.injEq] at h
          rw [← h.1, ← h.2, ← hline]
          exact (Setting.fault_of_ofLine hsetting).1
        · exact ih hothers h

/-- A fault of a source has the line that was read last. -/
theorem line?_of_ofSource {source after : Source} {fault : Fault}
    (h : ofSource registry environment source = (.error fault, after)) :
    fault.line? = some after.consumed := by
  have hreads : ∀ read ∈ source.reads, read.1.number = read.2.consumed :=
    fun read hmem => Source.number_of_mem_reads hmem
  unfold ofSource at h
  split at h
  · simp only [Prod.mk.injEq, Except.error.injEq] at h
    rw [← h.1, ← h.2]
    rfl
  · next line next reads heq =>
    rw [heq] at hreads
    have hline : line.number = next.consumed := hreads (line, next) List.mem_cons_self
    have hothers : ∀ read ∈ reads, read.1.number = read.2.consumed :=
      fun read hmem => hreads read (List.mem_cons_of_mem _ hmem)
    split at h
    · next hversion =>
      simp only [Prod.mk.injEq, Except.error.injEq] at h
      rw [← h.1, ← h.2, ← hline]
      exact (Version.fault_of_ofLine hversion).1
    · unfold ofReads at h
      split at h
      · split at h
        · exact line?_of_settingsOf (fun read hmem => hothers read (List.mem_cons_of_mem _ hmem)) h
        · exact line?_of_settingsOf hothers h
      · exact line?_of_settingsOf hothers h

end Program

/-- What set lines say the registry allows. -/
theorem SetLines.allowed {lines : List Line} {settings : List Setting} {save : Bool}
    (h : SetLines registry environment lines settings save) :
    ∀ setting ∈ settings, setting.Allowed registry := by
  induction h with
  | ends _ => exact fun setting hmem => absurd hmem List.not_mem_nil
  | @sets line setting lines settings save _ hsetting _ ih =>
      intro other hmem
      rcases List.mem_cons.1 hmem with rfl | hmem
      · exact Setting.allowed_of_ofLine hsetting
      · exact ih other hmem

namespace Program

/-- A program that is read is well formed, wherever in a source it was read. -/
theorem wellFormed_of_ofSource {source : Source} {program : Program}
    (h : (ofSource registry environment source).1 = .ok program) :
    program.WellFormed registry := by
  have hsaid := (ofSource_eq_ok_iff source program).1 h
  generalize source.lines = lines at hsaid
  cases hsaid with
  | plain _ _ hsets => exact ⟨rfl, hsets.allowed⟩
  | clearing _ _ hsets => exact ⟨rfl, hsets.allowed⟩

/-- A well-formed program has bytes, which are its records. -/
theorem WellFormed.encode_eq {program : Program} (h : program.WellFormed registry) :
    program.encode = .ok program.records.flatten := by
  rw [encode_eq_ok_iff, overlong?_eq_none_iff]
  refine ⟨fun setting hmem => ?_, rfl⟩
  have hallowed := h.allowed setting hmem
  cases setting with
  | integer slot value => rfl
  | text slot payload => exact (Setting.overlong?_text_eq_none_iff slot payload).2 hallowed.2

end Program

/-- A program that was read compiles, to its bytes, and the source stands where
    reading it left it. -/
theorem compile_of_ofSource_ok {source after : Source} {program : Program}
    (h : Program.ofSource registry environment source = (.ok program, after)) :
    compile registry environment source = (.ok (program, program.records.flatten), after) := by
  have hbytes := (Program.wellFormed_of_ofSource (congrArg Prod.fst h)).encode_eq
  rw [compile, h]
  simp only [hbytes]

/-- A fault of a source is the fault of compiling it. -/
theorem compile_of_ofSource_error {source after : Source} {fault : Fault}
    (h : Program.ofSource registry environment source = (.error fault, after)) :
    compile registry environment source = (.error fault, after) := by
  rw [compile, h]

/-- Compiling gives the program that a source says, with its records, or the
    fault that reading it gives. -/
theorem compile_fst (registry : Registry) (environment : Environment) (source : Source) :
    (compile registry environment source).1 =
      (Program.ofSource registry environment source).1.map
        fun program => (program, program.records.flatten) := by
  rcases hsource : Program.ofSource registry environment source with ⟨fault | program, after⟩
  · rw [compile_of_ofSource_error hsource]
    rfl
  · rw [compile_of_ofSource_ok hsource]
    rfl

theorem compile_fst_of_ofSource {source : Source} {program : Program}
    (h : (Program.ofSource registry environment source).1 = .ok program) :
    (compile registry environment source).1 = .ok (program, program.records.flatten) := by
  rw [compile_fst, h]
  rfl

theorem compile_eq_ok_iff (source after : Source) (program : Program) (bytes : List UInt8) :
    compile registry environment source = (.ok (program, bytes), after) ↔
      Program.ofSource registry environment source = (.ok program, after) ∧
        program.encode = .ok bytes := by
  constructor
  · intro h
    rcases hsource : Program.ofSource registry environment source with ⟨_ | found, stop⟩
    · rw [compile_of_ofSource_error hsource] at h
      exact absurd h (by simp)
    · rw [compile_of_ofSource_ok hsource, Prod.mk.injEq, Except.ok.injEq, Prod.mk.injEq] at h
      rcases h with ⟨⟨rfl, rfl⟩, rfl⟩
      have hwell := Program.wellFormed_of_ofSource (congrArg Prod.fst hsource)
      exact ⟨rfl, hwell.encode_eq⟩
  · rintro ⟨hsource, hencode⟩
    rw [compile_of_ofSource_ok hsource, ((Program.encode_eq_ok_iff _ _).1 hencode).2]

/-- What compiles to a program and its bytes is a source that says the program. -/
theorem compile_fst_eq_ok_iff (source : Source) (program : Program) (bytes : List UInt8) :
    (compile registry environment source).1 = .ok (program, bytes) ↔
      (Program.ofSource registry environment source).1 = .ok program ∧
        program.encode = .ok bytes := by
  constructor
  · intro h
    exact ((compile_eq_ok_iff source _ program bytes).1 (Prod.ext h rfl)).imp_left
      (congrArg Prod.fst)
  · rintro ⟨hsource, hencode⟩
    exact congrArg Prod.fst
      ((compile_eq_ok_iff source _ program bytes).2 ⟨Prod.ext hsource rfl, hencode⟩)

theorem compile_eq_error_iff (source after : Source) (fault : Fault) :
    compile registry environment source = (.error fault, after) ↔
      Program.ofSource registry environment source = (.error fault, after) := by
  constructor
  · intro h
    rcases hsource : Program.ofSource registry environment source with ⟨found | _, stop⟩
    · rw [compile_of_ofSource_error hsource, Prod.mk.injEq, Except.error.injEq] at h
      rw [h.1, h.2]
    · rw [compile_of_ofSource_ok hsource] at h
      exact absurd h (by simp)
  · exact compile_of_ofSource_error

/-- A fault of compiling has a line, and that of a text which does not fit its
    record has none. -/
theorem compile_ne_overlong (source : Source) (overlong : Overlong) :
    (compile registry environment source).1 ≠ .error (.overlong overlong) := by
  intro h
  rcases hcompile : compile registry environment source with ⟨result, after⟩
  rw [hcompile] at h
  have hresult : result = .error (.overlong overlong) := h
  rw [hresult, compile_eq_error_iff] at hcompile
  have hline := Program.line?_of_ofSource hcompile
  exact absurd hline (by simp only [Fault.line?, reduceCtorEq, not_false_eq_true])

end

/-- Compiling a source gives the program that it says, whenever it says one, and
    that program's bytes. The program is for the supported version; its integers
    are in slots registered for integers and within their limits, its texts are
    in slots registered for texts and fit them. Where compiling fails, reading
    has failed in the same way, and never because a text did not fit. -/
theorem compile_wellFormed (registry : Registry) (environment : Environment) (source : Source) :
    (∀ program, (Program.ofSource registry environment source).1 = .ok program →
      program.version = Version.supported ∧
      (∀ slot value, Setting.integer slot value ∈ program.settings →
        (∃ v ∈ registry.variables, v.kind = .integer ∧ v.slot = slot) ∧
          ∀ limit, registry.limit? slot = some limit → limit.min ≤ value ∧ value ≤ limit.max) ∧
      (∀ slot payload, Setting.text slot payload ∈ program.settings →
        (∃ v ∈ registry.variables, v.kind = .text ∧ v.slot = slot) ∧
          payload.length ≤ maxPayload) ∧
      ∃ bytes, program.encode = .ok bytes) ∧
    (∀ program bytes after, compile registry environment source = (.ok (program, bytes), after) ↔
      Program.ofSource registry environment source = (.ok program, after) ∧
        program.encode = .ok bytes) ∧
    (∀ fault after, compile registry environment source = (.error fault, after) ↔
      Program.ofSource registry environment source = (.error fault, after)) ∧
    ∀ overlong, (compile registry environment source).1 ≠ .error (.overlong overlong) := by
  refine ⟨?_, fun program bytes after => compile_eq_ok_iff source after program bytes,
    fun fault after => compile_eq_error_iff source after fault, compile_ne_overlong source⟩
  intro program h
  have hwell := Program.wellFormed_of_ofSource h
  refine ⟨hwell.version_eq, ?_, ?_, _, hwell.encode_eq⟩
  · intro slot value hmem
    rcases hwell.allowed _ hmem with ⟨hslot, hadmits⟩
    refine ⟨hslot, fun limit hlimit => ?_⟩
    rw [Registry.admits, hlimit] at hadmits
    simpa only [Limit.admits, Bool.and_eq_true, decide_eq_true_eq] using hadmits
  · intro slot payload hmem
    exact hwell.allowed _ hmem

/-- A source that was read up to its second line, and a value from a file. -/
theorem compile_wellFormed_resumed :
    (compile .snappySense ⟨none, fun _ => .ok (.finite [0x0A, 0xFF])⟩
      (Source.ofText ("set enabled 9\nsnappysense-compiled-config 1.0.0\n" ++
        "set ssid1 @f\nset enabled 1\nend\n").toList).next.2).1 =
      .ok (⟨.supported, false, [.text 2 [0x0A, 0xFF], .integer 0 1], false⟩,
        [1, 1, 0, 0, 0, 4, 2, 2, 0, 0x0A, 0xFF, 3, 0, 1, 0, 0, 0, 2, 0]) :=
  congrArg Prod.fst (((compile_wellFormed .snappySense _ _).2.1 _ _ _).2 ⟨rfl, rfl⟩)

end SensorConfig
