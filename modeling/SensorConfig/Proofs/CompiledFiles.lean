import SensorConfig.Proofs.CompiledPrograms
import SensorConfig.Proofs.ReplacedFiles

/-!
# Compiled Files

Compiling one file to another is all or nothing.

Everything that is read is read before anything is written: the input, and the
files that its lines refer to. So it does not matter whether the output is one of
them, or a link to one. What was read is what stood there before, and what is
written replaces one entry.

Two stages can fail, and neither leaves anything behind. Reading and compiling
the input does not touch the tree, and a replacement that fails takes back what
it did.

## Main definitions

* `FileTree.compileInput`: What the text of a file compiles to.

## Theorems

* `FileTree.readText_eq_ok_iff`: A text is a file of well-formed bytes.
* `FileTree.compileInput_eq_ok_iff`: What compiles is a text that says a program.
* `FileTree.writeOutput_eq_ok_iff`: When an output is written, and what that does.
* `FileTree.writeOutput_error`: An output that is not written leaves the tree.
* `compileFile_eq_ok_iff`: When a file is compiled, and what that does.
* `compileFile_error`: A file that is not compiled leaves the tree.
* `compileFile_allOrNothing`: One entry is another, or nothing is.
-/

namespace SensorConfig

namespace FileTree

/-- The text of a file is compiled where it stands. -/
def compileInput (tree : FileTree) (home : Option String) (input : String) :
    Except Fault (Program × List UInt8) :=
  match tree.readText input with
  | .error fault => .error fault
  | .ok text => (compile .snappySense (tree.environment home) (Source.ofText text)).1

/-- The text of a file is that of its bytes, which end and are well formed. -/
theorem readText_eq_ok_iff (tree : FileTree) (path : String) (text : List Char) :
    tree.readText path = .ok text ↔
      ∃ bytes, tree.read path = .ok (.finite bytes) ∧ Utf8.decode? bytes = some text := by
  unfold readText inputText
  cases tree.read path with
  | error cause => simp only [reduceCtorEq, false_and, exists_false]
  | ok content =>
      cases content with
      | endless byteAt =>
          simp only [Content.all?, reduceCtorEq, Except.ok.injEq, false_and, exists_false]
      | finite bytes =>
          simp only [Content.all?, Except.ok.injEq, Content.finite.injEq, exists_eq_left']
          cases Utf8.decode? bytes with
          | none => simp only [reduceCtorEq]
          | some found => simp only [Except.ok.injEq, Option.some.injEq]

/-- What a file compiles to is the program that its text says, and that program's
    bytes. -/
theorem compileInput_eq_ok_iff (tree : FileTree) (home : Option String) (input : String)
    (program : Program) (bytes : List UInt8) :
    tree.compileInput home input = .ok (program, bytes) ↔
      ∃ text, tree.readText input = .ok text ∧
        (Program.ofSource .snappySense (tree.environment home) (Source.ofText text)).1 =
          .ok program ∧
        program.encode = .ok bytes := by
  unfold compileInput
  cases tree.readText input with
  | error fault => simp only [reduceCtorEq, false_and, exists_false]
  | ok text => simp only [compile_fst_eq_ok_iff, Except.ok.injEq, exists_eq_left']

/-- An output is written where the tree accepts it, and sets one entry. -/
theorem writeOutput_eq_ok_iff (tree after : FileTree) (path : String) (bytes : List UInt8)
    (disk : Disk) :
    tree.writeOutput path bytes disk = (.ok (), after) ↔
      ∃ location, tree.Accepts disk path location ∧ after = tree.set location (.file bytes) := by
  rw [← replace_eq_ok_iff]
  unfold writeOutput
  split
  · next hreplace =>
    rw [hreplace]
    simp only [Prod.mk.injEq, reduceCtorEq, false_and]
  · next hreplace =>
    rw [hreplace]
    simp only [Prod.mk.injEq]

/-- An output that is not written leaves the tree as it was, and is the fault of a
    step of the replacement. -/
theorem writeOutput_error {tree after : FileTree} {path : String} {bytes : List UInt8}
    {disk : Disk} {fault : Fault}
    (h : tree.writeOutput path bytes disk = (.error fault, after)) : after = tree := by
  unfold writeOutput at h
  rcases hreplace : tree.replace path bytes disk with ⟨⟨step, cause⟩ | _, found⟩
  · rw [hreplace] at h
    rw [← (Prod.mk.inj h).2]
    exact replace_error hreplace
  · rw [hreplace] at h
    exact absurd (Prod.mk.inj h).1 (by simp only [reduceCtorEq, not_false_eq_true])

end FileTree

/-- Where the text of a file does not compile nothing is written. -/
theorem compileFile_of_compileInput_error {home : Option String} {tree : FileTree}
    {input : String} {fault : Fault} (h : tree.compileInput home input = .error fault)
    (output : String) (disk : Disk) :
    compileFile home tree input output disk = (.error fault, tree) := by
  cases hread : tree.readText input with
  | error found =>
      simp only [FileTree.compileInput, hread, Except.error.injEq] at h
      simp only [compileFile, hread, h]
  | ok text =>
      simp only [FileTree.compileInput, hread] at h
      simp only [compileFile, hread, h]

/-- Where it does the bytes are, and what that gives decides. -/
theorem compileFile_of_compileInput_ok {home : Option String} {tree : FileTree}
    {input : String} {program : Program} {bytes : List UInt8}
    (h : tree.compileInput home input = .ok (program, bytes)) (output : String) (disk : Disk) :
    compileFile home tree input output disk =
      ((tree.writeOutput output bytes disk).1.map fun _ => program,
        (tree.writeOutput output bytes disk).2) := by
  cases hread : tree.readText input with
  | error found =>
      simp only [FileTree.compileInput, hread] at h
      exact absurd h (by simp only [reduceCtorEq, not_false_eq_true])
  | ok text =>
      simp only [FileTree.compileInput, hread] at h
      simp only [compileFile, hread, h]
      rcases tree.writeOutput output bytes disk with ⟨fault | ⟨⟩, after⟩ <;> rfl

/-- A file is compiled where its text says a program and the tree accepts an
    output, and one entry of the tree is then a file of the program's bytes. -/
theorem compileFile_eq_ok_iff (home : Option String) (tree after : FileTree)
    (input output : String) (disk : Disk) (program : Program) :
    compileFile home tree input output disk = (.ok program, after) ↔
      ∃ bytes location, tree.compileInput home input = .ok (program, bytes) ∧
        tree.Accepts disk output location ∧ after = tree.set location (.file bytes) := by
  constructor
  · intro h
    cases hcompiled : tree.compileInput home input with
    | error fault =>
        rw [compileFile_of_compileInput_error hcompiled] at h
        exact absurd (Prod.mk.inj h).1 (by simp only [reduceCtorEq, not_false_eq_true])
    | ok compiled =>
        rcases compiled with ⟨found, bytes⟩
        rw [compileFile_of_compileInput_ok hcompiled] at h
        rcases hwrite : tree.writeOutput output bytes disk with ⟨fault | ⟨⟩, left⟩
        · rw [hwrite] at h
          exact absurd (Prod.mk.inj h).1
            (by simp only [Except.map, reduceCtorEq, not_false_eq_true])
        · rw [hwrite] at h
          -- The bytes are in place, so there is a location that took them.
          rcases (tree.writeOutput_eq_ok_iff left output bytes disk).1 hwrite with
            ⟨location, haccepts, hleft⟩
          cases h
          exact ⟨bytes, location, rfl, haccepts, hleft⟩
  · rintro ⟨bytes, location, hcompiled, haccepted⟩
    rw [compileFile_of_compileInput_ok hcompiled,
      (tree.writeOutput_eq_ok_iff after output bytes disk).2 ⟨location, haccepted⟩]
    rfl

/-- A file that is not compiled leaves the tree as it was. -/
theorem compileFile_error {home : Option String} {tree after : FileTree} {input output : String}
    {disk : Disk} {fault : Fault}
    (h : compileFile home tree input output disk = (.error fault, after)) : after = tree := by
  cases hcompiled : tree.compileInput home input with
  | error found =>
      rw [compileFile_of_compileInput_error hcompiled] at h
      exact (Prod.mk.inj h).2.symm
  | ok compiled =>
      rcases compiled with ⟨program, bytes⟩
      rw [compileFile_of_compileInput_ok hcompiled] at h
      rcases hwrite : tree.writeOutput output bytes disk with ⟨found | ⟨⟩, left⟩
      · rw [hwrite] at h
        rw [← (Prod.mk.inj h).2]
        exact FileTree.writeOutput_error hwrite
      · rw [hwrite] at h
        exact absurd (Prod.mk.inj h).1 (by simp only [Except.map, reduceCtorEq, not_false_eq_true])

/-- Compiling a file is all or nothing, whatever names the disk gives and whatever
    it refuses. If it fails the tree is what it was. If it gives a program, that
    is what the input's text says in the tree as it was, and then one entry is
    another: the one that the output names, which was no directory and is now a
    file of the program's bytes. If that entry was a link, it is the link that is
    replaced. A program is given exactly if the text says one and a file can be
    put in place. -/
theorem compileFile_allOrNothing (disk : Disk) (home : Option String) (tree : FileTree)
    (input output : String) :
    let result := compileFile home tree input output disk
    (∀ fault, result.1 = .error fault → result.2 = tree) ∧
    (∀ program, result.1 = .ok program →
      ∃ content text bytes location,
        tree.read input = .ok (.finite content) ∧ Utf8.decode? content = some text ∧
        (Program.ofSource .snappySense (tree.environment home) (Source.ofText text)).1 =
          .ok program ∧
        program.encode = .ok bytes ∧
        tree.Names output location ∧ tree.isDirectory location = false ∧
        result.2.current = tree.current ∧
        ∀ other, result.2.find? other =
          if other = location then some (.file bytes) else tree.find? other) ∧
    ((∃ program, result.1 = .ok program) ↔
      (∃ content text program,
        tree.read input = .ok (.finite content) ∧ Utf8.decode? content = some text ∧
        (Program.ofSource .snappySense (tree.environment home) (Source.ofText text)).1 =
          .ok program) ∧
      ∃ location, tree.Accepts disk output location) := by
  intro result
  refine ⟨fun fault h => ?_, fun program h => ?_, ?_, ?_⟩
  · exact compileFile_error (Prod.ext h rfl)
  · have hresult : compileFile home tree input output disk = (.ok program, result.2) :=
      Prod.ext h rfl
    rcases (compileFile_eq_ok_iff _ _ _ _ _ _ _).1 hresult with
      ⟨bytes, location, hcompiled, haccepts, hafter⟩
    rcases (tree.compileInput_eq_ok_iff _ _ _ _).1 hcompiled with
      ⟨text, hread, hsource, hencode⟩
    rcases (tree.readText_eq_ok_iff _ _).1 hread with ⟨content, hcontent, htext⟩
    rcases haccepts.find?_set bytes with ⟨hnames, hdirectory, hfind⟩
    rw [hafter]
    exact ⟨content, text, bytes, location, hcontent, htext, hsource, hencode, hnames, hdirectory,
      rfl, hfind⟩
  · rintro ⟨program, h⟩
    have hresult : compileFile home tree input output disk = (.ok program, result.2) :=
      Prod.ext h rfl
    rcases (compileFile_eq_ok_iff _ _ _ _ _ _ _).1 hresult with
      ⟨bytes, location, hcompiled, haccepts, _⟩
    rcases (tree.compileInput_eq_ok_iff _ _ _ _).1 hcompiled with ⟨text, hread, hsource, _⟩
    rcases (tree.readText_eq_ok_iff _ _).1 hread with ⟨content, hcontent, htext⟩
    exact ⟨⟨content, text, program, hcontent, htext, hsource⟩, location, haccepts⟩
  · rintro ⟨⟨content, text, program, hcontent, htext, hsource⟩, location, haccepts⟩
    -- A program that was read has bytes, so nothing but the output could fail.
    have hencode := (Program.wellFormed_of_ofSource hsource).encode_eq
    have hcompiled := (tree.compileInput_eq_ok_iff _ _ _ _).2
      ⟨text, (tree.readText_eq_ok_iff _ _).2 ⟨content, hcontent, htext⟩, hsource, hencode⟩
    exact ⟨program, congrArg Prod.fst
      ((compileFile_eq_ok_iff _ _ _ _ _ _ _).2 ⟨_, location, hcompiled, haccepts, rfl⟩)⟩

/-- The output is a link to the input, and a line reads the input through it. The
    link is replaced, the input is what it was and so is what was read. -/
theorem compileFile_allOrNothing_link :
    let source := Utf8.encode
      "snappysense-compiled-config 1.0.0\nset ssid1 @out\nend\n".toList
    let tree : FileTree :=
      ⟨[(["d"], .directory), (["d", "in"], .file source), (["d", "out"], .link "in")], ["d"]⟩
    let program : Program := ⟨Version.supported, false, [.text 2 source], false⟩
    let result := compileFile none tree "in" "out"
    result.1 = .ok program ∧
    (∃ bytes, program.encode = .ok bytes ∧ result.2.find? ["d", "out"] = some (.file bytes)) ∧
    result.2.find? ["d", "in"] = some (.file source) := by
  intro source tree program result
  have hresult : result.1 = .ok program := by decide +kernel
  rcases (compileFile_allOrNothing .willing none tree "in" "out").2.1 program hresult with
    ⟨_, _, bytes, location, _, _, _, hencode, hnames, _, _, hfind⟩
  have hlocation : location = ["d", "out"] := by
    rcases hnames with ⟨directory, last, rfl, hlast, hwalk, _⟩
    cases (hlast : some "out" = some last)
    cases (hwalk : Except.ok ["d"] = .ok directory)
    rfl
  have hout := hfind ["d", "out"]
  have hin := hfind ["d", "in"]
  rw [hlocation, if_pos rfl] at hout
  rw [hlocation, if_neg (by decide)] at hin
  exact ⟨hresult, ⟨bytes, hencode, hout⟩, hin⟩

end SensorConfig
