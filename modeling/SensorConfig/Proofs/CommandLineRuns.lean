import SensorConfig.CommandLine.Run
import SensorConfig.Proofs.CompiledFiles

/-!
# Command Line Runs

A run of the program does what compiling a file does, and says so.

The program does not call `compileFile`. It reads and compiles its input itself,
because it may be asked to write nothing, and it puts the output in place itself,
because what it says depends on which of the two has failed. There are four ways
a compilation can go: it stops at its input, there is nothing to write, it stops
at its output, or the output is in place. The runs of these are told here one by
one, and each time `compileFile` goes the same way.

What a run says is taken to come out. A run that cannot say what is wrong ends in
another way, and so may one that cannot say what it does, so nothing could be told
of its files. What it prints need not come out. The listing is the last thing a run
does, and everything else is as it would be without it.

How much is logged decides nothing. The log is written to the one stream, and no
part of a run looks at what that has shown.

## Main definitions

* `Libraries.logged`: What is said of events.
* `Invocation.result`: What an invocation asks for.
* `Invocation.logged`: What is logged while an input is compiled.
* `Invocation.blamed`: What is said of a fault.

## Theorems

* `Libraries.log_ofTree`, `Libraries.blame_ofTree`: What is said comes out.
* `Libraries.finish_stderr`: How a run ends does not depend on what has been said.
* `Invocation.run_of_unreadable`, `Invocation.run_of_checked`,
  `Invocation.run_of_unwritten`, `Invocation.run_of_written`: The four runs.
* `Invocation.run_cases`: A run ends as what it was asked for does.
* `Invocation.run_verbosity`: How much is logged changes nothing but the log.
* `CommandLine.run_refines_compileFile`: A run does what compiling a file does.
-/

namespace SensorConfig

/-- No event is shown before it is asked for. -/
theorem Event.asked_zero (events : List Event) : Event.asked 0 events = [] := by
  rw [asked, List.filter_eq_nil_iff]
  intro event _
  cases event <;> simp only [verbosity, Nat.le_zero, Nat.succ_ne_zero, decide_false,
    Bool.false_eq_true, not_false_eq_true]

theorem Compilation.result_ofText (home : Option String) (tree : FileTree) (input : String) :
    (ofText (tree.environment home) (tree.readText input)).result =
      tree.compileInput home input := by
  unfold ofText FileTree.compileInput
  cases tree.readText input <;> rfl

/-- One action after another, on a scene. -/
theorem Scene.bind_apply {α β : Type} (action : StateM Scene α) (next : α → StateM Scene β)
    (scene : Scene) : (action >>= next) scene = next (action scene).1 (action scene).2 := rfl

/-- No action on a scene. -/
theorem Scene.pure_apply {α : Type} (value : α) (scene : Scene) :
    (pure value : StateM Scene α) scene = (value, scene) := rfl

section

variable {libraries : Libraries} {terminal : Terminal} {home : Option String} {disk : Disk}

/-- An input is compiled from the tree of a scene. -/
theorem World.compile_ofTree (input : String) (scene : Scene) :
    (World.ofTree terminal home disk).compile input scene =
      (Compilation.ofText (scene.tree.environment home) (scene.tree.readText input), scene) := rfl

/-- An output is put in place in the tree of a scene. -/
theorem World.put_ofTree (output : String) (bytes : List UInt8) (scene : Scene) :
    (World.ofTree terminal home disk).put output bytes scene =
      ((scene.tree.writeOutput output bytes disk).1,
        { scene with tree := (scene.tree.writeOutput output bytes disk).2 }) := rfl

/-- What is said to an open stream comes out. -/
theorem World.say_ofTree (hstderr : terminal.stderr.Open) (text : String) (scene : Scene) :
    (World.ofTree terminal home disk).say text scene =
      (none, { scene with stderr := scene.stderr ++ text }) := by
  simp only [ofTree, Stream.write_of_open hstderr]

namespace Libraries

/-- What is said of events. -/
def logged (libraries : Libraries) (events : List Event) : String :=
  String.join (events.map libraries.wording)

/-- What is logged to an open stream comes out, and the run goes on. -/
theorem log_ofTree (hstderr : terminal.stderr.Open) (events : List Event) (scene : Scene) :
    libraries.log (World.ofTree terminal home disk) events scene =
      (true, { scene with stderr := scene.stderr ++ libraries.logged events }) := by
  induction events generalizing scene with
  | nil => simp only [log, Scene.pure_apply, logged, List.map_nil, String.join_nil,
      String.append_empty]
  | cons event events ih =>
      simp only [log, Scene.bind_apply, World.say_ofTree hstderr, ih, logged, List.map_cons,
        String.join_cons, String.append_assoc]

/-- What is said of a fault comes out of an open stream. -/
theorem blame_ofTree (hstderr : terminal.stderr.Open) (message : String) (scene : Scene) :
    libraries.blame (World.ofTree terminal home disk) message scene =
      (1, { scene with stderr := scene.stderr ++ (message ++ "\n") }) := by
  simp only [blame, Scene.bind_apply, World.say_ofTree hstderr, Scene.pure_apply]

/-- A listing comes out of an open stream. -/
theorem finish_of_open (hstdout : terminal.stdout.Open) (listing : Option String)
    (scene : Scene) :
    libraries.finish (World.ofTree terminal home disk) listing scene =
      (0, { scene with stdout := scene.stdout ++ listing.getD "" }) := by
  cases listing with
  | none => simp only [finish, Scene.pure_apply, Option.getD_none, String.append_empty]
  | some text =>
      simp only [finish, Scene.bind_apply, World.ofTree, Stream.write_of_open hstdout,
        Scene.pure_apply, Option.getD_some]

/-- A listing that is refused ends the run with a failure, and what came out of it stays. -/
theorem finish_of_refused (hstderr : terminal.stderr.Open) {listing : String} {scene : Scene}
    {count : Nat} {cause : Cause}
    (h : terminal.stdout.refusal? scene.stdout listing = some (count, cause)) :
    libraries.finish (World.ofTree terminal home disk) (some listing) scene =
      (1, { scene with
        stdout := scene.stdout ++ String.ofList (listing.toList.take count)
        stderr := scene.stderr ++ libraries.failure cause }) := by
  have hprint : (World.ofTree terminal home disk).print listing scene =
      (some cause, { scene with
        stdout := scene.stdout ++ String.ofList (listing.toList.take count) }) := by
    simp only [World.ofTree, Stream.write, h]
  simp only [finish, Scene.bind_apply, hprint, World.say_ofTree hstderr, Scene.pure_apply]

/-- A listing is no file. -/
theorem finish_tree (listing : Option String) (scene : Scene) :
    (libraries.finish (World.ofTree terminal home disk) listing scene).2.tree = scene.tree := by
  cases listing with
  | none => rfl
  | some text =>
      simp only [finish, Scene.bind_apply, World.ofTree]
      cases (terminal.stdout.write scene.stdout text).2 with
      | none => rfl
      | some cause => rfl

/-- How a run ends does not depend on what has been said. -/
theorem finish_stderr (listing : Option String) (tree : FileTree) (stdout one two : String) :
    let world := World.ofTree terminal home disk
    let first := libraries.finish world listing ⟨tree, stdout, one⟩
    let second := libraries.finish world listing ⟨tree, stdout, two⟩
    second.1 = first.1 ∧ second.2.stdout = first.2.stdout ∧ second.2.tree = first.2.tree := by
  cases listing with
  | none => exact ⟨rfl, rfl, rfl⟩
  | some text =>
      simp only [finish, Scene.bind_apply, World.ofTree]
      cases (terminal.stdout.write stdout text).2 with
      | none => exact ⟨rfl, rfl, rfl⟩
      | some cause => exact ⟨rfl, rfl, rfl⟩

end Libraries

end

namespace Invocation

/-- What an invocation asks for: to compile a file to another, or only to see what
    it compiles to. -/
def result (invocation : Invocation) (home : Option String) (tree : FileTree) (disk : Disk) :
    Except Fault Program × FileTree :=
  if invocation.check then ((tree.compileInput home invocation.input).map Prod.fst, tree)
  else compileFile home tree invocation.input invocation.output disk

/-- What is logged while the input of an invocation is compiled. -/
def logged (invocation : Invocation) (libraries : Libraries) (home : Option String)
    (tree : FileTree) : String :=
  libraries.logged (invocation.asked
    (Compilation.ofText (tree.environment home) (tree.readText invocation.input)).events)

/-- What is said of a fault: whose it is, with a fault of the input where it was found,
    and what it is. -/
def blamed (invocation : Invocation) (home : Option String) (tree : FileTree) (fault : Fault) :
    String :=
  (if (tree.compileInput home invocation.input).isOk then "confcomp: "
    else "confcomp: " ++ invocation.input ++ ": ") ++ fault.message ++ "\n"

section

variable (invocation : Invocation) (libraries : Libraries) {terminal : Terminal}
  {home : Option String} {tree : FileTree} {disk : Disk}

/-- A run compiles its input, logs that and concludes. -/
theorem run_of_open (hstderr : terminal.stderr.Open) :
    invocation.run libraries (World.ofTree terminal home disk) tree.scene =
      invocation.conclude libraries (World.ofTree terminal home disk)
        (tree.compileInput home invocation.input)
        ⟨tree, "", invocation.logged libraries home tree⟩ := by
  rw [← Compilation.result_ofText, run, Scene.bind_apply, World.compile_ofTree,
    Scene.bind_apply, Libraries.log_ofTree hstderr]
  simp only [FileTree.scene, String.empty_append, ↓reduceIte, logged]

/-- A run whose input does not compile. -/
theorem run_of_unreadable (hstderr : terminal.stderr.Open) {fault : Fault}
    (h : tree.compileInput home invocation.input = .error fault) :
    invocation.run libraries (World.ofTree terminal home disk) tree.scene =
      (1, ⟨tree, "", invocation.logged libraries home tree ++
        (invocation.inputMessage fault ++ "\n")⟩) := by
  simp only [run_of_open invocation libraries hstderr, h, conclude,
    Libraries.blame_ofTree hstderr]

/-- A run that was to write nothing. -/
theorem run_of_checked (hstderr : terminal.stderr.Open) {program : Program} {bytes : List UInt8}
    (h : tree.compileInput home invocation.input = .ok (program, bytes))
    (hcheck : invocation.check = true) :
    invocation.run libraries (World.ofTree terminal home disk) tree.scene =
      libraries.finish (World.ofTree terminal home disk) (invocation.listing? program)
        ⟨tree, "", invocation.logged libraries home tree⟩ := by
  simp only [run_of_open invocation libraries hstderr, h, conclude, hcheck, ↓reduceIte]

/-- A run whose output could not be put in place. -/
theorem run_of_unwritten (hstderr : terminal.stderr.Open) {program : Program}
    {bytes : List UInt8} {fault : Fault} {after : FileTree}
    (h : tree.compileInput home invocation.input = .ok (program, bytes))
    (hcheck : invocation.check = false)
    (hwrite : tree.writeOutput invocation.output bytes disk = (.error fault, after)) :
    invocation.run libraries (World.ofTree terminal home disk) tree.scene =
      (1, ⟨after, "", invocation.logged libraries home tree ++
        (outputMessage fault ++ "\n")⟩) := by
  simp only [run_of_open invocation libraries hstderr, h, conclude, hcheck, Bool.false_eq_true,
    ↓reduceIte, Scene.bind_apply, World.put_ofTree, hwrite, Libraries.blame_ofTree hstderr]

/-- A run whose output is in place. -/
theorem run_of_written (hstderr : terminal.stderr.Open) {program : Program}
    {bytes : List UInt8} {after : FileTree}
    (h : tree.compileInput home invocation.input = .ok (program, bytes))
    (hcheck : invocation.check = false)
    (hwrite : tree.writeOutput invocation.output bytes disk = (.ok (), after)) :
    invocation.run libraries (World.ofTree terminal home disk) tree.scene =
      libraries.finish (World.ofTree terminal home disk) (invocation.listing? program)
        ⟨after, "", invocation.logged libraries home tree ++
          libraries.logged (invocation.asked
            [.outputWritten invocation.output bytes.length])⟩ := by
  simp only [run_of_open invocation libraries hstderr, h, conclude, hcheck, Bool.false_eq_true,
    ↓reduceIte, Scene.bind_apply, World.put_ofTree, hwrite, Libraries.log_ofTree hstderr]

end

/-- A run ends as what it was asked for does. Where that gives a program there is only
    the listing left, and where it has a fault the fault has been told. -/
theorem run_cases (invocation : Invocation) (libraries : Libraries) {terminal : Terminal}
    (hstderr : terminal.stderr.Open) (home : Option String) (tree : FileTree) (disk : Disk) :
    let world := World.ofTree terminal home disk
    ∃ after,
      (∃ program said, invocation.result home tree disk = (.ok program, after) ∧
        invocation.run libraries world tree.scene =
          libraries.finish world (invocation.listing? program) ⟨after, "", said⟩) ∨
      ∃ fault, invocation.result home tree disk = (.error fault, after) ∧
        invocation.run libraries world tree.scene =
          (1, ⟨after, "", invocation.logged libraries home tree ++
            invocation.blamed home tree fault⟩) := by
  intro world
  cases hcompiled : tree.compileInput home invocation.input with
  | error fault =>
      refine ⟨tree, Or.inr ⟨fault, ?_, ?_⟩⟩
      · simp only [result, hcompiled, compileFile_of_compileInput_error hcompiled, Except.map,
          ite_self]
      · rw [run_of_unreadable invocation libraries hstderr hcompiled]
        simp only [blamed, hcompiled, Except.isOk, Except.toBool, Bool.false_eq_true, ↓reduceIte,
          inputMessage]
  | ok compiled =>
      rcases compiled with ⟨program, bytes⟩
      -- Only from here on does it matter whether something is to be written.
      cases hcheck : invocation.check with
      | true =>
          refine ⟨tree, Or.inl ⟨program, _, ?_,
            run_of_checked invocation libraries hstderr hcompiled hcheck⟩⟩
          simp only [result, hcheck, hcompiled, Except.map, ↓reduceIte]
      | false =>
          rcases hwrite : tree.writeOutput invocation.output bytes disk with ⟨fault | ⟨⟩, after⟩
          · refine ⟨after, Or.inr ⟨fault, ?_, ?_⟩⟩
            · simp only [result, hcheck, compileFile_of_compileInput_ok hcompiled, hwrite,
                Except.map, Bool.false_eq_true, ↓reduceIte]
            · rw [run_of_unwritten invocation libraries hstderr hcompiled hcheck hwrite]
              simp only [blamed, hcompiled, Except.isOk, Except.toBool, ↓reduceIte, outputMessage]
          · refine ⟨after, Or.inl ⟨program, _, ?_,
              run_of_written invocation libraries hstderr hcompiled hcheck hwrite⟩⟩
            simp only [result, hcheck, compileFile_of_compileInput_ok hcompiled, hwrite,
              Except.map, Bool.false_eq_true, ↓reduceIte]

section

variable {invocation : Invocation} {terminal : Terminal} {home : Option String}
  {tree after : FileTree} {disk : Disk}

/-- Where there is a program, a run has only its listing left. -/
theorem run_of_result_ok (libraries : Libraries) (hstderr : terminal.stderr.Open)
    {program : Program} (h : invocation.result home tree disk = (.ok program, after)) :
    ∃ said, invocation.run libraries (World.ofTree terminal home disk) tree.scene =
      libraries.finish (World.ofTree terminal home disk) (invocation.listing? program)
        ⟨after, "", said⟩ := by
  rcases invocation.run_cases libraries hstderr home tree disk with
    ⟨_, ⟨_, said, hresult, hrun⟩ | ⟨_, hresult, _⟩⟩
  · cases h.symm.trans hresult
    exact ⟨said, hrun⟩
  · cases h.symm.trans hresult

/-- Where there is a fault, a run has told it. -/
theorem run_of_result_error (libraries : Libraries) (hstderr : terminal.stderr.Open)
    {fault : Fault} (h : invocation.result home tree disk = (.error fault, after)) :
    invocation.run libraries (World.ofTree terminal home disk) tree.scene =
      (1, ⟨after, "", invocation.logged libraries home tree ++
        invocation.blamed home tree fault⟩) := by
  rcases invocation.run_cases libraries hstderr home tree disk with
    ⟨_, ⟨_, _, hresult, _⟩ | ⟨_, hresult, hrun⟩⟩
  · cases h.symm.trans hresult
  · cases h.symm.trans hresult
    exact hrun

end

/-- A run does what it was asked for and tells how that ended. -/
theorem run_refines_result (invocation : Invocation) (libraries : Libraries)
    {terminal : Terminal} (hstderr : terminal.stderr.Open) (home : Option String)
    (tree : FileTree) (disk : Disk) :
    let ran := invocation.run libraries (World.ofTree terminal home disk) tree.scene
    let result := invocation.result home tree disk
    ran.2.tree = result.2 ∧
    (terminal.stdout.Open →
      ran.1 = (if result.1.isOk then 0 else 1) ∧
      ∀ program, result.1 = .ok program → ran.2.stdout =
        if invocation.listing then Listing.render .snappySense program else "") ∧
    (∀ fault, result.1 = .error fault → ran.1 = 1 ∧ ran.2.stdout = "" ∧ ran.2.stderr =
      invocation.logged libraries home tree ++ invocation.blamed home tree fault) ∧
    ∀ program, result.1 = .ok program →
      (invocation.listing = false → ran.1 = 0 ∧ ran.2.stdout = "") ∧
      ∀ count cause, invocation.listing = true →
        terminal.stdout.refusal? "" (Listing.render .snappySense program) = some (count, cause) →
        ran.1 = 1 ∧
        ran.2.stdout =
          String.ofList ((Listing.render .snappySense program).toList.take count) ∧
        ∃ said, ran.2.stderr = said ++ libraries.failure cause := by
  intro ran result
  rcases hresult : result with ⟨fault | program, after⟩
  · have hran : ran = _ := run_of_result_error libraries hstderr hresult
    rw [hran]
    refine ⟨rfl, fun _ => ⟨rfl, fun program h => ?_⟩, fun found h => ?_, fun program h => ?_⟩
    · cases h
    · rw [Except.error.inj h]
      exact ⟨rfl, rfl, rfl⟩
    · cases h
  · rcases run_of_result_ok libraries hstderr hresult with ⟨said, hfinish⟩
    have hran : ran = _ := hfinish
    rw [hran]
    refine ⟨Libraries.finish_tree _ _, fun hstdout => ?_, fun fault h => ?_, fun found h => ?_⟩
    · rw [Libraries.finish_of_open hstdout]
      refine ⟨rfl, fun found h => ?_⟩
      rw [← Except.ok.inj h, String.empty_append, listing?]
      split <;> rfl
    · cases h
    · cases h
      refine ⟨fun hlisting => ?_, fun count cause hlisting hrefused => ?_⟩
      · rw [listing?, hlisting]
        exact ⟨rfl, rfl⟩
      · rw [listing?, if_pos hlisting, Libraries.finish_of_refused hstderr hrefused]
        exact ⟨rfl, String.empty_append, said, rfl⟩

/-- How much is logged changes nothing but the log. -/
theorem run_verbosity (invocation : Invocation) (libraries : Libraries) {terminal : Terminal}
    (hstderr : terminal.stderr.Open) (home : Option String) (tree : FileTree) (disk : Disk)
    (verbosity : Nat) :
    let world := World.ofTree terminal home disk
    let one := invocation.run libraries world tree.scene
    let other := { invocation with verbosity := verbosity }.run libraries world tree.scene
    other.1 = one.1 ∧ other.2.stdout = one.2.stdout ∧ other.2.tree = one.2.tree := by
  intro world one other
  -- What is asked for is the same, so both runs end in the same way.
  have hsame : { invocation with verbosity := verbosity }.result home tree disk =
      invocation.result home tree disk := rfl
  rcases hresult : invocation.result home tree disk with ⟨fault | program, after⟩
  · have hone : one = _ := run_of_result_error libraries hstderr hresult
    have hother : other = _ := run_of_result_error libraries hstderr (hsame.trans hresult)
    rw [hone, hother]
    exact ⟨rfl, rfl, rfl⟩
  · rcases run_of_result_ok libraries hstderr hresult with ⟨said, hone⟩
    rcases run_of_result_ok libraries hstderr (hsame.trans hresult) with ⟨said', hother⟩
    simp only [one, other, world, hone, hother]
    exact Libraries.finish_stderr _ after "" said said'

end Invocation

namespace CommandLine

/-- A run and `compileFile` do the same, however arguments are accepted and whatever the
    log looks like, as long as what the run says comes out. Unless it was to write
    nothing, a run leaves the files that `compileFile` leaves; otherwise it leaves them
    alone. If what it prints comes out too, it ends with 0 exactly if `compileFile` gives
    a program, or if the text of the input compiles and nothing was to be written, and
    what it prints is the listing of that program if it was asked for one. A run with a
    fault prints nothing. What it says about the fault begins with the input if the input
    did not compile, and does not if the output could not be put in place; in front of it
    stands the log, which is empty unless it was asked for. A listing that does not come
    out is the only other way for a run to fail, and the files are then what they are
    with a listing that does. A run with other arguments that are accepted as the same
    but for how much is logged ends in the same way, prints the same and leaves the same
    files. -/
theorem run_refines_compileFile (libraries : Libraries) {arguments : List String}
    {invocation : Invocation} (h : libraries.accept arguments = .ok invocation)
    (terminal : Terminal) (hstderr : terminal.stderr.Open) (home : Option String)
    (tree : FileTree) (disk : Disk) :
    let world := World.ofTree terminal home disk
    let exitCode := ((run libraries world arguments).run tree.scene).1
    let after := ((run libraries world arguments).run tree.scene).2
    let file := compileFile home tree invocation.input invocation.output disk
    let compiled := tree.compileInput home invocation.input
    let result := if invocation.check then compiled.map Prod.fst else file.1
    let log := libraries.logged (invocation.asked
      (Compilation.ofText (tree.environment home) (tree.readText invocation.input)).events)
    after.tree = (if invocation.check then tree else file.2) ∧
    (terminal.stdout.Open →
      exitCode = (if result.isOk then 0 else 1) ∧
      ∀ program, result = .ok program → after.stdout =
        if invocation.listing then Listing.render .snappySense program else "") ∧
    (∀ fault, result = .error fault → exitCode = 1 ∧ after.stdout = "" ∧ after.stderr =
      log ++ ((if compiled.isOk then "confcomp: " else "confcomp: " ++ invocation.input ++ ": ") ++
        fault.message ++ "\n")) ∧
    (∀ program, result = .ok program →
      (invocation.listing = false → exitCode = 0 ∧ after.stdout = "") ∧
      ∀ count cause, invocation.listing = true →
        terminal.stdout.refusal? "" (Listing.render .snappySense program) = some (count, cause) →
        exitCode = 1 ∧
        after.stdout =
          String.ofList ((Listing.render .snappySense program).toList.take count) ∧
        ∃ said, after.stderr = said ++ libraries.failure cause) ∧
    (invocation.verbosity = 0 → log = "") ∧
    ∀ others verbosity,
      libraries.accept others = .ok { invocation with verbosity := verbosity } →
      let other := (run libraries world others).run tree.scene
      other.1 = exitCode ∧ other.2.stdout = after.stdout ∧ other.2.tree = after.tree := by
  intro world exitCode after file compiled result log
  have hrun : (run libraries world arguments).run tree.scene =
      invocation.run libraries world tree.scene := by
    simp only [run, h, StateT.run]
  have hresult : invocation.result home tree disk =
      (result, if invocation.check then tree else file.2) := by
    simp only [Invocation.result, result, compiled, file]
    split <;> rfl
  rcases invocation.run_refines_result libraries hstderr home tree disk with
    ⟨htree, hopen, hfault, hprogram⟩
  rw [← hrun, hresult] at htree hopen hfault hprogram
  refine ⟨htree, hopen, hfault, hprogram, fun hzero => ?_, fun others verbosity hothers => ?_⟩
  · simp only [log, Invocation.asked, hzero, Event.asked_zero]
    rfl
  · have hother : (run libraries world others).run tree.scene =
        { invocation with verbosity := verbosity }.run libraries world tree.scene := by
      simp only [run, hothers, StateT.run]
    simp only [exitCode, after, hother, hrun]
    exact invocation.run_verbosity libraries hstderr home tree disk verbosity

/-- A listing of an output that cannot be put in place, quietly and with a log, and one
    that cannot be printed since there is no room for it. -/
theorem run_refines_compileFile_unwritten :
    let tree : FileTree := ⟨[(["d"], .directory), (["d", "in"], .file (Utf8.encode
      "snappysense-compiled-config 1.0.0\nset enabled 1\nend\n".toList))], ["d"]⟩
    let libraries : Libraries :=
      { accept := fun arguments =>
          if arguments = ["--listing", "in", "out/"] then .ok ⟨"in", "out/", true, false, 0⟩
          else if arguments = ["--listing", "in", "-v", "out/"] then
            .ok ⟨"in", "out/", true, false, 1⟩
          else if arguments = ["in", "out", "--listing"] then .ok ⟨"in", "out", true, false, 0⟩
          else .error ⟨2, "", "error: unexpected arguments\n"⟩
        wording := fun event =>
          match event with
          | .compiled settings length =>
              " INFO compiled statements=" ++ toString settings ++ " len=" ++ toString length ++
                "\n"
          | _ => ""
        goesOn := fun _ => false
        failure := fun cause => "Error: " ++ cause.message ++ "\n"
        panic := fun cause => "failed printing to stderr: " ++ cause.message ++ "\n" }
    let world := World.ofTree .willing none .willing
    let full : Terminal :=
      ⟨⟨fun _ _ => some (0, .described "No space left on device (os error 28)")⟩,
        ⟨fun _ _ => none⟩⟩
    let quiet := (run libraries world ["--listing", "in", "out/"]).run tree.scene
    let logged := (run libraries world ["--listing", "in", "-v", "out/"]).run tree.scene
    let unprinted := (run libraries (World.ofTree full none .willing)
      ["in", "out", "--listing"]).run tree.scene
    quiet.1 = 1 ∧ quiet.2.stdout = "" ∧
    quiet.2.stderr = "confcomp: Could not create out/: Not a directory (os error 20)\n" ∧
    logged.1 = 1 ∧ logged.2.stdout = "" ∧
    unprinted.1 = 1 ∧ unprinted.2.stdout = "" ∧
    unprinted.2.tree = (compileFile none tree "in" "out").2 := by
  intro tree libraries world full quiet logged unprinted
  have hfault : (compileFile none tree "in" "out/").1 =
      .error (.file .create "out/" .notDirectory) := by decide +kernel
  have hprogram : (compileFile none tree "in" "out").1 =
      .ok ⟨Version.supported, false, [.integer 0 1], false⟩ := by decide +kernel
  have hcompiled : (tree.compileInput none "in").isOk = true := by decide +kernel
  have hquiet : libraries.accept ["--listing", "in", "out/"] =
      .ok ⟨"in", "out/", true, false, 0⟩ := by decide
  have hlogged : libraries.accept ["--listing", "in", "-v", "out/"] =
      .ok ⟨"in", "out/", true, false, 1⟩ := by decide
  have hunprinted : libraries.accept ["in", "out", "--listing"] =
      .ok ⟨"in", "out", true, false, 0⟩ := by decide
  rcases run_refines_compileFile libraries hquiet .willing (fun _ _ => rfl) none tree .willing
    with ⟨_, _, hsaid, _, hlog, hverbosity⟩
  rcases hsaid _ hfault with ⟨hcode, hstdout, hstderr⟩
  rcases hverbosity _ 1 hlogged with ⟨hcodes, hstdouts, _⟩
  rcases run_refines_compileFile libraries hunprinted full (fun _ _ => rfl) none tree .willing
    with ⟨htree, _, _, hlisted, _, _⟩
  rcases (hlisted _ hprogram).2 0 _ rfl rfl with ⟨hfailed, hprinted, _⟩
  rw [hlog rfl, if_pos hcompiled] at hstderr
  rw [List.take_zero, String.ofList_nil] at hprinted
  simp only [quiet, logged, unprinted, world]
  exact ⟨hcode, hstdout, hstderr.trans (by decide), hcodes.trans hcode, hstdouts.trans hstdout,
    hfailed, hprinted, htree.trans (if_neg (by decide))⟩

end CommandLine

end SensorConfig
