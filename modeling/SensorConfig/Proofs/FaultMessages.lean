import SensorConfig.Proofs.ConsultedFiles
import SensorConfig.Proofs.PrintedPrograms

/-!
# Messages of Faults

When the message of a fault is one line.

A message is fixed words and numbers around texts that come from elsewhere. Only
these can hold a line feed, so the question is where each of them comes from.
Most are cut out of the line at fault: the line itself, the name of a variable, a
value without its quotes. A line has no line feed, and what is cut out of it has
none either. A path is such a text as well, with the home directory in place of
the tilde, and what the system says of a file comes with the environment.

What is left is the contents of a file. An integer may stand in a file, and where
the file denotes none its text is shown as it is, without the blanks around it
but with what stands between them. A line feed there makes the message more than
one line, and there is no other way to such a message.

## Main definitions

* `FormFault.quoted`, `VersionFault.quoted`, `Fault.quoted`: The texts from
  elsewhere in a message.
* `Environment.OneLine`: An environment that adds no line feed but by its files.
* `ShowsFile`: A fault that shows the contents of a line's file.

## Theorems

* `Fault.lineFeed_not_mem_message`: A message is one line if what it quotes is.
* `SetLine.subset_of_read?`, `WrittenValue.subset_of_read?`: What is read from a
  line is cut out of it.
* `Setting.quoted_of_ofLine`: What the fault of a set line quotes.
* `Program.FaultOf.quoted`: What the fault of lines quotes.
* `compile_message_lineFeed`: A message that is more than one line shows a file.
* `not_forall_message_oneLine`: There is such a message.
-/

namespace SensorConfig

theorem lineFeed_not_mem_toDigits (n : Nat) : '\n' ∉ Nat.toDigits 10 n := by
  intro h
  have hdigit : '\n'.isDigit = true := Nat.isDigit_of_mem_toDigits (by decide) (by decide) h
  exact absurd hdigit (by decide)

theorem lineFeed_not_mem_repr (n : Int) : '\n' ∉ n.repr.toList := by
  intro h
  rcases Numeral.chars_of_mem_repr h with hsign | hdigit
  · exact absurd hsign (by decide)
  · exact absurd hdigit (by decide)

/-- The texts from elsewhere in the message of a fault of form. -/
def FormFault.quoted : FormFault → List String
  | emptyProgram | unterminated | noPreamble | emptyFileName => []
  | preamble text | setting text | unexpected text | trailing text | value text => [text]

/-- The texts from elsewhere in the message of a fault of the version. -/
def VersionFault.quoted : VersionFault → List String
  | unknown _ => []
  | component text => [text]

/-- The texts from elsewhere in the message of a fault. -/
def Fault.quoted : Fault → List String
  | form _ fault => fault.quoted
  | version _ fault => fault.quoted
  | unknownVariable _ name | outOfRange _ name .. | tooLong _ name .. => [name]
  | notInteger _ value => [value]
  | homeUnset _ | overlong _ => []
  | unreadable _ path cause | file _ path cause => [path, cause.message]

theorem FormFault.lineFeed_not_mem_message (fault : FormFault) :
    '\n' ∉ fault.message.toList ↔ ∀ text ∈ fault.quoted, '\n' ∉ text.toList := by
  unfold message quoted
  cases fault <;> simp [Preamble.keyword]

theorem VersionFault.lineFeed_not_mem_message (fault : VersionFault) :
    '\n' ∉ fault.message.toList ↔ ∀ text ∈ fault.quoted, '\n' ∉ text.toList := by
  unfold message quoted
  cases fault <;> simp [Version.text, lineFeed_not_mem_toDigits]

theorem lineFeed_not_mem_located (line : Nat) (message : String) :
    '\n' ∉ (Fault.located line message).toList ↔ '\n' ∉ message.toList := by
  simp [Fault.located, lineFeed_not_mem_toDigits]

/-- A message is one line exactly if the texts in it are that come from
    elsewhere. -/
theorem Fault.lineFeed_not_mem_message (fault : Fault) :
    '\n' ∉ fault.message.toList ↔ ∀ text ∈ fault.quoted, '\n' ∉ text.toList := by
  have hoperation : ∀ operation : FileOperation, '\n' ∉ operation.name.toList := by
    intro operation
    cases operation <;> decide
  cases fault with
  | form line fault =>
      exact (lineFeed_not_mem_located line _).trans fault.lineFeed_not_mem_message
  | version line fault =>
      exact (lineFeed_not_mem_located line _).trans fault.lineFeed_not_mem_message
  | _ =>
      unfold message quoted
      simp [lineFeed_not_mem_located, lineFeed_not_mem_toDigits, lineFeed_not_mem_repr,
        hoperation]

theorem Fault.lineFeed_mem_message_notInteger (line : Nat) (value : List Char) :
    '\n' ∈ (notInteger line (String.ofList value)).message.toList ↔ '\n' ∈ value := by
  have h := (notInteger line (String.ofList value)).lineFeed_not_mem_message
  rw [quoted, List.forall_mem_singleton, String.toList_ofList] at h
  exact not_iff_not.1 h

/-- The name and the value of a set line are cut out of the line. -/
theorem SetLine.subset_of_read? {text : List Char} {set : SetLine} (h : read? text = some set) :
    set.name ⊆ text ∧ set.value ⊆ text := by
  rcases (read?_eq_some_iff text set.name set.value).1 h with ⟨gap, space, hsplit, _⟩
  rw [hsplit.text_eq]
  constructor
  · intro c hc
    simp [hc]
  · intro c hc
    simp [hc]

/-- A value without its quotes is cut out of the value. -/
theorem WrittenValue.subset_of_unquote? {text inner : List Char} (h : unquote? text = some inner) :
    inner ⊆ text := by
  unfold unquote? at h
  split at h
  · next rest =>
    split at h
    · cases h
      exact fun c hc => List.mem_cons_of_mem _ (List.dropLast_subset rest hc)
    · cases h
  · cases h
    exact List.Subset.refl _

theorem WrittenValue.subset_of_read? {text : List Char} {value : WrittenValue}
    (h : read? text = some value) : value.text ⊆ text := by
  unfold read? at h
  split at h
  · rcases Option.map_eq_some_iff.1 h with ⟨inner, hinner, rfl⟩
    exact fun c hc => List.mem_cons_of_mem _ (subset_of_unquote? hinner hc)
  · rcases Option.map_eq_some_iff.1 h with ⟨inner, hinner, rfl⟩
    exact subset_of_unquote? hinner

/-- What an environment adds to messages besides the contents of files is one
    line: the home directory, and what the system says of a file. -/
structure Environment.OneLine (environment : Environment) : Prop where
  home : ∀ directory ∈ environment.home, '\n' ∉ directory.toList
  cause : ∀ path cause, environment.files path = .error cause → '\n' ∉ cause.message.toList

/-- A name that was found has no line feed if what was looked up has none. -/
theorem Registry.lineFeed_not_mem_name {registry : Registry} {name : List Char} {v : Variable}
    (h : registry.lookup? (String.ofList name) = some v) (hname : '\n' ∉ name) :
    '\n' ∉ v.name.toList := by
  rwa [name_of_lookup? h, String.toList_ofList]

section

variable {registry : Registry} {environment : Environment}

/-- A path has no line feed where the name and the home directory have none. -/
theorem Path.lineFeed_not_mem_expandTilde (henvironment : environment.OneLine)
    {name : List Char} {path : String} (h : expandTilde environment.home name = some path)
    (hname : '\n' ∉ name) : '\n' ∉ path.toList := by
  unfold expandTilde at h
  split at h
  · next rest =>
    rcases Option.map_eq_some_iff.1 h with ⟨directory, hdirectory, rfl⟩
    have hrest : '\n' ∉ rest :=
      fun hc => hname (List.mem_cons_of_mem _ (List.mem_cons_of_mem _ hc))
    simp [henvironment.home directory hdirectory, hrest]
  · cases h
    rwa [String.toList_ofList]

theorem Environment.OneLine.of_read (henvironment : environment.OneLine) {path : String}
    {count : Nat} {cause : Cause} (h : environment.read path count = .error cause) :
    '\n' ∉ cause.message.toList :=
  henvironment.cause path cause (read_eq_error_iff.1 h)

namespace Operand

/-- A file that is not accepted is quoted by its path and what the system says, or
    by the name of the variable. -/
theorem lineFeed_not_mem_readFile (henvironment : environment.OneLine) {v : Variable}
    {line : Nat} {name : List Char} {fault : Fault} (hv : '\n' ∉ v.name.toList)
    (hname : '\n' ∉ name) (h : readFile environment v line name = .error fault) :
    ∀ text ∈ fault.quoted, '\n' ∉ text.toList := by
  rcases cases_of_readFile h with rfl | rfl | ⟨path, cause, _, hpath, hcause, rfl⟩ | ⟨_, rfl⟩
  · exact List.forall_mem_nil _
  · exact List.forall_mem_nil _
  · exact List.forall_mem_cons.2 ⟨Path.lineFeed_not_mem_expandTilde henvironment hpath hname,
      List.forall_mem_singleton.2 (henvironment.of_read hcause)⟩
  · exact List.forall_mem_singleton.2 hv

theorem lineFeed_not_mem_resolve (henvironment : environment.OneLine) {v : Variable}
    {line : Nat} {value : List Char} {fault : Fault} (hv : '\n' ∉ v.name.toList)
    (hvalue : '\n' ∉ value) (h : resolve environment v line value = .error fault) :
    ∀ text ∈ fault.quoted, '\n' ∉ text.toList := by
  unfold resolve at h
  split at h
  · cases h
    refine List.forall_mem_singleton.2 ?_
    rwa [String.toList_ofList]
  · cases h
  · next name hread =>
    exact lineFeed_not_mem_readFile henvironment hv
      (fun hc => hvalue (WrittenValue.subset_of_read? hread hc)) h

end Operand

/-- A fault of an operand quotes the variable, or shows the operand. -/
theorem Setting.quoted_of_ofOperand {v : Variable} {line : Nat} {operand : Operand}
    {fault : Fault} (h : ofOperand registry v line operand = .error fault) :
    fault.quoted = [v.name] ∨ fault = .notInteger line operand.shown := by
  rcases cases_of_ofOperand h with rfl | ⟨value, min, max, rfl⟩ | ⟨length, rfl⟩
  · exact Or.inr rfl
  · exact Or.inl rfl
  · exact Or.inl rfl

/-- A fault of a preamble quotes the line or nothing. -/
theorem Version.quoted_of_ofLine {line : Line} {fault : Fault} (h : ofLine line = .error fault) :
    ∀ text ∈ fault.quoted, text = String.ofList line.text := by
  rcases cases_of_ofLine h with rfl | rfl | rfl | ⟨version, rfl⟩
  · exact List.forall_mem_nil _
  · exact List.forall_mem_singleton.2 rfl
  · exact List.forall_mem_singleton.2 rfl
  · exact List.forall_mem_nil _

theorem quoted_noSetLine (line : Line) : (noSetLine line).quoted = [String.ofList line.text] := by
  unfold noSetLine
  split <;> rfl

/-- The file of a line is shown for a fault: it denotes no integer, and it is read
    from the path that the line refers to. -/
def ShowsFile (registry : Registry) (environment : Environment) (line : Line) (fault : Fault) :
    Prop :=
  ∃ path bytes, fileOfLine? registry environment.home line = some path ∧
    environment.read path (maxPayload + 1) = .ok bytes ∧
    fault = .notInteger line.number (String.ofList (Text.trim (Utf8.decodeLossy bytes)))

/-- A fault of a set line quotes texts without line feeds, or it shows a file. -/
theorem Setting.quoted_of_ofLine (henvironment : environment.OneLine) {line : Line}
    {fault : Fault} (hline : '\n' ∉ line.text)
    (h : ofLine registry environment line = .error fault) :
    (∀ text ∈ fault.quoted, '\n' ∉ text.toList) ∨ ShowsFile registry environment line fault := by
  unfold ofLine at h
  split at h
  -- The line as a whole is quoted.
  · cases h
    rw [quoted_noSetLine, List.forall_mem_singleton, String.toList_ofList]
    exact Or.inl hline
  · next set hset =>
    have hname : '\n' ∉ set.name := fun hc => hline ((SetLine.subset_of_read? hset).1 hc)
    have hvalue : '\n' ∉ set.value := fun hc => hline ((SetLine.subset_of_read? hset).2 hc)
    split at h
    · cases h
      refine Or.inl (List.forall_mem_singleton.2 ?_)
      rwa [String.toList_ofList]
    · next v hlookup =>
      have hv := Registry.lineFeed_not_mem_name hlookup hname
      split at h
      · next hresolve =>
        cases h
        exact Or.inl (Operand.lineFeed_not_mem_resolve henvironment hv hvalue hresolve)
      · next operand hresolve =>
        rcases quoted_of_ofOperand h with hquoted | rfl
        · rw [hquoted]
          exact Or.inl (List.forall_mem_singleton.2 hv)
        -- The operand is shown: a text of the line, or what was read from a file.
        · rcases Operand.of_resolve hresolve with
            ⟨text, hread, rfl⟩ | ⟨name, path, bytes, hread, hne, hpath, hbytes, rfl⟩
          · refine Or.inl (List.forall_mem_singleton.2 ?_)
            rw [Operand.shown, String.toList_ofList]
            exact fun hc => hvalue (WrittenValue.subset_of_read? hread hc)
          · have hfile := (fileOfLine?_eq_some_iff registry environment.home line path).2
              ⟨name, ⟨set, v, hset, hlookup, hread, hne⟩, hpath⟩
            exact Or.inr ⟨path, bytes, hfile, hbytes, rfl⟩

namespace Program

/-- A fault of lines quotes texts without line feeds, or one of them shows a file. -/
theorem FaultOf.quoted (henvironment : environment.OneLine) {count : Nat} {lines : List Line}
    {fault : Fault} (hlines : ∀ line ∈ lines, '\n' ∉ line.text)
    (h : FaultOf registry environment count lines fault) :
    (∀ text ∈ fault.quoted, '\n' ∉ text.toList) ∨
      ∃ line ∈ lines, ShowsFile registry environment line fault := by
  cases h with
  | empty => exact Or.inl (List.forall_mem_nil _)
  | unterminated => exact Or.inl (List.forall_mem_nil _)
  | @atLine before line fault h after =>
      have hmem : line ∈ before ++ line :: after :=
        List.mem_append_right before List.mem_cons_self
      have hline := hlines line hmem
      rcases h.origin with hversion | hsetting | rfl
      · refine Or.inl fun text hquoted => ?_
        rw [Version.quoted_of_ofLine hversion text hquoted, String.toList_ofList]
        exact hline
      · exact (Setting.quoted_of_ofLine henvironment hline hsetting).imp_right
          fun hshows => ⟨line, hmem, hshows⟩
      · refine Or.inl (List.forall_mem_singleton.2 ?_)
        rwa [String.toList_ofList]

end Program

/-- What is left of a text without the blanks around it stands in the text. -/
theorem Text.trim_subset (text : List Char) : trim text ⊆ text := by
  intro c hc
  rw [trim, List.mem_reverse] at hc
  have hfront := (List.dropWhile_sublist _).subset hc
  exact (List.dropWhile_sublist _).subset (List.mem_reverse.1 hfront)

/-- No line of a text has a line feed. -/
theorem lineFeed_not_mem_of_mem_significantLines {text : List Char} {line : Line}
    (h : line ∈ significantLines text) : '\n' ∉ line.text := by
  rcases List.mem_filterMap.1 h with ⟨⟨piece, number⟩, hpiece, hline⟩
  rcases Option.map_eq_some_iff.1 hline with ⟨found, hfound, rfl⟩
  have hfeed : '\n' ∉ piece :=
    lineFeed_not_mem_of_mem_splitOn (List.fst_mem_of_mem_zipIdx hpiece)
  unfold significant? at hfound
  split at hfound
  · cases hfound
  · next htrim =>
    split at hfound
    · cases hfound
    · cases hfound
      rw [← htrim]
      exact fun hc => hfeed (Text.trim_subset piece hc)

/-- The message of a fault of compiling is one line, unless it shows a file. It is
    more than one line exactly if a line refers to a file for an integer, the file
    is read and denotes none, and its text has a line feed other than around it. The
    environment may be any in which neither the home directory nor what the system
    says of a file has a line feed. -/
theorem compile_message_lineFeed (registry : Registry) {environment : Environment}
    (henvironment : environment.OneLine) {text : List Char} {source : Source}
    (hsource : source.IsPlaceIn text) {fault : Fault}
    (h : (compile registry environment source).1 = .error fault) :
    '\n' ∈ fault.message.toList ↔
      ∃ line ∈ significantLines text, ∃ path bytes,
        fileOfLine? registry environment.home line = some path ∧
        environment.read path (maxPayload + 1) = .ok bytes ∧
        fault = .notInteger line.number (String.ofList (Text.trim (Utf8.decodeLossy bytes))) ∧
        '\n' ∈ Text.trim (Utf8.decodeLossy bytes) := by
  constructor
  · intro hfeed
    have hlines : ∀ line ∈ source.lines, line ∈ significantLines text := by
      intro line hmem
      rw [hsource.lines_eq_filter] at hmem
      exact (List.mem_filter.1 hmem).1
    rw [compile_fst, Program.ofSource_fst] at h
    rcases hread : Program.ofLines registry environment source.exhausted.consumed source.lines
      with found | program
    · rw [hread, Except.map, Except.error.injEq] at h
      rw [Program.ofLines_eq_error_iff, h] at hread
      rcases hread.quoted henvironment fun line hmem =>
        lineFeed_not_mem_of_mem_significantLines (hlines line hmem) with
          hquoted | ⟨line, hmem, path, bytes, hpath, hbytes, hfault⟩
      · exact absurd hfeed (fault.lineFeed_not_mem_message.2 hquoted)
      -- The line feed of the message is one of the text that is shown.
      · rw [hfault, Fault.lineFeed_mem_message_notInteger] at hfeed
        exact ⟨line, hlines line hmem, path, bytes, hpath, hbytes, hfault, hfeed⟩
    · rw [hread] at h
      exact absurd h (by simp only [Except.map, reduceCtorEq, not_false_eq_true])
  · rintro ⟨line, _, path, bytes, _, _, rfl, hfeed⟩
    exact (Fault.lineFeed_mem_message_notInteger _ _).2 hfeed

end

/-- An environment with one file and no home directory. -/
def Environment.ofFile (path : String) (bytes : List UInt8) : Environment where
  home := none
  files other := if other = path then .ok (.finite bytes) else .error .notFound

theorem Environment.oneLine_ofFile (path : String) (bytes : List UInt8) :
    (ofFile path bytes).OneLine := by
  refine ⟨fun directory h => absurd h (by simp [ofFile]), fun other cause h => ?_⟩
  simp only [ofFile] at h
  split at h
  · cases h
  · cases h
    decide

/-- A file of two lines where a number was to be. -/
theorem not_forall_message_oneLine :
    ¬ ∀ (environment : Environment) (text : List Char) (fault : Fault), environment.OneLine →
      (compile .snappySense environment (Source.ofText text)).1 = .error fault →
        '\n' ∉ fault.message.toList := by
  intro h
  have hfault : (compile .snappySense (.ofFile "v" [0x31, 0x0A, 0x32]) (Source.ofText
      "snappysense-compiled-config 1.0.0\nset enabled @v\nend\n".toList)).1 =
        .error (.notInteger 2 "1\n2") := by decide +kernel
  exact h _ _ _ (Environment.oneLine_ofFile _ _) hfault (by decide)

/-- A file with a line feed behind what was to be a number. -/
theorem compile_message_lineFeed_behind :
    ∃ fault, (compile .snappySense (.ofFile "v" [0x6F, 0x6E, 0x0A]) (Source.ofText
      "snappysense-compiled-config 1.0.0\nset enabled @v\nend\n".toList)).1 = .error fault ∧
        '\n' ∉ fault.message.toList := by
  have hfault : (compile .snappySense (.ofFile "v" [0x6F, 0x6E, 0x0A]) (Source.ofText
      "snappysense-compiled-config 1.0.0\nset enabled @v\nend\n".toList)).1 =
        .error (.notInteger 2 "on") := by decide +kernel
  refine ⟨_, hfault, fun hfeed => ?_⟩
  rcases (compile_message_lineFeed _ (Environment.oneLine_ofFile _ _) (.start _) hfault).1 hfeed
    with ⟨line, _, path, bytes, _, _, hshown, hmem⟩
  rw [Fault.notInteger.injEq] at hshown
  have htext : "on".toList = Text.trim (Utf8.decodeLossy bytes) := by
    rw [hshown.2, String.toList_ofList]
  rw [← htext] at hmem
  exact absurd hmem (by decide)

end SensorConfig
