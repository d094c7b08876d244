import SensorConfig.Proofs.CompiledPrograms
import SensorConfig.Proofs.SetLineSplits
import SensorConfig.Proofs.Utf8RoundTrip
import SensorConfig.SourceText

/-!
# Printed Programs

Why a program that is written down is read as itself.

A line goes through several readers before it is a setting: the text is split
at its line feeds, blanks are trimmed away, comments are passed over, the line
is cut into a word, a name and a value, and the value loses its quotes. Each of
them drops characters, and a payload can consist of nothing but the characters
that one of them would drop. What keeps a printed value safe is the same for
all of them, and it is about its ends only. `WrittenValue.Fits` says it: no gap
in front, no blank behind, and no line feed anywhere. Quotes and digits are
such ends, and what stands between them never matters.

The names of the variables are part of the argument. A name has to be one that
the grammar reads, and looking it up has to lead back to the slot that it was
printed for. `Registry.Printable` is what a registry needs for that, and the
registry of the firmware has it.

## Main definitions

* `Registry.Printable`: Names that are read as names and lead back.
* `WrittenValue.Fits`: A value that is safe at the end of a line.
* `Setting.InFile`: A payload is in a file of a name that a line can hold.
* `Setting.Stored`: A payload that no line can hold is in its file.

## Theorems

* `significant?_of_ends`: A line without blanks at its ends says all of itself.
* `SetLine.read?_line`: A set line is read as its name and its value.
* `SetLine.significant?_line`: It says all of itself.
* `Setting.fits_writtenValue`: Every printed value is safe.
* `Setting.inlineText?_eq_some_iff`: The payloads that a line can hold.
* `Setting.ofLine_written`: A line sets its variable to its value.
* `Setting.ofLine_sourceLine`: The line of a setting sets it.
* `Program.saidBy_sourceLines`: The lines of a program say it.
* `Program.ofSource_sourceText`: A program is read from its source text.
-/

namespace SensorConfig

/-- A registry whose variables can be printed by name: every name is a name of
    the grammar, and it is the name of no other variable or slot. -/
structure Registry.Printable (registry : Registry) : Prop where
  letter : ∀ v ∈ registry.variables, SetLine.beginsWithLetter v.name.toList = true
  chars : ∀ v ∈ registry.variables, ∀ c ∈ v.name.toList, Lexeme.isNameChar c = true
  lookup?_eq : ∀ v ∈ registry.variables, registry.lookup? v.name = some v
  name?_eq : ∀ v ∈ registry.variables, registry.name? v.kind v.slot = some v.name

/-- The variables of the firmware can be printed by name. -/
theorem Registry.printable_snappySense : snappySense.Printable := by
  have hchars : ∀ v ∈ snappySense.variables, v.name.toList.all Lexeme.isNameChar = true := by
    decide
  refine ⟨by decide, ?_, by decide, by decide⟩
  intro v hmem
  exact List.all_eq_true.1 (hchars v hmem)

namespace Text

theorem isBlank_of_isDigit {c : Char} (h : c.isDigit = true) : isBlank c = false := by
  have hrange := Numeral.toNat_of_isDigit h
  simp only [isBlank, blankRanges, List.any_cons, List.any_nil, Bool.or_eq_false_iff,
    Bool.and_eq_false_iff, decide_eq_false_iff_not, and_true]
  omega

theorem dropWhile_isBlank_of_head {text : List Char}
    (h : ∀ c ∈ text.head?, isBlank c = false) : text.dropWhile isBlank = text := by
  cases text with
  | nil => rfl
  | cons c text =>
      have hc : isBlank c = false := h c rfl
      rw [List.dropWhile_cons_of_neg (by rw [hc]; exact Bool.false_ne_true)]

-- Both trimmings stop at once.
theorem trim_of_ends {text : List Char} (hfirst : ∀ c ∈ text.head?, isBlank c = false)
    (hlast : ∀ c ∈ text.getLast?, isBlank c = false) : trim text = text := by
  have hback : ∀ c ∈ text.reverse.head?, isBlank c = false := by
    rw [List.head?_reverse]
    exact hlast
  rw [trim, dropWhile_isBlank_of_head hfirst, dropWhile_isBlank_of_head hback, List.reverse_reverse]

end Text

/-- A line that begins and ends in other characters than blanks, and does not
    begin with a number sign, says all of itself. -/
theorem significant?_of_ends {line : List Char}
    (hfirst : ∃ c ∈ line.head?, Text.isBlank c = false ∧ c ≠ '#')
    (hlast : ∃ c ∈ line.getLast?, Text.isBlank c = false) : significant? line = some line := by
  rcases hfirst with ⟨c, hc, hblank, hsign⟩
  rcases hlast with ⟨d, hd, hblank'⟩
  have htrim : Text.trim line = line := by
    refine Text.trim_of_ends (fun e he => ?_) fun e he => ?_
    · rw [← Option.some.inj (hc.symm.trans he)]
      exact hblank
    · rw [← Option.some.inj (hd.symm.trans he)]
      exact hblank'
  rw [significant?, htrim]
  cases line with
  | nil => exact absurd hc (by simp)
  | cons e rest =>
      rw [← Option.some.inj hc] at hsign
      exact if_neg hsign

namespace WrittenValue

/-- A text that begins with neither an at sign nor a quote is read as it is. -/
theorem read?_of_head {text : List Char} (h : ∀ c ∈ text.head?, c ≠ '@' ∧ c ≠ '"') :
    read? text = some ⟨false, text⟩ := by
  unfold read?
  split
  · exact absurd rfl (h '@' rfl).1
  · unfold unquote?
    split
    · exact absurd rfl (h '"' rfl).2
    · rfl

/-- A value that is read whole at the end of a line: it does not go on a gap
    before it, it does not end in a blank, and it is of one line. -/
structure Fits (value : List Char) : Prop where
  first : ∃ c ∈ value.head?, Text.isBlank c = false
  last : ∃ c ∈ value.getLast?, Text.isBlank c = false
  one_line : '\n' ∉ value

/-- Quotes make a text safe, whatever stands between them. -/
theorem fits_quoted {text : List Char} (h : '\n' ∉ text) : Fits (quoted text) := by
  have hquote : Text.isBlank '"' = false := by decide
  refine ⟨⟨'"', rfl, hquote⟩, ⟨'"', ?_, hquote⟩, ?_⟩
  · rw [quoted, ← List.cons_append, List.getLast?_concat]
    rfl
  · rw [quoted, List.mem_cons, List.mem_append, List.mem_singleton]
    rintro (hfeed | hfeed | hfeed)
    · exact absurd hfeed (by decide)
    · exact h hfeed
    · exact absurd hfeed (by decide)

theorem fits_at_quoted {name : List Char} (h : '\n' ∉ name) : Fits ('@' :: quoted name) := by
  rcases fits_quoted h with ⟨_, ⟨c, hc, hblank⟩, hfeed⟩
  refine ⟨⟨'@', rfl, by decide⟩, ⟨c, ?_, hblank⟩, ?_⟩
  · rw [quoted, List.getLast?_cons_cons]
    exact hc
  · rw [List.mem_cons]
    rintro (hat | hmem)
    · exact absurd hat (by decide)
    · exact hfeed hmem

end WrittenValue

namespace Numeral

-- A printed number holds no character that means something in a line.
theorem chars_of_mem_repr {n : Int} {c : Char} (h : c ∈ n.repr.toList) :
    c = '-' ∨ c.isDigit = true := by
  cases n with
  | ofNat m =>
      simp only [Int.repr, Nat.toList_repr] at h
      exact Or.inr (Nat.isDigit_of_mem_toDigits (by decide) (by decide) h)
  | negSucc m =>
      have htext : (Int.negSucc m).repr.toList = '-' :: Nat.toDigits 10 (m + 1) := by
        simp [Int.repr]
      rw [htext, List.mem_cons] at h
      rcases h with hsign | hdigit
      · exact Or.inl hsign
      · exact Or.inr (Nat.isDigit_of_mem_toDigits (by decide) (by decide) hdigit)

theorem repr_ne_nil (n : Int) : n.repr.toList ≠ [] := by
  intro hnil
  have hread := integer?_repr n
  rw [hnil] at hread
  exact absurd hread (by simp [integer?, natural?])

theorem isBlank_of_mem_repr {n : Int} {c : Char} (h : c ∈ n.repr.toList) :
    Text.isBlank c = false := by
  rcases chars_of_mem_repr h with rfl | hdigit
  · decide
  · exact Text.isBlank_of_isDigit hdigit

theorem fits_repr (n : Int) : WrittenValue.Fits n.repr.toList := by
  have hne := repr_ne_nil n
  refine ⟨⟨_, List.head?_eq_some_head hne, isBlank_of_mem_repr (List.head_mem hne)⟩,
    ⟨_, List.getLast?_eq_some_getLast hne, isBlank_of_mem_repr (List.getLast_mem hne)⟩, ?_⟩
  intro hfeed
  exact absurd (isBlank_of_mem_repr hfeed) (by decide)

theorem read?_repr (n : Int) : WrittenValue.read? n.repr.toList = some ⟨false, n.repr.toList⟩ := by
  have hchars : ∀ c ∈ n.repr.toList, c ≠ '@' ∧ c ≠ '"' := by
    intro c hc
    rcases chars_of_mem_repr hc with rfl | hdigit
    · decide
    · constructor
      · rintro rfl
        exact absurd hdigit (by decide)
      · rintro rfl
        exact absurd hdigit (by decide)
  exact WrittenValue.read?_of_head fun c hc => hchars c (List.mem_of_head? hc)

end Numeral

/-- A set line is read as its name and its value, if the value does not go on the gap
    in front of it. -/
theorem SetLine.read?_line {name value : List Char}
    (hletter : beginsWithLetter name = true) (hchars : ∀ c ∈ name, Lexeme.isNameChar c = true)
    (hvalue : ∃ c ∈ value.head?, Lexeme.isGap c = false) :
    read? (keyword.toList ++ ' ' :: (name ++ ' ' :: value)) = some ⟨name, value⟩ := by
  rcases hvalue with ⟨c, hc, hgap⟩
  have hne : value ≠ [] := by
    rintro rfl
    exact absurd hc (by simp)
  have hspace : ∀ d ∈ [' '], d = ' ' ∨ d = '\t' := List.forall_mem_singleton.2 (Or.inl rfl)
  refine (read?_eq_some_iff _ name value).2 ⟨[' '], [' '], ⟨rfl, List.cons_ne_nil _ _, hspace,
    (beginsWithLetter_iff name).1 hletter,
    fun d hd => (isNameChar_eq_true_iff d).1 (hchars d hd), List.cons_ne_nil _ _, hspace,
    hne⟩, ?_⟩
  intro d hd
  rw [← Option.some.inj (hc.symm.trans hd), ← isGap_eq_false_iff]
  exact hgap

/-- A set line is one line if its value is. -/
theorem SetLine.lineFeed_not_mem_line {name value : List Char}
    (hchars : ∀ c ∈ name, Lexeme.isNameChar c = true) (hvalue : '\n' ∉ value) :
    '\n' ∉ keyword.toList ++ ' ' :: (name ++ ' ' :: value) := by
  intro hfeed
  rw [List.mem_append, List.mem_cons, List.mem_append, List.mem_cons] at hfeed
  rcases hfeed with hfeed | hfeed | hfeed | hfeed | hfeed
  · exact absurd hfeed (by decide)
  · exact absurd hfeed (by decide)
  · exact absurd (hchars '\n' hfeed) (by decide)
  · exact absurd hfeed (by decide)
  · exact hvalue hfeed

/-- A set line says all of itself if its value does not end in a blank. -/
theorem SetLine.significant?_line (name : List Char) {value : List Char}
    (hlast : ∃ c ∈ value.getLast?, Text.isBlank c = false) :
    significant? (keyword.toList ++ ' ' :: (name ++ ' ' :: value)) =
      some (keyword.toList ++ ' ' :: (name ++ ' ' :: value)) := by
  rcases hlast with ⟨c, hc, hblank⟩
  refine significant?_of_ends ⟨'s', rfl, by decide, by decide⟩ ⟨c, ?_, hblank⟩
  -- The line ends where its value does.
  have hsplit : keyword.toList ++ ' ' :: (name ++ ' ' :: value) =
      keyword.toList ++ ' ' :: (name ++ [' ']) ++ value := by
    simp only [List.append_assoc, List.cons_append, List.nil_append]
  rw [hsplit, List.getLast?_append, Option.mem_def.1 hc]
  rfl

namespace Setting

/-- The payloads that a line can hold are the bytes of texts without a line
    feed. -/
theorem inlineText?_eq_some_iff (payload : List UInt8) (line : List Char) :
    inlineText? payload = some line ↔ payload = Utf8.encode line ∧ '\n' ∉ line := by
  unfold inlineText?
  rw [← Utf8.decode?_eq_some_iff]
  cases Utf8.decode? payload with
  | none => simp
  | some text =>
      by_cases hfeed : '\n' ∈ text
      · simp only [List.contains_iff_mem, hfeed, ↓reduceIte, reduceCtorEq, Option.some.injEq,
          false_iff, not_and, Classical.not_not]
        rintro rfl
        exact hfeed
      · simp only [List.contains_iff_mem, hfeed, ↓reduceIte, Option.some.injEq]
        constructor
        · rintro rfl
          exact ⟨rfl, hfeed⟩
        · exact And.left

/-- A payload that no line can hold is in the file that is named for it, and the
    name is one that a line can hold and that stands for itself. -/
structure InFile (environment : Environment) (name : List Char) (payload : List UInt8) : Prop where
  nonempty : name ≠ []
  one_line : '\n' ∉ name
  no_tilde : ∀ rest, name ≠ '~' :: '/' :: rest
  files_eq : environment.files (String.ofList name) = .ok (.finite payload)

/-- Whatever of a setting no line can hold is in its file. -/
def Stored (environment : Environment) (fileOf : List UInt8 → List Char) : Setting → Prop
  | integer .. => True
  | text _ payload =>
      inlineText? payload = none → InFile environment (fileOf payload) payload

section

variable {registry : Registry} {environment : Environment} {fileOf : List UInt8 → List Char}

/-- Every printed value is safe at the end of a line. -/
theorem fits_writtenValue {setting : Setting} (h : setting.Stored environment fileOf) :
    WrittenValue.Fits (setting.writtenValue fileOf) := by
  cases setting with
  | integer slot value =>
      rw [writtenValue, Int.toString_eq_repr]
      exact Numeral.fits_repr value.toInt
  | text slot payload =>
      rw [writtenValue]
      cases hinline : inlineText? payload with
      | none => exact WrittenValue.fits_at_quoted (h hinline).one_line
      | some line =>
          exact WrittenValue.fits_quoted ((inlineText?_eq_some_iff payload line).1 hinline).2

/-- A file that ends soon enough gives its bytes. -/
theorem readFile_of_files {v : Variable} {line : Nat} {name : List Char} {path : String}
    {bytes : List UInt8} (hname : name ≠ [])
    (hpath : Path.expandTilde environment.home name = some path)
    (hfiles : environment.files path = .ok (.finite bytes)) (hlength : bytes.length ≤ maxPayload) :
    Operand.readFile environment v line name = .ok (.file path bytes) := by
  have hempty : name.isEmpty = false := List.isEmpty_eq_false_iff.2 hname
  have hread : environment.read path (maxPayload + 1) = .ok bytes :=
    Environment.read_eq_ok_iff.2 ⟨_, hfiles, List.take_of_length_le (by omega)⟩
  rw [Operand.readFile, hempty, hpath]
  simp only [Bool.false_eq_true, ↓reduceIte, hread, if_neg (Nat.not_lt.2 hlength)]

/-- The file that is named for a payload gives the payload. -/
theorem readFile_of_inFile {v : Variable} {line : Nat} {name : List Char} {payload : List UInt8}
    (h : InFile environment name payload) (hlength : payload.length ≤ maxPayload) :
    Operand.readFile environment v line name =
      .ok (.file (String.ofList name) payload) :=
  readFile_of_files h.nonempty (Path.expandTilde_of_no_tilde environment.home h.no_tilde)
    h.files_eq hlength

theorem ofInteger_repr {v : Variable} {line : Nat} {value : Int32}
    (h : registry.admits v.slot value = true) :
    ofInteger registry v line (.inline value.toInt.repr.toList) = .ok (.integer v.slot value) := by
  have hread : (Operand.inline value.toInt.repr.toList).integer? = some value := by
    rw [Operand.integer?, ← Int.toString_eq_repr, Numeral.int32?_toString]
  rw [ofInteger, hread]
  rw [Registry.admits] at h
  cases hlimit : registry.limit? v.slot with
  | none => rfl
  | some limit =>
      rw [hlimit] at h
      exact if_pos h

/-- The value of a setting stands for what the setting sets. -/
theorem resolve_writtenValue {setting : Setting} {v : Variable} (line : Nat)
    (hallowed : setting.Allowed registry) (hstored : setting.Stored environment fileOf)
    (hkind : v.kind = setting.kind) (hslot : v.slot = setting.slot) :
    ∃ operand, Operand.resolve environment v line (setting.writtenValue fileOf) = .ok operand ∧
      ofOperand registry v line operand = .ok setting := by
  cases setting with
  | integer slot value =>
      have hslot : v.slot = slot := hslot
      subst hslot
      refine ⟨.inline value.toInt.repr.toList, ?_, ?_⟩
      · rw [writtenValue, Int.toString_eq_repr, Operand.resolve, Numeral.read?_repr]
      · rw [ofOperand, hkind]
        exact ofInteger_repr hallowed.2
  | text slot payload =>
      have hslot : v.slot = slot := hslot
      subst hslot
      -- Either way the operand has the bytes of the payload, which fit the slot.
      have htext : ∀ operand : Operand, operand.payload = payload →
          ofOperand registry v line operand = .ok (.text v.slot payload) := by
        intro operand hpayload
        rw [ofOperand, hkind]
        simp only [kind, ofText, hpayload, if_neg (Nat.not_lt.2 hallowed.2)]
      cases hinline : inlineText? payload with
      | none =>
          refine ⟨.file (String.ofList (fileOf payload)) payload, ?_, htext _ rfl⟩
          simp only [writtenValue, hinline, Operand.resolve, WrittenValue.read?_at_quoted]
          exact readFile_of_inFile (hstored hinline) hallowed.2
      | some text =>
          have hbytes := ((inlineText?_eq_some_iff payload text).1 hinline).1
          refine ⟨.inline text, ?_, htext _ hbytes.symm⟩
          simp only [writtenValue, hinline, Operand.resolve, WrittenValue.read?_quoted]

/-- A setting that is allowed has a variable, and its line names the variable. -/
theorem exists_sourceLine (fileOf : List UInt8 → List Char) (hregistry : registry.Printable)
    {setting : Setting} (h : setting.Allowed registry) :
    ∃ v ∈ registry.variables, v.kind = setting.kind ∧ v.slot = setting.slot ∧
      setting.sourceLine registry fileOf =
        SetLine.keyword.toList ++ ' ' :: (v.name.toList ++ ' ' :: setting.writtenValue fileOf) := by
  have hv : ∃ v ∈ registry.variables, v.kind = setting.kind ∧ v.slot = setting.slot := by
    cases setting with
    | integer slot value => exact h.1
    | text slot payload => exact h.1
  rcases hv with ⟨v, hmem, hkind, hslot⟩
  refine ⟨v, hmem, hkind, hslot, ?_⟩
  rw [sourceLine, ← hkind, ← hslot, hregistry.name?_eq v hmem]
  rfl

/-- A line that is written for a variable sets it to what its value stands for. -/
theorem ofLine_written (hregistry : registry.Printable) {v : Variable}
    (hv : v ∈ registry.variables) {value : List Char}
    (hvalue : ∃ c ∈ value.head?, Lexeme.isGap c = false) {number : Nat} {operand : Operand}
    (hresolve : Operand.resolve environment v number value = .ok operand) :
    ofLine registry environment
        ⟨SetLine.keyword.toList ++ ' ' :: (v.name.toList ++ ' ' :: value), number⟩ =
      ofOperand registry v number operand := by
  have hread := SetLine.read?_line (hregistry.letter v hv) (hregistry.chars v hv) hvalue
  simp only [ofLine, hread, String.ofList_toList, hregistry.lookup?_eq v hv, hresolve]

/-- The line of a setting sets it, on whatever line it stands. -/
theorem ofLine_sourceLine (hregistry : registry.Printable) {setting : Setting}
    (hallowed : setting.Allowed registry) (hstored : setting.Stored environment fileOf)
    (number : Nat) :
    ofLine registry environment ⟨setting.sourceLine registry fileOf, number⟩ = .ok setting := by
  rcases exists_sourceLine fileOf hregistry hallowed with ⟨v, hmem, hkind, hslot, hline⟩
  rcases resolve_writtenValue number hallowed hstored hkind hslot with
    ⟨operand, hresolve, hoperand⟩
  rcases (fits_writtenValue hstored).first with ⟨c, hc, hblank⟩
  rw [hline, ofLine_written hregistry hmem ⟨c, hc, Text.isGap_eq_false hblank⟩ hresolve, hoperand]

/-- The line of a setting is one line, which says all of itself. -/
theorem significant?_sourceLine (hregistry : registry.Printable) {setting : Setting}
    (hallowed : setting.Allowed registry) (hstored : setting.Stored environment fileOf) :
    '\n' ∉ setting.sourceLine registry fileOf ∧
      significant? (setting.sourceLine registry fileOf) =
        some (setting.sourceLine registry fileOf) := by
  rcases exists_sourceLine fileOf hregistry hallowed with ⟨v, hmem, _, _, hline⟩
  have hfits := fits_writtenValue hstored
  rw [hline]
  exact ⟨SetLine.lineFeed_not_mem_line (hregistry.chars v hmem) hfits.one_line,
    SetLine.significant?_line v.name.toList hfits.last⟩

end

end Setting

namespace Program

section

variable {registry : Registry} {environment : Environment} {fileOf : List UInt8 → List Char}

theorem version_ofLine_preambleLine {program : Program} (h : program.version = .supported)
    (number : Nat) : Version.ofLine ⟨program.preambleLine, number⟩ = .ok .supported := by
  have hread : Preamble.read? (Preamble.keyword.toList ++ ' ' :: Version.supported.text.toList) =
      some ⟨['1'], ['0'], ['0']⟩ := by decide
  rw [preambleLine, h, Version.ofLine_eq_ok_iff]
  exact ⟨rfl, _, hread, by decide⟩

theorem terminator?_ending (save : Bool) :
    terminator? (if save then saveLine else endLine) = some save :=
  (terminator?_eq_some_iff _ save).2 rfl

/-- The lines of settings and the line that ends a program say the settings. -/
theorem setLines_sourceLines {settings : List Setting}
    (h : ∀ setting ∈ settings, ∀ number,
      Setting.ofLine registry environment ⟨setting.sourceLine registry fileOf, number⟩ =
        .ok setting) (save : Bool) (number : Nat) :
    SetLines registry environment
      (numbered number (settings.map (Setting.sourceLine registry fileOf) ++
        [if save then saveLine else endLine])) settings save := by
  induction settings generalizing number with
  | nil => exact .ends (terminator?_ending save)
  | cons setting settings ih =>
      have hsetting := h setting List.mem_cons_self number
      have hrest := ih (fun other hmem => h other (List.mem_cons_of_mem setting hmem)) (number + 1)
      exact .sets (Setting.terminator?_of_ofLine hsetting) hsetting hrest

/-- The lines of a program say it. -/
theorem saidBy_sourceLines {program : Program} (hversion : program.version = .supported)
    (hsettings : ∀ setting ∈ program.settings, ∀ number,
      Setting.ofLine registry environment ⟨setting.sourceLine registry fileOf, number⟩ =
        .ok setting) :
    SaidBy registry environment (numbered 1 (program.sourceLines registry fileOf)) program := by
  rcases program with ⟨version, clear, settings, save⟩
  have hversion : version = .supported := hversion
  subst hversion
  have hfirst : Version.ofLine ⟨preambleLine ⟨.supported, clear, settings, save⟩, 1⟩ =
      .ok .supported := version_ofLine_preambleLine rfl 1
  cases clear with
  | true => exact .clearing hfirst rfl (setLines_sourceLines hsettings save 3)
  | false =>
      have hsets := setLines_sourceLines hsettings save 2
      exact .plain hfirst hsets.head?_ne_clearLine hsets

/-- Every line of a program is one line, which says all of itself. -/
theorem significant?_of_mem_sourceLines (hregistry : registry.Printable) {program : Program}
    (hwell : program.WellFormed registry)
    (hstored : ∀ setting ∈ program.settings, setting.Stored environment fileOf) :
    ∀ line ∈ program.sourceLines registry fileOf, '\n' ∉ line ∧ significant? line = some line := by
  intro line hmem
  rw [sourceLines, List.mem_cons, List.mem_append, List.mem_append, List.mem_singleton] at hmem
  rcases hmem with rfl | (hmem | hmem) | rfl
  · rw [preambleLine, hwell.version_eq]
    decide
  · split at hmem
    · rw [List.mem_singleton.1 hmem]
      decide
    · exact absurd hmem List.not_mem_nil
  · rcases List.mem_map.1 hmem with ⟨setting, hsetting, rfl⟩
    exact Setting.significant?_sourceLine hregistry (hwell.allowed setting hsetting)
      (hstored setting hsetting)
  · split
    · decide
    · decide

/-- The lines of a program's source text are the lines of the program. -/
theorem significantLines_sourceText (hregistry : registry.Printable) {program : Program}
    (hwell : program.WellFormed registry)
    (hstored : ∀ setting ∈ program.settings, setting.Stored environment fileOf) :
    significantLines (program.sourceText registry fileOf) =
      numbered 1 (program.sourceLines registry fileOf) := by
  have hlines := significant?_of_mem_sourceLines hregistry hwell hstored
  exact linesFrom_flatMap 1 (fun line hmem => (hlines line hmem).1)
    fun line hmem => (hlines line hmem).2

/-- A registry that can be printed by name has its programs read as printed. -/
theorem ofSource_eq_of_wellFormed (hregistry : registry.Printable) {program : Program}
    (hwell : program.WellFormed registry)
    (hstored : ∀ setting ∈ program.settings, setting.Stored environment fileOf) :
    (ofSource registry environment
      (Source.ofText (program.sourceText registry fileOf))).1 = .ok program := by
  rw [ofSource_eq_ok_iff, Source.lines_ofText, significantLines_sourceText hregistry hwell hstored]
  exact saidBy_sourceLines hwell.version_eq fun setting hmem =>
    Setting.ofLine_sourceLine hregistry (hwell.allowed setting hmem) (hstored setting hmem)

-- The source text of a program with one text that a line can hold, written out.
theorem sourceText_text (fileOf : List UInt8 → List Char) {v : Variable}
    (hname : registry.name? .text v.slot = some v.name) {line : List Char} (hfeed : '\n' ∉ line) :
    sourceText registry fileOf
        ⟨.supported, false, [.text v.slot (Utf8.encode line)], false⟩ =
      "snappysense-compiled-config 1.0.0\nset ".toList ++ v.name.toList ++ " \"".toList ++ line ++
        "\"\nend\n".toList := by
  have hinline := (Setting.inlineText?_eq_some_iff (Utf8.encode line) line).2 ⟨rfl, hfeed⟩
  have hset : Setting.sourceLine registry fileOf (.text v.slot (Utf8.encode line)) =
      "set ".toList ++ v.name.toList ++ " \"".toList ++ line ++ ['"'] := by
    simp only [Setting.sourceLine, Setting.kind, Setting.slot, hname, Setting.writtenValue, hinline,
      WrittenValue.quoted, Option.getD_some]
    simp [SetLine.keyword]
  have hwords : Preamble.keyword.toList ++ ' ' :: Version.supported.text.toList =
      "snappysense-compiled-config 1.0.0".toList := by decide
  have hfirst : preambleLine ⟨.supported, false, [.text v.slot (Utf8.encode line)], false⟩ =
      "snappysense-compiled-config 1.0.0".toList := hwords
  rw [sourceText, sourceLines, hfirst]
  simp [hset, endLine]

end

/-- A well-formed program is read from its source text as itself, and the text
    compiles to its bytes, if the payloads that no line can hold are in their
    files. So every text of one line stands for itself in quotes, whatever
    characters it has and in whatever place. -/
theorem ofSource_sourceText (environment : Environment) (fileOf : List UInt8 → List Char) :
    (∀ program : Program, program.WellFormed .snappySense →
      (∀ setting ∈ program.settings, setting.Stored environment fileOf) →
        (ofSource .snappySense environment
          (Source.ofText (program.sourceText .snappySense fileOf))).1 = .ok program ∧
        ∃ bytes, program.encode = .ok bytes ∧
          compileText environment (program.sourceText .snappySense fileOf) = .ok bytes) ∧
    ∀ v ∈ Registry.snappySense.variables, v.kind = .text → ∀ line : List Char, '\n' ∉ line →
      (Utf8.encode line).length ≤ maxPayload →
        (ofSource .snappySense environment (Source.ofText
          ("snappysense-compiled-config 1.0.0\nset ".toList ++ v.name.toList ++ " \"".toList ++
            line ++ "\"\nend\n".toList))).1 =
          .ok ⟨.supported, false, [.text v.slot (Utf8.encode line)], false⟩ := by
  have hregistry := Registry.printable_snappySense
  constructor
  · intro program hwell hstored
    have hsource := ofSource_eq_of_wellFormed hregistry hwell hstored
    refine ⟨hsource, _, hwell.encode_eq, ?_⟩
    rw [compileText, compile_fst_of_ofSource hsource]
    rfl
  · intro v hmem hkind line hfeed hlength
    have hname := hregistry.name?_eq v hmem
    rw [hkind] at hname
    have hinline := (Setting.inlineText?_eq_some_iff (Utf8.encode line) line).2 ⟨rfl, hfeed⟩
    rw [← sourceText_text fileOf hname hfeed]
    refine ofSource_eq_of_wellFormed hregistry ⟨rfl, ?_⟩ ?_
    · intro setting hsetting
      rw [List.mem_singleton.1 hsetting]
      exact ⟨⟨v, hmem, hkind, rfl⟩, hlength⟩
    · intro setting hsetting
      rw [List.mem_singleton.1 hsetting]
      -- No file is needed for a text that a line can hold.
      intro hnone
      rw [hinline] at hnone
      exact absurd hnone (by simp only [reduceCtorEq, not_false_eq_true])

/-- A negative number, a text of a blank and a quote, and a payload with a line
    feed in its file. -/
theorem ofSource_sourceText_quote :
    (ofSource .snappySense ⟨none, fun _ => .ok (.finite [0x61, 0x0A])⟩
      (Source.ofText (sourceText .snappySense (fun _ => "blob".toList) ⟨.supported, true,
        [.integer 4 (-7), .text 2 [0x20, 0x22], .text 10 [0x61, 0x0A]], true⟩))).1 =
      .ok ⟨.supported, true,
        [.integer 4 (-7), .text 2 [0x20, 0x22], .text 10 [0x61, 0x0A]], true⟩ := by
  have hblob : Setting.InFile ⟨none, fun _ => .ok (.finite [0x61, 0x0A])⟩ "blob".toList
      [0x61, 0x0A] := ⟨by decide, by decide, fun rest h => by simp at h, rfl⟩
  refine ((ofSource_sourceText _ fun _ => "blob".toList).1 _ ⟨rfl, by decide⟩ ?_).1
  intro setting hmem
  simp only [List.mem_cons, List.not_mem_nil, or_false] at hmem
  rcases hmem with rfl | rfl | rfl
  · exact trivial
  · intro hnone
    exact absurd hnone (by decide)
  · exact fun _ => hblob

end Program

end SensorConfig
