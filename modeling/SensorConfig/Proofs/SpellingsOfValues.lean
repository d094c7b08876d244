import SensorConfig.Proofs.IntegerValues

/-!
# Spellings of Values

Why it makes no difference how a value is written.

A text can be the value of a line in three ways: as it is, in quotes, or as the
name of a file that holds its bytes. The first two come to a variable as text and the
third as bytes, and from there on they are treated differently. A text is encoded,
while bytes are decoded and trimmed or passed on as they are. The ways meet again
because decoding takes back encoding, and because there is nothing to trim. For a
text variable the second reason is not needed, since nothing is trimmed, so a text
with blanks at its ends is the same to it in every spelling as well.

On the way to its variable a spelling goes through the readers of a line, and these
only look at its ends. Each spelling is therefore seen to be safe there, once, by
`Spells.closes`. A text as it is has to bring this along. The quotes and the at sign
are safe whatever they enclose. Where the line stands, and what stands around it,
then shows in the number of the line only.

## Main definitions

* `Spells`: A value is a spelling of a text.
* `WrittenValue.Closes`: A value that a line ends in as it is written.
* `Setting.atLine?`: What the line of a number sets.

## Theorems

* `find?_significantLines`: A line of a text is found by its number.
* `Spells.closes`: Every spelling is safe at the end of a line.
* `Spells.exists_resolve`: It stands for the text, or for its bytes.
* `Setting.ofOperand_file_encode`: The two set the same.
* `Setting.atLine?_spellings`: All spellings of a text set the same.
-/

namespace SensorConfig

/-- A value is a spelling of a text: the text as it is, if its ends let it be
    written so, the text in quotes, or the name of a file that holds its bytes. -/
inductive Spells (environment : Environment) (text : List Char) : List Char → Prop where
  | bare (nonempty : text ≠ [])
      (first : ∀ c ∈ text.head?, c ≠ ' ' ∧ c ≠ '\t' ∧ c ≠ '@' ∧ c ≠ '"')
      (last : ∀ c ∈ text.getLast?, Text.isBlank c = false) : Spells environment text text
  | quoted : Spells environment text (WrittenValue.quoted text)
  | inFile {file name : List Char} {path : String}
      (read : WrittenValue.read? ('@' :: file) = some ⟨true, name⟩) (nonempty : name ≠ [])
      (path_eq : Path.expandTilde environment.home name = some path)
      (files_eq : environment.files path = .ok (.finite (Utf8.encode text)))
      (one_line : '\n' ∉ file) (last : ∀ c ∈ file.getLast?, Text.isBlank c = false) :
      Spells environment text ('@' :: file)

namespace WrittenValue

/-- A value that a line ends in as it is written: it does not go on the gap in front
    of it, it does not end in a blank, and it is of one line. -/
structure Closes (value : List Char) : Prop where
  first : ∃ c ∈ value.head?, Lexeme.isGap c = false
  last : ∃ c ∈ value.getLast?, Text.isBlank c = false
  one_line : '\n' ∉ value

theorem Fits.closes {value : List Char} (h : Fits value) : Closes value := by
  rcases h.first with ⟨c, hc, hblank⟩
  exact ⟨⟨c, hc, Text.isGap_eq_false hblank⟩, h.last, h.one_line⟩

end WrittenValue

/-- A line of a text is found by its number, whatever the other lines are. -/
theorem find?_significantLines {before after : List (List Char)} {piece line : List Char}
    (hbefore : ∀ other ∈ before, '\n' ∉ other) (hpiece : '\n' ∉ piece)
    (hafter : ∀ other ∈ after, '\n' ∉ other) (hline : significant? piece = some line) :
    (significantLines (['\n'].intercalate (before ++ piece :: after))).find?
        (fun other => other.number = before.length + 1) =
      some ⟨line, before.length + 1⟩ := by
  have hpieces : ∀ other ∈ before ++ piece :: after, '\n' ∉ other := by
    intro other hmem
    rcases List.mem_append.1 hmem with hmem | hmem
    · exact hbefore other hmem
    · rcases List.mem_cons.1 hmem with rfl | hmem
      · exact hpiece
      · exact hafter other hmem
  -- The lines before have smaller numbers.
  have hnone : (linesFrom 1 before).find?
      (fun other => other.number = before.length + 1) = none := by
    refine List.find?_eq_none.2 fun other hmem => ?_
    have hnumber := (number_of_mem_linesFrom hmem).2
    rw [decide_eq_true_eq]
    omega
  rw [significantLines, List.splitOn_intercalate '\n' hpieces (by simp), linesFrom_append,
    List.find?_append, hnone, Option.none_or, linesFrom_cons, hline, Nat.add_comm 1]
  exact List.find?_cons_of_pos (decide_eq_true rfl)

namespace Spells

variable {environment : Environment} {text value : List Char}

/-- Every spelling of a text of one line is safe at the end of a line. -/
theorem closes (h : Spells environment text value) (hfeed : '\n' ∉ text) :
    WrittenValue.Closes value := by
  cases h with
  | bare hne hfirst hlast =>
      have hhead := List.head?_eq_some_head hne
      have hend := List.getLast?_eq_some_getLast hne
      refine ⟨⟨_, hhead, ?_⟩, ⟨_, hend, hlast _ hend⟩, hfeed⟩
      have hchars := hfirst _ hhead
      exact (SetLine.isGap_eq_false_iff _).2 ⟨hchars.1, hchars.2.1⟩
  | quoted => exact (WrittenValue.fits_quoted hfeed).closes
  | @inFile file name path _ _ _ _ hfeed hlast =>
      refine ⟨⟨'@', rfl, by decide⟩, ?_, ?_⟩
      -- Where no name follows the at sign, the value ends in the sign.
      · rw [List.getLast?_cons]
        cases hend : file.getLast? with
        | none => exact ⟨'@', rfl, by decide⟩
        | some c => exact ⟨c, rfl, hlast c hend⟩
      · rw [List.mem_cons, not_or]
        exact ⟨by decide, hfeed⟩

/-- A spelling of a text that fits a slot stands for the text, or for its bytes in
    a file. -/
theorem exists_resolve (h : Spells environment text value)
    (hlength : (Utf8.encode text).length ≤ maxPayload) (v : Variable) (line : Nat) :
    ∃ operand, Operand.resolve environment v line value = .ok operand ∧
      (operand = .inline text ∨ ∃ path, operand = .file path (Utf8.encode text)) := by
  cases h with
  | bare _ hfirst _ =>
      have hread := WrittenValue.read?_of_head fun c hc => (hfirst c hc).2.2
      exact ⟨.inline text, by rw [Operand.resolve, hread], Or.inl rfl⟩
  | quoted =>
      exact ⟨.inline text, by rw [Operand.resolve, WrittenValue.read?_quoted], Or.inl rfl⟩
  | @inFile _ name path hread hname hpath hfiles _ _ =>
      refine ⟨.file path (Utf8.encode text), ?_, Or.inr ⟨path, rfl⟩⟩
      rw [Operand.resolve, hread]
      exact Setting.readFile_of_files hname hpath hfiles hlength

end Spells

namespace Setting

/-- What the line of a number in a text sets, if there is a significant one. -/
def atLine? (registry : Registry) (environment : Environment) (text : List Char) (number : Nat) :
    Option (Except Fault Setting) :=
  ((significantLines text).find? fun line => line.number = number).map
    (ofLine registry environment)

section

variable {registry : Registry} {environment : Environment} {v : Variable} {text : List Char}

/-- The bytes of a text set a variable to what the text does. Only where the variable
    is an integer, nothing may have to be trimmed. -/
theorem ofOperand_file_encode (line : Nat) (path : String)
    (h : v.kind = .integer → Text.trim text = text) :
    ofOperand registry v line (.file path (Utf8.encode text)) =
      ofOperand registry v line (.inline text) := by
  have hdecode : Utf8.decode? (Utf8.encode text) = some text :=
    (Utf8.decode?_eq_some_iff _ _).2 rfl
  rw [ofOperand, ofOperand]
  cases hkind : v.kind with
  | text => rfl
  | integer =>
      have hinteger : (Operand.file path (Utf8.encode text)).integer? =
          (Operand.inline text).integer? := by
        rw [Operand.integer?, Operand.integer?, hdecode, Option.bind_some, h hkind]
      have hshown : (Operand.file path (Utf8.encode text)).shown = (Operand.inline text).shown := by
        rw [Operand.shown, Operand.shown, Utf8.decodeLossy_of_decode? hdecode, h hkind]
      simp only [ofInteger, hinteger, hshown]

/-- A spelling of a text sets a variable to what the text does, on whatever line it
    stands. -/
theorem ofLine_spelling {value : List Char} (hregistry : registry.Printable)
    (hv : v ∈ registry.variables) (h : Spells environment text value) (hfeed : '\n' ∉ text)
    (hlength : (Utf8.encode text).length ≤ maxPayload)
    (htrim : v.kind = .integer → Text.trim text = text) (number : Nat) :
    ofLine registry environment
        ⟨SetLine.keyword.toList ++ ' ' :: (v.name.toList ++ ' ' :: value), number⟩ =
      ofOperand registry v number (.inline text) := by
  rcases h.exists_resolve hlength v number with ⟨operand, hresolve, hoperand⟩
  rw [ofLine_written hregistry hv (h.closes hfeed).first hresolve]
  rcases hoperand with rfl | ⟨path, rfl⟩
  · rfl
  · exact ofOperand_file_encode number path htrim

/-- All spellings of a text set a variable to the same, in every place of every text.
    A text variable is set to the bytes of the text. An integer variable is set to
    the number that the text denotes, or it is refused with the same fault, if the
    text has no blanks at its ends. -/
theorem atLine?_spellings (hregistry : registry.Printable) (environment : Environment)
    (hv : v ∈ registry.variables) (hfeed : '\n' ∉ text)
    (hlength : (Utf8.encode text).length ≤ 65535) {before after : List (List Char)}
    (hbefore : ∀ other ∈ before, '\n' ∉ other) (hafter : ∀ other ∈ after, '\n' ∉ other) :
    (v.kind = .text → ∀ value, Spells environment text value →
      atLine? registry environment (['\n'].intercalate (before ++
          ("set ".toList ++ v.name.toList ++ " ".toList ++ value) :: after)) (before.length + 1) =
        some (.ok (.text v.slot (Utf8.encode text)))) ∧
    (v.kind = .integer → Text.trim text = text →
      ∃ result, ReadsInteger registry v (before.length + 1) text (String.ofList text) result ∧
        ∀ value, Spells environment text value →
          atLine? registry environment (['\n'].intercalate (before ++
              ("set ".toList ++ v.name.toList ++ " ".toList ++ value) :: after))
            (before.length + 1) = some result) := by
  -- For either kind, a spelling stands for the text itself.
  have hsets : (v.kind = .integer → Text.trim text = text) →
      ∀ value, Spells environment text value →
        atLine? registry environment (['\n'].intercalate (before ++
            ("set ".toList ++ v.name.toList ++ " ".toList ++ value) :: after))
          (before.length + 1) = some (ofOperand registry v (before.length + 1) (.inline text)) := by
    intro htrim value hspells
    have hcloses := hspells.closes hfeed
    have hpiece : "set ".toList ++ v.name.toList ++ " ".toList ++ value =
        SetLine.keyword.toList ++ ' ' :: (v.name.toList ++ ' ' :: value) := by
      simp [SetLine.keyword]
    rw [hpiece, atLine?, find?_significantLines hbefore
        (SetLine.lineFeed_not_mem_line (hregistry.chars v hv) hcloses.one_line) hafter
        (SetLine.significant?_line v.name.toList hcloses.last), Option.map_some,
      ofLine_spelling hregistry hv hspells hfeed hlength htrim]
  refine ⟨fun hkind value hspells => ?_, fun hkind htrim => ⟨_, ?_, hsets fun _ => htrim⟩⟩
  · have hset : ofOperand registry v (before.length + 1) (.inline text) =
        .ok (.text v.slot (Utf8.encode text)) := by
      rw [ofOperand, hkind]
      exact if_neg (Nat.not_lt.2 hlength)
    rw [hsets (fun hinteger => by rw [hkind] at hinteger; cases hinteger) value hspells, hset]
  · rw [ofOperand, hkind]
    exact readsInteger_ofInteger (by rw [Operand.integer?])

end

/-- A text with a quote and a number sign, and a number out of range, each as it is, in
    quotes and in a file of the home directory. -/
theorem atLine?_spellings_quote :
    (∀ value ∈ ["a\" #".toList, "\"a\" #\"".toList, "@~/k".toList],
      atLine? .snappySense ⟨some "/h", fun _ => .ok (.finite [0x61, 0x22, 0x20, 0x23])⟩
        (['\n'].intercalate [[], "set ".toList ++ "mqtt-private-key".toList ++ " ".toList ++ value])
        2 = some (.ok (.text 13 [0x61, 0x22, 0x20, 0x23]))) ∧
    (∀ value ∈ ["+02".toList, "\"+02\"".toList, "@\"~/k\"".toList],
      atLine? .snappySense ⟨some "/h", fun _ => .ok (.finite [0x2B, 0x30, 0x32])⟩
        (['\n'].intercalate [[], "set ".toList ++ "enabled".toList ++ " ".toList ++ value])
        2 = some (.error (.outOfRange 2 "enabled" 2 0 1))) := by
  have hregistry := Registry.printable_snappySense
  have hbefore : ∀ other ∈ [([] : List Char)], '\n' ∉ other := by decide
  have hafter : ∀ other ∈ ([] : List (List Char)), '\n' ∉ other := by decide
  -- The name of the file, without quotes and with them.
  have hopen : WrittenValue.read? ('@' :: "~/k".toList) = some ⟨true, "~/k".toList⟩ := by decide
  have hclosed : WrittenValue.read? ('@' :: "\"~/k\"".toList) = some ⟨true, "~/k".toList⟩ := by
    decide
  have hpath : Path.expandTilde (some "/h") "~/k".toList = some "/h/k" := by decide
  have hlast : ∀ d, Text.isBlank d = false → ∀ c ∈ some d, Text.isBlank c = false := by
    intro d hd c hc
    rw [← Option.some.inj hc]
    exact hd
  constructor
  · have hspellings := (@atLine?_spellings .snappySense ⟨"mqtt-private-key", .text, 13⟩
      "a\" #".toList hregistry ⟨some "/h", fun _ => .ok (.finite [0x61, 0x22, 0x20, 0x23])⟩
      (by decide) (by decide) (by decide) _ _ hbefore hafter).1 rfl
    intro value hvalue
    refine hspellings value ?_
    simp only [List.mem_cons, List.not_mem_nil, or_false] at hvalue
    rcases hvalue with rfl | rfl | rfl
    · have hfirst : ∀ c ∈ some 'a', c ≠ ' ' ∧ c ≠ '\t' ∧ c ≠ '@' ∧ c ≠ '"' := by simp
      exact .bare (by decide) hfirst (hlast '#' (by decide))
    · exact .quoted
    · exact .inFile hopen (by decide) hpath rfl (by decide) (hlast 'k' (by decide))
  · rcases (@atLine?_spellings .snappySense ⟨"enabled", .integer, 0⟩ "+02".toList hregistry
      ⟨some "/h", fun _ => .ok (.finite [0x2B, 0x30, 0x32])⟩ (by decide) (by decide) (by decide)
      _ _ hbefore hafter).2 rfl (by decide) with ⟨result, hreads, hspellings⟩
    have hdigits : Numeral.Digits "02".toList := by decide
    rcases (hreads.refused 2 0 1).2 ⟨.plus hdigits, by decide, ⟨0, 0, 1⟩, by decide, rfl, rfl,
      by decide⟩ with ⟨number, hnumber, hresult⟩
    rw [hresult, Int32.toInt_inj.1 (hnumber.trans (by decide : _ = (2 : Int32).toInt))]
      at hspellings
    intro value hvalue
    refine hspellings value ?_
    simp only [List.mem_cons, List.not_mem_nil, or_false] at hvalue
    rcases hvalue with rfl | rfl | rfl
    · have hfirst : ∀ c ∈ some '+', c ≠ ' ' ∧ c ≠ '\t' ∧ c ≠ '@' ∧ c ≠ '"' := by simp
      exact .bare (by decide) hfirst (hlast '2' (by decide))
    · exact .quoted
    · exact .inFile hclosed (by decide) hpath rfl (by decide) (hlast '"' (by decide))

end Setting

end SensorConfig
