import SensorConfig.Proofs.FirstFault
import SensorConfig.Proofs.IntegerValues

/-!
# Versions of Preambles

Which of five things a first line is.

A first line is told apart by its form and by three numbers. The form is that of
`Preamble.WrittenAs`, which says nothing of how a line is read: a keyword, a gap
and three runs of digits, with a dot between each two and nothing behind the last.
The numbers are those of the places of the digits. A run may be of any length, so
whether a number fits a byte is asked of the number, and zeros in front of it never
matter.

The five cases exclude each other, and this is what makes each an equivalence.
A result that gets past the preamble has no fault of one, a fault of form is none of
a version, and the two faults of a version are told apart by their wording.

## Main definitions

* `Preamble.WrittenAs`: A line that is written as a preamble.
* `Program.PassesPreamble`: A result that has no fault of a preamble.
* `Program.Reports`: A result is a fault with a wording.

## Theorems

* `Preamble.read?_eq_some_iff`: Lines that are written as preambles are read.
* `Preamble.version?_eq_some_iff`, `Preamble.version?_eq_none_iff`: A version has the
  numbers of its components, unless one of them is too large.
* `Version.ofLine_cases`: What a line gives that is written as a preamble.
* `Program.Reports.wording_eq`: A result has one wording.
* `Program.ofSource_preamble`: What becomes of a first line.
-/

namespace SensorConfig

namespace Preamble

/-- A line is written as a preamble: the keyword, a gap of spaces and tabs, and the
    digits of three components with dots between them. -/
structure WrittenAs (text gap : List Char) (preamble : Preamble) : Prop where
  text_eq : text = "snappysense-compiled-config".toList ++
    (gap ++ (preamble.major ++ '.' :: (preamble.minor ++ '.' :: preamble.patch)))
  gap_ne : gap ≠ []
  gap_chars : ∀ c ∈ gap, c = ' ' ∨ c = '\t'
  major : Numeral.Digits preamble.major
  minor : Numeral.Digits preamble.minor
  patch : Numeral.Digits preamble.patch

theorem isGap_of_isDigit {c : Char} (h : c.isDigit = true) : Lexeme.isGap c = false := by
  rw [SetLine.isGap_eq_false_iff]
  constructor
  · rintro rfl
    exact absurd h (by decide)
  · rintro rfl
    exact absurd h (by decide)

theorem run?_digits {digits : List Char} (h : Numeral.Digits digits) (rest : List Char)
    (hrest : ∀ c ∈ rest.head?, c.isDigit = false) :
    Lexeme.run? Char.isDigit (digits ++ rest) = some (digits, rest) :=
  Lexeme.run?_append h.nonempty h.digits hrest

/-- A line is read as a preamble exactly if it is written as one. -/
theorem read?_eq_some_iff (text : List Char) (preamble : Preamble) :
    read? text = some preamble ↔ ∃ gap, WrittenAs text gap preamble := by
  constructor
  · intro h
    simp only [read?, Option.bind_eq_bind, Option.bind_eq_some_iff, Option.ite_none_right_eq_some,
      Option.some.injEq, Prod.exists, List.isEmpty_iff, Lexeme.word?_eq_some_iff,
      Lexeme.run?_eq_some_iff] at h
    rcases h with ⟨_, rfl, gap, _, ⟨rfl, hgap, hgaps, _⟩, major, _, ⟨rfl, hmajor, hmajors, _⟩, _,
      rfl, minor, _, ⟨rfl, hminor, hminors, _⟩, _, rfl, patch, _, ⟨rfl, hpatch, hpatches, _⟩,
      rfl, rfl⟩
    refine ⟨gap, ?_, hgap, fun c hc => (SetLine.isGap_eq_true_iff c).1 (hgaps c hc),
      ⟨hmajor, hmajors⟩, ⟨hminor, hminors⟩, ⟨hpatch, hpatches⟩⟩
    rw [List.append_nil]
    rfl
  · rintro ⟨gap, h⟩
    have hdot : ∀ rest : List Char, ∀ c ∈ ('.' :: rest).head?, c.isDigit = false := by
      intro rest c hc
      rw [← Option.some.inj hc]
      decide
    have hword : ∀ rest : List Char, Lexeme.word? "." ('.' :: rest) = some rest :=
      fun rest => (Lexeme.word?_eq_some_iff _ _ _).2 rfl
    have hkeyword := (Lexeme.word?_eq_some_iff keyword text _).2 h.text_eq
    -- A gap ends where the digits begin, and each run of digits at a dot or at the end.
    have hgap : Lexeme.run? Lexeme.isGap
        (gap ++ (preamble.major ++ '.' :: (preamble.minor ++ '.' :: preamble.patch))) =
          some (gap, preamble.major ++ '.' :: (preamble.minor ++ '.' :: preamble.patch)) := by
      refine Lexeme.run?_append h.gap_ne
        (fun c hc => (SetLine.isGap_eq_true_iff c).2 (h.gap_chars c hc)) fun c hc => ?_
      rw [List.head?_append_of_ne_nil _ h.major.nonempty] at hc
      exact isGap_of_isDigit (h.major.digits c (List.mem_of_head? hc))
    have hpatch := run?_digits h.patch [] fun c hc => absurd hc (by simp)
    rw [List.append_nil] at hpatch
    simp only [read?, hkeyword, hgap, run?_digits h.major _ (hdot _), hword,
      run?_digits h.minor _ (hdot _), hpatch, Option.bind_eq_bind, Option.bind_some,
      List.isEmpty_nil, ↓reduceIte]

/-- Digits denote the byte of their number. -/
theorem component?_eq_some_iff {digits : List Char} (h : Numeral.Digits digits) (byte : UInt8) :
    component? digits = some byte ↔ byte.toNat = Numeral.placeValue digits := by
  have hread := (Numeral.natural?_eq_some_iff_digits digits _).2 ⟨h, rfl⟩
  have hbyte := byte.toNat_lt
  rw [component?, hread]
  simp only [Option.ite_none_right_eq_some, Option.some.injEq]
  constructor
  · rintro ⟨hlt, rfl⟩
    exact UInt8.toNat_ofNat_of_lt hlt
  · intro hvalue
    rw [← hvalue]
    exact ⟨hbyte, UInt8.ofNat_toNat⟩

/-- They denote none if their number does not fit one. -/
theorem component?_eq_none_iff {digits : List Char} (h : Numeral.Digits digits) :
    component? digits = none ↔ 255 < Numeral.placeValue digits := by
  have hread := (Numeral.natural?_eq_some_iff_digits digits _).2 ⟨h, rfl⟩
  rw [component?, hread]
  simp only [ite_eq_right_iff, reduceCtorEq, imp_false, Nat.not_lt]
  exact Iff.rfl

section

variable {text gap : List Char} {preamble : Preamble}

/-- A version has the numbers of its components. -/
theorem version?_eq_some_iff (h : WrittenAs text gap preamble) (version : Version) :
    preamble.version? = some version ↔
      version.major.toNat = Numeral.placeValue preamble.major ∧
      version.minor.toNat = Numeral.placeValue preamble.minor ∧
      version.patch.toNat = Numeral.placeValue preamble.patch := by
  simp only [version?, Option.bind_eq_bind, Option.bind_eq_some_iff,
    component?_eq_some_iff h.major, component?_eq_some_iff h.minor,
    component?_eq_some_iff h.patch, Option.some.injEq]
  constructor
  · rintro ⟨major, hmajor, minor, hminor, patch, hpatch, rfl⟩
    exact ⟨hmajor, hminor, hpatch⟩
  · rintro ⟨hmajor, hminor, hpatch⟩
    exact ⟨_, hmajor, _, hminor, _, hpatch, rfl⟩

/-- There is none if a component is too large. -/
theorem version?_eq_none_iff (h : WrittenAs text gap preamble) :
    preamble.version? = none ↔
      255 < Numeral.placeValue preamble.major ∨ 255 < Numeral.placeValue preamble.minor ∨
        255 < Numeral.placeValue preamble.patch := by
  rw [← component?_eq_none_iff h.major, ← component?_eq_none_iff h.minor,
    ← component?_eq_none_iff h.patch, version?]
  cases component? preamble.major with
  | none => simp only [Option.bind_eq_bind, Option.bind_none, true_or]
  | some major =>
      cases component? preamble.minor with
      | none =>
          simp only [Option.bind_eq_bind, Option.bind_none, Option.bind_some, true_or, or_true]
      | some minor =>
          cases component? preamble.patch with
          | none => simp only [Option.bind_eq_bind, Option.bind_none, Option.bind_some, or_true]
          | some patch =>
              simp only [Option.bind_eq_bind, Option.bind_some, reduceCtorEq, or_self]

end

end Preamble

/-- A line that is written as a preamble has a component that is too large, or a
    version, and that is the supported one or it is unknown. -/
theorem Version.ofLine_cases {line : Line} {gap : List Char} {preamble : Preamble}
    (h : Preamble.WrittenAs line.text gap preamble) :
    ((255 < Numeral.placeValue preamble.major ∨ 255 < Numeral.placeValue preamble.minor ∨
        255 < Numeral.placeValue preamble.patch) ∧
      ofLine line = .error (.version line.number (.component (String.ofList line.text)))) ∨
    ∃ version : Version, version.major.toNat = Numeral.placeValue preamble.major ∧
      version.minor.toNat = Numeral.placeValue preamble.minor ∧
      version.patch.toNat = Numeral.placeValue preamble.patch ∧
      ofLine line = if version = supported then .ok version
        else .error (.version line.number (.unknown version)) := by
  have hread := (Preamble.read?_eq_some_iff line.text preamble).2 ⟨gap, h⟩
  cases hversion : preamble.version? with
  | none =>
      refine Or.inl ⟨(Preamble.version?_eq_none_iff h).1 hversion, ?_⟩
      simp only [ofLine, hread, hversion]
  | some version =>
      rcases (Preamble.version?_eq_some_iff h version).1 hversion with ⟨hmajor, hminor, hpatch⟩
      refine Or.inr ⟨version, hmajor, hminor, hpatch, ?_⟩
      simp only [ofLine, hread, hversion]

/-- The supported version has the numbers one, zero and zero. -/
theorem Version.eq_supported_iff (version : Version) :
    version = supported ↔
      version.major.toNat = 1 ∧ version.minor.toNat = 0 ∧ version.patch.toNat = 0 := by
  rcases version with ⟨major, minor, patch⟩
  rw [supported, mk.injEq, ← UInt8.toNat_inj, ← UInt8.toNat_inj, ← UInt8.toNat_inj]
  rfl

/-- A line that is not written as a preamble has a fault of form, which tells whether
    the line begins with the keyword. -/
theorem Version.ofLine_of_not_writtenAs {line : Line}
    (h : ¬ ∃ gap preamble, Preamble.WrittenAs line.text gap preamble) :
    ofLine line = .error (.form line.number
      (if "snappysense-compiled-config".toList <+: line.text then
        .preamble (String.ofList line.text) else .noPreamble)) := by
  have hread : Preamble.read? line.text = none := by
    refine Option.eq_none_iff_forall_ne_some.2 fun preamble hsome => h ?_
    rcases (Preamble.read?_eq_some_iff line.text preamble).1 hsome with ⟨gap, hwritten⟩
    exact ⟨gap, preamble, hwritten⟩
  rcases Lexeme.word?_cases "snappysense-compiled-config" line.text with
    ⟨hbegins, rest, hword⟩ | ⟨hbegins, hword⟩
  · simp only [ofLine, hread, Preamble.keyword, hword, if_pos hbegins]
  · simp only [ofLine, hread, Preamble.keyword, hword, if_neg hbegins]

namespace Program

/-- A result gets past the preamble: it is a program, or its fault is found behind. -/
def PassesPreamble (result : Except Fault Program) : Prop :=
  ∀ fault, result = .error fault → fault.site ≠ .preamble

/-- A result is a fault of a kind, which belongs to a line and is worded in a way. -/
def Reports (result : Except Fault Program) (kind : FaultKind) (line : Nat) (wording : String) :
    Prop :=
  ∃ fault, result = .error fault ∧ fault.kind = kind ∧ fault.line? = some line ∧
    fault.message = "Line " ++ toString line ++ ": " ++ wording

/-- A result has one wording. -/
theorem Reports.wording_eq {result : Except Fault Program} {kind kind' : FaultKind} {line : Nat}
    {wording wording' : String} (h : Reports result kind line wording)
    (h' : Reports result kind' line wording') : wording = wording' := by
  rcases h with ⟨fault, rfl, _, _, hmessage⟩
  rcases h' with ⟨fault', hfault, _, _, hmessage'⟩
  cases hfault
  exact (String.append_right_inj _).1 (hmessage.symm.trans hmessage')

-- The wordings of the two faults of a version differ from the first letter on.
theorem badVersion_ne_unknownVersion (left right : String) :
    "Bad version value: " ++ left ≠ "Unknown version " ++ right := by
  intro heq
  have hlist := congrArg String.toList heq
  rw [String.toList_append, String.toList_append] at hlist
  exact absurd (List.cons.inj hlist).1 (by decide)

/-- What gets past the preamble is no fault of a version. -/
theorem not_reports_version_of_passesPreamble {result : Except Fault Program}
    (h : PassesPreamble result) (line : Nat) (wording : String) :
    ¬ Reports result .version line wording := by
  rintro ⟨fault, hresult, hkind, _, _⟩
  refine h fault hresult ?_
  cases fault with
  | version line fault => rfl
  | _ => exact absurd hkind (by simp only [Fault.kind, reduceCtorEq, not_false_eq_true])

section

variable (registry : Registry) (environment : Environment) {source : Source} {line : Line}

/-- A fault of the first line is that of the source. -/
theorem ofSource_of_ofLine_error (hline : source.lines.head? = some line) {fault : Fault}
    (h : Version.ofLine line = .error fault) :
    (ofSource registry environment source).1 = .error fault := by
  rcases List.head?_eq_some_iff.1 hline with ⟨others, hlines⟩
  rw [ofSource_fst, hlines, ofLines, h]

/-- If the first line has none, the source gets past it. -/
theorem passesPreamble_of_ofLine_ok (hline : source.lines.head? = some line) {version : Version}
    (h : Version.ofLine line = .ok version) :
    PassesPreamble (ofSource registry environment source).1 := by
  rcases List.head?_eq_some_iff.1 hline with ⟨others, hlines⟩
  intro fault hfault
  rw [ofSource_fst, hlines, ofLines_eq_error_iff] at hfault
  -- The fault of a line is that of a preamble on the first line only.
  generalize hall : line :: others = all at hfault
  cases hfault with
  | empty => cases hall
  | unterminated _ => simp [Fault.site]
  | @atLine before found fault hfault after =>
      cases hfault with
      | preamble hpreamble =>
          cases hall
          rw [h] at hpreamble
          cases hpreamble
      | setting _ _ _ hsetting =>
          rw [(Setting.fault_of_ofLine hsetting).2]
          decide
      | trailing _ _ => simp [Fault.site]

end

/-- What becomes of a first line. If it is written as a preamble, its components
    decide: a source gets past it exactly if the version is the supported one, and
    otherwise it has a fault of the version, which tells whether a component is too
    large or the version is unknown. If it is not, the source has a fault of form,
    which tells whether the line begins with the keyword. Every such fault belongs to
    the line. -/
theorem ofSource_preamble (registry : Registry) (environment : Environment) {source : Source}
    {line : Line} (hline : source.lines.head? = some line) :
    (∀ gap preamble, Preamble.WrittenAs line.text gap preamble →
      let result := (ofSource registry environment source).1
      let a := Numeral.placeValue preamble.major
      let b := Numeral.placeValue preamble.minor
      let c := Numeral.placeValue preamble.patch
      (PassesPreamble result ↔ a = 1 ∧ b = 0 ∧ c = 0) ∧
      (Reports result .version line.number ("Bad version value: " ++ String.ofList line.text) ↔
        255 < a ∨ 255 < b ∨ 255 < c) ∧
      (Reports result .version line.number ("Unknown version " ++
          (toString a ++ "." ++ toString b ++ "." ++ toString c)) ↔
        (a ≤ 255 ∧ b ≤ 255 ∧ c ≤ 255) ∧ ¬ (a = 1 ∧ b = 0 ∧ c = 0))) ∧
    ((¬ ∃ gap preamble, Preamble.WrittenAs line.text gap preamble) →
      Reports (ofSource registry environment source).1 .form line.number
        (if "snappysense-compiled-config".toList <+: line.text then
          "Bad syntax for `snappysense-compiled-config`: " ++ String.ofList line.text
        else "First statement must be `snappysense-compiled-config`")) := by
  constructor
  · intro gap preamble hwritten
    simp only
    -- The outcomes exclude each other, so the one that is there settles the other two.
    rcases Version.ofLine_cases hwritten with
      ⟨hlarge, hfault⟩ | ⟨version, hmajor, hminor, hpatch, hversion⟩
    · have hresult := ofSource_of_ofLine_error registry environment hline hfault
      have hbad : Reports (ofSource registry environment source).1 .version line.number
          ("Bad version value: " ++ String.ofList line.text) := ⟨_, hresult, rfl, rfl, rfl⟩
      refine ⟨iff_of_false ?_ (by omega), iff_of_true hbad hlarge, iff_of_false ?_ (by omega)⟩
      · exact fun hpasses => not_reports_version_of_passesPreamble hpasses _ _ hbad
      · exact fun hunknown => badVersion_ne_unknownVersion _ _ (hbad.wording_eq hunknown)
    · have hbytes := And.intro version.major.toNat_lt
        (And.intro version.minor.toNat_lt version.patch.toNat_lt)
      have hsupported := version.eq_supported_iff
      rw [hmajor, hminor, hpatch] at hbytes hsupported
      by_cases hv : version = Version.supported
      · have hone := hsupported.1 hv
        have hpasses := passesPreamble_of_ofLine_ok registry environment hline
          (hversion.trans (if_pos hv))
        have hnone := not_reports_version_of_passesPreamble hpasses
        exact ⟨iff_of_true hpasses hone, iff_of_false (hnone _ _) (by omega),
          iff_of_false (hnone _ _) (fun h => h.2 hone)⟩
      · have hother := mt hsupported.2 hv
        have hresult := ofSource_of_ofLine_error registry environment hline
          (hversion.trans (if_neg hv))
        have hunknown : Reports (ofSource registry environment source).1 .version line.number
            ("Unknown version " ++ (toString (Numeral.placeValue preamble.major) ++ "." ++
              toString (Numeral.placeValue preamble.minor) ++ "." ++
              toString (Numeral.placeValue preamble.patch))) := by
          rw [← hmajor, ← hminor, ← hpatch]
          exact ⟨_, hresult, rfl, rfl, rfl⟩
        refine ⟨iff_of_false ?_ hother, iff_of_false ?_ (by omega),
          iff_of_true hunknown ⟨by omega, hother⟩⟩
        · exact fun hpasses => not_reports_version_of_passesPreamble hpasses _ _ hunknown
        · exact fun hbad => badVersion_ne_unknownVersion _ _ (hbad.wording_eq hunknown)
  · intro hnone
    have hfault := ofSource_of_ofLine_error registry environment hline
      (Version.ofLine_of_not_writtenAs hnone)
    refine ⟨_, hfault, rfl, rfl, ?_⟩
    split
    · rfl
    · rfl

/-- A component that is too large behind zeros, a version that is unknown with a zero
    in front, and a line that begins with the keyword and has one component too few. -/
theorem ofSource_preamble_zeros :
    Reports (ofSource .snappySense ⟨none, fun _ => .error .notFound⟩ (Source.ofText
      "# v\nsnappysense-compiled-config \t1.0.000256\nsave".toList)).1 .version 2
        "Bad version value: snappysense-compiled-config \t1.0.000256" ∧
    Reports (ofSource .snappySense ⟨none, fun _ => .error .notFound⟩ (Source.ofText
      "snappysense-compiled-config 02.0.0\nsave".toList)).1 .version 1
        "Unknown version 2.0.0" ∧
    Reports (ofSource .snappySense ⟨none, fun _ => .error .notFound⟩ (Source.ofText
      "snappysense-compiled-config 1.0\nsave".toList)).1 .form 1
        "Bad syntax for `snappysense-compiled-config`: snappysense-compiled-config 1.0" := by
  refine ⟨?_, ?_, ?_⟩
  · have hline : (Source.ofText
        "# v\nsnappysense-compiled-config \t1.0.000256\nsave".toList).lines.head? =
          some ⟨"snappysense-compiled-config \t1.0.000256".toList, 2⟩ := by decide
    have hlarge : Preamble.WrittenAs "snappysense-compiled-config \t1.0.000256".toList
        [' ', '\t'] ⟨['1'], ['0'], "000256".toList⟩ :=
      ⟨by decide, by decide, by simp, by decide, by decide, by decide⟩
    exact ((ofSource_preamble .snappySense _ hline).1 _ _ hlarge).2.1.2 (by decide)
  · have hline : (Source.ofText "snappysense-compiled-config 02.0.0\nsave".toList).lines.head? =
        some ⟨"snappysense-compiled-config 02.0.0".toList, 1⟩ := by decide
    have hunknown : Preamble.WrittenAs "snappysense-compiled-config 02.0.0".toList
        [' '] ⟨"02".toList, ['0'], ['0']⟩ :=
      ⟨by decide, by decide, by simp, by decide, by decide, by decide⟩
    exact ((ofSource_preamble .snappySense _ hline).1 _ _ hunknown).2.2.2 (by decide)
  · have hline : (Source.ofText "snappysense-compiled-config 1.0\nsave".toList).lines.head? =
        some ⟨"snappysense-compiled-config 1.0".toList, 1⟩ := by decide
    have hnone : ¬ ∃ gap preamble, Preamble.WrittenAs "snappysense-compiled-config 1.0".toList
        gap preamble := by
      rintro ⟨gap, preamble, hwritten⟩
      have hread := (Preamble.read?_eq_some_iff _ preamble).2 ⟨gap, hwritten⟩
      have hnot : Preamble.read? "snappysense-compiled-config 1.0".toList = none := by decide
      rw [hnot] at hread
      exact absurd hread (by simp only [reduceCtorEq, not_false_eq_true])
    exact (ofSource_preamble .snappySense _ hline).2 hnone

end Program

end SensorConfig
