import SensorConfig.Proofs.SourcePlaces

/-!
# Cursors over Lines

Sessions as seen by someone who knows the lines of the text.

Such a reader needs no source and counts no bytes. The text is cut at its line
feeds once, and the only thing that changes is how many of the lines lie
behind. The next line is the first of the others that says something.
`LineCursor` is this reader, and `Session.refines_lineCursor` says that no
session can tell it from a source.

A source has lines that keep their line feeds, and a last one that may have
none, so the two do not hold the same lines. They agree on what each line says,
and on how many there are, which is all that either uses.

The same holds towards the machine. A `ByteCursor` cuts the text again at every
line and moves a byte and a number separately. At a place of a source its cuts
succeed and it moves to the place where the source moves to. The byte is then
the one where the next line begins, and it is the number of lines that
determines it.

## Main definitions

* `bareLines`: The lines of a text without their line feeds.
* `isSignificant`: Whether a line says something.
* `lineStart`: The byte where a line begins.
* `LineCursor`: The lines of a text and how many lie behind.
* `LineCursor.run`: What several requests give.

## Theorems

* `map_significant?_physicalLines`: Lines say the same with line feeds or without.
* `byteLength_take_physicalLines`: The first lines end where the next begins.
* `nextAmong_eq_findIdx?`: The next line is the first that says something.
* `ByteCursor.next?_eq_nextAmong`: Reading by bytes is reading by lines.
* `LineCursor.step_of_isWithin`: A session takes the steps of its cursor.
* `Session.refines_lineCursor`: A session is a cursor over the lines of a text.
-/

namespace SensorConfig

/-- The lines of a text: its pieces between line feeds, but for an empty piece
    at the end. -/
def bareLines (text : List Char) : List (List Char) :=
  let pieces := text.splitOn '\n'
  if pieces.getLast? = some [] then pieces.dropLast else pieces

/-- Whether a line says something: there is more in it than blanks, and it does
    not begin with a number sign. -/
def isSignificant (line : List Char) : Bool :=
  Text.trim line ≠ [] && (Text.trim line).head? ≠ some '#'

/-- The byte where the line behind the first `count` lines begins: behind them
    and their line feeds, or where the text ends if they are all. -/
def lineStart (text : List Char) (count : Nat) : Nat :=
  if count < (bareLines text).length then
    byteLength (((bareLines text).take count).flatMap (· ++ ['\n']))
  else byteLength text

theorem bareLines_last {line : List Char} (h : '\n' ∉ line) :
    bareLines line = if line = [] then [] else [line] := by
  rw [bareLines, List.splitOn_eq_singleton h]
  by_cases hnil : line = []
  · subst hnil
    rfl
  · simp only [List.getLast?_singleton, Option.some.injEq, hnil, ↓reduceIte]

theorem bareLines_line {line : List Char} (h : '\n' ∉ line) (rest : List Char) :
    bareLines (line ++ '\n' :: rest) = line :: bareLines rest := by
  have hne : rest.splitOn '\n' ≠ [] := List.splitOn_ne_nil '\n' rest
  unfold bareLines
  rw [List.splitOn_append_cons_self_of_not_mem h]
  simp only [List.getLast?_cons_of_ne_nil hne, List.dropLast_cons_of_ne_nil hne]
  split <;> rfl

/-- What a line says is what is left of it, if it says something. -/
theorem significant?_eq_ite (line : List Char) :
    significant? line = if isSignificant line then some (Text.trim line) else none := by
  unfold significant? isSignificant
  cases Text.trim line with
  | nil => rfl
  | cons c rest =>
      by_cases hsign : c = '#'
      · simp [hsign]
      · simp [hsign]

/-- The lines of a text say the same with their line feeds or without. -/
theorem map_significant?_physicalLines (text : List Char) :
    (physicalLines text).map significant? = (bareLines text).map significant? := by
  induction text using line_induction with
  | last line hline => rw [physicalLines_last hline, bareLines_last hline]
  | cons line rest hline ih =>
      rw [physicalLines_line hline, bareLines_line hline, List.map_cons, List.map_cons, ih,
        significant?_append_lineFeed]

theorem length_physicalLines (text : List Char) :
    (physicalLines text).length = (bareLines text).length := by
  have hlength := congrArg List.length (map_significant?_physicalLines text)
  rwa [List.length_map, List.length_map] at hlength

/-- The first lines of a text end where the next one begins. -/
theorem byteLength_take_physicalLines (text : List Char) {count : Nat}
    (h : count ≤ (bareLines text).length) :
    byteLength ((physicalLines text).take count).flatten = lineStart text count := by
  induction text using line_induction generalizing count with
  | last line hline =>
      rw [bareLines_last hline] at h
      rw [lineStart, physicalLines_last hline, bareLines_last hline]
      by_cases hnil : line = []
      · simp [hnil]
      · rw [if_neg hnil] at h ⊢
        -- Either the one line lies behind, or it does not.
        rcases Nat.le_one_iff_eq_zero_or_eq_one.1 h with rfl | rfl
        · simp
        · simp
  | cons line rest hline ih =>
      have hfeed : byteLength ['\n'] = 1 := by decide
      rw [bareLines_line hline] at h
      rw [lineStart, physicalLines_line hline, bareLines_line hline]
      cases count with
      | zero => simp
      | succ count =>
          have hrest := ih (Nat.le_of_succ_le_succ h)
          rw [lineStart] at hrest
          simp only [List.take_succ_cons, List.flatten_cons, List.flatMap_cons, byteLength_append,
            hrest, hfeed, List.length_cons, Nat.succ_lt_succ_iff]
          split
          · rfl
          · have htail : byteLength ('\n' :: rest) = 1 + byteLength rest := rfl
            omega

/-- The next line among physical lines is the first that says something. With
    it as many lines are consumed as end with it, and all if there is none. -/
theorem nextAmong_eq_findIdx? (all : List (List Char)) (consumed : Nat)
    {unread bare : List (List Char)} (h : unread.map significant? = bare.map significant?) :
    ((Source.nextAmong all consumed unread).1, (Source.nextAmong all consumed unread).2.consumed) =
      match bare.findIdx? isSignificant with
      | some i => ((bare[i]?).map fun line => ⟨Text.trim line, consumed + i + 1⟩, consumed + i + 1)
      | none => (none, consumed + bare.length) := by
  induction unread generalizing consumed bare with
  | nil =>
      have hnil : bare = [] := List.map_eq_nil_iff.1 h.symm
      rw [hnil]
      rfl
  | cons physical unread ih =>
      cases bare with
      | nil => exact absurd h (List.cons_ne_nil _ _)
      | cons line bare =>
          rw [List.map_cons, List.map_cons, List.cons.injEq, significant?_eq_ite line] at h
          rw [Source.nextAmong, List.findIdx?_cons, h.1]
          by_cases hsays : isSignificant line = true
          · rw [if_pos hsays, if_pos hsays]
            rfl
          · rw [if_neg hsays, if_neg hsays]
            simp only [ih (consumed + 1) h.2]
            cases bare.findIdx? isSignificant with
            | none => simp only [Option.map_none, List.length_cons, Nat.add_assoc, Nat.add_comm 1]
            | some i =>
                simp only [Option.map_some, List.getElem?_cons_succ, Nat.add_assoc, Nat.add_comm 1]

/-- What stands in front of the first line feed is the line that ends there. -/
theorem takeWhile_ne_lineFeed {line rest : List Char} (hline : '\n' ∉ line)
    (hrest : ∀ c ∈ rest.head?, c = '\n') : (line ++ rest).takeWhile (· ≠ '\n') = line := by
  refine (Lexeme.takeWhile_append_of_stop (fun c hc => ?_) fun c hc => ?_).1
  · simpa using fun hfeed : c = '\n' => hline (hfeed ▸ hc)
  · simpa using hrest c hc

/-- Reading by bytes is reading by lines: from a byte where a line begins the
    same line is read, and the byte that is reached is the one where the lines
    that are then unread begin. -/
theorem ByteCursor.next?_eq_nextAmong (before rest : List Char) (consumed : Nat) :
    ByteCursor.next? ⟨before ++ rest, byteLength before, consumed⟩ =
      let result := Source.nextAmong (physicalLines (before ++ rest)) consumed (physicalLines rest)
      some (result.1, ⟨before ++ rest, result.2.offset, result.2.consumed⟩) := by
  -- With nothing to read both stand at the end of the text.
  have hend : ∀ (text : List Char) (consumed : Nat),
      ByteCursor.next? ⟨text, byteLength text, consumed⟩ =
        let result := Source.nextAmong (physicalLines text) consumed []
        some (result.1, ⟨text, result.2.offset, result.2.consumed⟩) := by
    intro text consumed
    rw [next?_of_end (Nat.le_refl _)]
    simp only [Source.nextAmong, Source.offset, Source.text, Source.rest, flatten_physicalLines,
      List.flatten_nil, byteLength_nil, Nat.sub_zero]
  induction rest using line_induction generalizing before consumed with
  | last line hline =>
      rw [physicalLines_last hline]
      by_cases hnil : line = []
      · rw [hnil, if_pos rfl, List.append_nil]
        exact hend before consumed
      · have hcut := fromByte?_append before line
        have hwhole : line.takeWhile (· ≠ '\n') = line := by
          have htake : (line ++ []).takeWhile (· ≠ '\n') = line :=
            takeWhile_ne_lineFeed hline fun c hc => absurd hc (by simp)
          rwa [List.append_nil] at htake
        rw [next?_of_fromByte? hcut hnil, if_neg hnil, hwhole, behind, firstLineBytes, if_neg hline,
          Source.nextAmong, ← byteLength_append]
        cases significant? line with
        | none => exact hend (before ++ line) (consumed + 1)
        | some said =>
            simp only [Source.offset, Source.text, Source.rest, flatten_physicalLines,
              List.flatten_nil, byteLength_nil, Nat.sub_zero]
  | cons line rest hline ih =>
      have hcut := fromByte?_append before (line ++ '\n' :: rest)
      have hne : line ++ '\n' :: rest ≠ [] :=
        List.append_ne_nil_of_right_ne_nil _ (List.cons_ne_nil _ _)
      have hfirst : (line ++ '\n' :: rest).takeWhile (· ≠ '\n') = line :=
        takeWhile_ne_lineFeed hline fun c hc => (Option.some.inj hc).symm
      have hsplit : before ++ (line ++ '\n' :: rest) = before ++ (line ++ ['\n']) ++ rest := by
        simp only [List.append_assoc, List.cons_append, List.nil_append]
      have hfeed : byteLength (line ++ ['\n']) = byteLength line + 1 := by
        rw [byteLength_append]
        rfl
      have hmem : '\n' ∈ line ++ '\n' :: rest := List.mem_append_right _ List.mem_cons_self
      rw [next?_of_fromByte? hcut hne, hfirst, behind, firstLineBytes, if_pos hmem, hfirst,
        physicalLines_line hline, Source.nextAmong, significant?_append_lineFeed, ← hfeed,
        ← byteLength_append, hsplit]
      cases significant? line with
      | none => exact ih (before ++ (line ++ ['\n'])) (consumed + 1)
      | some said =>
          simp only [Source.offset, Source.text, Source.rest, flatten_physicalLines,
            byteLength_append, Nat.add_sub_cancel]

/-- The lines of a text, how many of them lie behind, and how many lay behind
    at the place that is kept. -/
structure LineCursor where
  lines : List (List Char)
  consumed : Nat
  kept : Nat
  deriving DecidableEq, Repr

namespace LineCursor

/-- What can be asked of a cursor. -/
inductive Request where
  | next
  | last
  | rewind
  | keep
  | restore
  deriving DecidableEq, Repr

/-- The same as asked of a session. -/
def Request.command : Request → Session.Command
  | next => .next
  | last => .last
  | rewind => .rewind
  | keep => .keep
  | restore => .restore

/-- A cursor in front of the first line. -/
def ofText (text : List Char) : LineCursor :=
  { lines := bareLines text, consumed := 0, kept := 0 }

/-- The first line from the cursor on that says something, and how many lines
    lie behind with it. If there is none, all of them do. -/
def next (cursor : LineCursor) : Option Line × Nat :=
  match (cursor.lines.drop cursor.consumed).findIdx? isSignificant with
  | some i =>
      let index := cursor.consumed + i
      ((cursor.lines[index]?).map fun line => ⟨Text.trim line, index + 1⟩, index + 1)
  | none => (none, cursor.lines.length)

/-- One request: what it gives and where it leaves the cursor. -/
def step (cursor : LineCursor) : Request → Session.Answer × LineCursor
  | .next => (.line cursor.next.1, { cursor with consumed := cursor.next.2 })
  | .last => (.number cursor.consumed, cursor)
  | .rewind => (.done, { cursor with consumed := 0 })
  | .keep => (.done, { cursor with kept := cursor.consumed })
  | .restore => (.done, { cursor with consumed := cursor.kept })

/-- Several requests: what each gives, with the number of lines behind after
    it. -/
def run (cursor : LineCursor) : List Request → List (Session.Answer × Nat)
  | [] => []
  | request :: requests =>
      ((cursor.step request).1, (cursor.step request).2.consumed) ::
        (cursor.step request).2.run requests

/-- The cursor of a session in a text. -/
def ofSession (text : List Char) (session : Session) : LineCursor :=
  { lines := bareLines text
    consumed := session.source.consumed
    kept := session.kept.consumed }

/-- A source reads the line that its cursor reads. -/
theorem next_of_isPlaceIn {text : List Char} {source : Source} (h : source.IsPlaceIn text)
    (kept : Nat) :
    next ⟨bareLines text, source.consumed, kept⟩ = (source.next.1, source.next.2.consumed) := by
  have hsays : source.unread.map significant? =
      ((bareLines text).drop source.consumed).map significant? := by
    rw [h.unread_eq, List.map_drop, List.map_drop, map_significant?_physicalLines]
  have hle : source.consumed ≤ (bareLines text).length := length_physicalLines text ▸ h.consumed_le
  rw [Source.next, nextAmong_eq_findIdx? source.all source.consumed hsays, next]
  cases ((bareLines text).drop source.consumed).findIdx? isSignificant with
  | none => simp only [List.length_drop, Nat.add_sub_cancel' hle]
  | some i => simp only [List.getElem?_drop]

/-- A session in a text takes the steps of its cursor. -/
theorem step_of_isWithin {text : List Char} {session : Session} (h : session.IsWithin text)
    (environment : Environment) (request : Request) :
    (ofSession text session).step request =
      ((session.step environment request.command).1,
        ofSession text (session.step environment request.command).2) := by
  cases request with
  | next =>
      have hnext := next_of_isPlaceIn h.source session.kept.consumed
      simp only [step, ofSession, hnext]
      rfl
  | last => rfl
  | rewind => rfl
  | keep => rfl
  | restore => rfl

theorem run_of_isWithin {text : List Char} {session : Session} (h : session.IsWithin text)
    (environment : Environment) (requests : List Request) :
    (ofSession text session).run requests =
      session.run environment (requests.map Request.command) := by
  induction requests generalizing session with
  | nil => rfl
  | cons request requests ih =>
      have hstep := step_of_isWithin h environment request
      have hwithin : (session.step environment request.command).2.IsWithin text :=
        Session.isWithin_step h request.command
      have hrest := ih hwithin
      rw [run, hstep, List.map_cons, Session.run, hrest]
      rfl

end LineCursor

namespace Session

/-- A session is a cursor over the lines of a text: it gives the same answers
    and has consumed as many lines after each of them. Wherever it has come to,
    by reading programs too, it stands at the byte where the next line begins,
    and the text can be cut there. A cursor that is moved by bytes reads from
    there what the session reads and goes where it goes. The number of lines
    consumed says which place it is. -/
theorem refines_lineCursor (environment : Environment) (text : List Char) :
    (∀ requests, (ofText text).run environment (requests.map LineCursor.Request.command) =
      (LineCursor.ofText text).run requests) ∧
    (∀ commands, let source := ((ofText text).after environment commands).source
      source.consumed ≤ (bareLines text).length ∧
      source.offset = lineStart text source.consumed ∧
      source.offset ≤ byteLength text ∧
      (∃ rest, fromByte? source.offset text = some rest) ∧
      ByteCursor.next? ⟨text, source.offset, source.consumed⟩ =
        some (source.next.1, ⟨text, source.next.2.offset, source.next.2.consumed⟩)) ∧
    ∀ first second,
      ((ofText text).after environment first).source.consumed =
        ((ofText text).after environment second).source.consumed →
      ((ofText text).after environment first).source =
        ((ofText text).after environment second).source := by
  refine ⟨fun requests => ?_, fun commands => ?_, fun first second h => ?_⟩
  · exact (LineCursor.run_of_isWithin (isWithin_ofText text) environment requests).symm
  · intro source
    have hplace : source.IsPlaceIn text := isPlaceIn_after environment text commands
    have hle : source.consumed ≤ (bareLines text).length :=
      length_physicalLines text ▸ hplace.consumed_le
    have hcut := hplace.fromByte?_offset
    refine ⟨hle, ?_, ?_, ⟨_, hcut⟩, ?_⟩
    · rw [hplace.offset_eq, byteLength_take_physicalLines text hle]
    · have hsum := byteLength_of_fromByte? hcut
      omega
    · have hnext := ByteCursor.next?_eq_nextAmong
        ((physicalLines text).take source.consumed).flatten source.rest source.consumed
      rwa [hplace.take_append_rest, ← hplace.offset_eq, hplace.physicalLines_rest,
        ← hplace.all_eq] at hnext
  · exact (isPlaceIn_after environment text first).eq_of_consumed
      (isPlaceIn_after environment text second) h

/-- A place behind a character of two bytes, reached at once and by going back
    to it from the end of the text. -/
theorem refines_lineCursor_restored :
    ((ofText "é\n# b\r\n\n c".toList).after ⟨none, fun _ => .error .notFound⟩
        [.next, .keep, .next, .next, .restore]).source.consumed = 1 ∧
      ((ofText "é\n# b\r\n\n c".toList).after ⟨none, fun _ => .error .notFound⟩
          [.next, .keep, .next, .next, .restore]).source =
        ((ofText "é\n# b\r\n\n c".toList).after ⟨none, fun _ => .error .notFound⟩
          [.next]).source :=
  ⟨rfl, (refines_lineCursor _ _).2.2 _ _ rfl⟩

end Session

end SensorConfig
