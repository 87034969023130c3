import LiquidTokens.Proofs.Template.Calls
import LiquidTokens.Proofs.Template.Clean

/-!
Regions without an end.

An error is raised at plain text that begins with an opening delimiter once it has been trimmed. It
is no false alarm: what is trimmed off cannot bring a delimiter to the front, since plain text ends
before any delimiter but the one it begins with, so the delimiter stands in the source where the
plain text begins; and the rule of its region failed there, so the closing delimiter does not come
later (`Alarm`).

Main statement: `unterminated_region`.
-/

namespace LiquidTokens.Template

open Text (byteLength isBlank trimStart trimEnd)

/-! ### Opening delimiters that are not closed -/

/-- A text that begins with an opening delimiter, and the closing one, which does not occur after
it. Which delimiter it is shows in the part `reported` with which the text begins; that of a
statement comes before that of a tag. -/
inductive Unclosed (delimiters : Delimiters) (reported text : List Char) :
    (expected : String) → Prop where
  | statement {rest : List Char} (opens : delimiters.statementStart.toList <+: reported)
      (begins : text = delimiters.statementStart.toList ++ rest)
      (missing : ¬ delimiters.statementEnd.toList <:+: rest) :
      Unclosed delimiters reported text delimiters.statementEnd
  | tag {rest : List Char} (noStatement : ¬ delimiters.statementStart.toList <+: reported)
      (opens : delimiters.tagStart.toList <+: reported)
      (begins : text = delimiters.tagStart.toList ++ rest)
      (missing : ¬ delimiters.tagEnd.toList <:+: rest) :
      Unclosed delimiters reported text delimiters.tagEnd

/-- What is reported of plain text: all of it, but for the blanks at its end if the opening
delimiter that follows has a trim marker. -/
def reportedOf (delimiters : Delimiters) (piece left : List Char) : List Char :=
  trimmed false (strips delimiters.tagStart.toList delimiters.statementStart.toList left) piece

/-- An error about the plain text `piece`, which comes after `read` and before `left`. -/
structure Alarm (delimiters : Delimiters) (error : LexError) (read piece left : List Char) :
    Prop where
  span : error.span = ⟨byteLength read, byteLength read + byteLength piece⟩
  unclosed : ∃ expected, error.cause = .unterminatedRegion expected
    ∧ Unclosed delimiters (reportedOf delimiters piece left) (piece ++ left) expected
  /-- Blanks at the end make a difference only for a delimiter that ends in a blank itself. -/
  whole : delimiters.statementStart.toList <+: piece →
    delimiters.statementStart.toList <+: reportedOf delimiters piece left
      ∨ ∃ c ∈ delimiters.statementStart.toList.getLast?, isBlank c = true

section Trimming

variable {start tagStart statementStart text literal left : List Char} {atStart atEnd : Bool}

/-- Trimming at the end leaves a beginning and takes off blanks. -/
theorem exists_trimmed (atEnd : Bool) (literal : List Char) : ∃ blanks,
    literal = trimmed false atEnd literal ++ blanks ∧ ∀ c ∈ blanks, isBlank c = true := by
  cases atEnd with
  | false => exact ⟨[], (List.append_nil literal).symm, nofun⟩
  | true =>
      have kept : trimmed false true literal = literal.rdropWhile isBlank := rfl
      rw [kept]
      exact ⟨literal.rtakeWhile isBlank, List.rdropWhile_append_rtakeWhile.symm,
        fun c => List.mem_rtakeWhile_imp⟩

/-- Plain text that begins with an opening delimiter once it is trimmed loses nothing at its
start. -/
theorem LiteralCut.trimmed_eq (cut : LiteralCut tagStart statementStart text literal left)
    (opens : start = tagStart ∨ start = statementStart) (nonempty : start ≠ [])
    (stands : start <+: trimmed atStart atEnd literal) :
    trimmed atStart atEnd literal = trimmed false atEnd literal := by
  cases atStart with
  | false => rfl
  | true =>
      obtain ⟨blanks, kept, -⟩ := exists_trimmed atEnd (trimStart literal)
      have begins : start <+: trimStart literal := by
        rw [kept]
        exact stands.trans (List.prefix_append _ blanks)
      obtain ⟨back, rest⟩ := begins
      have split : literal = literal.takeWhile isBlank ++ (start ++ back) := by
        rw [rest]
        exact List.takeWhile_append_dropWhile.symm
      have same : trimStart literal = literal := by
        conv_rhs => rw [split, cut.front_eq_nil opens nonempty split, List.nil_append, rest]
      simp only [trimmed, same, ite_self]

/-- A delimiter that stands in plain text but not once the blanks at the end are gone ends in a
blank. -/
theorem prefix_trimmed_or_blank (stands : start <+: literal) :
    start <+: trimmed false atEnd literal ∨ ∃ c ∈ start.getLast?, isBlank c = true := by
  obtain ⟨blanks, kept, blank⟩ := exists_trimmed atEnd literal
  rw [kept] at stands
  rcases List.prefix_or_prefix_of_prefix stands (List.prefix_append _ blanks) with
    within | ⟨more, rfl⟩
  · exact .inl within
  · rcases List.eq_nil_or_concat more with rfl | ⟨front, c, rfl⟩
    · exact .inl (by simp)
    · have member : c ∈ blanks :=
        ((List.prefix_append_right_inj _).1 stands).subset (by simp)
      exact .inr ⟨c, by simp, blank c member⟩

end Trimming

namespace Stream

variable {delimiters : Delimiters} {stream after : Stream} {read text piece inner left : List Char}
  {region : Region} {visits : List Visit} {error : LexError}

theorem At.expected?_cases (here : At delimiters stream read text) {value : List Char}
    {expected : String} (found : stream.expected? value = some expected) :
    delimiters.statementStart.toList <+: value ∧ expected = delimiters.statementEnd
      ∨ ¬ delimiters.statementStart.toList <+: value ∧ delimiters.tagStart.toList <+: value
        ∧ expected = delimiters.tagEnd := by
  rw [expected?, here.regions] at found
  simp only [regionTable, List.isPrefixOf_iff_prefix] at found
  split at found
  · next statement => exact .inl ⟨statement, (Option.some.inj found).symm⟩
  · next noStatement =>
      split at found
      · next tag => exact .inr ⟨noStatement, tag, (Option.some.inj found).symm⟩
      · cases found

/-- Where a region failed to begin, what follows its opening delimiter does not hold the closing
one. -/
theorem exists_missing {start stop reported : List Char} (noRegion : ¬ Opens start stop text)
    (opens : start <+: reported) (begins : reported <+: text) :
    ∃ rest, text = start ++ rest ∧ ¬ stop <:+: rest := by
  obtain ⟨rest, split⟩ := opens.trans begins
  exact ⟨rest, split.symm, fun within => noRegion ⟨rest, split.symm, within⟩⟩

/-- The error that a stream raises at a region. -/
theorem Ready.alarm (ready : Ready delimiters stream read text)
    (next : NextRegion delimiters text region piece inner left)
    (failed : stepOver delimiters stream region piece inner left = .yield (.error error) after) :
    Alarm delimiters error read piece left := by
  obtain ⟨rfl, -, span⟩ := literal_of_error failed next
  rw [ready.offset] at span
  cases next with
  | literal noRaw noStatement noTag cut =>
      simp only [stepOver, stepOverLiteral] at failed
      split at failed
      · cases failed
      · split at failed
        · next expected found =>
            cases failed
            refine ⟨span, ⟨expected, rfl, ?_⟩, prefix_trimmed_or_blank⟩
            have begins : reportedOf delimiters piece left <+: piece ++ left := by
              obtain ⟨blanks, kept, -⟩ := exists_trimmed
                (strips delimiters.tagStart.toList delimiters.statementStart.toList left) piece
              conv_rhs => rw [kept, List.append_assoc]
              exact List.prefix_append _ _
            rw [cut.split] at noStatement noTag
            rcases ready.toAt.expected?_cases found with
              ⟨statement, rfl⟩ | ⟨other, tag, rfl⟩
            · have same := cut.trimmed_eq (.inr rfl) (statementStart_ne ready.valid) statement
              rw [same] at statement
              obtain ⟨rest, split, missing⟩ := exists_missing noStatement statement begins
              exact .statement statement split missing
            · have same := cut.trimmed_eq (.inl rfl) (tagStart_ne ready.valid) tag
              rw [same] at other tag
              obtain ⟨rest, split, missing⟩ := exists_missing noTag tag begins
              exact .tag other tag split missing
        · cases failed

/-! ### After an error -/

theorem finished_of_step (failed : stream.step = .yield (.error error) after) :
    after.finished = true := by
  rw [step] at failed
  split at failed
  · cases failed
  · next hit found =>
      cases ruled : hit.rule with
      | raw =>
          simp only [ruled, stepRaw] at failed
          split at failed <;> cases failed
      | statement =>
          simp only [ruled] at failed
          cases failed
      | tag =>
          simp only [ruled] at failed
          cases failed
      | literal =>
          simp only [ruled, stepLiteral] at failed
          split at failed
          · cases failed
          · generalize (if marked hit "rstrip" = true then _ else _ : List Char) = value at failed
            split at failed
            · cases failed
            · split at failed
              · cases failed
                rfl
              · cases failed

theorem finished_of_advance {bound : List Char}
    (failed : (stream.advance bound).1 = some (.error error)) :
    (stream.advance bound).2.finished = true := by
  induction bound generalizing stream with
  | nil =>
      rw [advance.eq_def] at failed ⊢
      cases taken : stream.step with
      | yield item after =>
          rw [taken] at failed
          cases failed
          exact finished_of_step taken
      | pass after => simp [taken] at failed
      | stop after => simp [taken] at failed
  | cons c bound ih =>
      rw [advance.eq_def] at failed ⊢
      cases taken : stream.step with
      | yield item after =>
          rw [taken] at failed
          cases failed
          exact finished_of_step taken
      | pass after =>
          rw [taken] at failed
          exact ih failed
      | stop after => simp [taken] at failed

/-- A stream that has given an error is finished, and no expression waits. -/
theorem At.ended_of_error (here : At delimiters stream read text)
    (failed : stream.next.1 = some (.error error)) :
    stream.next.2.finished = true ∧ stream.next.2.pending = none := by
  cases waits : stream.pending with
  | some token =>
      rw [next_of_pending waits] at failed
      cases failed
  | none =>
      obtain ⟨passed, piece, left, -, tells, -⟩ := here.told waits
      rw [failed] at tells
      constructor
      · rw [next, waits] at failed ⊢
        dsimp only at failed ⊢
        split at failed
        · cases failed
        · next running =>
            rw [if_neg running]
            exact finished_of_advance failed
      · generalize waiting : stream.next.2.pending.toList = tokens at tells
        generalize stream.next.2.bodyLine = bodyLine at tells
        cases tells
        exact Option.toList_eq_nil_iff.1 waiting

theorem asked_of_finished (ended : stream.finished = true) (nothing : stream.pending = none)
    (count : Nat) : stream.asked count = stream := by
  induction count with
  | zero => rfl
  | succ count ih => rw [asked_succ, ih, next_of_finished nothing ended]

/-- A run that ends in an error: the calls before give its tokens one by one, and then comes the
error. -/
theorem answers_of_take {count : Nat} {tokens : List Token}
    (taken : stream.take count = ⟨tokens, some error⟩) :
    (stream.answers tokens.length).map Prod.fst = tokens.map (fun token => some (.ok token))
      ∧ (stream.asked tokens.length).next.1 = some (.error error) := by
  induction count generalizing stream tokens with
  | zero => cases taken
  | succ count ih =>
      rw [take] at taken
      rcases given : stream.next with ⟨_ | failure | token, after⟩
      · rw [given] at taken
        cases taken
      · rw [given] at taken
        cases taken
        exact ⟨rfl, by rw [List.length_nil, asked, given]⟩
      · rw [given] at taken
        have same : (take count after).cons token = ⟨tokens, some error⟩ := taken
        generalize rest : take count after = run at same
        obtain ⟨others, failure⟩ := run
        cases same
        obtain ⟨answered, failed⟩ := ih rest
        simp only [List.length_cons, answers, asked, given, List.map_cons, answered]
        exact ⟨trivial, failed⟩

/-! ### The regions before an error -/

theorem tiles_of_visits {failure : Option LexError}
    (visited : Visits delimiters stream visits failure) {read text : List Char}
    (ready : Ready delimiters stream read text) :
    ∃ last, Tiles delimiters text (visits.map fun visit => (visit.region, visit.piece)) last := by
  induction visited generalizing read text with
  | ended => exact ⟨text, .done text⟩
  | failed => exact ⟨text, .done text⟩
  | visit next kind step entry later ih =>
      rw [ready.rest_eq] at next
      obtain ⟨last, others⟩ := ih (ready.past_region next (step ▸ entry))
      exact ⟨last, .region (next.begins ready.valid) others⟩

/-- Where the run of a stream ends in an error, the regions that it visited come before the plain
text that the error is about. -/
theorem alarm_of_visits (visited : Visits delimiters stream visits (some error))
    (ready : Ready delimiters stream read text) :
    ∃ piece left, text = covered (visits.map Visit.passage) ++ (piece ++ left)
      ∧ Alarm delimiters error (read ++ covered (visits.map Visit.passage)) piece left
      ∧ Tiles delimiters text (visits.map fun visit => (visit.region, visit.piece))
          (piece ++ left) := by
  obtain ⟨middle, rest, others, split, there, -, later, none⟩ :=
    ready_after visited ready (List.append_nil _).symm
  obtain rfl := List.map_eq_nil_iff.1 none
  obtain ⟨last, tiles⟩ := tiles_of_visits visited ready
  have covers : spanned (visits.map fun visit => (visit.region, visit.piece))
      = covered (visits.map Visit.passage) := by
    simp [spanned, covered, List.flatMap_map, Visit.passage]
  obtain rfl : last = rest := by
    have same := tiles.split.symm.trans split
    rw [covers] at same
    exact List.append_cancel_left same
  cases later with
  | failed step =>
      have nonempty : last ≠ [] := by
        rintro rfl
        cases there.step_of_end.symm.trans step
      obtain ⟨region, piece, inner, left, next, -, taken⟩ := step_eq_stepOver there.toAt nonempty
      obtain rfl := next.split
      exact ⟨piece, left, split, there.alarm next (taken.symm.trans step), tiles⟩

end Stream

/-- An error that ends a run is no false alarm. At the start of its span an opening delimiter
stands, that of a statement or else that of a tag, and the closing delimiter that the error names
does not occur after it, anywhere in the source. The tokens before the error are those of the
regions up to there, one for each call, and after the error every call gives nothing. -/
theorem unterminated_region {delimiters : Delimiters} (valid : delimiters.validate = .ok ()) :
    ∃ regions, RegionTable.compile delimiters = .ok regions ∧ ∀ source error,
      (regions.tokenize source).error = some error →
        ∃ read piece left, source.toList = read ++ (piece ++ left)
          ∧ Alarm delimiters error read piece left
          ∧ Tiles delimiters source.toList
              ((regions.passages source).map fun passage => (passage.region, passage.piece))
              (piece ++ left)
          ∧ (regions.tokenize source).tokens = (regions.passages source).flatMap Passage.tokens
          ∧ ∃ count,
            ((Stream.start regions source).answers count).map Prod.fst
                = (regions.tokenize source).tokens.map (fun token => some (.ok token))
              ∧ ((Stream.start regions source).asked count).next.1 = some (.error error)
              ∧ ∀ more, (((Stream.start regions source).asked (count + 1)).asked more).next
                  = (none, (Stream.start regions source).asked (count + 1)) := by
  refine ⟨regionTable delimiters, compile_eq_ok valid, ?_⟩
  intro source error failed
  have ready := Stream.ready_start valid source
  obtain ⟨visits, failure, visited⟩ := Stream.exists_visits ready
  have run : (regionTable delimiters).tokenize source = ⟨visits.flatMap Visit.tokens, failure⟩ :=
    Stream.run_of_visits visited ready
  have passages : (regionTable delimiters).passages source = visits.map Visit.passage :=
    Stream.passages_of_visits visited ready String.length_toList.le
  obtain rfl : failure = some error := by
    rw [run] at failed
    exact failed
  obtain ⟨piece, left, split, alarm, tiles⟩ := Stream.alarm_of_visits visited ready
  obtain ⟨answered, last⟩ := Stream.answers_of_take run
  obtain ⟨before, behind, there⟩ :=
    Stream.exists_at valid source (visits.flatMap Visit.tokens).length
  obtain ⟨ended, nothing⟩ := there.ended_of_error last
  rw [← Stream.asked_succ] at ended nothing
  rw [run, passages]
  refine ⟨_, piece, left, split, alarm, ?_, ?_, _, answered, last, fun more => ?_⟩
  · rw [List.map_map]
    exact tiles
  · rw [List.flatMap_map]
    rfl
  · rw [Stream.asked_of_finished ended nothing, Stream.next_of_finished nothing ended]

/-- A statement without an end behind blanks that the marker of a tag trims off. -/
theorem unterminated_region_after_marker :
    Delimiters.validate ⟨"<%", "%>", "<%= ", "=%>"⟩ = .ok ()
      ∧ ∃ regions, RegionTable.compile ⟨"<%", "%>", "<%= ", "=%>"⟩ = .ok regions
        ∧ regions.tokenize "<% a -%> <%= b"
            = ⟨[⟨1, .tag, "a"⟩], some ⟨.unterminatedRegion "=%>", 1, ⟨9, 14⟩⟩⟩
        ∧ ∃ read piece left, "<% a -%> <%= b".toList = read ++ (piece ++ left)
          ∧ Alarm ⟨"<%", "%>", "<%= ", "=%>"⟩ ⟨.unterminatedRegion "=%>", 1, ⟨9, 14⟩⟩ read piece
              left := by
  have valid : Delimiters.validate ⟨"<%", "%>", "<%= ", "=%>"⟩ = .ok () := by decide
  refine ⟨valid, ?_⟩
  obtain ⟨regions, compiled, alarms⟩ := unterminated_region valid
  obtain rfl : regionTable ⟨"<%", "%>", "<%= ", "=%>"⟩ = regions :=
    Except.ok.inj ((compile_eq_ok valid).symm.trans compiled)
  have run : (regionTable ⟨"<%", "%>", "<%= ", "=%>"⟩).tokenize "<% a -%> <%= b"
      = ⟨[⟨1, .tag, "a"⟩], some ⟨.unterminatedRegion "=%>", 1, ⟨9, 14⟩⟩⟩ := by decide +kernel
  obtain ⟨read, piece, left, split, alarm, -⟩ :=
    alarms "<% a -%> <%= b" _ (congrArg Run.error run)
  exact ⟨_, compiled, run, read, piece, left, split, alarm⟩

end LiquidTokens.Template
