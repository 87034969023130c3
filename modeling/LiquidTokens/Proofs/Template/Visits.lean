import LiquidTokens.Proofs.Template.Steps

/-!
The regions that a stream visits, from one of its positions to the end of its run.

A stream gives its tokens one at a time, passes over regions that give none and keeps the
expression of a tag for later. What it gives in all is easier to say region by region: `Visits`
lists the regions in order, each with its tokens, and `log_of_visits` says that the tokens of a
run are those of its visits. How many items are asked for does not matter as long as there are
enough of them.

Main statements: `exists_visits` (there is a list of visits for every source) and
`run_of_visits` (a run gives the tokens of its visits and ends with their error).
-/

namespace LiquidTokens.Template

open Text (byteLength lineBreaks)

/-- A region that a stream steps over: its kind, the part of the source that it covers, what it
holds, the tokens that it gives and the line on which its body starts. -/
structure Visit where
  region : Region
  piece : List Char
  inner : List Char
  tokens : List Token
  bodyLine : Nat

/-- The tokens of a step that does not end the run, an expression that waits included, and the
stream after all of them. -/
def Step.entry : Step → Option (List Token × Stream)
  | .yield (.ok token) after =>
      some (token :: after.pending.toList, { after with pending := none })
  | .yield (.error _) _ => none
  | .pass after => some ([], after)
  | .stop _ => none

/-- The stream that a step leads to. -/
def Step.reached : Step → Stream
  | .yield _ after => after
  | .pass after => after
  | .stop after => after

/-- The token of a text that may be empty. -/
def tokenUnlessEmpty (line : Nat) (kind : Kind) (text : List Char) : List Token :=
  if text.isEmpty then [] else [⟨line, kind, String.ofList text⟩]

namespace Stream

variable {delimiters : Delimiters} {stream after : Stream} {read text piece inner left : List Char}
  {region : Region} {tokens : List Token} {visits : List Visit} {error : Option LexError}

/-- The regions from the position of a stream on, and the error that ends the run. -/
inductive Visits (delimiters : Delimiters) : Stream → List Visit → Option LexError → Prop where
  | ended {stream after : Stream} (step : stream.step = .stop after) :
      Visits delimiters stream [] none
  | failed {stream after : Stream} {error : LexError}
      (step : stream.step = .yield (.error error) after) :
      Visits delimiters stream [] (some error)
  | visit {stream after : Stream} {region : Region} {piece inner left : List Char}
      {tokens : List Token} {visits : List Visit} {error : Option LexError}
      (next : NextRegion delimiters stream.rest region piece inner left)
      (kind : stream.region? = some region)
      (step : stream.step = stepOver delimiters stream region piece inner left)
      (entry : stream.step.entry = some (tokens, after))
      (later : Visits delimiters after visits error) :
      Visits delimiters stream (⟨region, piece, inner, tokens, after.bodyLine⟩ :: visits) error

/-- A stream between two regions, with nothing left to give from those before. -/
structure Ready (delimiters : Delimiters) (stream : Stream) (read text : List Char) : Prop
    extends At delimiters stream read text where
  nothing : stream.pending = none
  running : stream.finished = false

theorem ready_start (valid : delimiters.validate = .ok ()) (source : String) :
    Ready delimiters (start (regionTable delimiters) source) [] source.toList :=
  ⟨at_start valid source, rfl, rfl⟩

/-- The stream with other marks for what comes next stands at the same place. -/
theorem At.with_marks (here : At delimiters stream read text) (trimNext : Bool) (bodyLine : Nat)
    (pending : Option Token) :
    At delimiters { stream with trimNext, bodyLine, pending } read text :=
  ⟨here.valid, here.regions, here.source, here.offset, here.line⟩

/-- After a region a stream is ready for the next one. -/
theorem Ready.past_region (ready : Ready delimiters stream read text)
    (next : NextRegion delimiters text region piece inner left)
    (entry : (stepOver delimiters stream region piece inner left).entry = some (tokens, after)) :
    Ready delimiters after (read ++ piece) left := by
  obtain rfl := next.split
  have moved := ready.toAt.past
  cases next with
  | raw =>
      rw [stepOver] at entry
      split at entry
      · obtain ⟨-, rfl⟩ := entry
        exact ⟨moved, ready.nothing, ready.running⟩
      · obtain ⟨-, rfl⟩ := entry
        exact ⟨moved.with_marks _ _ _, rfl, ready.running⟩
  | statement =>
      obtain ⟨-, rfl⟩ := entry
      exact ⟨moved.with_marks _ _ _, rfl, ready.running⟩
  | tag =>
      obtain ⟨-, rfl⟩ := entry
      exact ⟨moved.with_marks _ _ _, rfl, ready.running⟩
  | literal =>
      simp only [stepOver, stepOverLiteral] at entry
      split at entry
      · obtain ⟨-, rfl⟩ := entry
        exact ⟨moved.with_marks _ _ _, ready.nothing, ready.running⟩
      · split at entry
        · cases entry
        · obtain ⟨-, rfl⟩ := entry
          exact ⟨moved.with_marks _ _ _, rfl, ready.running⟩

/-- A stream with text left either ends with an error or visits a region. -/
theorem error_or_entry (delimiters : Delimiters) (stream : Stream) (region : Region)
    (piece inner left : List Char) :
    (∃ error after,
        stepOver delimiters stream region piece inner left = .yield (.error error) after)
      ∨ ∃ tokens after,
          (stepOver delimiters stream region piece inner left).entry = some (tokens, after) := by
  cases region with
  | raw =>
      rw [stepOver]
      split
      · exact .inr ⟨_, _, rfl⟩
      · exact .inr ⟨_, _, rfl⟩
  | statement => exact .inr ⟨_, _, rfl⟩
  | tag => exact .inr ⟨_, _, rfl⟩
  | literal =>
      simp only [stepOver, stepOverLiteral]
      split
      · exact .inr ⟨_, _, rfl⟩
      · split
        · exact .inl ⟨_, _, rfl⟩
        · exact .inr ⟨_, _, rfl⟩

/-- Every stream that is ready has a list of visits. -/
theorem exists_visits {stream : Stream} {read text : List Char}
    (ready : Ready delimiters stream read text) :
    ∃ visits error, Visits delimiters stream visits error := by
  by_cases ended : text = []
  · subst ended
    exact ⟨[], none, .ended ready.step_of_end⟩
  · obtain ⟨region, piece, inner, left, next, kind, step⟩ := step_eq_stepOver ready.toAt ended
    rcases error_or_entry delimiters stream region piece inner left with
      ⟨error, after, failed⟩ | ⟨tokens, after, entry⟩
    · exact ⟨[], some error, .failed (step.trans failed)⟩
    · have shorter := next.length_left_lt ready.valid
      obtain ⟨visits, error, later⟩ := exists_visits (ready.past_region next entry)
      rw [← step] at entry
      exact ⟨_, error, .visit (ready.rest_eq.symm ▸ next) kind step entry later⟩
termination_by text.length

/-! ### The source -/

/-- A step does not change the source. -/
theorem source_step (stream : Stream) : stream.step.reached.source = stream.source := by
  rw [step]
  split
  · rfl
  · next hit found =>
      cases hit.rule with
      | raw =>
          simp only [stepRaw]
          split <;> rfl
      | statement => rfl
      | tag => rfl
      | literal =>
          simp only [stepLiteral]
          split
          · rfl
          · generalize (if marked hit "rstrip" = true then _ else _ : List Char) = text
            split
            · rfl
            · split <;> rfl

theorem source_advance (stream : Stream) (bound : List Char) :
    (stream.advance bound).2.source = stream.source := by
  induction bound generalizing stream with
  | nil =>
      have same := stream.source_step
      rw [advance.eq_def]
      cases taken : stream.step <;> rw [taken] at same <;> exact same
  | cons c bound ih =>
      have same := stream.source_step
      rw [advance.eq_def]
      cases taken : stream.step with
      | yield item after =>
          rw [taken] at same
          exact same
      | stop after =>
          rw [taken] at same
          exact same
      | pass after =>
          rw [taken] at same
          exact (ih after).trans same

theorem source_next (stream : Stream) : stream.next.2.source = stream.source := by
  rw [next]
  split
  · rfl
  · split
    · rfl
    · exact stream.source_advance stream.rest

/-! ### Runs -/

/-- The tokens that a stream gives when it is asked at most `count` times, each with the line on
which the latest body starts, and the error that comes after them. -/
def log : Nat → Stream → List (Token × Nat) × Option LexError
  | 0, _ => ([], none)
  | count + 1, stream =>
      match stream.next with
      | (some (.ok token), after) =>
          ((token, after.bodyLine) :: (log count after).1, (log count after).2)
      | (some (.error error), _) => ([], some error)
      | (none, _) => ([], none)

/-- The items of a stream are the tokens of its log and its error. -/
theorem take_eq_log (count : Nat) (stream : Stream) :
    take count stream = ⟨(log count stream).1.map Prod.fst, (log count stream).2⟩ := by
  induction count generalizing stream with
  | zero => rfl
  | succ count ih =>
      rw [take, log]
      rcases stream.next with ⟨_ | error | token, after⟩
      · rfl
      · rfl
      · simp [ih, Run.cons]

/-- The tokens of some visits, each with the line on which the body of its region starts. -/
def logOf (visits : List Visit) : List (Token × Nat) :=
  visits.flatMap fun visit => visit.tokens.map (·, visit.bodyLine)

/-- What a log adds to the item that is given first. -/
def logFrom (count : Nat) : Option (Except LexError Token) × Stream →
    List (Token × Nat) × Option LexError
  | (some (.ok token), after) =>
      ((token, after.bodyLine) :: (log count after).1, (log count after).2)
  | (some (.error error), _) => ([], some error)
  | (none, _) => ([], none)

theorem log_succ (count : Nat) (stream : Stream) : log (count + 1) stream
    = logFrom count stream.next := by
  rw [log]
  rcases stream.next with ⟨_ | error | token, after⟩ <;> rfl

/-- A stream that is ready advances to its next item. -/
theorem Ready.next_eq (ready : Ready delimiters stream read text) :
    stream.next = stream.advance text := by
  rw [next, ready.nothing, ready.running, ready.rest_eq]
  rfl

/-- A step that visits a region passes over it or gives its first token. -/
theorem Step.cases_of_entry {step : Step} {after : Stream} {tokens : List Token}
    (entry : step.entry = some (tokens, after)) :
    (step = .pass after ∧ tokens = [])
      ∨ ∃ token reached, step = .yield (.ok token) reached
          ∧ tokens = token :: reached.pending.toList ∧ after = { reached with pending := none } := by
  cases step with
  | stop => cases entry
  | pass reached =>
      cases entry
      exact .inl ⟨rfl, rfl⟩
  | yield item reached =>
      cases item with
      | error => cases entry
      | ok token =>
          cases entry
          exact .inr ⟨token, reached, rfl, rfl, rfl⟩

/-- Where a region is passed over, the stream goes on with a smaller bound. -/
theorem advance_of_entry {stream after : Stream} {tokens : List Token} (bound : List Char)
    (entry : stream.step.entry = some (tokens, after)) (room : 0 < bound.length) :
    (tokens = [] ∧ ∃ less, bound.length = less.length + 1
        ∧ stream.advance bound = after.advance less)
      ∨ ∃ token reached, tokens = token :: reached.pending.toList
          ∧ after = { reached with pending := none }
          ∧ stream.advance bound = (some (.ok token), reached) := by
  obtain ⟨c, less, rfl⟩ := List.exists_cons_of_length_pos room
  rw [advance.eq_def]
  rcases Step.cases_of_entry entry with ⟨passed, rfl⟩ | ⟨token, reached, given, rfl, rfl⟩
  · rw [passed]
    exact .inl ⟨rfl, less, rfl, rfl⟩
  · rw [given]
    exact .inr ⟨token, reached, rfl, rfl, rfl⟩

/-- The items given from a position on are the tokens of the visits from there on, whatever the
bounds on the regions passed over and on the items asked for, if they are large enough. -/
theorem logFrom_advance (visited : Visits delimiters stream visits error) {read text : List Char}
    (ready : Ready delimiters stream read text) {bound : List Char}
    (regions : text.length ≤ bound.length) {count : Nat} (items : 2 * text.length ≤ count) :
    logFrom count (stream.advance bound) = (logOf visits, error) := by
  induction visited generalizing read text bound count with
  | ended step =>
      rw [advance.eq_def, step]
      rfl
  | failed step =>
      rw [advance.eq_def, step]
      rfl
  | @visit stream after region piece inner left tokens visits error next kind step entry later ih =>
      rw [ready.rest_eq] at next
      have following := ready.past_region next (step ▸ entry)
      have shorter := next.length_left_lt ready.valid
      -- A region has a character at least and gives two items at most, so both bounds outlast it.
      rcases advance_of_entry bound entry (by omega) with
        ⟨rfl, less, smaller, same⟩ | ⟨token, reached, rfl, rfl, same⟩
      · rw [same]
        exact ih following (by omega) (by omega)
      · have rest (count : Nat) (items : 2 * left.length + 1 ≤ count) :
            log count { reached with pending := none } = (logOf visits, error) := by
          obtain ⟨count, rfl⟩ : ∃ less, count = less + 1 := ⟨count - 1, by omega⟩
          rw [log_succ, following.next_eq]
          exact ih following le_rfl (by omega)
        rw [same]
        cases waits : reached.pending with
        | none =>
            have same : { reached with pending := none } = reached := by rw [← waits]
            have later := rest count (by omega)
            rw [same] at later
            simp [logFrom, logOf, later]
        | some expression =>
            obtain ⟨count, rfl⟩ : ∃ less, count = less + 1 := ⟨count - 1, by omega⟩
            have later := rest count (by omega)
            simp [logFrom, logOf, log_succ, next_of_pending waits, later]

/-- The log of a stream that is asked often enough holds the tokens of its visits. -/
theorem log_of_visits (visited : Visits delimiters stream visits error)
    (ready : Ready delimiters stream read text) {count : Nat} (items : 2 * text.length < count) :
    log count stream = (logOf visits, error) := by
  obtain ⟨count, rfl⟩ : ∃ less, count = less + 1 := ⟨count - 1, by omega⟩
  rw [log_succ, ready.next_eq]
  exact logFrom_advance visited ready le_rfl (by omega)

/-- A run gives the tokens of the regions visited and ends with their error. -/
theorem run_of_visits (visited : Visits delimiters stream visits error)
    (ready : Ready delimiters stream read text) :
    stream.run = ⟨visits.flatMap Visit.tokens, error⟩ := by
  rw [run, take_eq_log, log_of_visits visited ready (by rw [ready.rest_eq]; omega)]
  simp [logOf, List.map_flatMap, Function.comp_def]

end Stream

end LiquidTokens.Template
