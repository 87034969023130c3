import LiquidTokens.Proofs.Expression.Lexemes

/-!
Asking a stream of an expression for its tokens, whatever the rules of its grammar are.

A match covers at least one character, but the text need not go on behind it: the rule of open
floats resumes at the end of one of its groups (`HitCut`). A step is described once (`Outcome`), by
what is found at the position of the stream. A call takes steps until one of them yields a token or
an error or comes to the end (`Call`); the bound that `Stream.next` sets on these steps is never
reached, because a step that yields nothing reads a character.

So between two calls a stream always stands on a character boundary and has counted the lines up to
there (`Stands`), and what it yields is on the line where it was found.

Main statements: `call_iff` (a call is what the steps without a bound come to) and
`lines_of_calls`.
-/

namespace LiquidTokens

open Text (Span byteLength dropBytes? lineBreaks slice? slice)

/-! ### Hits -/

namespace RuleTable

variable {R : Type} {table : RuleTable R} {read rest : List Char} {hit : Hit R}

/-- A hit covers the beginning of the text that is left. -/
theorem matched_of_hitAt? (found : table.hitAt? (read ++ rest) (byteLength read) = some hit) :
    ∃ matched left, rest = matched ++ left ∧ matched ≠ []
      ∧ hit.whole = ⟨⟨byteLength read, byteLength read + byteLength matched⟩, matched⟩ := by
  rw [hitAt?_eq_shift, Text.dropBytes?_append, Option.bind_some] at found
  obtain ⟨own, here, rfl⟩ := Option.map_eq_some_iff.1 found
  obtain ⟨begins, longer⟩ := span_of_hitAt? here
  obtain ⟨front, left, split, covers⟩ := Text.slice?_eq_some_iff.1 (Hit.fits_of_hitAt? here).whole
  rw [covers] at begins
  obtain rfl : front = [] := Text.byteLength_eq_zero.1 begins
  rw [Hit.stop, covers] at longer
  refine ⟨own.whole.text, left, split, ?_, ?_⟩
  · intro nothing
    simp [nothing] at longer
  · simp [Hit.shift, Found.shift, covers, Span.shift]

/-- A group of a hit covers a part of the text that is left. -/
theorem part_of_hitAt? (found : table.hitAt? (read ++ rest) (byteLength read) = some hit)
    {name : String} {part : Found} (grouped : hit.group? name = some part) :
    ∃ lead left, rest = lead ++ part.text ++ left
      ∧ part.span = ⟨byteLength read + byteLength lead,
          byteLength read + byteLength lead + byteLength part.text⟩ := by
  rw [hitAt?_eq_shift, Text.dropBytes?_append, Option.bind_some] at found
  obtain ⟨own, here, rfl⟩ := Option.map_eq_some_iff.1 found
  obtain ⟨entry, looked, rfl⟩ := Option.map_eq_some_iff.1 grouped
  obtain ⟨inner, member, rfl⟩ := List.mem_map.1 (List.mem_of_find?_eq_some looked)
  obtain ⟨lead, left, split, covers⟩ :=
    Text.slice?_eq_some_iff.1 ((Hit.fits_of_hitAt? here).named inner member)
  refine ⟨lead, left, split, ?_⟩
  simp [Found.shift, covers, Span.shift, Nat.add_assoc]

end RuleTable

namespace Expression

open RuleTable (Hit matched_of_hitAt? part_of_hitAt?)

/-- How a hit lies in the text `rest` that `read` comes before: it covers `matched`, and the text
goes on behind `piece`. -/
structure HitCut (read rest : List Char) (hit : Hit Rule) (matched piece left : List Char) :
    Prop where
  begins : matched <+: rest
  nonempty : matched ≠ []
  whole : hit.whole = ⟨⟨byteLength read, byteLength read + byteLength matched⟩, matched⟩
  split : rest = piece ++ left
  resume : resumeAt hit = byteLength read + byteLength piece
  all : hit.rule ≠ .openFloat → piece = matched

variable {grammar : Grammar} {read rest : List Char} {hit : Hit Rule} {line : Nat}

theorem exists_hitCut {table : RuleTable Rule}
    (found : table.hitAt? (read ++ rest) (byteLength read) = some hit) :
    ∃ matched piece left, HitCut read rest hit matched piece left := by
  obtain ⟨matched, left, split, nonempty, whole⟩ := matched_of_hitAt? found
  have begins : matched <+: rest := ⟨left, split.symm⟩
  have stop : hit.stop = byteLength read + byteLength matched := by rw [Hit.stop, whole]
  by_cases openFloat : hit.rule = .openFloat
  · cases grouped : hit.group? "openfloat" with
    | none =>
        refine ⟨matched, matched, left, begins, nonempty, whole, split, ?_, fun _ => rfl⟩
        simp [resumeAt, openFloat, grouped, stop]
    | some part =>
        obtain ⟨lead, later, inner, covers⟩ := part_of_hitAt? found grouped
        refine ⟨matched, lead ++ part.text, later, begins, nonempty, whole, inner, ?_,
          fun other => absurd openFloat other⟩
        simp [resumeAt, openFloat, grouped, covers, Nat.add_assoc]
  · refine ⟨matched, matched, left, begins, nonempty, whole, split, ?_, fun _ => rfl⟩
    rw [resumeAt_of_ne openFloat, stop]

/-! ### What a hit yields -/

/-- A hit that yields nothing is one of blanks or of a line break. -/
theorem rule_of_silent (silent : grammar.yield? hit line = none) : hit.rule ≠ .openFloat := by
  intro openFloat
  simp [Grammar.yield?, openFloat] at silent

theorem line_of_token {token : Token} (yields : grammar.yield? hit line = some (.ok token)) :
    token.line = line := by
  unfold Grammar.yield? at yields
  cases ruled : hit.rule with
  | operator =>
      simp only [ruled] at yields
      split at yields
      · cases yields
        rfl
      · cases yields
  | token | quotedSubscript | openFloat =>
      simp only [ruled] at yields
      cases yields
      rfl
  | newline | skip | illegal =>
      simp only [ruled] at yields
      cases yields

/-- An error names all that was matched, and its span is that of the match. -/
theorem error_of_yield {error : LexError}
    (yields : grammar.yield? hit line = some (.error error)) :
    hit.rule ≠ .openFloat ∧ Names error.cause hit.whole.text ∧ error.line = line
      ∧ error.span = hit.whole.span := by
  unfold Grammar.yield? at yields
  cases ruled : hit.rule with
  | operator =>
      simp only [ruled] at yields
      split at yields
      · cases yields
      · cases yields
        exact ⟨nofun, .inr rfl, rfl, rfl⟩
  | illegal =>
      simp only [ruled] at yields
      cases yields
      exact ⟨nofun, .inl rfl, rfl, rfl⟩
  | token | quotedSubscript | openFloat | newline | skip =>
      simp only [ruled] at yields
      cases yields

/-! ### Steps -/

/-- The answer that a step gives to a call, with the stream after it, unless the step passes. -/
def Step.answer? : Step → Option (Option (Except LexError Token) × Stream)
  | yield item after => some (some item, after)
  | stop after => some (none, after)
  | pass _ => none

theorem exists_pass {step : Step} (silent : step.answer? = none) :
    ∃ middle, step = .pass middle := by
  cases step with
  | pass middle => exact ⟨middle, rfl⟩
  | yield item after | stop after => cases silent

namespace Stream

/-- The stream has read `read` of its source, whose first line is `first`, and `rest` is left. -/
structure Stands (grammar : Grammar) (source : String) (first : Nat) (stream : Stream)
    (read rest : List Char) : Prop where
  split : source.toList = read ++ rest
  grammar : stream.grammar = grammar
  source : stream.source = source
  offset : stream.offset = byteLength read
  line : stream.line = first + lineBreaks read

/-- The stream after some characters. -/
def past (stream : Stream) (piece : List Char) : Stream :=
  { stream with
    offset := stream.offset + byteLength piece
    line := stream.line + lineBreaks piece }

/-- What a step can come to where `rest` is left after `read`. -/
inductive Outcome (stream : Stream) (read rest : List Char) : Step → Prop where
  | stop (ended : rest = []) : Outcome stream read rest (.stop stream.finish)
  /-- No rule matches. -/
  | unmatched {c : Char} {left : List Char} (split : rest = c :: left) :
      Outcome stream read rest
        (.yield (.error ⟨.unexpectedCharacter (String.ofList [c]), stream.line,
          ⟨stream.offset, stream.offset + c.utf8Size⟩⟩) stream.finish)
  | pass {hit : Hit Rule} {matched left : List Char}
      (found : stream.grammar.table.hitAt? (read ++ rest) (byteLength read) = some hit)
      (cut : HitCut read rest hit matched matched left) :
      Outcome stream read rest (.pass (stream.past matched))
  | token {hit : Hit Rule} {matched piece left : List Char} {token : Token}
      (found : stream.grammar.table.hitAt? (read ++ rest) (byteLength read) = some hit)
      (cut : HitCut read rest hit matched piece left)
      (yields : stream.grammar.yield? hit stream.line = some (.ok token)) :
      Outcome stream read rest (.yield (.ok token) (stream.past piece))
  | error {hit : Hit Rule} {matched left : List Char} {error : LexError}
      (found : stream.grammar.table.hitAt? (read ++ rest) (byteLength read) = some hit)
      (cut : HitCut read rest hit matched matched left)
      (yields : stream.grammar.yield? hit stream.line = some (.error error)) :
      Outcome stream read rest (.yield (.error error) (stream.past matched).finish)

variable {source : String} {first : Nat} {stream middle after : Stream} {piece left : List Char}
  {item : Option (Except LexError Token)}

theorem stands_start (grammar : Grammar) (source : String) (first : Nat) :
    Stands grammar source first (start grammar source first) [] source.toList :=
  ⟨rfl, rfl, rfl, rfl, rfl⟩

theorem Stands.rest_eq (here : Stands grammar source first stream read rest) :
    stream.rest = rest := by
  rw [Stream.rest, here.source, here.split, here.offset, Text.dropBytes?_append]
  rfl

theorem Stands.past (here : Stands grammar source first stream read (piece ++ left)) :
    Stands grammar source first (stream.past piece) (read ++ piece) left where
  split := by rw [here.split, List.append_assoc]
  grammar := here.grammar
  source := here.source
  offset := by simp [Stream.past, here.offset]
  line := by simp [Stream.past, here.line, Nat.add_assoc]

/-- A stream that is finished stands where it stood. -/
theorem Stands.finish (here : Stands grammar source first stream read rest) :
    Stands grammar source first stream.finish read rest :=
  ⟨here.split, here.grammar, here.source, here.offset, here.line⟩

theorem Stands.moveTo (here : Stands grammar source first stream read rest) {matched : List Char}
    (cut : HitCut read rest hit matched piece left) :
    stream.moveTo (resumeAt hit) = stream.past piece := by
  have part := Text.slice_append read piece left
  rw [List.append_assoc, ← cut.split, ← here.split, ← here.source] at part
  rw [Stream.moveTo, Stream.past, cut.resume, here.offset, part]

theorem Stands.outcome (here : Stands grammar source first stream read rest) :
    Outcome stream read rest stream.step := by
  rw [step, here.source, here.split, here.offset]
  cases found : stream.grammar.table.hitAt? (read ++ rest) (byteLength read) with
  | none =>
      simp only [stepUnmatched, here.rest_eq]
      cases rest with
      | nil => exact .stop rfl
      | cons c left => exact .unmatched rfl
  | some hit =>
      obtain ⟨matched, piece, left, cut⟩ := exists_hitCut found
      simp only [here.moveTo cut]
      cases yields : stream.grammar.yield? hit stream.line with
      | none =>
          obtain rfl := cut.all (rule_of_silent yields)
          exact .pass found cut
      | some item =>
          cases item with
          | ok token => exact .token found cut yields
          | error error =>
              obtain rfl := cut.all (error_of_yield yields).1
              exact .error found cut yields

/-- A step that yields nothing reads at least one character. -/
theorem Stands.of_pass (here : Stands grammar source first stream read rest)
    (passed : stream.step = .pass middle) :
    ∃ piece left, rest = piece ++ left ∧ piece ≠ [] ∧ middle = stream.past piece := by
  have outcome := here.outcome
  rw [passed] at outcome
  cases outcome with
  | pass found cut => exact ⟨_, _, cut.split, cut.nonempty, rfl⟩

/-! ### Calls -/

/-- Steps that yield nothing lead from one stream to the other. -/
inductive Passes : Stream → Stream → Prop where
  | refl (stream : Stream) : Passes stream stream
  | step {stream middle last : Stream} (passed : stream.step = .pass middle)
      (later : Passes middle last) : Passes stream last

/-- What asking a stream for its next token comes to, however many steps it takes. -/
inductive Call (stream : Stream) : Option (Except LexError Token) → Stream → Prop where
  | finished (ended : stream.finished = true) : Call stream none stream
  | steps {last after : Stream} {item : Option (Except LexError Token)}
      (running : stream.finished = false) (passes : Passes stream last)
      (answers : last.step.answer? = some (item, after)) : Call stream item after

theorem Call.of_pass (passed : stream.step = .pass middle) (running : stream.finished = false)
    (same : middle.finished = stream.finished) (call : Call middle item after) :
    Call stream item after := by
  cases call with
  | finished ended =>
      rw [same, running] at ended
      cases ended
  | steps _ passes answers => exact .steps running (.step passed passes) answers

theorem advance_of_answer (answers : stream.step.answer? = some (item, after))
    (bound : List Char) : stream.advance bound = (item, after) := by
  rw [advance.eq_def]
  cases taken : stream.step with
  | yield found last | stop last =>
      rw [taken] at answers
      cases answers
      rfl
  | pass middle => simp [taken, Step.answer?] at answers

/-- As long as there are at least as many steps as characters, the bound does not matter. -/
theorem Stands.call_advance {stream : Stream} {read rest : List Char}
    (here : Stands grammar source first stream read rest) (running : stream.finished = false)
    {bound : List Char} (enough : rest.length ≤ bound.length) :
    Call stream (stream.advance bound).1 (stream.advance bound).2 := by
  cases answers : stream.step.answer? with
  | some answer =>
      rw [advance_of_answer answers]
      exact .steps running (.refl stream) answers
  | none =>
      obtain ⟨middle, passed⟩ := exists_pass answers
      obtain ⟨piece, left, split, nonempty, rfl⟩ := here.of_pass passed
      have shorter := length_lt_of_split nonempty split
      rw [split] at here
      rw [advance.eq_def, passed]
      cases bound with
      | nil =>
          rw [List.length_nil] at enough
          omega
      | cons c bound =>
          rw [List.length_cons] at enough
          exact .of_pass passed running rfl (here.past.call_advance running (by omega))
termination_by bound.length

/-- Streams to which steps lead that yield nothing, and whose own steps answer, are the same. -/
theorem Passes.unique {last other : Stream} (passes : Passes stream last)
    (others : Passes stream other) (answers : last.step.answer?.isSome)
    (otherAnswers : other.step.answer?.isSome) : last = other := by
  induction passes with
  | refl =>
      cases others with
      | refl => rfl
      | step passed => simp [passed, Step.answer?] at answers
  | step passed later ih =>
      cases others with
      | refl => simp [passed, Step.answer?] at otherAnswers
      | step again others =>
          rw [passed] at again
          cases again
          exact ih others answers

/-- A stream settles what a call comes to. -/
theorem Call.unique {other : Option (Except LexError Token)} {otherAfter : Stream}
    (call : Call stream item after) (again : Call stream other otherAfter) :
    (item, after) = (other, otherAfter) := by
  cases call with
  | finished ended =>
      cases again with
      | finished => rfl
      | steps running => simp [ended] at running
  | steps running passes answers =>
      cases again with
      | finished ended => simp [ended] at running
      | steps _ others otherAnswers =>
          obtain rfl := passes.unique others (by simp [answers]) (by simp [otherAnswers])
          exact Option.some.inj (answers.symm.trans otherAnswers)

/-- Asking a stream for its next token is a call. -/
theorem Stands.call (here : Stands grammar source first stream read rest) :
    Call stream stream.next.1 stream.next.2 := by
  rw [next]
  cases finished : stream.finished with
  | true => exact .finished finished
  | false =>
      rw [here.rest_eq]
      exact here.call_advance finished le_rfl

/-- What asking for the next token gives is what the steps come to, without any bound on them. -/
theorem Stands.call_iff (here : Stands grammar source first stream read rest) :
    Call stream item after ↔ stream.next = (item, after) := by
  constructor
  · exact here.call.unique
  · intro same
    have call := here.call
    rwa [same] at call

/-- A call that begins with a step that passes gives what the next stream gives. -/
theorem Stands.next_of_pass (here : Stands grammar source first stream read rest)
    (running : stream.finished = false) (passed : stream.step = .pass middle) :
    stream.next = middle.next := by
  obtain ⟨piece, left, rfl, -, rfl⟩ := here.of_pass passed
  exact here.call_iff.1 (.of_pass passed running rfl here.past.call)

/-! ### Where a call leads -/

theorem Passes.stands (passes : Passes stream middle)
    (here : Stands grammar source first stream read rest) :
    ∃ passed left, rest = passed ++ left ∧ middle.finished = stream.finished
      ∧ Stands grammar source first middle (read ++ passed) left := by
  induction passes generalizing read rest with
  | refl => exact ⟨[], rest, rfl, rfl, by rwa [List.append_nil]⟩
  | step passed later ih =>
      obtain ⟨piece, left, rfl, -, rfl⟩ := here.of_pass passed
      obtain ⟨more, last, rfl, same, there⟩ := ih here.past
      rw [List.append_assoc] at there
      exact ⟨piece ++ more, last, (List.append_assoc piece more last).symm, same, there⟩

/-- What is found at the beginning of the text that `read` comes before, when the text goes on behind
`piece`. A token is what the grammar makes of a match, on the line where the match begins. An error
names the text at its span, on the line where that text begins. -/
inductive Locates (grammar : Grammar) (first : Nat) (read piece left : List Char) :
    Option (Except LexError Token) → Prop where
  | token {hit : Hit Rule} {matched : List Char} {token : Token}
      (found : grammar.table.hitAt? (read ++ (piece ++ left)) (byteLength read) = some hit)
      (cut : HitCut read (piece ++ left) hit matched piece left)
      (yields : grammar.yield? hit token.line = some (.ok token))
      (line : token.line = first + lineBreaks read) :
      Locates grammar first read piece left (some (.ok token))
  | error {named : List Char} {error : LexError} (names : Names error.cause named)
      (begins : named <+: piece ++ left) (nonempty : named ≠ [])
      (span : error.span = ⟨byteLength read, byteLength read + byteLength named⟩)
      (line : error.line = first + lineBreaks read) :
      Locates grammar first read piece left (some (.error error))
  | ended : Locates grammar first read piece left none

/-- The step that answers a call: what it finds where it is taken, and where it leads. -/
theorem Stands.of_answer (here : Stands grammar source first stream read rest)
    (answers : stream.step.answer? = some (item, after)) :
    ((∀ token, item ≠ some (.ok token)) → after.finished = true)
      ∧ ∃ piece left, rest = piece ++ left ∧ Locates grammar first read piece left item
        ∧ Stands grammar source first after (read ++ piece) left := by
  have outcome := here.outcome
  generalize taken : stream.step = step at outcome answers
  cases outcome with
  | stop ended =>
      cases answers
      exact ⟨fun _ => rfl, [], rest, rfl, .ended, by simpa using here.finish⟩
  | @unmatched c left split =>
      cases answers
      refine ⟨fun _ => rfl, [], rest, rfl, ?_, by simpa using here.finish⟩
      refine .error (.inl rfl) ⟨left, split.symm⟩ (List.cons_ne_nil c []) ?_ here.line
      simp [here.offset]
  | pass found cut => cases answers
  | @token hit matched piece left token found cut yields =>
      cases answers
      obtain rfl := cut.split
      have counted : token.line = stream.line := line_of_token yields
      rw [here.grammar] at found yields
      refine ⟨fun other => absurd rfl (other token), piece, left, rfl, ?_, here.past⟩
      exact .token found cut (counted ▸ yields) (counted.trans here.line)
  | @error hit matched left error found cut yields =>
      cases answers
      obtain ⟨-, names, counted, span⟩ := error_of_yield yields
      rw [cut.whole] at names span
      obtain rfl := cut.split
      refine ⟨fun _ => rfl, matched, left, rfl, ?_, here.past.finish⟩
      exact .error names cut.begins cut.nonempty span (counted.trans here.line)

/-- What a call comes to that finds `rest` left after `read`: it passes over a part of the text to
where the item is found, and the stream stands behind that afterwards. It is finished unless the
item is a token. -/
structure Answered (grammar : Grammar) (source : String) (first : Nat) (stream : Stream)
    (read rest : List Char) (item : Option (Except LexError Token)) (after : Stream) : Prop where
  found : ∃ middle passed piece left, Passes stream middle ∧ rest = passed ++ (piece ++ left)
    ∧ Stands grammar source first middle (read ++ passed) (piece ++ left)
    ∧ Locates grammar first (read ++ passed) piece left item
    ∧ Stands grammar source first after (read ++ passed ++ piece) left
  ends : (∀ token, item ≠ some (.ok token)) → after.finished = true

theorem Stands.answered (here : Stands grammar source first stream read rest)
    (call : Call stream item after) :
    Answered grammar source first stream read rest item after := by
  cases call with
  | finished ended =>
      have same : Stands grammar source first stream (read ++ []) rest := by simpa using here
      exact ⟨⟨stream, [], [], rest, .refl stream, rfl, same, .ended, by simpa using here⟩,
        fun _ => ended⟩
  | @steps middle _ _ _ passes answers =>
      obtain ⟨passed, left, rfl, -, there⟩ := passes.stands here
      obtain ⟨ends, piece, left, rfl, locates, last⟩ := there.of_answer answers
      exact ⟨⟨middle, passed, piece, left, passes, rfl, there, locates, last⟩, ends⟩

/-! ### Calls in a row -/

/-- A stream after it has been asked for so many tokens. -/
def asked : Nat → Stream → Stream
  | 0, stream => stream
  | count + 1, stream => asked count stream.next.2

theorem asked_succ (count : Nat) (stream : Stream) :
    stream.asked (count + 1) = (stream.asked count).next.2 := by
  induction count generalizing stream with
  | zero => rfl
  | succ count ih => exact ih stream.next.2

theorem asked_of_finished (ended : stream.finished = true) (count : Nat) :
    stream.asked count = stream := by
  induction count with
  | zero => rfl
  | succ count ih => rw [asked_succ, ih, next_of_finished ended]

/-- The error of a run is what the call behind its tokens gives. -/
theorem next_asked_of_take {count : Nat} {failure : LexError}
    (failed : (stream.take count).error = some failure) :
    (stream.asked (stream.take count).tokens.length).next.1 = some (.error failure) := by
  induction count generalizing stream with
  | zero => cases failed
  | succ count ih =>
      rw [take_succ] at failed ⊢
      rcases given : stream.next with ⟨_ | error | token, after⟩
      · rw [given] at failed
        cases failed
      · rw [given] at failed
        cases failed
        exact congrArg Prod.fst given
      · rw [given] at failed
        simp only [takeFrom, Run.cons, List.length_cons, asked, given]
        exact ih failed

/-- However often it is asked, a stream stands somewhere in its source. -/
theorem exists_stands (grammar : Grammar) (source : String) (first count : Nat) :
    ∃ read rest, Stands grammar source first ((start grammar source first).asked count) read
      rest := by
  induction count with
  | zero => exact ⟨[], source.toList, stands_start grammar source first⟩
  | succ count ih =>
      obtain ⟨read, rest, here⟩ := ih
      obtain ⟨-, passed, piece, left, -, -, -, -, there⟩ := (here.answered here.call).found
      rw [asked_succ]
      exact ⟨read ++ passed ++ piece, left, there⟩

/-- At any moment a stream has read a part of its source, up to a character, and its line is that
of the position there. The next call reads on from there and never back. What it gives is found
behind that position, on the line where it is found: a token is made of a match there, and an error
names the characters that its span covers, at least one. After an error or the end every further
call gives nothing and leaves the stream as it is. -/
theorem lines_of_calls (grammar : Grammar) (source : String) (first count : Nat) :
    let stream := (start grammar source first).asked count
    ∃ read rest, Stands grammar source first stream read rest
      ∧ Answered grammar source first stream read rest stream.next.1 stream.next.2
      ∧ ((∀ token, stream.next.1 ≠ some (.ok token)) →
        ∀ more, (stream.next.2.asked more).next = (none, stream.next.2)) := by
  intro stream
  obtain ⟨read, rest, here⟩ := exists_stands grammar source first count
  have answered := here.answered here.call
  refine ⟨read, rest, here, answered, ?_⟩
  intro last more
  have ended := answered.ends last
  rw [asked_of_finished ended, next_of_finished ended]

end Stream

end Expression

end LiquidTokens
