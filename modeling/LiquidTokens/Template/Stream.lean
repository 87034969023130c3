import LiquidTokens.Run
import LiquidTokens.Template.Region
import LiquidTokens.Text.Trim

/-!
Token streams of templates. A stream stands at a position of its source and knows whether
the last tag or statement asked for the text after it to be trimmed. Each region gives at
most one token, except that a tag with an expression gives the tag first and the
expression when the next token is asked for.

Main statements: `Stream.next_of_pending` (an expression that waits is the next token) and
`Stream.next_of_finished` (a stream that is finished stays as it is).
-/

namespace LiquidTokens.Template

open Text (Span lineBreaks slice dropBytes? trimStart trimEnd)

/-- A stream of the tokens of a template. -/
structure Stream where
  regions : RegionTable
  source : String
  /-- The position, in bytes, of the next region. -/
  offset : Nat
  /-- The line of that position. -/
  line : Nat
  /-- The next plain text is to be trimmed at its start. -/
  trimNext : Bool
  /-- The line on which the body of the last tag or statement starts. -/
  bodyLine : Nat
  /-- The expression of the last tag, as long as it has not been given. -/
  pending : Option Token
  finished : Bool

/-- What one region comes to. -/
inductive Step where
  /-- A token or an error. -/
  | yield (item : Except LexError Token) (after : Stream)
  /-- A region that yields nothing. -/
  | pass (after : Stream)
  | stop (after : Stream)

namespace Stream

/-- A stream at the start of a source. -/
def start (regions : RegionTable) (source : String) : Stream :=
  { regions, source, offset := 0, line := 1, trimNext := false, bodyLine := 1,
    pending := none, finished := false }

/-- The text that is left. -/
def rest (stream : Stream) : List Char :=
  (dropBytes? stream.source.toList stream.offset).getD []

/-- The stream at a later position, its line raised by the line breaks in between. -/
def moveTo (stream : Stream) (stop : Nat) : Stream :=
  { stream with
    offset := stop
    line := stream.line + lineBreaks (slice stream.source.toList ⟨stream.offset, stop⟩) }

/-- The stream with nothing more to come. -/
def finish (stream : Stream) : Stream :=
  { stream with finished := true }

/-- The line on which a part of the region at the stream's position starts. -/
def lineAt (stream : Stream) (part : Option RuleTable.Found) : Nat :=
  match part with
  | some part =>
      stream.line + lineBreaks (slice stream.source.toList ⟨stream.offset, part.span.start⟩)
  | none => stream.line

/-- A token on the stream's line. -/
def token (stream : Stream) (kind : Kind) (text : List Char) : Token :=
  ⟨stream.line, kind, String.ofList text⟩

/-- The closing delimiter that is missing when plain text begins with an opening one. -/
def expected? (stream : Stream) (text : List Char) : Option String :=
  let delimiters := stream.regions.delimiters
  if delimiters.statementStart.toList.isPrefixOf text then some delimiters.statementEnd
  else if delimiters.tagStart.toList.isPrefixOf text then some delimiters.tagEnd
  else none

/-- A named group took part and read something. -/
def marked (hit : RuleTable.Hit Region) (name : String) : Bool :=
  !((hit.text? name).getD []).isEmpty

/-- A raw block is plain text that is not trimmed. The wish to trim is kept for the plain
text after it. -/
def stepRaw (stream : Stream) (hit : RuleTable.Hit Region) : Step :=
  let text := (hit.text? "raw").getD []
  let after := stream.moveTo hit.stop
  if text.isEmpty then .pass after else .yield (.ok (stream.token .literal text)) after

/-- An output statement. -/
def stepStatement (stream : Stream) (hit : RuleTable.Hit Region) : Step :=
  .yield (.ok (stream.token .statement ((hit.text? "stmt").getD [])))
    { stream.moveTo hit.stop with
      bodyLine := stream.lineAt (hit.group? "stmt")
      trimNext := marked hit "rss" }

/-- A tag, whose expression waits unless it is empty. -/
def stepTag (stream : Stream) (hit : RuleTable.Hit Region) : Step :=
  let expression := (hit.text? "expr").getD []
  .yield (.ok (stream.token .tag ((hit.text? "name").getD [])))
    { stream.moveTo hit.stop with
      bodyLine := stream.lineAt (hit.group? "expr")
      trimNext := marked hit "rst"
      pending :=
        if expression.isEmpty then stream.pending
        else some (stream.token .expression expression) }

/-- Plain text, trimmed at the start if the region before it asked for that and at the end
if the region after it does. Plain text that still begins with an opening delimiter is a
region without an end, and the error is reported on the line where the text ends. -/
def stepLiteral (stream : Stream) (hit : RuleTable.Hit Region) : Step :=
  match hit.group? "literal" with
  | none => .stop stream.finish
  | some literal =>
      let after := { stream.moveTo literal.span.stop with trimNext := false }
      let text := if stream.trimNext then trimStart literal.text else literal.text
      let text := if marked hit "rstrip" then trimEnd text else text
      if text.isEmpty then .pass after
      else
        match stream.expected? text with
        | some expected =>
            let error := ⟨.unterminatedRegion expected, after.line, literal.span⟩
            .yield (.error error) after.finish
        | none => .yield (.ok (stream.token .literal text)) after

/-- Takes one region. Where none begins the text has come to its end. -/
def step (stream : Stream) : Step :=
  match stream.regions.table.hitAt? stream.source.toList stream.offset with
  | none => .stop stream.finish
  | some hit =>
      match hit.rule with
      | .raw => stream.stepRaw hit
      | .statement => stream.stepStatement hit
      | .tag => stream.stepTag hit
      | .literal => stream.stepLiteral hit

/-- Takes regions until one yields something or stops. Every region that passes has at
least one character, so no more steps are needed than the list `bound` of characters left
has members. -/
def advance (stream : Stream) (bound : List Char) : Option (Except LexError Token) × Stream :=
  match stream.step with
  | .yield item after => (some item, after)
  | .stop after => (none, after)
  | .pass after =>
      match bound with
      | [] => (none, after.finish)
      | _ :: bound => advance after bound

/-- The next token or error, if there is one, and the stream after it. -/
def next (stream : Stream) : Option (Except LexError Token) × Stream :=
  match stream.pending with
  | some token => (some (.ok token), { stream with pending := none })
  | none => if stream.finished then (none, stream) else stream.advance stream.rest

/-- An expression that waits is the next token. -/
theorem next_of_pending {stream : Stream} {token : Token} (h : stream.pending = some token) :
    stream.next = (some (.ok token), { stream with pending := none }) := by
  simp [next, h]

/-- A stream that is finished, with nothing waiting, yields nothing and stays as it is. -/
theorem next_of_finished {stream : Stream} (nothing : stream.pending = none)
    (finished : stream.finished = true) : stream.next = (none, stream) := by
  simp [next, nothing, finished]

/-- The first items of a stream, at most `count` of them. -/
def take : Nat → Stream → Run
  | 0, _ => .nil
  | count + 1, stream =>
      match stream.next with
      | (some (.ok token), after) => (take count after).cons token
      | (some (.error error), _) => .failed error
      | (none, _) => .nil

/-- Everything that a stream yields. Each region has at least one character and gives at
most two tokens. -/
def run (stream : Stream) : Run :=
  stream.take (2 * stream.rest.length + 2)

end Stream

/-- The tokens of a template. -/
def RegionTable.tokenize (regions : RegionTable) (source : String) : Run :=
  (Stream.start regions source).run

end LiquidTokens.Template
