import LiquidTokens.Expression.Grammar
import LiquidTokens.Run

/-!
Token streams of expressions. A stream stands at a position of its source; a step takes
one rule's match, and asking for the next token takes steps until one of them yields a
token, an error or the end. After an error or the end a stream yields nothing more.

Main statement: `Stream.next_of_finished` (a stream that is finished yields nothing and stays
as it is).
-/

namespace LiquidTokens.Expression

open Text (Span lineBreaks slice dropBytes?)

/-! ### Tokens of a hit -/

/-- The text inside the quotes of a string. -/
def unquoted (hit : RuleTable.Hit Rule) : List Char :=
  ((hit.text? "dquoted").orElse fun _ => hit.text? "squoted").getD hit.whole.text

/-- The text inside the brackets and quotes of a subscript. -/
def unquotedSubscript (hit : RuleTable.Hit Rule) : List Char :=
  ((hit.text? "identdq").orElse fun _ => hit.text? "identsq").getD hit.whole.text

/-- The kind and text of the token that a rule for tokens of a kind makes. -/
def Grammar.reduce (grammar : Grammar) (kind : Kind) (hit : RuleTable.Hit Rule) :
    Kind × List Char :=
  match kind with
  | .identifier =>
      ((grammar.keyword? (String.ofList hit.whole.text)).getD .identifier, hit.whole.text)
  | .string => (.string, unquoted hit)
  | .identIndex => (.identIndex, (hit.text? "identindex").getD hit.whole.text)
  | kind => (kind, hit.whole.text)

/-- What a hit on line `line` comes to: a token, an error, or nothing to be seen. -/
def Grammar.yield? (grammar : Grammar) (hit : RuleTable.Hit Rule) (line : Nat) :
    Option (Except LexError Token) :=
  let token (kind : Kind) (text : List Char) : Option (Except LexError Token) :=
    some (.ok ⟨line, kind, String.ofList text⟩)
  let found := String.ofList hit.whole.text
  match hit.rule with
  | .token kind => let (kind, text) := grammar.reduce kind hit; token kind text
  | .quotedSubscript => token .identifier (unquotedSubscript hit)
  | .openFloat => token .float ((hit.text? "openfloat").getD hit.whole.text)
  | .operator =>
      match Kind.ofOperator? found with
      | some kind => token kind hit.whole.text
      | none => some (.error ⟨.unknownOperator found, line, hit.whole.span⟩)
  | .newline | .skip => none
  | .illegal => some (.error ⟨.unexpectedCharacter found, line, hit.whole.span⟩)

/-- The position at which the text goes on after a hit. -/
def resumeAt (hit : RuleTable.Hit Rule) : Nat :=
  match hit.rule with
  | .openFloat => ((hit.group? "openfloat").map (·.span.stop)).getD hit.stop
  | _ => hit.stop

/-! ### Streams -/

/-- A stream of the tokens of an expression. -/
structure Stream where
  grammar : Grammar
  source : String
  /-- The position, in bytes, at which the next token is looked for. -/
  offset : Nat
  /-- The line of that position. -/
  line : Nat
  finished : Bool

/-- What one rule's match comes to. -/
inductive Step where
  /-- A token or an error. -/
  | yield (item : Except LexError Token) (after : Stream)
  /-- Text that yields nothing. -/
  | pass (after : Stream)
  | stop (after : Stream)

namespace Stream

/-- A stream at the start of a source whose first line has the given number. -/
def start (grammar : Grammar) (source : String) (line : Nat) : Stream :=
  ⟨grammar, source, 0, line, false⟩

/-- The text that is left. -/
def rest (stream : Stream) : List Char :=
  (dropBytes? stream.source.toList stream.offset).getD []

/-- The stream at a later position, its line raised by the line breaks in between. -/
def moveTo (stream : Stream) (stop : Nat) : Stream :=
  { stream with
    offset := stop
    line := stream.line + lineBreaks (slice stream.source.toList ⟨stream.offset, stop⟩) }

/-- The stream with nothing more to come. -/
def finish (stream : Stream) : Stream :=
  { stream with finished := true }

/-- The step at a position where no rule matches: the end if no text is left, and else an
error at the next character. -/
def stepUnmatched (stream : Stream) : Step :=
  match stream.rest with
  | [] => .stop stream.finish
  | c :: _ =>
      .yield (.error ⟨.unexpectedCharacter (String.ofList [c]), stream.line,
        ⟨stream.offset, stream.offset + c.utf8Size⟩⟩) stream.finish

/-- Takes the match of one rule. -/
def step (stream : Stream) : Step :=
  match stream.grammar.table.hitAt? stream.source.toList stream.offset with
  | none => stream.stepUnmatched
  | some hit =>
      let after := stream.moveTo (resumeAt hit)
      match stream.grammar.yield? hit stream.line with
      | none => .pass after
      | some (.ok token) => .yield (.ok token) after
      | some (.error error) => .yield (.error error) after.finish

/-- Takes steps until one yields something or stops. Every step that passes reads at least
one character, so no more steps are needed than the list `bound` of characters left has
members. -/
def advance (stream : Stream) (bound : List Char) : Option (Except LexError Token) × Stream :=
  match stream.step with
  | .yield item after => (some item, after)
  | .stop after => (none, after)
  | .pass after =>
      match bound with
      | [] => (none, after.finish)
      | _ :: bound => advance after bound

/-- The next token or error, if there is one, and the stream after it. -/
def next (stream : Stream) : Option (Except LexError Token) × Stream :=
  if stream.finished then (none, stream) else stream.advance stream.rest

/-- A stream that is finished yields nothing and stays as it is. -/
theorem next_of_finished {stream : Stream} (h : stream.finished = true) :
    stream.next = (none, stream) := by
  simp [next, h]

/-- The first items of a stream, at most `count` of them. -/
def take : Nat → Stream → Run
  | 0, _ => .nil
  | count + 1, stream =>
      match stream.next with
      | (some (.ok token), after) => (take count after).cons token
      | (some (.error error), _) => .failed error
      | (none, _) => .nil

/-- Everything that a stream yields, for a grammar whose tokens each read at least one
character. -/
def run (stream : Stream) : Run :=
  stream.take (stream.rest.length + 1)

end Stream

namespace Grammar

/-- The tokens of a text whose first line has the given number. -/
def tokenize (grammar : Grammar) (source : String) (line : Nat) : Run :=
  (Stream.start grammar source line).run

end Grammar

end LiquidTokens.Expression
