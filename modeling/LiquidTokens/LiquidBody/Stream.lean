import LiquidTokens.LiquidBody

/-!
Token streams of `liquid` bodies. A stream holds the lines that it has not read and the number of
the first of these. A line with a name gives its tag, and its expression when the next token is
asked for; lines without a name are passed over.

Main statement: `Stream.next_of_pending` (an expression that waits is the next token).
-/

namespace LiquidTokens.LiquidBody

/-- A stream of the tokens of a body. -/
structure Stream where
  /-- The lines that have not been read. -/
  lines : List (List Char)
  /-- The number of the first of these lines. -/
  line : Nat
  /-- The expression of the line read last, as long as it has not been given. -/
  pending : Option Token

namespace Stream

/-- A stream at the start of a body whose first line has the given number. -/
def start (body : String) (line : Nat) : Stream :=
  ⟨Text.lines body.toList, line, none⟩

/-- Reads lines, numbered from `line` on, up to the first that has a name. Its tag is the next
token, and its expression waits. -/
def readLines (line : Nat) : List (List Char) → Option Token × Stream
  | [] => (none, ⟨[], line, none⟩)
  | text :: others =>
      match lineTokens line text with
      | [] => readLines (line + 1) others
      | tag :: more => (some tag, ⟨others, line + 1, more.head?⟩)

/-- The next token, if there is one, and the stream after it. -/
def next (stream : Stream) : Option Token × Stream :=
  match stream.pending with
  | some token => (some token, { stream with pending := none })
  | none => readLines stream.line stream.lines

/-- An expression that waits is the next token. -/
theorem next_of_pending {stream : Stream} {token : Token} (waits : stream.pending = some token) :
    stream.next = (some token, { stream with pending := none }) := by
  simp [next, waits]

end Stream

end LiquidTokens.LiquidBody
