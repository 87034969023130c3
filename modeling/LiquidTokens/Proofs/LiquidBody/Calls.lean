import LiquidTokens.LiquidBody.Stream
import LiquidTokens.Proofs.LiquidBody.Lines

/-!
What the calls to a stream of a `liquid` body give.

A line is read by a rule that needs no pattern (`rowTokens`), and a body is read line by line. A
stream holds the tokens that are left in it (`Stream.left`): a call gives the first of them and
leaves the others, so the calls give the tokens of the lines one after the other, and nothing more
after the last, however often it is asked.

Main statement: `calls_give_rows`.
-/

namespace LiquidTokens.LiquidBody

open Text (isWord lineBreaks lines)

/-! ### Lines -/

/-- The tokens of a line. Its first character that is no space and no tab must begin a word, which
is the name of the tag. The expression is what follows, without spaces and tabs before it and
without these and carriage returns after it, if that is anything. -/
def rowTokens (number : Nat) (row : List Char) : List Token :=
  match row.dropWhile isGap with
  | [] => []
  | c :: rest =>
      if isWord c then
        let expression := ((rest.dropWhile isWord).dropWhile isGap).rdropWhile isTrail
        ⟨number, .tag, String.ofList (c :: rest.takeWhile isWord)⟩
          :: if expression.isEmpty then [] else [⟨number, .expression, String.ofList expression⟩]
      else []

/-- The pattern of a line reads it as the rule does. -/
theorem lineTokens_eq_rowTokens (number : Nat) (row : List Char) :
    lineTokens number row = rowTokens number row := by
  rw [lineTokens_eq, rowTokens, expressionIn, afterName, nameIn]
  cases row.dropWhile isGap with
  | nil => rfl
  | cons c rest => by_cases word : isWord c = true <;> simp [word]

theorem linesTokens_eq_flatMap (number : Nat) (rows : List (List Char)) :
    linesTokens number rows
      = (rows.zipIdx number).flatMap fun (row, number) => rowTokens number row := by
  induction rows generalizing number with
  | nil => rfl
  | cons row rows ih =>
      rw [linesTokens, lineTokens_eq_rowTokens, ih, List.zipIdx_cons, List.flatMap_cons]

/-- A tag is followed by at most one token of its line. -/
theorem more_of_lineTokens {number : Nat} {row : List Char} {tag : Token} {more : List Token}
    (read : lineTokens number row = tag :: more) : more.head?.toList = more := by
  rw [lineTokens_eq_rowTokens, rowTokens] at read
  split at read
  · cases read
  · split at read
    · obtain ⟨-, rfl⟩ := List.cons_eq_cons.1 read
      split <;> rfl
    · cases read

/-! ### Calls -/

namespace Stream

/-- The tokens that a stream has still to give. -/
def left (stream : Stream) : List Token :=
  stream.pending.toList ++ linesTokens stream.line stream.lines

/-- The stream after so many calls. -/
def asked : Nat → Stream → Stream
  | 0, stream => stream
  | count + 1, stream => asked count stream.next.2

theorem readLines_spec (line : Nat) (rows : List (List Char)) :
    (readLines line rows).1 = (linesTokens line rows).head?
      ∧ (readLines line rows).2.left = (linesTokens line rows).tail := by
  induction rows generalizing line with
  | nil => exact ⟨rfl, rfl⟩
  | cons row rows ih =>
      rw [readLines, linesTokens]
      split
      · next unnamed => simpa [unnamed] using ih (line + 1)
      · next tag more read =>
          rw [read]
          refine ⟨rfl, ?_⟩
          rw [left, more_of_lineTokens read]
          rfl

/-- A call gives the first token that is left and leaves the others. -/
theorem next_spec (stream : Stream) :
    stream.next.1 = stream.left.head? ∧ stream.next.2.left = stream.left.tail := by
  cases waits : stream.pending with
  | some token =>
      rw [next_of_pending waits, left, waits]
      exact ⟨rfl, rfl⟩
  | none =>
      have read := readLines_spec stream.line stream.lines
      rw [next, left, waits]
      exact read

/-- Calls give what is left, token by token. -/
theorem next_asked (stream : Stream) (count : Nat) :
    (stream.asked count).next.1 = stream.left[count]? := by
  induction count generalizing stream with
  | zero => rw [asked, stream.next_spec.1, List.head?_eq_getElem?]
  | succ count ih => rw [asked, ih, stream.next_spec.2, List.getElem?_tail]

end Stream

/-- The tokens of a body are those of its lines, each with its number. A stream gives them one by
one, and nothing once they have been given. A body, a line break and another body have the tokens of
the first and then those of the other, numbered on. -/
theorem calls_give_rows (body : String) (line : Nat) :
    tokens body line
        = ((lines body.toList).zipIdx line).flatMap (fun (row, number) => rowTokens number row)
      ∧ (∀ count, ((Stream.start body line).asked count).next.1 = (tokens body line)[count]?)
      ∧ ∀ more, tokens (body ++ "\n" ++ more) line
          = tokens body line ++ tokens more (line + 1 + lineBreaks body.toList) := by
  refine ⟨linesTokens_eq_flatMap line _, (Stream.start body line).next_asked, fun more => ?_⟩
  have split : (body ++ "\n" ++ more).toList = body.toList ++ '\n' :: more.toList := by simp
  have number : line + (lineBreaks body.toList + 1) = line + 1 + lineBreaks body.toList := by omega
  rw [tokens, split, Text.lines_append, linesTokens_append, Text.length_lines, number]
  rfl

example : ((Stream.start "\tassign  x = 1 \r\n\n- echo\necho y" 3).asked 1).next.1
      = some ⟨3, .expression, "x = 1"⟩
    ∧ ((Stream.start "\tassign  x = 1 \r\n\n- echo\necho y" 3).asked 2).next.1
      = some ⟨6, .tag, "echo"⟩ := by
  decide +kernel

end LiquidTokens.LiquidBody
