import LiquidTokens.Failure

/-!
Diagnostics: failures in the words of a report, with the place to point at.

The message says what is wrong and where; the label points at the span of the error in the
text that was read.
-/

namespace LiquidTokens

/-- A mark on a stretch of the text, given by its first byte and its number of bytes. -/
structure Diagnostic.Label where
  words : String
  offset : Nat
  len : Nat
  deriving DecidableEq, Repr

/-- A report of a failure. -/
structure Diagnostic where
  message : String
  code : String
  help : Option String
  labels : List Diagnostic.Label
  /-- The name under which the text is shown. -/
  sourceName : String
  deriving DecidableEq, Repr

namespace Diagnostic

/-- The kind of report that this library makes. -/
def lexCode : String :=
  "liquid_lex::lex"

/-- A hint at how to mend the text. -/
def helpFor? : LexError.Cause → Option String
  | .unterminatedRegion expected => some ("close the region with '" ++ expected ++ "'")
  | .unknownOperator _ => some "valid operators are ==, !=, <>, <, >, <= and >="
  | .unexpectedCharacter _ => none

/-- Words for a line. -/
def onLine (line : Nat) : String :=
  "line " ++ toString line

/-- The message of a failure: the error, where it is when that is not the whole input, and
the line. -/
def messageOf (failure : Failure) : String :=
  let place :=
    match failure.context with
    | some context => " in " ++ context
    | none => ""
  failure.error.message ++ place ++ " on " ++ onLine failure.error.line

/-- The name of the text of a failure in an input. A text that is a part of the input is
named for the input and for what part it is. -/
def nameOf (origin : String) (failure : Failure) : String :=
  match failure.context with
  | some context => origin ++ " (" ++ context ++ ", " ++ onLine failure.error.line ++ ")"
  | none => origin

/-- The report of a failure in the input called `origin`. -/
def ofFailure (origin : String) (failure : Failure) : Diagnostic :=
  let span := failure.error.span
  { message := messageOf failure
    code := lexCode
    help := helpFor? failure.error.cause
    labels := [⟨"here", span.start, span.stop - span.start⟩]
    sourceName := nameOf origin failure }

end Diagnostic

end LiquidTokens
