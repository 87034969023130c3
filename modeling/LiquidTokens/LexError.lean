import LiquidTokens.Text.Position
import LiquidTokens.Text.Quoted

/-!
What can be wrong with a text that is read: the cause, the line and the place.
-/

namespace LiquidTokens

open Text (Span quoted)

/-- Why the reading of a text stopped. -/
inductive LexError.Cause where
  /-- Text that no rule of the grammar accepts. -/
  | unexpectedCharacter (found : String)
  /-- Text in the place of an operator that is no operator. -/
  | unknownOperator (found : String)
  /-- A tag or statement whose closing delimiter, given here, is missing. -/
  | unterminatedRegion (expected : String)
  deriving DecidableEq, Repr

/-- An error in a text. -/
structure LexError where
  cause : LexError.Cause
  line : Nat
  /-- The offending stretch of the text that was read. -/
  span : Span
  deriving DecidableEq, Repr

namespace LexError

/-- The cause in words. -/
def Cause.message : Cause → String
  | unexpectedCharacter found => "unexpected " ++ quoted found
  | unknownOperator found => "unknown operator " ++ quoted found
  | unterminatedRegion expected => "expected '" ++ expected ++ "', found end of input"

/-- The error in words. -/
def message (error : LexError) : String :=
  error.cause.message

end LexError

end LiquidTokens
