import LiquidTokens.LexError
import LiquidTokens.SetupError

/-!
Failures: an error together with the text in which its span points and with what that text
is a part of.
-/

namespace LiquidTokens

/-- An error in a text. -/
structure Failure where
  error : LexError
  /-- The text that was read, in which the span of the error counts. -/
  text : String
  /-- What the text is, when it is not the whole input. -/
  context : Option String
  deriving DecidableEq, Repr

/-- What keeps an input from being tokenized. -/
inductive Refusal where
  /-- The settings are of no use. -/
  | setup (error : SetupError)
  /-- The input has an error. -/
  | lex (failure : Failure)
  deriving DecidableEq, Repr

/-- The refusal in words. -/
def Refusal.message : Refusal → String
  | setup error => error.message
  | lex failure => failure.error.message

end LiquidTokens
