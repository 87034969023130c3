import LiquidTokens.LexError
import LiquidTokens.Token

/-!
Runs: everything that a stream of tokens gives, from its first token to its end or its
error.
-/

namespace LiquidTokens

/-- The tokens of a stream in order, and the error that ended it, if one did. -/
structure Run where
  tokens : List Token
  error : Option LexError
  deriving DecidableEq, Repr

namespace Run

/-- Nothing at all. -/
def nil : Run :=
  ⟨[], none⟩

/-- A run with one more token in front. -/
def cons (token : Token) (run : Run) : Run :=
  { run with tokens := token :: run.tokens }

/-- An error and nothing else. -/
def failed (error : LexError) : Run :=
  ⟨[], some error⟩

/-- The tokens, if the run ended without an error. -/
def result (run : Run) : Except LexError (List Token) :=
  match run.error with
  | some error => .error error
  | none => .ok run.tokens

end Run

end LiquidTokens
