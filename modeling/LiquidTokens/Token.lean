import LiquidTokens.Kind
import LiquidTokens.Text.Quoted

/-!
Tokens: a line, a kind and the text that the token stands for.
-/

namespace LiquidTokens

/-- A token of a template or of an expression. -/
structure Token where
  /-- The line on which the token's lexeme, or the region it comes from, starts. -/
  line : Nat
  kind : Kind
  /-- The token's text, without quotes, delimiters or brackets that only mark it. -/
  value : String
  deriving DecidableEq, Repr

/-- A token on one line: its line number, the name of its kind and its quoted text. -/
def Token.display (token : Token) : String :=
  toString token.line ++ ":" ++ token.kind.name ++ " " ++ Text.quoted token.value

end LiquidTokens
