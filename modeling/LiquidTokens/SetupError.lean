/-!
What can be wrong with the settings of a lexer, before any text is read.
-/

namespace LiquidTokens

/-- The four places of a delimiter. -/
inductive DelimiterRole where
  | tagStart | tagEnd | statementStart | statementEnd
  deriving DecidableEq, Repr

/-- The words for a delimiter. -/
def DelimiterRole.words : DelimiterRole → String
  | tagStart => "tag start"
  | tagEnd => "tag end"
  | statementStart => "statement start"
  | statementEnd => "statement end"

/-- Settings from which no lexer can be made. -/
inductive SetupError where
  /-- A delimiter is the empty text. -/
  | emptyDelimiter (role : DelimiterRole)
  /-- The pattern of the named rule cannot be read. -/
  | invalidPattern (rule : String)
  deriving DecidableEq, Repr

namespace SetupError

/-- The rule that is blamed when every pattern of a table can be read and all together
cannot. -/
def combinedRule : String :=
  "combined table"

/-- The error in words. -/
def message : SetupError → String
  | emptyDelimiter role => "the " ++ role.words ++ " delimiter must not be empty"
  | invalidPattern rule => "invalid pattern for rule " ++ rule

end SetupError

end LiquidTokens
