import LiquidTokens.Kind
import LiquidTokens.RuleTable

/-!
Grammars of expressions. A grammar is a rule table, where each rule says what becomes of
the text it matches, and the keywords that its identifiers may turn out to be.
-/

namespace LiquidTokens.Expression

/-- What becomes of the text that a pattern matches. -/
inductive Rule where
  /-- A token of this kind. An identifier may turn out to be a keyword, and a string and
  an index lose their marks. -/
  | token (kind : Kind)
  /-- A quoted subscript, which becomes an identifier without brackets and quotes. -/
  | quotedSubscript
  /-- A float without digits after its point. The pattern looks at the character after the
  point too; the text goes on after the group `openfloat`. -/
  | openFloat
  /-- Text in the place of an operator. -/
  | operator
  /-- A line break. -/
  | newline
  /-- Blanks without meaning. -/
  | skip
  /-- Text that the grammar has no use for. -/
  | illegal
  deriving DecidableEq, Repr

/-- The name of a rule in messages. -/
def Rule.label : Rule → String
  | token kind => "Token(" ++ kind.label ++ ")"
  | quotedSubscript => "IdentString"
  | openFloat => "OpenFloat"
  | operator => "Operator"
  | newline => "Newline"
  | skip => "Skip"
  | illegal => "Illegal"

/-- A rule table with a name and keywords. -/
structure Grammar where
  name : String
  table : RuleTable Rule
  keywords : List Keyword

namespace Grammar

/-- Makes a grammar of rules with their written patterns and of the kinds that are to be
its keywords. Kinds that are no keywords are ignored. -/
def compile (name : String) (rules : List (Rule × String)) (keywords : List Kind) :
    Except SetupError Grammar :=
  (RuleTable.compile Rule.label rules).map fun table =>
    { name
      table
      keywords := keywords.filterMap fun
        | .keyword word => some word
        | _ => none }

/-- The keyword of the grammar with the given spelling. -/
def keyword? (grammar : Grammar) (text : String) : Option Kind :=
  (grammar.keywords.find? (·.spelling == text)).map .keyword

end Grammar

end LiquidTokens.Expression
