import LiquidTokens.Expression.Stream
import LiquidTokens.Text.Quoted

/-!
The standard forms of expressions, each with its grammar, and the form that follows each
standard tag.

Main statements: `Form.ofName?_name` (a form is found by its name) and `Form.rules_compile`
(every standard grammar can be made).
-/

namespace LiquidTokens.Expression

/-! ### Written patterns -/

/-- A string in double or single quotes. -/
def stringPattern : String :=
  "\"(?P<dquoted>[^\"]*)\"|'(?P<squoted>[^']*)'"

/-- An identifier. -/
def identifierPattern : String :=
  "\\w[a-zA-Z0-9_\\-]*"

/-- An identifier that may hold question marks after its first character. -/
def questionIdentifierPattern : String :=
  "\\w[a-zA-Z0-9_\\-?]*"

/-! ### Rules of each form -/

/-- Paths of identifiers and subscripts. -/
def pathRules : List (Rule × String) :=
  [(.token .integer, "\\d+"),
   (.token .string, stringPattern),
   (.token .identifier, identifierPattern),
   (.token .dot, "\\."),
   (.token .lBracket, "\\["),
   (.token .rBracket, "]"),
   (.newline, "\\n"),
   (.skip, "[ \\t]+"),
   (.illegal, ".")]

/-- A value and the filters it goes through. -/
def filterRules : List (Rule × String) :=
  [(.token .float, "\\d+\\.\\d*"),
   (.token .integer, "\\d+"),
   (.token .negative, "-"),
   (.token .string, stringPattern),
   (.token .identifier, identifierPattern),
   (.token .dot, "\\."),
   (.token .comma, ","),
   (.token .lBracket, "\\["),
   (.token .rBracket, "]"),
   (.token .colon, ":"),
   (.token .pipe, "\\|"),
   (.newline, "\\n"),
   (.skip, "[ \\t]+"),
   (.illegal, ".")]

/-- A name, an assignment sign and a value with filters. -/
def assignmentRules : List (Rule × String) :=
  (.token .assign, "=") :: filterRules

/-- Comparisons. -/
def conditionRules : List (Rule × String) :=
  [(.token .float, "\\d+\\.\\d*"),
   (.token .integer, "\\d+"),
   (.token .negative, "-"),
   (.token .string, stringPattern),
   (.token .identifier, questionIdentifierPattern),
   (.token .dot, "\\."),
   (.token .lBracket, "\\["),
   (.token .rBracket, "]"),
   (.token .colon, ":"),
   (.newline, "\\n"),
   (.operator, "[!=<>]\x7b1,2\x7d"),
   (.skip, "[ \\t]+"),
   (.illegal, ".")]

/-- Names of other templates and what is handed to them. -/
def includeRules : List (Rule × String) :=
  [(.token .float, "\\d+\\.\\d*"),
   (.token .integer, "\\d+"),
   (.token .negative, "-"),
   (.token .string, stringPattern),
   (.token .identifier, questionIdentifierPattern),
   (.token .dot, "\\."),
   (.token .comma, ","),
   (.token .lBracket, "\\["),
   (.token .rBracket, "]"),
   (.token .colon, ":"),
   (.newline, "\\n"),
   (.skip, "[ \\t]+"),
   (.illegal, ".")]

/-- Loops. Subscripts are one token, numbers carry their sign, and a point that is
followed by another belongs to a range and not to a float. -/
def loopRules : List (Rule × String) :=
  [(.token .identIndex, "\\[\\s*(?P<identindex>-?\\d+)\\s*]"),
   (.quotedSubscript, "\\[\\s*(?:\"(?P<identdq>[^\"]*)\"|'(?P<identsq>[^']*)')\\s*]"),
   (.token .range, "\\.\\."),
   (.token .float, "-?\\d+\\.\\d+"),
   (.openFloat, "(?P<openfloat>-?\\d+\\.)(?:[^.]|\\z)"),
   (.token .integer, "-?\\d+\\b"),
   (.token .dot, "\\."),
   (.token .identifier, "[a-zA-Z_][\\w\\-]*\\??"),
   (.token .lParen, "\\("),
   (.token .rParen, "\\)"),
   (.token .lBracket, "\\["),
   (.token .rBracket, "]"),
   (.token .colon, ":"),
   (.token .pipe, "\\|"),
   (.newline, "\\n"),
   (.skip, "[ \\t\\r]+"),
   (.illegal, ".")]

/-! ### Forms -/

/-- The standard forms of expressions. -/
inductive Form where
  /-- A path of identifiers, as names of variables are. -/
  | identifier
  /-- A value with filters, as in an output statement. -/
  | filtered
  | assignment
  | boolean
  | loop
  | inclusion
  | paginate
  deriving DecidableEq, Repr

namespace Form

/-- Every form. -/
def all : List Form :=
  [identifier, filtered, assignment, boolean, loop, inclusion, paginate]

/-- The name by which a form is chosen. -/
def name : Form → String
  | identifier => "identifier"
  | filtered => "filtered"
  | assignment => "assignment"
  | boolean => "boolean"
  | loop => "loop"
  | inclusion => "include"
  | paginate => "paginate"

/-- The form with a name. -/
def ofName? (text : String) : Option Form :=
  all.find? (·.name == text)

/-- A form is found by its name. -/
theorem ofName?_name (form : Form) : ofName? form.name = some form := by
  cases form <;> decide

/-- What is said of a name that no form has. -/
def unknownName (text : String) : String :=
  "unknown grammar " ++ Text.quoted text

/-- The rules of a form with their written patterns. -/
def rules : Form → List (Rule × String)
  | identifier | paginate => pathRules
  | filtered => filterRules
  | assignment => assignmentRules
  | boolean => conditionRules
  | loop => loopRules
  | inclusion => includeRules

/-- The words with a meaning of their own in a form. -/
def keywords : Form → List Keyword
  | identifier => []
  | filtered | assignment => [.trueValue, .falseValue, .nilValue, .emptyValue]
  | boolean => [.trueValue, .falseValue, .nilValue, .emptyValue, .and, .or, .contains]
  | loop => [.inside, .offset, .limit, .reversed, .cols, .resume]
  | inclusion => [.trueValue, .falseValue, .nilValue, .emptyValue, .withScope, .forEach, .asName]
  | paginate => [.pageSize]

/-- Every standard grammar can be made. -/
theorem rules_compile (form : Form) :
    (RuleTable.compile Rule.label form.rules).toOption.isSome = true := by
  cases form <;> decide +kernel

/-- The grammar of a form. -/
def grammar (form : Form) : Grammar :=
  { name := form.name
    table := (RuleTable.compile Rule.label form.rules).toOption.get (rules_compile form)
    keywords := form.keywords }

/-- The form of the expression after a standard tag. Output statements hold filtered
values; the body of the tag for lines of tags has a reader of its own. -/
def ofTag? (tag : String) : Option Form :=
  match tag with
  | "if" | "elsif" | "unless" => some boolean
  | "for" | "tablerow" => some loop
  | "assign" => some assignment
  | "echo" | "cycle" | "case" | "when" => some filtered
  | "include" | "render" => some inclusion
  | "paginate" => some paginate
  | "capture" | "increment" | "decrement" => some identifier
  | _ => none

end Form

end LiquidTokens.Expression
