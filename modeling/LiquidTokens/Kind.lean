/-!
Token kinds. A kind is one of four regions and parts of a template, one of the lexemes
of an expression, a comparison operator or a keyword.

Three spellings belong to a kind: its `name`, shown in listings and equal to the text of
an operator, punctuation mark or keyword; its `code`, a snake-case word used in
serialized output; and its `label`, a capitalised word used when a rule is named.

Main statements: `Kind.ofCode?_eq_some_iff` (a code names its kind), `Kind.name_injective`,
`Keyword.spelling_injective`.
-/

namespace LiquidTokens

/-! ### Comparison operators -/

/-- The comparison operators. -/
inductive Comparison where
  | eq | ne | lg | lt | gt | le | ge
  deriving DecidableEq, Repr

namespace Comparison

/-- The text of the operator. -/
def symbol : Comparison → String
  | eq => "=="
  | ne => "!="
  | lg => "<>"
  | lt => "<"
  | gt => ">"
  | le => "<="
  | ge => ">="

/-- The snake-case word for the operator. -/
def code : Comparison → String
  | eq => "eq"
  | ne => "ne"
  | lg => "lg"
  | lt => "lt"
  | gt => "gt"
  | le => "le"
  | ge => "ge"

/-- The capitalised word for the operator. -/
def label : Comparison → String
  | eq => "Eq"
  | ne => "Ne"
  | lg => "Lg"
  | lt => "Lt"
  | gt => "Gt"
  | le => "Le"
  | ge => "Ge"

/-- Every operator. -/
def all : List Comparison :=
  [eq, ne, lg, lt, gt, le, ge]

/-- The operator with the given text. -/
def ofSymbol? (text : String) : Option Comparison :=
  all.find? (·.symbol == text)

/-- The text of an operator is read back. -/
theorem ofSymbol?_symbol (op : Comparison) : ofSymbol? op.symbol = some op := by
  cases op <;> decide

end Comparison

/-! ### Keywords -/

/-- The words with a meaning of their own in some grammar. -/
inductive Keyword where
  | and | or | contains
  | trueValue | falseValue | nilValue | emptyValue
  | inside | offset | limit | reversed | cols | resume
  | withScope | forEach | asName | pageSize
  deriving DecidableEq, Repr

namespace Keyword

/-- The word as it is written; it also serves as the snake-case code. -/
def spelling : Keyword → String
  | and => "and"
  | or => "or"
  | contains => "contains"
  | trueValue => "true"
  | falseValue => "false"
  | nilValue => "nil"
  | emptyValue => "empty"
  | inside => "in"
  | offset => "offset"
  | limit => "limit"
  | reversed => "reversed"
  | cols => "cols"
  | resume => "continue"
  | withScope => "with"
  | forEach => "for"
  | asName => "as"
  | pageSize => "by"

/-- The capitalised word. -/
def label : Keyword → String
  | and => "And"
  | or => "Or"
  | contains => "Contains"
  | trueValue => "True"
  | falseValue => "False"
  | nilValue => "Nil"
  | emptyValue => "Empty"
  | inside => "In"
  | offset => "Offset"
  | limit => "Limit"
  | reversed => "Reversed"
  | cols => "Cols"
  | resume => "Continue"
  | withScope => "With"
  | forEach => "For"
  | asName => "As"
  | pageSize => "By"

/-- Every keyword. -/
def all : List Keyword :=
  [and, or, contains, trueValue, falseValue, nilValue, emptyValue, inside, offset, limit,
    reversed, cols, resume, withScope, forEach, asName, pageSize]

/-- Keywords with the same spelling are the same. -/
theorem spelling_injective {a b : Keyword} (same : a.spelling = b.spelling) : a = b := by
  revert same
  cases a <;> cases b <;> decide

end Keyword

/-! ### Kinds -/

/-- The kind of a token. -/
inductive Kind where
  | literal | tag | statement | expression
  | identifier | string | integer | float | identIndex
  | dot | comma | lBracket | rBracket | lParen | rParen | colon | pipe | range | assign | negative
  | comparison (op : Comparison)
  | keyword (word : Keyword)
  deriving DecidableEq, Repr

namespace Kind

/-- The name shown in listings. -/
def name : Kind → String
  | literal => "literal"
  | tag => "tag"
  | statement => "statement"
  | expression => "expression"
  | identifier => "identifier"
  | string => "string"
  | integer => "integer"
  | float => "float"
  | identIndex => "identindex"
  | dot => "."
  | comma => ","
  | lBracket => "["
  | rBracket => "]"
  | lParen => "("
  | rParen => ")"
  | colon => ":"
  | pipe => "|"
  | range => ".."
  | assign => "="
  | negative => "-"
  | comparison op => op.symbol
  | keyword word => word.spelling

/-- The snake-case word of serialized output. -/
def code : Kind → String
  | literal => "literal"
  | tag => "tag"
  | statement => "statement"
  | expression => "expression"
  | identifier => "identifier"
  | string => "string"
  | integer => "integer"
  | float => "float"
  | identIndex => "ident_index"
  | dot => "dot"
  | comma => "comma"
  | lBracket => "l_bracket"
  | rBracket => "r_bracket"
  | lParen => "l_paren"
  | rParen => "r_paren"
  | colon => "colon"
  | pipe => "pipe"
  | range => "range"
  | assign => "assign"
  | negative => "negative"
  | comparison op => op.code
  | keyword word => word.spelling

/-- The capitalised word that names the kind in the description of a rule. -/
def label : Kind → String
  | literal => "Literal"
  | tag => "Tag"
  | statement => "Statement"
  | expression => "Expression"
  | identifier => "Identifier"
  | string => "String"
  | integer => "Integer"
  | float => "Float"
  | identIndex => "IdentIndex"
  | dot => "Dot"
  | comma => "Comma"
  | lBracket => "LBracket"
  | rBracket => "RBracket"
  | lParen => "LParen"
  | rParen => "RParen"
  | colon => "Colon"
  | pipe => "Pipe"
  | range => "Range"
  | assign => "Assign"
  | negative => "Negative"
  | comparison op => op.label
  | keyword word => word.label

/-- The spelling of a keyword kind; no other kind has one. -/
def keyword? : Kind → Option String
  | keyword word => some word.spelling
  | _ => none

/-- The kind of a comparison operator with the given text. -/
def ofOperator? (text : String) : Option Kind :=
  (Comparison.ofSymbol? text).map comparison

/-- Every kind. -/
def all : List Kind :=
  [literal, tag, statement, expression, identifier, string, integer, float, identIndex, dot,
    comma, lBracket, rBracket, lParen, rParen, colon, pipe, range, assign, negative]
    ++ Comparison.all.map comparison ++ Keyword.all.map keyword

theorem mem_all (kind : Kind) : kind ∈ all := by
  cases kind with
  | comparison op => cases op <;> decide
  | keyword word => cases word <;> decide
  | _ => decide

/-- The kind with the given code. -/
def ofCode? (text : String) : Option Kind :=
  all.find? (·.code == text)

/-- The code of a kind is read back. -/
theorem ofCode?_code (kind : Kind) : ofCode? kind.code = some kind := by
  have coded : ∀ kind ∈ all, ofCode? kind.code = some kind := by decide +kernel
  exact coded kind kind.mem_all

/-- A code names its kind, and no other text does. -/
theorem ofCode?_eq_some_iff {text : String} {kind : Kind} :
    ofCode? text = some kind ↔ text = kind.code := by
  constructor
  · intro found
    rw [ofCode?] at found
    have named := List.find?_some found
    exact (beq_iff_eq.1 named).symm
  · rintro rfl
    exact kind.ofCode?_code

/-- The kind with the given name. -/
def ofName? (text : String) : Option Kind :=
  all.find? (·.name == text)

/-- The name of a kind is read back. -/
theorem ofName?_name (kind : Kind) : ofName? kind.name = some kind := by
  have named : ∀ kind ∈ all, ofName? kind.name = some kind := by decide +kernel
  exact named kind kind.mem_all

/-- Kinds with the same name are the same. -/
theorem name_injective {a b : Kind} (same : a.name = b.name) : a = b := by
  have read := ofName?_name a
  rw [same, ofName?_name] at read
  exact (Option.some.inj read).symm

/-- A name is one word on one line. -/
theorem solid_name (kind : Kind) : ' ' ∉ kind.name.toList ∧ '\n' ∉ kind.name.toList := by
  have solid : ∀ kind ∈ all, ' ' ∉ kind.name.toList ∧ '\n' ∉ kind.name.toList := by
    decide +kernel
  exact solid kind kind.mem_all

end Kind

end LiquidTokens
