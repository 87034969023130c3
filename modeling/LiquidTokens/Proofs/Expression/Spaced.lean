import LiquidTokens.Proofs.Expression.FirstRule

/-!
Lexemes that stand apart are read back.

Each form has its own lexemes (`Lexeme`). A text made of lexemes with spaces, tabs or line breaks
between them is read without an error, and gives one token for each lexeme, of its kind, with its
text and on its line. What a lexeme would become together with the characters behind it does not
matter, since none of them belongs to it: no rule reads on over a separator, except inside quotes
and brackets.

Main statement: `tokenize_lexemes`.
-/

namespace LiquidTokens.Expression

open Text (dropWhile_append_of_head isBlank isDigit isWord lineBreaks)

/-! ### Lexemes of a form -/

namespace Form

/-- Numbers may have a point. -/
def hasFloats : Form → Bool
  | identifier | paginate => false
  | _ => true

/-- The kinds of the punctuation marks of a form. In a loop an opening bracket is none, since it
belongs to a subscript. -/
def marks : Form → List Kind
  | identifier | paginate => [.dot, .lBracket, .rBracket]
  | filtered => [.negative, .dot, .comma, .lBracket, .rBracket, .colon, .pipe]
  | assignment => [.assign, .negative, .dot, .comma, .lBracket, .rBracket, .colon, .pipe]
  | boolean => [.negative, .dot, .lBracket, .rBracket, .colon]
  | inclusion => [.negative, .dot, .comma, .lBracket, .rBracket, .colon]
  | loop => [.range, .dot, .lParen, .rParen, .rBracket, .colon, .pipe]

/-- The kind of a name: a keyword of the form, if it spells one. -/
def kindOfName (form : Form) (name : List Char) : Kind :=
  match form.keywords.find? (·.spelling == String.ofList name) with
  | some word => .keyword word
  | none => .identifier

end Form

/-- The lexemes of a form, each with the kind and the text of its token. -/
inductive Lexeme (form : Form) : Kind → (value lexeme : List Char) → Prop where
  | integer {number : List Char} (numeral : IsNumeral form.signed number) :
      Lexeme form .integer number number
  /-- There need not be digits behind the point. -/
  | float {number fraction : List Char} (floats : form.hasFloats = true)
      (numeral : IsNumeral form.signed number) (digits : ∀ c ∈ fraction, isDigit c = true) :
      Lexeme form .float (number ++ '.' :: fraction) (number ++ '.' :: fraction)
  | string {quote : Char} {value : List Char} (strings : form ≠ .loop)
      (mark : quote = '"' ∨ quote = '\'') (outside : quote ∉ value) :
      Lexeme form .string value (quote :: value ++ [quote])
  | name {name : List Char} (isName : form.IsName name)
      (noDigit : ∀ c ∈ name.head?, isDigit c = false) : Lexeme form (form.kindOfName name) name name
  | mark {kind : Kind} (member : kind ∈ form.marks) :
      Lexeme form kind kind.name.toList kind.name.toList
  | comparison (op : Comparison) (conditions : form = .boolean) :
      Lexeme form (.comparison op) op.symbol.toList op.symbol.toList
  | index {number before after : List Char} (loops : form = .loop) (numeral : IsNumeral true number)
      (blanks : ∀ c ∈ before ++ after, isBlank c = true) :
      Lexeme form .identIndex number ('[' :: before ++ number ++ (after ++ [']']))
  | subscript {quote : Char} {value before after : List Char} (loops : form = .loop)
      (mark : quote = '"' ∨ quote = '\'') (outside : quote ∉ value)
      (blanks : ∀ c ∈ before ++ after, isBlank c = true) :
      Lexeme form .identifier value
        ('[' :: before ++ (quote :: value ++ [quote]) ++ (after ++ [']']))

/-! ### One lexeme -/

/-- Every rule for tokens has its lexemes, except for the opening bracket of a loop. -/
theorem kind_of_rule {form : Form} {kind : Kind} (known : .token kind ∈ form.rules.map Prod.fst) :
    kind ∈ form.marks ∨ kind = .integer ∨ kind = .identifier
      ∨ kind = .float ∧ form.hasFloats = true ∨ kind = .string ∧ form ≠ .loop
      ∨ form = .loop ∧ (kind = .identIndex ∨ kind = .lBracket) := by
  cases form <;>
    simp [Form.rules, pathRules, filterRules, assignmentRules, conditionRules, includeRules,
      loopRules, Form.marks, Form.hasFloats] at known ⊢ <;>
    tauto

/-- A text that is left begins with a separator, or there is none. -/
def Apart (left : List Char) : Prop :=
  ∀ c ∈ left.head?, IsSeparator c

/-- What stands before other text is read as a token. -/
def ReadAs (form : Form) (kind : Kind) (value lexeme left : List Char) : Prop :=
  ∃ rule, form.scan (lexeme ++ left) = some (rule, ⟨value, lexeme, left⟩)
    ∧ form.sense rule value = .token kind value

/-- The first character of a number. -/
def isNumeric (c : Char) : Bool :=
  isDigit c || c == '-'

/-- A rule begins with one of a few characters, and none of them is of a sort. -/
def Rule.begins (rule : Rule) (outside : Char → Bool) : Bool :=
  rule.heads?.any fun heads => heads.all fun c => !outside c

section Lexemes

variable {form : Form} {left : List Char}

theorem mayBegin_of_begins {rule : Rule} {outside : Char → Bool}
    (begins : rule.begins outside = true) {c : Char} (member : outside c = true) :
    form.mayBegin rule c = false := by
  unfold Rule.begins at begins
  cases few : rule.heads? with
  | none => simp [few] at begins
  | some heads =>
      rw [few, Option.any_some, List.all_eq_true] at begins
      simp only [Form.mayBegin, few, List.contains_eq_mem, decide_eq_false_iff_not]
      intro inside
      have other := begins c inside
      rw [member] at other
      cases other

/-- Nothing that a lexeme could be read on with is a separator. -/
theorem separator_ends (form : Form) {c : Char} (separator : IsSeparator c) :
    isDigit c = false ∧ isWord c = false ∧ form.continuesName c = false ∧ c ≠ '?' ∧ c ≠ '.'
      ∧ isOperatorMark c = false := by
  rcases separator with rfl | rfl | rfl <;> cases form <;> decide +kernel

theorem Apart.noDigit (apart : Apart left) : ∀ c ∈ left.head?, isDigit c = false :=
  fun c first => (separator_ends .loop (apart c first)).1

theorem Apart.noWord (apart : Apart left) : left.head?.any isWord = false := by
  cases left with
  | nil => rfl
  | cons c rest => exact (separator_ends .loop (apart c rfl)).2.1

theorem Apart.noPoint (apart : Apart left) : left.head? ≠ some '.' := by
  intro point
  exact (separator_ends .loop (apart '.' point)).2.2.2.2.1 rfl

theorem Apart.past?_point (apart : Apart left) : past? '.' left = none := by
  cases left with
  | nil => rfl
  | cons c rest =>
      have other : c ≠ '.' := by
        rintro rfl
        exact apart.noPoint rfl
      simp [past?, other]

/-! ### Numbers -/

theorem IsNumeral.head {signed : Bool} {number : List Char} (numeral : IsNumeral signed number) :
    ∃ c more, number = c :: more ∧ isNumeric c = true := by
  obtain ⟨front, digits, rfl, sign, nonempty, inside⟩ := numeral
  obtain ⟨d, digits, rfl⟩ := List.exists_cons_of_ne_nil nonempty
  rcases sign with rfl | ⟨-, rfl⟩
  · exact ⟨d, digits, rfl, by simp [isNumeric, inside]⟩
  · exact ⟨'-', d :: digits, rfl, rfl⟩

/-- Where a number stands, rules that begin otherwise read nothing. -/
theorem IsNumeral.cut?_of_begins {signed : Bool} {number : List Char} {rule : Rule}
    (numeral : IsNumeral signed number) (begins : rule.begins isNumeric = true)
    (left : List Char) : form.cut? rule (number ++ left) = none := by
  obtain ⟨c, more, rfl, numeric⟩ := numeral.head
  exact cut?_of_mayBegin (mayBegin_of_begins begins numeric)

theorem IsNumeral.weaken {signed : Bool} {number : List Char} (numeral : IsNumeral signed number) :
    IsNumeral true number := by
  obtain ⟨front, digits, split, sign, rest⟩ := numeral
  exact ⟨front, digits, split, sign.imp_right fun signs => ⟨rfl, signs.2⟩, rest⟩

/-- Before integers only other numbers are tried that begin alike. -/
theorem earlier_integer (form : Form) : .token .integer ∈ form.rules.map Prod.fst
    ∧ ∀ other ∈ form.earlier (.token .integer),
      other = .token .float ∨ other = .openFloat ∨ other.begins isNumeric = true := by
  cases form <;> decide +kernel

theorem earlier_float (form : Form) (floats : form.hasFloats = true) :
    .token .float ∈ form.rules.map Prod.fst
      ∧ ∀ other ∈ form.earlier (.token .float), other.begins isNumeric = true := by
  revert floats
  cases form <;> decide +kernel

theorem earlier_openFloat : .openFloat ∈ Form.loop.rules.map Prod.fst
    ∧ ∀ other ∈ Form.loop.earlier .openFloat,
      other = .token .float ∨ other.begins isNumeric = true := by
  decide +kernel

/-- A number is an integer where it ends and neither rule for points reads anything. -/
theorem scan_integer {number : List Char} (numeral : IsNumeral form.signed number)
    (noDigit : ∀ c ∈ left.head?, isDigit c = false)
    (noWord : form.signed = true → left.head?.any isWord = false)
    (noFloat : form.float? (number ++ left) = none)
    (noOpenFloat : openFloat? (number ++ left) = none) :
    form.scan (number ++ left) = some (.token .integer, ⟨number, number, left⟩) := by
  obtain ⟨known, earlier⟩ := earlier_integer form
  have fails : ∀ other ∈ form.earlier (.token .integer),
      form.cut? other (number ++ left) = none := by
    intro other before
    rcases earlier other before with rfl | rfl | begins
    · exact Option.map_eq_none_iff.2 noFloat
    · exact Option.map_eq_none_iff.2 noOpenFloat
    · exact numeral.cut?_of_begins begins left
  have reads : form.integer? (number ++ left) = some (number, left) :=
    integer?_eq_some_iff.2 ⟨rfl, numeral, noDigit, noWord⟩
  exact scan_of_earlier known fails (congrArg (Option.map Cut.whole) reads)

/-- Without a point behind it a number is no float. -/
theorem float?_of_no_point {number : List Char} (numeral : IsNumeral form.signed number)
    (noDigit : ∀ c ∈ left.head?, isDigit c = false) (noPoint : past? '.' left = none) :
    form.float? (number ++ left) = none ∧ openFloat? (number ++ left) = none := by
  have counted {signed : Bool} (numeral : IsNumeral signed number) :
      numeral? signed (number ++ left) = some (number, left) :=
    numeral?_eq_some_iff.2 ⟨rfl, numeral, noDigit⟩
  constructor
  · simp [Form.float?, counted numeral, noPoint]
  · simp [openFloat?, counted numeral.weaken, noPoint]

theorem readAs_integer {number : List Char} (apart : Apart left)
    (numeral : IsNumeral form.signed number) : ReadAs form .integer number number left := by
  obtain ⟨noFloat, noOpenFloat⟩ := float?_of_no_point numeral apart.noDigit apart.past?_point
  exact ⟨_, scan_integer numeral apart.noDigit (fun _ => apart.noWord) noFloat noOpenFloat, rfl⟩

/-- Where numbers are signed, a float has a digit behind its point. -/
theorem float?_of_no_digit {number : List Char} (signed : form.signed = true)
    (numeral : IsNumeral true number) (noDigit : ∀ c ∈ left.head?, isDigit c = false) :
    form.float? (number ++ '.' :: left) = none := by
  have counted : numeral? true (number ++ '.' :: left) = some (number, '.' :: left) :=
    numeral?_eq_some_iff.2 ⟨rfl, numeral, isDigit_point left⟩
  have noDigits : digits? left = none := by
    cases left with
    | nil => rfl
    | cons d rest => exact leading?_of_other (noDigit d rfl)
  simp only [Form.float?, signed, counted, Option.bind_some, past?_eq_some_iff.2 rfl, noDigits,
    if_true, Option.map_none]

/-- In a loop a number that ends with its point has a rule of its own. -/
theorem scan_openFloat {number : List Char} (numeral : IsNumeral true number)
    (noDigit : ∀ c ∈ left.head?, isDigit c = false) (noPoint : left.head? ≠ some '.') :
    Form.loop.scan (number ++ ['.'] ++ left)
      = some (.openFloat, ⟨number ++ ['.'], number ++ ['.'], left⟩) := by
  obtain ⟨known, earlier⟩ := earlier_openFloat
  have fails : ∀ other ∈ Form.loop.earlier .openFloat,
      Form.loop.cut? other (number ++ ['.'] ++ left) = none := by
    intro other before
    rcases earlier other before with rfl | begins
    · rw [List.append_assoc]
      exact Option.map_eq_none_iff.2 (float?_of_no_digit rfl numeral noDigit)
    · rw [List.append_assoc]
      exact numeral.cut?_of_begins begins _
  have reads : openFloat? (number ++ ['.'] ++ left) = some (number ++ ['.'], left) :=
    openFloat?_eq_some_iff.2 ⟨number, rfl, rfl, numeral, noPoint⟩
  exact scan_of_earlier known fails (congrArg (Option.map Cut.whole) reads)

/-- A float goes as far as its digits. -/
theorem scan_float {number fraction : List Char} (floats : form.hasFloats = true)
    (numeral : IsNumeral form.signed number) (digits : ∀ c ∈ fraction, isDigit c = true)
    (nonempty : form.signed = true → fraction ≠ [])
    (noDigit : ∀ c ∈ left.head?, isDigit c = false) :
    form.scan (number ++ '.' :: fraction ++ left) = some
      (.token .float, ⟨number ++ '.' :: fraction, number ++ '.' :: fraction, left⟩) := by
  obtain ⟨known, earlier⟩ := earlier_float form floats
  have reads : form.float? (number ++ '.' :: fraction ++ left)
      = some (number ++ '.' :: fraction, left) :=
    float?_eq_some_iff.2 ⟨number, fraction, rfl, rfl, numeral, digits, nonempty, noDigit⟩
  refine scan_of_earlier known (fun other before => ?_) (congrArg (Option.map Cut.whole) reads)
  rw [List.append_assoc]
  exact numeral.cut?_of_begins (earlier other before) _

theorem readAs_float {number fraction : List Char} (apart : Apart left)
    (floats : form.hasFloats = true) (numeral : IsNumeral form.signed number)
    (digits : ∀ c ∈ fraction, isDigit c = true) :
    ReadAs form .float (number ++ '.' :: fraction) (number ++ '.' :: fraction) left := by
  by_cases pointed : form.signed = true ∧ fraction = []
  · obtain ⟨signed, rfl⟩ := pointed
    obtain rfl : form = .loop := of_decide_eq_true signed
    exact ⟨_, scan_openFloat numeral apart.noDigit apart.noPoint, rfl⟩
  · have nonempty : form.signed = true → fraction ≠ [] := fun signed none =>
      pointed ⟨signed, none⟩
    exact ⟨_, scan_float floats numeral digits nonempty apart.noDigit, rfl⟩

/-! ### Names and strings -/

/-- Before names only numbers are tried that could begin alike. -/
theorem earlier_name (form : Form) : .token .identifier ∈ form.rules.map Prod.fst
    ∧ form.startsName '-' = false ∧ ∀ other ∈ form.earlier (.token .identifier),
      other = .token .integer ∨ other = .token .float ∨ other = .openFloat
        ∨ other.begins form.startsName = true := by
  cases form <;> decide +kernel

theorem sense_name (form : Form) (name : List Char) :
    form.sense (.token .identifier) name = .token (form.kindOfName name) name := by
  have keywords : form.grammar.keywords = form.keywords := rfl
  rw [Form.sense, Form.kindOfName, Grammar.keyword?, keywords]
  cases form.keywords.find? (·.spelling == String.ofList name) <;> rfl

theorem readAs_name {name : List Char} (apart : Apart left) (isName : form.IsName name)
    (noDigit : ∀ c ∈ name.head?, isDigit c = false) :
    ReadAs form (form.kindOfName name) name name left := by
  obtain ⟨known, noHyphen, earlier⟩ := earlier_name form
  have reads : form.name? (name ++ left) = some (name, left) := by
    refine name?_append isName fun c first => ?_
    obtain ⟨-, -, ends, noMark, -⟩ := separator_ends form (apart c first)
    exact ⟨ends, noMark⟩
  have cuts : form.cut? (.token .identifier) (name ++ left) = some ⟨name, name, left⟩ :=
    congrArg (Option.map Cut.whole) reads
  obtain ⟨c, more, mark, rfl, first, -⟩ := isName
  have other : (c == '-') = false := by
    rw [beq_eq_false_iff_ne]
    rintro rfl
    rw [first] at noHyphen
    cases noHyphen
  have number : (isDigit c || (form.signed && c == '-')) = false := by
    rw [noDigit c rfl, other, Bool.and_false, Bool.or_false]
  refine ⟨_, scan_of_earlier known (fun other before => cut?_of_mayBegin ?_) cuts,
    sense_name form _⟩
  rcases earlier other before with rfl | rfl | rfl | begins
  · exact number
  · exact number
  · exact Bool.or_eq_false_iff.2 ⟨noDigit c rfl, other⟩
  · exact mayBegin_of_begins begins first

/-- Before strings nothing is tried that begins with a quote. -/
theorem earlier_string (form : Form) (strings : form ≠ .loop) :
    .token .string ∈ form.rules.map Prod.fst
      ∧ ∀ quote ∈ ['"', '\''], ∀ other ∈ form.earlier (.token .string),
        form.mayBegin other quote = false := by
  revert strings
  cases form <;> decide +kernel

/-- A string is a lexeme whatever follows it. -/
theorem readAs_string {quote : Char} {value : List Char} (strings : form ≠ .loop)
    (mark : quote = '"' ∨ quote = '\'') (outside : quote ∉ value) (left : List Char) :
    ReadAs form .string value (quote :: value ++ [quote]) left := by
  obtain ⟨known, earlier⟩ := earlier_string form strings
  have cuts : form.cut? (.token .string) (quote :: value ++ [quote] ++ left)
      = some ⟨value, quote :: value ++ [quote], left⟩ :=
    quoted?_eq_some_iff.2 ⟨quote, mark, rfl, rfl, outside⟩
  refine ⟨.token .string, scan_of_earlier known (fun other before => ?_) cuts, rfl⟩
  exact cut?_of_mayBegin (earlier quote (by simpa using mark) other before)

/-! ### Punctuation and operators -/

/-- Before a punctuation mark nothing is tried that begins like it, but for two points before
one. -/
theorem earlier_mark (form : Form) : ∀ kind ∈ form.marks, .token kind ∈ form.rules.map Prod.fst
    ∧ kind ∉ [.integer, .float, .string, .identifier, .identIndex]
    ∧ ∀ other ∈ form.earlier (.token kind), other = .token .range ∧ kind = .dot
        ∨ ∀ c ∈ kind.name.toList.head?, form.mayBegin other c = false := by
  cases form <;> decide +kernel

/-- Kinds without a rule of their own sort are read as their name. -/
theorem cut?_mark (form : Form) {kind : Kind}
    (plain : kind ∉ [.integer, .float, .string, .identifier, .identIndex]) :
    (∀ text, form.cut? (.token kind) text = (beginning? kind.name.toList text).map .whole)
      ∧ ∀ value, form.sense (.token kind) value = .token kind value := by
  cases kind <;> first
    | exact ⟨fun text => rfl, fun value => rfl⟩
    | exact absurd (by decide) plain

theorem readAs_mark {kind : Kind} (apart : Apart left) (member : kind ∈ form.marks) :
    ReadAs form kind kind.name.toList kind.name.toList left := by
  obtain ⟨known, plain, earlier⟩ := earlier_mark form kind member
  obtain ⟨c, more, head⟩ := List.exists_cons_of_ne_nil (name_ne_nil kind)
  have fails : ∀ other ∈ form.earlier (.token kind),
      form.cut? other (kind.name.toList ++ left) = none := by
    intro other before
    rcases earlier other before with ⟨rfl, rfl⟩ | begins
    · have single : beginning? ['.', '.'] ('.' :: left) = none := by
        rw [Option.eq_none_iff_forall_ne_some]
        rintro ⟨read, behind⟩ found
        obtain ⟨rfl, split⟩ := beginning?_eq_some_iff.1 found
        obtain ⟨-, rfl⟩ := List.cons_eq_cons.1 split
        exact apart.noPoint rfl
      exact congrArg (Option.map Cut.whole) single
    · rw [head]
      exact cut?_of_mayBegin (begins c (by rw [head]; rfl))
  have reads : beginning? kind.name.toList (kind.name.toList ++ left)
      = some (kind.name.toList, left) := beginning?_eq_some_iff.2 ⟨rfl, rfl⟩
  obtain ⟨cut, sense⟩ := cut?_mark form plain
  have cuts : form.cut? (.token kind) (kind.name.toList ++ left)
      = some ⟨kind.name.toList, kind.name.toList, left⟩ := by
    rw [cut, reads]
    rfl
  exact ⟨.token kind, scan_of_earlier known fails cuts, sense _⟩

theorem earlier_operator : .operator ∈ Form.boolean.rules.map Prod.fst
    ∧ ∀ op ∈ Comparison.all, ∀ c ∈ op.symbol.toList.head?,
      ∀ other ∈ Form.boolean.earlier .operator, Form.boolean.mayBegin other c = false := by
  decide +kernel

theorem operator?_symbol (op : Comparison) (apart : Apart left) :
    operator? (op.symbol.toList ++ left) = some (op.symbol.toList, left) := by
  have ends : ∀ c ∈ left.head?, isOperatorMark c = false := fun c first =>
    (separator_ends .loop (apart c first)).2.2.2.2.2
  have single (mark : Char) (operator : isOperatorMark mark = true) :
      operator? (mark :: left) = some ([mark], left) := by
    cases left with
    | nil => simp [operator?, operator]
    | cons c rest => simp [operator?, operator, ends c rfl]
  cases op with
  | lt => exact single '<' rfl
  | gt => exact single '>' rfl
  | _ => rfl

theorem readAs_comparison (op : Comparison) (apart : Apart left) :
    ReadAs .boolean (.comparison op) op.symbol.toList op.symbol.toList left := by
  obtain ⟨known, earlier⟩ := earlier_operator
  have listed : op ∈ Comparison.all := by cases op <;> decide
  obtain ⟨c, more, head⟩ := List.exists_cons_of_ne_nil (name_ne_nil (.comparison op))
  have symbol : op.symbol.toList = c :: more := head
  have cuts : Form.boolean.cut? .operator (op.symbol.toList ++ left)
      = some ⟨op.symbol.toList, op.symbol.toList, left⟩ :=
    congrArg (Option.map Cut.whole) (operator?_symbol op apart)
  refine ⟨.operator, scan_of_earlier known (fun other before => ?_) cuts, ?_⟩
  · rw [symbol]
    exact cut?_of_mayBegin (earlier op listed c (by rw [symbol]; rfl) other before)
  · simp only [Form.sense, String.ofList_toList, Kind.ofOperator?, Comparison.ofSymbol?_symbol,
      Option.map_some]

/-! ### Subscripts -/

theorem earlier_subscript : .token .identIndex ∈ Form.loop.rules.map Prod.fst
    ∧ .quotedSubscript ∈ Form.loop.rules.map Prod.fst
    ∧ Form.loop.earlier (.token .identIndex) = []
    ∧ Form.loop.earlier .quotedSubscript = [.token .identIndex] := by
  decide

/-- Behind a number in brackets there may stand anything. -/
theorem readAs_index {number before after : List Char} (numeral : IsNumeral true number)
    (blanks : ∀ c ∈ before ++ after, isBlank c = true) (left : List Char) :
    ReadAs .loop .identIndex number ('[' :: before ++ number ++ (after ++ [']'])) left := by
  obtain ⟨known, -, earlier, -⟩ := earlier_subscript
  have trailing : ∀ c ∈ after, isBlank c = true := (List.forall_mem_append.1 blanks).2
  have ends : ∀ c ∈ (after ++ ']' :: left).head?, isDigit c = false := by
    intro c first
    rw [← Bool.not_eq_true]
    intro digit
    cases after with
    | nil =>
        cases first
        exact absurd digit (by decide)
    | cons d more =>
        cases first
        have blank := trailing c List.mem_cons_self
        rw [isBlank_of_isDigit digit] at blank
        cases blank
  have inside : (numeral? true (number ++ (after ++ ']' :: left))).map Cut.whole
      = some ⟨number, number, after ++ ']' :: left⟩ := by
    rw [numeral?_eq_some_iff.2 ⟨rfl, numeral, ends⟩]
    rfl
  have cuts : Form.loop.cut? (.token .identIndex)
      ('[' :: before ++ number ++ (after ++ [']']) ++ left) = some ⟨number, _, left⟩ :=
    (bracketed?_eq_some_iff visible_numeral?).2
      ⟨before, number, after, rfl, rfl, blanks, inside⟩
  exact ⟨.token .identIndex, scan_of_earlier known (by simp [earlier]) cuts, rfl⟩

/-- A quote does not begin a number, so a quoted subscript has no other reading. -/
theorem readAs_subscript {quote : Char} {value before after : List Char}
    (mark : quote = '"' ∨ quote = '\'') (outside : quote ∉ value)
    (blanks : ∀ c ∈ before ++ after, isBlank c = true) (left : List Char) :
    ReadAs .loop .identifier value
      ('[' :: before ++ (quote :: value ++ [quote]) ++ (after ++ [']'])) left := by
  obtain ⟨-, known, -, earlier⟩ := earlier_subscript
  have inside : quoted? (quote :: value ++ [quote] ++ (after ++ ']' :: left))
      = some ⟨value, quote :: value ++ [quote], after ++ ']' :: left⟩ :=
    quoted?_eq_some_iff.2 ⟨quote, mark, rfl, rfl, outside⟩
  have cuts : Form.loop.cut? .quotedSubscript
      ('[' :: before ++ (quote :: value ++ [quote]) ++ (after ++ [']']) ++ left)
        = some ⟨value, _, left⟩ :=
    (bracketed?_eq_some_iff visible_quoted?).2
      ⟨before, quote :: value ++ [quote], after, rfl, rfl, blanks, inside⟩
  have noIndex : Form.loop.cut? (.token .identIndex)
      ('[' :: before ++ (quote :: value ++ [quote]) ++ (after ++ [']']) ++ left) = none := by
    have joined : '[' :: before ++ (quote :: value ++ [quote]) ++ (after ++ [']']) ++ left
        = '[' :: (before ++ quote :: (value ++ [quote] ++ (after ++ ']' :: left))) := by simp
    have leading : ∀ c ∈ before, isBlank c = true := (List.forall_mem_append.1 blanks).1
    have visible (rest : List Char) : ∀ c ∈ (quote :: rest).head?, isBlank c = false := by
      rintro _ ⟨⟩
      rcases mark with rfl | rfl <;> decide
    have other : (isDigit quote || (true && quote == '-')) = false := by
      rcases mark with rfl | rfl <;> decide
    rw [Form.cut?, joined, bracketed?, past?_eq_some_iff.2 rfl, Option.bind_some,
      dropWhile_append_of_head leading (visible _), numeral?_of_other other]
    rfl
  refine ⟨.quotedSubscript, scan_of_earlier known ?_ cuts, rfl⟩
  simpa [earlier] using noIndex

/-- A lexeme that stands apart from what follows is read as its token. -/
theorem Lexeme.readAs {kind : Kind} {value lexeme : List Char}
    (written : Lexeme form kind value lexeme) (apart : Apart left) :
    ReadAs form kind value lexeme left := by
  cases written with
  | integer numeral => exact readAs_integer apart numeral
  | float floats numeral digits => exact readAs_float apart floats numeral digits
  | string strings mark outside => exact readAs_string strings mark outside left
  | name isName noDigit => exact readAs_name apart isName noDigit
  | mark member => exact readAs_mark apart member
  | comparison op conditions =>
      subst conditions
      exact readAs_comparison op apart
  | index loops numeral blanks =>
      subst loops
      exact readAs_index numeral blanks left
  | subscript loops mark outside blanks =>
      subst loops
      exact readAs_subscript mark outside blanks left

end Lexemes

/-! ### Lexemes in a text -/

/-- A lexeme in a text, with its token and the separators before it. -/
structure Entry where
  before : List Char
  kind : Kind
  value : List Char
  lexeme : List Char

/-- The lexeme belongs to its token, and nothing but separators stands before it. -/
structure Entry.Fits (form : Form) (entry : Entry) : Prop where
  lexeme : Lexeme form entry.kind entry.value entry.lexeme
  before : ∀ c ∈ entry.before, IsSeparator c

/-- The text of some lexemes with the separators between them. -/
def written (entries : List Entry) : List Char :=
  entries.flatMap fun entry => entry.before ++ entry.lexeme

/-- The token of each lexeme, on the line where it begins; `read` is what comes before in the text,
whose first line is `first`. -/
def tokensOf (first : Nat) (read : List Char) : List Entry → List Token
  | [] => []
  | entry :: entries =>
      ⟨first + lineBreaks (read ++ entry.before), entry.kind, String.ofList entry.value⟩
        :: tokensOf first (read ++ entry.before ++ entry.lexeme) entries

/-- Lexemes that stand apart, each from the one before it, and separators at the end. -/
structure StandApart (form : Form) (entries : List Entry) (last : List Char) : Prop where
  fits : ∀ entry ∈ entries, entry.Fits form
  separated : ∀ entry ∈ entries.tail, entry.before ≠ []
  last : ∀ c ∈ last, IsSeparator c

/-- Lexemes with separators before each, or only the separators at the end, begin apart. -/
theorem StandApart.apart {form : Form} {entries : List Entry} {last : List Char}
    (standApart : StandApart form entries last)
    (separated : ∀ entry ∈ entries, entry.before ≠ []) : Apart (written entries ++ last) := by
  intro c first
  cases entries with
  | nil => exact standApart.last c (List.mem_of_head? first)
  | cons entry entries =>
      obtain ⟨d, more, split⟩ := List.exists_cons_of_ne_nil (separated entry List.mem_cons_self)
      have fits := standApart.fits entry List.mem_cons_self
      simp only [written, List.flatMap_cons, split, List.cons_append] at first
      cases first
      exact fits.before c (by rw [split]; exact List.mem_cons_self)

theorem scans_lexemes {form : Form} {entries : List Entry} {last : List Char}
    (standApart : StandApart form entries last) (first : Nat) (read : List Char) :
    Scans form first read (written entries ++ last) (tokensOf first read entries) none := by
  induction entries generalizing read with
  | nil =>
      have scans : Scans form first read (last ++ []) [] none :=
        scans_separators (by simp) standApart.last .ended
      rwa [List.append_nil] at scans
  | cons entry entries ih =>
      obtain ⟨fits, others⟩ := List.forall_mem_cons.1 standApart.fits
      have rest : StandApart form entries last :=
        ⟨others, fun entry member => standApart.separated entry (List.mem_of_mem_tail member),
          standApart.last⟩
      have later := ih rest (read ++ entry.before ++ entry.lexeme)
      have apart := rest.apart standApart.separated
      obtain ⟨rule, found, sense⟩ := fits.lexeme.readAs apart
      have split : written (entry :: entries) ++ last
          = entry.before ++ (entry.lexeme ++ (written entries ++ last)) := by
        simp [written]
      rw [split]
      exact scans_separators (isGap_head?_of_token found sense) fits.before
        (.token found sense later)

/-- Lexemes that stand apart are read back. -/
theorem tokenize_lexemes {form : Form} {entries : List Entry} {last : List Char}
    (standApart : StandApart form entries last) (line : Nat) :
    form.grammar.tokenize (String.ofList (written entries ++ last)) line
      = ⟨tokensOf line [] entries, none⟩ := by
  have scans := scans_lexemes standApart line []
  rw [← String.toList_ofList (l := written entries ++ last)] at scans
  exact (tokenize_of_scans scans).1

/-- A name, a keyword, a quoted subscript over two lines and a number that ends with its point. -/
def loopLexemes : List Entry :=
  [⟨[], .identifier, ['i'], ['i']⟩, ⟨[' '], .keyword .inside, ['i', 'n'], ['i', 'n']⟩,
    ⟨['\t', '\n'], .identifier, ['a', '\n', 'b'], ['[', ' ', '"', 'a', '\n', 'b', '"', ']']⟩,
    ⟨[' '], .float, ['-', '1', '.'], ['-', '1', '.']⟩]

theorem tokenize_loopLexemes : StandApart .loop loopLexemes ['\n']
    ∧ Form.loop.grammar.tokenize (String.ofList (written loopLexemes ++ ['\n'])) 3
      = ⟨[⟨3, .identifier, "i"⟩, ⟨3, .keyword .inside, "in"⟩, ⟨4, .identifier, "a\nb"⟩,
          ⟨5, .float, "-1."⟩], none⟩ := by
  have name : Lexeme .loop .identifier ['i'] ['i'] :=
    .name ⟨'i', [], [], rfl, by decide, by simp, .inl rfl⟩ (by decide)
  have keyword : Lexeme .loop (.keyword .inside) ['i', 'n'] ['i', 'n'] :=
    .name ⟨'i', ['n'], [], rfl, by decide, by decide +kernel, .inl rfl⟩ (by decide)
  have subscript : Lexeme .loop .identifier ['a', '\n', 'b']
      ['[', ' ', '"', 'a', '\n', 'b', '"', ']'] :=
    Lexeme.subscript rfl (.inl rfl) (by decide)
      (show ∀ c ∈ [' '] ++ [], isBlank c = true by decide)
  have number : Lexeme .loop .float ['-', '1', '.'] ['-', '1', '.'] :=
    Lexeme.float rfl ⟨['-'], ['1'], rfl, .inr ⟨rfl, rfl⟩, by simp, by decide⟩
      (show ∀ c ∈ [], isDigit c = true by simp)
  have standApart : StandApart .loop loopLexemes ['\n'] := by
    refine ⟨?_, by decide, by decide⟩
    simp only [loopLexemes, List.forall_mem_cons]
    exact ⟨⟨name, by decide⟩, ⟨keyword, by decide⟩, ⟨subscript, by decide⟩, ⟨number, by decide⟩,
      nofun⟩
  exact ⟨standApart, tokenize_lexemes standApart 3⟩

end LiquidTokens.Expression
