import LiquidTokens.Proofs.Expression.Readers

/-!
The rules of the standard forms as readers.

Each rule has a reader, which cuts a part off the beginning of a text (`Form.cut?`). It looks as
far ahead as the pattern of the rule does: an integer of a loop is not followed by a letter, and a
float that ends with its point is not followed by another one.

Main statements: `integer?_eq_some_iff`, `float?_eq_some_iff`, `openFloat?_eq_some_iff` and
`name?_append` (what the readers with a rule of their own accept), and `split_of_cut?` (a rule cuts
a text in two, and the first part is not empty).
-/

namespace LiquidTokens.Expression

open Pattern
open Text (byteLength dropWhile_append_of_head isBlank isDigit isWord takeWhile_append_of_head)

/-! ### Characters -/

def isAsciiLetter (c : Char) : Bool :=
  ('a' ≤ c && c ≤ 'z') || ('A' ≤ c && c ≤ 'Z')

/-- A character of a name after its first, apart from a question mark. -/
def isNameMark (c : Char) : Bool :=
  isAsciiLetter c || ('0' ≤ c && c ≤ '9') || c == '_' || c == '-'

def isOperatorMark (c : Char) : Bool :=
  c == '!' || c == '=' || c == '<' || c == '>'

namespace Form

/-- Numbers carry their sign. -/
def signed (form : Form) : Bool :=
  decide (form = .loop)

/-- Blanks without meaning, apart from line breaks. -/
def isGap (form : Form) (c : Char) : Bool :=
  c == ' ' || c == '\t' || (form.signed && c == '\r')

/-- The first character of a name. -/
def startsName (form : Form) (c : Char) : Bool :=
  match form with
  | .loop => isAsciiLetter c || c == '_'
  | _ => isWord c

/-- A later character of a name. -/
def continuesName (form : Form) (c : Char) : Bool :=
  match form with
  | .loop => isWord c || c == '-'
  | .boolean | .inclusion => isNameMark c || c == '?'
  | _ => isNameMark c

/-! ### Readers of rules -/

/-- An integer. With a sign it must end where a word ends. -/
def integer? (form : Form) (text : List Char) : Option (List Char × List Char) :=
  (numeral? form.signed text).bind fun (number, left) =>
    if form.signed && left.head?.any isWord then none else some (number, left)

/-- A number with a point. With a sign it has digits behind the point. -/
def float? (form : Form) (text : List Char) : Option (List Char × List Char) :=
  (numeral? form.signed text).bind fun (number, behind) =>
    (past? '.' behind).bind fun rest =>
      if form.signed then
        (digits? rest).map fun (digits, left) => (number ++ '.' :: digits, left)
      else some (number ++ '.' :: rest.takeWhile isDigit, rest.dropWhile isDigit)

/-- A name. In a loop a question mark may be its last character. -/
def name? (form : Form) (text : List Char) : Option (List Char × List Char) :=
  (leading? form.startsName form.continuesName text).map fun (name, rest) =>
    match if form.signed then past? '?' rest else none with
    | some left => (name ++ ['?'], left)
    | none => (name, rest)

end Form

/-- A number that ends with its point, which another point must not follow. -/
def openFloat? (text : List Char) : Option (List Char × List Char) :=
  (numeral? true text).bind fun (number, behind) =>
    (past? '.' behind).bind fun left =>
      if left.head? = some '.' then none else some (number ++ ['.'], left)

/-- One or two characters of operators. -/
def operator? : List Char → Option (List Char × List Char)
  | [] => none
  | c :: rest =>
      if isOperatorMark c then
        match rest with
        | [] => some ([c], [])
        | d :: left => if isOperatorMark d then some ([c, d], left) else some ([c], rest)
      else none

/-- A text that begins with the given characters. -/
def beginning? (letters text : List Char) : Option (List Char × List Char) :=
  (text.dropPrefix? letters).map (letters, ·)

/-- A name, with the question mark that may end it in a loop. -/
structure Form.IsName (form : Form) (name : List Char) : Prop where
  split : ∃ c more mark, name = c :: more ++ mark ∧ form.startsName c = true
    ∧ (∀ d ∈ more, form.continuesName d = true) ∧ (mark = [] ∨ form.signed = true ∧ mark = ['?'])

section Cuts

variable {form : Form} {text read left : List Char}

theorem integer?_eq_some_iff : form.integer? text = some (read, left)
    ↔ text = read ++ left ∧ IsNumeral form.signed read ∧ (∀ c ∈ left.head?, isDigit c = false)
      ∧ (form.signed = true → left.head?.any isWord = false) := by
  have bound : form.integer? text = some (read, left)
      ↔ numeral? form.signed text = some (read, left)
        ∧ (form.signed = true → left.head?.any isWord = false) := by
    rw [Form.integer?, Option.bind_eq_some_iff]
    constructor
    · rintro ⟨⟨number, behind⟩, counted, kept⟩
      dsimp only at kept
      split at kept
      · cases kept
      · next ends =>
          cases kept
          exact ⟨counted, by simpa using ends⟩
    · rintro ⟨counted, ends⟩
      exact ⟨_, counted, if_neg (by simpa using ends)⟩
  rw [bound, numeral?_eq_some_iff, and_assoc, and_assoc]

theorem isDigit_point (rest : List Char) : ∀ c ∈ ('.' :: rest).head?, isDigit c = false := by
  rintro _ ⟨⟩
  decide

theorem float?_eq_some_iff : form.float? text = some (read, left)
    ↔ ∃ number fraction, read = number ++ '.' :: fraction ∧ text = read ++ left
      ∧ IsNumeral form.signed number ∧ (∀ c ∈ fraction, isDigit c = true)
      ∧ (form.signed = true → fraction ≠ []) ∧ ∀ c ∈ left.head?, isDigit c = false := by
  constructor
  · intro found
    obtain ⟨⟨number, behind⟩, counted, pointed⟩ := Option.bind_eq_some_iff.1 found
    obtain ⟨rest, dot, kept⟩ := Option.bind_eq_some_iff.1 pointed
    obtain ⟨rfl, numeral, -⟩ := numeral?_eq_some_iff.1 counted
    obtain rfl := past?_eq_some_iff.1 dot
    split at kept
    · next signed =>
        obtain ⟨⟨digits, behind⟩, counted, same⟩ := Option.map_eq_some_iff.1 kept
        cases same
        obtain ⟨rfl, nonempty, inside, ends⟩ := digits?_eq_some_iff.1 counted
        exact ⟨number, digits, rfl, by simp, numeral, inside, fun _ => nonempty, ends⟩
    · next unsigned =>
        cases kept
        refine ⟨number, rest.takeWhile isDigit, rfl, by simp, numeral, ?_, ?_, ?_⟩
        · exact fun c member => List.mem_takeWhile_imp member
        · exact fun signed => absurd signed unsigned
        · exact head?_dropWhile isDigit rest
  · rintro ⟨number, fraction, rfl, rfl, numeral, inside, nonempty, ends⟩
    have counted : numeral? form.signed (number ++ '.' :: fraction ++ left)
        = some (number, '.' :: (fraction ++ left)) :=
      numeral?_eq_some_iff.2 ⟨by simp, numeral, isDigit_point (fraction ++ left)⟩
    simp only [Form.float?, counted, Option.bind_some, past?_eq_some_iff.2 rfl]
    split
    · next signed =>
        rw [digits?_eq_some_iff.2 ⟨rfl, nonempty signed, inside, ends⟩]
        rfl
    · rw [takeWhile_append_of_head inside ends, dropWhile_append_of_head inside ends]

theorem openFloat?_eq_some_iff : openFloat? text = some (read, left)
    ↔ ∃ number, read = number ++ ['.'] ∧ text = read ++ left ∧ IsNumeral true number
      ∧ left.head? ≠ some '.' := by
  constructor
  · intro found
    obtain ⟨⟨number, behind⟩, counted, pointed⟩ := Option.bind_eq_some_iff.1 found
    obtain ⟨rest, dot, kept⟩ := Option.bind_eq_some_iff.1 pointed
    obtain ⟨rfl, numeral, -⟩ := numeral?_eq_some_iff.1 counted
    obtain rfl := past?_eq_some_iff.1 dot
    split at kept
    · cases kept
    · next other =>
        cases kept
        exact ⟨number, rfl, by simp, numeral, other⟩
  · rintro ⟨number, rfl, rfl, numeral, other⟩
    have counted : numeral? true (number ++ ['.'] ++ left) = some (number, '.' :: left) :=
      numeral?_eq_some_iff.2 ⟨by simp, numeral, isDigit_point left⟩
    simp only [openFloat?, counted, Option.bind_some, past?_eq_some_iff.2 rfl, if_neg other]

theorem name_of_name? (found : form.name? text = some (read, left)) :
    text = read ++ left ∧ form.IsName read := by
  obtain ⟨⟨name, rest⟩, begun, same⟩ := Option.map_eq_some_iff.1 found
  obtain ⟨c, more, rfl, rfl, first, inside, -⟩ := leading?_eq_some_iff.1 begun
  dsimp only at same
  split at same
  · next behind mark =>
      cases same
      split at mark
      · next signed =>
          obtain rfl := past?_eq_some_iff.1 mark
          exact ⟨by simp, ⟨c, more, ['?'], rfl, first, inside, .inr ⟨signed, rfl⟩⟩⟩
      · cases mark
  · cases same
    exact ⟨rfl, ⟨c, more, [], by simp, first, inside, .inl rfl⟩⟩

/-- A name is read up to a character that could not belong to it. -/
theorem name?_append {name : List Char} (isName : form.IsName name)
    (ends : ∀ c ∈ left.head?, form.continuesName c = false ∧ c ≠ '?') :
    form.name? (name ++ left) = some (name, left) := by
  obtain ⟨c, more, mark, rfl, first, inside, marked⟩ := isName
  rcases marked with rfl | ⟨signed, rfl⟩
  · rw [List.append_nil]
    have begun : leading? form.startsName form.continuesName (c :: more ++ left)
        = some (c :: more, left) :=
      leading?_eq_some_iff.2 ⟨c, more, rfl, rfl, first, inside, fun d member => (ends d member).1⟩
    have unmarked : past? '?' left = none := by
      cases left with
      | nil => rfl
      | cons d rest => simp [past?, (ends d rfl).2]
    simp only [Form.name?, begun, Option.map_some, unmarked, ite_self]
  · have begun : leading? form.startsName form.continuesName (c :: more ++ ['?'] ++ left)
        = some (c :: more, '?' :: left) := by
      refine leading?_eq_some_iff.2 ⟨c, more, rfl, by simp, first, inside, ?_⟩
      rintro _ ⟨⟩
      obtain rfl : form = .loop := of_decide_eq_true signed
      decide +kernel
    simp only [Form.name?, begun, Option.map_some, signed, if_true, past?_eq_some_iff.2 rfl]

theorem operator_of_operator? (found : operator? text = some (read, left)) :
    text = read ++ left ∧ (read.length = 1 ∨ read.length = 2)
      ∧ ∀ c ∈ read, isOperatorMark c = true := by
  unfold operator? at found
  split at found
  · cases found
  · next c rest =>
      split at found
      · next first =>
          split at found
          · cases found
            exact ⟨rfl, .inl rfl, by simpa using first⟩
          · next d behind =>
              split at found
              · next second =>
                  cases found
                  exact ⟨rfl, .inr rfl, by simp [first, second]⟩
              · cases found
                exact ⟨rfl, .inl rfl, by simpa using first⟩
      · cases found

theorem beginning?_eq_some_iff {letters : List Char} : beginning? letters text = some (read, left)
    ↔ read = letters ∧ text = read ++ left := by
  simp only [beginning?, Option.map_eq_some_iff, List.dropPrefix?_eq_some_iff]
  constructor
  · rintro ⟨_, ⟨front, rfl, same⟩, ⟨⟩⟩
    exact ⟨rfl, by rw [eq_of_beq same]⟩
  · rintro ⟨rfl, rfl⟩
    exact ⟨left, ⟨read, rfl, beq_self_eq_true read⟩, rfl⟩

end Cuts

/-- What a rule cuts off the beginning of a text. -/
def Form.cut? (form : Form) (rule : Rule) (text : List Char) : Option Cut :=
  match rule with
  | .token .integer => (form.integer? text).map .whole
  | .token .float => (form.float? text).map .whole
  | .token .string => quoted? text
  | .token .identifier => (form.name? text).map .whole
  | .token .identIndex => bracketed? (fun inner => (numeral? true inner).map .whole) text
  | .token kind => (beginning? kind.name.toList text).map .whole
  | .quotedSubscript => bracketed? quoted? text
  | .openFloat => (openFloat? text).map .whole
  | .operator => (operator? text).map .whole
  | .newline => (beginning? ['\n'] text).map .whole
  | .skip => (leading? form.isGap form.isGap text).map .whole
  | .illegal => (leading? (fun _ => true) (fun _ => false) text).map .whole

section Splits

variable {form : Form} {text : List Char} {cut : Cut}

theorem IsNumeral.ne_nil {signed : Bool} {number : List Char} (numeral : IsNumeral signed number) :
    number ≠ [] := by
  obtain ⟨front, digits, rfl, -, nonempty, -⟩ := numeral
  simp [nonempty]

theorem visible_quoted? : Visible quoted? where
  split := fun found => (quoted?_eq_some_iff.1 found).choose_spec.2.2.1
  head := by
    intro text cut found
    obtain ⟨quote, mark, read, split, -⟩ := quoted?_eq_some_iff.1 found
    rw [split, read]
    rintro _ ⟨⟩
    rcases mark with rfl | rfl <;> decide

theorem visible_numeral? : Visible fun text => (numeral? true text).map .whole where
  split := by
    intro text cut found
    obtain ⟨⟨number, left⟩, numbered, rfl⟩ := Option.map_eq_some_iff.1 found
    exact (numeral?_eq_some_iff.1 numbered).1
  head := by
    intro text cut found
    obtain ⟨⟨number, left⟩, numbered, rfl⟩ := Option.map_eq_some_iff.1 found
    obtain ⟨rfl, ⟨front, digits, rfl, sign, nonempty, inside⟩, -⟩ := numeral?_eq_some_iff.1 numbered
    obtain ⟨d, digits, rfl⟩ := List.exists_cons_of_ne_nil nonempty
    rcases sign with rfl | ⟨-, rfl⟩
    · rintro _ ⟨⟩
      exact isBlank_of_isDigit (inside d List.mem_cons_self)
    · rintro _ ⟨⟩
      decide

theorem name_ne_nil (kind : Kind) : kind.name.toList ≠ [] := by
  have named : ∀ kind ∈ Kind.all, kind.name.toList ≠ [] := by decide +kernel
  exact named kind kind.mem_all

/-- A rule cuts a text in two parts, of which the first is not empty. -/
theorem split_of_cut? {rule : Rule} (found : form.cut? rule text = some cut) :
    text = cut.read ++ cut.left ∧ cut.read ≠ [] := by
  unfold Form.cut? at found
  split at found
  case h_3 =>
      obtain ⟨quote, -, read, split, -⟩ := quoted?_eq_some_iff.1 found
      exact ⟨split, by simp [read]⟩
  case h_5 =>
      obtain ⟨before, inner, after, read, split, -⟩ :=
        (bracketed?_eq_some_iff visible_numeral?).1 found
      exact ⟨split, by simp [read]⟩
  case h_7 =>
      obtain ⟨before, inner, after, read, split, -⟩ :=
        (bracketed?_eq_some_iff visible_quoted?).1 found
      exact ⟨split, by simp [read]⟩
  all_goals
    obtain ⟨⟨read, left⟩, reader, rfl⟩ := Option.map_eq_some_iff.1 found
  case h_1 =>
      obtain ⟨split, numeral, -⟩ := integer?_eq_some_iff.1 reader
      exact ⟨split, numeral.ne_nil⟩
  case h_2 =>
      obtain ⟨number, fraction, rfl, split, -⟩ := float?_eq_some_iff.1 reader
      exact ⟨split, by simp [Cut.whole]⟩
  case h_4 =>
      obtain ⟨split, ⟨c, more, mark, rfl, -⟩⟩ := name_of_name? reader
      exact ⟨split, by simp [Cut.whole]⟩
  case h_6 kind _ _ _ _ _ =>
      obtain ⟨rfl, split⟩ := beginning?_eq_some_iff.1 reader
      exact ⟨split, name_ne_nil kind⟩
  case h_8 =>
      obtain ⟨number, rfl, split, -⟩ := openFloat?_eq_some_iff.1 reader
      exact ⟨split, by simp [Cut.whole]⟩
  case h_9 =>
      obtain ⟨split, length, -⟩ := operator_of_operator? reader
      refine ⟨split, ?_⟩
      rintro rfl
      simp at length
  case h_10 =>
      obtain ⟨rfl, split⟩ := beginning?_eq_some_iff.1 reader
      exact ⟨split, by simp [Cut.whole]⟩
  all_goals
    obtain ⟨c, rest, rfl, split, -⟩ := leading?_eq_some_iff.1 reader
    exact ⟨split, by simp [Cut.whole]⟩

end Splits

end LiquidTokens.Expression
