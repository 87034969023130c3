import LiquidTokens.Json.Value
import LiquidTokens.Proofs.Text.Numerals
import LiquidTokens.Proofs.Text.Runs

/-!
JSON texts as lexemes with white space between them.

Lexemes are the six marks of the structure, strings and numbers. A string can be spelled in many
ways, since every character has an escape, and white space may stand before and after every lexeme.
`Spells` says which texts spell given lexemes, and `lexemes?` reads the lexemes of a text. Only what
the values need is covered: numbers without sign, fraction and exponent, no other literals, and no
escapes in pairs.

Main statement: `lexemes?_of_spells` (what a text spells is read from it).
-/

namespace LiquidTokens.Json

open Text (dropWhile_append_of_head hexDigit?_digitChar hexNumber? takeWhile_append_of_head)

/-- A part of a JSON text. -/
inductive Lexeme where
  | mark (c : Char)
  | string (s : String)
  | number (n : Nat)

/-- White space, which has no meaning between lexemes. -/
def isSpace (c : Char) : Bool :=
  c == ' ' || c == '\t' || c == '\n' || c == '\r'

/-- A character that is a lexeme by itself. -/
def isMark (c : Char) : Bool :=
  c == '[' || c == ']' || c == '\x7b' || c == '\x7d' || c == ',' || c == ':'

/-! ### Characters of strings -/

/-- What a character after a backslash stands for. -/
def short? (mark : Char) : Option Char :=
  if mark = '"' ∨ mark = '\\' ∨ mark = '/' then some mark
  else if mark = 'b' then some '\x08'
  else if mark = 't' then some '\t'
  else if mark = 'n' then some '\n'
  else if mark = 'f' then some '\x0c'
  else if mark = 'r' then some '\r'
  else none

/-- The character whose code is given by hexadecimal digits, if there is one. -/
def coded? (digits : List Char) : Option Char :=
  (hexNumber? digits).bind fun code =>
    if (Char.ofNat code).toNat = code then some (Char.ofNat code) else none

/-- The spellings of a character in a string: the character itself, if it is no quote, no backslash
and no control below the space; a short escape; and its code in four hexadecimal digits. -/
inductive Spelling (c : Char) : List Char → Prop where
  | plain (noQuote : c ≠ '"') (noBackslash : c ≠ '\\') (noControl : ¬ c < ' ') : Spelling c [c]
  | short {mark : Char} (known : short? mark = some c) : Spelling c ['\\', mark]
  | code {a b d e : Char} (known : coded? [a, b, d, e] = some c) :
      Spelling c ['\\', 'u', a, b, d, e]

/-- The spellings of the characters of a string. -/
inductive Spellings : List Char → List Char → Prop where
  | nil : Spellings [] []
  | cons {c : Char} {piece chars text : List Char} (first : Spelling c piece)
      (others : Spellings chars text) : Spellings (c :: chars) (piece ++ text)

/-- The characters that a string has up to its closing quote, and what follows. -/
def inside? : List Char → Option (List Char × List Char)
  | [] => none
  | '"' :: rest => some ([], rest)
  | '\\' :: 'u' :: a :: b :: d :: e :: rest =>
      (coded? [a, b, d, e]).bind fun c => (inside? rest).map fun (chars, left) => (c :: chars, left)
  | '\\' :: mark :: rest =>
      (short? mark).bind fun c => (inside? rest).map fun (chars, left) => (c :: chars, left)
  | c :: rest =>
      if c < ' ' then none else (inside? rest).map fun (chars, left) => (c :: chars, left)

/-- A character is read from each of its spellings. -/
theorem inside?_of_spelling {c : Char} {piece : List Char} (spelled : Spelling c piece)
    (rest : List Char) :
    inside? (piece ++ rest) = (inside? rest).map fun (chars, left) => (c :: chars, left) := by
  cases spelled with
  | plain noQuote noBackslash noControl =>
      simp [inside?, noBackslash, noControl]
  | @short mark known =>
      have noCode : mark ≠ 'u' := by rintro rfl; simp [short?] at known
      simp [inside?, noCode, known]
  | code known => simp [inside?, known]

/-- A string is read from each of its spellings. -/
theorem inside?_of_spellings {chars text : List Char} (spelled : Spellings chars text)
    (rest : List Char) : inside? (text ++ '"' :: rest) = some (chars, rest) := by
  induction spelled with
  | nil => simp [inside?]
  | cons first others ih => rw [List.append_assoc, inside?_of_spelling first, ih, Option.map_some]

/-- A control below the space is coded by its two digits. -/
theorem coded?_control {c : Char} (control : c < ' ') :
    coded? ['0', '0', Nat.digitChar (c.toNat / 16), Nat.digitChar (c.toNat % 16)] = some c := by
  have small : c.toNat < 32 := control
  have high := hexDigit?_digitChar (n := c.toNat / 16) (by omega)
  have low := hexDigit?_digitChar (n := c.toNat % 16) (by omega)
  have zero : Text.hexDigit? '0' = some 0 := by decide
  have number : hexNumber? ['0', '0', Nat.digitChar (c.toNat / 16), Nat.digitChar (c.toNat % 16)]
      = some c.toNat := by
    simp [hexNumber?, zero, high, low, Nat.div_add_mod]
  simp [coded?, number, Char.ofNat_toNat]

/-- The escape of a character spells it. -/
theorem spelling_escape (c : Char) : Spelling c (escape c) := by
  unfold escape
  split_ifs with quote backslash back tab feed page carriage control
  · exact .short (by simp [short?, quote])
  · exact .short (by simp [short?, backslash])
  · exact .short (by simp [short?, back])
  · exact .short (by simp [short?, tab])
  · exact .short (by simp [short?, feed])
  · exact .short (by simp [short?, page])
  · exact .short (by simp [short?, carriage])
  · exact .code (coded?_control control)
  · exact .plain quote backslash control

theorem spellings_flatMap_escape (chars : List Char) : Spellings chars (chars.flatMap escape) := by
  induction chars with
  | nil => exact .nil
  | cons c chars ih => exact .cons (spelling_escape c) ih

/-! ### Lexemes -/

/-- The texts of a lexeme. -/
inductive Lexeme.Written : Lexeme → List Char → Prop where
  | mark {c : Char} (known : isMark c = true) : Written (.mark c) [c]
  | string {s : String} {text : List Char} (spelled : Spellings s.toList text) :
      Written (.string s) ('"' :: text ++ ['"'])
  | number (n : Nat) : Written (.number n) (Nat.toDigits 10 n)

/-- A text that does not go on with a number. -/
def EndsNumber (text : List Char) : Prop :=
  ∀ c ∈ text.head?, c.isDigit = false

/-- A lexeme may stand in front of a text: a number only if the text does not go on with it. -/
def Lexeme.EndsBefore : Lexeme → List Char → Prop
  | number _, text => EndsNumber text
  | _, _ => True

/-- The texts that spell lexemes in a row, with white space before and after each. -/
inductive Spells : List Lexeme → List Char → Prop where
  | nil {gap : List Char} (blank : ∀ c ∈ gap, isSpace c = true) : Spells [] gap
  | cons {lexeme : Lexeme} {lexemes : List Lexeme} {gap piece text : List Char}
      (blank : ∀ c ∈ gap, isSpace c = true) (written : lexeme.Written piece)
      (ends : lexeme.EndsBefore text) (others : Spells lexemes text) :
      Spells (lexeme :: lexemes) (gap ++ (piece ++ text))

/-- The lexeme that begins with a character, and what follows it. -/
def lexeme? (c : Char) (rest : List Char) : Option (Lexeme × List Char) :=
  if isMark c then some (.mark c, rest)
  else if c = '"' then
    (inside? rest).map fun (chars, left) => (.string (String.ofList chars), left)
  else if c.isDigit then
    let digits := c :: rest.takeWhile Char.isDigit
    let n := Nat.ofDigitChars 10 digits 0
    -- A number has no zeros in front, so it is written in one way only.
    if Nat.toDigits 10 n = digits then some (.number n, rest.dropWhile Char.isDigit) else none
  else none

/-- The lexemes of a text, of which there are at most so many. -/
def lexemes? (bound : Nat) (text : List Char) : Option (List Lexeme) :=
  match text.dropWhile isSpace with
  | [] => some []
  | c :: rest =>
      match bound with
      | 0 => none
      | bound + 1 =>
          (lexeme? c rest).bind fun (lexeme, left) =>
            (lexemes? bound left).map fun lexemes => lexeme :: lexemes

/-- No mark and no white space is a digit. -/
theorem plain_of_isDigit {c : Char} (digit : c.isDigit = true) :
    isMark c = false ∧ isSpace c = false ∧ c ≠ '"' := by
  have other (d : Char) (known : d.isDigit = false) : c ≠ d := by
    rintro rfl
    rw [digit] at known
    cases known
  simp [isMark, isSpace, other]

theorem isSpace_of_isMark {c : Char} (mark : isMark c = true) : isSpace c = false := by
  simp only [isMark, Bool.or_eq_true, beq_iff_eq] at mark
  rcases mark with ((((rfl | rfl) | rfl) | rfl) | rfl) | rfl <;> rfl

/-- A lexeme is read from each of its texts. -/
theorem lexeme?_of_written {lexeme : Lexeme} {piece rest : List Char}
    (written : lexeme.Written piece) (ends : lexeme.EndsBefore rest) :
    ∃ c more, piece = c :: more ∧ isSpace c = false
      ∧ lexeme? c (more ++ rest) = some (lexeme, rest) := by
  cases written with
  | @mark c known =>
      exact ⟨c, [], rfl, isSpace_of_isMark known, by simp [lexeme?, known]⟩
  | @string s text spelled =>
      refine ⟨'"', text ++ ['"'], rfl, rfl, ?_⟩
      have read := inside?_of_spellings spelled rest
      simp [lexeme?, isMark, read]
  | number n =>
      obtain ⟨c, more, split⟩ := List.exists_cons_of_ne_nil (Nat.toDigits_ne_nil (b := 10) (n := n))
      obtain ⟨first, others⟩ := List.forall_mem_cons.1 (split ▸ Text.isDigit_of_mem_toDigits)
      have value : Nat.ofDigitChars 10 (c :: more) 0 = n := by
        rw [← split, Nat.ofDigitChars_ten_toDigits]
      obtain ⟨noMark, noSpace, noQuote⟩ := plain_of_isDigit first
      refine ⟨c, more, split, noSpace, ?_⟩
      simp [lexeme?, noMark, noQuote, first, takeWhile_append_of_head others ends,
        dropWhile_append_of_head others ends, value, split]

/-- What a text spells is read from it. -/
theorem lexemes?_of_spells {lexemes : List Lexeme} {text : List Char} (spells : Spells lexemes text)
    {bound : Nat} (enough : text.length ≤ bound) : lexemes? bound text = some lexemes := by
  induction spells generalizing bound with
  | @nil gap blank =>
      have skipped : gap.dropWhile isSpace = [] := List.dropWhile_eq_nil_iff.2 blank
      rw [lexemes?.eq_def, skipped]
  | @cons lexeme lexemes gap piece text blank written ends others ih =>
      obtain ⟨c, more, rfl, solid, read⟩ := lexeme?_of_written written ends
      have skipped : (gap ++ (c :: more ++ text)).dropWhile isSpace = c :: (more ++ text) :=
        dropWhile_append_of_head blank (by simpa using solid)
      simp only [List.length_append, List.length_cons] at enough
      obtain ⟨bound, rfl⟩ := Nat.exists_eq_add_one_of_ne_zero (n := bound) (by omega)
      rw [lexemes?.eq_def, skipped]
      simp [read, ih (by omega : text.length ≤ bound)]

end LiquidTokens.Json
