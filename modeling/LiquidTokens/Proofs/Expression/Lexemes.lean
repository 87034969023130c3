import LiquidTokens.Proofs.Expression.Pieces

/-!
Where the tokens of an expression stand in its text.

A stream of one of the standard forms reads its text from the start, without a gap: blanks and line
breaks, which it passes over, and lexemes, each of which it turns into a token on the line where
the lexeme begins. Most tokens are spelled as their text; strings have quotes around it and
subscripts brackets (`Spells`). What it cannot read is the first thing that it names in its error.

A reading forgets which rule made which cut of a scan, and keeps what it was for.

Main statement: `reading_tokenize` (the tokens and the error of a text are those of its reading, and
a longer run would give no more).
-/

namespace LiquidTokens.Expression

open Text (byteLength isBlank lineBreaks)

/-! ### Lexemes -/

/-- The ways in which a token is written. -/
inductive Spells : Token → List Char → Prop where
  /-- As its text. -/
  | plain {token : Token} (noString : token.kind ≠ .string) (noIndex : token.kind ≠ .identIndex) :
      Spells token token.value.toList
  /-- A string stands between quotes. -/
  | quoted {token : Token} {quote : Char} (kind : token.kind = .string)
      (mark : quote = '"' ∨ quote = '\'') : Spells token ([quote] ++ token.value.toList ++ [quote])
  /-- A number stands between brackets. -/
  | index {token : Token} {before after : List Char} (kind : token.kind = .identIndex)
      (blanks : ∀ c ∈ before ++ after, isBlank c = true) :
      Spells token ('[' :: before ++ token.value.toList ++ (after ++ [']']))
  /-- An identifier may stand between quotes and brackets. -/
  | subscript {token : Token} {quote : Char} {before after : List Char}
      (kind : token.kind = .identifier) (mark : quote = '"' ∨ quote = '\'')
      (blanks : ∀ c ∈ before ++ after, isBlank c = true) :
      Spells token ('[' :: before ++ [quote] ++ token.value.toList ++ (quote :: after ++ [']']))

/-- The cause of an error names some characters as what was found. -/
def Names (cause : LexError.Cause) (found : List Char) : Prop :=
  cause = .unexpectedCharacter (String.ofList found)
    ∨ cause = .unknownOperator (String.ofList found)

theorem spells_text (line : Nat) {kind : Kind} (lexeme : List Char) (noString : kind ≠ .string)
    (noIndex : kind ≠ .identIndex) : Spells ⟨line, kind, String.ofList lexeme⟩ lexeme := by
  have spelled : Spells ⟨line, kind, String.ofList lexeme⟩ (String.ofList lexeme).toList :=
    .plain noString noIndex
  rwa [String.toList_ofList] at spelled

theorem spells_of_spelled {form : Form} {kind : Kind} {value lexeme : List Char} (line : Nat)
    (spelled : Spelled form kind value lexeme) :
    Spells ⟨line, kind, String.ofList value⟩ lexeme := by
  cases spelled with
  | plain noString noIndex => exact spells_text line value noString noIndex
  | quoted mark outside =>
      have spells : Spells ⟨line, .string, String.ofList value⟩ _ := .quoted rfl mark
      rwa [String.toList_ofList] at spells
  | index blanks =>
      have spells : Spells ⟨line, .identIndex, String.ofList value⟩ _ := .index rfl blanks
      rwa [String.toList_ofList] at spells
  | @subscript quote _ before after loop mark outside blanks =>
      have spells : Spells ⟨line, .identifier, String.ofList value⟩ _ := .subscript rfl mark blanks
      rw [String.toList_ofList] at spells
      simpa using spells

theorem names_of_offends {form : Form} {cause : LexError.Cause} {found : List Char}
    (offends : Offends form cause found) : Names cause found := by
  cases offends with
  | character c => exact .inl rfl
  | operator boolean short marks => exact .inr rfl

/-! ### Readings -/

/-- A text read from some position on, up to its end or an error; `read` is what comes before in
the text, whose first line is `first`. -/
inductive Reading (first : Nat) :
    (read rest : List Char) → List Token → Option LexError → Prop where
  | ended {read : List Char} : Reading first read [] [] none
  | passed {read piece left : List Char} {tokens : List Token} {error : Option LexError}
      (nonempty : piece ≠ []) (later : Reading first (read ++ piece) left tokens error) :
      Reading first read (piece ++ left) tokens error
  | token {read lexeme left : List Char} {token : Token} {tokens : List Token}
      {error : Option LexError} (nonempty : lexeme ≠ []) (spelled : Spells token lexeme)
      (line : token.line = first + lineBreaks read)
      (later : Reading first (read ++ lexeme) left tokens error) :
      Reading first read (lexeme ++ left) (token :: tokens) error
  | failed {read found left : List Char} {cause : LexError.Cause} (nonempty : found ≠ [])
      (names : Names cause found) :
      Reading first read (found ++ left) [] (some ⟨cause, first + lineBreaks read,
        ⟨byteLength read, byteLength read + byteLength found⟩⟩)

theorem reading_of_scans {form : Form} {first : Nat} {read rest : List Char} {tokens : List Token}
    {error : Option LexError} (scans : Scans form first read rest tokens error) :
    Reading first read rest tokens error := by
  induction scans with
  | ended => exact .ended
  | passed found sense later ih =>
      obtain ⟨split, nonempty⟩ := split_of_scan found
      rw [split]
      exact .passed nonempty ih
  | token found sense later ih =>
      obtain ⟨cuts, known⟩ := cut?_of_scan found
      obtain ⟨split, nonempty⟩ := split_of_scan found
      rw [split]
      exact .token nonempty (spells_of_spelled _ (spelled_of_cut known cuts sense)) rfl ih
  | failed found sense =>
      obtain ⟨cuts, known⟩ := cut?_of_scan found
      obtain ⟨split, nonempty⟩ := split_of_scan found
      rw [split]
      exact .failed nonempty (names_of_offends (offends_of_cut known cuts sense))

/-- The tokens of a text and its error are those of a reading of all of it, and it would give no
more if it were asked more often. -/
theorem reading_tokenize (form : Form) (text : String) (line : Nat) :
    ∃ tokens error, form.grammar.tokenize text line = ⟨tokens, error⟩
      ∧ Reading line [] text.toList tokens error
      ∧ ∀ count, text.length < count →
          (Stream.start form.grammar text line).take count = ⟨tokens, error⟩ := by
  obtain ⟨tokens, error, scans⟩ := exists_scans form line [] text.toList
  obtain ⟨run, longer⟩ := tokenize_of_scans scans
  exact ⟨tokens, error, run, reading_of_scans scans, longer⟩

end LiquidTokens.Expression
