import LiquidTokens.Proofs.Expression.Scanner

/-!
How the text of an expression falls into pieces.

Whatever the text holds, a stream of a standard form cuts it from its beginning into pieces, without
a gap. A piece is either insignificant or the lexeme of one token, and the token's text gives the
lexeme back: quotes and brackets around it are all that is left out. Nothing is left at the end,
unless an error names what stands behind the last piece.

Main statement: `tokenize_cuts_source`.
-/

namespace LiquidTokens.Expression

open Text (Span byteLength isBlank lineBreaks)

/-! ### Pieces -/

/-- A part of a text that means nothing: a line break, or blanks, which in a loop may be carriage
returns. -/
inductive Insignificant (form : Form) : List Char → Prop where
  | lineBreak : Insignificant form ['\n']
  | blanks {piece : List Char} (nonempty : piece ≠ [])
      (members : ∀ c ∈ piece, c = ' ' ∨ c = '\t' ∨ form = .loop ∧ c = '\r') :
      Insignificant form piece

/-- The lexemes of a token of a kind with a text. -/
inductive Spelled (form : Form) : Kind → (value lexeme : List Char) → Prop where
  /-- Most tokens are spelled as their text. -/
  | plain {kind : Kind} {value : List Char} (noString : kind ≠ .string)
      (noIndex : kind ≠ .identIndex) : Spelled form kind value value
  /-- A string stands between two quotes that do not occur in it. -/
  | quoted {quote : Char} {value : List Char} (mark : quote = '"' ∨ quote = '\'')
      (outside : quote ∉ value) : Spelled form .string value (quote :: value ++ [quote])
  /-- A subscript that is a number stands between brackets. -/
  | index {value before after : List Char} (blanks : ∀ c ∈ before ++ after, isBlank c = true) :
      Spelled form .identIndex value ('[' :: before ++ value ++ (after ++ [']']))
  /-- An identifier of a loop may stand between quotes and brackets. -/
  | subscript {quote : Char} {value before after : List Char} (loop : form = .loop)
      (mark : quote = '"' ∨ quote = '\'') (outside : quote ∉ value)
      (blanks : ∀ c ∈ before ++ after, isBlank c = true) :
      Spelled form .identifier value
        ('[' :: before ++ (quote :: value ++ [quote]) ++ (after ++ [']']))

/-- What an error may be about. -/
inductive Offends (form : Form) : LexError.Cause → (found : List Char) → Prop where
  | character (c : Char) : Offends form (.unexpectedCharacter (String.ofList [c])) [c]
  | operator {found : List Char} (boolean : form = .boolean)
      (short : found.length = 1 ∨ found.length = 2)
      (marks : ∀ c ∈ found, c ∈ ['!', '=', '<', '>']) :
      Offends form (.unknownOperator (String.ofList found)) found

/-- A part of a text, and the token of which it is the lexeme, if it is one. -/
structure Piece where
  text : List Char
  token? : Option Token

/-- A piece is insignificant or the lexeme of its token. -/
def Piece.Fits (form : Form) (piece : Piece) : Prop :=
  match piece.token? with
  | none => Insignificant form piece.text
  | some token => piece.text ≠ [] ∧ Spelled form token.kind token.value.toList piece.text

/-- The text that some pieces cover. -/
def covered (pieces : List Piece) : List Char :=
  pieces.flatMap Piece.text

/-- What stands behind the text `before`: nothing, or what an error names. -/
def EndsWith (form : Form) (first : Nat) (before left : List Char) (error : Option LexError) :
    Prop :=
  match error with
  | none => left = []
  | some error => ∃ cause found behind, left = found ++ behind ∧ Offends form cause found
      ∧ error = ⟨cause, first + lineBreaks before,
          ⟨byteLength before, byteLength before + byteLength found⟩⟩

/-! ### One piece -/

section Cuts

variable {form : Form} {rule : Rule} {text : List Char} {cut : Cut}

/-- Only loops have quoted subscripts, and only conditions have operators. -/
theorem form_of_rule (form : Form) : ∀ entry ∈ form.rules,
    (entry.1 = .quotedSubscript → form = .loop) ∧ (entry.1 = .operator → form = .boolean) := by
  cases form <;> decide

theorem rule_of_nothing {value : List Char} (sense : form.sense rule value = .nothing) :
    rule = .newline ∨ rule = .skip := by
  unfold Form.sense at sense
  split at sense
  case h_5 => split at sense <;> cases sense
  case h_6 => exact .inl rfl
  case h_7 => exact .inr rfl
  all_goals cases sense

theorem insignificant_of_cut (found : form.cut? rule text = some cut)
    (sense : form.sense rule cut.value = .nothing) : Insignificant form cut.read := by
  rcases rule_of_nothing sense with rfl | rfl
  · obtain ⟨⟨read, left⟩, reads, rfl⟩ := Option.map_eq_some_iff.1 found
    obtain ⟨rfl, -⟩ := beginning?_eq_some_iff.1 reads
    exact .lineBreak
  · obtain ⟨⟨read, left⟩, reads, rfl⟩ := Option.map_eq_some_iff.1 found
    obtain ⟨c, more, rfl, -, first, inside, -⟩ := leading?_eq_some_iff.1 reads
    refine .blanks (by simp [Cut.whole]) fun d member => ?_
    have gaps : ∀ e ∈ c :: more, form.isGap e = true := List.forall_mem_cons.2 ⟨first, inside⟩
    simpa [Form.isGap, Form.signed, or_assoc] using gaps d member

theorem identifier_or_keyword (grammar : Grammar) (text : List Char) :
    (grammar.keyword? (String.ofList text)).getD .identifier = .identifier
      ∨ ∃ word, (grammar.keyword? (String.ofList text)).getD .identifier = .keyword word := by
  unfold Grammar.keyword?
  cases grammar.keywords.find? (·.spelling == String.ofList text) with
  | none => exact .inl rfl
  | some word => exact .inr ⟨word, rfl⟩

theorem spelled_of_cut (known : ∃ written, (rule, written) ∈ form.rules)
    (found : form.cut? rule text = some cut) {kind : Kind} {value : List Char}
    (sense : form.sense rule cut.value = .token kind value) : Spelled form kind value cut.read := by
  obtain ⟨written, member⟩ := known
  unfold Form.sense at sense
  split at sense
  · cases sense
    obtain ⟨⟨name, left⟩, -, rfl⟩ := Option.map_eq_some_iff.1 found
    change Spelled form ((form.grammar.keyword? (String.ofList name)).getD .identifier) name name
    rcases identifier_or_keyword form.grammar name with plain | ⟨word, keyword⟩
    · rw [plain]
      exact .plain nofun nofun
    · rw [keyword]
      exact .plain nofun nofun
  · next kind other =>
      cases sense
      cases kind with
      | string =>
          obtain ⟨quote, mark, read, -, outside⟩ := quoted?_eq_some_iff.1 found
          rw [read]
          exact .quoted mark outside
      | identIndex =>
          obtain ⟨before, inner, after, read, -, blanks, inside⟩ :=
            (bracketed?_eq_some_iff visible_numeral?).1 found
          obtain ⟨⟨number, left⟩, -, same⟩ := Option.map_eq_some_iff.1 inside
          have value : number = cut.value := congrArg Cut.value same
          have whole : number = inner := congrArg Cut.read same
          rw [read, ← whole, value]
          exact .index blanks
      -- The rules of the other kinds give all that they read.
      | _ =>
          obtain ⟨⟨name, left⟩, -, rfl⟩ := Option.map_eq_some_iff.1 found
          exact .plain nofun nofun
  · cases sense
    obtain ⟨before, inner, after, read, -, blanks, inside⟩ :=
      (bracketed?_eq_some_iff visible_quoted?).1 found
    obtain ⟨quote, mark, whole, -, outside⟩ := quoted?_eq_some_iff.1 inside
    obtain rfl : inner = quote :: cut.value ++ [quote] := whole
    rw [read]
    exact .subscript ((form_of_rule form _ member).1 rfl) mark outside blanks
  · cases sense
    obtain ⟨⟨number, left⟩, -, rfl⟩ := Option.map_eq_some_iff.1 found
    exact .plain nofun nofun
  · split at sense
    · next kind operator =>
        cases sense
        obtain ⟨⟨name, left⟩, -, rfl⟩ := Option.map_eq_some_iff.1 found
        obtain ⟨comparison, -, rfl⟩ := Option.map_eq_some_iff.1 operator
        exact .plain nofun nofun
    · cases sense
  all_goals cases sense

theorem offends_of_cut (known : ∃ written, (rule, written) ∈ form.rules)
    (found : form.cut? rule text = some cut) {cause : LexError.Cause}
    (sense : form.sense rule cut.value = .error cause) : Offends form cause cut.read := by
  obtain ⟨written, member⟩ := known
  unfold Form.sense at sense
  split at sense
  case h_5 =>
      split at sense
      · cases sense
      · cases sense
        obtain ⟨⟨read, left⟩, reads, rfl⟩ := Option.map_eq_some_iff.1 found
        obtain ⟨-, short, marks⟩ := operator_of_operator? reads
        refine .operator ((form_of_rule form _ member).2 rfl) short fun c inside => ?_
        simpa [isOperatorMark, or_assoc] using marks c inside
  case h_8 =>
      cases sense
      obtain ⟨⟨read, left⟩, reads, rfl⟩ := Option.map_eq_some_iff.1 found
      obtain ⟨c, more, rfl, -, -, inside, -⟩ := leading?_eq_some_iff.1 reads
      obtain rfl : more = [] := List.eq_nil_iff_forall_not_mem.2 fun d member => by
        cases inside d member
      exact .character c
  all_goals cases sense

end Cuts

/-! ### All pieces -/

/-- A text that is scanned falls into pieces. -/
theorem pieces_of_scans {form : Form} {first : Nat} {read rest : List Char} {tokens : List Token}
    {error : Option LexError} (scans : Scans form first read rest tokens error) :
    ∃ pieces left, rest = covered pieces ++ left ∧ (∀ piece ∈ pieces, piece.Fits form)
      ∧ tokens = pieces.filterMap Piece.token?
      ∧ EndsWith form first (read ++ covered pieces) left error := by
  induction scans with
  | ended => exact ⟨[], [], rfl, by simp, rfl, rfl⟩
  | @failed read rest rule cut cause found sense =>
      obtain ⟨cuts, known⟩ := cut?_of_scan found
      obtain ⟨split, -⟩ := split_of_scan found
      have offends := offends_of_cut known cuts sense
      exact ⟨[], rest, rfl, by simp, rfl, cause, cut.read, cut.left, split, offends,
        by simp [covered]⟩
  | @passed read rest rule cut tokens error found sense later ih =>
      obtain ⟨cuts, known⟩ := cut?_of_scan found
      obtain ⟨split, -⟩ := split_of_scan found
      obtain ⟨pieces, left, same, fits, rfl, ends⟩ := ih
      have here : Piece.Fits form ⟨cut.read, none⟩ := insignificant_of_cut cuts sense
      refine ⟨⟨cut.read, none⟩ :: pieces, left, ?_, List.forall_mem_cons.2 ⟨here, fits⟩, rfl, ?_⟩
      · simpa [covered, split] using same
      · simpa [covered] using ends
  | @token read rest rule cut kind value tokens error found sense later ih =>
      obtain ⟨cuts, known⟩ := cut?_of_scan found
      obtain ⟨split, nonempty⟩ := split_of_scan found
      obtain ⟨pieces, left, same, fits, rfl, ends⟩ := ih
      have here : Piece.Fits form
          ⟨cut.read, some ⟨first + lineBreaks read, kind, String.ofList value⟩⟩ := by
        have spelled := spelled_of_cut known cuts sense
        rw [← String.toList_ofList (l := value)] at spelled
        exact ⟨nonempty, spelled⟩
      refine ⟨⟨cut.read, some _⟩ :: pieces, left, ?_, List.forall_mem_cons.2 ⟨here, fits⟩, rfl, ?_⟩
      · simpa [covered, split] using same
      · simpa [covered] using ends

/-- The run over a text is finite, and it cuts the text into pieces that are insignificant or
lexemes of its tokens, in order, all of it or up to where its error lies. -/
theorem tokenize_cuts_source (form : Form) (source : String) (line : Nat) :
    ∃ run pieces left, form.grammar.tokenize source line = run
      ∧ (∀ count, source.length < count →
          (Stream.start form.grammar source line).take count = run)
      ∧ source.toList = covered pieces ++ left ∧ (∀ piece ∈ pieces, piece.Fits form)
      ∧ run.tokens = pieces.filterMap Piece.token?
      ∧ EndsWith form line (covered pieces) left run.error := by
  obtain ⟨tokens, error, scans⟩ := exists_scans form line [] source.toList
  obtain ⟨run, longer⟩ := tokenize_of_scans scans
  obtain ⟨pieces, left, split, fits, same, ends⟩ := pieces_of_scans scans
  exact ⟨⟨tokens, error⟩, pieces, left, run, longer, split, fits, same, ends⟩

end LiquidTokens.Expression
