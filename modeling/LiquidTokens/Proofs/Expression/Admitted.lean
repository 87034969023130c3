import LiquidTokens.Proofs.Expression.Endings
import LiquidTokens.Proofs.Expression.Spaced
import Mathlib.Data.List.Infix

/-!
Which texts the forms accept, and where they fail.

Whether the text of an expression is read without an error does not depend on how it falls into
tokens. Read character by character (`Travels`), a form passes over the strings, over the characters
that it admits, whatever numbers, names or marks these make up, and in conditions over runs of
operator marks whose blocks are operators. It fails at the first place where none of these stands
(`Barred`): no token begins there, and none that began earlier reads on over it.

Loops are left out, whose tokens depend on one another in other ways, and so are the texts in which
a name may go on with a hyphen or a question mark that the form does not know outside of names
(`Plain`).

Main statement: `errors_iff_travels`.
-/

namespace LiquidTokens.Expression

open Text (Span byteLength dropWhile_append_of_head isDigit isWord lineBreaks
  takeWhile_append_of_head)

/-! ### What a form passes over -/

/-- The characters outside of words that a form has beside those of every form. -/
def Form.ownMarks : Form → List Char
  | identifier | paginate | loop => []
  | filtered => ['-', ':', ',', '|']
  | assignment => ['-', ':', ',', '|', '=']
  | boolean => ['-', ':']
  | inclusion => ['-', ':', ',']

/-- The characters that a form passes over wherever they stand. -/
def Form.admits (form : Form) (c : Char) : Bool :=
  isWord c || [' ', '\t', '\n', '.', '[', ']'].contains c || form.ownMarks.contains c

/-- The operators of conditions. -/
def operators : List (List Char) :=
  [['=', '='], ['!', '='], ['<', '>'], ['<'], ['>'], ['<', '='], ['>', '=']]

/-- A text cut from the left into blocks of two characters; the last one may be a single one. -/
def blocks : List Char → List (List Char)
  | [] => []
  | [c] => [[c]]
  | c :: d :: rest => [c, d] :: blocks rest

/-- A run of operator marks, at least one, that goes on as long as it can. -/
structure OperatorRun (run left : List Char) : Prop where
  nonempty : run ≠ []
  marks : ∀ c ∈ run, isOperatorMark c = true
  ends : ∀ c ∈ left.head?, isOperatorMark c = false

/-- A part of a text that a form passes over; `left` is what follows it. -/
inductive Passable (form : Form) : (piece left : List Char) → Prop where
  /-- A quote, up to the first one of its sort. -/
  | string {quote : Char} {inner left : List Char} (mark : quote = '"' ∨ quote = '\'')
      (outside : quote ∉ inner) : Passable form (quote :: inner ++ [quote]) left
  | character {c : Char} {left : List Char} (admitted : form.admits c = true) :
      Passable form [c] left
  | operators {run left : List Char} (boolean : form = .boolean) (whole : OperatorRun run left)
      (known : ∀ block ∈ blocks run, block ∈ operators) : Passable form run left

/-- A form cannot go on in a text: behind `passed`, it finds `found`. -/
inductive Barred (form : Form) :
    (rest passed found : List Char) → (cause : LexError.Cause) → Prop where
  /-- The first block of a run that is no operator. -/
  | operator {run left bad : List Char} {good others : List (List Char)} (boolean : form = .boolean)
      (whole : OperatorRun run left) (cut : blocks run = good ++ bad :: others)
      (known : ∀ block ∈ good, block ∈ operators) (unknown : bad ∉ operators) :
      Barred form (run ++ left) good.flatten bad (.unknownOperator (String.ofList bad))
  /-- A character that is not admitted. A quote is one without a partner. -/
  | character {c : Char} {left : List Char} (outside : form.admits c = false)
      (noString : c = '"' ∨ c = '\'' → c ∉ left)
      (noOperator : form = .boolean → isOperatorMark c = false) :
      Barred form (c :: left) [] [c] (.unexpectedCharacter (String.ofList [c]))

/-- How a form gets through a text from some position on, to its end or to where it fails; `read` is
what comes before in the text, whose first line is `first`. -/
inductive Travels (form : Form) (first : Nat) :
    (read rest : List Char) → Option LexError → Prop where
  | ended {read : List Char} : Travels form first read [] none
  | passed {read piece left : List Char} {error : Option LexError}
      (passable : Passable form piece left)
      (later : Travels form first (read ++ piece) left error) :
      Travels form first read (piece ++ left) error
  | failed {read rest passed found : List Char} {cause : LexError.Cause}
      (barred : Barred form rest passed found cause) :
      Travels form first read rest (some ⟨cause, first + lineBreaks (read ++ passed),
        ⟨byteLength (read ++ passed), byteLength (read ++ passed) + byteLength found⟩⟩)

/-- A text of a form that is no loop, without the characters that a name of the form may go on with
but that it does not admit. -/
structure Plain (form : Form) (text : List Char) : Prop where
  noLoop : form ≠ .loop
  noHyphen : form = .identifier ∨ form = .paginate → '-' ∉ text
  noQuestionMark : form = .boolean ∨ form = .inclusion → '?' ∉ text

theorem Plain.left {form : Form} {piece left : List Char} (plain : Plain form (piece ++ left)) :
    Plain form left :=
  ⟨plain.noLoop, fun names member => plain.noHyphen names (List.mem_append_right piece member),
    fun names member => plain.noQuestionMark names (List.mem_append_right piece member)⟩

/-! ### One way through a text -/

theorem first_outside_unique {α : Type} {p : α → Prop} {front other behind more : List α} {a b : α}
    (split : front ++ a :: behind = other ++ b :: more) (inside : ∀ x ∈ front, p x)
    (outside : ¬ p a) (otherInside : ∀ x ∈ other, p x) (otherOutside : ¬ p b) :
    front = other ∧ a = b := by
  induction front generalizing other with
  | nil =>
      cases other with
      | nil => exact ⟨rfl, (List.cons_eq_cons.1 split).1⟩
      | cons x other =>
          obtain ⟨rfl, -⟩ := List.cons_eq_cons.1 split
          exact absurd (otherInside a List.mem_cons_self) outside
  | cons y front ih =>
      obtain ⟨first, inside⟩ := List.forall_mem_cons.1 inside
      cases other with
      | nil =>
          obtain ⟨rfl, -⟩ := List.cons_eq_cons.1 split
          exact absurd first otherOutside
      | cons x other =>
          obtain ⟨rfl, rest⟩ := List.cons_eq_cons.1 split
          obtain ⟨rfl, same⟩ := ih rest inside fun x member =>
            otherInside x (List.mem_cons_of_mem _ member)
          exact ⟨rfl, same⟩

section Unique

variable {form : Form} {first : Nat} {read rest piece left : List Char}

theorem not_admits_quote (form : Form) {quote : Char} (mark : quote = '"' ∨ quote = '\'') :
    form.admits quote = false ∧ isOperatorMark quote = false := by
  rcases mark with rfl | rfl <;> cases form <;> decide +kernel

theorem not_admits_operator {c : Char} (operator : isOperatorMark c = true) :
    Form.boolean.admits c = false := by
  simp only [isOperatorMark, Bool.or_eq_true, beq_iff_eq] at operator
  rcases operator with ((rfl | rfl) | rfl) | rfl <;> decide +kernel

theorem OperatorRun.unique {run left other more : List Char} (whole : OperatorRun run left)
    (again : OperatorRun other more) (split : run ++ left = other ++ more) :
    run = other ∧ left = more := by
  have taken := takeWhile_append_of_head whole.marks whole.ends
  rw [split, takeWhile_append_of_head again.marks again.ends] at taken
  subst taken
  exact ⟨rfl, List.append_cancel_left split⟩

theorem OperatorRun.begins {run left : List Char} (whole : OperatorRun run left) {c : Char}
    (split : run ++ left = c :: rest) : isOperatorMark c = true := by
  obtain ⟨d, more, rfl⟩ := List.exists_cons_of_ne_nil whole.nonempty
  obtain ⟨rfl, -⟩ := List.cons_eq_cons.1 split
  exact whole.marks d List.mem_cons_self

theorem Passable.nonempty (passable : Passable form piece left) : piece ≠ [] := by
  cases passable with
  | string => simp
  | character => simp
  | operators _ whole => exact whole.nonempty

/-- The text of a string is settled by the text it begins. -/
theorem string_unique {quote other : Char} {inner left value more : List Char}
    (outside : quote ∉ inner) (otherOutside : other ∉ value)
    (split : quote :: inner ++ [quote] ++ left = other :: value ++ [other] ++ more) :
    quote = other ∧ inner = value ∧ left = more := by
  obtain ⟨rfl, -⟩ := List.cons_eq_cons.1 split
  have found : quotedBy? quote (quote :: inner ++ [quote] ++ left) = some (inner, left) :=
    quotedBy?_eq_some_iff.2 ⟨by simp, outside⟩
  have again : quotedBy? quote (quote :: value ++ [quote] ++ more) = some (value, more) :=
    quotedBy?_eq_some_iff.2 ⟨by simp, otherOutside⟩
  rw [split, again] at found
  cases found
  exact ⟨rfl, rfl, rfl⟩

theorem Passable.unique {other more : List Char} (passable : Passable form piece left)
    (again : Passable form other more) (split : piece ++ left = other ++ more) :
    piece = other ∧ left = more := by
  cases passable with
  | string mark outside =>
      obtain ⟨noCharacter, noOperator⟩ := not_admits_quote form mark
      cases again with
      | string _ otherOutside =>
          obtain ⟨rfl, rfl, rfl⟩ := string_unique outside otherOutside split
          exact ⟨rfl, rfl⟩
      | character admitted =>
          obtain ⟨rfl, -⟩ := List.cons_eq_cons.1 split
          simp [noCharacter] at admitted
      | operators _ whole =>
          have operator := whole.begins split.symm
          simp [noOperator] at operator
  | character admitted =>
      cases again with
      | string mark =>
          obtain ⟨rfl, -⟩ := List.cons_eq_cons.1 split
          simp [not_admits_quote form mark] at admitted
      | character =>
          obtain ⟨rfl, rfl⟩ := List.cons_eq_cons.1 split
          exact ⟨rfl, rfl⟩
      | operators boolean whole =>
          have operator := whole.begins split.symm
          simp [boolean, not_admits_operator operator] at admitted
  | operators boolean whole =>
      cases again with
      | string mark =>
          have operator := whole.begins split
          simp [not_admits_quote form mark] at operator
      | character admitted =>
          have operator := whole.begins split
          simp [boolean, not_admits_operator operator] at admitted
      | operators _ other => exact whole.unique other split

/-- A form does not fail where it could go on. -/
theorem Passable.not_barred {passed found : List Char} {cause : LexError.Cause}
    (passable : Passable form piece left) (split : rest = piece ++ left) :
    ¬ Barred form rest passed found cause := by
  intro barred
  cases passable with
  | string mark outside =>
      cases barred with
      | operator _ whole =>
          have operator := whole.begins split
          simp [not_admits_quote form mark] at operator
      | character _ noString =>
          obtain ⟨rfl, rfl⟩ := List.cons_eq_cons.1 split
          exact noString mark (by simp)
  | character admitted =>
      cases barred with
      | operator boolean whole =>
          have operator := whole.begins split
          simp [boolean, not_admits_operator operator] at admitted
      | character outside =>
          obtain ⟨rfl, -⟩ := List.cons_eq_cons.1 split
          simp [outside] at admitted
  | operators boolean whole known =>
      cases barred with
      | operator _ other cut _ unknown =>
          obtain ⟨rfl, -⟩ := other.unique whole split
          exact unknown (known _ (by rw [cut]; simp))
      | character _ _ noOperator =>
          have operator := whole.begins split.symm
          simp [noOperator boolean] at operator

theorem Barred.unique {again passed found other more : List Char} {cause different : LexError.Cause}
    (barred : Barred form rest passed found cause) (split : again = rest)
    (otherwise : Barred form again other more different) :
    passed = other ∧ found = more ∧ cause = different := by
  cases barred with
  | operator boolean whole cut known unknown =>
      cases otherwise with
      | operator _ run parts inside outside =>
          obtain ⟨rfl, -⟩ := run.unique whole split
          rw [cut] at parts
          obtain ⟨rfl, rfl⟩ := first_outside_unique parts known unknown inside outside
          exact ⟨rfl, rfl, rfl⟩
      | character _ _ noOperator =>
          have operator := whole.begins split.symm
          simp [noOperator boolean] at operator
  | character _ _ noOperator =>
      cases otherwise with
      | operator boolean whole =>
          have operator := whole.begins split
          simp [noOperator boolean] at operator
      | character =>
          obtain ⟨rfl, -⟩ := List.cons_eq_cons.1 split
          exact ⟨rfl, rfl, rfl⟩

theorem not_barred_nil {passed found : List Char} {cause : LexError.Cause} :
    ¬ Barred form [] passed found cause := by
  generalize nothing : ([] : List Char) = rest
  rintro (⟨-, whole, -⟩ | -)
  · exact whole.nonempty (List.append_eq_nil_iff.1 nothing.symm).1
  · cases nothing

/-- There is only one way through a text. -/
theorem Travels.unique {error other : Option LexError}
    (travels : Travels form first read rest error) {again : List Char} (split : again = rest)
    (otherwise : Travels form first read again other) : error = other := by
  induction travels generalizing again other with
  | ended =>
      cases otherwise with
      | ended => rfl
      | passed passable => exact absurd (List.append_eq_nil_iff.1 split).1 passable.nonempty
      | failed barred => exact absurd (split ▸ barred) not_barred_nil
  | passed passable later ih =>
      cases otherwise with
      | ended => exact absurd (List.append_eq_nil_iff.1 split.symm).1 passable.nonempty
      | passed other further =>
          obtain ⟨rfl, rfl⟩ := other.unique passable split
          exact ih rfl further
      | failed barred => exact absurd barred (passable.not_barred split)
  | failed barred =>
      cases otherwise with
      | ended => exact absurd (split ▸ barred) not_barred_nil
      | passed passable => exact absurd barred (passable.not_barred split.symm)
      | failed other =>
          obtain ⟨rfl, rfl, rfl⟩ := barred.unique split other
          rfl

end Unique

/-! ### What rules read -/

section Rules

variable {form : Form} {rule : Rule} {text : List Char} {cut : Cut}

/-- Rules that only loops have are out of the question. -/
theorem not_loop_rule (noLoop : form ≠ .loop) (known : rule ∈ form.rules.map Prod.fst) :
    rule ≠ .token .identIndex ∧ rule ≠ .quotedSubscript ∧ rule ≠ .openFloat := by
  have others : .token .identIndex ∉ form.rules.map Prod.fst
      ∧ .quotedSubscript ∉ form.rules.map Prod.fst ∧ .openFloat ∉ form.rules.map Prod.fst := by
    revert noLoop
    cases form <;> decide
  refine ⟨?_, ?_, ?_⟩ <;> rintro rfl <;> simp_all

theorem admits_of_isWord {c : Char} (word : isWord c = true) : form.admits c = true := by
  simp [Form.admits, word]

theorem admits_mark (noLoop : form ≠ .loop) :
    ∀ kind ∈ form.marks, ∀ c ∈ kind.name.toList, form.admits c = true := by
  revert noLoop
  cases form <;> decide +kernel

/-- The later characters of names are word characters, but for a hyphen. -/
theorem isWord_of_isNameMark {c : Char} (mark : isNameMark c = true) (other : c ≠ '-') :
    isWord c = true := by
  have ascii {last : Char} (least : last.toNat < 0x80) (below : c ≤ last) : c.toNat < 0x80 := by
    rw [Char.le_def, UInt32.le_iff_toNat_le] at below
    exact Nat.lt_of_le_of_lt below least
  simp only [isNameMark, isAsciiLetter, Bool.or_eq_true, Bool.and_eq_true, decide_eq_true_eq,
    beq_iff_eq, other, or_false] at mark
  rcases mark with ((lower | upper) | digit) | rfl
  · simp [isWord, Text.isAlphabetic, ascii (by decide) lower.2, lower]
  · simp [isWord, Text.isAlphabetic, ascii (by decide) upper.2, upper]
  · simp [isWord, isDigit, ascii (by decide) digit.2, digit]
  · decide +kernel

theorem admits_of_name (plain : Plain form text) {name left : List Char}
    (found : form.name? text = some (name, left)) : ∀ c ∈ name, form.admits c = true := by
  obtain ⟨rfl, c, more, mark, rfl, first, inside, marked⟩ := name_of_name? found
  have unsigned : form.signed = false := decide_eq_false plain.noLoop
  have unmarked : mark = [] := marked.resolve_right (by simp [unsigned])
  subst unmarked
  rw [List.append_nil, List.forall_mem_cons]
  have noLoop := plain.noLoop
  refine ⟨admits_of_isWord ?_, fun d member => ?_⟩
  · cases form <;> first | exact first | exact absurd rfl noLoop
  · have here : d ∈ c :: more ++ [] ++ left := by simp [member]
    have goesOn := inside d member
    by_cases hyphen : d = '-'
    · have admits : ¬ (form = .identifier ∨ form = .paginate) := fun names =>
        plain.noHyphen names (hyphen ▸ here)
      subst hyphen
      revert admits noLoop
      cases form <;> decide +kernel
    by_cases question : d = '?'
    · have absent : ¬ (form = .boolean ∨ form = .inclusion) := fun names =>
        plain.noQuestionMark names (question ▸ here)
      subst question
      revert absent noLoop goesOn
      cases form <;> decide +kernel
    · refine admits_of_isWord (isWord_of_isNameMark ?_ hyphen)
      cases form <;> first
        | exact absurd rfl noLoop
        | simpa [Form.continuesName, question] using goesOn

/-- What most rules read is admitted. -/
theorem admits_of_cut (plain : Plain form text) (known : rule ∈ form.rules.map Prod.fst)
    (found : form.cut? rule text = some cut) (noString : rule ≠ .token .string)
    (noOperator : rule ≠ .operator) (noIllegal : rule ≠ .illegal) :
    ∀ c ∈ cut.read, form.admits c = true := by
  have noLoop := plain.noLoop
  have unsigned : form.signed = false := decide_eq_false noLoop
  have digits {number : List Char} (numeral : IsNumeral form.signed number) :
      ∀ c ∈ number, form.admits c = true := by
    obtain ⟨front, digits, rfl, sign, -, inside⟩ := numeral
    obtain rfl : front = [] := sign.resolve_right (by simp [unsigned])
    exact fun c member => admits_of_isWord (Text.isWord_of_isDigit (inside c member))
  unfold Form.cut? at found
  split at found
  case h_3 => contradiction
  case h_5 => exact absurd rfl (not_loop_rule noLoop known).1
  case h_7 => exact absurd rfl (not_loop_rule noLoop known).2.1
  case h_8 => exact absurd rfl (not_loop_rule noLoop known).2.2
  case h_9 => contradiction
  case h_12 => contradiction
  all_goals
    obtain ⟨⟨read, left⟩, reader, rfl⟩ := Option.map_eq_some_iff.1 found
    change ∀ c ∈ read, form.admits c = true
  case h_1 => exact digits (integer?_eq_some_iff.1 reader).2.1
  case h_2 =>
      obtain ⟨number, fraction, rfl, -, numeral, inside, -⟩ := float?_eq_some_iff.1 reader
      rw [List.forall_mem_append, List.forall_mem_cons]
      refine ⟨digits numeral, by simp [Form.admits], fun c member => ?_⟩
      exact admits_of_isWord (Text.isWord_of_isDigit (inside c member))
  case h_4 => exact admits_of_name plain reader
  case h_6 kind noInteger noFloat _ noName noIndex =>
      obtain ⟨rfl, -⟩ := beginning?_eq_some_iff.1 reader
      have mark : kind ∈ form.marks := by
        rcases kind_of_rule known with mark | rfl | rfl | ⟨rfl, -⟩ | ⟨rfl, -⟩ | ⟨loop, -⟩
        · exact mark
        all_goals contradiction
      exact admits_mark noLoop kind mark
  case h_10 =>
      obtain ⟨rfl, -⟩ := beginning?_eq_some_iff.1 reader
      simp [Form.admits]
  case h_11 =>
      obtain ⟨c, more, rfl, -, first, inside, -⟩ := leading?_eq_some_iff.1 reader
      have gaps : ∀ d ∈ c :: more, form.isGap d = true := List.forall_mem_cons.2 ⟨first, inside⟩
      intro d member
      have gap := gaps d member
      simp only [Form.isGap, unsigned, Bool.false_and, Bool.or_false, Bool.or_eq_true,
        beq_iff_eq] at gap
      rcases gap with rfl | rfl <;> simp [Form.admits]

/-- The rules before the one that decides read nothing. -/
theorem fails_of_scan (found : form.scan text = some (rule, cut)) :
    ∀ other ∈ form.earlier rule, form.cut? other text = none := by
  obtain ⟨before, entry, after, split, here, none⟩ := List.findSome?_eq_some_iff.1 found
  obtain ⟨known, -, same⟩ := Option.map_eq_some_iff.1 here
  cases same
  intro other member
  have inFront : form.earlier entry.1 <+: before.map Prod.fst := by
    have stops : (entry.1 :: after.map Prod.fst).takeWhile (· != entry.1) = [] := by simp
    rw [Form.earlier, split, List.map_append, List.map_cons, List.takeWhile_append, stops]
    split
    · rw [List.append_nil]
    · exact List.takeWhile_prefix _
  obtain ⟨failed, listed, rfl⟩ := List.mem_map.1 (inFront.subset member)
  exact Option.map_eq_none_iff.1 (none failed listed)

/-- Every other rule is tried before a character is found to be illegal. -/
theorem mem_earlier_illegal (known : rule ∈ form.rules.map Prod.fst) (other : rule ≠ .illegal) :
    rule ∈ form.earlier .illegal := by
  have last : ∀ rule ∈ form.rules.map Prod.fst, rule ≠ .illegal → rule ∈ form.earlier .illegal := by
    cases form <;> decide
  exact last rule known other

/-- Every character that a form admits outside of words has a rule. -/
theorem exists_mark (noLoop : form ≠ .loop) : ∀ c ∈ ['.', '[', ']'] ++ form.ownMarks,
    ∃ kind ∈ form.marks, kind.name.toList = [c] := by
  revert noLoop
  cases form <;> decide

/-- Where a character is admitted some rule reads it. -/
theorem exists_cut_of_admits (noLoop : form ≠ .loop) {c : Char} (admitted : form.admits c = true)
    (rest : List Char) : ∃ rule cut, rule ∈ form.rules.map Prod.fst ∧ rule ≠ .illegal
      ∧ form.cut? rule (c :: rest) = some cut := by
  have marked (member : c ∈ ['.', '[', ']'] ++ form.ownMarks) : ∃ rule cut,
      rule ∈ form.rules.map Prod.fst ∧ rule ≠ .illegal ∧ form.cut? rule (c :: rest) = some cut := by
    obtain ⟨kind, mark, name⟩ := exists_mark noLoop c member
    obtain ⟨known, plain, -⟩ := earlier_mark form kind mark
    have reads : beginning? kind.name.toList (c :: rest) = some (kind.name.toList, rest) :=
      beginning?_eq_some_iff.2 ⟨rfl, by rw [name]; rfl⟩
    refine ⟨.token kind, .whole (kind.name.toList, rest), known, by simp, ?_⟩
    rw [(cut?_mark form plain).1, reads]
    rfl
  simp only [Form.admits, Bool.or_eq_true, List.contains_eq_mem, decide_eq_true_eq] at admitted
  rcases admitted with (word | everywhere) | own
  · have starts : form.startsName c = true := by
      cases form <;> first | exact word | exact absurd rfl noLoop
    have reads : (form.cut? (.token .identifier) (c :: rest)).isSome = true := by
      simp [Form.cut?, Form.name?, leading?, starts]
    obtain ⟨cut, reads⟩ := Option.isSome_iff_exists.1 reads
    exact ⟨.token .identifier, cut, (earlier_name form).1, by simp, reads⟩
  · simp only [List.mem_cons, List.not_mem_nil, or_false] at everywhere
    rcases everywhere with rfl | rfl | rfl | bracket
    · exact ⟨.skip, _, (gap_rules form).2, by simp, (cut?_of_scan (scan_gap rfl rest)).1⟩
    · exact ⟨.skip, _, (gap_rules form).2, by simp, (cut?_of_scan (scan_gap rfl rest)).1⟩
    · exact ⟨.newline, _, (gap_rules form).1, by simp, (cut?_of_scan (scan_lineBreak form rest)).1⟩
    · exact marked (List.mem_append_left _ (by simpa using bracket))
  · exact marked (List.mem_append_right _ own)

/-- What is found to be illegal is one character, at which the form cannot go on. -/
theorem barred_of_illegal (noLoop : form ≠ .loop) (found : form.scan text = some (.illegal, cut)) :
    ∃ c, cut.value = [c] ∧ cut.read = [c]
      ∧ Barred form text [] [c] (.unexpectedCharacter (String.ofList [c])) := by
  have fails := fails_of_scan found
  obtain ⟨⟨read, left⟩, reads, rfl⟩ := Option.map_eq_some_iff.1 (cut?_of_scan found).1
  obtain ⟨c, more, rfl, rfl, -, inside, -⟩ := leading?_eq_some_iff.1 reads
  obtain rfl : more = [] := List.eq_nil_iff_forall_not_mem.2 fun d member => by
    cases inside d member
  have unread (rule : Rule) (known : rule ∈ form.rules.map Prod.fst) (other : rule ≠ .illegal) :
      form.cut? rule ([c] ++ left) = none := fails rule (mem_earlier_illegal known other)
  refine ⟨c, rfl, rfl, .character ?_ ?_ ?_⟩
  · rw [← Bool.not_eq_true]
    intro admitted
    obtain ⟨rule, cut, known, other, reads⟩ := exists_cut_of_admits noLoop admitted left
    cases (unread rule known other).symm.trans reads
  · intro mark member
    obtain ⟨inner, behind, rfl, outside⟩ := List.eq_append_cons_of_mem member
    have reads : quoted? ([c] ++ (inner ++ c :: behind))
        = some ⟨inner, c :: inner ++ [c], behind⟩ :=
      quoted?_eq_some_iff.2 ⟨c, mark, rfl, by simp, outside⟩
    cases (unread (.token .string) (earlier_string form noLoop).1 (by simp)).symm.trans reads
  · rintro rfl
    rw [← Bool.not_eq_true]
    intro operator
    have unread := Option.map_eq_none_iff.1 (unread .operator earlier_operator.1 (by simp))
    simp only [List.singleton_append, operator?, if_pos operator] at unread
    split at unread
    · cases unread
    · split at unread <;> cases unread

end Rules

/-! ### Runs of operator marks -/

section Operators

variable {form : Form} {first : Nat} {read rest block left : List Char} {rule : Rule} {cut : Cut}
  {tokens : List Token} {error : Option LexError}

theorem ofOperator?_eq_none_iff :
    Kind.ofOperator? (String.ofList block) = none ↔ block ∉ operators := by
  have listed : operators = Comparison.all.map (·.symbol.toList) := rfl
  rw [Kind.ofOperator?, Option.map_eq_none_iff, Comparison.ofSymbol?, List.find?_eq_none, listed]
  simp only [List.mem_map, not_exists, not_and, beq_iff_eq]
  refine forall₂_congr fun op _ => not_congr ⟨?_, ?_⟩
  · rintro same
    rw [same, String.toList_ofList]
  · rintro rfl
    exact String.ofList_toList.symm

/-- Only illegal characters and operators can be errors. -/
theorem sense_ne_error (noOperator : rule ≠ .operator) (noIllegal : rule ≠ .illegal)
    {value : List Char} {cause : LexError.Cause} : form.sense rule value ≠ .error cause := by
  unfold Form.sense
  split <;> first | contradiction | nofun

/-- What is left of a scan behind what its first rule reads. -/
theorem Scans.behind (scans : Scans form first read rest tokens error)
    (found : form.scan rest = some (rule, cut)) :
    (∃ cause, form.sense rule cut.value = .error cause ∧ error = some ⟨cause,
        first + lineBreaks read, ⟨byteLength read, byteLength read + byteLength cut.read⟩⟩)
      ∨ (∀ cause, form.sense rule cut.value ≠ .error cause)
        ∧ ∃ tokens, Scans form first (read ++ cut.read) cut.left tokens error := by
  cases scans with
  | ended => exact absurd rfl (ne_nil_of_scan found)
  | passed here sense later =>
      cases here.symm.trans found
      exact .inr ⟨by simp [sense], _, later⟩
  | token here sense later =>
      cases here.symm.trans found
      exact .inr ⟨by simp [sense], _, later⟩
  | failed here sense =>
      cases here.symm.trans found
      exact .inl ⟨_, sense, rfl⟩

/-- Operators are read only where an operator mark stands. -/
theorem exists_head_of_operator? (found : operator? rest = some (block, left)) :
    ∃ c more, rest = c :: more ∧ isOperatorMark c = true := by
  obtain ⟨rfl, short, marks⟩ := operator_of_operator? found
  cases block with
  | nil => simp at short
  | cons c more => exact ⟨c, more ++ left, rfl, marks c List.mem_cons_self⟩

theorem operatorRun_of_operator? (found : operator? rest = some (block, left)) :
    OperatorRun (rest.takeWhile isOperatorMark) (rest.dropWhile isOperatorMark) := by
  obtain ⟨c, more, rfl, mark⟩ := exists_head_of_operator? found
  exact ⟨by simp [mark], fun d => List.mem_takeWhile_imp, head?_dropWhile isOperatorMark _⟩

/-- At an operator mark no rule but that of operators reads anything. -/
theorem scan_operator (found : operator? rest = some (block, left)) :
    Form.boolean.scan rest = some (.operator, ⟨block, block, left⟩) := by
  have earlier : ∀ c ∈ ['!', '=', '<', '>'], ∀ other ∈ Form.boolean.earlier .operator,
      Form.boolean.mayBegin other c = false := by decide +kernel
  refine scan_of_earlier earlier_operator.1 (fun other before => ?_)
    (congrArg (Option.map Cut.whole) found)
  obtain ⟨c, more, rfl, mark⟩ := exists_head_of_operator? found
  exact cut?_of_mayBegin (earlier c (by simpa [isOperatorMark, or_assoc] using mark) other before)

/-- A block is read by itself: it is an operator, or it is the error. -/
theorem block_of_scans (scans : Scans .boolean first read rest tokens error)
    (found : operator? rest = some (block, left)) :
    block ∉ operators ∧ error = some ⟨.unknownOperator (String.ofList block),
        first + lineBreaks read, ⟨byteLength read, byteLength read + byteLength block⟩⟩
      ∨ block ∈ operators ∧ ∃ tokens, Scans .boolean first (read ++ block) left tokens error := by
  cases known : Kind.ofOperator? (String.ofList block) with
  | none =>
      have sense : Form.boolean.sense .operator block
          = .error (.unknownOperator (String.ofList block)) := by
        simp only [Form.sense, known]
      rcases scans.behind (scan_operator found) with ⟨cause, failed, same⟩ | ⟨fine, -⟩
      · cases sense.symm.trans failed
        exact .inl ⟨ofOperator?_eq_none_iff.1 known, same⟩
      · exact absurd sense (fine _)
  | some kind =>
      have sense : Form.boolean.sense .operator block = .token kind block := by
        simp only [Form.sense, known]
      rcases scans.behind (scan_operator found) with ⟨cause, failed, -⟩ | ⟨-, later⟩
      · cases sense.symm.trans failed
      · refine .inr ⟨?_, later⟩
        by_contra unknown
        rw [ofOperator?_eq_none_iff.2 unknown] at known
        cases known

/-- A run is read block by block, up to its end or to the first block that is no operator. -/
theorem run_of_scans (boolean : form = .boolean) {run : List Char}
    (marks : ∀ c ∈ run, isOperatorMark c = true)
    (ends : ∀ c ∈ left.head?, isOperatorMark c = false)
    (scans : Scans form first read (run ++ left) tokens error) :
    ((∀ block ∈ blocks run, block ∈ operators)
        ∧ ∃ tokens, Scans form first (read ++ run) left tokens error)
      ∨ ∃ good bad others, blocks run = good ++ bad :: others ∧ (∀ block ∈ good, block ∈ operators)
        ∧ bad ∉ operators ∧ error = some ⟨.unknownOperator (String.ofList bad),
          first + lineBreaks (read ++ good.flatten), ⟨byteLength (read ++ good.flatten),
            byteLength (read ++ good.flatten) + byteLength bad⟩⟩ := by
  subst boolean
  induction run using blocks.induct generalizing read tokens with
  | case1 => exact .inl ⟨by simp [blocks], tokens, by simpa using scans⟩
  | case2 c =>
      have found : operator? ([c] ++ left) = some ([c], left) := by
        cases left with
        | nil => simp [operator?, marks c List.mem_cons_self]
        | cons d left => simp [operator?, marks c List.mem_cons_self, ends d rfl]
      rcases block_of_scans scans found with ⟨unknown, same⟩ | ⟨known, tokens, later⟩
      · exact .inr ⟨[], [c], [], rfl, by simp, unknown, by simpa using same⟩
      · exact .inl ⟨by simpa [blocks] using known, tokens, later⟩
  | case3 c d rest ih =>
      obtain ⟨here, others⟩ := List.forall_mem_cons.1 marks
      obtain ⟨second, others⟩ := List.forall_mem_cons.1 others
      have found : operator? (c :: d :: rest ++ left) = some ([c, d], rest ++ left) := by
        simp [operator?, here, second]
      rcases block_of_scans scans found with ⟨unknown, same⟩ | ⟨known, tokens, later⟩
      · exact .inr ⟨[], [c, d], blocks rest, rfl, by simp, unknown, by simpa using same⟩
      · rcases ih others later with ⟨all, tokens, later⟩ | ⟨good, bad, more, cut, inside, rest⟩
        · refine .inl ⟨List.forall_mem_cons.2 ⟨known, all⟩, tokens, ?_⟩
          simpa using later
        · refine .inr ⟨[c, d] :: good, bad, more, by rw [blocks, cut]; rfl,
            List.forall_mem_cons.2 ⟨known, inside⟩, ?_⟩
          simpa using rest

end Operators

/-! ### The way that a scan takes -/

section Scanned

variable {form : Form} {first : Nat} {read rest piece left : List Char} {tokens : List Token}
  {error : Option LexError}

theorem travels_of_admitted (admitted : ∀ c ∈ piece, form.admits c = true)
    (later : Travels form first (read ++ piece) left error) :
    Travels form first read (piece ++ left) error := by
  induction piece generalizing read with
  | nil => simpa using later
  | cons c piece ih =>
      obtain ⟨here, others⟩ := List.forall_mem_cons.1 admitted
      change Travels form first read ([c] ++ (piece ++ left)) error
      exact .passed (.character here) (ih others (by simpa using later))

/-- A scan gets as far as the characters themselves allow. -/
theorem travels_of_scans {read rest : List Char} {tokens : List Token} (plain : Plain form rest)
    (scans : Scans form first read rest tokens error) : Travels form first read rest error := by
  by_cases ended : rest = []
  · subst ended
    cases scans with
    | ended => exact .ended
    | passed found | token found | failed found => exact absurd rfl (ne_nil_of_scan found)
  obtain ⟨rule, cut, found⟩ := exists_scan form ended
  obtain ⟨cuts, written, listed⟩ := cut?_of_scan found
  have known : rule ∈ form.rules.map Prod.fst := List.mem_map.2 ⟨_, listed, rfl⟩
  obtain ⟨split, nonempty⟩ := split_of_scan found
  by_cases illegal : rule = .illegal
  · subst illegal
    obtain ⟨c, value, reads, barred⟩ := barred_of_illegal plain.noLoop found
    rcases scans.behind found with ⟨cause, sense, rfl⟩ | ⟨fine, -⟩
    · have failed : Travels form first read rest (some _) := .failed barred
      rw [value] at sense
      cases sense
      rw [reads]
      simpa using failed
    · exact absurd rfl (fine _)
  -- One step takes all of a run of operator marks, which is scanned operator by operator, so the
  -- recursion is on the length of the text and not along the scan.
  by_cases operator : rule = .operator
  · subst operator
    have boolean : form = .boolean := (form_of_rule form _ listed).2 rfl
    obtain ⟨⟨block, left⟩, reads, rfl⟩ := Option.map_eq_some_iff.1 cuts
    have run := operatorRun_of_operator? reads
    have whole : rest.takeWhile isOperatorMark ++ rest.dropWhile isOperatorMark = rest :=
      List.takeWhile_append_dropWhile
    rw [← whole] at scans ⊢
    rcases run_of_scans boolean run.marks run.ends scans with
      ⟨known, tokens, later⟩ | ⟨good, bad, others, cut, known, unknown, rfl⟩
    · have shorter := length_lt_of_split run.nonempty whole.symm
      have onward := travels_of_scans (Plain.left (whole.symm ▸ plain)) later
      exact .passed (.operators boolean run known) onward
    · exact .failed (.operator boolean run cut known unknown)
  have shorter := length_lt_of_split nonempty split
  obtain ⟨tokens, later⟩ : ∃ tokens, Scans form first (read ++ cut.read) cut.left tokens error := by
    rcases scans.behind found with ⟨cause, sense, -⟩ | ⟨-, later⟩
    · exact absurd sense (sense_ne_error operator illegal)
    · exact later
  have onward := travels_of_scans (split ▸ plain).left later
  by_cases string : rule = .token .string
  · subst string
    obtain ⟨quote, mark, reads, -, outside⟩ := quoted?_eq_some_iff.1 cuts
    rw [split]
    rw [reads] at onward ⊢
    exact .passed (.string mark outside) onward
  · rw [split]
    exact travels_of_admitted (admits_of_cut plain known cuts string operator illegal) onward
termination_by rest.length

end Scanned

/-! ### Errors of a stream -/

namespace Stream

variable {grammar : Grammar} {source : String} {first count : Nat} {stream : Stream}
  {read rest : List Char} {failure : LexError}

/-- An error that a call gives ends the run. -/
theorem Stands.take_of_call (here : Stands grammar source first stream read rest) {calls : Nat}
    (given : (stream.asked calls).next.1 = some (.error failure)) (enough : calls < count) :
    (stream.take count).error = some failure := by
  induction calls generalizing stream read rest count with
  | zero =>
      obtain ⟨count, rfl⟩ : ∃ less, count = less + 1 := ⟨count - 1, by omega⟩
      rw [take_succ]
      rcases answer : stream.next with ⟨item, after⟩
      rw [asked, answer] at given
      obtain rfl : item = some (.error failure) := given
      rfl
  | succ calls ih =>
      obtain ⟨count, rfl⟩ : ∃ less, count = less + 1 := ⟨count - 1, by omega⟩
      have answered := here.answered here.call
      rw [asked] at given
      by_cases token : ∃ token, stream.next.1 = some (.ok token)
      · obtain ⟨token, taken⟩ := token
        obtain ⟨-, passed, piece, left, -, -, -, -, there⟩ := answered.found
        have later := ih there given (Nat.lt_of_succ_lt_succ enough)
        rw [take_succ]
        rcases answer : stream.next with ⟨item, after⟩
        rw [answer] at taken later
        obtain rfl : item = some (.ok token) := taken
        exact later
      · have ended := answered.ends (not_exists.1 token)
        rw [asked_of_finished ended, next_of_finished ended] at given
        cases given

end Stream

/-- The errors of a plain text are told by its characters. The run ends without an error exactly
when the form gets through the text, and otherwise with the error at the place where the form fails;
this is the only error that a call ever gives. -/
theorem errors_iff_travels {form : Form} {source : String} (plain : Plain form source.toList)
    (line : Nat) :
    (∀ error, (form.grammar.tokenize source line).error = error
        ↔ Travels form line [] source.toList error)
      ∧ ∀ failure, (∃ calls, ((Stream.start form.grammar source line).asked calls).next.1
          = some (.error failure)) ↔ Travels form line [] source.toList (some failure) := by
  obtain ⟨tokens, found, scans⟩ := exists_scans form line [] source.toList
  obtain ⟨run, longer⟩ := tokenize_of_scans scans
  have travels := travels_of_scans plain scans
  have unique (error : Option LexError) :
      found = error ↔ Travels form line [] source.toList error :=
    ⟨fun same => same ▸ travels, travels.unique rfl⟩
  refine ⟨fun error => by rw [run]; exact unique error, fun failure => ?_⟩
  rw [← unique (some failure)]
  have start := Stream.stands_start form.grammar source line
  constructor
  · rintro ⟨calls, given⟩
    have before := Nat.le_max_left calls source.length
    have all := Nat.le_max_right calls source.length
    have failed := start.take_of_call given (Nat.lt_succ_of_le before)
    rwa [longer _ (Nat.lt_succ_of_le all)] at failed
  · rintro rfl
    exact ⟨_, Stream.next_asked_of_take (congrArg Run.error (longer _ (Nat.lt_succ_self _)))⟩

/-- A condition in which an operator has a mark too many, behind a string that goes over a line. -/
theorem travels_to_operator : Plain .boolean "é[-1.] <= '\n=' ===b".toList
    ∧ Travels .boolean 3 [] "é[-1.] <= '\n=' ===b".toList
        (some ⟨.unknownOperator "=", 4, ⟨18, 19⟩⟩) := by
  have plain : Plain .boolean "é[-1.] <= '\n=' ===b".toList := ⟨nofun, by decide, by decide⟩
  exact ⟨plain, ((errors_iff_travels plain 3).1 _).1 (by decide +kernel)⟩

end LiquidTokens.Expression
