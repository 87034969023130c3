import LiquidTokens.Proofs.Expression.Spaced

/-!
A line break is always between two tokens.

No rule of a form reads on over a line break, except inside quotes and brackets. So a text that ends
with a line break is read like the text without it, whatever comes behind, and what comes behind is
read as if it stood alone, on later lines and at later positions.

A quote without a partner and an opening bracket of a loop are the two exceptions: what stands
behind the line break could be the missing rest. The first is an error by itself, and texts with the
second are left out.

Main statement: `tokenize_append_lineBreak`.
-/

namespace LiquidTokens.Expression

open Text (Span byteLength dropWhile_append_of_stop isDigit isWord lineBreaks
  takeWhile_append_of_stop)

/-! ### Readers in front of a line break -/

/-- What is read and what is left, with more behind that. -/
def leaving (more : List Char) : List Char × List Char → List Char × List Char
  | (read, left) => (read, left ++ more)

/-- A cut with more behind what is left. -/
def Cut.leaving (more : List Char) (cut : Cut) : Cut :=
  { cut with left := cut.left ++ more }

section Readers

variable (text more : List Char)

theorem past?_append_lineBreak {c : Char} (other : c ≠ '\n') :
    past? c (text ++ '\n' :: more) = (past? c text).map (· ++ '\n' :: more) := by
  cases text with
  | nil => simp [past?, Ne.symm other]
  | cons d rest => by_cases same : d = c <;> simp [past?, same]

theorem leading?_append_lineBreak {first further : Char → Bool}
    (begins : text = [] → first '\n' = false) (ends : further '\n' = false) :
    leading? first further (text ++ '\n' :: more)
      = (leading? first further text).map (leaving ('\n' :: more)) := by
  cases text with
  | nil => simp [leading?, begins rfl]
  | cons c rest =>
      have stops : ∀ d ∈ ('\n' :: more).head?, further d = false := by
        rintro _ ⟨⟩
        exact ends
      rw [List.cons_append, leading?, leading?, takeWhile_append_of_stop stops,
        dropWhile_append_of_stop stops]
      split <;> rfl

theorem digits?_append_lineBreak :
    digits? (text ++ '\n' :: more) = (digits? text).map (leaving ('\n' :: more)) :=
  leading?_append_lineBreak text more (fun _ => by decide) (by decide)

theorem numeral?_append_lineBreak (signed : Bool) :
    numeral? signed (text ++ '\n' :: more)
      = (numeral? signed text).map (leaving ('\n' :: more)) := by
  cases signed with
  | false => exact digits?_append_lineBreak text more
  | true =>
      simp only [numeral?, if_true, past?_append_lineBreak text more (by decide : '-' ≠ '\n')]
      cases past? '-' text with
      | none => exact digits?_append_lineBreak text more
      | some rest =>
          simp only [Option.map_some, digits?_append_lineBreak, Option.map_map]
          rfl

theorem operator?_append_lineBreak (nonempty : text ≠ []) :
    operator? (text ++ '\n' :: more) = (operator? text).map (leaving ('\n' :: more)) := by
  have other : isOperatorMark '\n' = false := by decide
  obtain ⟨c, rest, rfl⟩ := List.exists_cons_of_ne_nil nonempty
  cases rest with
  | nil => by_cases mark : isOperatorMark c = true <;> simp [operator?, mark, other, leaving]
  | cons d rest =>
      by_cases mark : isOperatorMark c = true <;> by_cases second : isOperatorMark d = true <;>
        simp [operator?, mark, second, leaving]

theorem beginning?_append_lineBreak {letters : List Char} (outside : '\n' ∉ letters) :
    beginning? letters (text ++ '\n' :: more)
      = (beginning? letters text).map (leaving ('\n' :: more)) := by
  refine Option.ext fun (read, left) => ?_
  rw [beginning?_eq_some_iff, Option.map_eq_some_iff]
  constructor
  · rintro ⟨rfl, split⟩
    obtain ⟨piece, rfl, rest⟩ | ⟨piece, rfl, rest⟩ := List.append_eq_append_iff.1 split
    · cases piece with
      | nil =>
          exact ⟨(text, []), beginning?_eq_some_iff.2 ⟨by simp, by simp⟩, by simp [leaving, rest]⟩
      | cons d piece =>
          obtain ⟨rfl, -⟩ := List.cons_eq_cons.1 rest
          simp at outside
    · exact ⟨(read, piece), beginning?_eq_some_iff.2 ⟨rfl, rfl⟩, by rw [rest]; rfl⟩
  · rintro ⟨⟨front, behind⟩, found, same⟩
    obtain ⟨rfl, rfl⟩ := beginning?_eq_some_iff.1 found
    cases same
    exact ⟨rfl, by simp⟩

end Readers

/-! ### Rules in front of a line break -/

section Rules

variable {form : Form} {rule : Rule} {text : List Char} {cut : Cut}

theorem integer?_append_lineBreak (form : Form) (text more : List Char) :
    form.integer? (text ++ '\n' :: more)
      = (form.integer? text).map (leaving ('\n' :: more)) := by
  have noWord : isWord '\n' = false := by decide +kernel
  simp only [Form.integer?, numeral?_append_lineBreak]
  cases numeral? form.signed text with
  | none => rfl
  | some number =>
      obtain ⟨read, left⟩ := number
      have same : (left ++ '\n' :: more).head?.any isWord = left.head?.any isWord := by
        cases left with
        | nil => simp [noWord]
        | cons c rest => rfl
      simp only [Option.map_some, leaving, Option.bind_some, same]
      split <;> rfl

theorem float?_append_lineBreak (form : Form) (text more : List Char) :
    form.float? (text ++ '\n' :: more) = (form.float? text).map (leaving ('\n' :: more)) := by
  have stops : ∀ d ∈ ('\n' :: more).head?, isDigit d = false := by
    rintro _ ⟨⟩
    decide
  simp only [Form.float?, numeral?_append_lineBreak]
  cases numeral? form.signed text with
  | none => rfl
  | some number =>
      simp only [Option.map_some, leaving, Option.bind_some,
        past?_append_lineBreak _ more (by decide : '.' ≠ '\n')]
      cases past? '.' number.2 with
      | none => rfl
      | some rest =>
          simp only [Option.map_some, Option.bind_some, digits?_append_lineBreak,
            takeWhile_append_of_stop stops, dropWhile_append_of_stop stops]
          split
          · cases digits? rest <;> rfl
          · rfl

theorem openFloat?_append_lineBreak (text more : List Char) :
    openFloat? (text ++ '\n' :: more) = (openFloat? text).map (leaving ('\n' :: more)) := by
  simp only [openFloat?, numeral?_append_lineBreak]
  cases numeral? true text with
  | none => rfl
  | some number =>
      simp only [Option.map_some, leaving, Option.bind_some,
        past?_append_lineBreak _ more (by decide : '.' ≠ '\n')]
      cases past? '.' number.2 with
      | none => rfl
      | some left =>
          have same : (left ++ '\n' :: more).head? = some '.' ↔ left.head? = some '.' := by
            cases left <;> simp
          simp only [Option.map_some, Option.bind_some, same]
          split <;> rfl

theorem name?_append_lineBreak (form : Form) (text more : List Char) :
    form.name? (text ++ '\n' :: more) = (form.name? text).map (leaving ('\n' :: more)) := by
  have begins : form.startsName '\n' = false := by cases form <;> decide +kernel
  have ends : form.continuesName '\n' = false := by cases form <;> decide +kernel
  simp only [Form.name?, leading?_append_lineBreak text more (fun _ => begins) ends]
  cases leading? form.startsName form.continuesName text with
  | none => rfl
  | some name =>
      obtain ⟨read, left⟩ := name
      simp only [Option.map_some, leaving, past?_append_lineBreak _ more (by decide : '?' ≠ '\n')]
      cases form.signed with
      | false => rfl
      | true => cases past? '?' left <;> rfl

/-- What all rules but those for quotes and brackets read does not go on over a line break. -/
theorem cut?_append_lineBreak (form : Form) (noString : rule ≠ .token .string)
    (noIndex : rule ≠ .token .identIndex) (noSubscript : rule ≠ .quotedSubscript)
    (nonempty : text ≠ []) (more : List Char) :
    form.cut? rule (text ++ '\n' :: more)
      = (form.cut? rule text).map (Cut.leaving ('\n' :: more)) := by
  have whole {reader : List Char → Option (List Char × List Char)}
      (same : reader (text ++ '\n' :: more) = (reader text).map (leaving ('\n' :: more))) :
      (reader (text ++ '\n' :: more)).map Cut.whole
        = ((reader text).map Cut.whole).map (Cut.leaving ('\n' :: more)) := by
    rw [same, Option.map_map, Option.map_map]
    rfl
  unfold Form.cut?
  split
  case h_3 | h_5 | h_7 => contradiction
  case h_1 => exact whole (integer?_append_lineBreak form text more)
  case h_2 => exact whole (float?_append_lineBreak form text more)
  case h_4 => exact whole (name?_append_lineBreak form text more)
  case h_6 kind _ _ _ _ _ =>
      exact whole (beginning?_append_lineBreak text more kind.solid_name.2)
  case h_8 => exact whole (openFloat?_append_lineBreak text more)
  case h_9 => exact whole (operator?_append_lineBreak text more nonempty)
  case h_10 =>
      obtain ⟨c, rest, rfl⟩ := List.exists_cons_of_ne_nil nonempty
      refine whole ?_
      by_cases lineBreak : c = '\n' <;>
        simp [beginning?, List.dropPrefix?, lineBreak, leaving]
  case h_11 =>
      have gap : form.isGap '\n' = false := by cases form <;> decide
      exact whole (leading?_append_lineBreak text more (fun _ => gap) gap)
  case h_12 => exact whole (leading?_append_lineBreak text more (absurd · nonempty) rfl)

end Rules

/-! ### Scans in front of a line break -/

section Scan

variable {form : Form} {rule : Rule} {text : List Char} {cut : Cut}

/-- Quotes begin nothing but strings. -/
theorem earlier_illegal_quote (form : Form) : .illegal ∈ form.rules.map Prod.fst
    ∧ ∀ quote ∈ ['"', '\''], ∀ other ∈ form.earlier .illegal,
      other = .token .string ∨ form.mayBegin other quote = false := by
  cases form <;> decide +kernel

/-- A quote without a partner is illegal. -/
theorem scan_quote {quote : Char} {rest : List Char} (mark : quote = '"' ∨ quote = '\'')
    (unclosed : quoted? (quote :: rest) = none) :
    form.scan (quote :: rest) = some (.illegal, ⟨[quote], [quote], rest⟩) := by
  obtain ⟨known, earlier⟩ := earlier_illegal_quote form
  refine scan_of_earlier known (fun other before => ?_) (by simp [Form.cut?, leading?, Cut.whole])
  rcases earlier quote (by simpa using mark) other before with rfl | begins
  · exact unclosed
  · exact cut?_of_mayBegin begins

/-- A string does not go on over a line break, and a quote without a partner would be an error. -/
theorem cut?_string_append_lineBreak (found : form.scan text = some (rule, cut))
    (fine : ∀ cause, form.sense rule cut.value ≠ .error cause) (more : List Char) :
    form.cut? (.token .string) (text ++ '\n' :: more)
      = (form.cut? (.token .string) text).map (Cut.leaving ('\n' :: more)) := by
  change quoted? (text ++ '\n' :: more) = (quoted? text).map (Cut.leaving ('\n' :: more))
  cases closed : quoted? text with
  | some string =>
      obtain ⟨quote, mark, read, split, outside⟩ := quoted?_eq_some_iff.1 closed
      refine quoted?_eq_some_iff.2 ⟨quote, mark, read, ?_, outside⟩
      rw [split, List.append_assoc]
      rfl
  | none =>
      obtain ⟨c, rest, rfl⟩ := List.exists_cons_of_ne_nil (ne_nil_of_scan found)
      by_cases mark : c = '"' ∨ c = '\''
      · cases (scan_quote mark closed).symm.trans found
        exact absurd rfl (fine _)
      · obtain ⟨noDouble, noSingle⟩ := not_or.1 mark
        exact quoted?_of_other noDouble noSingle

/-- Only loops have rules for subscripts. -/
theorem loop_of_subscript (form : Form) : ∀ entry ∈ form.rules,
    entry.1 = .token .identIndex ∨ entry.1 = .quotedSubscript → form = .loop := by
  cases form <;> decide

/-- Where a rule reads a token or a gap, it reads the same in front of a line break. -/
theorem scan_append_lineBreak (found : form.scan text = some (rule, cut))
    (fine : ∀ cause, form.sense rule cut.value ≠ .error cause)
    (noBracket : form = .loop → '[' ∉ text) (more : List Char) :
    form.scan (text ++ '\n' :: more) = some (rule, cut.leaving ('\n' :: more)) := by
  have nonempty := ne_nil_of_scan found
  have subscript (loop : form = .loop) (inner? : List Char → Option Cut) (behind : List Char) :
      bracketed? inner? (text ++ behind) = none := by
    obtain ⟨c, rest, rfl⟩ := List.exists_cons_of_ne_nil nonempty
    refine bracketed?_of_other fun opens => noBracket loop ?_
    rw [opens]
    exact List.mem_cons_self
  have same (entry : Rule × String) (member : entry ∈ form.rules) :
      form.cut? entry.1 (text ++ '\n' :: more)
        = (form.cut? entry.1 text).map (Cut.leaving ('\n' :: more)) := by
    have loop := loop_of_subscript form entry member
    by_cases string : entry.1 = .token .string
    · rw [string]
      exact cut?_string_append_lineBreak found fine more
    by_cases brackets : entry.1 = .token .identIndex ∨ entry.1 = .quotedSubscript
    · have none (behind : List Char) : form.cut? entry.1 (text ++ behind) = none := by
        have absent := subscript (loop brackets)
        rcases brackets with rule | rule <;> rw [rule]
        · exact absent (fun inner => (numeral? true inner).map .whole) behind
        · exact absent quoted? behind
      have alone := none []
      rw [List.append_nil] at alone
      rw [none, alone]
      rfl
    · obtain ⟨noIndex, noSubscript⟩ := not_or.1 brackets
      exact cut?_append_lineBreak form string noIndex noSubscript nonempty more
  obtain ⟨before, entry, after, rules, here, none⟩ := List.findSome?_eq_some_iff.1 found
  obtain ⟨known, cuts, pair⟩ := Option.map_eq_some_iff.1 here
  cases pair
  refine List.findSome?_eq_some_iff.2 ⟨before, entry, after, rules, ?_, fun other member => ?_⟩
  · simp only [same entry (by simp [rules]), cuts, Option.map_some]
  · simp only [same other (by simp [rules, member]), Option.map_eq_none_iff.1 (none other member),
      Option.map_none]

/-- Behind a token or a gap in front of a line break, the rest of the text stands in front of it. -/
theorem left_append_lineBreak {first : Nat} {read more : List Char} {others : List Token}
    {error : Option LexError} (found : form.scan text = some (rule, cut))
    (noBracket : form = .loop → '[' ∉ text)
    (later : Scans form first (read ++ text ++ ['\n']) more others error) :
    (form = .loop → '[' ∉ cut.left)
      ∧ Scans form first (read ++ cut.read ++ cut.left ++ ['\n']) more others error := by
  obtain ⟨split, -⟩ := split_of_scan found
  rw [split] at noBracket
  rw [split, ← List.append_assoc] at later
  exact ⟨fun loop member => noBracket loop (List.mem_append_right cut.read member), later⟩

/-- A text that is scanned without an error and what follows the line break behind it are scanned
one after the other. -/
theorem scans_append_lineBreak {first : Nat} {read more : List Char} {tokens others : List Token}
    {error : Option LexError} (scans : Scans form first read text tokens none)
    (noBracket : form = .loop → '[' ∉ text)
    (later : Scans form first (read ++ text ++ ['\n']) more others error) :
    Scans form first read (text ++ '\n' :: more) (tokens ++ others) error := by
  generalize fine : none = ending at scans
  induction scans with
  | ended =>
      rw [List.append_nil] at later
      exact .passed (scan_lineBreak form more) rfl later
  | passed found sense _ ih =>
      obtain ⟨outside, further⟩ := left_append_lineBreak found noBracket later
      have same := scan_append_lineBreak found (by simp [sense]) noBracket more
      exact .passed same sense (ih outside further fine)
  | token found sense _ ih =>
      obtain ⟨outside, further⟩ := left_append_lineBreak found noBracket later
      have same := scan_append_lineBreak found (by simp [sense]) noBracket more
      exact .token same sense (ih outside further fine)
  | failed => cases fine

end Scan

/-! ### Later lines and positions -/

/-- The error some bytes further on. -/
def shifted (bytes : Nat) (error : LexError) : LexError :=
  { error with span := error.span.shift bytes }

/-- A text behind another one is scanned as if it stood alone, further on. -/
theorem Scans.further {form : Form} {first : Nat} {read rest : List Char} {tokens : List Token}
    {error : Option LexError} (lead : List Char)
    (scans : Scans form (first + lineBreaks lead) read rest tokens error) :
    Scans form first (lead ++ read) rest tokens (error.map (shifted (byteLength lead))) := by
  have line (read : List Char) :
      first + lineBreaks lead + lineBreaks read = first + lineBreaks (lead ++ read) := by
    rw [Text.lineBreaks_append, Nat.add_assoc]
  induction scans with
  | ended => exact .ended
  | passed found sense later ih => exact .passed found sense (by simpa using ih)
  | @token read rest rule cut kind value tokens _ found sense later ih =>
      rw [line]
      exact .token found sense (by simpa using ih)
  | @failed read rest rule cut cause found sense =>
      have failed : Scans form first (lead ++ read) rest [] (some ⟨cause, _, _⟩) :=
        .failed found sense
      rw [line]
      simpa [shifted, Span.shift, Nat.add_assoc] using failed

/-- A text without an error, a line break and another text are read one after the other: the tokens
of the first, and then the tokens of the second with its error, if it has one, as if its first line
were the next line and its first position the next one. -/
theorem tokenize_append_lineBreak (form : Form) (text more : String) (line : Nat)
    (fine : (form.grammar.tokenize text line).error = none)
    (noBracket : form = .loop → '[' ∉ text.toList) :
    form.grammar.tokenize (text ++ "\n" ++ more) line
      = ⟨(form.grammar.tokenize text line).tokens
            ++ (form.grammar.tokenize more (line + 1 + lineBreaks text.toList)).tokens,
          (form.grammar.tokenize more (line + 1 + lineBreaks text.toList)).error.map
            (shifted (byteLength text.toList + 1))⟩ := by
  obtain ⟨tokens, error, scans⟩ := exists_scans form line [] text.toList
  obtain ⟨others, last, later⟩ :=
    exists_scans form (line + lineBreaks (text.toList ++ ['\n'])) [] more.toList
  have lines : line + lineBreaks (text.toList ++ ['\n']) = line + 1 + lineBreaks text.toList := by
    rw [Text.lineBreaks_append, Nat.add_right_comm, Nat.add_assoc]
    rfl
  have bytes : byteLength (text.toList ++ ['\n']) = byteLength text.toList + 1 := by
    rw [Text.byteLength_append]
    rfl
  have run := (tokenize_of_scans later).1
  rw [(tokenize_of_scans scans).1] at fine ⊢
  obtain rfl : error = none := fine
  rw [← lines, run]
  have further := later.further (text.toList ++ ['\n'])
  rw [List.append_nil, bytes] at further
  have whole := scans_append_lineBreak scans noBracket further
  refine (tokenize_of_scans ?_).1
  simpa using whole

/-- A number that ends with its point at the end of a line, with a number and an error on the next
one: the point belongs to the first number, and the two stay apart. -/
theorem tokenize_append_after_point :
    (Form.loop.grammar.tokenize "i\nin (-1." 3).error = none ∧ '[' ∉ "i\nin (-1.".toList
      ∧ Form.loop.grammar.tokenize ("i\nin (-1." ++ "\n" ++ ".5%") 3
        = ⟨[⟨3, .identifier, "i"⟩, ⟨4, .keyword .inside, "in"⟩, ⟨4, .lParen, "("⟩,
            ⟨4, .float, "-1."⟩, ⟨5, .dot, "."⟩, ⟨5, .integer, "5"⟩],
          some ⟨.unexpectedCharacter "%", 5, ⟨12, 13⟩⟩⟩ := by
  have fine : (Form.loop.grammar.tokenize "i\nin (-1." 3).error = none := by decide +kernel
  have noBracket : '[' ∉ "i\nin (-1.".toList := by decide
  refine ⟨fine, noBracket, ?_⟩
  rw [tokenize_append_lineBreak .loop _ ".5%" 3 fine fun _ => noBracket]
  decide +kernel

end LiquidTokens.Expression
