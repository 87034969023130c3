import LiquidTokens.Proofs.Expression.Endings
import LiquidTokens.Proofs.Expression.FirstRule
import LiquidTokens.Proofs.Expression.LoopNumbers

/-!
Filtered values and assignments are read alike up to the first assignment sign.

An assignment has the rules of a filtered value and one more in front of them, for the sign. That
rule reads nothing where no `=` stands, and of the others only the last, which stands for illegal
characters, begins with one (`scan_assignment`, `scan_filtered_sign`). So the two forms cut a text in
the same way as long as no cut begins with the sign; an `=` inside a string is not such a place.
Where one does, an assignment gives its token and a filtered value fails.

Main statement: `filtered_until_sign`.
-/

namespace LiquidTokens.Expression

open Text (byteLength lineBreaks)

/-! ### Rules of the two forms -/

theorem sense_assignment (rule : Rule) (value : List Char) :
    Form.assignment.sense rule value = Form.filtered.sense rule value := by
  cases rule <;> rfl

theorem cut?_assignment (rule : Rule) (text : List Char) :
    Form.assignment.cut? rule text = Form.filtered.cut? rule text := by
  cases rule with
  | token kind => cases kind <;> rfl
  | _ => rfl

/-- Where no sign stands, an assignment is read as a filtered value. -/
theorem scan_assignment {text : List Char} (other : text.head? ≠ some '=') :
    Form.assignment.scan text = Form.filtered.scan text := by
  have unread : Form.assignment.cut? (.token .assign) text = none := by
    cases text with
    | nil => rfl
    | cons c rest =>
        refine cut?_of_mayBegin ?_
        simpa [Form.mayBegin, Rule.heads?, Kind.name] using other
  have rules : Form.assignment.rules = (.token .assign, "=") :: Form.filtered.rules := rfl
  rw [cut?_assignment] at unread
  simp only [Form.scan, rules, List.findSome?_cons, cut?_assignment, unread, Option.map_none]

/-- An assignment reads the sign first of all. -/
theorem scan_sign (rest : List Char) :
    Form.assignment.scan ('=' :: rest) = some (.token .assign, ⟨['='], ['='], rest⟩) := by
  have first : Form.assignment.earlier (.token .assign) = [] := rfl
  refine scan_of_earlier (by decide) (by simp [first]) ?_
  have reads : beginning? ['='] ('=' :: rest) = some (['='], rest) :=
    beginning?_eq_some_iff.2 ⟨rfl, rfl⟩
  exact congrArg (Option.map Cut.whole) reads

/-- No rule of a filtered value before the one for illegal characters begins with the sign. -/
theorem mayBegin_sign : .illegal ∈ Form.filtered.rules.map Prod.fst
    ∧ ∀ other ∈ Form.filtered.earlier .illegal, Form.filtered.mayBegin other '=' = false := by
  decide +kernel

/-- To a filtered value the sign is an illegal character. -/
theorem scan_filtered_sign (rest : List Char) :
    Form.filtered.scan ('=' :: rest) = some (.illegal, ⟨['='], ['='], rest⟩) := by
  obtain ⟨known, earlier⟩ := mayBegin_sign
  refine scan_of_earlier known (fun other before => cut?_of_mayBegin (earlier other before)) ?_
  have reads : leading? (fun _ => true) (fun _ => false) ('=' :: rest) = some (['='], rest) :=
    leading?_eq_some_iff.2 ⟨'=', [], rfl, rfl, rfl, by simp, fun _ _ => rfl⟩
  exact congrArg (Option.map Cut.whole) reads

/-- Only the rule for the sign makes tokens of its kind. -/
theorem kind_ne_assign {rule : Rule} {cut : Cut} {text value : List Char} {kind : Kind}
    (found : Form.filtered.scan text = some (rule, cut))
    (sense : Form.filtered.sense rule cut.value = .token kind value) : kind ≠ .assign := by
  rintro rfl
  obtain ⟨-, written, member⟩ := cut?_of_scan found
  have unknown : rule ≠ .token .assign := by
    rintro rfl
    have absent : ∀ entry ∈ Form.filtered.rules, entry.1 ≠ .token .assign := by decide
    exact absent _ member rfl
  unfold Form.sense at sense
  split at sense
  case h_1 =>
      have kinds := identifier_or_keyword Form.filtered.grammar cut.value
      simp only [Sense.token.injEq] at sense
      rw [sense.1] at kinds
      rcases kinds with identifier | ⟨word, keyword⟩
      · cases identifier
      · cases keyword
  case h_2 =>
      cases sense
      exact unknown rfl
  case h_5 =>
      split at sense
      · next kind operator =>
          cases sense
          obtain ⟨comparison, -, same⟩ := Option.map_eq_some_iff.1 operator
          cases same
      · cases sense
  all_goals cases sense

section Cuts

variable {rule : Rule} {cut : Cut} {rest value : List Char}

/-- An assignment reads the sign, or what a filtered value reads too. -/
theorem sign_or_filtered (found : Form.assignment.scan rest = some (rule, cut)) :
    (∃ left, rest = '=' :: left ∧ rule = .token .assign ∧ cut = ⟨['='], ['='], left⟩)
      ∨ Form.filtered.scan rest = some (rule, cut) := by
  by_cases sign : rest.head? = some '='
  · obtain ⟨left, rfl⟩ := List.head?_eq_some_iff.1 sign
    rw [scan_sign] at found
    cases found
    exact .inl ⟨left, rfl, rfl, rfl⟩
  · rw [scan_assignment sign] at found
    exact .inr found

/-- What an assignment reads by another rule than that for the sign, a filtered value reads too. -/
theorem scan_filtered (found : Form.assignment.scan rest = some (rule, cut))
    (other : rule ≠ .token .assign) : Form.filtered.scan rest = some (rule, cut) :=
  (sign_or_filtered found).resolve_left fun ⟨_, _, same, _⟩ => other same

/-- A token of the sign's kind is read where a sign stands. -/
theorem exists_sign (found : Form.assignment.scan rest = some (rule, cut))
    (sense : Form.assignment.sense rule cut.value = .token .assign value) :
    ∃ left, rest = '=' :: left ∧ cut = ⟨['='], ['='], left⟩ ∧ value = ['='] := by
  rcases sign_or_filtered found with ⟨left, rfl, rfl, rfl⟩ | same
  · cases sense
    exact ⟨left, rfl, rfl, rfl⟩
  · rw [sense_assignment] at sense
    exact absurd rfl (kind_ne_assign same sense)

end Cuts

/-! ### Scans of the two forms -/

section Scans

variable {first : Nat} {read rest : List Char} {tokens before after : List Token} {sign : Token}
  {error : Option LexError}

/-- A text in which an assignment has no sign is read alike as a filtered value. -/
theorem scans_filtered (scans : Scans .assignment first read rest tokens error)
    (noSign : ∀ token ∈ tokens, token.kind ≠ .assign) :
    Scans .filtered first read rest tokens error := by
  induction scans with
  | ended => exact .ended
  | passed found sense later ih =>
      have same := scan_filtered found (by rintro rfl; cases sense)
      exact .passed same (sense_assignment .. ▸ sense) (ih noSign)
  | token found sense later ih =>
      obtain ⟨here, others⟩ := List.forall_mem_cons.1 noSign
      have same := scan_filtered found (by rintro rfl; cases sense; exact here rfl)
      exact .token same (sense_assignment .. ▸ sense) (ih others)
  | failed found sense =>
      have same := scan_filtered found (by rintro rfl; cases sense)
      exact .failed same (sense_assignment .. ▸ sense)

/-- The error of a filtered value at a sign behind `read`. -/
def signError (first : Nat) (read : List Char) : LexError :=
  ⟨.unexpectedCharacter "=", first + lineBreaks read, ⟨byteLength read, byteLength read + 1⟩⟩

/-- Where `rest` is left, the first sign of an assignment stands behind `passed` and some tokens: the
call that gives it leaves the stream behind it, and as a filtered value the text fails there. -/
structure SignAt (source : String) (first : Nat) (stream : Stream) (read rest : List Char)
    (before : List Token) (sign : Token) (passed left : List Char) : Prop where
  split : rest = passed ++ '=' :: left
  token : sign = ⟨first + lineBreaks (read ++ passed), .assign, "="⟩
  fails : Scans .filtered first read rest before (some (signError first (read ++ passed)))
  behind : Stream.Stands Form.assignment.grammar source first (stream.asked (before.length + 1))
    (read ++ passed ++ ['=']) left

/-- A sign that stands behind a part of the text, seen from in front of that part. -/
theorem SignAt.before_part {source : String} {stream middle : Stream} {part more passed left : List Char}
    {later : List Token} (signAt : SignAt source first middle (read ++ part) more later sign passed left)
    (fails : ∀ {error}, Scans .filtered first (read ++ part) more later error →
      Scans .filtered first read (part ++ more) before error)
    (asked : stream.asked (before.length + 1) = middle.asked (later.length + 1)) :
    SignAt source first stream read (part ++ more) before sign (part ++ passed) left where
  split := by rw [signAt.split, List.append_assoc]
  token := by rw [← List.append_assoc, signAt.token]
  fails := by rw [← List.append_assoc]; exact fails signAt.fails
  behind := by rw [← List.append_assoc, asked]; exact signAt.behind

/-- The first sign of an assignment is found, and the filtered value fails there. -/
theorem exists_signAt {source : String} {stream : Stream}
    (scans : Scans .assignment first read rest tokens error)
    (here : Stream.Stands Form.assignment.grammar source first stream read rest)
    (running : stream.finished = false) (split : tokens = before ++ sign :: after)
    (kind : sign.kind = .assign) (noSign : ∀ token ∈ before, token.kind ≠ .assign) :
    ∃ passed left, SignAt source first stream read rest before sign passed left := by
  induction scans generalizing stream before with
  | ended | failed => simp at split
  | @passed read rest rule cut tokens error found sense later ih =>
      obtain ⟨middle, there, still, taken⟩ := here.step_of_scan running found
      rw [sense] at taken
      obtain ⟨passed, left, signAt⟩ := ih there still split noSign
      have same := scan_filtered found (by rintro rfl; cases sense)
      have next := here.next_of_pass running taken
      obtain ⟨whole, -⟩ := split_of_scan found
      rw [whole] at same ⊢
      refine ⟨_, left, signAt.before_part (fun fails => ?_) ?_⟩
      · exact .passed same (sense_assignment .. ▸ sense) fails
      · rw [Stream.asked, next, Stream.asked]
  | @token read rest rule cut kind value tokens error found sense later ih =>
      obtain ⟨middle, there, still, taken⟩ := here.step_of_scan running found
      rw [sense] at taken
      have next : stream.next = (some (.ok _), middle) :=
        here.call_iff.1 (.steps running (.refl stream) (by rw [taken]; rfl))
      cases before with
      | nil =>
          obtain ⟨rfl, -⟩ := List.cons_eq_cons.1 split
          cases kind
          obtain ⟨left, rfl, rfl, rfl⟩ := exists_sign found sense
          have fails : Scans .filtered first read ('=' :: left) [] (some _) :=
            .failed (scan_filtered_sign left) rfl
          refine ⟨[], left, rfl, by simp, ?_, ?_⟩
          · rwa [List.append_nil]
          · rw [List.append_nil, List.length_nil, Stream.asked, next]
            exact there
      | cons token before =>
          obtain ⟨rfl, others⟩ := List.cons_eq_cons.1 split
          obtain ⟨other, noSign⟩ := List.forall_mem_cons.1 noSign
          obtain ⟨passed, left, signAt⟩ := ih there still others noSign
          have same := scan_filtered found (by rintro rfl; cases sense; exact other rfl)
          obtain ⟨whole, -⟩ := split_of_scan found
          rw [whole] at same ⊢
          refine ⟨_, left, signAt.before_part (fun fails => ?_) ?_⟩
          · exact .token same (sense_assignment .. ▸ sense) fails
          · rw [List.length_cons, Stream.asked, next]

end Scans

/-- Filtered values and assignments are read alike up to the first assignment sign. If an assignment
has no sign, the same text is read as a filtered value with the same tokens and the same error, if
there is one. Otherwise the filtered value has the tokens up to the first sign, and then the error
that this sign is an unexpected character, on its line and with its place, and nothing more. -/
theorem filtered_until_sign (source : String) (line : Nat) :
    ((∀ token ∈ (Form.assignment.grammar.tokenize source line).tokens, token.kind ≠ .assign) →
        Form.filtered.grammar.tokenize source line = Form.assignment.grammar.tokenize source line)
      ∧ ∀ before sign after,
        (Form.assignment.grammar.tokenize source line).tokens = before ++ sign :: after →
        sign.kind = .assign → (∀ token ∈ before, token.kind ≠ .assign) →
          ∃ read left, source.toList = read ++ '=' :: left
            ∧ sign = ⟨line + lineBreaks read, .assign, "="⟩
            ∧ Stream.Stands Form.assignment.grammar source line
              ((Stream.start Form.assignment.grammar source line).asked (before.length + 1))
              (read ++ ['=']) left
            ∧ Form.filtered.grammar.tokenize source line
              = ⟨before, some ⟨.unexpectedCharacter "=", sign.line,
                ⟨byteLength read, byteLength read + 1⟩⟩⟩
            ∧ ∀ more, ((Stream.start Form.filtered.grammar source line).asked
                (before.length + 1 + more)).next.1 = none := by
  obtain ⟨tokens, error, scans⟩ := exists_scans .assignment line [] source.toList
  rw [(tokenize_of_scans scans).1]
  constructor
  · intro noSign
    exact (tokenize_of_scans (scans_filtered scans noSign)).1
  · intro before sign after split kind noSign
    obtain ⟨read, left, signAt⟩ := exists_signAt scans
      (Stream.stands_start Form.assignment.grammar source line) rfl split kind noSign
    have fails := (tokenize_of_scans signAt.fails).1
    refine ⟨read, left, signAt.split, signAt.token, signAt.behind, ?_, fun more => ?_⟩
    · rw [signAt.token]
      exact fails
    · have taken : Stream.take _ (Stream.start Form.filtered.grammar source line) = _ := fails
      have last := Stream.next_asked_of_take (congrArg Run.error taken)
      rw [taken] at last
      obtain ⟨_, _, here⟩ := Stream.exists_stands Form.filtered.grammar source line before.length
      have ended := (here.answered here.call).ends (by simp [last])
      rw [Stream.asked_add, Stream.asked_succ, Stream.asked_of_finished ended,
        Stream.next_of_finished ended]

/-- A sign inside a string is none, and the first one outside is where a filtered value fails. -/
theorem filtered_until_sign_behind_string :
    let source := "a: '=',\n b = 1 = 2"
    let before := [⟨5, .identifier, "a"⟩, ⟨5, .colon, ":"⟩, ⟨5, .string, "="⟩, ⟨5, .comma, ","⟩,
      ⟨6, .identifier, "b"⟩]
    (Form.assignment.grammar.tokenize source 5).tokens
        = before ++ ⟨6, .assign, "="⟩ :: [⟨6, .integer, "1"⟩, ⟨6, .assign, "="⟩, ⟨6, .integer, "2"⟩]
      ∧ ∃ read left, source.toList = read ++ '=' :: left ∧ byteLength read = 11
        ∧ Stream.Stands Form.assignment.grammar source 5
          ((Stream.start Form.assignment.grammar source 5).asked 6) (read ++ ['=']) left
        ∧ Form.filtered.grammar.tokenize source 5
          = ⟨before, some ⟨.unexpectedCharacter "=", 6, ⟨11, 12⟩⟩⟩ := by
  intro source before
  have run : (Form.assignment.grammar.tokenize source 5).tokens = before
      ++ ⟨6, .assign, "="⟩ :: [⟨6, .integer, "1"⟩, ⟨6, .assign, "="⟩, ⟨6, .integer, "2"⟩] := by
    decide +kernel
  obtain ⟨read, left, split, -, stands, fails, -⟩ :=
    (filtered_until_sign source 5).2 before _ _ run rfl (by decide)
  have exactly : Form.filtered.grammar.tokenize source 5
      = ⟨before, some ⟨.unexpectedCharacter "=", 6, ⟨11, 12⟩⟩⟩ := by
    decide +kernel
  rw [exactly] at fails
  simp only [Run.mk.injEq, Option.some.injEq, LexError.mk.injEq, Text.Span.mk.injEq] at fails
  exact ⟨run, read, left, split, fails.2.2.2.1.symm, stands, exactly⟩

end LiquidTokens.Expression
