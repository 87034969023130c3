import LiquidTokens.Proofs.Expression.Scanner

/-!
Which rule of a form decides, told by the first character of a text.

A rule whose reader can begin with a few characters only is out of the question at any other
(`Rule.heads?`). Numbers and names can begin with many characters. A rule decides if those before it
in the form read nothing.

Main statements: `scan_of_earlier` (the rule that decides), `scan_gap` and `scan_lineBreak` (what
separates lexemes is read by itself), and `scans_separators`.
-/

namespace LiquidTokens.Expression

open Text (dropWhile_append_of_stop isDigit takeWhile_append_of_stop)

/-! ### First characters -/

/-- The characters with which a rule may begin, if these are but a few. -/
def Rule.heads? : Rule → Option (List Char)
  | .token .integer | .token .float | .token .identifier | .openFloat | .illegal => none
  | .token .string => some ['"', '\'']
  | .token .identIndex | .quotedSubscript => some ['[']
  | .token kind => some (kind.name.toList.take 1)
  | .operator => some ['!', '=', '<', '>']
  | .newline => some ['\n']
  | .skip => some [' ', '\t', '\r']

/-- A rule may begin with a character. -/
def Form.mayBegin (form : Form) (rule : Rule) (c : Char) : Bool :=
  match rule.heads? with
  | some heads => heads.contains c
  | none =>
      match rule with
      | .token .identifier => form.startsName c
      | .illegal => true
      | .openFloat => isDigit c || c == '-'
      | _ => isDigit c || (form.signed && c == '-')

section Heads

variable {form : Form} {c : Char} {rest : List Char}

theorem numeral?_of_other {signed : Bool}
    (other : (isDigit c || (signed && c == '-')) = false) : numeral? signed (c :: rest) = none := by
  obtain ⟨noDigit, noSign⟩ := Bool.or_eq_false_iff.1 other
  rw [Option.eq_none_iff_forall_ne_some]
  rintro ⟨number, left⟩ found
  obtain ⟨split, ⟨front, digits, rfl, sign, nonempty, inside⟩, -⟩ := numeral?_eq_some_iff.1 found
  obtain ⟨d, digits, rfl⟩ := List.exists_cons_of_ne_nil nonempty
  rcases sign with rfl | ⟨signs, rfl⟩
  · obtain ⟨rfl, -⟩ := List.cons_eq_cons.1 split
    rw [inside c List.mem_cons_self] at noDigit
    cases noDigit
  · obtain ⟨rfl, -⟩ := List.cons_eq_cons.1 split
    rw [signs] at noSign
    cases noSign

theorem leading?_of_other {first more : Char → Bool} (other : first c = false) :
    leading? first more (c :: rest) = none := by
  simp [leading?, other]

theorem beginning?_of_other {letters : List Char} (nonempty : letters ≠ [])
    (other : c ∉ letters.take 1) : beginning? letters (c :: rest) = none := by
  rw [Option.eq_none_iff_forall_ne_some]
  rintro ⟨read, left⟩ found
  obtain ⟨rfl, split⟩ := beginning?_eq_some_iff.1 found
  obtain ⟨d, more, rfl⟩ := List.exists_cons_of_ne_nil nonempty
  obtain ⟨rfl, -⟩ := List.cons_eq_cons.1 split
  exact other (by simp)

theorem quoted?_of_other (noDouble : c ≠ '"') (noSingle : c ≠ '\'') :
    quoted? (c :: rest) = none := by
  simp [quoted?, quotedBy?, past?, noDouble, noSingle]

theorem bracketed?_of_other {inner? : List Char → Option Cut} (other : c ≠ '[') :
    bracketed? inner? (c :: rest) = none := by
  simp [bracketed?, past?, other]

theorem not_mem_heads {rule : Rule} {heads : List Char} (few : rule.heads? = some heads)
    (other : form.mayBegin rule c = false) : c ∉ heads := by
  simpa [Form.mayBegin, few] using other

/-- A rule that cannot begin with a character reads nothing there. -/
theorem cut?_of_mayBegin {rule : Rule} (other : form.mayBegin rule c = false) :
    form.cut? rule (c :: rest) = none := by
  unfold Form.cut?
  split
  case h_3 =>
      have outside := not_mem_heads rfl other
      rw [List.mem_cons, List.mem_singleton, not_or] at outside
      exact quoted?_of_other outside.1 outside.2
  case h_5 | h_7 =>
      have outside := not_mem_heads rfl other
      exact bracketed?_of_other (mt List.mem_singleton.2 outside)
  all_goals rw [Option.map_eq_none_iff]
  case h_1 | h_2 =>
      have none : numeral? form.signed (c :: rest) = none := numeral?_of_other other
      simp only [Form.integer?, Form.float?, none, Option.bind_none]
  case h_8 =>
      have none : numeral? true (c :: rest) = none := numeral?_of_other other
      simp only [openFloat?, none, Option.bind_none]
  case h_4 =>
      have unread : leading? form.startsName form.continuesName (c :: rest) = none :=
        leading?_of_other other
      rw [Form.name?, unread]
      rfl
  case h_6 kind _ _ _ _ _ =>
      have heads : (Rule.token kind).heads? = some (kind.name.toList.take 1) := by
        cases kind <;> first | contradiction | rfl
      exact beginning?_of_other (name_ne_nil kind) (not_mem_heads heads other)
  case h_9 =>
      have outside := not_mem_heads rfl other
      simp_all [operator?, isOperatorMark]
  case h_10 => exact beginning?_of_other (by simp) (not_mem_heads rfl other)
  case h_11 =>
      have outside := not_mem_heads rfl other
      exact leading?_of_other (by simp_all [Form.isGap])
  case h_12 => cases other

end Heads

/-! ### The rule that decides -/

/-- The rules that are tried before a rule of a form. -/
def Form.earlier (form : Form) (rule : Rule) : List Rule :=
  (form.rules.map Prod.fst).takeWhile (· != rule)

section Deciding

variable {form : Form} {rule : Rule} {text : List Char} {cut : Cut}

theorem exists_later (known : rule ∈ form.rules.map Prod.fst) :
    ∃ later, form.rules.map Prod.fst = form.earlier rule ++ rule :: later := by
  have split : form.earlier rule ++ (form.rules.map Prod.fst).dropWhile (· != rule)
      = form.rules.map Prod.fst := List.takeWhile_append_dropWhile
  have stops := head?_dropWhile (· != rule) (form.rules.map Prod.fst)
  cases remaining : (form.rules.map Prod.fst).dropWhile (· != rule) with
  | nil =>
      have passed := List.dropWhile_eq_nil_iff.1 remaining rule known
      simp at passed
  | cons other later =>
      rw [remaining] at split stops
      obtain rfl : other = rule := by simpa using stops other rfl
      exact ⟨later, split.symm⟩

/-- A rule decides if those before it read nothing. -/
theorem scan_of_earlier (known : rule ∈ form.rules.map Prod.fst)
    (fails : ∀ other ∈ form.earlier rule, form.cut? other text = none)
    (cuts : form.cut? rule text = some cut) : form.scan text = some (rule, cut) := by
  obtain ⟨later, split⟩ := exists_later known
  have tried : form.scan text
      = (form.rules.map Prod.fst).findSome? fun rule => (form.cut? rule text).map (rule, ·) := by
    rw [List.findSome?_map]
    rfl
  rw [tried, List.findSome?_eq_some_iff]
  refine ⟨form.earlier rule, rule, later, split, by rw [cuts]; rfl, fun other before => ?_⟩
  rw [fails other before]
  rfl

/-! ### Gaps -/

/-- No rule before those for gaps begins with a gap. -/
theorem mayBegin_of_earlier_gap (form : Form) :
    (∀ other ∈ form.earlier .newline, form.mayBegin other '\n' = false)
      ∧ ∀ c ∈ [' ', '\t', '\r'], form.isGap c = true →
        ∀ other ∈ form.earlier .skip, form.mayBegin other c = false := by
  cases form <;> decide +kernel

theorem gap_rules (form : Form) :
    .newline ∈ form.rules.map Prod.fst ∧ .skip ∈ form.rules.map Prod.fst := by
  cases form <;> decide

theorem scan_lineBreak (form : Form) (rest : List Char) :
    form.scan ('\n' :: rest) = some (.newline, ⟨['\n'], ['\n'], rest⟩) := by
  refine scan_of_earlier (gap_rules form).1 (fun other before => ?_) ?_
  · exact cut?_of_mayBegin ((mayBegin_of_earlier_gap form).1 other before)
  · have reads : beginning? ['\n'] ('\n' :: rest) = some (['\n'], rest) :=
      beginning?_eq_some_iff.2 ⟨rfl, rfl⟩
    rw [Form.cut?, reads]
    rfl

/-- Blanks are read together. -/
theorem scan_gap {c : Char} (gap : form.isGap c = true) (rest : List Char) :
    form.scan (c :: rest) = some (.skip, ⟨c :: rest.takeWhile form.isGap,
      c :: rest.takeWhile form.isGap, rest.dropWhile form.isGap⟩) := by
  have listed : c ∈ [' ', '\t', '\r'] := by
    simp only [Form.isGap, Bool.or_eq_true, Bool.and_eq_true, beq_iff_eq] at gap
    simp only [List.mem_cons, List.not_mem_nil, or_false]
    exact gap.elim (·.elim .inl (.inr ∘ .inl)) (.inr ∘ .inr ∘ And.right)
  refine scan_of_earlier (gap_rules form).2 (fun other before => ?_) ?_
  · exact cut?_of_mayBegin ((mayBegin_of_earlier_gap form).2 c listed gap other before)
  · rw [Form.cut?, leading?, if_pos gap]
    rfl

/-- What is read as a token does not begin with a gap. -/
theorem isGap_head?_of_token (found : form.scan text = some (rule, cut)) {kind : Kind}
    {value : List Char} (sense : form.sense rule cut.value = .token kind value) :
    ∀ c ∈ text.head?, form.isGap c = false := by
  intro c first
  cases text with
  | nil => cases first
  | cons d rest =>
      obtain rfl : d = c := Option.some.inj first
      rw [← Bool.not_eq_true]
      intro gap
      rw [scan_gap gap] at found
      cases found
      cases sense

/-! ### Separators -/

/-- A character that separates lexemes. -/
def IsSeparator (c : Char) : Prop :=
  c = ' ' ∨ c = '\t' ∨ c = '\n'

instance : DecidablePred IsSeparator := fun c =>
  inferInstanceAs (Decidable (c = ' ' ∨ c = '\t' ∨ c = '\n'))

/-- Separators are passed over: a line break by itself, and blanks up to the next line break. -/
theorem scans_separators {first : Nat} {tokens : List Token} {error : Option LexError}
    {left : List Char} (ends : ∀ c ∈ left.head?, form.isGap c = false) {blanks : List Char}
    (separators : ∀ c ∈ blanks, IsSeparator c) {read : List Char}
    (later : Scans form first (read ++ blanks) left tokens error) :
    Scans form first read (blanks ++ left) tokens error := by
  -- By length, not character by character: a run of blanks is passed over in one step.
  induction size : blanks.length using Nat.strong_induction_on generalizing blanks read with
  | _ size shorter =>
      cases blanks with
      | nil => rwa [List.append_nil] at later
      | cons c rest =>
          obtain ⟨separator, others⟩ := List.forall_mem_cons.1 separators
          rw [List.length_cons] at size
          by_cases lineBreak : c = '\n'
          · subst lineBreak
            refine .passed (scan_lineBreak form (rest ++ left)) rfl ?_
            refine shorter rest.length (by omega) others ?_ rfl
            rwa [List.append_assoc]
          · have gap : form.isGap c = true := by
              rcases separator with rfl | rfl | rfl
              · rfl
              · rfl
              · contradiction
            have split : rest.takeWhile form.isGap ++ rest.dropWhile form.isGap = rest :=
              List.takeWhile_append_dropWhile
            have fewer := List.length_dropWhile_le form.isGap rest
            refine .passed (scan_gap gap (rest ++ left)) rfl ?_
            rw [takeWhile_append_of_stop ends, dropWhile_append_of_stop ends]
            refine shorter _ (by omega) (fun d member => others d ?_) ?_ rfl
            · exact (List.dropWhile_sublist form.isGap).mem member
            · rwa [List.append_assoc, List.cons_append, split]

end Deciding

end LiquidTokens.Expression
