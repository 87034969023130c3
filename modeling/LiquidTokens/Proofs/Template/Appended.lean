import LiquidTokens.Proofs.Template.Canonical
import LiquidTokens.Proofs.Template.Unclosed

/-!
Templates written one after the other.

Every rule looks ahead for a delimiter, as far as the end of the source, so text that is added to a
template can change how the template was read: a tag `raw` becomes the start of a block, plain text
becomes a tag once the delimiter comes that it lacked, and plain text at the end runs on. A template
is settled (`Settled`) when nothing of this kind is left open, and then it is read as before. The
regions after it are those of the added text alone, on later lines and at later positions.

Whether it is settled is argued region by region. The first closing delimiter stays the first one,
whatever comes behind it (`enclosed?_append`), and the tag that ends a raw block cannot begin in the
block and end behind it (`RawCut.append`). Plain text stands only where no delimiter opens: one that
is not closed is an error, be it a few characters later, where three or more braces stand in a row
(`closed_of_opens`).

Main statement: `tokenize_append`.
-/

namespace LiquidTokens

open Text (byteLength isBlank lineBreaks)

/-! ### Later lines and positions -/

/-- The token some lines further down. -/
def Token.below (lines : Nat) (token : Token) : Token :=
  { token with line := lines + token.line }

/-- The error some lines further down and some bytes further on. -/
def LexError.behind (lines bytes : Nat) (error : LexError) : LexError :=
  { error with line := lines + error.line, span := error.span.shift bytes }

/-- What a run gives when its source stands behind some text of so many lines and bytes. -/
def Run.behind (lines bytes : Nat) (run : Run) : Run :=
  ⟨run.tokens.map (Token.below lines), run.error.map (LexError.behind lines bytes)⟩

namespace Template

theorem behind_prepend (lines bytes : Nat) (tokens : List Token) (run : Run) :
    (prepend tokens run).behind lines bytes
      = prepend (tokens.map (Token.below lines)) (run.behind lines bytes) := by
  simp [prepend, Run.behind]

theorem below_tokenUnlessEmpty (lines line : Nat) (kind : Kind) (text : List Char) :
    (tokenUnlessEmpty line kind text).map (Token.below lines)
      = tokenUnlessEmpty (lines + line) kind text := by
  rw [tokenUnlessEmpty, tokenUnlessEmpty]
  split <;> rfl

section Behind

variable {delimiters : Delimiters}

theorem scanRegion_behind (lead read : List Char) (region : Region) (inner left : List Char)
    (trim : Bool) {further moved : Bool → Run}
    (same : ∀ trim, moved trim = (further trim).behind (lineBreaks lead) (byteLength lead)) :
    scanRegion delimiters (lead ++ read) region inner left trim moved
      = (scanRegion delimiters read region inner left trim further).behind (lineBreaks lead)
          (byteLength lead) := by
  have line : 1 + lineBreaks (lead ++ read) = lineBreaks lead + (1 + lineBreaks read) := by
    rw [Text.lineBreaks_append]
    omega
  cases region with
  | raw => simp only [scanRegion, line, same, behind_prepend, below_tokenUnlessEmpty]
  | statement =>
      simp only [scanRegion, line, same, behind_prepend]
      rfl
  | tag =>
      simp only [scanRegion, line, same, behind_prepend, List.map_cons, below_tokenUnlessEmpty]
      rfl
  | literal =>
      simp only [scanRegion, line, same]
      split
      · simp [Run.failed, Run.behind, LexError.behind, Text.Span.shift, Nat.add_assoc]
      · rw [behind_prepend, below_tokenUnlessEmpty]

/-- A text that stands further on gives the same tokens further down. -/
theorem scanFrom_behind (valid : delimiters.validate = .ok ()) (lead : List Char) :
    ∀ (read text : List Char) (trim : Bool),
      scanFrom delimiters valid (lead ++ read) text trim
        = (scanFrom delimiters valid read text trim).behind (lineBreaks lead) (byteLength lead)
  | read, [], trim => by
      rw [scanFrom, scanFrom]
      rfl
  | read, c :: rest, trim => by
      rw [scanFrom, scanFrom]
      refine scanRegion_behind lead read _ _ _ trim fun later => ?_
      have shorter := front_left_lt valid (List.cons_ne_nil c rest)
      rw [List.append_assoc]
      exact scanFrom_behind valid lead _ _ later
termination_by _ text => text.length
decreasing_by exact shorter

end Behind

/-! ### Searches that are decided -/

section Decided

variable {start stop text inner left : List Char}

theorem isPrefixOf_append_of_le (long : start.length ≤ text.length) (more : List Char) :
    start.isPrefixOf (text ++ more) = start.isPrefixOf text := by
  rw [Bool.eq_iff_iff, List.isPrefixOf_iff_prefix, List.isPrefixOf_iff_prefix]
  exact ⟨fun starts => List.prefix_of_prefix_length_le starts (List.prefix_append _ _) long,
    fun starts => starts.trans (List.prefix_append _ _)⟩

theorem not_prefix_append (absent : ¬ start <+: text) (long : start.length ≤ text.length)
    (more : List Char) : ¬ start <+: text ++ more := by
  rwa [← List.isPrefixOf_iff_prefix, isPrefixOf_append_of_le long, List.isPrefixOf_iff_prefix]

/-- The first closing delimiter is the first one whatever comes behind it. -/
theorem enclosed?_append (found : enclosed? start stop text = some (inner, left))
    (more : List Char) : enclosed? start stop (text ++ more) = some (inner, left ++ more) := by
  obtain ⟨rfl, first⟩ := enclosed?_eq_some_iff.1 found
  refine enclosed?_eq_some_iff.2 ⟨List.append_assoc _ _ _, fun u w split long => ?_⟩
  have absent := not_prefix_append (first u w split long) (by simp; omega) more
  simpa using absent

/-- The tag that ends a raw block is the first one whatever comes behind it. -/
theorem RawCut.append {head foot : List Char}
    (cut : RawCut tagOpen tagClose text head inner foot left) (more : List Char) :
    RawCut tagOpen tagClose (text ++ more) head inner foot (left ++ more) := by
  obtain ⟨rfl, opens, closes, shortest⟩ := cut
  refine ⟨by simp, by simpa using opens.append more, by simpa using closes.append more, ?_⟩
  intro u w split long l
  obtain ⟨rest, footEq⟩ : ∃ rest, foot = '\x7b' :: rest := by
    obtain ⟨gap, other, split, -, -⟩ := closes
    have foot_eq := List.append_cancel_right (split.trans (by simp :
      tagOpen ++ gap ++ "endraw".toList ++ other ++ tagClose ++ left
        = (tagOpen ++ gap ++ "endraw".toList ++ other ++ tagClose) ++ left))
    exact ⟨_, foot_eq⟩
  have absent : ∀ l, ¬ NamedTag tagOpen tagClose "endraw".toList w l := by
    intro l tag
    refine shortest u w split long (l ++ foot ++ left) ?_
    simpa using tag.append (foot ++ left)
  have late := Item.not_namedTag_append long absent (rest ++ (left ++ more)) l
  rw [footEq]
  simpa using late

/-- Plain text ends at the same place if there is enough text behind it to tell. -/
theorem LiteralCut.append (cut : LiteralCut tagOpen statementOpen text inner left)
    (long : 2 ≤ left.length) (more : List Char) :
    LiteralCut tagOpen statementOpen (text ++ more) inner (left ++ more) := by
  obtain ⟨rfl, some, halts, shortest⟩ := cut
  have nonempty : left ≠ [] := by
    rintro rfl
    simp at long
  refine ⟨by simp, some, ?_, fun v w split before after => ?_⟩
  · rcases halts with tag | statement | ended
    · exact .inl (tag.trans (List.prefix_append _ _))
    · exact .inr (.inl (statement.trans (List.prefix_append _ _)))
    · exact absurd ended nonempty
  · have early := shortest v w split before after
    have enough : 2 ≤ (w ++ left).length := by
      rw [List.length_append]
      omega
    rw [← List.append_assoc]
    rintro (tag | statement | ended)
    · exact not_prefix_append (fun starts => early (.inl starts)) enough more tag
    · exact not_prefix_append (fun starts => early (.inr (.inl starts))) enough more statement
    · exact after (List.append_eq_nil_iff.1 (List.append_eq_nil_iff.1 ended).1).1

end Decided

/-! ### Opening delimiters in a run without an error -/

/-- What a tag would begin with whose percent sign is that of a statement opened twice. -/
def mixedOpen : List Char :=
  ['\x7b', '\x7b', '%']

/-- What is left behind a region has none either. -/
theorem NextRegion.unmixed_left {delimiters : Delimiters} {text piece inner left : List Char}
    {region : Region} (next : NextRegion delimiters text region piece inner left)
    (unmixed : ¬ mixedOpen <:+: text) : ¬ mixedOpen <:+: left := by
  rw [next.split] at unmixed
  exact fun within => unmixed (within.trans (List.suffix_append piece left).isInfix)

theorem Opens.four_le {start stop text : List Char} (opens : Opens start stop text)
    (startLong : 2 ≤ start.length) (stopLong : 2 ≤ stop.length) : 4 ≤ text.length := by
  obtain ⟨rest, rfl, within⟩ := opens
  have := within.length_le
  rw [List.length_append]
  omega

theorem NamedTag.opens {start stop word text left : List Char}
    (tag : NamedTag start stop word text left) : Opens start stop text := by
  obtain ⟨lead, gap, rfl, -, -⟩ := tag
  exact ⟨lead ++ word ++ gap ++ stop ++ left, by simp, lead ++ word ++ gap, left, rfl⟩

/-- Plain text where a delimiter opens begins with it, unless it is the first of three braces. -/
theorem LiteralCut.opening_cases {text literal left : List Char}
    (cut : LiteralCut tagOpen statementOpen text literal left) (unmixed : ¬ mixedOpen <:+: text)
    (opens : tagOpen <+: text ∨ statementOpen <+: text) :
    tagOpen <+: literal ∨ statementOpen <+: literal
      ∨ literal = ['\x7b'] ∧ statementOpen <+: left := by
  obtain ⟨rfl, some, halts, -⟩ := cut
  obtain ⟨c, literal, rfl⟩ := List.exists_cons_of_ne_nil some
  cases literal with
  | cons d literal =>
      rcases opens with ⟨rest, split⟩ | ⟨rest, split⟩
      · obtain ⟨rfl, rfl, -⟩ : '\x7b' = c ∧ '%' = d ∧ rest = literal ++ left := by
          simpa [tagOpen] using split
        exact .inl ⟨literal, rfl⟩
      · obtain ⟨rfl, rfl, -⟩ : '\x7b' = c ∧ '\x7b' = d ∧ rest = literal ++ left := by
          simpa [statementOpen] using split
        exact .inr (.inl ⟨literal, rfl⟩)
  | nil =>
      refine .inr (.inr ?_)
      rcases opens with ⟨rest, split⟩ | ⟨rest, split⟩
      · obtain ⟨rfl, rfl⟩ : '\x7b' = c ∧ '%' :: rest = left := by
          simpa [tagOpen] using split
        simp [Halts, tagOpen, statementOpen] at halts
      · obtain ⟨rfl, rfl⟩ : '\x7b' = c ∧ '\x7b' :: rest = left := by
          simpa [statementOpen] using split
        rcases halts with ⟨others, tag⟩ | statement | ended
        · obtain rfl : '%' :: others = rest := by simpa [tagOpen] using tag
          exact absurd (List.prefix_append mixedOpen others).isInfix unmixed
        · exact ⟨rfl, statement⟩
        · cases ended

namespace Stream

variable {stream after : Stream} {read text piece inner left : List Char} {region : Region}
  {visits : List Visit} {error : Option LexError}

/-- A stream stops only at the end of its text. -/
theorem Ready.text_eq_nil {delimiters : Delimiters} (ready : Ready delimiters stream read text)
    (stops : stream.step = .stop after) : text = [] := by
  by_contra nonempty
  obtain ⟨region, piece, inner, left, -, -, step⟩ := step_eq_stepOver ready.toAt nonempty
  rw [stops] at step
  rcases error_or_entry delimiters stream region piece inner left with
    ⟨_, _, failed⟩ | ⟨_, _, entry⟩
  · cases step.trans failed
  · rw [← step] at entry
    cases entry

/-- Plain text that begins with an opening delimiter is an error. -/
theorem entry_eq_none (here : At .standard stream read text) {opening literal : List Char}
    (opens : opening = tagOpen ∨ opening = statementOpen) (stands : opening <+: literal)
    (atEnd : Bool) : (stepOverLiteral stream literal atEnd).entry = none := by
  have first : ∀ c ∈ literal.head?, isBlank c = false := by
    obtain ⟨rest, rfl⟩ := stands
    rcases opens with rfl | rfl <;> rintro c ⟨⟩ <;> decide
  have kept : trimmed stream.trimNext atEnd literal = trimmed false atEnd literal := by
    simp only [trimmed, Text.trimStart_eq_self_iff.2 first, ite_self]
  have begins : opening <+: trimmed stream.trimNext atEnd literal := by
    rw [kept]
    refine (prefix_trimmed_or_blank stands).resolve_right ?_
    rcases opens with rfl | rfl <;> decide
  have nonempty : (trimmed stream.trimNext atEnd literal).isEmpty = false := by
    obtain ⟨rest, same⟩ := begins
    rw [← same]
    rcases opens with rfl | rfl <;> rfl
  have missing : ∃ expected,
      stream.expected? (trimmed stream.trimNext atEnd literal) = some expected := by
    cases found : stream.expected? (trimmed stream.trimNext atEnd literal) with
    | some expected => exact ⟨expected, rfl⟩
    | none =>
        obtain ⟨noStatement, noTag⟩ := here.not_prefix_of_expected? found
        rcases opens with rfl | rfl
        · exact absurd begins noTag
        · exact absurd begins noStatement
  obtain ⟨expected, found⟩ := missing
  simp only [stepOverLiteral, nonempty, found]
  rfl

/-- Without an error a delimiter that opens is closed. Where a statement is opened and not closed,
the plain text at its first brace is this brace alone if two more follow, and otherwise the error;
so in a row of braces the error comes at the last two. -/
theorem closed_of_opens (visited : Visits .standard stream visits error) {read text : List Char}
    (ready : Ready .standard stream read text) (accepted : error = none)
    (unmixed : ¬ mixedOpen <:+: text) (opens : tagOpen <+: text ∨ statementOpen <+: text) :
    Opens tagOpen tagClose text ∨ Opens statementOpen statementClose text := by
  induction visited generalizing read text with
  | ended step =>
      obtain rfl := ready.text_eq_nil step
      simp [tagOpen, statementOpen] at opens
  | failed => cases accepted
  | @visit stream after region piece inner left tokens visits error next kind step entry later ih =>
      rw [ready.rest_eq] at next
      rw [step] at entry
      have following := ready.past_region next entry
      have apart := next.unmixed_left unmixed
      cases next with
      | raw cut => exact .inl cut.opens.opens
      | statement noRaw enclosed => exact .inr enclosed.opens
      | tag noRaw noStatement enclosed => exact .inl enclosed.opens
      | literal noRaw noStatement noTag cut =>
          rcases LiteralCut.opening_cases cut unmixed opens with tag | statement | ⟨rfl, again⟩
          · rw [stepOver, entry_eq_none ready.toAt (.inl rfl) tag] at entry
            cases entry
          · rw [stepOver, entry_eq_none ready.toAt (.inr rfl) statement] at entry
            cases entry
          · obtain rfl : text = '\x7b' :: left := cut.split
            rcases ih following accepted apart (.inr again) with
              ⟨rest, rfl, -⟩ | ⟨rest, rfl, closes⟩
            · simp [tagOpen, statementOpen] at again
            · exact .inr ⟨'\x7b' :: rest, rfl, List.infix_cons_iff.2 (.inr closes)⟩

end Stream

/-! ### Regions before more text -/

section More

variable {text piece inner left : List Char} {region : Region}

/-- What keeps a region from being read in another way once more text follows: a tag is not named
`raw`, and plain text has no opening delimiter at its start and enough of one behind it to see its
trim marker. -/
structure Decided (region : Region) (text inner left : List Char) : Prop where
  named : region = .tag → nameOf inner ≠ "raw".toList
  plain : region = .literal → ¬ tagOpen <+: text ∧ ¬ statementOpen <+: text
  long : region = .literal → 3 ≤ left.length

theorem front_append (next : NextRegion .standard text region piece inner left)
    (decided : Decided region text inner left) (more : List Char) :
    front .standard (text ++ more) = (region, inner, left ++ more) := by
  cases next with
  | raw cut =>
      have block : raw? Delimiters.standard.tagStart.toList Delimiters.standard.tagEnd.toList
          (text ++ more) = some (inner, left ++ more) :=
        raw?_eq_some (by decide) (separated_standard.hard .tagEnd) (cut.append more)
      rw [front, block]
  | statement noRaw enclosed =>
      have opened : enclosed? Delimiters.standard.statementStart.toList
          Delimiters.standard.statementEnd.toList (text ++ more) = some (inner, left ++ more) :=
        enclosed?_append (enclosed?_eq_some (by decide) (separated_standard.hard .statementEnd)
          enclosed) more
      have noTag : after? Delimiters.standard.tagStart.toList (text ++ more) = none := by
        rw [enclosed.split]
        rfl
      rw [front, raw?, namedTag?, noTag, opened]
      rfl
  | tag noRaw noStatement enclosed =>
      have opened : enclosed? Delimiters.standard.tagStart.toList
          Delimiters.standard.tagEnd.toList (text ++ more) = some (inner, left ++ more) :=
        enclosed?_append (enclosed?_eq_some (by decide) (separated_standard.hard .tagEnd) enclosed)
          more
      -- Further text can hold the end of a raw block, so a tag stays a tag only if it opens none.
      have noBlock : raw? Delimiters.standard.tagStart.toList Delimiters.standard.tagEnd.toList
          (text ++ more) = none :=
        raw?_eq_none_of_enclosed (by decide) (separated_standard.hard .tagEnd) opened
          fun raw => absurd raw (decided.named rfl)
      have noStatement :
          after? Delimiters.standard.statementStart.toList (text ++ more) = none := by
        rw [enclosed.split]
        rfl
      rw [front, noBlock, enclosed?, noStatement, opened]
      rfl
  | literal noRaw noStatement noTag cut =>
      obtain ⟨tag, statement⟩ := decided.plain rfl
      have long := decided.long rfl
      have enough : 2 ≤ text.length := by
        rw [cut.split, List.length_append]
        omega
      have noTag : after? Delimiters.standard.tagStart.toList (text ++ more) = none :=
        after?_eq_none_iff.2 (not_prefix_append tag enough more)
      have noStatement : after? Delimiters.standard.statementStart.toList (text ++ more) = none :=
        after?_eq_none_iff.2 (not_prefix_append statement enough more)
      have run := literalRun_eq (LiteralCut.append cut (by omega) more)
      rw [front, raw?, namedTag?, noTag, enclosed?, noStatement, enclosed?, noTag]
      exact congrArg (Prod.mk Region.literal) run

theorem scanRegion_append (long : region = .literal → 3 ≤ left.length) (read more : List Char)
    (trim : Bool) (further : Bool → Run) :
    scanRegion .standard read region inner (left ++ more) trim further
      = scanRegion .standard read region inner left trim further := by
  cases region with
  | raw => rfl
  | statement => rfl
  | tag => rfl
  | literal =>
      have tag : (Delimiters.standard.tagStart.toList ++ ['-']).length ≤ left.length := long rfl
      have statement : (Delimiters.standard.statementStart.toList ++ ['-']).length ≤ left.length :=
        long rfl
      simp only [scanRegion, isPrefixOf_append_of_le tag, isPrefixOf_append_of_le statement]

end More

/-! ### Settled templates -/

/-- Regions behind which anything may stand: no tag is named `raw`, and the last region is not
plain text. -/
structure Firm (visits : List Visit) : Prop where
  named : ∀ visit ∈ visits, ∀ token ∈ visit.tokens, token.kind = .tag → token.value ≠ "raw"
  closed : ∀ last ∈ visits.getLast?, last.region ≠ .literal

theorem Firm.tail {visit : Visit} {visits : List Visit} (firm : Firm (visit :: visits)) :
    Firm visits := by
  refine ⟨fun other member => firm.named other (List.mem_cons_of_mem visit member), ?_⟩
  intro last ends
  refine firm.closed last ?_
  rw [List.getLast?_cons, Option.mem_def.1 ends]
  rfl

namespace Stream

variable {stream after : Stream} {read text piece inner left : List Char} {region : Region}
  {visits : List Visit} {error : Option LexError} {delimiters : Delimiters}

theorem nameOf_ne {tokens : List Token}
    (entry : (stepOver .standard stream .tag piece inner left).entry = some (tokens, after))
    (named : ∀ token ∈ tokens, token.kind = .tag → token.value ≠ "raw") :
    nameOf inner ≠ "raw".toList := by
  cases entry
  intro raw
  refine named _ List.mem_cons_self rfl ?_
  simp [token, raw]

theorem visits_eq_nil {delimiters : Delimiters} (visited : Visits delimiters stream visits error)
    (ready : Ready delimiters stream read []) : visits = [] := by
  cases visited with
  | ended => rfl
  | failed => rfl
  | visit next =>
      rw [ready.rest_eq] at next
      exact absurd (List.append_eq_nil_iff.1 next.split.symm).1 (next.piece_ne ready.valid)

/-- A region that is visited without an error is decided, if it and those after it are firm. -/
theorem decided_of_visits {visit : Visit}
    (visited : Visits .standard stream (visit :: visits) none)
    (ready : Ready .standard stream read text)
    (next : NextRegion .standard text visit.region visit.piece visit.inner left)
    (entry : (stepOver .standard stream visit.region visit.piece visit.inner left).entry
      = some (visit.tokens, after))
    (later : Visits .standard after visits none) (unmixed : ¬ mixedOpen <:+: text)
    (firm : Firm (visit :: visits)) : Decided visit.region text visit.inner left := by
  obtain ⟨region, piece, inner, tokens, bodyLine⟩ := visit
  have following := ready.past_region next entry
  refine ⟨?_, ?_, ?_⟩
  · rintro rfl
    exact nameOf_ne entry (firm.named _ List.mem_cons_self)
  · rintro rfl
    cases next with
    | literal noRaw noStatement noTag cut =>
        have opens (opens : tagOpen <+: text ∨ statementOpen <+: text) : False :=
          (closed_of_opens visited ready rfl unmixed opens).elim noTag noStatement
        exact ⟨fun tag => opens (.inl tag), fun statement => opens (.inr statement)⟩
  · rintro rfl
    have apart := next.unmixed_left unmixed
    have opens : tagOpen <+: left ∨ statementOpen <+: left := by
      cases next with
      | literal noRaw noStatement noTag cut =>
          rcases cut.halts with tag | statement | rfl
          · exact .inl tag
          · exact .inr statement
          · obtain rfl := visits_eq_nil later following
            exact absurd rfl (firm.closed _ rfl)
    have enough : 4 ≤ left.length :=
      (closed_of_opens later following rfl apart opens).elim
        (fun tag => tag.four_le (by decide) (by decide))
        fun statement => statement.four_le (by decide) (by decide)
    exact Nat.le_of_succ_le enough

/-- Firm regions that are visited without an error give the same tokens when more text follows, and
what follows is read with the wish to trim that they leave. -/
theorem scanFrom_append_of_visits (visited : Visits .standard stream visits error)
    {read text : List Char} (ready : Ready .standard stream read text) (accepted : error = none)
    (unmixed : ¬ mixedOpen <:+: text) (firm : Firm visits) (more : List Char) :
    scanFrom .standard separated_standard.valid read (text ++ more) stream.trimNext
      = prepend (visits.flatMap Visit.tokens)
          (scanFrom .standard separated_standard.valid (read ++ text) more
            ((visits.map Visit.passage).foldl (nextWish .standard) stream.trimNext)) := by
  induction visited generalizing read text with
  | ended step =>
      obtain rfl := ready.text_eq_nil step
      simp [prepend]
  | failed => cases accepted
  | @visit stream after region piece inner left tokens visits error next kind step entry later ih =>
      subst accepted
      have visited := Visits.visit next kind step entry later
      rw [ready.rest_eq] at next
      rw [step] at entry
      have following := ready.past_region next entry
      have apart := next.unmixed_left unmixed
      have decided := decided_of_visits visited ready next entry later unmixed firm
      have found := front_append next decided more
      rw [next.split, List.append_assoc] at found ⊢
      rw [scanFrom_append separated_standard.valid (next.piece_ne ready.valid) found,
        scanRegion_append decided.long, scanRegion_of_entry separated_standard ready entry,
        ih following rfl apart firm.tail, trimNext_of_entry next entry]
      simp [prepend, Visit.passage]

/-! ### The wish to trim at the end -/

/-- Asked often enough, a stream that raises no error is finished, and it has the wish to trim that
its regions leave. -/
theorem exists_finished (visited : Visits delimiters stream visits error) (accepted : error = none)
    {read text : List Char} (ready : Ready delimiters stream read text) {bound : List Char}
    (enough : text.length ≤ bound.length) :
    ∃ count, ((stream.advance bound).2.asked count).finished = true
      ∧ ((stream.advance bound).2.asked count).trimNext
        = (visits.map Visit.passage).foldl (nextWish delimiters) stream.trimNext := by
  induction visited generalizing read text bound with
  | ended step =>
      obtain rfl := ready.text_eq_nil step
      rw [advance.eq_def, ready.step_of_end]
      exact ⟨0, rfl, rfl⟩
  | failed => cases accepted
  | @visit stream after region piece inner left tokens visits error next kind step entry later ih =>
      rw [ready.rest_eq] at next
      have following := ready.past_region next (step ▸ entry)
      have wish := trimNext_of_entry next (step ▸ entry)
      have shorter := next.length_left_lt ready.valid
      rw [List.map_cons, List.foldl_cons, Visit.passage, ← wish]
      rcases advance_of_entry bound entry (by omega) with
        ⟨rfl, less, smaller, same⟩ | ⟨token, reached, rfl, rfl, same⟩
      · rw [same]
        exact ih accepted following (by omega)
      · obtain ⟨count, ended, calm⟩ := ih accepted following le_rfl
        rw [← following.next_eq] at ended calm
        rw [same]
        cases waits : reached.pending with
        | none =>
            have same : { reached with pending := none } = reached := by rw [← waits]
            rw [same] at ended calm
            exact ⟨count + 1, ended, calm⟩
        | some expression =>
            refine ⟨count + 2, ?_⟩
            rw [asked, asked, next_of_pending waits]
            exact ⟨ended, calm⟩

theorem asked_add (first second : Nat) (stream : Stream) :
    stream.asked (first + second) = (stream.asked first).asked second := by
  induction second with
  | zero => rfl
  | succ second ih => rw [← Nat.add_assoc, asked_succ, ih, ← asked_succ]

/-- A stream that has come to its end does not wish to trim afterwards. -/
theorem calm_of_finished (last : Nat)
    (ended : (stream.asked last).finished = true ∧ (stream.asked last).pending = none)
    (early : ∀ count < last, (stream.asked count).finished = false)
    (calm : (stream.asked last).trimNext = false) (count : Nat)
    (finished : (stream.asked count).finished = true) : (stream.asked count).trimNext = false := by
  rcases Nat.lt_or_ge count last with before | behind
  · rw [early count before] at finished
    cases finished
  · obtain ⟨more, rfl⟩ := Nat.exists_eq_add_of_le behind
    rw [asked_add, asked_of_finished ended.1 ended.2]
    exact calm

end Stream

/-- A template that is read without an error and leaves nothing open that more text could change:
two braces do not stand before a percent sign, where plain text of one brace would come before a
tag; no tag is named `raw`; the last region, if there is one, is not plain text; and no wish to trim
is left at the end. -/
structure Settled (regions : RegionTable) (source : String) : Prop where
  accepted : (regions.tokenize source).error = none
  unmixed : ¬ "\x7b\x7b%".toList <:+: source.toList
  named : ∀ token ∈ (regions.tokenize source).tokens, token.kind = .tag → token.value ≠ "raw"
  closed : ∀ last ∈ (regions.passages source).getLast?, last.region ≠ .literal
  calm : ∀ count, ((Stream.start regions source).asked count).finished = true →
    ((Stream.start regions source).asked count).trimNext = false

/-- A settled template and more text are read one after the other: the run of both together is the
run of the template followed by that of the text, on lines and at positions behind the template. -/
theorem tokenize_append :
    ∃ regions, RegionTable.compile .standard = .ok regions ∧ ∀ first second,
      Settled regions first →
        regions.tokenize (first ++ second)
          = prepend (regions.tokenize first).tokens
              ((regions.tokenize second).behind (lineBreaks first.toList)
                (byteLength first.toList)) := by
  refine ⟨regionTable .standard, compile_eq_ok separated_standard.valid, ?_⟩
  intro first second settled
  have ready := Stream.ready_start separated_standard.valid first
  obtain ⟨visits, error, visited⟩ := Stream.exists_visits ready
  have run : (regionTable .standard).tokenize first = ⟨visits.flatMap Visit.tokens, error⟩ :=
    Stream.run_of_visits visited ready
  have passages : (regionTable .standard).passages first = visits.map Visit.passage :=
    Stream.passages_of_visits visited ready String.length_toList.le
  obtain ⟨accepted, unmixed, named, closed, calm⟩ := settled
  rw [run] at accepted named
  rw [passages] at closed
  have firm : Firm visits := by
    constructor
    · intro visit member token given
      exact named token (List.mem_flatMap.2 ⟨visit, member, given⟩)
    · intro last ends
      refine closed last.passage ?_
      rw [List.getLast?_map, Option.mem_def.1 ends]
      rfl
  have rested : (visits.map Visit.passage).foldl (nextWish .standard) false = false := by
    obtain ⟨count, ended, wish⟩ := Stream.exists_finished visited accepted ready le_rfl
    rw [← ready.next_eq] at ended wish
    exact wish.symm.trans (calm (count + 1) ended)
  have appended := Stream.scanFrom_append_of_visits visited ready accepted unmixed firm
    second.toList
  rw [show (Stream.start (regionTable .standard) first).trimNext = false from rfl, rested]
    at appended
  rw [tokenize_eq_scanFrom separated_standard, String.toList_append, appended, run,
    tokenize_eq_scanFrom separated_standard, ← scanFrom_behind, List.nil_append, List.append_nil]

/-- A template with a statement that trims off the line break behind it and with a raw block at its
end that holds an opening delimiter. The text after it has a statement that does not end. -/
theorem tokenize_append_after_block :
    ∃ regions, RegionTable.compile .standard = .ok regions
      ∧ Settled regions "\x7b\x7b '%\x7d' -\x7d\x7d\n\x7b% raw %\x7d\x7b\x7b \x7b% endraw %\x7d"
      ∧ regions.tokenize
          ("\x7b\x7b '%\x7d' -\x7d\x7d\n\x7b% raw %\x7d\x7b\x7b \x7b% endraw %\x7d"
            ++ "b\n\x7b\x7b c")
        = ⟨[⟨1, .statement, "'%\x7d'"⟩, ⟨2, .literal, "\x7b\x7b "⟩, ⟨2, .literal, "b\n"⟩],
          some ⟨.unterminatedRegion "\x7d\x7d", 3, ⟨38, 42⟩⟩⟩ := by
  obtain ⟨regions, compiled, appended⟩ := tokenize_append
  obtain rfl : regionTable .standard = regions :=
    Except.ok.inj ((compile_eq_ok separated_standard.valid).symm.trans compiled)
  have settled : Settled (regionTable .standard)
      "\x7b\x7b '%\x7d' -\x7d\x7d\n\x7b% raw %\x7d\x7b\x7b \x7b% endraw %\x7d" := by
    refine ⟨by decide +kernel, by decide +kernel, by decide +kernel, by decide +kernel, ?_⟩
    refine Stream.calm_of_finished 3 ?_ ?_ ?_ <;> decide +kernel
  exact ⟨_, compiled, settled, (appended _ _ settled).trans (by decide +kernel)⟩

end LiquidTokens.Template
