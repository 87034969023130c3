import LiquidTokens.Proofs.Template.Bodies

/-!
No template syntax in the values of tokens.

What a region gives does not hold the delimiters that were to be read there: a body does not go on
over the delimiter that closes it, plain text not over one that opens a region, and a raw block not
over the tag that ends it. Bodies have no blanks at their ends, and names of tags are made of word
characters (`Clean`). This depends neither on what the delimiters are made of nor on what is trimmed
off plain text afterwards.

Main statement: `tokens_clean`.
-/

namespace LiquidTokens.Template

open Text (isBlank isWord)

/-! ### Clean tokens -/

/-- There are no blanks at the ends of a text. -/
def Bare (text : List Char) : Prop :=
  (∀ c ∈ text.head?, isBlank c = false) ∧ ∀ c ∈ text.getLast?, isBlank c = false

/-- What a token may hold that a region of a kind gives. -/
inductive Clean (delimiters : Delimiters) : Region → Token → Prop where
  | raw {line : Nat} {value : List Char} (nonempty : value ≠ [])
      (inside : ∀ front rest left, value = front ++ rest →
        ¬ NamedTag delimiters.tagStart.toList delimiters.tagEnd.toList "endraw".toList rest left) :
      Clean delimiters .raw ⟨line, .literal, String.ofList value⟩
  | literal {line : Nat} {value : List Char} (nonempty : value ≠ [])
      (noTag : ¬ delimiters.tagStart.toList <:+: value)
      (noStatement : ¬ delimiters.statementStart.toList <:+: value) :
      Clean delimiters .literal ⟨line, .literal, String.ofList value⟩
  | statement {line : Nat} {value : List Char}
      (inside : ¬ delimiters.statementEnd.toList <:+: value) (bare : Bare value) :
      Clean delimiters .statement ⟨line, .statement, String.ofList value⟩
  | tag {line : Nat} {name : List Char} (word : ∀ c ∈ name, isWord c = true) :
      Clean delimiters .tag ⟨line, .tag, String.ofList name⟩
  | expression {line : Nat} {value : List Char} (nonempty : value ≠ [])
      (inside : ¬ delimiters.tagEnd.toList <:+: value) (bare : Bare value) :
      Clean delimiters .tag ⟨line, .expression, String.ofList value⟩

/-! ### Parts of a region -/

/-- The body at the beginning of a text is bare if the text does not begin with a blank. -/
theorem bare_bodyOf {text : List Char} (begins : ∀ c ∈ text.head?, isBlank c = false) :
    Bare (bodyOf text) := by
  refine ⟨?_, getLast?_trimEnd _⟩
  intro c first
  refine begins c ?_
  obtain ⟨trail, -, split⟩ := exists_trails text
  rw [split, List.head?_append, Option.mem_def.1 first]
  rfl

/-- An opening delimiter in plain text can only stand at its beginning. -/
theorem LiteralCut.front_eq_nil {tagStart statementStart text literal left : List Char}
    {start front back : List Char} (cut : LiteralCut tagStart statementStart text literal left)
    (opens : start = tagStart ∨ start = statementStart) (nonempty : start ≠ [])
    (split : literal = front ++ (start ++ back)) : front = [] := by
  by_contra behind
  refine cut.shortest front (start ++ back) split behind (by simp [nonempty]) ?_
  have stands : start <+: start ++ back ++ left := ⟨back ++ left, by simp⟩
  rcases opens with rfl | rfl
  · exact .inl stands
  · exact .inr (.inl stands)

/-- Plain text that does not begin with an opening delimiter once it is trimmed holds none. -/
theorem LiteralCut.not_infix_trimmed {tagStart statementStart text literal left start : List Char}
    (cut : LiteralCut tagStart statementStart text literal left)
    (opens : start = tagStart ∨ start = statementStart) (nonempty : start ≠ [])
    {atStart atEnd : Bool} (bare : ¬ start <+: trimmed atStart atEnd literal) :
    ¬ start <:+: trimmed atStart atEnd literal := by
  rintro ⟨front, back, held⟩
  obtain ⟨lead, trail, whole⟩ := trimmed_isInfix atStart atEnd literal
  have split : literal = (lead ++ front) ++ (start ++ (back ++ trail)) := by
    rw [← whole, ← held]
    simp
  obtain ⟨-, rfl⟩ := List.append_eq_nil_iff.1 (cut.front_eq_nil opens nonempty split)
  exact bare ⟨back, held⟩

theorem NamedTag.append {start stop word text left : List Char}
    (tag : NamedTag start stop word text left) (more : List Char) :
    NamedTag start stop word (text ++ more) (left ++ more) := by
  obtain ⟨lead, gap, rfl, leadBlank, gapBlank⟩ := tag
  exact ⟨lead, gap, by simp, leadBlank, gapBlank⟩

/-- A raw block does not hold the tag that would have ended it. -/
theorem RawCut.not_namedTag {start stop text head inner foot left : List Char}
    (cut : RawCut start stop text head inner foot left) {front rest more : List Char}
    (split : inner = front ++ rest) : ¬ NamedTag start stop "endraw".toList rest more := by
  intro tag
  have nonempty : rest ≠ [] := by
    obtain ⟨lead, gap, rfl, -, -⟩ := tag
    simp
  refine cut.shortest front rest split nonempty (more ++ (foot ++ left)) ?_
  rw [List.append_assoc]
  exact tag.append (foot ++ left)

/-! ### Regions of a stream -/

namespace Stream

variable {delimiters : Delimiters} {stream after : Stream} {read text piece inner left : List Char}
  {region : Region} {tokens : List Token} {visits : List Visit} {error : Option LexError}

theorem At.not_prefix_of_expected? (here : At delimiters stream read text) {value : List Char}
    (none : stream.expected? value = none) :
    ¬ delimiters.statementStart.toList <+: value ∧ ¬ delimiters.tagStart.toList <+: value := by
  rw [expected?, here.regions] at none
  simp only [regionTable, List.isPrefixOf_iff_prefix] at none
  split at none
  · cases none
  · next noStatement =>
      split at none
      · cases none
      · next noTag => exact ⟨noStatement, noTag⟩

/-- What a stream gives at a region is clean. -/
theorem Ready.clean (ready : Ready delimiters stream read text)
    (next : NextRegion delimiters text region piece inner left)
    (shut : Shut delimiters region inner)
    (entry : (stepOver delimiters stream region piece inner left).entry = some (tokens, after)) :
    ∀ token ∈ tokens, Clean delimiters region token := by
  cases next with
  | raw cut =>
      rw [stepOver] at entry
      split at entry
      · cases entry
        simp
      · next some =>
          cases entry
          rw [past, ready.nothing]
          refine List.forall_mem_singleton.2 (.raw (by simpa using some) ?_)
          intro front rest left split
          exact cut.not_namedTag split
  | statement noRaw enclosed =>
      cases entry
      rw [past, ready.nothing]
      exact List.forall_mem_singleton.2 (.statement shut (bare_bodyOf (head?_trimStart _)))
  | tag noRaw noStatement enclosed =>
      cases entry
      refine List.forall_mem_cons.2 ⟨.tag fun c => List.mem_takeWhile_imp, ?_⟩
      rw [past, ready.nothing]
      split
      · simp
      · next some =>
          refine List.forall_mem_singleton.2 (.expression (by simpa using some) shut ?_)
          exact bare_bodyOf (head?_trimStart _)
  | literal noRaw noStatement noTag cut =>
      simp only [stepOver, stepOverLiteral] at entry
      split at entry
      · cases entry
        simp
      · next some =>
        split at entry
        · cases entry
        · next plain =>
          cases entry
          rw [past, ready.nothing]
          obtain ⟨statement, tag⟩ := ready.toAt.not_prefix_of_expected? plain
          refine List.forall_mem_singleton.2 (.literal (by simpa using some) ?_ ?_)
          · exact cut.not_infix_trimmed (.inl rfl) (tagStart_ne ready.valid) tag
          · exact cut.not_infix_trimmed (.inr rfl) (statementStart_ne ready.valid) statement

/-- What a stream gives at the regions that it visits is clean. -/
theorem clean_of_visits (visited : Visits delimiters stream visits error) {read text : List Char}
    (ready : Ready delimiters stream read text) :
    ∀ visit ∈ visits, ∀ token ∈ visit.tokens, Clean delimiters visit.region token := by
  induction visited generalizing read text with
  | ended => exact nofun
  | failed => exact nofun
  | @visit stream after region piece inner left tokens visits error next kind step entry later ih =>
      rw [ready.rest_eq] at next
      have nonempty : text ≠ [] := by
        rw [next.split]
        exact List.append_ne_nil_of_left_ne_nil (next.piece_ne ready.valid) left
      obtain ⟨own, piece', inner', left', begins, shut, same, taken⟩ :=
        exists_stepOver ready.toAt nonempty
      obtain rfl : region = own := Option.some.inj (kind.symm.trans same)
      refine List.forall_mem_cons.2 ⟨ready.clean begins shut (taken ▸ entry), ?_⟩
      exact ih (ready.past_region next (step ▸ entry))

end Stream

/-- Every token of a run comes from one of its regions and is clean there: the value of a statement
does not hold the delimiter that closes it, nor does an expression, which is not empty, and neither
has blanks at its ends; the name of a tag is made of word characters; plain text is not empty and
holds no opening delimiter, and a raw block is not empty and holds no tag that would end it. -/
theorem tokens_clean {delimiters : Delimiters} (valid : delimiters.validate = .ok ()) :
    ∃ regions, RegionTable.compile delimiters = .ok regions ∧ ∀ source,
      (regions.tokenize source).tokens = (regions.passages source).flatMap Passage.tokens
        ∧ ∀ passage ∈ regions.passages source, ∀ token ∈ passage.tokens,
            Clean delimiters passage.region token := by
  refine ⟨regionTable delimiters, compile_eq_ok valid, ?_⟩
  intro source
  have ready := Stream.ready_start valid source
  obtain ⟨visits, error, visited⟩ := Stream.exists_visits ready
  have passages : (regionTable delimiters).passages source = visits.map Visit.passage :=
    Stream.passages_of_visits visited ready String.length_toList.le
  rw [passages, RegionTable.tokenize, Stream.run_of_visits visited ready]
  constructor
  · rw [List.flatMap_map]
    rfl
  · intro passage member
    obtain ⟨visit, visited', rfl⟩ := List.mem_map.1 member
    exact Stream.clean_of_visits visited ready visit visited'

/-- A closing delimiter that begins with a blank: the blanks before it leave it one. -/
theorem tokens_clean_blank :
    ∃ regions, RegionTable.compile ⟨"<%", "%>", "<%=", " %>"⟩ = .ok regions
      ∧ (regions.tokenize "<%= a   %>").tokens = [⟨1, .statement, "a"⟩]
      ∧ Clean ⟨"<%", "%>", "<%=", " %>"⟩ .statement ⟨1, .statement, "a"⟩ := by
  obtain ⟨regions, compiled, clean⟩ := @tokens_clean ⟨"<%", "%>", "<%=", " %>"⟩ rfl
  obtain rfl : regionTable ⟨"<%", "%>", "<%=", " %>"⟩ = regions :=
    Except.ok.inj ((compile_eq_ok rfl).symm.trans compiled)
  have passages : (regionTable ⟨"<%", "%>", "<%=", " %>"⟩).passages "<%= a   %>"
      = [⟨.statement, "<%= a   %>".toList, [⟨1, .statement, "a"⟩]⟩] := by decide +kernel
  obtain ⟨given, each⟩ := clean "<%= a   %>"
  rw [passages] at given each
  exact ⟨_, compiled, given, each _ List.mem_cons_self _ List.mem_cons_self⟩

end LiquidTokens.Template
