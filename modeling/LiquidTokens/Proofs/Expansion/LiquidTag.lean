import LiquidTokens.Proofs.Expansion.Forest
import LiquidTokens.Proofs.Template.Standard
import LiquidTokens.Tokenize

/-!
The tag `liquid` as a way to write other tags.

Tags that stand one on each line of a `liquid` body can be written between delimiters of their own
instead. The two texts are taken apart by different patterns, with different blanks, and their
lines are counted in different ways; still the tokens are the same, on the same lines, and so are
the trees of their expressions or the failure in one of them.

Main statement: `trees_liquidTag`.
-/

namespace LiquidTokens.Expansion

open LiquidBody (isGap isTrail nameIn expressionIn lineTokens linesTokens)
open Template
open Text (dropWhile_append_of_head dropWhile_append_of_stop dropWhile_congr isBlank isWord
  lineBreaks lines takeWhile_append_of_head takeWhile_append_of_stop trimStart trimEnd)

/-! ### Lines that hold a tag -/

/-- A line that holds a tag, which can also be written between delimiters. -/
structure TagLine (line : List Char) : Prop where
  absent : ¬ tagClose <:+: line
  blanks : ∀ c ∈ line, isBlank c = true → isGap c = true
  word : ∃ c ∈ (line.dropWhile isGap).head?, isWord c = true
  notRaw : nameIn line ≠ "raw".toList

instance : DecidablePred TagLine := fun line =>
  decidable_of_iff (¬ tagClose <:+: line ∧ (∀ c ∈ line, isBlank c = true → isGap c = true)
      ∧ (∃ c ∈ (line.dropWhile isGap).head?, isWord c = true) ∧ nameIn line ≠ "raw".toList)
    ⟨fun ⟨absent, blanks, word, notRaw⟩ => ⟨absent, blanks, word, notRaw⟩,
      fun formed => ⟨formed.absent, formed.blanks, formed.word, formed.notRaw⟩⟩

/-- Some lines, each with a line break after it. -/
def unlines (texts : List (List Char)) : List Char :=
  texts.flatMap (· ++ ['\n'])

/-- Some lines as the body of one tag. -/
def liquidTag (texts : List (List Char)) : List Char :=
  tagOpen ++ (" liquid\n".toList ++ unlines texts) ++ tagClose

/-- A line between delimiters. -/
def delimited (line : List Char) : List Char :=
  tagOpen ++ (' ' :: line ++ [' ']) ++ tagClose

/-- Some lines as tags of their own, with line breaks before, between and after them. -/
def separateTags (texts : List (List Char)) : List Char :=
  texts.flatMap (fun line => '\n' :: delimited line) ++ ['\n']

example : String.ofList (liquidTag ["if x".toList, " echo y".toList])
      = "\x7b% liquid\nif x\n echo y\n%\x7d"
    ∧ String.ofList (separateTags ["if x".toList, " echo y".toList])
      = "\n\x7b% if x %\x7d\n\x7b%  echo y %\x7d\n" := by
  decide

theorem isBlank_of_isGap {c : Char} (gap : isGap c = true) : isBlank c = true := by
  rw [isGap, Bool.or_eq_true, beq_iff_eq, beq_iff_eq] at gap
  rcases gap with rfl | rfl <;> decide

namespace TagLine

variable {line : List Char} (formed : TagLine line)
include formed

theorem isBlank_eq_isGap {c : Char} (member : c ∈ line) : isBlank c = isGap c := by
  rw [Bool.eq_iff_iff]
  exact ⟨formed.blanks c member, isBlank_of_isGap⟩

theorem isBlank_eq_isTrail {c : Char} (member : c ∈ line) : isBlank c = isTrail c := by
  rw [isTrail, formed.isBlank_eq_isGap member]
  by_cases feed : c = '\r'
  · subst feed
    exact absurd (formed.blanks '\r' member (by decide)) (by decide)
  · rw [beq_eq_false_iff_ne.2 feed, Bool.or_false]

theorem noBreak : '\n' ∉ line := fun member =>
  absurd (formed.blanks '\n' member (by decide)) (by decide)

theorem trimStart_eq : trimStart line = line.dropWhile isGap :=
  dropWhile_congr fun _ member => formed.isBlank_eq_isGap member

theorem trimStart_ne : trimStart line ≠ [] := by
  obtain ⟨c, first, -⟩ := formed.word
  rw [formed.trimStart_eq]
  intro none
  rw [none] at first
  cases first

theorem named : nameIn line ≠ [] := by
  obtain ⟨c, first, word⟩ := formed.word
  obtain ⟨rest, begins⟩ := List.head?_eq_some_iff.1 first
  rw [nameIn, begins, List.takeWhile_cons, if_pos word]
  exact List.cons_ne_nil c _

/-- Something in the line is no blank. -/
theorem exists_visible : ∃ c ∈ line, isBlank c = false := by
  obtain ⟨c, first, word⟩ := formed.word
  refine ⟨c, (List.dropWhile_suffix isGap).subset (List.mem_of_mem_head? first), ?_⟩
  by_contra blank
  rw [isWord_of_isBlank (by simpa using blank)] at word
  cases word

/-- Blanks that lie in the line, or that the line lies in, are spaces and tabs. -/
theorem isGap_of_subset {run : List Char} (inside : run ⊆ line ∨ line ⊆ run)
    (blank : ∀ c ∈ run, isBlank c = true) : ∀ c ∈ run, isGap c = true := by
  rcases inside with within | beyond
  · exact fun c member => formed.blanks c (within member) (blank c member)
  · obtain ⟨c, member, shown⟩ := formed.exists_visible
    rw [blank c (beyond member)] at shown
    cases shown

/-- Blanks with which a text begins that begins with the line are spaces and tabs. -/
theorem isGap_of_start {lead text : List Char} (begins : line <+: text) (starts : lead <+: text)
    (blank : ∀ c ∈ lead, isBlank c = true) : ∀ c ∈ lead, isGap c = true := by
  have comparable := List.prefix_or_prefix_of_prefix starts begins
  exact formed.isGap_of_subset (comparable.imp (·.subset) (·.subset)) blank

theorem isGap_of_end {gap text : List Char} (ends : line <:+ text) (last : gap <:+ text)
    (blank : ∀ c ∈ gap, isBlank c = true) : ∀ c ∈ gap, isGap c = true := by
  have comparable := List.suffix_or_suffix_of_suffix last ends
  exact formed.isGap_of_subset (comparable.imp (·.subset) (·.subset)) blank

/-! The parts of the line between delimiters are its parts in a body. -/

theorem content_eq : content (' ' :: line ++ [' ']) = trimStart line ++ [' '] := by
  rw [List.cons_append, content_space, trimStart_append_singleton isBlank_space,
    if_neg formed.trimStart_ne]

theorem nameOf_eq : nameOf (' ' :: line ++ [' ']) = nameIn line := by
  rw [nameOf, formed.content_eq, takeWhile_append_of_stop (by decide +kernel), nameIn,
    formed.trimStart_eq]

theorem remainder_eq :
    remainder (' ' :: line ++ [' ']) = trimStart ((trimStart line).dropWhile isWord ++ [' ']) := by
  rw [remainder, formed.content_eq, dropWhile_append_of_stop (by decide +kernel)]

theorem endsMarked_eq : endsMarked (remainder (' ' :: line ++ [' '])) = false := by
  rw [formed.remainder_eq, endsMarked_trimStart_append isBlank_space]

theorem bodyOf_eq : bodyOf (remainder (' ' :: line ++ [' '])) = expressionIn line := by
  have rest : (trimStart line).dropWhile isWord <:+ line :=
    (List.dropWhile_suffix isWord).trans (List.dropWhile_suffix isBlank)
  have start : trimStart ((trimStart line).dropWhile isWord)
      = ((trimStart line).dropWhile isWord).dropWhile isGap :=
    dropWhile_congr fun _ member => formed.isBlank_eq_isGap (rest.subset member)
  have last : ((trimStart line).dropWhile isWord).dropWhile isGap <:+ line :=
    (List.dropWhile_suffix isGap).trans rest
  rw [formed.remainder_eq, bodyOf_trimStart_append isBlank_space, start, expressionIn,
    LiquidBody.afterName, ← formed.trimStart_eq, trimEnd, List.rdropWhile]
  refine congrArg List.reverse (dropWhile_congr fun _ member => formed.isBlank_eq_isTrail ?_)
  exact last.subset (List.mem_reverse.1 member)

/-- Between delimiters the line is one region. -/
theorem front_eq (left : List Char) :
    front .standard (delimited line ++ left) = (.tag, ' ' :: line ++ [' '], left) := by
  refine front_tag isBlank_space
    (not_infix_between_spaces (by decide) (by decide) formed.absent) ?_ left
  rw [formed.nameOf_eq]
  exact fun raw => absurd raw formed.notRaw

theorem lineBreaks_delimited : lineBreaks (delimited line) = 0 := by
  refine List.count_eq_zero.2 fun member => ?_
  simp [delimited, tagOpen, tagClose, formed.noBreak] at member

/-- No line break stands before its expression. -/
theorem lineBreaks_before (tail : List Char) :
    lineBreaks (before (' ' :: line ++ [' ']) tail) = 0 := by
  refine List.count_eq_zero.2 fun member => ?_
  have inside := List.mem_of_mem_take member
  simp [formed.noBreak] at inside

end TagLine

/-! ### What a stream gives -/

/-- The tokens that a stream gives, each with the line on which the latest body starts, if no error
ends it. -/
def Gives (stream : Stream) (items : List (Token × Nat)) : Prop :=
  ∃ visits, Stream.Visits .standard stream visits none ∧ Stream.logOf visits = items

section Gives

variable {stream after : Stream} {read inner left : List Char}

theorem gives_nil (ready : Stream.Ready .standard stream read []) : Gives stream [] :=
  ⟨[], .ended ready.step_of_end, rfl⟩

/-- A tag gives its name and its expression. -/
theorem gives_tag
    (ready : Stream.Ready .standard stream read (tagOpen ++ inner ++ tagClose ++ left))
    (found : front .standard (tagOpen ++ inner ++ tagClose ++ left) = (.tag, inner, left)) :
    ∃ after, Stream.Ready .standard after (read ++ (tagOpen ++ inner ++ tagClose)) left
      ∧ after.trimNext = endsMarked (remainder inner)
      ∧ ∀ items, Gives after items → Gives stream
          ((⟨1 + lineBreaks read, .tag, String.ofList (nameOf inner)⟩
            :: tokenUnlessEmpty (1 + lineBreaks read) .expression (bodyOf (remainder inner))).map
            (·, 1 + lineBreaks read + lineBreaks (before inner (remainder inner))) ++ items) := by
  have long : tagOpen ++ inner ++ tagClose ≠ [] := by simp [tagOpen]
  obtain ⟨following, visits⟩ := visits_of_front separated_standard ready long found rfl
  refine ⟨_, following, rfl, ?_⟩
  rintro items ⟨later, visited, rfl⟩
  refine ⟨_, visits visited, ?_⟩
  have line := ready.line
  have opens : lineBreaks Delimiters.standard.tagStart.toList = 0 := by decide
  by_cases none : (bodyOf (remainder inner)).isEmpty
  · simp [Stream.logOf, tokenUnlessEmpty, none, ready.nothing, Stream.token, line, opens]
  · simp [Stream.logOf, tokenUnlessEmpty, none, Stream.token, line, opens]

/-- A line break before a tag or at the end is kept as it is. -/
theorem gives_break (ready : Stream.Ready .standard stream read ('\n' :: left))
    (keeps : stream.trimNext = false) (follow : left = [] ∨ ∃ rest, left = tagOpen ++ ' ' :: rest) :
    ∃ after, Stream.Ready .standard after (read ++ ['\n']) left ∧ after.trimNext = false
      ∧ ∀ items, Gives after items →
          Gives stream ((⟨1 + lineBreaks read, .literal, "\n"⟩, after.bodyLine) :: items) := by
  have halts : Halts tagOpen statementOpen left := by
    rcases follow with rfl | ⟨rest, rfl⟩
    · exact .inr (.inr rfl)
    · exact .inl ⟨' ' :: rest, rfl⟩
  have found : front .standard (['\n'] ++ left) = (.literal, ['\n'], left) :=
    front_text (by decide) (by decide) (by decide) (.inr (by decide)) halts
  have unmarked : strips Delimiters.standard.tagStart.toList
      Delimiters.standard.statementStart.toList left = false := by
    rcases follow with rfl | ⟨rest, rfl⟩ <;> rfl
  have known : stream.expected? ['\n'] = none := by
    rw [expected?_eq ready.toAt]
    rfl
  have entry : (Stream.stepOver .standard stream .literal ['\n'] ['\n'] left).entry
      = some ([stream.token .literal ['\n']], { stream.past ['\n'] with trimNext := false }) := by
    simp [Stream.stepOver, unmarked, Stream.stepOverLiteral, keeps, trimmed, known, Step.entry,
      Stream.past, ready.nothing]
  obtain ⟨following, visits⟩ := visits_of_front separated_standard ready (by decide) found entry
  refine ⟨_, following, rfl, ?_⟩
  rintro items ⟨later, visited, rfl⟩
  refine ⟨_, visits visited, ?_⟩
  simp [Stream.logOf, Stream.token, ready.line]

end Gives

/-! ### Tags of their own -/

/-- The trees but those of literals. -/
def withoutLiterals (trees : List TokenTree) : List TokenTree :=
  trees.filter fun tree => tree.token.kind ≠ .literal

theorem withoutLiterals_cons {token : Token} (other : token.kind ≠ .literal)
    (below trees : List TokenTree) :
    withoutLiterals (.node token below :: trees) = .node token below :: withoutLiterals trees :=
  List.filter_cons_of_pos (decide_eq_true other)

theorem withoutLiterals_literal {token : Token} (literal : token.kind = .literal)
    (below trees : List TokenTree) :
    withoutLiterals (.node token below :: trees) = withoutLiterals trees :=
  List.filter_cons_of_neg (by simp [TokenTree.token, literal])

theorem separateTags_cons (line : List Char) (texts : List (List Char)) :
    separateTags (line :: texts) = '\n' :: (delimited line ++ separateTags texts) := by
  simp [separateTags]

/-- Literals are not looked into, and the tag before them stays the latest. -/
theorem forest_literal (source : String) (tag : String) {token : Token}
    (literal : token.kind = .literal) (bodyLine : Nat) (items : List (Token × Nat)) :
    (forest true source none tag ((token, bodyLine) :: items)).map withoutLiterals
      = (forest true source none tag items).map withoutLiterals := by
  simp only [forest, if_true, children, literal, reduceCtorEq, if_false]
  cases forest true source none tag items with
  | error => rfl
  | ok trees => exact congrArg Except.ok (withoutLiterals_literal literal [] trees)

/-- Items on one line have the trees that they have in the body of a tag. -/
theorem forest_line (source : String) (tag : String) {tokens : List Token} {line : Nat}
    (kinds : ∀ token ∈ tokens, token.line = line ∧ (token.kind = .tag ∨ token.kind = .expression))
    (items : List (Token × Nat)) (others : List Token)
    (rest : ∀ tag, (forest true source none tag items).map withoutLiterals
      = lineTrees expression tag others) :
    (forest true source none tag (tokens.map (·, line) ++ items)).map withoutLiterals
      = lineTrees expression tag (tokens ++ others) := by
  induction tokens generalizing tag with
  | nil => exact rest tag
  | cons token tokens ih =>
      obtain ⟨⟨rfl, kind⟩, kinds⟩ := List.forall_mem_cons.1 kinds
      rcases kind with isTag | isExpression
      · have later := ih token.value kinds
        simp only [List.map_cons, List.cons_append, forest, lineTrees, children, isTag, if_true,
          reduceCtorEq, if_false]
        rw [← later]
        cases forest true source none token.value _ with
        | error => rfl
        | ok trees => exact congrArg Except.ok (withoutLiterals_cons (by simp [isTag]) [] trees)
      · have later := ih tag kinds
        simp only [List.map_cons, List.cons_append, forest, lineTrees, children, isExpression,
          if_true, reduceCtorEq, if_false]
        rw [← later]
        cases expression tag token.value token.line with
        | error => rfl
        | ok below =>
            cases forest true source none tag _ with
            | error => rfl
            | ok trees =>
                exact congrArg Except.ok (withoutLiterals_cons (by simp [isExpression]) below trees)

/-- The tokens of a line are those of the tag that it is between delimiters. -/
theorem TagLine.lineTokens_eq {line : List Char} (formed : TagLine line) (number : Nat) :
    lineTokens number line = ⟨number, .tag, String.ofList (nameIn line)⟩
      :: tokenUnlessEmpty number .expression (expressionIn line) := by
  rw [LiquidBody.lineTokens_eq, if_neg (by simpa using formed.named), tokenUnlessEmpty]

/-- Tags of their own have the trees of the lines of a body, apart from the line breaks between
them. -/
theorem gives_separateTags {texts : List (List Char)} (formed : ∀ line ∈ texts, TagLine line)
    {stream : Stream} {read : List Char}
    (ready : Stream.Ready .standard stream read (separateTags texts))
    (keeps : stream.trimNext = false) :
    ∃ items, Gives stream items
      ∧ ∀ source tag, (forest true source none tag items).map withoutLiterals
          = lineTrees expression tag (linesTokens (2 + lineBreaks read) texts) := by
  induction texts generalizing stream read with
  | nil =>
      obtain ⟨after, ended, -, gives⟩ := gives_break ready keeps (.inl rfl)
      refine ⟨_, gives [] (gives_nil ended), fun source tag => ?_⟩
      rw [forest_literal source tag rfl]
      rfl
  | cons line texts ih =>
      obtain ⟨line_formed, others⟩ := List.forall_mem_cons.1 formed
      rw [separateTags_cons] at ready
      obtain ⟨between, here, unmarked, gives⟩ := gives_break ready keeps
        (.inr ⟨line ++ ' ' :: tagClose ++ separateTags texts, by simp [delimited]⟩)
      obtain ⟨after, there, marked, further⟩ := gives_tag here (line_formed.front_eq _)
      rw [line_formed.endsMarked_eq] at marked
      have reached : Stream.Ready .standard after (read ++ ['\n'] ++ delimited line)
          (separateTags texts) := there
      obtain ⟨items, given, same⟩ := ih others reached marked
      refine ⟨_, gives _ (further items given), fun source tag => ?_⟩
      rw [forest_literal source tag rfl, line_formed.nameOf_eq, line_formed.bodyOf_eq,
        line_formed.lineBreaks_before, Nat.add_zero]
      have number : 1 + lineBreaks (read ++ ['\n']) = 2 + lineBreaks read := by
        rw [Text.lineBreaks_append, show lineBreaks ['\n'] = 1 from rfl]
        omega
      have next : 2 + lineBreaks (read ++ ['\n'] ++ delimited line) = 2 + lineBreaks read + 1 := by
        rw [Text.lineBreaks_append, line_formed.lineBreaks_delimited]
        omega
      rw [next] at same
      rw [number, ← line_formed.lineTokens_eq, linesTokens]
      exact forest_line source tag LiquidBody.kinds_of_mem_lineTokens items _ (same source)

/-! ### Lines in one tag -/

section Lines

variable {texts : List (List Char)}

theorem unlines_cons (line : List Char) (texts : List (List Char)) :
    unlines (line :: texts) = line ++ '\n' :: unlines texts := by
  simp [unlines]

/-- A text without a character is found before or after that character. -/
theorem infix_before_or_after {stop before after : List Char} {b : Char} (other : b ∉ stop)
    (within : stop <:+: before ++ b :: after) : stop <:+: before ∨ stop <:+: after := by
  obtain ⟨u, v, split⟩ := within
  rcases List.append_eq_append_iff.1 split with ⟨w, within, rest⟩ | ⟨w, within, rest⟩
  · exact .inl ⟨u, w, within.symm⟩
  · rcases w with _ | ⟨c, w⟩
    · exact .inl ⟨u, [], by simpa using within⟩
    · obtain ⟨rfl, rfl⟩ := List.cons_eq_cons.1 rest
      rcases List.append_eq_append_iff.1 within with ⟨z, -, ends⟩ | ⟨z, -, ends⟩
      · exact absurd (by simp [ends]) other
      · rcases z with _ | ⟨d, z⟩
        · rw [List.nil_append] at ends
          exact absurd (ends ▸ List.mem_cons_self) other
        · obtain ⟨rfl, rfl⟩ := List.cons_eq_cons.1 ends
          exact .inr ⟨z, v, rfl⟩

theorem not_infix_unlines (formed : ∀ line ∈ texts, TagLine line) :
    ¬ tagClose <:+: unlines texts := by
  induction texts with
  | nil => decide
  | cons line texts ih =>
      obtain ⟨line_formed, others⟩ := List.forall_mem_cons.1 formed
      rw [unlines_cons]
      intro within
      exact (infix_before_or_after (by decide) within).elim line_formed.absent (ih others)

theorem lines_unlines (formed : ∀ line ∈ texts, TagLine line) :
    lines (unlines texts) = texts ++ [[]] :=
  Text.lines_ended fun line member => (formed line member).noBreak

/-- Lines with line breaks between them begin and end with a line. -/
theorem exists_unlines (some : texts ≠ []) : ∃ text, unlines texts = text ++ ['\n']
    ∧ (∃ first ∈ texts, first <+: text) ∧ ∃ last ∈ texts, last <:+ text := by
  induction texts with
  | nil => exact absurd rfl some
  | cons line texts ih =>
      by_cases single : texts = []
      · subst single
        exact ⟨line, List.flatMap_singleton _ line, ⟨line, List.mem_cons_self, List.prefix_rfl⟩,
          ⟨line, List.mem_cons_self, List.suffix_rfl⟩⟩
      · obtain ⟨text, joined, -, last, member, ends⟩ := ih single
        refine ⟨line ++ '\n' :: text, ?_, ⟨line, List.mem_cons_self, List.prefix_append _ _⟩,
          ⟨last, List.mem_cons_of_mem line member, ?_⟩⟩
        · rw [unlines_cons, joined]
          simp
        · exact ends.trans ((List.suffix_cons '\n' text).trans (List.suffix_append line _))

/-- The lines are a text between blanks: spaces and tabs, and the line break at the end. Between
these blanks stands the expression of the tag. -/
theorem exists_body (some : texts ≠ []) (formed : ∀ line ∈ texts, TagLine line) :
    ∃ lead body gap, unlines texts = lead ++ body ++ gap ++ ['\n']
      ∧ (∀ c ∈ lead, isGap c = true) ∧ (∀ c ∈ gap, isGap c = true) ∧ body ≠ []
      ∧ trimStart (unlines texts) = body ++ gap ++ ['\n']
      ∧ bodyOf (trimStart (unlines texts)) = body := by
  obtain ⟨text, joined, ⟨first, inside, begins⟩, last, member, ends⟩ := exists_unlines some
  have visible : ¬ ∀ c ∈ text, isBlank c = true := fun all => by
    obtain ⟨c, within, shown⟩ := (formed first inside).exists_visible
    rw [all c (begins.subset within)] at shown
    cases shown
  have left : text = text.takeWhile isBlank ++ trimStart text :=
    List.takeWhile_append_dropWhile.symm
  have right : trimStart text = trimEnd (trimStart text) ++ (trimStart text).rtakeWhile isBlank :=
    List.rdropWhile_append_rtakeWhile.symm
  have nonempty : trimStart text ≠ [] := fun none => visible (List.dropWhile_eq_nil_iff.1 none)
  have after : trimStart (unlines texts) = trimStart text ++ ['\n'] := by
    rw [joined, trimStart_append_singleton (by decide), if_neg nonempty]
  refine ⟨text.takeWhile isBlank, trimEnd (trimStart text), (trimStart text).rtakeWhile isBlank,
    ?_, ?_, ?_, ?_, ?_, ?_⟩
  · rw [joined, List.append_assoc (List.takeWhile isBlank text), ← right, ← left]
  · exact (formed first inside).isGap_of_start begins (List.takeWhile_prefix isBlank)
      fun c => List.mem_takeWhile_imp
  · refine (formed last member).isGap_of_end ends ?_ fun c => List.mem_rtakeWhile_imp
    exact (List.rtakeWhile_suffix _ _).trans (List.dropWhile_suffix isBlank)
  · intro none
    have blank := List.rdropWhile_eq_nil_iff.1 none
    refine visible fun c within => ?_
    rw [left] at within
    exact (List.mem_append.1 within).elim List.mem_takeWhile_imp (blank c)
  · rw [after, ← right]
  · rw [joined, bodyOf_trimStart_append (by decide)]

/-- The body of the tag has the tokens of the lines, numbered on from the second. -/
theorem tokens_body (formed : ∀ line ∈ texts, TagLine line) {lead body gap : List Char}
    (split : unlines texts = lead ++ body ++ gap ++ ['\n'])
    (before : ∀ c ∈ lead, isGap c = true) (after : ∀ c ∈ gap, isGap c = true) (number : Nat) :
    LiquidBody.tokens (String.ofList body) number = linesTokens number texts := by
  have empty (number : Nat) : linesTokens number [[]] = [] := by
    simp [linesTokens, LiquidBody.lineTokens_eq, nameIn]
  have cut : lines (lead ++ body ++ gap) ++ [[]] = texts ++ [[]] := by
    rw [← lines_unlines formed, split, Text.lines_append]
    rfl
  rw [LiquidBody.tokens, String.toList_ofList, ← LiquidBody.linesTokens_gap_append before,
    ← LiquidBody.linesTokens_append_gap after, List.append_cancel_right cut]

theorem name_of_liquidTag (texts : List (List Char)) :
    nameOf (" liquid\n".toList ++ unlines texts) = "liquid".toList
      ∧ remainder (" liquid\n".toList ++ unlines texts) = trimStart (unlines texts) := by
  have word : ∀ c ∈ "liquid".toList, isWord c = true := by decide +kernel
  have stops : ∀ c ∈ ('\n' :: unlines texts).head?, isWord c = false := by
    rintro c ⟨⟩
    decide +kernel
  have begins : content (" liquid\n".toList ++ unlines texts)
      = "liquid".toList ++ '\n' :: unlines texts :=
    (content_space _).trans (Text.trimStart_eq_self_iff.2 (by rintro c ⟨⟩; decide))
  rw [nameOf, remainder, begins, takeWhile_append_of_head word stops,
    dropWhile_append_of_head word stops]
  refine ⟨rfl, ?_⟩
  rw [trimStart, List.dropWhile_cons_of_pos (by decide), trimStart]

theorem front_liquidTag (some : texts ≠ []) (formed : ∀ line ∈ texts, TagLine line) :
    front .standard (liquidTag texts ++ []) = (.tag, " liquid\n".toList ++ unlines texts, []) := by
  have absent : ¬ tagClose <:+: " liquid\n".toList ++ unlines texts := fun within =>
    not_infix_unlines formed (infix_of_infix_append (by decide) within)
  have name := (name_of_liquidTag texts).1
  obtain ⟨text, joined, -⟩ := exists_unlines some
  rw [liquidTag]
  rw [joined, ← List.append_assoc] at absent name ⊢
  refine front_tag (by decide) absent (fun raw => ?_) []
  rw [name] at raw
  exact absurd raw (by decide)

/-- The tag has one expression, in which the lines are read one after the other. -/
theorem gives_liquidTag (some : texts ≠ []) (formed : ∀ line ∈ texts, TagLine line)
    {stream : Stream} (ready : Stream.Ready .standard stream [] (liquidTag texts)) :
    ∃ body items, Gives stream items
      ∧ ∀ source, forest true source none "" items
          = (lineTrees expression "" (linesTokens 2 texts)).map fun below =>
            [.leaf ⟨1, .tag, "liquid"⟩, .node ⟨1, .expression, String.ofList body⟩ below] := by
  obtain ⟨lead, body, gap, split, before_gap, after_gap, long, after, content⟩ :=
    exists_body some formed
  obtain ⟨name, rest⟩ := name_of_liquidTag texts
  rw [← List.append_nil (liquidTag texts)] at ready
  obtain ⟨last, ended, -, gives⟩ := gives_tag ready (front_liquidTag some formed)
  refine ⟨body, _, gives [] (gives_nil ended), fun source => ?_⟩
  have opens : before (" liquid\n".toList ++ unlines texts) (trimStart (unlines texts))
      = " liquid\n".toList ++ lead := by
    rw [after, split]
    have joined : " liquid\n".toList ++ (lead ++ body ++ gap ++ ['\n'])
        = " liquid\n".toList ++ lead ++ (body ++ gap ++ ['\n']) := by simp
    rw [joined, before_append]
  have second : lineBreaks (" liquid\n".toList ++ lead) = 1 := by
    have none : lineBreaks lead = 0 :=
      List.count_eq_zero.2 (LiquidBody.noBreak_of_gap before_gap)
    rw [Text.lineBreaks_append, none]
    rfl
  rw [name, rest, content, opens, second, List.append_nil, tokenUnlessEmpty,
    if_neg (by simpa using long)]
  have below := expression_liquid (String.ofList body) 2
  rw [tokens_body formed split before_gap after_gap] at below
  simp only [List.map_cons, List.map_nil, forest, children, if_true,
    Text.lineBreaks_nil, Nat.add_zero, Nat.reduceAdd]
  rw [show String.ofList "liquid".toList = "liquid" from rfl, below]
  cases lineTrees expression "" (linesTokens 2 texts) <;> rfl

theorem template_liquidTag (some : texts ≠ []) (formed : ∀ line ∈ texts, TagLine line) :
    ∃ body, template (regionTable .standard) true (String.ofList (liquidTag texts))
      = (lineTrees expression "" (linesTokens 2 texts)).map fun below =>
        [.leaf ⟨1, .tag, "liquid"⟩, .node ⟨1, .expression, String.ofList body⟩ below] := by
  have ready := Stream.ready_start separated_standard.valid (String.ofList (liquidTag texts))
  rw [String.toList_ofList] at ready
  obtain ⟨body, items, ⟨visits, visited, rfl⟩, same⟩ := gives_liquidTag some formed ready
  exact ⟨body, (template_of_visits separated_standard.valid visited true).trans (same _)⟩

theorem template_separateTags (formed : ∀ line ∈ texts, TagLine line) :
    (template (regionTable .standard) true (String.ofList (separateTags texts))).map withoutLiterals
      = lineTrees expression "" (linesTokens 2 texts) := by
  have ready := Stream.ready_start separated_standard.valid (String.ofList (separateTags texts))
  rw [String.toList_ofList] at ready
  obtain ⟨items, ⟨visits, visited, rfl⟩, same⟩ := gives_separateTags formed ready rfl
  rw [template_of_visits separated_standard.valid visited true]
  exact same _ ""

end Lines

/-! ### Requests -/

/-- Lines in a `liquid` tag and the same lines between delimiters of their own, expanded, have the
same outcome: the trees below the expression of the one are those of the other apart from its
literals, or both fail alike. -/
theorem trees_liquidTag {request : CommandLine.Request} (plain : request.mode = none)
    (expands : request.expand = true) (standard : request.delimiters = .standard)
    {texts : List (List Char)} (some : texts ≠ []) (formed : ∀ line ∈ texts, TagLine line) :
    (∃ body below trees,
        request.trees (String.ofList (liquidTag texts))
          = .ok [.leaf ⟨1, .tag, "liquid"⟩, .node ⟨1, .expression, body⟩ below]
        ∧ request.trees (String.ofList (separateTags texts)) = .ok trees
        ∧ below = withoutLiterals trees)
      ∨ ∃ failure,
          request.trees (String.ofList (liquidTag texts)) = .error (.lex failure)
          ∧ request.trees (String.ofList (separateTags texts)) = .error (.lex failure) := by
  have read (source : String) : request.trees source
      = (template (regionTable .standard) true source).mapError .lex := by
    rw [CommandLine.Request.trees, plain, standard, compile_eq_ok separated_standard.valid, expands]
  obtain ⟨body, one⟩ := template_liquidTag some formed
  have other := template_separateTags formed
  rw [read, read, one, ← other]
  cases template (regionTable .standard) true (String.ofList (separateTags texts)) with
  | ok trees => exact .inl ⟨_, _, trees, rfl, rfl, rfl⟩
  | error failure => exact .inr ⟨failure, rfl, rfl⟩

/-- Lines with blanks around them and hyphens, of which one is a `liquid` tag itself. -/
def nestedLines : List (List Char) :=
  ["\tif x \t".toList, " liquid liquid echo y-".toList]

theorem trees_nestedLines :
    ∃ body below trees,
      CommandLine.Request.trees { expand := true } (String.ofList (liquidTag nestedLines))
        = .ok [.leaf ⟨1, .tag, "liquid"⟩, .node ⟨1, .expression, body⟩ below]
      ∧ CommandLine.Request.trees { expand := true } (String.ofList (separateTags nestedLines))
        = .ok trees
      ∧ below = withoutLiterals trees := by
  refine (trees_liquidTag rfl rfl rfl (by decide) (by decide +kernel)).resolve_right ?_
  rintro ⟨failure, failed, -⟩
  have fine : (CommandLine.Request.trees { expand := true }
      (String.ofList (liquidTag nestedLines))).isOk = true := by
    decide +kernel
  rw [failed] at fine
  cases fine

end LiquidTokens.Expansion
