import LiquidTokens.LiquidBody
import LiquidTokens.Proofs.Pattern.Passing
import LiquidTokens.Proofs.Text.Runs

/-!
The lines of a body of the tag `liquid`, without the pattern.

The parts of the line pattern stand in the way of each other nowhere: each run takes all the
characters that it can, and the expression gives up what may stand at the end of a line. So the
name is the word that comes first after spaces and tabs, and the expression is what follows it
without the blanks around it.

Main statements: `lineTokens_eq` and `length_lt_of_mem_tokens` (an expression is shorter than the
body that it stands in).
-/

namespace LiquidTokens.LiquidBody

open Pattern
open Text (byteLength isWord lines lines_of_noBreak slice_append)

/-! ### The parts of a line -/

/-- A space or a tab, which may stand before a name and before an expression. -/
def isGap (c : Char) : Bool :=
  c == ' ' || c == '\t'

/-- A character that may stand after an expression. -/
def isTrail (c : Char) : Bool :=
  isGap c || c == '\r'

/-- The blanks before the name of a line. -/
def leadIn (line : List Char) : List Char :=
  line.takeWhile isGap

/-- The word that comes first in a line. -/
def nameIn (line : List Char) : List Char :=
  (line.dropWhile isGap).takeWhile isWord

/-- The blanks after the name. -/
def gapIn (line : List Char) : List Char :=
  ((line.dropWhile isGap).dropWhile isWord).takeWhile isGap

/-- What comes after the name and these blanks. -/
def afterName (line : List Char) : List Char :=
  ((line.dropWhile isGap).dropWhile isWord).dropWhile isGap

/-- The expression in a line. -/
def expressionIn (line : List Char) : List Char :=
  (afterName line).rdropWhile isTrail

/-- A line is made of its parts. -/
theorem line_eq (line : List Char) :
    line = leadIn line ++ nameIn line ++ gapIn line ++ expressionIn line
      ++ (afterName line).rtakeWhile isTrail := by
  rw [List.append_assoc, expressionIn, List.rdropWhile_append_rtakeWhile, afterName, gapIn, nameIn,
    leadIn, List.append_assoc, List.takeWhile_append_dropWhile, List.append_assoc,
    List.takeWhile_append_dropWhile, List.takeWhile_append_dropWhile]

/-! ### The pattern -/

/-- Spaces and tabs. -/
def gapSet : CharSet :=
  .union (.single ' ') (.single '\t')

/-- What may stand at the end of a line. -/
def trailSet : CharSet :=
  .union gapSet (.single '\r')

/-- The expression and what may stand after it. -/
def expressionPart : Pattern :=
  .seq (.group 2 (some "expr") lazyText) (.seq (greedyRun trailSet) (.anchor .textEnd))

theorem linePattern_eq : linePattern
    = .seq (.anchor .textStart) (.seq (greedyRun gapSet)
        (.seq (.group 1 (some "name") (greedyRun .word)) (.seq (greedyRun gapSet)
          expressionPart))) := by
  decide +kernel

theorem contains_trailSet : trailSet.contains = isTrail :=
  rfl

/-- After the expression only what may stand at the end of a line is left. -/
theorem needs_trail : Needs (fun t => ∀ c ∈ t, isTrail c = true) fun place =>
    (greedyRun trailSet).run place fun reached => (anchor .textEnd).run reached some := by
  have ends : Needs (· = []) fun place => (anchor .textEnd).run place some := by
    intro place
    simp only [run_textEnd]
    split <;> simp_all
  intro place
  rw [ends.greedyRun _ (by decide) place, contains_trailSet]
  constructor
  · rintro none all
    exact none ⟨place.rest, [], by simp, all, rfl⟩
  · rintro other ⟨u, v, split, all, rfl⟩
    rw [List.append_nil] at split
    exact other (split ▸ all)

/-- What is read at the end of a line changes nothing that is remembered. -/
theorem captures_of_trail {place reached : Place}
    (found : ((greedyRun trailSet).run place fun reached => (anchor .textEnd).run reached some)
      = some reached) : reached.captures = place.captures := by
  obtain ⟨u, v, -, -, found, -⟩ := split_of_run_greedyRun (by decide) found
  rw [run_textEnd] at found
  split at found
  · rw [← Option.some.inj found, Place.pass_captures]
  · cases found

theorem total_expressionPart : Total (expressionPart.run · some) := fun place =>
  ((needs_trail.close 2 (some "expr") place.offset).lazyText place).trans
    (not_congr ⟨fun _ => trivial, fun _ => ⟨place.rest, [], by simp, by simp⟩⟩)

theorem run_expressionPart (place : Place) :
    ∃ reached, expressionPart.run place some = some reached
      ∧ reached.captures = ⟨2, some "expr", ⟨place.offset,
          place.offset + byteLength (place.rest.rdropWhile isTrail)⟩⟩ :: place.captures := by
  have body := needs_trail.close 2 (some "expr") place.offset
  obtain ⟨reached, found⟩ := Option.isSome_iff_exists.1 (total_expressionPart.isSome place)
  refine ⟨reached, found, ?_⟩
  have read := (run_lazyText_of_needs body place).symm.trans found
  rw [captures_of_trail read]
  simp

/-- The place in a line after its name and the blanks that follow. -/
def atExpression (line : List Char) : Place :=
  let atName := (Place.start line).pass (leadIn line) (line.dropWhile isGap)
  let rest := (line.dropWhile isGap).dropWhile isWord
  ((atName.pass (nameIn line) rest).close 1 (some "name") atName.offset).pass
    (gapIn line) (afterName line)

/-- The runs before the expression take all that they can. -/
theorem find?_linePattern_eq (line : List Char) :
    linePattern.find? line = expressionPart.run (atExpression line) some := by
  have spaced := total_expressionPart.greedyRun gapSet (by decide)
  have named : Total fun place => (greedyRun .word).run place fun reached =>
      (greedyRun gapSet).run (reached.close 1 (some "name") place.offset)
        (expressionPart.run · some) := fun place =>
    Total.greedyRun (spaced.close 1 (some "name") place.offset) .word (by decide) place
  have starts (next : Place → Option Place) :
      (anchor .textStart).run (Place.start line) next = next (Place.start line) := by
    simp [run, Anchor.holds, Place.start]
  rw [find?, linePattern_eq, run_seq, starts]
  refine (named.run_greedyRun (by decide) _).trans ?_
  refine (Total.run_greedyRun (spaced.close 1 (some "name") _) (by decide) _).trans ?_
  exact total_expressionPart.run_greedyRun (by decide) _

/-- Every line is matched, and its name and its expression are remembered. -/
theorem parts_of_line (line : List Char) :
    ∃ reached, linePattern.find? line = some reached ∧ part line reached "name" = nameIn line
      ∧ part line reached "expr" = expressionIn line := by
  obtain ⟨reached, found, captures⟩ := run_expressionPart (atExpression line)
  have split := line_eq line
  refine ⟨reached, (find?_linePattern_eq line).trans found, ?_, ?_⟩
  · have named : reached.named? "name" = some ⟨1, some "name", ⟨byteLength (leadIn line),
        byteLength (leadIn line) + byteLength (nameIn line)⟩⟩ := by
      simp [Place.named?, captures, atExpression]
    have cut := slice_append (leadIn line) (nameIn line)
      (gapIn line ++ expressionIn line ++ (afterName line).rtakeWhile isTrail)
    rw [← List.append_assoc, ← List.append_assoc, ← split] at cut
    rw [part, named]
    exact cut
  · have named : reached.named? "expr" = some ⟨2, some "expr",
        ⟨byteLength (leadIn line ++ nameIn line ++ gapIn line),
          byteLength (leadIn line ++ nameIn line ++ gapIn line)
            + byteLength (expressionIn line)⟩⟩ := by
      simp [Place.named?, captures, atExpression, expressionIn, Nat.add_assoc]
    have cut := slice_append (leadIn line ++ nameIn line ++ gapIn line) (expressionIn line)
      ((afterName line).rtakeWhile isTrail)
    rw [← split] at cut
    rw [part, named]
    exact cut

/-! ### Tokens -/

/-- The tokens of a line are its name and its expression; a line without a name has none. -/
theorem lineTokens_eq (number : Nat) (line : List Char) :
    lineTokens number line = if (nameIn line).isEmpty then []
      else ⟨number, .tag, String.ofList (nameIn line)⟩
        :: if (expressionIn line).isEmpty then []
          else [⟨number, .expression, String.ofList (expressionIn line)⟩] := by
  obtain ⟨reached, found, name, expression⟩ := parts_of_line line
  simp only [lineTokens, found, name, expression]

theorem kinds_of_mem_lineTokens {number : Nat} {line : List Char} :
    ∀ token ∈ lineTokens number line,
      token.line = number ∧ (token.kind = .tag ∨ token.kind = .expression) := by
  intro token member
  rw [lineTokens_eq] at member
  split at member
  · cases member
  · rcases List.mem_cons.1 member with rfl | member
    · exact ⟨rfl, .inl rfl⟩
    · split at member
      · cases member
      · obtain rfl := List.mem_singleton.1 member
        exact ⟨rfl, .inr rfl⟩

/-- An expression is shorter than its line, in which a name comes before it. -/
theorem length_expressionIn_lt {line : List Char} (named : nameIn line ≠ []) :
    (expressionIn line).length < line.length := by
  have name := List.length_pos_iff.2 named
  have whole := congrArg List.length (line_eq line)
  simp only [List.length_append] at whole
  omega

/-- The expressions of a line come from a part of it after a name. -/
theorem length_lt_of_mem_lineTokens {number : Nat} {line : List Char} {token : Token}
    (member : token ∈ lineTokens number line) (expression : token.kind = .expression) :
    token.value.length < line.length := by
  rw [lineTokens_eq] at member
  split at member
  · cases member
  · next named =>
      rcases List.mem_cons.1 member with rfl | member
      · cases expression
      · split at member
        · cases member
        · obtain rfl := List.mem_singleton.1 member
          rw [String.length_ofList]
          exact length_expressionIn_lt (by simpa using named)

/-! ### Blanks at the ends of a body -/

theorem isWord_of_isGap {c : Char} (blank : isGap c = true) : isWord c = false := by
  rw [isGap, Bool.or_eq_true, beq_iff_eq, beq_iff_eq] at blank
  rcases blank with rfl | rfl <;> decide +kernel

section Ends

variable {gap : List Char} (blank : ∀ c ∈ gap, isGap c = true)
include blank

/-- Spaces and tabs before a line are no part of its tokens. -/
theorem lineTokens_gap_append (number : Nat) (line : List Char) :
    lineTokens number (gap ++ line) = lineTokens number line := by
  have begins : (gap ++ line).dropWhile isGap = line.dropWhile isGap :=
    List.dropWhile_append_of_pos blank
  have name : nameIn (gap ++ line) = nameIn line := by rw [nameIn, begins, nameIn]
  have expression : expressionIn (gap ++ line) = expressionIn line := by
    rw [expressionIn, afterName, begins, expressionIn, afterName]
  simp only [lineTokens_eq, name, expression]

theorem dropWhile_isGap_append (text : List Char) :
    (text ++ gap).dropWhile isGap
      = if text.dropWhile isGap = [] then [] else text.dropWhile isGap ++ gap := by
  have none : gap.dropWhile isGap = [] := List.dropWhile_eq_nil_iff.2 blank
  rw [List.dropWhile_append, none]
  simp only [List.isEmpty_iff]

theorem rdropWhile_isTrail_append (text : List Char) :
    (text ++ gap).rdropWhile isTrail = text.rdropWhile isTrail := by
  have trails : ∀ c ∈ gap.reverse, isTrail c = true := fun c member => by
    rw [isTrail, blank c (List.mem_reverse.1 member), Bool.true_or]
  rw [List.rdropWhile, List.reverse_append, List.dropWhile_append_of_pos trails, List.rdropWhile]

/-- Nor are they after a line. -/
theorem lineTokens_append_gap (number : Nat) (line : List Char) :
    lineTokens number (line ++ gap) = lineTokens number line := by
  have stops : ∀ c ∈ gap.head?, isWord c = false := fun c first =>
    isWord_of_isGap (blank c (List.mem_of_mem_head? first))
  have begins := dropWhile_isGap_append blank line
  have name : nameIn (line ++ gap) = nameIn line := by
    rw [nameIn, begins, nameIn]
    split
    · next none => rw [none]
    · exact Text.takeWhile_append_of_stop stops _
  have expression : expressionIn (line ++ gap) = expressionIn line := by
    rw [expressionIn, afterName, begins, expressionIn, afterName]
    split
    · next none => rw [none]
    · rw [Text.dropWhile_append_of_stop stops, dropWhile_isGap_append blank]
      split
      · next none => rw [none]
      · exact rdropWhile_isTrail_append blank _
  simp only [lineTokens_eq, name, expression]

theorem noBreak_of_gap : '\n' ∉ gap := fun member => by
  have space := blank '\n' member
  cases space

end Ends

/-- Spaces and tabs before a body make no difference. -/
theorem linesTokens_gap_append {gap : List Char} (blank : ∀ c ∈ gap, isGap c = true)
    (number : Nat) (text : List Char) :
    linesTokens number (lines (gap ++ text)) = linesTokens number (lines text) := by
  by_cases broken : '\n' ∈ text
  · obtain ⟨first, rest, rfl, noBreak⟩ := List.eq_append_cons_of_mem broken
    have joined : '\n' ∉ gap ++ first :=
      mt List.mem_append.1 (not_or.2 ⟨noBreak_of_gap blank, noBreak⟩)
    rw [← List.append_assoc, Text.lines_append, Text.lines_append, lines_of_noBreak joined,
      lines_of_noBreak noBreak]
    simp only [List.singleton_append, linesTokens, lineTokens_gap_append blank]
  · have joined : '\n' ∉ gap ++ text :=
      mt List.mem_append.1 (not_or.2 ⟨noBreak_of_gap blank, broken⟩)
    rw [lines_of_noBreak joined, lines_of_noBreak broken]
    simp only [linesTokens, lineTokens_gap_append blank]

/-- Spaces and tabs after a body make no difference. -/
theorem linesTokens_append_gap {gap : List Char} (blank : ∀ c ∈ gap, isGap c = true)
    (number : Nat) (text : List Char) :
    linesTokens number (lines (text ++ gap)) = linesTokens number (lines text) := by
  by_cases broken : '\n' ∈ text
  · obtain ⟨last, rest, reversed, noBreak⟩ :=
      List.eq_append_cons_of_mem (List.mem_reverse.2 broken)
    obtain rfl : text = rest.reverse ++ '\n' :: last.reverse := by
      simpa using congrArg List.reverse reversed
    have alone : '\n' ∉ last.reverse := mt List.mem_reverse.1 noBreak
    have joined : '\n' ∉ last.reverse ++ gap :=
      mt List.mem_append.1 (not_or.2 ⟨alone, noBreak_of_gap blank⟩)
    rw [List.append_assoc, List.cons_append, Text.lines_append, Text.lines_append,
      lines_of_noBreak joined, lines_of_noBreak alone, linesTokens_append, linesTokens_append]
    simp only [linesTokens, lineTokens_append_gap blank]
  · have joined : '\n' ∉ text ++ gap :=
      mt List.mem_append.1 (not_or.2 ⟨broken, noBreak_of_gap blank⟩)
    rw [lines_of_noBreak joined, lines_of_noBreak broken]
    simp only [linesTokens, lineTokens_append_gap blank]

/-! ### Expressions and their bodies -/

theorem length_le_of_mem_lines {line text : List Char} (member : line ∈ lines text) :
    line.length ≤ text.length := by
  induction text generalizing line with
  | nil =>
      obtain rfl := List.mem_singleton.1 member
      exact le_rfl
  | cons c text ih =>
      rw [lines] at member
      split at member
      · rcases List.mem_cons.1 member with rfl | member
        · exact Nat.zero_le _
        · exact (ih member).trans (Nat.le_succ _)
      · obtain ⟨first, others, split⟩ := List.exists_cons_of_ne_nil (Text.lines_ne_nil text)
        rw [split] at member ih
        rcases List.mem_cons.1 member with rfl | member
        · exact Nat.succ_le_succ (ih List.mem_cons_self)
        · exact (ih (List.mem_cons_of_mem first member)).trans (Nat.le_succ _)

theorem exists_of_mem_linesTokens {number : Nat} {texts : List (List Char)} {token : Token}
    (member : token ∈ linesTokens number texts) :
    ∃ line ∈ texts, ∃ number, token ∈ lineTokens number line := by
  induction texts generalizing number with
  | nil => cases member
  | cons text texts ih =>
      rcases List.mem_append.1 member with here | later
      · exact ⟨text, List.mem_cons_self, number, here⟩
      · obtain ⟨line, inside, found⟩ := ih later
        exact ⟨line, List.mem_cons_of_mem text inside, found⟩

/-- An expression is shorter than the body that it stands in. -/
theorem length_lt_of_mem_tokens {body : String} {number : Nat} {token : Token}
    (member : token ∈ tokens body number) (expression : token.kind = .expression) :
    token.value.length < body.length := by
  obtain ⟨line, inside, _, found⟩ := exists_of_mem_linesTokens member
  calc token.value.length < line.length := length_lt_of_mem_lineTokens found expression
    _ ≤ body.toList.length := length_le_of_mem_lines inside
    _ = body.length := String.length_toList

end LiquidTokens.LiquidBody
