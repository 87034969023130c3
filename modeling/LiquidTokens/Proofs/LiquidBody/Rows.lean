import LiquidTokens.Proofs.Expression.Lexemes
import LiquidTokens.Proofs.LiquidBody.Lines

/-!
Where the tokens of a `liquid` body stand.

The lines of a body follow one another with a line break between two of them (`Lined`), so the
number of a line is told by the line breaks before it (`Row`). The tokens of the lines can be read
off the body like those of an expression: names and expressions are lexemes on their lines, and all
else is passed over.

Main statement: `reading_tokens`.
-/

namespace LiquidTokens.LiquidBody

open Expression (Reading)
open Text (lineBreaks lines lines_of_noBreak)

/-! ### Lines in their places -/

/-- A text and its lines. -/
inductive Lined : List Char → List (List Char) → Prop where
  | last {row : List Char} (noBreak : '\n' ∉ row) : Lined row [row]
  | cons {row text : List Char} {rows : List (List Char)} (noBreak : '\n' ∉ row)
      (others : Lined text rows) : Lined (row ++ '\n' :: text) (row :: rows)

/-- A line of a text, with what stands above and below it. -/
structure Row (text above row below : List Char) : Prop where
  split : text = above ++ row ++ below
  noBreak : '\n' ∉ row
  starts : above = [] ∨ ∃ others, above = others ++ ['\n']
  ends : below = [] ∨ ∃ others, below = '\n' :: others

theorem lined_lines (text : List Char) : Lined text (lines text) := by
  by_cases broken : '\n' ∈ text
  · obtain ⟨row, rest, split, noBreak⟩ := List.eq_append_cons_of_mem broken
    have shorter : rest.length < text.length := by
      rw [split, List.length_append, List.length_cons]
      omega
    have others := lined_lines rest
    rw [split, Text.lines_append, lines_of_noBreak noBreak]
    exact .cons noBreak others
  · rw [lines_of_noBreak broken]
    exact .last broken
termination_by text.length

/-- A line of a text is a line of this text below another line. -/
theorem Row.after {text above row below : List Char} (inside : Row text above row below)
    (first : List Char) : Row (first ++ '\n' :: text) (first ++ '\n' :: above) row below where
  split := by
    rw [inside.split]
    simp
  noBreak := inside.noBreak
  starts := by
    rcases inside.starts with rfl | ⟨others, rfl⟩
    · exact .inr ⟨first, rfl⟩
    · exact .inr ⟨first ++ '\n' :: others, by simp⟩
  ends := inside.ends

/-- Where the expression of a line stands in the text. -/
theorem Row.expression_split {text above row below : List Char}
    (inside : Row text above row below) :
    text = above ++ (leadIn row ++ nameIn row ++ gapIn row) ++ expressionIn row
      ++ ((afterName row).rtakeWhile isTrail ++ below) := by
  rw [inside.split]
  conv_lhs => rw [line_eq row]
  simp

theorem Row.length_expressionIn_lt {text above row below : List Char}
    (inside : Row text above row below) (named : nameIn row ≠ []) :
    (expressionIn row).length < text.length := by
  have line := LiquidBody.length_expressionIn_lt named
  have whole := congrArg List.length inside.split
  simp only [List.length_append] at whole
  omega

/-! ### Lexemes of a line -/

theorem lineBreaks_of_noBreak {text : List Char} (noBreak : '\n' ∉ text) : lineBreaks text = 0 :=
  List.count_eq_zero.2 noBreak

/-- No line break stands in the parts of a line. -/
theorem lineBreaks_leadIn {row : List Char} (noBreak : '\n' ∉ row) :
    lineBreaks (leadIn row) = 0 ∧ lineBreaks (leadIn row ++ nameIn row ++ gapIn row) = 0 := by
  have whole := lineBreaks_of_noBreak noBreak
  rw [line_eq row] at whole
  simp only [Text.lineBreaks_append] at whole ⊢
  omega

section Reading

variable {first : Nat} {read left : List Char} {tokens : List Token} {error : Option LexError}

/-- Nothing at all may be passed over as well. -/
theorem reading_passed (piece : List Char)
    (later : Reading first (read ++ piece) left tokens error) :
    Reading first read (piece ++ left) tokens error := by
  by_cases nonempty : piece = []
  · subst nonempty
    rwa [List.append_nil] at later
  · exact .passed nonempty later

/-- A name or an expression is a token on its line. -/
theorem reading_part {kind : Kind} (known : kind = .tag ∨ kind = .expression) {part : List Char}
    (nonempty : part ≠ []) {line : Nat} (same : line = first + lineBreaks read)
    (later : Reading first (read ++ part) left tokens error) :
    Reading first read (part ++ left) (⟨line, kind, String.ofList part⟩ :: tokens) error := by
  refine .token nonempty (Expression.spells_text line part ?_ ?_) same later
  · rcases known with rfl | rfl <;> nofun
  · rcases known with rfl | rfl <;> nofun

/-- A line is passed over except for its name and its expression. -/
theorem reading_row {row : List Char} (noBreak : '\n' ∉ row)
    (later : Reading first (read ++ row) left tokens error) :
    Reading first read (row ++ left) (lineTokens (first + lineBreaks read) row ++ tokens)
      error := by
  obtain ⟨noLead, noFront⟩ := lineBreaks_leadIn noBreak
  have whole := line_eq row
  rw [lineTokens_eq]
  generalize leadIn row = lead, nameIn row = name, gapIn row = gap, expressionIn row = value,
    (afterName row).rtakeWhile isTrail = trail at *
  split
  · exact reading_passed row later
  · next named =>
      subst whole
      rw [List.isEmpty_iff] at named
      have atEnd :
          Reading first (read ++ lead ++ name ++ gap ++ value) (trail ++ left) tokens error :=
        reading_passed trail (by simpa using later)
      have atValue : Reading first (read ++ lead ++ name ++ gap) (value ++ (trail ++ left))
          ((if value.isEmpty then []
            else [⟨first + lineBreaks read, .expression, String.ofList value⟩]) ++ tokens)
          error := by
        split
        · next empty => exact reading_passed value atEnd
        · next filled =>
            refine reading_part (.inr rfl) (by simpa using filled) ?_ atEnd
            have front : read ++ lead ++ name ++ gap = read ++ (lead ++ name ++ gap) := by simp
            rw [front, Text.lineBreaks_append, noFront, Nat.add_zero]
      have atName := reading_passed gap atValue
      have line : first + lineBreaks read = first + lineBreaks (read ++ lead) := by
        rw [Text.lineBreaks_append, noLead, Nat.add_zero]
      have whole := reading_passed lead (reading_part (.inl rfl) named line atName)
      simpa using whole

/-- The lines of a body are read one after the other. -/
theorem reading_linesTokens {text : List Char} {rows : List (List Char)} (lined : Lined text rows)
    (first : Nat) (read : List Char) :
    Reading first read text (linesTokens (first + lineBreaks read) rows) none := by
  induction lined generalizing read with
  | @last row noBreak =>
      have only :
          Reading first read (row ++ []) (lineTokens (first + lineBreaks read) row ++ []) none :=
        reading_row noBreak .ended
      rwa [List.append_nil] at only
  | @cons row text rows noBreak others ih =>
      have next : first + lineBreaks (read ++ row ++ ['\n']) = first + lineBreaks read + 1 := by
        rw [Text.lineBreaks_append, Text.lineBreaks_append, lineBreaks_of_noBreak noBreak]
        rfl
      have below := ih (read ++ row ++ ['\n'])
      rw [next] at below
      exact reading_row noBreak (.passed (by simp) below)

end Reading

/-- The tokens of a body are those of a reading of all of it. -/
theorem reading_tokens (text : String) (line : Nat) :
    Reading line [] text.toList (tokens text line) none :=
  reading_linesTokens (lined_lines text.toList) line []

end LiquidTokens.LiquidBody
