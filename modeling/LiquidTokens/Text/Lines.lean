import LiquidTokens.Text.Position

/-!
The lines of a text: its pieces between line feeds.

Main statements: `lines_append` (a text, a line feed and another text have the lines of
the one and then those of the other), `lines_ended` and `length_lines`.
-/

namespace LiquidTokens.Text

/-- The pieces between line feeds, of which there is always one. -/
def lines : List Char → List (List Char)
  | [] => [[]]
  | c :: rest =>
      if c = '\n' then [] :: lines rest
      else
        match lines rest with
        | [] => [[c]]
        | line :: others => (c :: line) :: others

/-- A text has at least one line. -/
theorem lines_ne_nil (s : List Char) : lines s ≠ [] := by
  cases s with
  | nil => simp [lines]
  | cons c rest =>
      rw [lines]
      split
      · simp
      · split <;> simp

/-- A text, a line feed and another text have the lines of the one and then those of the
other. -/
theorem lines_append (s t : List Char) : lines (s ++ '\n' :: t) = lines s ++ lines t := by
  induction s with
  | nil => simp [lines]
  | cons c rest ih =>
      rw [List.cons_append, lines, lines, ih]
      split
      · simp
      · obtain ⟨line, others, h⟩ := List.exists_cons_of_ne_nil (lines_ne_nil rest)
        simp [h]

/-- A text without a line break is one line. -/
theorem lines_of_noBreak {text : List Char} (noBreak : '\n' ∉ text) : lines text = [text] := by
  induction text with
  | nil => rfl
  | cons c text ih =>
      obtain ⟨other, others⟩ := not_or.1 (mt List.mem_cons.2 noBreak)
      rw [lines, if_neg (Ne.symm other), ih others]

/-- Lines with a line break after each are the lines of that text, but for the end, where an empty
one begins. -/
theorem lines_ended {texts : List (List Char)} (noBreak : ∀ line ∈ texts, '\n' ∉ line) :
    lines (texts.flatMap (· ++ ['\n'])) = texts ++ [[]] := by
  induction texts with
  | nil => rfl
  | cons line texts ih =>
      obtain ⟨first, others⟩ := List.forall_mem_cons.1 noBreak
      rw [List.flatMap_cons, List.append_assoc, List.singleton_append, lines_append,
        lines_of_noBreak first, ih others]
      rfl

/-- There is one line more than there are line breaks. -/
theorem length_lines (s : List Char) : (lines s).length = lineBreaks s + 1 := by
  induction s with
  | nil => simp [lines]
  | cons c rest ih =>
      rw [lines]
      split
      · next feed => simp [ih, lineBreaks, feed]
      · next other =>
          obtain ⟨line, others, h⟩ := List.exists_cons_of_ne_nil (lines_ne_nil rest)
          have kept : lineBreaks (c :: rest) = lineBreaks rest := by
            simp [lineBreaks, other]
          rw [kept, ← ih]
          simp [h]

end LiquidTokens.Text
