import LiquidTokens.Text.CharClass

/-!
Trimming: white space taken off the ends of a text.

Main statements: `trimStart_eq_self_iff` and `trimEnd_eq_self_iff` (a text is left as it is
exactly when it does not begin, or end, with a blank).
-/

namespace LiquidTokens.Text

/-- The text from its first character on that is no blank. -/
def trimStart (s : List Char) : List Char :=
  s.dropWhile isBlank

/-- The text up to its last character that is no blank. -/
def trimEnd (s : List Char) : List Char :=
  (s.reverse.dropWhile isBlank).reverse

/-- Nothing is taken off the front exactly when the text does not begin with a blank. -/
theorem trimStart_eq_self_iff {s : List Char} :
    trimStart s = s ↔ ∀ c ∈ s.head?, isBlank c = false := by
  cases s with
  | nil => simp [trimStart]
  | cons c rest =>
      by_cases h : isBlank c = true
      · have shorter : (rest.dropWhile isBlank).length < (c :: rest).length :=
          Nat.lt_succ_of_le (List.dropWhile_suffix isBlank).length_le
        simp only [trimStart, List.dropWhile_cons, h, if_true, List.head?_cons,
          Option.mem_some_iff, forall_eq', Bool.true_eq_false, iff_false]
        intro same
        rw [same] at shorter
        exact Nat.lt_irrefl _ shorter
      · simp [trimStart, h]

/-- Nothing is taken off the end exactly when the text does not end with a blank. -/
theorem trimEnd_eq_self_iff {s : List Char} :
    trimEnd s = s ↔ ∀ c ∈ s.getLast?, isBlank c = false := by
  have front := trimStart_eq_self_iff (s := s.reverse)
  rw [List.head?_reverse] at front
  rw [← front, trimEnd, trimStart]
  constructor
  · intro h
    simpa using congrArg List.reverse h
  · intro h
    rw [h, List.reverse_reverse]

end LiquidTokens.Text
