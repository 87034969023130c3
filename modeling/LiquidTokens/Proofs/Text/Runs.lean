import Mathlib.Data.List.TakeWhile

/-!
Runs: the longest beginning of a text whose characters are all of one kind.

Where a run ends is told by the first character after it, so a text that does not begin with a
character of that kind neither lengthens a run in front of it nor is touched by it.

Main statements: `takeWhile_append_of_head`, `dropWhile_append_of_head` and `cut_unique`.
-/

namespace LiquidTokens.Text

/-- A run that stops before a text leaves this text as it is. -/
theorem dropWhile_append_of_stop {p : Char → Bool} {more : List Char}
    (stops : ∀ c ∈ more.head?, p c = false) (text : List Char) :
    (text ++ more).dropWhile p = text.dropWhile p ++ more := by
  induction text with
  | nil =>
      cases more with
      | nil => rfl
      | cons c more => simp [stops c rfl]
  | cons d text ih =>
      rw [List.cons_append, List.dropWhile_cons, List.dropWhile_cons, ih]
      split <;> rfl

theorem takeWhile_append_of_stop {p : Char → Bool} {more : List Char}
    (stops : ∀ c ∈ more.head?, p c = false) (text : List Char) :
    (text ++ more).takeWhile p = text.takeWhile p := by
  induction text with
  | nil =>
      cases more with
      | nil => rfl
      | cons c more => simp [stops c rfl]
  | cons d text ih =>
      rw [List.cons_append, List.takeWhile_cons, List.takeWhile_cons, ih]

theorem dropWhile_append_of_head {p : Char → Bool} {run text : List Char}
    (inside : ∀ c ∈ run, p c = true) (stops : ∀ c ∈ text.head?, p c = false) :
    (run ++ text).dropWhile p = text := by
  rw [dropWhile_append_of_stop stops, List.dropWhile_eq_nil_iff.2 inside, List.nil_append]

theorem takeWhile_append_of_head {p : Char → Bool} {run text : List Char}
    (inside : ∀ c ∈ run, p c = true) (stops : ∀ c ∈ text.head?, p c = false) :
    (run ++ text).takeWhile p = run := by
  rw [takeWhile_append_of_stop stops, List.takeWhile_eq_self_iff.2 inside]

/-- Only the characters of a text itself decide how far a run in it goes. -/
theorem dropWhile_congr {p q : Char → Bool} {text : List Char} (same : ∀ c ∈ text, p c = q c) :
    text.dropWhile p = text.dropWhile q := by
  induction text with
  | nil => rfl
  | cons c text ih =>
      rw [List.dropWhile_cons, List.dropWhile_cons, same c List.mem_cons_self,
        ih fun d member => same d (List.mem_cons_of_mem c member)]

/-- A run that takes all that it can ends at one place only. -/
theorem cut_unique {α : Type} {p : α → Prop} {run other text rest : List α}
    (inside : ∀ a ∈ run, p a) (stops : ∀ a ∈ text.head?, ¬ p a)
    (inside' : ∀ a ∈ other, p a) (stops' : ∀ a ∈ rest.head?, ¬ p a)
    (same : run ++ text = other ++ rest) : run = other ∧ text = rest := by
  rcases List.append_eq_append_iff.1 same with ⟨_ | ⟨a, more⟩, rfl, rfl⟩ | ⟨_ | ⟨a, more⟩, rfl, rfl⟩
  · simp
  · exact absurd (inside' a (by simp)) (stops a (by simp))
  · simp
  · exact absurd (inside a (by simp)) (stops' a (by simp))

end LiquidTokens.Text
