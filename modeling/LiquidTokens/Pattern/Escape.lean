import LiquidTokens.Pattern.Reader

/-!
Literal texts inside patterns.

Main statement: `readFrom_escape` (reading an escaped text where an item may stand adds
one literal item for each of its characters, whatever they are).
-/

namespace LiquidTokens.Pattern

/-- The characters with a meaning of their own in some part of a pattern. -/
def metaChars : List Char :=
  ['\\', '.', '+', '*', '?', '(', ')', '|', '[', ']', '\x7b', '\x7d', '^', '$', '#', '&', '-', '~']

/-- The written form of a pattern that matches the text itself: a backslash before every
character that could be taken for more than itself. -/
def escape (text : List Char) : List Char :=
  text.flatMap fun c => if metaChars.contains c then ['\\', c] else [c]

namespace Reader

/-- Where an item may stand, an escaped character is read as a literal item. -/
theorem readFrom_escape_char (state : State) (item : state.mode = .item) (c : Char) :
    readFrom state (escape [c]) = some (state.push (.text [c])) := by
  by_cases special : c ∈ metaChars
  · have meaning : escaped? c = some (.literal c) := by
      have literal : ∀ d ∈ metaChars, escaped? d = some (.literal d) := by
        simp only [metaChars, List.forall_mem_cons]
        repeat' constructor
        simp
      exact literal c special
    have written : escape [c] = ['\\', c] := by simp [escape, special]
    rw [written]
    simp [readFrom, step, item, stepItem, stepBackslash, meaning, State.push]
  · have written : escape [c] = [c] := by simp [escape, special]
    rw [written]
    simp only [metaChars, List.mem_cons, List.not_mem_nil, or_false, not_or] at special
    simp only [readFrom, List.foldlM_cons, List.foldlM_nil, step, item]
    have literal : stepItem state c = some (state.push (.text [c])) := by
      unfold stepItem
      split <;> simp_all
    rw [literal]
    rfl

/-- Reading an escaped text where an item may stand adds one literal item for each
character. -/
theorem readFrom_escape (state : State) (item : state.mode = .item) (text : List Char) :
    readFrom state (escape text)
      = some (text.foldl (fun state c => state.push (.text [c])) state) := by
  induction text generalizing state with
  | nil => rfl
  | cons c text ih =>
      have split : escape (c :: text) = escape [c] ++ escape text := by simp [escape]
      rw [split, readFrom_append, readFrom_escape_char state item c]
      exact ih (state.push (.text [c])) rfl

end Reader

end LiquidTokens.Pattern
