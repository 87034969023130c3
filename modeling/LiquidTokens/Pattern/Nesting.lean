import LiquidTokens.Pattern.Reader

/-!
How deep a written pattern is nested, and which patterns are accepted.

A group is a level of a pattern, and so are a quantifier, a sequence of several items, a choice
between several alternatives, a bracketed set and the members of one that has several. The
nesting of a pattern is the greatest number of levels inside one another. A pattern with more
than `maxNesting` of them is refused although it can be read (`compile?`).

The levels are counted while the pattern is read, with the modes of its reader. Where the
reader keeps patterns, the depths of these patterns are kept here.
-/

namespace LiquidTokens.Pattern

/-- The depth of some things side by side; several of them make a level of their own. -/
def together (depths : List Nat) : Nat :=
  depths.foldr max 0 + if depths.length ≤ 1 then 0 else 1

theorem foldr_max_le_iff {depths : List Nat} {bound : Nat} :
    depths.foldr max 0 ≤ bound ↔ ∀ depth ∈ depths, depth ≤ bound := by
  induction depths with
  | nil => simp
  | cons depth depths ih => rw [List.foldr_cons, Nat.max_le, ih, List.forall_mem_cons]

/-- Several things side by side have one level more than each of them. -/
theorem together_le_iff {depths : List Nat} {bound : Nat} :
    together depths ≤ bound
      ↔ ∀ depth ∈ depths, depth + (if depths.length ≤ 1 then 0 else 1) ≤ bound := by
  unfold together
  split
  · exact foldr_max_le_iff
  · next several =>
      obtain ⟨first, depths, rfl⟩ := List.exists_cons_of_ne_nil
        (List.ne_nil_of_length_pos (by omega : 0 < depths.length))
      cases bound with
      | zero => exact ⟨nofun, fun within => nomatch within first List.mem_cons_self⟩
      | succ bound => simp only [Nat.add_le_add_iff_right, foldr_max_le_iff]

theorem together_le {depths : List Nat} {bound : Nat} (within : ∀ depth ∈ depths, depth ≤ bound) :
    together depths ≤ bound + 1 := by
  refine together_le_iff.2 fun depth member => ?_
  have := within depth member
  split <;> omega

@[simp] theorem together_singleton (depth : Nat) : together [depth] = depth := by
  simp [together]

namespace Reader

/-! ### Depths -/

/-- The depths on one level of a pattern: of the alternatives that are complete and of the
items of the one being read, each list with the latest first. -/
structure Depths where
  branches : List Nat
  items : List Nat
  deriving DecidableEq, Repr

namespace Depths

/-- A level of which nothing has been read. -/
def fresh : Depths :=
  ⟨[], []⟩

/-- One more item. -/
def push (depths : Depths) (depth : Nat) : Depths :=
  { depths with items := depth :: depths.items }

/-- The current alternative is complete. -/
def bar (depths : Depths) : Depths :=
  ⟨together depths.items :: depths.branches, []⟩

/-- A quantifier around the latest item. -/
def quantify (depths : Depths) : Depths :=
  match depths.items with
  | [] => depths
  | depth :: items => { depths with items := (depth + 1) :: items }

/-- The depth of a level that is complete. -/
def total (depths : Depths) : Nat :=
  together depths.bar.branches

end Depths

/-- The depths of what has been read: on the innermost level and on those around it, the
innermost first. -/
structure Nesting where
  level : Depths
  outer : List Depths
  deriving DecidableEq, Repr

namespace Nesting

/-- Nothing has been read. -/
def start : Nesting :=
  ⟨.fresh, []⟩

/-- One more item. -/
def push (nesting : Nesting) (depth : Nat) : Nesting :=
  { nesting with level := nesting.level.push depth }

/-- The current alternative is complete. -/
def bar (nesting : Nesting) : Nesting :=
  { nesting with level := nesting.level.bar }

/-- A quantifier around the latest item. -/
def quantify (nesting : Nesting) : Nesting :=
  { nesting with level := nesting.level.quantify }

/-- Opens a group. -/
def openGroup (nesting : Nesting) : Nesting :=
  ⟨.fresh, nesting.level :: nesting.outer⟩

/-- Closes the innermost group, if one is open. -/
def closeGroup (nesting : Nesting) : Nesting :=
  match nesting.outer with
  | [] => nesting
  | around :: outer => ⟨around.push (nesting.level.total + 1), outer⟩

/-! ### Steps -/

/-- The next character where an item may stand. What begins with a bracket or a backslash is
an item once it is complete, and a number in braces a quantifier. -/
def stepItem (nesting : Nesting) (c : Char) : Nesting :=
  match c with
  | '(' => nesting.openGroup
  | ')' => nesting.closeGroup
  | '|' => nesting.bar
  | '*' | '+' | '?' => nesting.quantify
  | '[' | '\x7b' | '\\' => nesting
  | _ => nesting.push 0

end Nesting

/-- How many members have been inserted into a set. -/
def inserted : CharSet → Nat
  | .none => 0
  | .union members _ => inserted members + 1
  | _ => 1

/-- The number of members that a bracketed set has if `]` comes next, where that is no
member itself. -/
def Bracket.members? (place : Bracket) (members : CharSet) : Option Nat :=
  match place with
  | .opened | .leading true | .backslash _ => none
  | .leading false | .member | .afterSet => some (inserted members)
  | .after _ _ | .setHyphen => some (inserted members + 1)
  | .hyphen _ => some (inserted members + 2)

namespace Nesting

/-- The next character inside brackets. -/
def stepBracket (nesting : Nesting) (place : Bracket) (members : CharSet) (c : Char) : Nesting :=
  if c = ']' then
    match place.members? members with
    | none => nesting
    | some count => nesting.push (together (List.replicate count 0) + 1)
  else nesting

/-- The next character of a pattern, taken in a mode. -/
def step (nesting : Nesting) (mode : Mode) (c : Char) : Nesting :=
  match mode with
  | .item => nesting.stepItem c
  | .quantified _ _ | .opened => if c = '?' then nesting else nesting.stepItem c
  | .backslash => nesting.push 0
  | .flags | .naming | .name _ => nesting
  | .count _ _ => if c = '\x7d' then nesting.quantify else nesting
  | .bracket place _ members => nesting.stepBracket place members c

end Nesting

/-- The depths after a text, or after as much of it as can be read. -/
def nestingFrom (state : State) (nesting : Nesting) : List Char → Nesting
  | [] => nesting
  | c :: rest =>
      match step state c with
      | none => nesting
      | some after => nestingFrom after (nesting.step state.mode c) rest

end Reader

/-! ### Patterns that are accepted -/

/-- How many levels of a written pattern lie inside one another. -/
def nesting (text : List Char) : Nat :=
  (Reader.nestingFrom .start .start text).level.total

/-- The greatest number of levels that a pattern may have. -/
def maxNesting : Nat :=
  250

/-- The pattern with the given written form, if it is not nested too deep. -/
def compile? (text : List Char) : Option Pattern :=
  if nesting text ≤ maxNesting then read? text else none

theorem compile?_eq_some_iff {text : List Char} {pattern : Pattern} :
    compile? text = some pattern ↔ read? text = some pattern ∧ nesting text ≤ maxNesting := by
  unfold compile?
  split
  · next shallow => exact ⟨fun read => ⟨read, shallow⟩, And.left⟩
  · next deep => exact ⟨nofun, fun ⟨_, shallow⟩ => absurd shallow deep⟩

end LiquidTokens.Pattern
