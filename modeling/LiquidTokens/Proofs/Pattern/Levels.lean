import LiquidTokens.Pattern.Escape
import LiquidTokens.Pattern.Nesting
import LiquidTokens.Proofs.Pattern.Embedded

/-!
A bound on the levels of a written pattern, read off its text.

Only the characters that end a group, begin another alternative or quantify can add levels, and
none does behind a backslash. So a pattern in which arbitrary texts stand escaped has only as many
levels as its fixed parts allow, whatever the texts hold.

Main statements: `nesting_le_levels` and `levels_escape_append`.
-/

namespace LiquidTokens.Pattern.Reader

/-! ### Characters behind a backslash -/

section Escaping

variable {state after : State} {c : Char}

theorem escaping_of_stepItem (read : stepItem state c = some after) :
    after.mode.escaping = decide (c = '\\') := by
  unfold stepItem at read
  split at read
  case h_2 =>
      unfold State.closeGroup? at read
      split at read <;> cases read
      rfl
  case h_5 | h_6 | h_7 => exact (stays_of_quantify? read).escaping
  case h_8 =>
      split at read <;> cases read
      rfl
  case h_13 plain _ _ _ =>
      cases read
      exact (decide_eq_false plain).symm
  all_goals
    cases read
    rfl

/-- A character stands behind a backslash if one comes before it that stands behind none. -/
theorem escaping_of_step (read : step state c = some after) :
    after.mode.escaping = (!state.mode.escaping && decide (c = '\\')) := by
  cases step_eq_some_iff.1 read with
  | item begins read =>
      rw [begins.escaping]
      exact escaping_of_stepItem read
  | @letter letters _ mode more accepted =>
      rw [mode]
      refine (decide_eq_false ?_).symm
      rintro rfl
      revert accepted
      cases letters.isEmpty <;> decide
  | escaped mode read =>
      rw [mode]
      exact (stays_of_stepBackslash read).escaping
  | count mode read =>
      rw [mode]
      exact (stays_of_stepCount read).escaping
  | bracket mode read =>
      rw [mode]
      exact (stays_of_stepBracket read).escaping
  | lazily mode | flags mode | unnumbered mode | naming mode | named mode | begun mode
  | title mode =>
      rw [mode]
      rfl

end Escaping

/-! ### A bound on the levels -/

/-- How many levels a character may add that stands behind no backslash: the end of a group its
group, its choice and the sequence in it. -/
def charLevels (c : Char) : Nat :=
  match c with
  | ')' => 3
  | '|' | '*' | '+' | '?' | '\x7d' => 1
  | _ => 0

/-- How many levels a text may add; `escaped` tells that a backslash comes before it. -/
def levels (escaped : Bool) : List Char → Nat
  | [] => 0
  | c :: rest =>
      if escaped then levels false rest else charLevels c + levels (decide (c = '\\')) rest

/-- All depths that are kept are at most `bound`. -/
structure Nesting.Within (bound : Nat) (nesting : Nesting) : Prop where
  branches : ∀ depth ∈ nesting.level.branches, depth ≤ bound
  items : ∀ depth ∈ nesting.level.items, depth ≤ bound
  outer : ∀ depths ∈ nesting.outer, ∀ depth ∈ depths.branches ++ depths.items, depth ≤ bound

namespace Nesting.Within

variable {bound more : Nat} {nesting : Nesting}

theorem weaken (within : nesting.Within bound) (greater : bound ≤ more) : nesting.Within more :=
  ⟨fun depth member => Nat.le_trans (within.branches depth member) greater,
    fun depth member => Nat.le_trans (within.items depth member) greater,
    fun depths inside depth member =>
      Nat.le_trans (within.outer depths inside depth member) greater⟩

theorem push {depth : Nat} (within : nesting.Within bound) (small : depth ≤ bound) :
    (nesting.push depth).Within bound :=
  ⟨within.branches, List.forall_mem_cons.2 ⟨small, within.items⟩, within.outer⟩

theorem bar (within : nesting.Within bound) : nesting.bar.Within (bound + 1) :=
  ⟨List.forall_mem_cons.2 ⟨together_le within.items,
      (within.weaken (Nat.le_add_right bound 1)).branches⟩,
    nofun, (within.weaken (Nat.le_add_right bound 1)).outer⟩

theorem quantify (within : nesting.Within bound) : nesting.quantify.Within (bound + 1) := by
  have weaker := within.weaken (Nat.le_add_right bound 1)
  obtain ⟨⟨branches, items⟩, outer⟩ := nesting
  cases items with
  | nil => exact weaker
  | cons depth items =>
      have latest : depth + 1 ≤ bound + 1 :=
        Nat.succ_le_succ (within.items depth List.mem_cons_self)
      have others := (List.forall_mem_cons.1 weaker.items).2
      exact ⟨weaker.branches, List.forall_mem_cons.2 ⟨latest, others⟩, weaker.outer⟩

theorem openGroup (within : nesting.Within bound) : nesting.openGroup.Within bound :=
  ⟨nofun, nofun, List.forall_mem_cons.2
    ⟨List.forall_mem_append.2 ⟨within.branches, within.items⟩, within.outer⟩⟩

theorem total_le (within : nesting.Within bound) : nesting.level.total ≤ bound + 2 :=
  together_le within.bar.branches

theorem closeGroup (within : nesting.Within bound) : nesting.closeGroup.Within (bound + 3) := by
  have weaker := within.weaken (Nat.le_add_right bound 3)
  unfold Nesting.closeGroup
  split
  · exact weaker
  · next enclosing =>
      have around := weaker.outer
      rw [enclosing] at around
      obtain ⟨first, others⟩ := List.forall_mem_cons.1 around
      obtain ⟨branches, items⟩ := List.forall_mem_append.1 first
      exact ⟨branches, List.forall_mem_cons.2 ⟨Nat.succ_le_succ within.total_le, items⟩, others⟩

theorem stepItem (within : nesting.Within bound) (c : Char) :
    (nesting.stepItem c).Within (bound + charLevels c) := by
  unfold Nesting.stepItem
  split
  case h_1 => exact within.openGroup
  case h_2 => exact within.closeGroup
  case h_3 => exact within.bar
  case h_4 | h_5 | h_6 => exact within.quantify
  case h_10 => exact (within.push (Nat.zero_le bound)).weaken (Nat.le_add_right bound _)
  all_goals exact within

theorem stepBracket (within : nesting.Within bound) (two : 2 ≤ bound) (place : Bracket)
    (members : CharSet) (c : Char) : (nesting.stepBracket place members c).Within bound := by
  unfold Nesting.stepBracket
  split
  · split
    · exact within
    · next count _ =>
        refine within.push (Nat.le_trans (Nat.succ_le_succ ?_) two)
        exact together_le fun depth member => Nat.le_of_eq (List.eq_of_mem_replicate member)
  · exact within

/-- A character behind a backslash adds no level, and any other one at most `charLevels`. -/
theorem step (within : nesting.Within bound) (two : 2 ≤ bound) (mode : Mode) (c : Char) :
    (nesting.step mode c).Within (bound + if mode.escaping then 0 else charLevels c) := by
  cases mode with
  | item => exact within.stepItem c
  | quantified least most | opened =>
      show (if c = '?' then nesting else nesting.stepItem c).Within (bound + charLevels c)
      split
      · exact within.weaken (Nat.le_add_right bound _)
      · exact within.stepItem c
  | backslash => exact within.push (Nat.zero_le bound)
  | flags | naming | name letters => exact within.weaken (Nat.le_add_right bound _)
  | count least digits =>
      show (if c = '\x7d' then nesting.quantify else nesting).Within (bound + charLevels c)
      split
      · next closed =>
          subst closed
          exact within.quantify
      · exact within.weaken (Nat.le_add_right bound _)
  | bracket place negated members =>
      exact (within.stepBracket two place members c).weaken (Nat.le_add_right bound _)

end Nesting.Within

theorem within_nestingFrom (state : State) {nesting : Nesting} {bound : Nat} {text : List Char}
    (within : nesting.Within bound) (two : 2 ≤ bound) :
    (nestingFrom state nesting text).Within (bound + levels state.mode.escaping text) := by
  induction text generalizing state nesting bound with
  | nil => exact within
  | cons c text ih =>
      have first := within.step two state.mode c
      simp only [nestingFrom, levels]
      cases read : step state c with
      | none => exact within.weaken (Nat.le_add_right bound _)
      | some after =>
          have rest := ih after first (by omega)
          rw [escaping_of_step read] at rest
          cases escaped : state.mode.escaping <;> simpa [escaped, Nat.add_assoc] using rest

/-- The levels of a written pattern are bounded by what its characters may add. -/
theorem nesting_le_levels (text : List Char) : Pattern.nesting text ≤ levels false text + 4 := by
  have start : Nesting.start.Within 2 := ⟨by simp [Nesting.start, Depths.fresh],
    by simp [Nesting.start, Depths.fresh], by simp [Nesting.start]⟩
  have within : (nestingFrom .start .start text).Within (2 + levels false text) :=
    within_nestingFrom .start start (Nat.le_refl 2)
  have := within.total_le
  rw [Pattern.nesting]
  omega

/-- An escaped text adds no level. -/
@[simp] theorem levels_escape_append (text rest : List Char) :
    levels false (escape text ++ rest) = levels false rest := by
  induction text with
  | nil => simp [escape]
  | cons c text ih =>
      rw [escape, List.flatMap_cons, ← escape]
      split
      · simpa [levels, charLevels] using ih
      · next plain =>
          have nothing : charLevels c = 0 := by
            unfold charLevels
            split <;> first | rfl | exact absurd rfl plain
          have other : c ≠ '\\' := by
            rintro rfl
            exact plain rfl
          simpa [levels, nothing, other] using ih

end LiquidTokens.Pattern.Reader
