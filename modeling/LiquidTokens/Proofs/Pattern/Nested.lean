import LiquidTokens.Pattern.Nesting
import LiquidTokens.Proofs.Pattern.Embedded

/-!
The levels of a written pattern inside another one.

The depths that are kept while a pattern is read are as many as the parentheses that are open
(`depth_of_step`), so a text that can be read alone never closes a group that was opened around
it, and its own levels are those that it has alone (`nestingFrom_embed`).

Main statement: `nestingFrom_written` (in parentheses, what can be read alone is one item with one
level more, wherever the parentheses stand).
-/

namespace LiquidTokens.Pattern

namespace Reader

/-! ### Texts one after the other -/

section Run

variable {state middle after : State} {nesting : Nesting} {s t : List Char}

theorem nestingFrom_append (read : readFrom state s = some middle) :
    nestingFrom state nesting (s ++ t) = nestingFrom middle (nestingFrom state nesting s) t := by
  induction s generalizing state nesting with
  | nil =>
      cases read
      rfl
  | cons c s ih =>
      simp only [readFrom, List.foldlM_cons, bind, Option.bind_eq_some_iff] at read
      obtain ⟨first, entered, rest⟩ := read
      simp only [List.cons_append, nestingFrom, entered]
      exact ih rest

theorem nestingFrom_settled (other : t.head? ≠ some '?') :
    nestingFrom state.settled nesting t = nestingFrom state nesting t := by
  cases t with
  | nil => rfl
  | cons c t =>
      have plain : c ≠ '?' := fun same => other (by rw [same]; rfl)
      have taken : nesting.step state.settled.mode c = nesting.step state.mode c := by
        obtain ⟨mode, level, outer, groups, names⟩ := state
        cases mode <;> simp [State.settled, Nesting.step, plain, State.apply, State.openCapture,
          State.openGroup]
      simp only [nestingFrom, step_settled plain, taken]

theorem nestingFrom_append_of_reads (reads : Reads state s after) (other : t.head? ≠ some '?') :
    nestingFrom state nesting (s ++ t) = nestingFrom after (nestingFrom state nesting s) t := by
  obtain ⟨reached, read, rfl⟩ := Option.map_eq_some_iff.1 reads
  rw [nestingFrom_append read, nestingFrom_settled other]

end Run

/-! ### Texts in parentheses -/

/-- The depths of what has been read, inside groups that were opened around it. -/
def Nesting.embed (around nesting : Nesting) : Nesting :=
  ⟨nesting.level, nesting.outer ++ around.outer⟩

section Embed

variable {state after : State} {around nesting : Nesting} {c : Char}

theorem depth_of_stepItem (read : stepItem state c = some after)
    (same : nesting.outer.length = state.outer.length) :
    (nesting.stepItem c).outer.length = after.depth := by
  unfold stepItem at read
  split at read
  case h_1 =>
      cases read
      simp [Nesting.stepItem, Nesting.openGroup, State.depth, Mode.opening, same]
  case h_2 =>
      unfold State.closeGroup? at read
      split at read <;> cases read
      next opening level outer enclosing =>
        obtain ⟨depths, outer⟩ := nesting
        cases outer with
        | nil => simp [enclosing] at same
        | cons around outer =>
            simpa [Nesting.stepItem, Nesting.closeGroup, State.depth, Mode.opening, enclosing]
              using same
  case h_5 | h_6 | h_7 => exact same.trans (stays_of_quantify? read).depth.symm
  case h_8 =>
      split at read <;> cases read
      exact same
  case h_13 =>
      cases read
      unfold Nesting.stepItem
      split <;> first | contradiction | exact same
  all_goals
    cases read
    exact same

theorem embed_nesting_stepItem (read : stepItem state c = some after)
    (same : nesting.outer.length = state.outer.length) :
    (around.embed nesting).stepItem c = around.embed (nesting.stepItem c) := by
  unfold Nesting.stepItem
  split
  case h_2 =>
      obtain ⟨depths, outer⟩ := nesting
      cases outer with
      | cons innermost outer => rfl
      | nil =>
          have closed : state.outer = [] := List.eq_nil_of_length_eq_zero same.symm
          simp [stepItem, State.closeGroup?, closed] at read
  all_goals rfl

theorem outer_stepBracket (place : Bracket) (members : CharSet) :
    (nesting.stepBracket place members c).outer = nesting.outer := by
  unfold Nesting.stepBracket
  split
  · split <;> rfl
  · rfl

theorem embed_nesting_stepBracket (place : Bracket) (members : CharSet) :
    (around.embed nesting).stepBracket place members c
      = around.embed (nesting.stepBracket place members c) := by
  unfold Nesting.stepBracket
  split
  · split <;> rfl
  · rfl

theorem nesting_of_atItem (begins : state.AtItem c) :
    nesting.step state.mode c = nesting.stepItem c := by
  obtain ⟨item, other⟩ := begins
  obtain ⟨mode, level, outer, groups, names⟩ := state
  cases mode <;> simp_all [State.settled, Nesting.step]

/-- As many depths are kept as parentheses are open. -/
theorem depth_of_step (read : step state c = some after)
    (same : nesting.outer.length = state.depth) :
    (nesting.step state.mode c).outer.length = after.depth := by
  cases step_eq_some_iff.1 read with
  | item begins read =>
      rw [nesting_of_atItem begins]
      exact depth_of_stepItem read (same.trans begins.depth.symm)
  | escaped mode read =>
      rw [State.depth, mode] at same
      rw [mode, (stays_of_stepBackslash read).depth]
      exact same
  | count mode read =>
      rw [State.depth, mode] at same
      rw [mode, (stays_of_stepCount read).depth]
      simp only [Nesting.step]
      split <;> exact same
  | bracket mode read =>
      rw [State.depth, mode] at same
      rw [mode, (stays_of_stepBracket read).depth, Nesting.step, outer_stepBracket]
      exact same
  | lazily mode | flags mode | unnumbered mode | naming mode | named mode | begun mode
  | letter mode | title mode =>
      rw [State.depth, mode] at same
      rw [mode]
      exact same

theorem embed_nesting_step (read : step state c = some after)
    (same : nesting.outer.length = state.depth) :
    (around.embed nesting).step state.mode c = around.embed (nesting.step state.mode c) := by
  cases step_eq_some_iff.1 read with
  | item begins read =>
      rw [nesting_of_atItem begins, nesting_of_atItem begins]
      exact embed_nesting_stepItem read (same.trans begins.depth.symm)
  | count mode =>
      rw [mode]
      simp only [Nesting.step]
      split <;> rfl
  | bracket mode =>
      rw [mode]
      exact embed_nesting_stepBracket _ _
  | lazily mode | escaped mode | flags mode | unnumbered mode | naming mode | named mode
  | begun mode | letter mode | title mode =>
      rw [mode]
      rfl

end Embed

/-- What can be read alone has the same levels inside other groups, and leaves open as many of
its own parentheses as it does alone. -/
theorem nestingFrom_embed {around state after : State} {outside nesting : Nesting}
    {text : List Char} (read : readFrom state text = some after) (apart : around.Apart after)
    (same : nesting.outer.length = state.depth) :
    nestingFrom (around.embed state) (outside.embed nesting) text
        = outside.embed (nestingFrom state nesting text)
      ∧ (nestingFrom state nesting text).outer.length = after.depth := by
  induction text generalizing state nesting with
  | nil =>
      cases read
      exact ⟨rfl, same⟩
  | cons c text ih =>
      simp only [readFrom, List.foldlM_cons, bind, Option.bind_eq_some_iff] at read
      obtain ⟨middle, first, rest⟩ := read
      have before : around.Apart middle := fun name member =>
        apart name (names_subset_of_readFrom rest member)
      simp only [nestingFrom, first, embed_step around first before, embed_mode,
        embed_nesting_step first same]
      exact ih rest (depth_of_step first same)

/-- In parentheses, what can be read alone is one item with one level more. -/
theorem nestingFrom_written {around : State} {nesting : Nesting} {text : List Char} {groups : Nat}
    {names : List String} {pattern : Pattern} (item : around.mode = .item)
    (written : Written text groups names pattern) (apart : ∀ name ∈ names, name ∉ around.names) :
    nestingFrom around nesting ('(' :: text ++ [')'])
      = nesting.push (Pattern.nesting text + 1) := by
  obtain ⟨state, read, finished, rfl, rfl⟩ := written.read
  have still : (around.openCapture none).Apart state := apart
  obtain ⟨inside, own⟩ : nestingFrom ((around.openCapture none).embed .start)
        (nesting.openGroup.embed .start) text
      = nesting.openGroup.embed (nestingFrom .start .start text)
      ∧ (nestingFrom .start .start text).outer.length = state.depth :=
    nestingFrom_embed read still rfl
  have other : (text ++ [')']).head? ≠ some '?' := by
    have first := head?_ne_of_readFrom (Option.isSome_of_eq_some read)
    cases text with
    | nil => simp
    | cons c text => exact first
  have opened : nestingFrom around nesting ('(' :: text ++ [')'])
      = nestingFrom (around.openCapture none) nesting.openGroup (text ++ [')']) := by
    obtain ⟨mode, level, outer, groups, names⟩ := around
    cases item
    exact (nestingFrom_settled other).symm
  have within : readFrom (around.openCapture none) text
      = some ((around.openCapture none).embed state) := readFrom_embed read still
  -- nothing is left open, so the parenthesis closes the group that was opened around
  have closes : (nesting.openGroup.embed (nestingFrom .start .start text)).step state.mode ')'
      = nesting.push (Pattern.nesting text + 1) := by
    obtain ⟨mode, level, outer, groups, names⟩ := state
    cases outer with
    | cons innermost outer => cases mode <;> cases finished
    | nil =>
        cases mode <;> cases finished <;>
          simp [Nesting.step, Nesting.stepItem, Nesting.closeGroup, Nesting.embed,
            List.eq_nil_of_length_eq_zero own, Nesting.openGroup, Nesting.push, Pattern.nesting]
  have entered := openCapture_embed_start around none
  have outside : nesting.openGroup.embed .start = nesting.openGroup := rfl
  rw [entered, outside] at inside
  rw [opened, nestingFrom_append within, inside]
  simp only [nestingFrom, step_embed_close finished item, embed_mode, closes]

end Reader

end LiquidTokens.Pattern
