import LiquidTokens.Pattern.Reader
import LiquidTokens.Proofs.Pattern.Raised
import LiquidTokens.Proofs.Pattern.Written

/-!
Reading a written pattern inside another one.

A text that can be read as a pattern alone can be read in the same steps where another pattern
has got to an opening parenthesis: the groups that are open around it stay as they are, the
numbers of its own groups are raised by the number of groups opened before, and its names are added
to the names given before (`State.embed`). It is refused there exactly if it gives a name again
(`readFrom_embed`, `apart_of_readFrom`).

Main statements: `reads_written` (in parentheses, what is read as a pattern alone adds one group,
whose body is that pattern with raised numbers) and `apart_of_written` (where it is read in
parentheses, it gives no name again).
-/

namespace LiquidTokens.Pattern.Reader

/-! ### States inside others -/

/-- The level with the numbers of its groups raised. -/
def Level.raise (k : Nat) (level : Level) : Level :=
  ⟨level.branches.map (Pattern.raise k), level.items.map (Pattern.raise k)⟩

/-- The opening of a group with a raised number. -/
def Opening.raise (k : Nat) : Opening → Opening
  | plain => plain
  | capture index name => capture (index + k) name

/-- The state of a reader that has read, from the state `around` on, what leads to `state` when it
is read alone. -/
def State.embed (around state : State) : State where
  mode := state.mode
  level := state.level.raise around.groups
  outer := state.outer.map (Prod.map (Opening.raise around.groups) (Level.raise around.groups))
    ++ around.outer
  groups := around.groups + state.groups
  names := state.names ++ around.names

section Level

variable (k : Nat) (level : Level)

theorem Level.raise_push (item : Pattern) :
    (level.push item).raise k = (level.raise k).push (item.raise k) := rfl

theorem Level.raise_bar : level.bar.raise k = (level.raise k).bar := by
  simp only [Level.bar, Level.raise, List.map_cons, List.map_nil, ← sequence_raise,
    List.map_reverse]

theorem Level.raise_quantify (least : Nat) (most : Option Nat) (greedy : Bool) :
    (level.quantify least most greedy).raise k = (level.raise k).quantify least most greedy := by
  obtain ⟨branches, items⟩ := level
  cases items with
  | nil => rfl
  | cons item items =>
      simp only [Level.quantify, Level.raise, List.map_cons, repeated_raise]

theorem Level.raise_pattern : level.pattern.raise k = (level.raise k).pattern := by
  rw [Level.pattern, Level.pattern, ← Level.raise_bar, ← choice_raise]
  simp only [Level.raise, List.map_reverse]

theorem Opening.raise_close (opening : Opening) (body : Pattern) :
    (opening.close body).raise k = (opening.raise k).close (body.raise k) := by
  cases opening <;> rfl

end Level

section Embed

variable (around : State) {state after : State}

theorem embed_push (item : Pattern) :
    around.embed (state.push item) = (around.embed state).push (item.raise around.groups) := rfl

theorem embed_openCapture (name : Option String) :
    around.embed (state.openCapture name) = (around.embed state).openCapture name := by
  have number : state.groups + 1 + around.groups = around.groups + state.groups + 1 := by omega
  simp only [State.embed, State.openCapture, State.openGroup, List.map_cons, Prod.map,
    Opening.raise, number, Nat.add_assoc]
  rfl

theorem embed_apply (least : Nat) (most : Option Nat) (greedy : Bool) :
    around.embed (state.apply least most greedy)
      = (around.embed state).apply least most greedy := by
  simp only [State.embed, State.apply, Level.raise_quantify]

theorem embed_closeGroup? (read : state.closeGroup? = some after) :
    (around.embed state).closeGroup? = some (around.embed after) := by
  obtain ⟨mode, level, outer, groups, names⟩ := state
  cases outer with
  | nil => cases read
  | cons innermost outer =>
      cases read
      simp only [State.closeGroup?, State.embed, List.map_cons, List.cons_append, Prod.map,
        Level.raise_push, Opening.raise_close, Level.raise_pattern]

theorem embed_quantify? (least : Nat) (most : Option Nat) :
    (around.embed state).quantify? least most
      = (state.quantify? least most).map around.embed := by
  simp only [State.quantify?, State.embed, Level.raise, List.isEmpty_map]
  split <;> rfl

/-! ### Steps -/

theorem embed_stepItem {c : Char} (read : stepItem state c = some after) :
    stepItem (around.embed state) c = some (around.embed after) := by
  unfold stepItem at read
  split at read
  case h_2 => exact embed_closeGroup? around read
  case h_3 =>
      cases read
      simp only [stepItem, State.embed, Level.raise_bar]
  case h_5 | h_6 | h_7 =>
      simp only [stepItem, embed_quantify?, read, Option.map_some]
  case h_8 =>
      simp only [stepItem, State.embed, Level.raise, List.isEmpty_map]
      split at read
      · cases read
      · next items =>
          cases read
          rw [if_neg items]
  case h_13 =>
      cases read
      unfold stepItem
      split <;> first | contradiction | rfl
  all_goals
    cases read
    rfl

theorem embed_stepBackslash (c : Char) :
    stepBackslash (around.embed state) c = (stepBackslash state c).map around.embed := by
  simp only [stepBackslash]
  cases escaped? c with
  | none => rfl
  | some meaning => cases meaning <;> rfl

theorem embed_stepCount (least : Option Nat) (digits : Digits) (c : Char) :
    stepCount (around.embed state) least digits c
      = (stepCount state least digits c).map around.embed := by
  unfold stepCount
  split
  · cases digits.value? <;> rfl
  · cases digits.value? with
    | none => rfl
    | some value => exact embed_quantify? around value (some value)
  · split
    · exact embed_quantify? around _ none
    · cases digits.value? with
      | none => rfl
      | some most =>
          simp only [Option.bind_some, embed_quantify?]
          split <;> rfl
  · cases stepDigits digits c <;> rfl

theorem embed_closeBracket (negated : Bool) (members : CharSet) :
    closeBracket (around.embed state) negated members
      = around.embed (closeBracket state negated members) := by
  rw [closeBracket, closeBracket, embed_push, ofSet_raise]

theorem embed_stepMember (negated : Bool) (members : CharSet) (c : Char) :
    stepMember (around.embed state) negated members c
      = (stepMember state negated members c).map around.embed := by
  unfold stepMember
  split
  · exact congrArg some (embed_closeBracket around negated members)
  all_goals rfl

theorem embed_stepRange (negated : Bool) (members : CharSet) (first last : Char) :
    stepRange (around.embed state) negated members first last
      = (stepRange state negated members first last).map around.embed := by
  unfold stepRange
  split <;> rfl

theorem embed_stepBracket (place : Bracket) (negated : Bool) (members : CharSet) (c : Char) :
    stepBracket (around.embed state) place negated members c
      = (stepBracket state place negated members c).map around.embed := by
  cases place with
  | opened =>
      simp only [stepBracket, embed_stepMember]
      repeat' split
      all_goals rfl
  | leading bare =>
      simp only [stepBracket, embed_stepMember]
      repeat' split
      all_goals rfl
  | member => exact embed_stepMember around negated members c
  | after d written =>
      simp only [stepBracket, embed_stepMember]
      repeat' split
      all_goals rfl
  | afterSet =>
      simp only [stepBracket, embed_stepMember]
      repeat' split
      all_goals rfl
  | hyphen d =>
      simp only [stepBracket, embed_stepRange, embed_closeBracket]
      repeat' split
      all_goals rfl
  | setHyphen =>
      simp only [stepBracket, embed_closeBracket]
      repeat' split
      all_goals rfl
  | backslash first =>
      cases first with
      | none =>
          simp only [stepBracket]
          repeat' split
          all_goals rfl
      | some d =>
          simp only [stepBracket, embed_stepRange]
          repeat' split
          all_goals rfl

theorem embed_mode : (around.embed state).mode = state.mode := rfl

theorem embed_settled : (around.embed state).settled = around.embed state.settled := by
  unfold State.settled
  rw [embed_mode]
  split
  · exact (embed_apply around _ _ _).symm
  · exact (embed_openCapture around none).symm
  · rfl

theorem embed_atItem {c : Char} (begins : state.AtItem c) : (around.embed state).AtItem c where
  item := by rw [embed_settled, embed_mode, begins.item]
  other := begins.other

/-- A character that can be read in a text alone is read in the same way inside another one,
unless it completes a name that was given around. -/
theorem embed_step {c : Char} (read : step state c = some after)
    (apart : ∀ name ∈ after.names, name ∉ around.names) :
    step (around.embed state) c = some (around.embed after) := by
  rw [step_eq_some_iff]
  cases step_eq_some_iff.1 read with
  | item begins read =>
      have still := embed_stepItem around read
      rw [← embed_settled] at still
      exact .item (embed_atItem around begins) still
  | lazily mode =>
      rw [embed_apply]
      exact .lazily mode
  | escaped mode read =>
      exact .escaped mode
        ((embed_stepBackslash around c).trans (congrArg (Option.map around.embed) read))
  | flags mode => exact .flags mode
  | unnumbered mode => exact .unnumbered mode
  | naming mode => exact .naming mode
  | named mode => exact .named mode
  | begun mode => exact .begun mode
  | letter mode more accepted => exact .letter mode more accepted
  | title mode nonempty fresh =>
      -- A name that was given around is all that is refused inside and not alone.
      have other := apart _ List.mem_cons_self
      have still : String.ofList _ ∉ (around.embed state).names :=
        fun member => (List.mem_append.1 member).elim fresh other
      have opened : Takes (around.embed state) '>' _ := .title mode nonempty still
      rw [← embed_openCapture] at opened
      exact opened
  | count mode read =>
      exact .count mode
        ((embed_stepCount around _ _ c).trans (congrArg (Option.map around.embed) read))
  | bracket mode read =>
      exact .bracket mode
        ((embed_stepBracket around _ _ _ c).trans (congrArg (Option.map around.embed) read))

end Embed

/-! ### Names and open groups -/

/-- A parenthesis has been read whose group is yet to be opened. -/
def Mode.opening : Mode → Nat
  | .opened | .flags | .naming | .name _ => 1
  | _ => 0

/-- The next character stands behind a backslash. -/
def Mode.escaping : Mode → Bool
  | .backslash | .bracket (.backslash _) _ _ => true
  | _ => false

/-- The number of parentheses that are open. -/
def State.depth (state : State) : Nat :=
  state.outer.length + state.mode.opening

/-- A later state inside the same groups, with no name more; `escaping` tells whether it is behind a
backslash. -/
structure State.Stays (escaping : Bool) (state after : State) : Prop where
  outer : after.outer = state.outer
  names : after.names = state.names
  opening : after.mode.opening = 0
  escaping : after.mode.escaping = escaping

theorem State.Stays.depth {escaping : Bool} {state after : State}
    (stays : state.Stays escaping after) : after.depth = state.outer.length := by
  rw [State.depth, stays.outer, stays.opening, Nat.add_zero]

theorem names_settled (state : State) : state.settled.names = state.names := by
  unfold State.settled
  split <;> rfl

/-- No parenthesis is open where an item begins but those whose groups are open. -/
theorem State.AtItem.depth {state : State} {c : Char} (begins : state.AtItem c) :
    state.settled.outer.length = state.depth := by
  obtain ⟨item, -⟩ := begins
  obtain ⟨mode, level, outer, groups, names⟩ := state
  cases mode <;> first | rfl | cases item

theorem State.AtItem.escaping {state : State} {c : Char} (begins : state.AtItem c) :
    state.mode.escaping = false := by
  obtain ⟨item, -⟩ := begins
  obtain ⟨mode, level, outer, groups, names⟩ := state
  cases mode <;> first | rfl | cases item

section Names

variable {state after : State} {c : Char}

theorem stays_of_quantify? {least : Nat} {most : Option Nat}
    (read : state.quantify? least most = some after) : state.Stays false after := by
  unfold State.quantify? at read
  split at read <;> cases read
  exact ⟨rfl, rfl, rfl, rfl⟩

theorem stays_of_stepBackslash (read : stepBackslash state c = some after) :
    state.Stays false after := by
  obtain ⟨meaning, -, rfl⟩ := Option.map_eq_some_iff.1 read
  cases meaning <;> exact ⟨rfl, rfl, rfl, rfl⟩

theorem stays_of_stepCount {least : Option Nat} {digits : Digits}
    (read : stepCount state least digits c = some after) :
    state.Stays (decide (c = '\\')) after := by
  unfold stepCount at read
  split at read
  · obtain ⟨value, -, rfl⟩ := Option.map_eq_some_iff.1 read
    exact ⟨rfl, rfl, rfl, rfl⟩
  · obtain ⟨value, -, read⟩ := Option.bind_eq_some_iff.1 read
    exact stays_of_quantify? read
  · split at read
    · exact stays_of_quantify? read
    · obtain ⟨most, -, read⟩ := Option.bind_eq_some_iff.1 read
      split at read
      · exact stays_of_quantify? read
      · cases read
  · obtain ⟨value, digit, rfl⟩ := Option.map_eq_some_iff.1 read
    refine ⟨rfl, rfl, rfl, (decide_eq_false ?_).symm⟩
    rintro rfl
    cases digit

theorem stays_of_stepMember {negated : Bool} {members : CharSet}
    (read : stepMember state negated members c = some after) :
    state.Stays (decide (c = '\\')) after := by
  unfold stepMember at read
  split at read
  case h_4 plain =>
      cases read
      exact ⟨rfl, rfl, rfl, (decide_eq_false plain).symm⟩
  all_goals cases read <;> exact ⟨rfl, rfl, rfl, rfl⟩

theorem stays_of_stepRange {negated : Bool} {members : CharSet} {first last : Char}
    (read : stepRange state negated members first last = some after) :
    state.Stays false after := by
  unfold stepRange at read
  split at read <;> cases read
  exact ⟨rfl, rfl, rfl, rfl⟩

/-- Inside brackets a backslash escapes what follows it, unless it is escaped itself. -/
theorem stays_of_stepBracket {place : Bracket} {negated : Bool} {members : CharSet}
    (read : stepBracket state place negated members c = some after) :
    state.Stays (!(Mode.bracket place negated members).escaping && decide (c = '\\')) after := by
  cases place with
  | opened | leading bare | after d written | afterSet =>
      simp only [stepBracket] at read
      repeat' split at read
      all_goals first
        | exact stays_of_stepMember read
        | cases read <;> exact ⟨rfl, rfl, rfl, by simp_all [Mode.escaping]⟩
  | member => exact stays_of_stepMember read
  | hyphen d =>
      simp only [stepBracket] at read
      split at read
      case h_4 plain =>
          have stays := stays_of_stepRange read
          rwa [← decide_eq_false plain] at stays
      all_goals cases read <;> exact ⟨rfl, rfl, rfl, rfl⟩
  | setHyphen =>
      simp only [stepBracket] at read
      split at read <;> cases read
      next closed =>
        subst closed
        exact ⟨rfl, rfl, rfl, rfl⟩
  | backslash first =>
      cases first with
      | none =>
          simp only [stepBracket] at read
          split at read <;> cases read <;> exact ⟨rfl, rfl, rfl, rfl⟩
      | some d =>
          simp only [stepBracket] at read
          split at read
          · exact stays_of_stepRange read
          · cases read

theorem names_of_stepItem (read : stepItem state c = some after) : after.names = state.names := by
  unfold stepItem at read
  split at read
  case h_2 =>
      unfold State.closeGroup? at read
      split at read <;> cases read
      rfl
  case h_5 | h_6 | h_7 => exact (stays_of_quantify? read).names
  case h_8 =>
      split at read <;> cases read
      rfl
  all_goals
    cases read
    rfl

/-- Only the end of a name gives a name. -/
theorem names_of_step (read : step state c = some after) :
    after.names = state.names
      ∨ ∃ letters, state.mode = .name letters ∧ c = '>'
          ∧ after.names = String.ofList letters.reverse :: state.names := by
  cases step_eq_some_iff.1 read with
  | item begins read => exact .inl ((names_of_stepItem read).trans (names_settled state))
  | title mode => exact .inr ⟨_, mode, rfl, rfl⟩
  | escaped mode read => exact .inl (stays_of_stepBackslash read).names
  | count mode read => exact .inl (stays_of_stepCount read).names
  | bracket mode read => exact .inl (stays_of_stepBracket read).names
  | lazily | flags | unnumbered | naming | named | begun | letter => exact .inl rfl

/-- A name that has been given stays given. -/
theorem names_subset_of_step (read : step state c = some after) : state.names ⊆ after.names := by
  rcases names_of_step read with same | ⟨letters, -, -, names⟩
  · exact same ▸ List.Subset.refl _
  · exact names ▸ List.subset_cons_self _ _

theorem names_subset_of_readFrom {text : List Char} (read : readFrom state text = some after) :
    state.names ⊆ after.names := by
  induction text generalizing state with
  | nil =>
      cases read
      exact List.Subset.refl _
  | cons c text ih =>
      simp only [readFrom, List.foldlM_cons, bind, Option.bind_eq_some_iff] at read
      obtain ⟨middle, first, rest⟩ := read
      exact List.Subset.trans (names_subset_of_step first) (ih rest)

end Names

/-! ### Texts inside others -/

/-- No name is given again that was given around. -/
def State.Apart (around state : State) : Prop :=
  ∀ name ∈ state.names, name ∉ around.names

/-- A character that can be read both alone and inside another text gives no name again. -/
theorem apart_of_step {around state after : State} {c : Char} (apart : around.Apart state)
    (read : step state c = some after) (fits : (step (around.embed state) c).isSome) :
    around.Apart after := by
  rcases names_of_step read with same | ⟨letters, mode, rfl, names⟩
  · rw [State.Apart, same]
    exact apart
  · have fresh : String.ofList letters.reverse ∉ around.names := by
      intro given
      have refused : step (around.embed state) '>' = none := by
        simp only [step, embed_mode, mode, stepName, if_true]
        rw [if_pos]
        simp [State.embed, given]
      rw [refused] at fits
      cases fits
    rw [State.Apart, names]
    exact List.forall_mem_cons.2 ⟨fresh, apart⟩

/-- A text that can be read alone is read in the same way inside another one if it gives no name
again. -/
theorem readFrom_embed {around state after : State} {text : List Char}
    (read : readFrom state text = some after) (apart : around.Apart after) :
    readFrom (around.embed state) text = some (around.embed after) := by
  induction text generalizing state with
  | nil =>
      cases read
      rfl
  | cons c text ih =>
      simp only [readFrom, List.foldlM_cons, bind, Option.bind_eq_some_iff] at read ⊢
      obtain ⟨middle, first, rest⟩ := read
      have before : around.Apart middle := fun name member =>
        apart name (names_subset_of_readFrom rest member)
      exact ⟨_, embed_step around first before, ih rest⟩

/-- A text that can be read both alone and inside another one gives no name again. -/
theorem apart_of_readFrom {around state after : State} {text : List Char}
    (apart : around.Apart state) (read : readFrom state text = some after)
    (fits : (readFrom (around.embed state) text).isSome) : around.Apart after := by
  induction text generalizing state with
  | nil =>
      cases read
      exact apart
  | cons c text ih =>
      simp only [readFrom, List.foldlM_cons, bind, Option.bind_eq_some_iff] at read fits
      obtain ⟨middle, first, rest⟩ := read
      have enters : (step (around.embed state) c).isSome := by
        cases stuck : step (around.embed state) c with
        | none =>
            rw [stuck] at fits
            cases fits
        | some other => rfl
      have still := apart_of_step apart first enters
      rw [embed_step around first still] at fits
      exact ih still rest fits

/-- A text is read alone as a pattern; on the way some groups were opened and some names
given. -/
structure Written (text : List Char) (groups : Nat) (names : List String) (pattern : Pattern) :
    Prop where
  read : ∃ state, readFrom .start text = some state ∧ state.finish? = some pattern
    ∧ state.groups = groups ∧ state.names = names

theorem exists_written {text : List Char} {pattern : Pattern} (read : read? text = some pattern) :
    ∃ groups names, Written text groups names pattern := by
  obtain ⟨state, reached, finished⟩ := Option.bind_eq_some_iff.1 read
  exact ⟨_, _, ⟨state, reached, finished, rfl, rfl⟩⟩

/-- A parenthesis completes what has been read inside a group that was opened around it. -/
theorem step_embed_close {around state : State} {pattern : Pattern}
    (finished : state.finish? = some pattern) (item : around.mode = .item) :
    step ((around.openCapture none).embed state) ')'
      = some (around.grow [group (around.groups + 1) none (pattern.raise (around.groups + 1))]
          (state.groups + 1) state.names) := by
  obtain ⟨mode, level, outer, groups, names⟩ := state
  obtain ⟨_, surrounding, enclosing, before, given⟩ := around
  cases item
  have added : before + 1 + groups = before + (groups + 1) := by omega
  cases outer with
  | cons innermost outer => cases mode <;> cases finished
  | nil =>
      cases mode <;> cases finished
      · simp [step, State.embed, stepItem, State.closeGroup?, State.grow, State.openCapture,
          State.openGroup, Level.raise_pattern, Level.push, Opening.close, added]
      · simp [step, State.embed, stepItem, State.closeGroup?, State.grow, State.openCapture,
          State.openGroup, Level.raise_pattern, Level.raise_quantify, Level.push, Opening.close,
          State.apply, added]

/-- A question mark repeats something, so no text begins with one. -/
theorem head?_ne_of_readFrom {text : List Char} (fits : (readFrom .start text).isSome) :
    text.head? ≠ some '?' := by
  intro starts
  obtain ⟨rest, rfl⟩ := List.head?_eq_some_iff.1 starts
  cases fits

/-- A parenthesis opens a group if no question mark follows it. -/
theorem readFrom_parenthesis {around : State} (item : around.mode = .item) {text : List Char}
    (other : text.head? ≠ some '?') :
    readFrom around ('(' :: text ++ [')'])
      = readFrom (around.openCapture none) (text ++ [')']) := by
  obtain ⟨mode, level, outer, groups, names⟩ := around
  cases item
  have opened : readFrom ⟨.item, level, outer, groups, names⟩ ('(' :: text ++ [')'])
      = readFrom ⟨.opened, level, outer, groups, names⟩ (text ++ [')']) := rfl
  rw [opened]
  cases text with
  | nil => exact readFrom_of_settled _ (by decide) []
  | cons c text => exact readFrom_of_settled _ (fun same => other (by rw [same]; rfl)) _

theorem openCapture_embed_start (around : State) (name : Option String) :
    (around.openCapture name).embed .start = around.openCapture name := rfl

/-- What can be read alone adds one group when it is read in parentheses, if it gives no name
again. -/
theorem reads_written {around : State} {text : List Char} {groups : Nat}
    {names : List String} {pattern : Pattern} (item : around.mode = .item)
    (written : Written text groups names pattern) (apart : ∀ name ∈ names, name ∉ around.names) :
    Reads around ('(' :: text ++ [')'])
      (around.grow [group (around.groups + 1) none (pattern.raise (around.groups + 1))]
        (groups + 1) names) := by
  obtain ⟨state, read, finished, rfl, rfl⟩ := written.read
  have other := head?_ne_of_readFrom (Option.isSome_of_eq_some read)
  have inside : readFrom ((around.openCapture none).embed .start) text
      = some ((around.openCapture none).embed state) := readFrom_embed read apart
  rw [openCapture_embed_start] at inside
  rw [Reads, readFrom_parenthesis item other, readFrom_append, inside, Option.bind_some]
  simp only [readFrom, List.foldlM_cons, List.foldlM_nil, step_embed_close finished item, bind,
    Option.bind_some, pure, Option.map_some]
  rfl

/-- What can be read alone gives no name again where it can be read in parentheses. -/
theorem apart_of_written {around : State} {text : List Char} {groups : Nat} {names : List String}
    {pattern : Pattern} (item : around.mode = .item) (written : Written text groups names pattern)
    (fits : (readFrom around ('(' :: text ++ [')'])).isSome) :
    ∀ name ∈ names, name ∉ around.names := by
  obtain ⟨state, read, finished, rfl, rfl⟩ := written.read
  have other := head?_ne_of_readFrom (Option.isSome_of_eq_some read)
  rw [readFrom_parenthesis item other, ← openCapture_embed_start] at fits
  have apart : (around.openCapture none).Apart .start := by simp [State.Apart, State.start]
  have still : (around.openCapture none).Apart state :=
    apart_of_readFrom apart read (isSome_of_append fits)
  exact still

end LiquidTokens.Pattern.Reader
