import LiquidTokens.Pattern.Escape
import Mathlib.Data.List.Basic

/-!
Reading written patterns that hold arbitrary literal texts.

A pattern that is put together from fixed parts and escaped texts is read part by part. A state
that waits for a possible `?` (after a quantifier or an opening parenthesis) is settled by any
other character, so it is enough to follow the settled states (`Reads`). Each escaped text leaves
one literal item for every character, and these are joined to one text when the sequence is
complete (`foldr_consItem_letters`).

What one character does is said once (`Takes`), with the three modes in which an item may begin
taken as one.

Main statements: `step_eq_some_iff`, `Reads.append`, `reads_escape`, `reads_group`,
`reads_namedGroup` and `read?_of_reads`.
-/

namespace LiquidTokens.Pattern

namespace Reader

/-! ### Settled states -/

/-- The state as it is taken by any character but `?`: a quantifier that has been read is
applied, and a parenthesis opens a group. -/
def State.settled (state : State) : State :=
  match state.mode with
  | .quantified least most => state.apply least most true
  | .opened => state.openCapture none
  | _ => state

theorem settled_settled (state : State) : state.settled.settled = state.settled := by
  obtain ⟨mode, level, outer, groups, names⟩ := state
  cases mode <;> rfl

theorem step_settled {state : State} {c : Char} (other : c ≠ '?') :
    step state.settled c = step state c := by
  obtain ⟨mode, level, outer, groups, names⟩ := state
  cases mode <;> simp [State.settled, step, other, State.apply, State.openCapture, State.openGroup]

/-- An item may begin with the character: nothing has to be completed first, and the character is
no `?` that belongs to what comes before it. -/
structure State.AtItem (state : State) (c : Char) : Prop where
  item : state.settled.mode = .item
  other : state.mode = .item ∨ c ≠ '?'

/-- What a character does that can be read. -/
inductive Takes (state : State) : Char → State → Prop
  | item {c : Char} {after : State} (begins : state.AtItem c)
      (read : stepItem state.settled c = some after) : Takes state c after
  | lazily {least : Nat} {most : Option Nat} (mode : state.mode = .quantified least most) :
      Takes state '?' (state.apply least most false)
  | escaped {c : Char} {after : State} (mode : state.mode = .backslash)
      (read : stepBackslash state c = some after) : Takes state c after
  | flags (mode : state.mode = .opened) : Takes state '?' { state with mode := .flags }
  | unnumbered (mode : state.mode = .flags) : Takes state ':' (state.openGroup .plain)
  | naming (mode : state.mode = .flags) : Takes state 'P' { state with mode := .naming }
  | named (mode : state.mode = .flags) : Takes state '<' { state with mode := .name [] }
  | begun (mode : state.mode = .naming) : Takes state '<' { state with mode := .name [] }
  | letter {letters : List Char} {c : Char} (mode : state.mode = .name letters) (more : c ≠ '>')
      (accepted : isNameChar letters.isEmpty c = true) :
      Takes state c { state with mode := .name (c :: letters) }
  | title {letters : List Char} (mode : state.mode = .name letters)
      (nonempty : letters.isEmpty = false) (fresh : String.ofList letters.reverse ∉ state.names) :
      Takes state '>' { state.openCapture (some (String.ofList letters.reverse)) with
        names := String.ofList letters.reverse :: state.names }
  | count {least : Option Nat} {digits : Digits} {c : Char} {after : State}
      (mode : state.mode = .count least digits)
      (read : stepCount state least digits c = some after) : Takes state c after
  | bracket {place : Bracket} {negated : Bool} {members : CharSet} {c : Char} {after : State}
      (mode : state.mode = .bracket place negated members)
      (read : stepBracket state place negated members c = some after) : Takes state c after

section Takes

variable {state after : State} {c : Char}

theorem step_of_atItem (begins : state.AtItem c) : step state c = stepItem state.settled c := by
  obtain ⟨item, other⟩ := begins
  obtain ⟨mode, level, outer, groups, names⟩ := state
  cases mode <;> simp_all [State.settled, step]

theorem takes_of_stepName {letters : List Char} (mode : state.mode = .name letters)
    (read : stepName state letters c = some after) : Takes state c after := by
  unfold stepName at read
  split at read
  · next ended =>
      simp only at read
      split at read <;> cases read
      next accepted =>
        rw [Bool.or_eq_true, not_or, List.contains_iff_mem, Bool.not_eq_true] at accepted
        exact ended ▸ .title mode accepted.1 accepted.2
  · next more =>
      split at read <;> cases read
      next accepted => exact .letter mode more accepted

theorem takes_of_step (read : step state c = some after) : Takes state c after := by
  unfold step at read
  cases mode : state.mode <;> rw [mode] at read
  case item =>
      have settles : state.settled = state := by rw [State.settled, mode]
      exact .item ⟨by rw [settles, mode], .inl mode⟩ (by rwa [settles])
  case quantified least most =>
      have settles : state.settled = state.apply least most true := by rw [State.settled, mode]
      simp only at read
      split at read
      · next lazily =>
          cases read
          exact lazily ▸ .lazily mode
      · next other => exact .item ⟨by rw [settles]; rfl, .inr other⟩ (by rwa [settles])
  case opened =>
      have settles : state.settled = state.openCapture none := by rw [State.settled, mode]
      simp only at read
      split at read
      · next flag =>
          cases read
          exact flag ▸ .flags mode
      · next other => exact .item ⟨by rw [settles]; rfl, .inr other⟩ (by rwa [settles])
  case flags =>
      simp only at read
      split at read <;> cases read
      · exact .unnumbered mode
      · exact .naming mode
      · exact .named mode
  case naming =>
      simp only at read
      split at read <;> cases read
      next begun => exact begun ▸ .begun mode
  case name letters => exact takes_of_stepName mode read
  case backslash => exact .escaped mode read
  case count least digits => exact .count mode read
  case bracket place negated members => exact .bracket mode read

theorem step_eq_some_iff : step state c = some after ↔ Takes state c after := by
  refine ⟨takes_of_step, fun takes => ?_⟩
  cases takes with
  | item begins read => exact (step_of_atItem begins).trans read
  | lazily mode | flags mode | unnumbered mode | naming mode | named mode | begun mode =>
      simp [step, mode]
  | letter mode more accepted => simp [step, mode, stepName, more, accepted]
  | title mode nonempty fresh =>
      simp only [step, mode, stepName]
      simp [nonempty, fresh]
  | escaped mode read | count mode read | bracket mode read =>
      simpa only [step, mode] using read

end Takes

theorem finish?_settled (state : State) : state.settled.finish? = state.finish? := by
  obtain ⟨mode, level, outer, groups, names⟩ := state
  cases mode <;> cases outer <;> rfl

/-- What does not begin with `?` is read as from the settled state. -/
theorem readFrom_of_settled (state : State) {c : Char} (other : c ≠ '?') (text : List Char) :
    readFrom state (c :: text) = readFrom state.settled (c :: text) := by
  simp only [readFrom, List.foldlM_cons, step_settled other]

/-- Reading `text` leads from a state to one that settles to `after`. -/
def Reads (state : State) (text : List Char) (after : State) : Prop :=
  (readFrom state text).map State.settled = some after

theorem Reads.append {state middle after : State} {s t : List Char} (first : Reads state s middle)
    (second : Reads middle t after) (other : t.head? ≠ some '?') : Reads state (s ++ t) after := by
  obtain ⟨reached, read, rfl⟩ := Option.map_eq_some_iff.1 first
  rw [Reads, readFrom_append, read, Option.bind_some]
  cases t with
  | nil => exact (congrArg some (settled_settled reached).symm).trans second
  | cons c t =>
      rw [readFrom_of_settled reached fun h => other (by simp [h])]
      exact second

/-- What follows a part that has been read is read from the state after it. -/
theorem readFrom_append_of_reads {state after : State} {s t : List Char}
    (reads : Reads state s after) (other : t.head? ≠ some '?') (nonempty : t ≠ []) :
    readFrom state (s ++ t) = readFrom after t := by
  obtain ⟨reached, read, rfl⟩ := Option.map_eq_some_iff.1 reads
  obtain ⟨c, t, rfl⟩ := List.exists_cons_of_ne_nil nonempty
  rw [readFrom_append, read, Option.bind_some]
  exact readFrom_of_settled reached (fun same => other (by rw [same]; rfl)) t

theorem isSome_of_append {state : State} {s t : List Char}
    (fits : (readFrom state (s ++ t)).isSome) : (readFrom state s).isSome := by
  rw [readFrom_append] at fits
  cases read : readFrom state s with
  | none =>
      rw [read] at fits
      cases fits
  | some reached => rfl

theorem read?_of_reads {text : List Char} {after : State} (reads : Reads .start text after) :
    read? text = after.finish? := by
  obtain ⟨reached, read, rfl⟩ := Option.map_eq_some_iff.1 reads
  rw [read?, read, Option.bind_some, finish?_settled]

/-! ### Items, groups and escaped texts -/

/-- The state with some more items, the first of them read first, with more groups opened and
more names given, the latest first. -/
def State.grow (state : State) (items : List Pattern) (groups : Nat) (names : List String) :
    State :=
  { state with
    mode := .item
    level := { state.level with items := items.reverse ++ state.level.items }
    groups := state.groups + groups
    names := names ++ state.names }

@[simp] theorem grow_mode (state : State) (items : List Pattern) (groups : Nat)
    (names : List String) : (state.grow items groups names).mode = .item := rfl

@[simp] theorem grow_groups (state : State) (items : List Pattern) (groups : Nat)
    (names : List String) : (state.grow items groups names).groups = state.groups + groups := rfl

@[simp] theorem grow_names (state : State) (items : List Pattern) (groups : Nat)
    (names : List String) : (state.grow items groups names).names = names ++ state.names := rfl

@[simp] theorem grow_grow (state : State) (items more : List Pattern) (groups others : Nat)
    (names given : List String) :
    (state.grow items groups names).grow more others given
      = state.grow (items ++ more) (groups + others) (given ++ names) := by
  simp [State.grow, Nat.add_assoc]

/-- The literal items of a text, one for each character. -/
def letters (text : List Char) : List Pattern :=
  text.map fun c => Pattern.text [c]

theorem foldl_push_letters (state : State) (item : state.mode = .item) (text : List Char) :
    text.foldl (fun state c => state.push (.text [c])) state
      = state.grow (letters text) 0 [] := by
  induction text generalizing state with
  | nil =>
      obtain ⟨mode, level, outer, groups, names⟩ := state
      cases item
      rfl
  | cons c text ih =>
      rw [List.foldl_cons, ih _ rfl]
      simp [State.grow, State.push, Level.push, letters]

theorem head?_escape_ne (text : List Char) : (escape text).head? ≠ some '?' := by
  cases text with
  | nil => simp [escape]
  | cons c text =>
      by_cases special : metaChars.contains c
      · rw [escape, List.flatMap_cons, if_pos special]
        simp
      · rw [escape, List.flatMap_cons, if_neg special]
        rintro ⟨⟩
        exact special (by decide)

theorem head?_append_ne {s : List Char} (starts : ∃ c ∈ s.head?, c ≠ '?') (t : List Char) :
    (s ++ t).head? ≠ some '?' := by
  obtain ⟨c, first, other⟩ := starts
  rw [List.head?_append, Option.mem_def.1 first, Option.some_or]
  intro same
  exact other (Option.some.inj same)

theorem head?_escape_append_ne (text : List Char) {more : List Char}
    (other : more.head? ≠ some '?') : (escape text ++ more).head? ≠ some '?' := by
  cases h : escape text with
  | nil => exact other
  | cons c rest => simpa [h] using head?_escape_ne text

/-- Reading an escaped text adds its letters. -/
theorem reads_escape (state : State) (item : state.mode = .item) (text : List Char) :
    Reads state (escape text) (state.grow (letters text) 0 []) := by
  rw [Reads, readFrom_escape _ item, foldl_push_letters _ item]
  rfl

@[simp] theorem openCapture_names (state : State) (name : Option String) :
    (state.openCapture name).names = state.names := rfl

@[simp] theorem openCapture_groups (state : State) (name : Option String) :
    (state.openCapture name).groups = state.groups + 1 := rfl

/-- Reading a group without a name. -/
theorem reads_group (state : State) (item : state.mode = .item) {body : List Char}
    (other : body.head? ≠ some '?') {items : List Pattern} {groups : Nat} {names : List String}
    (inside : Reads (state.openCapture none) body
      ((state.openCapture none).grow items groups names)) :
    Reads state ('(' :: body ++ [')'])
      (state.grow [group (state.groups + 1) none (choice [sequence items])] (groups + 1)
        names) := by
  obtain ⟨mode, level, outer, count, given⟩ := state
  cases item
  have opened : Reads ⟨.item, level, outer, count, given⟩ ['(']
      (State.openCapture ⟨.item, level, outer, count, given⟩ none) := rfl
  refine (opened.append inside other).append ?_ (by simp)
  simp [Reads, readFrom, step, stepItem, State.closeGroup?, State.grow, State.openCapture,
    State.openGroup, Level.fresh, Level.pattern, Level.bar, Level.push, Opening.close, Option.map,
    State.settled, Nat.add_comm 1, Nat.add_assoc]

/-- The state inside a group that has just been given a name. -/
def State.openNamed (state : State) (name : String) : State :=
  { state.openCapture (some name) with names := name :: state.names }

theorem readFrom_name (state : State) (read : List Char) {name : List Char}
    (alphabetic : ∀ c ∈ name, Text.isAlphabetic c = true) (nonempty : read.reverse ++ name ≠ [])
    (fresh : String.ofList (read.reverse ++ name) ∉ state.names) :
    readFrom { state with mode := .name read } (name ++ ['>'])
      = some (state.openNamed (String.ofList (read.reverse ++ name))) := by
  induction name generalizing read with
  | nil =>
      rw [List.append_nil] at fresh nonempty
      have some : read ≠ [] := by simpa using nonempty
      simp [readFrom, step, stepName, fresh, some, State.openNamed, State.openCapture,
        State.openGroup]
  | cons c name ih =>
      have letter := alphabetic c List.mem_cons_self
      have inside : c ≠ '>' := by
        rintro rfl
        exact absurd letter (by decide)
      have more := ih (c :: read) (fun d member => alphabetic d (.tail c member))
        (by simp) (by simpa using fresh)
      simp only [readFrom, List.cons_append, List.foldlM_cons, step, stepName, inside, if_false,
        isNameChar, letter, Bool.or_true, Bool.true_or, if_true]
      simpa [readFrom] using more

/-- Some letters, as the name of a group. -/
structure GroupName (name : String) : Prop where
  nonempty : name ≠ ""
  alphabetic : ∀ c ∈ name.toList, Text.isAlphabetic c = true

instance : DecidablePred GroupName := fun name =>
  decidable_of_iff (name ≠ "" ∧ ∀ c ∈ name.toList, Text.isAlphabetic c = true)
    ⟨fun ⟨nonempty, alphabetic⟩ => ⟨nonempty, alphabetic⟩,
      fun named => ⟨named.nonempty, named.alphabetic⟩⟩

/-- Reading a group with a name and one item in it. -/
theorem reads_namedGroup (state : State) (name : String) (body : List Char) (pattern : Pattern)
    (item : state.mode = .item) (named : GroupName name) (fresh : name ∉ state.names)
    (other : body.head? ≠ some '?')
    (alone : choice [sequence [pattern]] = pattern)
    (inside : Reads (state.openNamed name) body ((state.openNamed name).grow [pattern] 0 [])) :
    Reads state ("(?P<".toList ++ name.toList ++ ['>'] ++ body ++ [')'])
      (state.grow [group (state.groups + 1) (some name) pattern] 1 [name]) := by
  obtain ⟨mode, level, outer, count, given⟩ := state
  cases item
  have opened : Reads ⟨.item, level, outer, count, given⟩ ("(?P<".toList ++ name.toList ++ ['>'])
      (State.openNamed ⟨.item, level, outer, count, given⟩ name) := by
    rw [Reads, List.append_assoc, readFrom_append]
    have titled := readFrom_name ⟨.item, level, outer, count, given⟩ [] named.alphabetic
      (by simpa using named.nonempty) (by simpa using fresh)
    simp only [List.reverse_nil, List.nil_append, String.ofList_toList] at titled
    exact congrArg (Option.map State.settled) titled
  refine (opened.append inside other).append ?_ (by simp)
  simp [Reads, readFrom, step, stepItem, State.closeGroup?, State.grow, State.openNamed,
    State.openCapture, State.openGroup, Level.fresh, Level.pattern, Level.bar, Level.push,
    Opening.close, Option.map, State.settled, alone]

/-- What has been read on one level is one sequence. -/
theorem finish?_grow (items : List Pattern) (groups : Nat) (names : List String) :
    (State.start.grow items groups names).finish? = some (choice [sequence items]) := by
  simp [State.finish?, State.grow, State.start, Level.fresh, Level.pattern, Level.bar]

/-! ### Alternatives in parentheses -/

/-- The state inside parentheses that only group, after some complete alternatives, the latest
first. -/
def State.inside (state : State) (branches : List Pattern) (groups : Nat) (names : List String) :
    State :=
  ⟨.item, ⟨branches, []⟩, (.plain, state.level) :: state.outer, state.groups + groups,
    names ++ state.names⟩

@[simp] theorem inside_mode (state : State) (branches : List Pattern) (groups : Nat)
    (names : List String) : (state.inside branches groups names).mode = .item := rfl

@[simp] theorem inside_groups (state : State) (branches : List Pattern) (groups : Nat)
    (names : List String) :
    (state.inside branches groups names).groups = state.groups + groups := rfl

@[simp] theorem inside_names (state : State) (branches : List Pattern) (groups : Nat)
    (names : List String) :
    (state.inside branches groups names).names = names ++ state.names := rfl

theorem reads_parenthesis (state : State) (item : state.mode = .item) :
    Reads state "(?:".toList (state.inside [] 0 []) := by
  obtain ⟨mode, level, outer, count, given⟩ := state
  cases item
  rfl

variable {state : State} {branches items : List Pattern} {groups more : Nat}
  {names given : List String} {text : List Char}

theorem Reads.bar (branch : Reads (state.inside branches groups names) text
      ((state.inside branches groups names).grow items more given)) :
    Reads (state.inside branches groups names) (text ++ ['|'])
      (state.inside (sequence items :: branches) (groups + more) (given ++ names)) := by
  refine branch.append ?_ (by simp)
  simp [Reads, readFrom, step, stepItem, State.grow, State.inside, Level.bar, State.settled,
    Nat.add_assoc]

theorem Reads.parenthesis (branch : Reads (state.inside branches groups names) text
      ((state.inside branches groups names).grow items more given)) :
    Reads (state.inside branches groups names) (text ++ [')'])
      (state.grow [choice (sequence items :: branches).reverse] (groups + more)
        (given ++ names)) := by
  refine branch.append ?_ (by simp)
  simp [Reads, readFrom, step, stepItem, State.grow, State.inside, State.closeGroup?, Level.bar,
    Level.pattern, Level.push, Opening.close, State.settled, Nat.add_assoc]

end Reader

/-- A sequence stays itself as the only alternative. -/
theorem choice_seq (first second : Pattern) :
    choice [seq first second] = seq first second := by
  simp [choice, branches, sharedStart, join, joinedSet?, letter?, set?, ofBranches]

/-! ### Joining letters -/

open Reader (letters)

/-- Letters in front of some items are one text in front of them. -/
theorem foldr_consItem_letters {text : List Char} (nonempty : text ≠ []) (items : List Pattern) :
    (letters text).foldr consItem items = consItem (.text text) items := by
  obtain ⟨c, text, rfl⟩ := List.exists_cons_of_ne_nil nonempty
  induction text generalizing c with
  | nil => rfl
  | cons d text ih =>
      rw [letters, List.map_cons, List.foldr_cons, ← letters, ih d (by simp)]
      cases items with
      | nil => rfl
      | cons item items => cases item <;> rfl

theorem flatMap_items_letters (text : List Char) :
    (letters text).flatMap items = letters text := by
  induction text with
  | nil => rfl
  | cons c text ih => exact congrArg (Pattern.text [c] :: ·) ih

end LiquidTokens.Pattern
