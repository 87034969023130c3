import LiquidTokens.Proofs.Pattern.Embedded
import LiquidTokens.Proofs.Pattern.Related
import LiquidTokens.RuleTable

/-!
A rule table finds what its patterns find one by one.

The table joins the written patterns to one alternation, so every pattern is read in the middle of
a longer text and its groups have other numbers. Read alone and tried one after the other at the
same position, the patterns lead to the same place and remember the same (`firstHit?`).

The rule, though, is told by the number of a group, and the table counts the groups of a pattern
up to the last one that can take part in a match. A group that cannot, such as that of `(a){0}`,
has a number in the joined pattern nevertheless; if it is the last of its pattern, the rules behind
it are sought under numbers that are not theirs. `Numbered` excludes just this.

Main statement: `hitAt?_finds_first`.
-/

namespace LiquidTokens

open Text (Span byteLength dropBytes? slice slice?)

/-- The number of groups that are opened in a written pattern. -/
def Pattern.openedGroups (written : List Char) : Nat :=
  ((Reader.readFrom .start written).map Reader.State.groups).getD 0

/-- A computation in two steps succeeds exactly if both steps do. -/
theorem bind_eq_ok_iff {ε α β : Type} {first : Except ε α} {next : α → Except ε β} {b : β} :
    (do let a ← first; next a) = .ok b ↔ ∃ a, first = .ok a ∧ next a = .ok b := by
  cases first with
  | error e => exact ⟨nofun, nofun⟩
  | ok a => exact ⟨fun second => ⟨a, rfl, second⟩, by rintro ⟨_, ⟨⟩, second⟩; exact second⟩

namespace RuleTable

open Pattern Pattern.Reader

variable {R : Type}

/-! ### Patterns tried one by one -/

/-- The place that a written pattern, read alone, finds from the start of a text. -/
def ownPlace? (written : String) (text : List Char) : Option Place :=
  (read? written.toList).bind (·.find? text)

/-- The hit of a rule whose own pattern has found a place, if the match is not empty. -/
def ownHit? (offset : Nat) (rest : List Char) (rule : R) (reached : Place) : Option (Hit R) :=
  if reached.offset = 0 then none
  else some {
    rule
    whole := foundAt offset rest ⟨0, reached.offset⟩
    named := reached.captures.filterMap fun capture =>
      capture.name.map (·, foundAt offset rest capture.span) }

/-- The first rule, in the order of the list, whose own pattern matches a text from its start, and
the place that it finds. -/
def firstPlace? (rules : List (R × String)) (text : List Char) : Option (R × Place) :=
  rules.findSome? fun (rule, written) => (ownPlace? written text).map (rule, ·)

/-- What is found at a position of a text by trying the patterns one by one. The first one that
matches decides, even if its match is empty. -/
def firstHit? (rules : List (R × String)) (text : List Char) (offset : Nat) : Option (Hit R) :=
  (dropBytes? text offset).bind fun rest =>
    (firstPlace? rules rest).bind fun (rule, reached) => ownHit? offset rest rule reached

/-- In every pattern but the last, the group opened last can take part in a match. -/
def Numbered (rules : List (R × String)) : Prop :=
  ∀ entry ∈ rules.dropLast, ∀ pattern, read? entry.2.toList = some pattern →
    pattern.lastGroup = openedGroups entry.2.toList

instance : DecidablePred (Numbered (R := R)) := fun rules =>
  decidable_of_iff (∀ entry ∈ rules.dropLast, ∀ pattern ∈ (read? entry.2.toList).toList,
      pattern.lastGroup = openedGroups entry.2.toList)
    (by simp only [Numbered, Option.mem_toList])

/-! ### The joined pattern -/

/-- A rule with its written pattern and what reading it alone gives. -/
structure Part (R : Type) where
  rule : R
  written : String
  groups : Nat
  names : List String
  pattern : Pattern
  reads : Written written.toList groups names pattern

namespace Part

/-- The rule and its written pattern. -/
def entry (part : Part R) : R × String :=
  (part.rule, part.written)

/-- The rule and its pattern. -/
def ruled (part : Part R) : R × Pattern :=
  (part.rule, part.pattern)

/-- The written pattern in parentheses. -/
def wrapped (part : Part R) : List Char :=
  '(' :: part.written.toList ++ [')']

theorem read?_written (part : Part R) : read? part.written.toList = some part.pattern := by
  obtain ⟨state, read, finished, -, -⟩ := part.reads.read
  rw [read?, read, Option.bind_some, finished]

theorem openedGroups_written (part : Part R) :
    openedGroups part.written.toList = part.groups := by
  obtain ⟨state, read, -, groups, -⟩ := part.reads.read
  rw [openedGroups, read, Option.map_some, Option.getD_some, groups]

end Part

/-- The groups of the joined pattern, the first under the number `next`; each pattern takes a
number for its outer group and one for every group that is opened in it. -/
def outerGroups (next : Nat) : List (Part R) → List Pattern
  | [] => []
  | part :: parts =>
      group next none (part.pattern.raise next) :: outerGroups (next + 1 + part.groups) parts

section Joined

/-- The written patterns between bars, up to the parenthesis that ends them. -/
def alternatives (parts : List (Part R)) : List Char :=
  (List.intersperse ['|'] (parts.map Part.wrapped)).flatten ++ [')']

theorem alternatives_singleton (part : Part R) :
    alternatives [part] = part.wrapped ++ [')'] := by
  simp [alternatives]

theorem alternatives_cons (part more : Part R) (parts : List (Part R)) :
    alternatives (part :: more :: parts)
      = part.wrapped ++ ['|'] ++ alternatives (more :: parts) := by
  simp [alternatives]

theorem head?_alternatives_ne (part : Part R) (parts : List (Part R)) :
    (alternatives (part :: parts)).head? ≠ some '?' := by
  cases parts with
  | nil => rw [alternatives_singleton]; exact nofun
  | cons more parts => rw [alternatives_cons]; exact nofun

theorem alternatives_ne_nil (part : Part R) (parts : List (Part R)) :
    alternatives (part :: parts) ≠ [] := by
  simp [alternatives]

/-- No pattern gives a name that is given already or by another one. -/
def Fresh (given : List String) : List (Part R) → Prop
  | [] => True
  | part :: parts => (∀ name ∈ part.names, name ∉ given) ∧ Fresh (part.names ++ given) parts

/-- The pattern in front of others, as an alternative that is complete. -/
theorem reads_wrapped_bar {state : State} {branches : List Pattern} {groups : Nat}
    {names : List String} (part : Part R)
    (apart : ∀ name ∈ part.names, name ∉ names ++ state.names) :
    Reads (state.inside branches groups names) (part.wrapped ++ ['|'])
      (state.inside (group (state.groups + groups + 1) none
          (part.pattern.raise (state.groups + groups + 1)) :: branches)
        (groups + (part.groups + 1)) (part.names ++ names)) :=
  Reads.bar (reads_written rfl part.reads apart)

/-- Alternatives that can be read give no name twice. -/
theorem fresh_of_fits {state : State} {branches : List Pattern} {groups : Nat}
    {names : List String} (part : Part R) (parts : List (Part R))
    (fits : (readFrom (state.inside branches groups names) (alternatives (part :: parts))).isSome) :
    Fresh (names ++ state.names) (part :: parts) := by
  induction parts generalizing part branches groups names with
  | nil =>
      rw [alternatives_singleton] at fits
      exact ⟨apart_of_written rfl part.reads (isSome_of_append fits), trivial⟩
  | cons more parts ih =>
      rw [alternatives_cons] at fits
      have apart : ∀ name ∈ part.names, name ∉ names ++ state.names :=
        apart_of_written rfl part.reads (isSome_of_append (isSome_of_append fits))
      rw [readFrom_append_of_reads (reads_wrapped_bar part apart)
        (head?_alternatives_ne more parts) (alternatives_ne_nil more parts)] at fits
      exact ⟨apart, List.append_assoc .. ▸ ih more fits⟩

/-- Reading the alternatives in parentheses adds the choice between their groups. -/
theorem reads_alternatives {state : State} {branches : List Pattern} {groups : Nat}
    {names : List String} (part : Part R) (parts : List (Part R))
    (fresh : Fresh (names ++ state.names) (part :: parts)) :
    ∃ count given, Reads (state.inside branches groups names) (alternatives (part :: parts))
      (state.grow [choice (branches.reverse
        ++ outerGroups (state.groups + groups + 1) (part :: parts))] count given) := by
  induction parts generalizing part branches groups names with
  | nil =>
      rw [alternatives_singleton]
      have apart : ∀ name ∈ part.names, name ∉ (state.inside branches groups names).names :=
        fresh.1
      have closed := Reads.parenthesis (reads_written rfl part.reads apart)
      rw [List.reverse_cons] at closed
      exact ⟨groups + (part.groups + 1), part.names ++ names, closed⟩
  | cons more parts ih =>
      rw [alternatives_cons]
      obtain ⟨apart, fresh⟩ := fresh
      obtain ⟨count, given, rest⟩ := ih more (List.append_assoc .. ▸ fresh)
      refine ⟨count, given, ((reads_wrapped_bar part apart).append rest
        (head?_alternatives_ne more parts)).trans ?_⟩
      have number : state.groups + (groups + (part.groups + 1)) + 1
          = state.groups + groups + 1 + 1 + part.groups := by omega
      rw [List.reverse_cons, List.append_assoc, number]
      rfl

theorem joined_written (part : Part R) (parts : List (Part R)) :
    joined ((part :: parts).map Part.written)
      = "\\A".toList ++ "(?:".toList ++ alternatives (part :: parts) := by
  rw [alternatives, ← List.append_assoc, joined, List.map_map]
  rfl

/-- What the joined pattern begins with. -/
theorem reads_joined_start :
    Reads .start ("\\A".toList ++ "(?:".toList)
      ((State.start.grow [anchor .textStart] 0 []).inside [] 0 []) := rfl

/-- The written patterns, each in parentheses, are read as a choice between their groups at the
start of a text, provided that none of them gives a name that another one gives. -/
theorem read?_joined {part : Part R} {parts : List (Part R)} {pattern : Pattern} :
    read? (joined ((part :: parts).map Part.written)) = some pattern
      ↔ Fresh [] (part :: parts)
        ∧ pattern = choice [sequence [anchor .textStart, choice (outerGroups 1 (part :: parts))]] := by
  have other := head?_alternatives_ne part parts
  have reads (fresh : Fresh [] (part :: parts)) :
      read? (joined ((part :: parts).map Part.written))
        = some (choice [sequence [anchor .textStart, choice (outerGroups 1 (part :: parts))]]) := by
    have given : Fresh ([] ++ (State.start.grow [anchor .textStart] 0 []).names) (part :: parts) :=
      fresh
    obtain ⟨count, given, rest⟩ := reads_alternatives part parts given
    rw [joined_written, read?_of_reads (reads_joined_start.append rest other), grow_grow,
      finish?_grow]
    rfl
  constructor
  · intro read
    obtain ⟨state, reached, -⟩ := Option.bind_eq_some_iff.1 read
    have fits := Option.isSome_of_eq_some reached
    rw [joined_written, readFrom_append_of_reads reads_joined_start other
      (alternatives_ne_nil part parts)] at fits
    have fresh : Fresh [] (part :: parts) := fresh_of_fits part parts fits
    exact ⟨fresh, Option.some.inj (read.symm.trans (reads fresh))⟩
  · rintro ⟨fresh, rfl⟩
    exact reads fresh

end Joined

/-! ### Finding a group of the joined pattern -/

section Groups

/-- Groups are no alternatives that could be joined any further. -/
theorem choice_outerGroups (next : Nat) (part : Part R) (parts : List (Part R)) :
    choice (outerGroups next (part :: parts)) = ofBranches (outerGroups next (part :: parts)) := by
  have alone (next : Nat) (parts : List (Part R)) :
      (outerGroups next parts).flatMap branches = outerGroups next parts := by
    induction parts generalizing next with
    | nil => rfl
    | cons part parts ih => exact congrArg _ (ih _)
  have unshared : sharedStart (outerGroups next (part :: parts)) = [] := by
    cases parts with
    | nil => rfl
    | cons more parts => rfl
  have unjoined : joinedSet? (outerGroups next (part :: parts)) = none := rfl
  simp only [choice, alone, unshared, join, unjoined]

/-- One of some branches that are tried in order. -/
theorem run_ofBranches {α : Type} (patterns : List Pattern) (place : Place)
    (next : Place → Option α) :
    (ofBranches patterns).run place next
      = patterns.findSome? fun branch => branch.run place next := by
  induction patterns with
  | nil => exact run_fail place next
  | cons branch patterns ih =>
      cases patterns with
      | nil => simp [ofBranches]
      | cons second patterns =>
          have first : ofBranches (branch :: second :: patterns)
              = alt branch (ofBranches (second :: patterns)) := rfl
          rw [first, run_alt, ih, List.findSome?_cons (a := branch)]
          cases branch.run place next <;> rfl

/-- What the joined pattern finds is what the first of its groups finds that finds anything. -/
theorem find?_joined (part : Part R) (parts : List (Part R)) (text : List Char) :
    (choice [sequence [anchor .textStart, choice (outerGroups 1 (part :: parts))]]).find? text
      = (outerGroups 1 (part :: parts)).findSome? (·.find? text) := by
  have anchored : choice [sequence [anchor .textStart, choice (outerGroups 1 (part :: parts))]]
      = seq (anchor .textStart) (ofBranches (outerGroups 1 (part :: parts))) := by
    rw [choice_outerGroups]
    cases parts with
    | nil => exact choice_seq _ _
    | cons more parts => exact choice_seq _ _
  have start : Anchor.textStart.holds (Place.start text) = true := rfl
  rw [anchored, find?, run_seq, run, if_pos start, run_ofBranches]
  rfl

/-- The place that the joined pattern finds for the place that a pattern finds alone. -/
def outerPlace (index : Nat) (own : Place) : Place :=
  (own.raise index []).close index none 0

theorem find?_group (index : Nat) (pattern : Pattern) (text : List Char) :
    (group index none (pattern.raise index)).find? text
      = (pattern.find? text).map (outerPlace index) := by
  rw [find?, run_group]
  exact pattern.run_raise index [] (fun reached => rfl) (Place.start text)

theorem group?_outerPlace (index : Nat) (own : Place) :
    ((outerPlace index own).group? index).isSome = true := by
  simp [outerPlace, Place.group?, Place.close]

/-- All that is remembered there has the number of the group or a greater one. -/
theorem group?_outerPlace_of_lt {number index : Nat} (before : number < index) (own : Place) :
    ((outerPlace index own).group? number).isSome = false := by
  simp only [outerPlace, Place.group?, Place.close, Place.raise, List.append_nil]
  rw [Option.isSome_eq_false_iff, Option.isNone_iff_eq_none, List.find?_eq_none]
  simp only [List.forall_mem_cons, List.forall_mem_map, Capture.raise, beq_iff_eq]
  exact ⟨by omega, fun capture _ => by omega⟩

variable {text : List Char} {rule : R} {own : Place}

/-- The first rule whose own pattern finds a place. -/
def firstOf? (parts : List (Part R)) (text : List Char) : Option (R × Place) :=
  parts.findSome? fun part => (part.pattern.find? text).map (part.rule, ·)

theorem firstPlace?_entries (parts : List (Part R)) (text : List Char) :
    firstPlace? (parts.map Part.entry) text = firstOf? parts text := by
  rw [firstPlace?, List.findSome?_map, firstOf?]
  congr 1
  funext part
  simp only [Function.comp_apply, Part.entry, ownPlace?, part.read?_written, Option.bind_some]

theorem find?_outerGroups_of_none {parts : List (Part R)} (next : Nat)
    (none : firstOf? parts text = none) :
    (outerGroups next parts).findSome? (·.find? text) = Option.none := by
  induction parts generalizing next with
  | nil => rfl
  | cons part parts ih =>
      rw [firstOf?, List.findSome?_cons] at none
      cases own : part.pattern.find? text with
      | some place =>
          rw [own] at none
          cases none
      | none =>
          rw [own] at none
          rw [outerGroups, List.findSome?_cons, find?_group, own]
          exact ih _ none

/-- The number that a pattern takes in the table is that of its group if no pattern before it
ends with a group that cannot take part in a match. -/
theorem find?_outerGroups_of_some {parts : List (Part R)} (next : Nat)
    (some : firstOf? parts text = some (rule, own)) :
    ∃ index, next ≤ index
      ∧ (outerGroups next parts).findSome? (·.find? text) = Option.some (outerPlace index own)
      ∧ ((∀ part ∈ parts.dropLast, part.pattern.lastGroup = part.groups) →
          (number next (parts.map Part.ruled)).find?
              (fun (number, _) => ((outerPlace index own).group? number).isSome)
            = Option.some (index, rule)) := by
  induction parts generalizing next with
  | nil => cases some
  | cons part parts ih =>
      rw [firstOf?, List.findSome?_cons] at some
      cases found : part.pattern.find? text with
      | some place =>
          rw [found] at some
          cases some
          refine ⟨next, Nat.le_refl next, ?_, fun _ => ?_⟩
          · rw [outerGroups, List.findSome?_cons, find?_group, found, Option.map_some]
          · rw [List.map_cons, Part.ruled, number, List.find?_cons_of_pos]
            exact group?_outerPlace next own
      | none =>
          rw [found] at some
          obtain ⟨index, after, reached, told⟩ := ih (next + 1 + part.groups) some
          refine ⟨index, by omega, ?_, fun numbered => ?_⟩
          · rw [outerGroups, List.findSome?_cons, find?_group, found]
            exact reached
          · have more : parts ≠ [] := by
              rintro rfl
              cases some
            rw [List.dropLast_cons_of_ne_nil more] at numbered
            obtain ⟨last, numbered⟩ := List.forall_mem_cons.1 numbered
            rw [List.map_cons, Part.ruled, number, List.find?_cons_of_neg, last]
            · exact told numbered
            · simp only [Bool.not_eq_true]
              exact group?_outerPlace_of_lt (by omega) own

end Groups

/-! ### The table -/

section Table

variable {label : R → String}

/-- The rules of a table can be read one by one. -/
theorem exists_parts {rules : List (R × String)} {patterns : List (R × Pattern)}
    (read : rules.mapM (compileAlone label) = .ok patterns) :
    ∃ parts : List (Part R), rules = parts.map Part.entry ∧ patterns = parts.map Part.ruled := by
  induction rules generalizing patterns with
  | nil =>
      cases read
      exact ⟨[], rfl, rfl⟩
  | cons entry rules ih =>
      obtain ⟨rule, written⟩ := entry
      rw [List.mapM_cons] at read
      obtain ⟨first, alone, read⟩ := bind_eq_ok_iff.1 read
      obtain ⟨others, rest, same⟩ := bind_eq_ok_iff.1 read
      cases same
      obtain ⟨parts, rfl, rfl⟩ := ih rest
      cases one : compile? written.toList with
      | none =>
          simp only [compileAlone, one] at alone
          cases alone
      | some pattern =>
          simp only [compileAlone, one] at alone
          cases alone
          obtain ⟨groups, names, reads⟩ := exists_written (compile?_eq_some_iff.1 one).1
          exact ⟨⟨rule, written, groups, names, pattern, reads⟩ :: parts, rfl, rfl⟩

/-- A table that is made is made of parts, and its pattern finds what the groups of the parts
find. -/
theorem parts_of_compile {rules : List (R × String)} {table : RuleTable R}
    (made : compile label rules = .ok table) :
    ∃ parts : List (Part R), rules = parts.map Part.entry
      ∧ table.rules = number 1 (parts.map Part.ruled)
      ∧ (parts ≠ [] → ∀ text, table.pattern.find? text
          = (outerGroups 1 parts).findSome? (·.find? text)) := by
  obtain ⟨patterns, read, made⟩ := bind_eq_ok_iff.1 made
  obtain ⟨parts, rfl, rfl⟩ := exists_parts read
  have written : (parts.map Part.entry).map Prod.snd = parts.map Part.written := by
    rw [List.map_map]
    rfl
  rw [written] at made
  cases whole : compile? (joined (parts.map Part.written)) with
  | none =>
      simp only [whole] at made
      cases made
  | some pattern =>
      simp only [whole] at made
      cases made
      refine ⟨parts, rfl, rfl, fun nonempty text => ?_⟩
      obtain ⟨part, parts, rfl⟩ := List.exists_cons_of_ne_nil nonempty
      rw [(read?_joined.1 (compile?_eq_some_iff.1 whole).1).2, find?_joined]

/-- The hit moved by some bytes. -/
def Found.shift (base : Nat) (found : Found) : Found :=
  { found with span := found.span.shift base }

/-- The hit moved by some bytes. -/
def Hit.shift (base : Nat) (hit : Hit R) : Hit R where
  rule := hit.rule
  whole := hit.whole.shift base
  named := hit.named.map (Prod.map id (Found.shift base))

theorem foundAt_shift (base : Nat) (rest : List Char) (span : Span) :
    foundAt base rest span = (foundAt 0 rest span).shift base := by
  simp [foundAt, Found.shift, Span.shift]

theorem hitOf?_shift (table : RuleTable R) (base : Nat) (rest : List Char) (reached : Place) :
    table.hitOf? base rest reached = (table.hitOf? 0 rest reached).map (Hit.shift base) := by
  unfold hitOf?
  split
  · rfl
  · rw [Option.map_map]
    congr 1
    funext entry
    simp only [Function.comp_def, Hit.shift, List.map_filterMap, Option.map_map, Prod.map, id,
      ← foundAt_shift]

/-- What is found at a position is what is found at the start of the text from there on. -/
theorem hitAt?_eq_shift (table : RuleTable R) (text : List Char) (offset : Nat) :
    table.hitAt? text offset
      = (dropBytes? text offset).bind fun rest => (table.hitAt? rest 0).map (Hit.shift offset) := by
  simp only [hitAt?, Text.dropBytes?_zero, Option.bind_some, Option.map_bind]
  congr 1
  funext rest
  congr 1
  funext reached
  exact hitOf?_shift table offset rest reached

/-- A hit covers parts of a text, and what it says of them are their characters. -/
structure Hit.Fits (text : List Char) (hit : Hit R) : Prop where
  whole : slice? text hit.whole.span = some hit.whole.text
  named : ∀ entry ∈ hit.named, slice? text entry.2.span = some entry.2.text

theorem slice?_foundAt {text rest : List Char} {offset : Nat}
    (dropped : dropBytes? text offset = some rest) {span : Span}
    (fits : (slice? rest span).isSome) :
    slice? text (foundAt offset rest span).span = some (foundAt offset rest span).text := by
  obtain ⟨part, within⟩ := Option.isSome_iff_exists.1 fits
  obtain ⟨before, rfl, rfl⟩ := Text.dropBytes?_eq_some_iff.1 dropped
  have read : (foundAt (byteLength before) rest span).text = part := by
    rw [foundAt, slice, within, Option.getD_some]
  obtain ⟨front, back, rfl, rfl⟩ := Text.slice?_eq_some_iff.1 within
  rw [read]
  apply Text.slice?_eq_some_iff.2
  refine ⟨before ++ front, back, by simp only [List.append_assoc], ?_⟩
  simp [foundAt, Span.shift, Nat.add_assoc]

theorem Hit.fits_of_hitAt? {table : RuleTable R} {text : List Char} {offset : Nat} {hit : Hit R}
    (found : table.hitAt? text offset = some hit) : hit.Fits text := by
  obtain ⟨rest, dropped, found⟩ := Option.bind_eq_some_iff.1 found
  obtain ⟨reached, matched, found⟩ := Option.bind_eq_some_iff.1 found
  have inside := inside_of_find? matched
  unfold hitOf? at found
  split at found
  · cases found
  · obtain ⟨entry, -, rfl⟩ := Option.map_eq_some_iff.1 found
    constructor
    · apply slice?_foundAt dropped
      obtain ⟨read, split, offset⟩ := inside.split
      apply Option.isSome_of_eq_some
      exact Text.slice?_eq_some_iff.2 ⟨[], reached.rest, split, by simp [offset]⟩
    · intro entry member
      obtain ⟨capture, remembered, titled⟩ := List.mem_filterMap.1 member
      obtain ⟨name, -, rfl⟩ := Option.map_eq_some_iff.1 titled
      exact slice?_foundAt dropped (inside.fits capture remembered)

/-- A group of the joined pattern makes the hit that its pattern makes alone, for the rule that
the number of a group tells. -/
theorem hitOf?_outerPlace (table : RuleTable R) (offset : Nat) (rest : List Char) (index : Nat)
    (own : Place) :
    table.hitOf? offset rest (outerPlace index own)
      = (table.rules.find? fun (number, _) => ((outerPlace index own).group? number).isSome).bind
          fun (_, rule) => ownHit? offset rest rule own := by
  have named : (outerPlace index own).captures.filterMap (fun capture =>
        capture.name.map (·, foundAt offset rest capture.span))
      = own.captures.filterMap fun capture =>
          capture.name.map (·, foundAt offset rest capture.span) := by
    simp only [outerPlace, Place.close, Place.raise, List.append_nil]
    rw [List.filterMap_cons_none rfl, List.filterMap_map]
    rfl
  have reached : (outerPlace index own).offset = own.offset := rfl
  simp only [hitOf?, ownHit?, named, reached]
  split
  · simp
  · rw [Option.map_eq_bind]
    rfl

/-- No pattern reads anything at the end of a text. -/
theorem hitAt?_of_end {table : RuleTable R} {text : List Char} {offset : Nat}
    (ended : dropBytes? text offset = some []) : table.hitAt? text offset = none := by
  rw [hitAt?, ended, Option.bind_some, Option.bind_eq_none_iff]
  intro reached matched
  obtain ⟨read, split, offset⟩ := (inside_of_find? matched).split
  have nothing : read = [] := (List.append_eq_nil_iff.1 split.symm).1
  rw [hitOf?, if_pos (by rw [offset, nothing, Text.byteLength_nil])]

theorem numbered_entries {parts : List (Part R)} (numbered : Numbered (parts.map Part.entry)) :
    ∀ part ∈ parts.dropLast, part.pattern.lastGroup = part.groups := by
  intro part member
  have entry : part.entry ∈ (parts.map Part.entry).dropLast := by
    rw [← List.map_dropLast]
    exact List.mem_map_of_mem member
  rw [numbered part.entry entry part.pattern part.read?_written]
  exact part.openedGroups_written

section Compiled

variable {rules : List (R × String)} {table : RuleTable R}
  (made : compile label rules = .ok table) (rest : List Char)
include made

theorem hit_of_firstPlace?_none (none : firstPlace? rules rest = none) (offset : Nat) :
    (table.pattern.find? rest).bind (table.hitOf? offset rest) = Option.none := by
  obtain ⟨parts, rfl, ruled, finds⟩ := parts_of_compile made
  rw [firstPlace?_entries] at none
  cases parts with
  | nil =>
      have empty : table.rules = [] := ruled
      rw [Option.bind_eq_none_iff]
      intro reached _
      simp [hitOf?, empty]
  | cons part parts =>
      rw [finds (by simp), find?_outerGroups_of_none 1 none, Option.bind_none]

/-- Where some pattern matches, the table finds what the first that does finds alone, if the
number of its group tells a rule. -/
theorem hit_of_firstPlace?_some {rule : R} {own : Place}
    (first : firstPlace? rules rest = some (rule, own)) (offset : Nat) :
    ∃ told : Option R, (Numbered rules → told = some rule)
      ∧ (table.pattern.find? rest).bind (table.hitOf? offset rest)
        = told.bind fun rule => ownHit? offset rest rule own := by
  obtain ⟨parts, rfl, ruled, finds⟩ := parts_of_compile made
  rw [firstPlace?_entries] at first
  have nonempty : parts ≠ [] := by
    rintro rfl
    cases first
  obtain ⟨index, -, found, told⟩ := find?_outerGroups_of_some 1 first
  refine ⟨(table.rules.find? fun (number, _) =>
    ((outerPlace index own).group? number).isSome).map Prod.snd, fun numbered => ?_, ?_⟩
  · rw [ruled, told (numbered_entries numbered), Option.map_some]
  · rw [finds nonempty, found, Option.bind_some, hitOf?_outerPlace, Option.bind_map]
    rfl

theorem hitAt?_of_numbered (numbered : Numbered rules) (text : List Char) (offset : Nat) :
    table.hitAt? text offset = firstHit? rules text offset := by
  rw [hitAt?, firstHit?]
  congr 1
  funext rest
  cases first : firstPlace? rules rest with
  | none => exact hit_of_firstPlace?_none made rest first offset
  | some place =>
      obtain ⟨told, same, hit⟩ := hit_of_firstPlace?_some made rest first offset
      rw [hit, same numbered]
      rfl

/-- A table finds what its patterns find one by one. Trying the patterns in order, each alone,
leads to the same hit, provided that the numbers of the groups tell the rules (`Numbered`). Even
where they do not, a hit is the one of the first pattern that matches, but for the rule. What is
found depends only on the text from the position on, nothing is found off its characters or at
its end, and every hit covers whole characters. -/
theorem hitAt?_finds_first :
    (Numbered rules → ∀ text offset, table.hitAt? text offset = firstHit? rules text offset)
      ∧ ∀ text offset,
        (∀ hit, table.hitAt? text offset = some hit → hit.Fits text
          ∧ ∃ own, firstHit? rules text offset = some own
            ∧ hit.whole = own.whole ∧ hit.named = own.named)
        ∧ table.hitAt? text offset
          = (dropBytes? text offset).bind (fun rest => (table.hitAt? rest 0).map (Hit.shift offset))
        ∧ (dropBytes? text offset = none ∨ dropBytes? text offset = some [] →
          table.hitAt? text offset = none) := by
  refine ⟨hitAt?_of_numbered made, fun text offset => ⟨fun hit found =>
    ⟨Hit.fits_of_hitAt? found, ?_⟩, hitAt?_eq_shift table text offset, ?_⟩⟩
  · obtain ⟨rest, dropped, found⟩ := Option.bind_eq_some_iff.1 found
    rw [firstHit?, dropped, Option.bind_some]
    cases first : firstPlace? rules rest with
    | none =>
        rw [hit_of_firstPlace?_none made rest first offset] at found
        cases found
    | some place =>
        obtain ⟨told, -, hit⟩ := hit_of_firstPlace?_some made rest first offset
        rw [hit] at found
        obtain ⟨rule, -, found⟩ := Option.bind_eq_some_iff.1 found
        unfold ownHit? at found
        split at found
        · cases found
        · next nonempty =>
            cases found
            exact ⟨_, if_neg nonempty, rfl, rfl⟩
  · rintro (off | ended)
    · exact hitAt?_of_not_boundary off
    · exact hitAt?_of_end ended

end Compiled

/-- A pattern with a group that is read on some ways only, before one with a choice and a name; the
second is found behind a character of two bytes, and its dot reads a line break. -/
theorem hitAt?_finds_second :
    ∃ table, compile id [("word", "x(y)?z"), ("tail", "b|(?P<end>c.)")] = .ok table
      ∧ Numbered [("word", "x(y)?z"), ("tail", "b|(?P<end>c.)")]
      ∧ table.hitAt? "äc\n".toList 2
        = some ⟨"tail", ⟨⟨2, 4⟩, "c\n".toList⟩, [("end", ⟨⟨2, 4⟩, "c\n".toList⟩)]⟩ := by
  have accepted : ∃ table, compile id [("word", "x(y)?z"), ("tail", "b|(?P<end>c.)")] = .ok table :=
    ⟨_, rfl⟩
  have numbered : Numbered [("word", "x(y)?z"), ("tail", "b|(?P<end>c.)")] := by decide +kernel
  obtain ⟨table, made⟩ := accepted
  refine ⟨table, made, numbered, ?_⟩
  rw [(hitAt?_finds_first made).1 numbered]
  decide +kernel

/-- Behind a pattern whose last group is never read a rule is lost, although its own pattern
matches. -/
theorem hitAt?_loses_rule :
    ∃ table, compile id [("A", "(a){0}b"), ("B", "c")] = .ok table
      ∧ ¬ Numbered [("A", "(a){0}b"), ("B", "c")]
      ∧ firstHit? [("A", "(a){0}b"), ("B", "c")] "c".toList 0
        = some ⟨"B", ⟨⟨0, 1⟩, "c".toList⟩, []⟩
      ∧ table.hitAt? "c".toList 0 = none := by
  refine ⟨_, rfl, ?_, ?_, ?_⟩
  · decide +kernel
  · decide +kernel
  · decide +kernel

end Table

end RuleTable

end LiquidTokens
