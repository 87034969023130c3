import LiquidTokens.Proofs.Pattern.Nested
import LiquidTokens.Proofs.RuleTable.FirstMatch

/-!
Which lists of rules make a table, and which rule is blamed if they do not.

The joined pattern is pasted together from texts, but what can be read alone can be read between
the parentheses and bars as well: it opens and closes its own groups only, and nothing around it is
taken for a part of it. Two things are lost when the patterns are joined. A name may be given only
once in a pattern, so no two rules may give the same one (`NamesApart`). And the joined pattern has
levels of its own around every rule, which count towards the greatest nesting (`Shallow`); a pattern
that is accepted alone, though barely, is refused in a table.

Main statement: `compile_verdict`.
-/

namespace LiquidTokens

/-- The names of the groups of a written pattern, the latest first. -/
def Pattern.groupNames (written : List Char) : List String :=
  ((Reader.readFrom .start written).map Reader.State.names).getD []

namespace RuleTable

open Pattern Pattern.Reader

variable {R : Type}

/-- The pattern of a rule is accepted alone. -/
def CompilesAlone (entry : R × String) : Prop :=
  (compile? entry.2.toList).isSome

/-- No two patterns give a group the same name. -/
def NamesApart (rules : List (R × String)) : Prop :=
  rules.Pairwise fun entry other =>
    ∀ name ∈ groupNames other.2.toList, name ∉ groupNames entry.2.toList

/-- The levels around each of some joined patterns: its group, the parentheses around all of them,
the sequence that they make with the anchor, and the choice between several. -/
def levelsAround (count : Nat) : Nat :=
  if count ≤ 1 then 3 else 4

/-- Every pattern leaves room for the levels around it. -/
def Shallow (rules : List (R × String)) : Prop :=
  ∀ entry ∈ rules, nesting entry.2.toList + levelsAround rules.length ≤ maxNesting

/-- The first rule whose pattern is refused alone. -/
def FirstRefused (rules : List (R × String)) (entry : R × String) : Prop :=
  ∃ before after, rules = before ++ entry :: after
    ∧ (∀ earlier ∈ before, CompilesAlone earlier) ∧ ¬ CompilesAlone entry

instance : DecidablePred (CompilesAlone (R := R)) := fun entry =>
  inferInstanceAs (Decidable ((compile? entry.2.toList).isSome = true))

instance : DecidablePred (NamesApart (R := R)) := fun rules =>
  inferInstanceAs (Decidable (rules.Pairwise _))

instance : DecidablePred (Shallow (R := R)) := fun rules =>
  inferInstanceAs (Decidable (∀ entry ∈ rules, _ ≤ maxNesting))

/-! ### The levels of the joined pattern -/

section Levels

variable {state : State} {branches : List Pattern} {groups : Nat} {names : List String}

/-- The levels of a pattern in parentheses. -/
def Part.depth (part : Part R) : Nat :=
  nesting part.written.toList + 1

/-- A pattern in parentheses is the only item of its alternative, and the text goes on behind it. -/
theorem nestingFrom_wrapped_append (part : Part R)
    (apart : ∀ name ∈ part.names, name ∉ names ++ state.names) (done : List Nat)
    (outer : List Depths) {text : List Char} (other : text.head? ≠ some '?') :
    ∃ items count, nestingFrom (state.inside branches groups names) ⟨⟨done, []⟩, outer⟩
        (part.wrapped ++ text)
      = nestingFrom ((state.inside branches groups names).grow items count part.names)
        ⟨⟨done, [part.depth]⟩, outer⟩ text := by
  have read : Reads (state.inside branches groups names) part.wrapped _ :=
    reads_written rfl part.reads apart
  have levels : nestingFrom (state.inside branches groups names) ⟨⟨done, []⟩, outer⟩ part.wrapped
      = ⟨⟨done, [part.depth]⟩, outer⟩ := nestingFrom_written rfl part.reads apart
  exact ⟨_, _, by rw [nestingFrom_append_of_reads read other, levels]⟩

/-- Each alternative has the levels of its pattern in parentheses. -/
theorem nestingFrom_alternatives (part : Part R) (parts : List (Part R))
    (fresh : Fresh (names ++ state.names) (part :: parts)) (done : List Nat) (around : Depths)
    (outer : List Depths) :
    nestingFrom (state.inside branches groups names) ⟨⟨done, []⟩, around :: outer⟩
        (alternatives (part :: parts))
      = ⟨around.push (together (((part :: parts).map Part.depth).reverse ++ done) + 1), outer⟩ := by
  induction parts generalizing part branches groups names done with
  | nil =>
      obtain ⟨items, count, closed⟩ := nestingFrom_wrapped_append part fresh.1 done
        (around :: outer) (by simp : [')'].head? ≠ some '?')
      rw [alternatives_singleton, closed]
      simp [nestingFrom, step, stepItem, State.closeGroup?, State.grow, State.inside, Nesting.step,
        Nesting.stepItem, Nesting.closeGroup, Depths.total, Depths.bar]
  | cons more parts ih =>
      obtain ⟨apart, fresh⟩ := fresh
      obtain ⟨items, count, barred⟩ := nestingFrom_wrapped_append part apart done
        (around :: outer) (by simp : ['|'].head? ≠ some '?')
      rw [alternatives_cons, nestingFrom_append_of_reads (reads_wrapped_bar part apart)
        (head?_alternatives_ne more parts), barred]
      have next : nestingFrom ((state.inside branches groups names).grow items count part.names)
          ⟨⟨done, [part.depth]⟩, around :: outer⟩ ['|']
            = ⟨⟨part.depth :: done, []⟩, around :: outer⟩ := by
        simp [nestingFrom, step, stepItem, State.grow, State.inside, Nesting.step,
          Nesting.stepItem, Nesting.bar, Depths.bar]
      rw [next, ih more (List.append_assoc .. ▸ fresh)]
      simp

theorem nesting_joined_parts (part : Part R) (parts : List (Part R))
    (fresh : Fresh [] (part :: parts)) :
    nesting (joined ((part :: parts).map Part.written))
      = together ((part :: parts).map Part.depth).reverse + 2 := by
  have start : nestingFrom .start .start ("\\A".toList ++ "(?:".toList)
      = ⟨⟨[], []⟩, [⟨[], [0]⟩]⟩ := by decide
  have given : Fresh ([] ++ (State.start.grow [anchor .textStart] 0 []).names) (part :: parts) :=
    fresh
  rw [nesting, joined_written,
    nestingFrom_append_of_reads reads_joined_start (head?_alternatives_ne part parts), start,
    nestingFrom_alternatives part parts given, List.append_nil]
  simp [Depths.push, Depths.total, Depths.bar, together]

end Levels

/-! ### The parts of a table -/

section Parts

variable {label : R → String}

theorem groupNames_written (part : Part R) : groupNames part.written.toList = part.names := by
  obtain ⟨state, read, -, -, names⟩ := part.reads.read
  rw [groupNames, read, Option.map_some, Option.getD_some, names]

theorem fresh_iff {given : List String} {parts : List (Part R)} :
    Fresh given parts ↔ (∀ part ∈ parts, ∀ name ∈ part.names, name ∉ given)
      ∧ NamesApart (parts.map Part.entry) := by
  induction parts generalizing given with
  | nil => simp [Fresh, NamesApart]
  | cons part parts ih =>
      have apart : NamesApart ((part :: parts).map Part.entry)
          ↔ (∀ other ∈ parts, ∀ name ∈ other.names, name ∉ part.names)
            ∧ NamesApart (parts.map Part.entry) := by
        simp only [NamesApart, List.map_cons, List.pairwise_cons, List.forall_mem_map, Part.entry,
          groupNames_written]
      rw [Fresh, ih, apart, List.forall_mem_cons]
      simp only [List.mem_append, not_or, forall_and]
      tauto

/-- Rules that are accepted one by one are the parts of a table. -/
theorem exists_parts_of_alone {rules : List (R × String)}
    (alone : ∀ entry ∈ rules, CompilesAlone entry) :
    ∃ parts : List (Part R), rules = parts.map Part.entry
      ∧ ∀ part ∈ parts, compile? part.written.toList = some part.pattern := by
  induction rules with
  | nil => exact ⟨[], rfl, nofun⟩
  | cons entry rules ih =>
      obtain ⟨first, others⟩ := List.forall_mem_cons.1 alone
      obtain ⟨parts, rfl, compiled⟩ := ih others
      obtain ⟨pattern, accepted⟩ := Option.isSome_iff_exists.1 first
      obtain ⟨groups, names, reads⟩ := exists_written (compile?_eq_some_iff.1 accepted).1
      exact ⟨⟨entry.1, entry.2, groups, names, pattern, reads⟩ :: parts, rfl,
        List.forall_mem_cons.2 ⟨accepted, compiled⟩⟩

/-- When every pattern is accepted alone, the joined pattern decides. -/
theorem compile_parts {parts : List (Part R)}
    (compiled : ∀ part ∈ parts, compile? part.written.toList = some part.pattern) :
    compile label (parts.map Part.entry)
      = match compile? (joined (parts.map Part.written)) with
        | some pattern => .ok ⟨pattern, number 1 (parts.map Part.ruled)⟩
        | none => .error (.invalidPattern SetupError.combinedRule) := by
  have each : (parts.map Part.entry).mapM (compileAlone label) = .ok (parts.map Part.ruled) := by
    induction parts with
    | nil => rfl
    | cons part parts ih =>
        obtain ⟨first, others⟩ := List.forall_mem_cons.1 compiled
        rw [List.map_cons, List.mapM_cons, ih others]
        simp only [compileAlone, Part.entry, first]
        rfl
  have written : (parts.map Part.entry).map Prod.snd = parts.map Part.written := by
    rw [List.map_map]
    rfl
  rw [compile, each, written]
  rfl

/-- The first pattern that is refused alone is blamed, whatever comes after it. -/
theorem compile_of_firstRefused {rules : List (R × String)} {entry : R × String}
    (first : FirstRefused rules entry) :
    compile label rules = .error (.invalidPattern (label entry.1)) := by
  obtain ⟨before, after, rfl, accepted, refused⟩ := first
  have each : (before ++ entry :: after).mapM (compileAlone label)
      = .error (.invalidPattern (label entry.1)) := by
    induction before with
    | nil =>
        rw [List.nil_append, List.mapM_cons, compileAlone, Option.not_isSome_iff_eq_none.1 refused]
        rfl
    | cons earlier before ih =>
        obtain ⟨alone, others⟩ := List.forall_mem_cons.1 accepted
        obtain ⟨pattern, read⟩ := Option.isSome_iff_exists.1 alone
        rw [List.cons_append, List.mapM_cons, ih others, compileAlone, read]
        rfl
  rw [compile, each]
  rfl

/-- Either every pattern is accepted alone or there is a first one that is not. -/
theorem alone_or_firstRefused (rules : List (R × String)) :
    (∀ entry ∈ rules, CompilesAlone entry) ∨ ∃ entry, FirstRefused rules entry := by
  induction rules with
  | nil => exact .inl nofun
  | cons entry rules ih =>
      by_cases first : CompilesAlone entry
      · rcases ih with others | ⟨refused, before, after, rfl, accepted, last⟩
        · exact .inl (List.forall_mem_cons.2 ⟨first, others⟩)
        · exact .inr ⟨refused, entry :: before, after, rfl,
            List.forall_mem_cons.2 ⟨first, accepted⟩, last⟩
      · exact .inr ⟨entry, [], rules, rfl, nofun, first⟩

theorem shallow_iff (part : Part R) (parts : List (Part R)) :
    Shallow ((part :: parts).map Part.entry)
      ↔ together ((part :: parts).map Part.depth).reverse + 2 ≤ maxNesting := by
  have room : together ((part :: parts).map Part.depth).reverse + 2 ≤ maxNesting
      ↔ together ((part :: parts).map Part.depth).reverse ≤ 248 := Nat.add_le_add_iff_right
  rw [room, together_le_iff, Shallow]
  simp only [List.forall_mem_map, List.mem_reverse, List.length_reverse, List.length_map,
    levelsAround, Part.entry, Part.depth, maxNesting]
  refine forall₂_congr fun part _ => ?_
  split <;> omega

/-- The joined pattern is accepted exactly if no name is given twice and there is room for the
levels around the patterns. -/
theorem isSome_compile?_joined (parts : List (Part R)) :
    (compile? (joined (parts.map Part.written))).isSome
      ↔ NamesApart (parts.map Part.entry) ∧ Shallow (parts.map Part.entry) := by
  cases parts with
  | nil =>
      have empty : (compile? (joined [])).isSome := by decide
      simp [empty, NamesApart, Shallow]
  | cons part parts =>
      simp only [Option.isSome_iff_exists, compile?_eq_some_iff, read?_joined]
      have apart : Fresh [] (part :: parts) ↔ NamesApart ((part :: parts).map Part.entry) := by
        simp [fresh_iff]
      constructor
      · rintro ⟨pattern, ⟨fresh, -⟩, nested⟩
        rw [nesting_joined_parts part parts fresh] at nested
        exact ⟨apart.1 fresh, (shallow_iff part parts).2 nested⟩
      · rintro ⟨names, shallow⟩
        have fresh := apart.2 names
        refine ⟨_, ⟨fresh, rfl⟩, ?_⟩
        rw [nesting_joined_parts part parts fresh]
        exact (shallow_iff part parts).1 shallow

end Parts

/-! ### The verdict -/

section Verdict

variable (label : R → String) {rules : List (R × String)}

theorem length_number (next : Nat) (patterns : List (R × Pattern)) :
    (number next patterns).length = patterns.length := by
  induction patterns generalizing next with
  | nil => rfl
  | cons entry patterns ih => exact congrArg (· + 1) (ih _)

/-- A table has as many rules as it was made of. -/
theorem size_of_compile {table : RuleTable R} (made : compile label rules = .ok table) :
    table.size = rules.length := by
  obtain ⟨parts, rfl, ruled, -⟩ := parts_of_compile made
  rw [size, ruled, length_number, List.length_map, List.length_map]

/-- Patterns that are accepted alone make a table if they can be joined. -/
theorem compile_of_joined (alone : ∀ entry ∈ rules, CompilesAlone entry)
    (joins : NamesApart rules ∧ Shallow rules) : ∃ table, compile label rules = .ok table := by
  obtain ⟨parts, rfl, compiled⟩ := exists_parts_of_alone alone
  obtain ⟨pattern, accepted⟩ := Option.isSome_iff_exists.1 ((isSome_compile?_joined parts).2 joins)
  exact ⟨_, (compile_parts compiled).trans (by rw [accepted])⟩

/-- If they cannot be joined, no single rule is blamed. -/
theorem compile_of_not_joined (alone : ∀ entry ∈ rules, CompilesAlone entry)
    (clash : ¬ (NamesApart rules ∧ Shallow rules)) :
    compile label rules = .error (.invalidPattern SetupError.combinedRule) := by
  obtain ⟨parts, rfl, compiled⟩ := exists_parts_of_alone alone
  have refused : compile? (joined (parts.map Part.written)) = none :=
    Option.not_isSome_iff_eq_none.1 fun accepted =>
      clash ((isSome_compile?_joined parts).1 accepted)
  rw [compile_parts compiled, refused]

/-- A list of rules makes a table exactly if every pattern is accepted alone, no two of them give a
group the same name, and each leaves room for the levels that the joined pattern has around it. The
table has all the rules. Otherwise the error names the first rule whose pattern is refused alone;
if all are accepted alone, it names the table as a whole. So no rule is ever blamed whose own
pattern is accepted. -/
theorem compile_verdict (rules : List (R × String)) :
    ((∃ table, compile label rules = .ok table)
        ↔ (∀ entry ∈ rules, CompilesAlone entry) ∧ NamesApart rules ∧ Shallow rules)
      ∧ (∀ table, compile label rules = .ok table → table.size = rules.length)
      ∧ ∀ error, compile label rules = .error error
        ↔ (∃ entry, FirstRefused rules entry ∧ error = .invalidPattern (label entry.1))
          ∨ (∀ entry ∈ rules, CompilesAlone entry) ∧ ¬ (NamesApart rules ∧ Shallow rules)
            ∧ error = .invalidPattern SetupError.combinedRule := by
  refine ⟨⟨?_, fun ⟨alone, joins⟩ => compile_of_joined label alone joins⟩,
    fun table made => size_of_compile label made, fun error => ⟨fun failed => ?_, ?_⟩⟩
  · rintro ⟨table, made⟩
    rcases alone_or_firstRefused rules with alone | ⟨entry, first⟩
    · by_cases joins : NamesApart rules ∧ Shallow rules
      · exact ⟨alone, joins⟩
      · rw [compile_of_not_joined label alone joins] at made
        cases made
    · rw [compile_of_firstRefused first] at made
      cases made
  · rcases alone_or_firstRefused rules with alone | ⟨entry, first⟩
    · by_cases joins : NamesApart rules ∧ Shallow rules
      · obtain ⟨table, made⟩ := compile_of_joined label alone joins
        rw [made] at failed
        cases failed
      · rw [compile_of_not_joined label alone joins] at failed
        exact .inr ⟨alone, joins, (Except.error.inj failed).symm⟩
    · rw [compile_of_firstRefused first] at failed
      exact .inl ⟨entry, first, (Except.error.inj failed).symm⟩
  · rintro (⟨entry, first, rfl⟩ | ⟨alone, clash, rfl⟩)
    · exact compile_of_firstRefused first
    · exact compile_of_not_joined label alone clash

/-- Brackets and bars inside a set are no danger to the patterns around it; a shared name is, and of
two fragments that would complete each other the first is blamed. -/
theorem compile_verdict_fragments :
    (∃ table, compile id [("sign", "[)(|]"), ("none", ""), ("word", "a|(?P<tail>b\\))")] = .ok table
        ∧ table.size = 3)
      ∧ compile id [("first", "(?P<x>a)"), ("second", "b|(?P<x>c)")]
        = .error (.invalidPattern "combined table")
      ∧ compile id [("whole", "a"), ("first", "b("), ("second", "c)")]
        = .error (.invalidPattern "first") := by
  refine ⟨?_, ?_, ?_⟩
  · obtain ⟨table, made⟩ := (compile_verdict id
      [("sign", "[)(|]"), ("none", ""), ("word", "a|(?P<tail>b\\))")]).1.2 (by decide +kernel)
    exact ⟨table, made, (compile_verdict id _).2.1 table made⟩
  · exact ((compile_verdict id _).2.2 _).2 (.inr (by decide +kernel))
  · exact ((compile_verdict id _).2.2 _).2 (.inl ⟨("first", "b("), ⟨[("whole", "a")],
      [("second", "c)")], rfl, by decide +kernel, by decide +kernel⟩, rfl⟩)

/-- A letter in some pairs of parentheses. -/
def parenthesized (pairs : Nat) : List Char :=
  List.replicate pairs '(' ++ ['a'] ++ List.replicate pairs ')'

/-- A pattern that is accepted alone is refused as the only one of a table if it leaves no room for
the levels around it. -/
theorem compile_refuses_nested :
    CompilesAlone ("A", String.ofList (parenthesized 249))
      ∧ NamesApart [("A", String.ofList (parenthesized 249))]
      ∧ compile id [("A", String.ofList (parenthesized 249))]
        = .error (.invalidPattern "combined table") := by
  have alone : CompilesAlone ("A", String.ofList (parenthesized 249)) := by
    rw [CompilesAlone, String.toList_ofList]
    decide +kernel
  have deep : nesting (parenthesized 249) = 249 := by decide +kernel
  refine ⟨alone, List.pairwise_singleton _ _, compile_of_not_joined id ?_ fun joins => ?_⟩
  · exact List.forall_mem_singleton.2 alone
  · have room := List.forall_mem_singleton.1 joins.2
    simp only [String.toList_ofList, deep] at room
    exact absurd room (by decide)

end Verdict

end RuleTable

end LiquidTokens
