import LiquidTokens.Pattern.Match
import Mathlib.Data.List.DropRight

/-!
What the simple forms of pattern read, said of the text alone.

A place that has passed over some characters is described by these characters and the text
left (`Place.pass`). Every form that reads without choice, or whose choices are the lengths of
one run of characters, is then described by the ways to split the text before it, with the
preference among them stated as what the other splits fail to do.

What the rest of a match asks of the text left to it is a condition on this text (`Needs`), which
the forms that come before it turn into conditions of their own.

Main statements: `run_text_iff`, `split_of_run_lazyText` (a lazy run takes the shortest beginning
after which the rest succeeds), `split_of_run_greedyRun` (a greedy run takes the longest one), and
`Needs.text`, `Needs.lazyText` and `Needs.greedyRun`, which say when they fail. Where the rest of the
match leaves no choice a greedy run takes all it can (`TakesAll`).
-/

namespace LiquidTokens

open Text (byteLength)

/-! ### Passing over characters -/

namespace Place

/-- The place after the characters `read`, with the text `left` after it. -/
def pass (place : Place) (read left : List Char) : Place :=
  ⟨read.getLast?.or place.before, place.offset + byteLength read, left, place.captures⟩

@[simp] theorem pass_rest (place : Place) (read left : List Char) :
    (place.pass read left).rest = left := rfl

@[simp] theorem pass_offset (place : Place) (read left : List Char) :
    (place.pass read left).offset = place.offset + byteLength read := rfl

@[simp] theorem pass_captures (place : Place) (read left : List Char) :
    (place.pass read left).captures = place.captures := rfl

@[simp] theorem close_rest (place : Place) (index : Nat) (name : Option String) (opened : Nat) :
    (place.close index name opened).rest = place.rest := rfl

@[simp] theorem close_offset (place : Place) (index : Nat) (name : Option String)
    (opened : Nat) : (place.close index name opened).offset = place.offset := rfl

@[simp] theorem close_captures (place : Place) (index : Nat) (name : Option String)
    (opened : Nat) :
    (place.close index name opened).captures
      = ⟨index, name, opened, place.offset⟩ :: place.captures := rfl

@[simp] theorem start_captures (text : List Char) : (start text).captures = [] := rfl

@[simp] theorem start_offset (text : List Char) : (start text).offset = 0 := rfl

/-- Passing over nothing leads nowhere. -/
theorem pass_nil (place : Place) : place.pass [] place.rest = place := rfl

theorem past_eq_pass (place : Place) (c : Char) (left : List Char) :
    place.past c left = place.pass [c] left := rfl

/-- Passing over some characters and then others is passing over all of them. -/
theorem pass_pass (place : Place) (read more between left : List Char) :
    (place.pass read between).pass more left = place.pass (read ++ more) left := by
  simp only [pass, Text.byteLength_append, List.getLast?_append, Option.or_assoc,
    Nat.add_assoc]

@[simp] theorem pass_singleton_pass (place : Place) (c : Char) (read between left : List Char) :
    (place.pass [c] between).pass read left = place.pass (c :: read) left :=
  place.pass_pass [c] read between left

/-- At the end of the text there is nothing to pass over. -/
theorem pass_of_rest {place : Place} {left : List Char} (h : place.rest = left) :
    place.pass [] left = place := by
  subst h
  exact pass_nil place

/-- The characters of a text are passed over exactly if they come next. -/
theorem pastText?_eq_some_iff {place reached : Place} {letters : List Char} :
    place.pastText? letters = some reached
      ↔ ∃ left, place.rest = letters ++ left ∧ reached = place.pass letters left := by
  induction letters generalizing place with
  | nil =>
      simp only [pastText?, Option.some.injEq, List.nil_append]
      constructor
      · rintro rfl
        exact ⟨_, rfl, (pass_nil place).symm⟩
      · rintro ⟨left, rfl, rfl⟩
        exact (pass_nil place).symm
  | cons letter letters ih =>
      cases h : place.rest with
      | nil => simp [pastText?, h]
      | cons c rest =>
          by_cases same : c = letter
          · subst same
            simp only [pastText?, h, if_true, ih, List.cons_append, List.cons.injEq, true_and]
            simp only [past_eq_pass, pass_rest, pass_singleton_pass]
          · simp [pastText?, h, same]

end Place

namespace Pattern

variable {α : Type}

/-! ### Texts and the optional text -/

theorem run_text_iff {letters : List Char} {place : Place} {next : Place → Option α} {a : α} :
    (text letters).run place next = some a
      ↔ ∃ left, place.rest = letters ++ left ∧ next (place.pass letters left) = some a := by
  simp only [run, Option.bind_eq_some_iff, Place.pastText?_eq_some_iff]
  constructor
  · rintro ⟨_, ⟨left, split, rfl⟩, found⟩
    exact ⟨left, split, found⟩
  · rintro ⟨left, split, found⟩
    exact ⟨_, ⟨left, split, rfl⟩, found⟩

theorem run_text_none_iff {letters : List Char} {place : Place} {next : Place → Option α} :
    (text letters).run place next = none
      ↔ ∀ left, place.rest = letters ++ left → next (place.pass letters left) = none := by
  simp only [run, Option.bind_eq_none_iff, Place.pastText?_eq_some_iff]
  constructor
  · intro fails left split
    exact fails _ ⟨left, split, rfl⟩
  · rintro fails _ ⟨left, split, rfl⟩
    exact fails left split

theorem run_one_iff {set : CharSet} {place : Place} {next : Place → Option α} {a : α} :
    (one set).run place next = some a
      ↔ ∃ c left, place.rest = c :: left ∧ set.contains c = true
          ∧ next (place.pass [c] left) = some a := by
  simp only [run, Place.pastSet?, Place.past_eq_pass]
  cases place.rest with
  | nil => simp
  | cons c rest => by_cases member : set.contains c = true <;> simp [member]

theorem run_textEnd (place : Place) (next : Place → Option α) :
    (anchor .textEnd).run place next = if place.rest = [] then next place else none := by
  simp [run, Anchor.holds]

/-- What may be read once is read if the rest then succeeds, and otherwise left. -/
theorem run_optional {body : Pattern} (simple : body.isSimple = true) (place : Place)
    (next : Place → Option α) :
    (times 0 (some 1) true body).run place next = (body.run place next).or (next place) := by
  simp only [run, simple, if_true, Matcher.exactly, Matcher.upTo, Nat.sub_zero, Matcher.prefer]
  cases body.run place next <;> rfl

/-- What is read once or more is read once and then any number of times. -/
theorem run_oneOrMore {body : Pattern} (simple : body.isSimple = true) (greedy : Bool)
    (place : Place) (next : Place → Option α) :
    (times 1 none greedy body).run place next
      = body.run place fun reached => (times 0 none greedy body).run reached next := by
  simp only [run, simple, if_true, Matcher.exactly]

/-! ### Runs of characters -/

/-- Any number of characters of a set are read round after round. -/
theorem run_times_one {set : CharSet} (inhabited : set ≠ .none) (greedy : Bool) (place : Place)
    (next : Place → Option α) :
    (times 0 none greedy (one set)).run place next
      = Matcher.rounds greedy (one set).run place.rest place next := by
  have simple : (one set).isSimple = true := by
    simp [isSimple, isFlat, alwaysReads, isNullable, hasFail, inhabited]
  simp only [run, simple, if_true, Matcher.exactly]

/-- A run of characters at the end of the text reads nothing. -/
theorem run_times_of_end {set : CharSet} (inhabited : set ≠ .none) (greedy : Bool)
    {place : Place} (ended : place.rest = []) (next : Place → Option α) :
    (times 0 none greedy (one set)).run place next = next place := by
  rw [run_times_one inhabited, ended, Matcher.rounds]

/-- A run of characters before any other character reads nothing. -/
theorem run_times_of_other {set : CharSet} (inhabited : set ≠ .none) (greedy : Bool)
    {place : Place} {c : Char} {rest : List Char} (split : place.rest = c :: rest)
    (other : set.contains c = false) (next : Place → Option α) :
    (times 0 none greedy (one set)).run place next = next place := by
  rw [run_times_one inhabited, split]
  simp only [Matcher.rounds, run, Place.pastSet?, split, other]
  cases greedy <;> cases next place <;> simp [Matcher.prefer]

/-- Any text, as little of it as will do. -/
def lazyText : Pattern :=
  times 0 none false (one .any)

/-- A lazy run stops before it reads on. -/
theorem run_lazyText_of_cons {place : Place} {c : Char} {rest : List Char}
    (split : place.rest = c :: rest) (next : Place → Option α) :
    lazyText.run place next
      = (next place).or (lazyText.run (place.pass [c] rest) next) := by
  rw [lazyText, run_times_one (by decide), run_times_one (by decide), split]
  simp only [Matcher.rounds, run, Place.pastSet?, split, Place.past_eq_pass, CharSet.contains,
    if_true, Option.bind_some, Place.pass_rest, Matcher.prefer, Bool.false_eq_true, if_false]
  cases next place <;> rfl

/-- A lazy run reads the shortest beginning after which the rest of the match succeeds. -/
theorem split_of_run_lazyText {place : Place} {next : Place → Option α} {a : α}
    (found : lazyText.run place next = some a) :
    ∃ u v, place.rest = u ++ v ∧ next (place.pass u v) = some a
      ∧ ∀ u' w, u = u' ++ w → w ≠ [] → next (place.pass u' (w ++ v)) = none := by
  induction h : place.rest generalizing place with
  | nil =>
      rw [lazyText, run_times_of_end (by decide) false h] at found
      exact ⟨[], [], rfl, by rwa [Place.pass_of_rest h], by simp⟩
  | cons c rest ih =>
      have stay := Place.pass_of_rest h
      rw [run_lazyText_of_cons h] at found
      cases here : next place with
      | some b =>
          rw [here, Option.some_or] at found
          exact ⟨[], c :: rest, rfl, by rw [stay, here, found], by simp⟩
      | none =>
          rw [here, Option.none_or] at found
          obtain ⟨u, v, split, reached, shortest⟩ := ih found rfl
          subst split
          refine ⟨c :: u, v, rfl, by simpa using reached, ?_⟩
          intro u' w split long
          cases u' with
          | nil =>
              rw [List.nil_append] at split
              rw [← split, List.cons_append, stay, here]
          | cons d u' =>
              obtain ⟨rfl, rfl⟩ := List.cons_eq_cons.1 split
              simpa using shortest u' w rfl long

/-- A lazy run fails exactly if the rest of the match fails after every beginning. -/
theorem run_lazyText_eq_none_iff {place : Place} {next : Place → Option α} :
    lazyText.run place next = none
      ↔ ∀ u v, place.rest = u ++ v → next (place.pass u v) = none := by
  induction h : place.rest generalizing place with
  | nil =>
      rw [lazyText, run_times_of_end (by decide) false h]
      simp [Place.pass_of_rest h]
  | cons c rest ih =>
      have stay := Place.pass_of_rest h
      rw [run_lazyText_of_cons h, Option.or_eq_none_iff, @ih (place.pass [c] rest) rfl]
      constructor
      · rintro ⟨here, later⟩ u v split
        cases u with
        | nil =>
            rw [List.nil_append] at split
            rw [← split, stay, here]
        | cons d u =>
            obtain ⟨rfl, rfl⟩ := List.cons_eq_cons.1 split
            simpa using later u v rfl
      · intro fails
        refine ⟨by simpa [stay] using fails [] (c :: rest) rfl, ?_⟩
        rintro u v rfl
        simpa using fails (c :: u) v rfl

/-- As many characters of a set as will do. -/
def greedyRun (set : CharSet) : Pattern :=
  times 0 none true (one set)

/-- A greedy run reads on before it stops. -/
theorem run_greedyRun_of_member {set : CharSet} {place : Place} {c : Char} {rest : List Char}
    (split : place.rest = c :: rest) (member : set.contains c = true)
    (next : Place → Option α) :
    (greedyRun set).run place next
      = ((greedyRun set).run (place.pass [c] rest) next).or (next place) := by
  have inhabited : set ≠ .none := by
    rintro rfl
    simp [CharSet.contains] at member
  rw [greedyRun, run_times_one inhabited, run_times_one inhabited, split]
  simp only [Matcher.rounds, run, Place.pastSet?, split, Place.past_eq_pass, member, if_true,
    Option.bind_some, Place.pass_rest, Matcher.prefer, Option.orElse_eq_or]

/-- A greedy run fails exactly if the rest of the match fails after every beginning in the
set. -/
theorem run_greedyRun_eq_none_iff {set : CharSet} (inhabited : set ≠ .none) {place : Place}
    {next : Place → Option α} :
    (greedyRun set).run place next = none
      ↔ ∀ u v, place.rest = u ++ v → (∀ c ∈ u, set.contains c = true) →
          next (place.pass u v) = none := by
  induction h : place.rest generalizing place with
  | nil =>
      rw [greedyRun, run_times_of_end inhabited true h]
      simp [Place.pass_of_rest h]
  | cons c rest ih =>
      have stay := Place.pass_of_rest h
      by_cases member : set.contains c = true
      · rw [run_greedyRun_of_member h member, Option.or_eq_none_iff,
          @ih (place.pass [c] rest) rfl]
        constructor
        · rintro ⟨later, here⟩ u v split inside
          cases u with
          | nil =>
              rw [List.nil_append] at split
              rw [← split, stay, here]
          | cons d u =>
              obtain ⟨rfl, rfl⟩ := List.cons_eq_cons.1 split
              simpa using later u v rfl (List.forall_mem_cons.1 inside).2
        · intro fails
          refine ⟨?_, by simpa [stay] using fails [] (c :: rest) rfl⟩
          rintro u v rfl inside
          simpa using fails (c :: u) v rfl (List.forall_mem_cons.2 ⟨member, inside⟩)
      · rw [greedyRun, run_times_of_other inhabited true h (Bool.eq_false_iff.2 member)]
        constructor
        · intro here u v split inside
          cases u with
          | nil =>
              rw [List.nil_append] at split
              rw [← split, stay, here]
          | cons d u =>
              obtain ⟨rfl, -⟩ := List.cons_eq_cons.1 split
              exact absurd (inside c List.mem_cons_self) member
        · intro fails
          simpa [stay] using fails [] (c :: rest) rfl

/-- A greedy run reads the longest beginning, all in the set, after which the rest of the match
succeeds. -/
theorem split_of_run_greedyRun {set : CharSet} (inhabited : set ≠ .none) {place : Place}
    {next : Place → Option α} {a : α} (found : (greedyRun set).run place next = some a) :
    ∃ u v, place.rest = u ++ v ∧ (∀ c ∈ u, set.contains c = true)
      ∧ next (place.pass u v) = some a
      ∧ ∀ w v', v = w ++ v' → w ≠ [] → (∀ c ∈ w, set.contains c = true) →
          next (place.pass (u ++ w) v') = none := by
  induction h : place.rest generalizing place with
  | nil =>
      rw [greedyRun, run_times_of_end inhabited true h] at found
      exact ⟨[], [], rfl, by simp, by rwa [Place.pass_of_rest h], by simp⟩
  | cons c rest ih =>
      have stay := Place.pass_of_rest h
      by_cases member : set.contains c = true
      · rw [run_greedyRun_of_member h member] at found
        cases later : (greedyRun set).run (place.pass [c] rest) next with
        | some b =>
            obtain ⟨u, v, split, inside, reached, longest⟩ :=
              ih (later.trans (by rwa [later, Option.some_or] at found)) rfl
            subst split
            refine ⟨c :: u, v, rfl, List.forall_mem_cons.2 ⟨member, inside⟩, by simpa using reached,
              ?_⟩
            simpa using longest
        | none =>
            rw [later, Option.none_or] at found
            refine ⟨[], c :: rest, rfl, by simp, by rw [stay, found], ?_⟩
            intro w v' split long inside
            obtain ⟨d, w, rfl⟩ := List.exists_cons_of_ne_nil long
            obtain ⟨rfl, rfl⟩ := List.cons_eq_cons.1 split
            simpa using (run_greedyRun_eq_none_iff inhabited).1 later w v' rfl
              (List.forall_mem_cons.1 inside).2
      · rw [greedyRun, run_times_of_other inhabited true h (Bool.eq_false_iff.2 member)] at found
        refine ⟨[], c :: rest, rfl, by simp, by rw [stay, found], ?_⟩
        intro w v' split long inside
        obtain ⟨d, w, rfl⟩ := List.exists_cons_of_ne_nil long
        obtain ⟨rfl, -⟩ := List.cons_eq_cons.1 split
        exact absurd (inside c List.mem_cons_self) member

/-! ### What the rest of a match needs -/

/-- The rest of a match succeeds exactly where the text left fulfils a condition. -/
def Needs (holds : List Char → Prop) (next : Place → Option α) : Prop :=
  ∀ place, next place = none ↔ ¬ holds place.rest

section Needs

variable {holds : List Char → Prop} {next : Place → Option α}

theorem Needs.holds_of_some (needs : Needs holds next) {place : Place} {a : α}
    (found : next place = some a) : holds place.rest := by
  by_contra fails
  rw [(needs place).2 fails] at found
  cases found

theorem Needs.not_of_none (needs : Needs holds next) {place : Place} (fails : next place = none) :
    ¬ holds place.rest :=
  (needs place).1 fails

/-- Closing a group asks for nothing. -/
theorem Needs.close (needs : Needs holds next) (index : Nat) (name : Option String)
    (opened : Nat) : Needs holds fun reached => next (reached.close index name opened) :=
  fun place => needs (place.close index name opened)

theorem Needs.text (needs : Needs holds next) (letters : List Char) :
    Needs (fun t => ∃ left, t = letters ++ left ∧ holds left)
      ((Pattern.text letters).run · next) := by
  intro place
  rw [run_text_none_iff]
  constructor
  · rintro fails ⟨left, split, met⟩
    exact (needs _).1 (fails left split) met
  · intro never left split
    exact (needs _).2 fun met => never ⟨left, split, met⟩

theorem Needs.lazyText (needs : Needs holds next) :
    Needs (fun t => ∃ u v, t = u ++ v ∧ holds v) (Pattern.lazyText.run · next) := by
  intro place
  rw [run_lazyText_eq_none_iff]
  constructor
  · rintro fails ⟨u, v, split, met⟩
    exact (needs _).1 (fails u v split) met
  · intro never u v split
    exact (needs _).2 fun met => never ⟨u, v, split, met⟩

theorem Needs.greedyRun (needs : Needs holds next) (set : CharSet) (inhabited : set ≠ .none) :
    Needs (fun t => ∃ u v, t = u ++ v ∧ (∀ c ∈ u, set.contains c = true) ∧ holds v)
      ((Pattern.greedyRun set).run · next) := by
  intro place
  rw [run_greedyRun_eq_none_iff inhabited]
  constructor
  · rintro fails ⟨u, v, split, inside, met⟩
    exact (needs _).1 (fails u v split inside) met
  · intro never u v split inside
    exact (needs _).2 fun met => never ⟨u, v, split, inside, met⟩

/-- An optional text is there or not. -/
theorem Needs.optional (needs : Needs holds next) (letters : List Char)
    (simple : (Pattern.text letters).isSimple = true) :
    Needs (fun t => ∃ u v, t = u ++ v ∧ (u = letters ∨ u = []) ∧ holds v)
      ((times 0 (some 1) true (Pattern.text letters)).run · next) := by
  intro place
  simp only [run_optional simple, Option.or_eq_none_iff, needs.text letters place, needs place]
  constructor
  · rintro ⟨without, here⟩ ⟨u, v, split, rfl | rfl, met⟩
    · exact without ⟨v, split, met⟩
    · exact here (split ▸ met)
  · intro never
    exact ⟨fun ⟨left, split, met⟩ => never ⟨letters, left, split, .inl rfl, met⟩,
      fun met => never ⟨[], place.rest, rfl, .inr rfl, met⟩⟩

/-- An optional text is read wherever the rest then succeeds. -/
theorem split_of_run_optional {letters : List Char} (needs : Needs holds next)
    (simple : (Pattern.text letters).isSimple = true) {place : Place} {a : α}
    (found : (times 0 (some 1) true (Pattern.text letters)).run place next = some a) :
    ∃ u v, place.rest = u ++ v ∧ next (place.pass u v) = some a
      ∧ (u = letters ∨ u = [] ∧ ∀ left, v = letters ++ left → ¬ holds left) := by
  rw [run_optional simple] at found
  cases read : (Pattern.text letters).run place next with
  | some b =>
      obtain ⟨left, split, reached⟩ := run_text_iff.1 read
      rw [read, Option.some_or] at found
      exact ⟨letters, left, split, reached.trans found, .inl rfl⟩
  | none =>
      rw [read, Option.none_or] at found
      refine ⟨[], place.rest, rfl, found, .inr ⟨rfl, fun left split met => ?_⟩⟩
      exact (needs _).1 (run_text_none_iff.1 read left split) met

/-- The rest of a match never fails. -/
abbrev Total (next : Place → Option α) : Prop :=
  Needs (fun _ => True) next

theorem Total.isSome (total : Total next) (place : Place) : (next place).isSome = true := by
  rw [Option.isSome_iff_ne_none]
  exact fun fails => total.not_of_none fails trivial

theorem Total.greedyRun (total : Total next) (set : CharSet) (inhabited : set ≠ .none) :
    Total ((Pattern.greedyRun set).run · next) := fun place =>
  (Needs.greedyRun total set inhabited place).trans
    (not_congr ⟨fun _ => trivial, fun _ => ⟨[], place.rest, rfl, by simp, trivial⟩⟩)

/-- Before a rest that never fails, a greedy run reads as much as it can. -/
theorem Total.run_greedyRun (total : Total next) {set : CharSet} (inhabited : set ≠ .none)
    (place : Place) :
    (Pattern.greedyRun set).run place next
      = next (place.pass (place.rest.takeWhile set.contains)
          (place.rest.dropWhile set.contains)) := by
  induction h : place.rest generalizing place with
  | nil =>
      rw [Pattern.greedyRun, run_times_of_end inhabited true h]
      simp [Place.pass_of_rest h]
  | cons c rest ih =>
      by_cases member : set.contains c = true
      · rw [run_greedyRun_of_member h member, ih (place.pass [c] rest) rfl,
          Option.or_of_isSome (total.isSome _)]
        simp [member]
      · rw [Pattern.greedyRun, run_times_of_other inhabited true h (Bool.eq_false_iff.2 member)]
        simp [member, Place.pass_of_rest h]

theorem rdropWhile_cons {p : Char → Bool} {c : Char} {text : List Char}
    (other : ¬ ∀ d ∈ c :: text, p d = true) :
    (c :: text).rdropWhile p = c :: text.rdropWhile p := by
  rw [List.rdropWhile, List.reverse_cons, List.dropWhile_append]
  split
  · next all =>
      have members : ∀ d ∈ text, p d = true := fun d member =>
        List.dropWhile_eq_nil_iff.1 (List.isEmpty_iff.1 all) d (List.mem_reverse.2 member)
      have first : p c = false := by
        rw [← Bool.not_eq_true]
        exact fun member => other (List.forall_mem_cons.2 ⟨member, members⟩)
      rw [List.rdropWhile_eq_nil_iff.2 members]
      simp [first]
  · rw [List.reverse_append, List.reverse_singleton, List.singleton_append, List.rdropWhile]

/-- Before a rest that takes characters of one kind up to the end, a lazy run reads the text
without those at its end. -/
theorem run_lazyText_of_needs {p : Char → Bool} (needs : Needs (fun t => ∀ c ∈ t, p c = true) next)
    (place : Place) :
    Pattern.lazyText.run place next
      = next (place.pass (place.rest.rdropWhile p) (place.rest.rtakeWhile p)) := by
  induction h : place.rest generalizing place with
  | nil =>
      rw [Pattern.lazyText, run_times_of_end (by decide) false h]
      simp [Place.pass_of_rest h]
  | cons c rest ih =>
      rw [run_lazyText_of_cons h]
      by_cases all : ∀ d ∈ c :: rest, p d = true
      · have here : (next place).isSome = true := by
          rw [Option.isSome_iff_ne_none]
          exact fun fails => needs.not_of_none fails (h ▸ all)
        rw [Option.or_of_isSome here, List.rdropWhile_eq_nil_iff.2 all,
          List.rtakeWhile_eq_self_iff.2 all, Place.pass_of_rest h]
      · have here : next place = none := (needs place).2 (h ▸ all)
        have front := rdropWhile_cons all
        have back : (c :: rest).rtakeWhile p = rest.rtakeWhile p := by
          have joined : (c :: rest).rdropWhile p ++ (c :: rest).rtakeWhile p
              = (c :: rest).rdropWhile p ++ rest.rtakeWhile p := by
            rw [List.rdropWhile_append_rtakeWhile, front, List.cons_append,
              List.rdropWhile_append_rtakeWhile]
          exact List.append_cancel_left joined
        rw [here, Option.none_or, ih (place.pass [c] rest) rfl, front, back,
          Place.pass_singleton_pass]

end Needs

/-! ### Runs that take all they can -/

section TakesAll

variable {place : Place} {next : Place → Option α}

theorem run_one (set : CharSet) (place : Place) (next : Place → Option α) :
    (one set).run place next = match place.rest with
      | [] => none
      | c :: rest => if set.contains c then next (place.pass [c] rest) else none := by
  simp only [run, Place.pastSet?, Place.past_eq_pass]
  cases place.rest with
  | nil => rfl
  | cons c rest => by_cases member : set.contains c = true <;> simp [member]

/-- The rest of a match begins behind the longest run of characters of a set. -/
def TakesAll (set : CharSet) (place : Place) (next : Place → Option α) : Prop :=
  (greedyRun set).run place next
    = next (place.pass (place.rest.takeWhile set.contains) (place.rest.dropWhile set.contains))

theorem Total.takesAll (total : Total next) {set : CharSet} (inhabited : set ≠ .none)
    (place : Place) : TakesAll set place next :=
  total.run_greedyRun inhabited place

/-- If the rest of a match cannot begin with a character of the set, the run is the longest. -/
theorem takesAll_of_halts {set : CharSet} (inhabited : set ≠ .none)
    (halts : ∀ u c v, place.rest = u ++ c :: v → (∀ d ∈ u, set.contains d = true) →
      set.contains c = true → next (place.pass u (c :: v)) = none) : TakesAll set place next := by
  unfold TakesAll
  generalize split : place.rest = rest
  induction rest generalizing place with
  | nil =>
      rw [greedyRun, run_times_of_end inhabited true split]
      simp [Place.pass_of_rest split]
  | cons c rest ih =>
      by_cases member : set.contains c = true
      · have here : next place = none := by
          have stops := halts [] c rest split (by simp) member
          rwa [Place.pass_of_rest split] at stops
        have later := @ih (place.pass [c] rest) (fun u d v later inside member' => by
          rw [Place.pass_singleton_pass]
          refine halts (c :: u) d v ?_ (List.forall_mem_cons.2 ⟨member, inside⟩) member'
          rw [split, List.cons_append, ← later, Place.pass_rest]) rfl
        rw [run_greedyRun_of_member split member, here, Option.or_none, later]
        simp [member]
      · rw [greedyRun, run_times_of_other inhabited true split (Bool.eq_false_iff.2 member)]
        simp [member, Place.pass_of_rest split]

end TakesAll

end Pattern

end LiquidTokens
