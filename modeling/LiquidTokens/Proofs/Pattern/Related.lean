import LiquidTokens.Proofs.Pattern.Passing
import LiquidTokens.Proofs.Pattern.Raised

/-!
What a match depends on.

A match looks at a place only through the text around it; what the place remembers is carried
along, and the numbers of groups are written down and never read. Nor does a match look at what
the rest of it finds, but only at whether it finds something. So two matches of one pattern, whose
groups may be numbered differently, that begin at places related in some way and go on in related
ways, end in related ways (`run_related`).

Which relation is meant is chosen by the uses made of this: a match under raised numbers, on top of
what was remembered before, finds the same (`run_raise`); and every place that a match reaches
stands in the text, and so does all that it remembers (`inside_of_find?`).
-/

namespace LiquidTokens

open Text (Span byteLength)

/-! ### Related places and outcomes -/

/-- A relation between places with the same text around them that reading a character keeps, and
closing a group, whose number is greater by `k` on the other side. -/
structure Place.Alike (k : Nat) (places : Place → Place → Prop) : Prop where
  before {place other} : places place other → other.before = place.before
  offset {place other} : places place other → other.offset = place.offset
  rest {place other} : places place other → other.rest = place.rest
  past {place other c rest} : places place other → place.rest = c :: rest →
    places (place.past c rest) (other.past c rest)
  close {opened begun place other} (index : Nat) (name : Option String) : places opened begun →
    places place other → opened.offset ≤ place.offset →
    places (place.close index name opened.offset) (other.close (index + k) name begun.offset)

/-- A relation between outcomes of which both or neither are a success. -/
structure Outcomes {α β : Type} (ends : Option α → Option β → Prop) : Prop where
  none : ends none none
  isSome {found other} : ends found other → found.isSome = other.isSome

section Related

variable {k : Nat} {places : Place → Place → Prop} {α β : Type} {ends : Option α → Option β → Prop}

namespace Place.Alike

/-- The places of a match that are not before a given offset. -/
theorem since (alike : Alike k places) (least : Nat) :
    Alike k fun place other => places place other ∧ least ≤ place.offset where
  before related := alike.before related.1
  offset related := alike.offset related.1
  rest related := alike.rest related.1
  past related split := ⟨alike.past related.1 split, Nat.le_add_right_of_le related.2⟩
  close index name opened reached order :=
    ⟨alike.close index name opened.1 reached.1 order, reached.2⟩

theorem holds (alike : Alike k places) {place other : Place} (related : places place other)
    (condition : Anchor) : condition.holds other = condition.holds place := by
  simp only [Anchor.holds, alike.before related, alike.rest related]

/-- Both places can pass over some characters, or neither can. -/
theorem pastText? (alike : Alike k places) {place other : Place} (related : places place other)
    (letters : List Char) :
    Option.Rel places (place.pastText? letters) (other.pastText? letters) := by
  induction letters generalizing place other with
  | nil => exact .some related
  | cons letter letters ih =>
      simp only [Place.pastText?, alike.rest related]
      cases split : place.rest with
      | nil => exact .none
      | cons c rest =>
          simp only
          split
          · exact ih (alike.past related split)
          · exact .none

theorem pastSet? (alike : Alike k places) {place other : Place} (related : places place other)
    (set : CharSet) : Option.Rel places (place.pastSet? set) (other.pastSet? set) := by
  simp only [Place.pastSet?, alike.rest related]
  cases split : place.rest with
  | nil => exact .none
  | cons c rest =>
      simp only
      split
      · exact .some (alike.past related split)
      · exact .none

end Place.Alike

theorem Outcomes.orElse (outcomes : Outcomes ends) {found : Option α} {other : Option β}
    {more : Unit → Option α} {further : Unit → Option β} (first : ends found other)
    (second : ends (more ()) (further ())) : ends (found.orElse more) (other.orElse further) := by
  have both := outcomes.isSome first
  cases found <;> cases other
  · exact second
  · cases both
  · cases both
  · exact first

/-- What follows a place, if there is one. -/
theorem Outcomes.bind (outcomes : Outcomes ends) {reached : Option Place} {other : Option Place}
    {next : Place → Option α} {after : Place → Option β} (related : Option.Rel places reached other)
    (continues : ∀ place other, places place other → ends (next place) (after other)) :
    ends (reached.bind next) (other.bind after) := by
  cases related with
  | some related => exact continues _ _ related
  | none => exact outcomes.none

/-! ### Matching round after round -/

/-- Two matchers end in related ways if they begin at related places and go on in related
ways. -/
def Matcher.Related (places : Place → Place → Prop) (ends : Option α → Option β → Prop)
    (round : Matcher α) (other : Matcher β) : Prop :=
  ∀ place start next after, places place start →
    (∀ reached arrived, places reached arrived → ends (next reached) (after arrived)) →
    ends (round place next) (other start after)

namespace Matcher

variable {round : Matcher α} {other : Matcher β}

theorem Related.exactly (related : Related places ends round other) (count : Nat) :
    Related places ends (exactly round count) (exactly other count) := by
  induction count with
  | zero => exact fun place start next after begun continues => continues place start begun
  | succ count ih =>
      intro place start next after begun continues
      exact related _ _ _ _ begun fun reached arrived met => ih _ _ _ _ met continues

theorem prefer_related (outcomes : Outcomes ends) (greedy : Bool) {more stop : Unit → Option α}
    {further halt : Unit → Option β} (longer : ends (more ()) (further ()))
    (shorter : ends (stop ()) (halt ())) :
    ends (prefer greedy more stop) (prefer greedy further halt) := by
  cases greedy
  · exact outcomes.orElse shorter longer
  · exact outcomes.orElse longer shorter

theorem Related.upTo (outcomes : Outcomes ends) (related : Related places ends round other)
    (greedy : Bool) (count : Nat) :
    Related places ends (upTo greedy round count) (upTo greedy other count) := by
  induction count with
  | zero => exact fun place start next after begun continues => continues place start begun
  | succ count ih =>
      intro place start next after begun continues
      apply prefer_related outcomes greedy
      · exact related _ _ _ _ begun fun reached arrived met => ih _ _ _ _ met continues
      · exact continues place start begun

/-- Only the length of the text that bounds the rounds matters. -/
theorem rounds_eq_upTo (greedy : Bool) (round : Matcher α) (bound : List Char) :
    rounds greedy round bound = upTo greedy round bound.length := by
  induction bound with
  | nil => rfl
  | cons c bound ih =>
      funext place next
      rw [rounds, List.length_cons, upTo, ih]

theorem Related.rounds (outcomes : Outcomes ends) (related : Related places ends round other)
    (greedy : Bool) (bound : List Char) :
    Related places ends (rounds greedy round bound) (rounds greedy other bound) := by
  rw [rounds_eq_upTo, rounds_eq_upTo]
  exact related.upTo outcomes greedy bound.length

end Matcher

/-! ### Walking -/

namespace Pattern

/-- What two walks find is related, and they have been at the same points. -/
def Walker.Ended (ends : Option α → Option β → Prop) (found : Option α × Record)
    (other : Option β × Record) : Prop :=
  ends found.1 other.1 ∧ found.2 = other.2

/-- Two walkers end in related ways if they begin at related places with the same record and go
on in related ways. -/
def Walker.Related (places : Place → Place → Prop) (ends : Option α → Option β → Prop)
    (walker : Walker α) (other : Walker β) : Prop :=
  ∀ place start record next after, places place start →
    (∀ reached arrived record, places reached arrived →
      Ended ends (next reached record) (after arrived record)) →
    Ended ends (walker place record next) (other start record after)

namespace Walker

theorem onward_related (outcomes : Outcomes ends) {reached arrived : Option Place}
    (record : Record) {next : Place → Record → Option α × Record}
    {after : Place → Record → Option β × Record} (related : Option.Rel places reached arrived)
    (continues : ∀ reached arrived record, places reached arrived →
      Ended ends (next reached record) (after arrived record)) :
    Ended ends (onward reached record next) (onward arrived record after) := by
  cases related with
  | some related => exact continues _ _ record related
  | none => exact ⟨outcomes.none, rfl⟩

theorem enter_related (alike : Place.Alike k places) (outcomes : Outcomes ends) (point : Address)
    {place start : Place} (begun : places place start) (record : Record)
    {go : Record → Option α × Record} {walk : Record → Option β × Record}
    (continues : ∀ record, Ended ends (go record) (walk record)) :
    Ended ends (enter point place record go) (enter point start record walk) := by
  simp only [enter, alike.offset begun]
  split
  · exact ⟨outcomes.none, rfl⟩
  · exact continues _

theorem first_related (outcomes : Outcomes ends) (record : Record)
    {one more : Record → Option α × Record} {other further : Record → Option β × Record}
    (preferred : ∀ record, Ended ends (one record) (other record))
    (second : ∀ record, Ended ends (more record) (further record)) :
    Ended ends (Walker.first record one more) (Walker.first record other further) := by
  obtain ⟨found, same⟩ := preferred record
  have both := outcomes.isSome found
  simp only [Walker.first]
  cases left : one record with
  | mk a after =>
      cases right : other record with
      | mk b later =>
          rw [left, right] at found same both
          obtain rfl : after = later := same
          cases a <;> cases b
          · exact second after
          · cases both
          · cases both
          · exact ⟨found, rfl⟩

theorem prefer_related (outcomes : Outcomes ends) (greedy : Bool) (record : Record)
    {more stop : Record → Option α × Record} {further halt : Record → Option β × Record}
    (longer : ∀ record, Ended ends (more record) (further record))
    (shorter : ∀ record, Ended ends (stop record) (halt record)) :
    Ended ends (prefer greedy record more stop) (prefer greedy record further halt) := by
  cases greedy
  · exact first_related outcomes record shorter longer
  · exact first_related outcomes record longer shorter

theorem Related.exactly {round : Nat → Walker α} {other : Nat → Walker β}
    (related : ∀ number, Related places ends (round number) (other number)) (count number : Nat) :
    Related places ends (exactly round number count) (exactly other number count) := by
  induction count generalizing number with
  | zero =>
      exact fun place start record next after begun continues => continues place start record begun
  | succ count ih =>
      intro place start record next after begun continues
      exact related number _ _ _ _ _ begun fun reached arrived record met =>
        ih (number + 1) _ _ record _ _ met continues

theorem Related.upTo (alike : Place.Alike k places) (outcomes : Outcomes ends)
    {round : Nat → Walker α} {other : Nat → Walker β}
    (related : ∀ number, Related places ends (round number) (other number)) (greedy : Bool)
    (point : Nat → Address) (count number : Nat) :
    Related places ends (upTo greedy point round number count)
      (upTo greedy point other number count) := by
  induction count generalizing number with
  | zero =>
      exact fun place start record next after begun continues => continues place start record begun
  | succ count ih =>
      intro place start record next after begun continues
      apply enter_related alike outcomes (point number) begun record
      intro record
      apply prefer_related outcomes greedy record
      · intro record
        exact related number _ _ _ _ _ begun fun reached arrived record met =>
          ih (number + 1) _ _ record _ _ met continues
      · exact fun record => continues place start record begun

theorem Related.around (alike : Place.Alike k places) (outcomes : Outcomes ends)
    {round : Walker α} {other : Walker β} (related : Related places ends round other)
    (greedy : Bool) (point : Address) (bound : List Char) :
    Related places ends (around greedy point round bound) (around greedy point other bound) := by
  induction bound with
  | nil =>
      intro place start record next after begun continues
      exact enter_related alike outcomes point begun record fun record =>
        continues place start record begun
  | cons c bound ih =>
      intro place start record next after begun continues
      apply enter_related alike outcomes point begun record
      intro record
      apply prefer_related outcomes greedy record
      · intro record
        exact related _ _ _ _ _ begun fun reached arrived record met =>
          ih _ _ record _ _ met continues
      · exact fun record => continues place start record begun

end Walker

/-- Loops whose rounds are related. A loop without a bound goes on with the last of the rounds that
it has to go through, and with a round of its own if there are none. -/
theorem walk_times_related (alike : Place.Alike k places) (outcomes : Outcomes ends)
    {body : Pattern}
    (related : ∀ address, Walker.Related places ends (body.walk address)
      ((body.raise k).walk address))
    (least : Nat) (most : Option Nat) (greedy : Bool) (address : Address) :
    Walker.Related places ends ((times least most greedy body).walk address)
      (((times least most greedy body).raise k).walk address) := by
  intro place start record next after begun continues
  have rounds (number : Nat) := related (1 :: number :: address)
  cases most with
  | some most =>
      apply Walker.Related.exactly rounds least 0 _ _ record _ _ begun
      intro reached arrived record met
      exact Walker.Related.upTo alike outcomes rounds greedy (fun number => 0 :: number :: address)
        (most - least) least _ _ record _ _ met continues
  | none =>
      cases least with
      | zero =>
          have round := related (1 :: address)
          simp only [raise, walk, alwaysReads_raise]
          split
          · rw [alike.rest begun]
            exact round.around alike outcomes greedy (0 :: address) place.rest _ _ record _ _ begun
              continues
          · apply Walker.enter_related alike outcomes (2 :: address) begun record
            intro record
            apply Walker.prefer_related outcomes greedy record
            · intro record
              apply round _ _ record _ _ begun
              intro reached arrived record met
              rw [alike.rest met]
              exact round.around alike outcomes greedy (0 :: address) reached.rest _ _ record _ _
                met continues
            · exact fun record => continues place start record begun
      | succ least =>
          apply Walker.Related.exactly rounds (least + 1) 0 _ _ record _ _ begun
          intro reached arrived record met
          rw [alike.rest met]
          exact (rounds least).around alike outcomes greedy (0 :: least :: address) reached.rest
            _ _ record _ _ met continues

/-- Walks through a pattern and through the same pattern with raised numbers. -/
theorem walk_related (outcomes : Outcomes ends) (pattern : Pattern) (address : Address)
    (alike : Place.Alike k places) :
    Walker.Related places ends (pattern.walk address) ((pattern.raise k).walk address) := by
  induction pattern generalizing places address with
  | empty =>
      exact fun place start record next after begun continues => continues place start record begun
  | text letters =>
      intro place start record next after begun continues
      exact Walker.onward_related outcomes record (alike.pastText? begun letters) continues
  | one set =>
      intro place start record next after begun continues
      exact Walker.onward_related outcomes record (alike.pastSet? begun set) continues
  | anchor condition =>
      intro place start record next after begun continues
      simp only [raise, walk, alike.holds begun]
      split
      · exact continues place start record begun
      · exact ⟨outcomes.none, rfl⟩
  | group index name body ih =>
      -- Where the group ends is not before where it begins.
      intro place start record next after begun continues
      apply ih address (alike.since place.offset) _ _ record _ _ ⟨begun, Nat.le_refl _⟩
      intro reached arrived record met
      exact continues _ _ record (alike.close index name begun met.1 met.2)
  | seq first second ihFirst ihSecond =>
      intro place start record next after begun continues
      exact ihFirst (0 :: address) alike _ _ record _ _ begun fun reached arrived record met =>
        ihSecond (1 :: address) alike _ _ record _ _ met continues
  | alt left right ihLeft ihRight =>
      intro place start record next after begun continues
      apply Walker.enter_related alike outcomes address begun record
      intro record
      apply Walker.first_related outcomes record
      · exact fun record => ihLeft (0 :: address) alike _ _ record _ _ begun continues
      · exact fun record => ihRight (1 :: address) alike _ _ record _ _ begun continues
  | times least most greedy body ih =>
      exact walk_times_related alike outcomes (fun address => ih address alike) least most greedy
        address

/-- Matches of a pattern and of the same pattern with raised numbers end in related ways. -/
theorem run_related (outcomes : Outcomes ends) (pattern : Pattern) (alike : Place.Alike k places) :
    Matcher.Related places ends pattern.run (pattern.raise k).run := by
  induction pattern generalizing places with
  | empty => exact fun place start next after begun continues => continues place start begun
  | text letters =>
      intro place start next after begun continues
      exact outcomes.bind (alike.pastText? begun letters) continues
  | one set =>
      intro place start next after begun continues
      exact outcomes.bind (alike.pastSet? begun set) continues
  | anchor condition =>
      intro place start next after begun continues
      simp only [raise, run, alike.holds begun]
      split
      · exact continues place start begun
      · exact outcomes.none
  | group index name body ih =>
      intro place start next after begun continues
      apply ih (alike.since place.offset) _ _ _ _ ⟨begun, Nat.le_refl _⟩
      intro reached arrived met
      exact continues _ _ (alike.close index name begun met.1 met.2)
  | seq first second ihFirst ihSecond =>
      intro place start next after begun continues
      exact ihFirst alike _ _ _ _ begun fun reached arrived met =>
        ihSecond alike _ _ _ _ met continues
  | alt first second ihFirst ihSecond =>
      intro place start next after begun continues
      exact outcomes.orElse (ihFirst alike _ _ _ _ begun continues)
        (ihSecond alike _ _ _ _ begun continues)
  | times least most greedy body ih =>
      intro place start next after begun continues
      have round := ih alike
      have walks := walk_related outcomes (times least most greedy body) [] alike
      simp only [raise, run, isSimple_raise]
      split
      · apply round.exactly least _ _ _ _ begun
        intro reached arrived met
        cases most with
        | some most =>
            exact round.upTo outcomes greedy (most - least) _ _ _ _ met continues
        | none =>
            simp only [alike.rest met]
            exact round.rounds outcomes greedy reached.rest _ _ _ _ met continues
      · exact (walks _ _ [] _ _ begun fun reached arrived record met =>
          ⟨continues reached arrived met, rfl⟩).1

end Pattern

end Related

/-! ### Raised numbers -/

/-- A capture under a raised number. -/
def Capture.raise (k : Nat) (capture : Capture) : Capture :=
  { capture with index := capture.index + k }

/-- The place with its captures under raised numbers, on top of others. -/
def Place.raise (k : Nat) (others : List Capture) (place : Place) : Place :=
  { place with captures := place.captures.map (Capture.raise k) ++ others }

theorem Place.alike_raise (k : Nat) (others : List Capture) :
    Alike k fun place other => other = place.raise k others where
  before := by rintro place _ rfl; rfl
  offset := by rintro place _ rfl; rfl
  rest := by rintro place _ rfl; rfl
  past := by rintro place _ c rest rfl _; rfl
  close := by rintro opened _ place _ index name rfl rfl _; rfl

/-- A match does not depend on the numbers of groups, nor on what was remembered before: it
remembers the same under the raised numbers, on top of that. -/
theorem Pattern.run_raise {α β : Type} (pattern : Pattern) (k : Nat) (others : List Capture)
    {next : Place → Option α} {after : Place → Option β} {f : α → β}
    (continues : ∀ reached : Place, after (reached.raise k others) = (next reached).map f)
    (place : Place) :
    (pattern.raise k).run (place.raise k others) after = (pattern.run place next).map f := by
  have outcomes : Outcomes fun (found : Option α) (other : Option β) => other = found.map f :=
    ⟨rfl, by rintro found _ rfl; simp⟩
  apply pattern.run_related outcomes (Place.alike_raise k others) _ _ _ _ rfl
  rintro reached _ rfl
  exact continues reached

/-! ### What every place reached has in common -/

/-- A property of places that reading a character keeps, and closing a group. -/
structure Place.Kept (holds : Place → Prop) : Prop where
  past {place : Place} {c rest} : holds place → place.rest = c :: rest → holds (place.past c rest)
  close {opened place : Place} (index : Nat) (name : Option String) : holds opened → holds place →
    opened.offset ≤ place.offset → holds (place.close index name opened.offset)

theorem Place.Kept.alike {holds : Place → Prop} (kept : Kept holds) :
    Alike 0 fun place other => other = place ∧ holds place where
  before := by rintro place _ ⟨rfl, -⟩; rfl
  offset := by rintro place _ ⟨rfl, -⟩; rfl
  rest := by rintro place _ ⟨rfl, -⟩; rfl
  past := by
    rintro place _ c rest ⟨rfl, here⟩ split
    exact ⟨rfl, kept.past here split⟩
  close := by
    rintro opened _ place _ index name ⟨rfl, begun⟩ ⟨rfl, here⟩ order
    exact ⟨rfl, kept.close index name begun here order⟩

/-- What a match finds it finds at a place with every property that is kept on the way. -/
theorem Pattern.kept_of_run {α : Type} {holds : Place → Prop} (kept : Place.Kept holds)
    {pattern : Pattern} {place : Place} {next : Place → Option α} {found : α} (here : holds place)
    (reaches : pattern.run place next = some found) :
    ∃ reached : Place, holds reached ∧ next reached = some found := by
  have outcomes : Outcomes fun one other : Option α => other = one
      ∧ ∀ found, one = some found → ∃ reached : Place, holds reached ∧ next reached = some found :=
    ⟨⟨rfl, nofun⟩, by rintro one _ ⟨rfl, -⟩; rfl⟩
  apply (pattern.run_related outcomes kept.alike place place next next ⟨rfl, here⟩ ?_).2 found
    reaches
  rintro reached arrived ⟨same, met⟩
  exact ⟨congrArg next same, fun found reaches => ⟨reached, met, reaches⟩⟩

/-! ### Places in a text -/

namespace Text

/-- A span has a text exactly if it covers the middle of three parts, which then is its text. -/
theorem slice?_eq_some_iff {text part : List Char} {span : Span} :
    slice? text span = some part
      ↔ ∃ front back, text = front ++ part ++ back
          ∧ span = ⟨byteLength front, byteLength front + byteLength part⟩ := by
  obtain ⟨start, stop⟩ := span
  constructor
  · intro found
    unfold slice? at found
    split at found
    · cases found
    · next order =>
        obtain ⟨rest, dropped, taken⟩ := Option.bind_eq_some_iff.1 found
        obtain ⟨front, rfl, rfl⟩ := dropBytes?_eq_some_iff.1 dropped
        obtain ⟨back, rfl, long⟩ := takeBytes?_eq_some_iff.1 taken
        refine ⟨front, back, (List.append_assoc _ _ _).symm, ?_⟩
        simp only at order long
        rw [long, Nat.add_sub_cancel' (Nat.le_of_not_lt order)]
  · rintro ⟨front, back, rfl, same⟩
    cases same
    simp [slice?, List.append_assoc]

end Text

/-- The place stands in a text, and so does everything that it remembers. -/
structure Place.Inside (text : List Char) (place : Place) : Prop where
  split : ∃ read, text = read ++ place.rest ∧ place.offset = byteLength read
  fits : ∀ capture ∈ place.captures, (Text.slice? text capture.span).isSome

namespace Place

variable {text : List Char}

theorem inside_start (text : List Char) : (start text).Inside text :=
  ⟨⟨[], rfl, rfl⟩, by simp [start]⟩

theorem Inside.past {place : Place} {c : Char} {rest : List Char} (inside : place.Inside text)
    (split : place.rest = c :: rest) : (place.past c rest).Inside text := by
  obtain ⟨⟨read, whole, offset⟩, fits⟩ := inside
  refine ⟨⟨read ++ [c], ?_, ?_⟩, fits⟩
  · simp [whole, split, Place.past]
  · simp [offset, Place.past]

theorem Inside.close {opened place : Place} (begun : opened.Inside text)
    (inside : place.Inside text) (order : opened.offset ≤ place.offset) (index : Nat)
    (name : Option String) : (place.close index name opened.offset).Inside text := by
  refine ⟨inside.split, List.forall_mem_cons.2 ⟨?_, inside.fits⟩⟩
  obtain ⟨front, whole, first⟩ := begun.split
  obtain ⟨read, split, last⟩ := inside.split
  have longer : ∃ part, read = front ++ part := by
    rcases List.append_eq_append_iff.1 (whole.symm.trans split) with
      ⟨part, more, -⟩ | ⟨part, less, -⟩
    · exact ⟨part, more⟩
    · rw [first, last, less, Text.byteLength_append] at order
      have none : part = [] := Text.byteLength_eq_zero.1 (by omega)
      exact ⟨[], by rw [less, none, List.append_nil, List.append_nil]⟩
  obtain ⟨part, rfl⟩ := longer
  apply Option.isSome_of_eq_some
  apply Text.slice?_eq_some_iff.2
  exact ⟨front, place.rest, split, by rw [first, last, Text.byteLength_append]⟩

theorem kept_inside (text : List Char) : Kept (Inside text) where
  past := Inside.past
  close index name opened inside order := opened.close inside order index name

end Place

theorem Pattern.inside_of_find? {text : List Char} {pattern : Pattern} {reached : Place}
    (found : pattern.find? text = some reached) : reached.Inside text := by
  obtain ⟨place, inside, same⟩ :=
    kept_of_run (Place.kept_inside text) (Place.inside_start text) found
  rwa [← Option.some.inj same]

end LiquidTokens
