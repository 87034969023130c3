import LiquidTokens.Pattern.Walk

/-!
Matching. A pattern is tried at a place in a text and hands each place it can reach, in
order of preference, to the rest of the match until the rest succeeds. What is found is
therefore the most preferred way through the whole pattern.

A repetition whose body is simple, which means that it always reads something and holds no
other repetition, is read round after round. Any other repetition is walked with a record,
as `Pattern.Walk` says.

Main statements: `run_seq`, `run_alt`, `run_group` and the other equations that say how
each form of pattern passes a place on, and `run_ofSet` (a set reads one of its members,
whether it is one character or many).
-/

namespace LiquidTokens

namespace Pattern

variable {α : Type}

/-- Offers the places that the pattern reaches to the rest of the match. -/
def run : Pattern → Matcher α
  | empty, place, next => next place
  | text letters, place, next => (place.pastText? letters).bind next
  | one set, place, next => (place.pastSet? set).bind next
  | anchor condition, place, next => if condition.holds place then next place else none
  | group index name body, place, next =>
      body.run place fun reached => next (reached.close index name place.offset)
  | seq first second, place, next => first.run place fun reached => second.run reached next
  | alt first second, place, next =>
      (first.run place next).orElse fun _ => second.run place next
  | times least most greedy body, place, next =>
      if body.isSimple then
        Matcher.exactly body.run least place fun reached =>
          match most with
          | some most => Matcher.upTo greedy body.run (most - least) reached next
          | none => Matcher.rounds greedy body.run reached.rest reached next
      else (times least most greedy body).walked place next

@[simp] theorem run_empty (place : Place) (next : Place → Option α) :
    empty.run place next = next place := rfl

@[simp] theorem run_seq (first second : Pattern) (place : Place) (next : Place → Option α) :
    (seq first second).run place next
      = first.run place fun reached => second.run reached next := rfl

@[simp] theorem run_alt (first second : Pattern) (place : Place) (next : Place → Option α) :
    (alt first second).run place next
      = (first.run place next).or (second.run place next) := by
  simp only [run]
  cases first.run place next <;> rfl

@[simp] theorem run_group (index : Nat) (name : Option String) (body : Pattern)
    (place : Place) (next : Place → Option α) :
    (group index name body).run place next
      = body.run place fun reached => next (reached.close index name place.offset) := rfl

@[simp] theorem run_fail (place : Place) (next : Place → Option α) :
    fail.run place next = none := by
  simp only [fail, run, Place.pastSet?]
  split <;> simp [CharSet.contains]

/-- The pattern of a set reads one character of the set, in whatever form it is written. -/
theorem run_ofSet (set : CharSet) (place : Place) (next : Place → Option α) :
    (ofSet set).run place next = (one set).run place next := by
  unfold ofSet
  split
  next empty =>
    have outside := CharSet.first?_eq_none_iff.1 empty
    simp only [run_fail, run, Place.pastSet?]
    split <;> simp [outside]
  next c _ =>
    split
    next alike =>
      have members := CharSet.same_iff.1 alike
      simp only [run, Place.pastText?, Place.pastSet?, members, CharSet.contains]
      cases place.rest <;> simp
    next => rfl

/-- The most preferred place that the pattern reaches from the start of a text. -/
def find? (pattern : Pattern) (text : List Char) : Option Place :=
  pattern.run (Place.start text) some

end Pattern

end LiquidTokens
