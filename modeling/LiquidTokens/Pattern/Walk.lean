import LiquidTokens.Pattern.Place

/-!
Walks: matching with a record of where the match has been.

A loop whose rounds may read nothing could be gone round for ever, and loops inside loops
can be gone through in very many ways that come to the same. So such patterns are walked:
every point at which there is a choice has an address, and a walk that comes to a point and
a position where it has been before goes no further. What can be reached from there was
tried, or is being tried, with a higher preference. So every walk ends, and what it finds
is the most preferred way on which no point is passed twice at one position.

A copy of a body that is read several times in a row has addresses of its own.
-/

namespace LiquidTokens.Pattern

/-- The address of a part of a pattern: the way down to it, the last turn first. -/
abbrev Address :=
  List Nat

/-- The points and positions where a walk has been. -/
abbrev Record :=
  List (Address × Nat)

/-- A walker takes a place, a record and the rest of the walk, and returns what the rest
found and the record at the end. -/
abbrev Walker (α : Type) :=
  Place → Record → (Place → Record → Option α × Record) → Option α × Record

namespace Walker

variable {α : Type}

/-- Goes on only if the walk has not been at this point and position before. -/
def enter (point : Address) (place : Place) (record : Record)
    (go : Record → Option α × Record) : Option α × Record :=
  if record.contains (point, place.offset) then (none, record)
  else go ((point, place.offset) :: record)

/-- Two ways to go on; the second is tried when the first fails. -/
def first (record : Record) (one other : Record → Option α × Record) : Option α × Record :=
  match one record with
  | (some found, after) => (some found, after)
  | (none, after) => other after

/-- Two ways to go on, of which `greedy` prefers the first. -/
def prefer (greedy : Bool) (record : Record) (more stop : Record → Option α × Record) :
    Option α × Record :=
  if greedy then first record more stop else first record stop more

/-- Goes on from a place, if there is one. -/
def onward (reached : Option Place) (record : Record)
    (next : Place → Record → Option α × Record) : Option α × Record :=
  match reached with
  | some place => next place record
  | none => (none, record)

/-- The rounds with the numbers from `number` on, `count` of them. -/
def exactly (round : Nat → Walker α) (number : Nat) : Nat → Walker α
  | 0, place, record, next => next place record
  | count + 1, place, record, next =>
      round number place record fun reached record =>
        exactly round (number + 1) count reached record next

/-- Up to `count` rounds with the numbers from `number` on, each behind a point of its
own. -/
def upTo (greedy : Bool) (point : Nat → Address) (round : Nat → Walker α) (number : Nat) :
    Nat → Walker α
  | 0, place, record, next => next place record
  | count + 1, place, record, next =>
      enter (point number) place record fun record =>
        prefer greedy record
          (fun record => round number place record fun reached record =>
            upTo greedy point round (number + 1) count reached record next)
          (fun record => next place record)

/-- Any number of rounds, with one point before each and before the end. No position is
met twice at the point, so the list of the characters that are left bounds the rounds. -/
def around (greedy : Bool) (point : Address) (round : Walker α) : List Char → Walker α
  | [], place, record, next => enter point place record fun record => next place record
  | _ :: bound, place, record, next =>
      enter point place record fun record =>
        prefer greedy record
          (fun record => round place record fun reached record =>
            around greedy point round bound reached record next)
          (fun record => next place record)

end Walker

open Walker

variable {α : Type}

/-- Walks through a pattern at an address. -/
def walk : Pattern → Address → Walker α
  | empty, _, place, record, next => next place record
  | text letters, _, place, record, next => onward (place.pastText? letters) record next
  | one set, _, place, record, next => onward (place.pastSet? set) record next
  | anchor condition, _, place, record, next =>
      if condition.holds place then next place record else (none, record)
  | group index name body, address, place, record, next =>
      body.walk address place record fun reached record =>
        next (reached.close index name place.offset) record
  | seq first second, address, place, record, next =>
      first.walk (0 :: address) place record fun reached record =>
        second.walk (1 :: address) reached record next
  | alt left right, address, place, record, next =>
      enter address place record fun record =>
        Walker.first record (fun record => left.walk (0 :: address) place record next)
          fun record => right.walk (1 :: address) place record next
  | times least (some most) greedy body, address, place, record, next =>
      let round number : Walker α := body.walk (1 :: number :: address)
      exactly round 0 least place record fun reached record =>
        upTo greedy (fun number => 0 :: number :: address) round least (most - least) reached
          record next
  | times 0 none greedy body, address, place, record, next =>
      let round : Walker α := body.walk (1 :: address)
      if body.alwaysReads then around greedy (0 :: address) round place.rest place record next
      else
        enter (2 :: address) place record fun record =>
          prefer greedy record
            (fun record => round place record fun reached record =>
              around greedy (0 :: address) round reached.rest reached record next)
            (fun record => next place record)
  | times (least + 1) none greedy body, address, place, record, next =>
      let round number : Walker α := body.walk (1 :: number :: address)
      exactly round 0 (least + 1) place record fun reached record =>
        around greedy (0 :: least :: address) (round least) reached.rest reached record next

/-- A walk through a pattern that begins with an empty record. -/
def walked (pattern : Pattern) : Matcher α :=
  fun place next =>
    (pattern.walk [] place [] fun reached record => (next reached, record)).1

end LiquidTokens.Pattern
