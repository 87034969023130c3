import LiquidTokens.Pattern.Basic
import LiquidTokens.Text.Position

/-!
Places in a text during a match, and what they remember.

A matcher is given a place and the rest of the match, and offers the places that it can
reach to the rest, in its order of preference, until the rest succeeds.
-/

namespace LiquidTokens

open Text (Span)

/-- What a group remembers: its number, its name and what it read. -/
structure Capture where
  index : Nat
  name : Option String
  span : Span
  deriving DecidableEq, Repr

/-- A place in a text during a match. -/
structure Place where
  /-- The character just before the place; none at the start of the text. -/
  before : Option Char
  /-- The number of bytes before the place. -/
  offset : Nat
  /-- The text from the place on. -/
  rest : List Char
  /-- What the groups closed so far remember, the latest first. -/
  captures : List Capture
  deriving DecidableEq, Repr

namespace Place

/-- The start of a text. -/
def start (text : List Char) : Place :=
  ⟨none, 0, text, []⟩

/-- The place after the next character `c`. -/
def past (place : Place) (c : Char) (rest : List Char) : Place :=
  ⟨some c, place.offset + c.utf8Size, rest, place.captures⟩

/-- The place after some characters, if they come next. -/
def pastText? (place : Place) : List Char → Option Place
  | [] => some place
  | letter :: letters =>
      match place.rest with
      | [] => none
      | c :: rest => if c = letter then (place.past c rest).pastText? letters else none

/-- The place after a character of a set, if one comes next. -/
def pastSet? (place : Place) (set : CharSet) : Option Place :=
  match place.rest with
  | [] => none
  | c :: rest => if set.contains c then some (place.past c rest) else none

/-- The same place with one more group closed. -/
def close (place : Place) (index : Nat) (name : Option String) (opened : Nat) : Place :=
  { place with captures := ⟨index, name, opened, place.offset⟩ :: place.captures }

/-- What the group with a number remembers. -/
def group? (place : Place) (index : Nat) : Option Capture :=
  place.captures.find? (·.index == index)

/-- What the group with a name remembers. -/
def named? (place : Place) (name : String) : Option Capture :=
  place.captures.find? (·.name == some name)

end Place

/-- The condition holds at a place. -/
def Anchor.holds (condition : Anchor) (place : Place) : Bool :=
  let wordBefore := place.before.any Text.isWord
  let wordAfter := place.rest.head?.any Text.isWord
  match condition with
  | textStart => place.before.isNone
  | textEnd => place.rest.isEmpty
  | wordBoundary => wordBefore != wordAfter
  | insideWord => wordBefore == wordAfter
  | wordStart => !wordBefore && wordAfter
  | wordEnd => wordBefore && !wordAfter

/-- A matcher takes a place and the rest of the match, and offers places to it. -/
abbrev Matcher (α : Type) :=
  Place → (Place → Option α) → Option α

namespace Matcher

variable {α : Type}

/-- Two ways to go on, of which `greedy` prefers the first. The other is tried only when
the preferred one fails. -/
def prefer (greedy : Bool) (more stop : Unit → Option α) : Option α :=
  if greedy then (more ()).orElse stop else (stop ()).orElse more

/-- Exactly `count` rounds. -/
def exactly (round : Matcher α) : Nat → Matcher α
  | 0, place, next => next place
  | count + 1, place, next => round place fun reached => exactly round count reached next

/-- Up to `count` rounds. -/
def upTo (greedy : Bool) (round : Matcher α) : Nat → Matcher α
  | 0, place, next => next place
  | count + 1, place, next =>
      prefer greedy (fun _ => round place fun reached => upTo greedy round count reached next)
        fun _ => next place

/-- Any number of rounds that each read something. The list is a part of the text no
shorter than what is left; it bounds the number of rounds. -/
def rounds (greedy : Bool) (round : Matcher α) : List Char → Matcher α
  | [], place, next => next place
  | _ :: bound, place, next =>
      prefer greedy
        (fun _ => round place fun reached => rounds greedy round bound reached next)
        fun _ => next place

end Matcher

end LiquidTokens
