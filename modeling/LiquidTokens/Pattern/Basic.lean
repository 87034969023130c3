import LiquidTokens.Pattern.CharSet

/-!
Patterns: regular expressions as data. A pattern describes initial parts of a text and
prefers some of them to others; which one it finds is said in `Pattern.Match`, how it is
written in `Pattern.Reader`.

Patterns are put together by `Pattern.sequence`, `Pattern.choice` and `Pattern.repeated`,
which leave out what changes nothing and join what belongs together.
-/

namespace LiquidTokens

/-! ### Patterns -/

/-- Conditions on a place in a text that read nothing. -/
inductive Anchor where
  | textStart
  | textEnd
  /-- A word character on exactly one side. -/
  | wordBoundary
  /-- A word character on both sides or on neither. -/
  | insideWord
  /-- A word character after the place and none before it. -/
  | wordStart
  /-- A word character before the place and none after it. -/
  | wordEnd
  deriving DecidableEq, Repr

/-- A pattern. -/
inductive Pattern where
  /-- Reads nothing. -/
  | empty
  /-- Reads just these characters. -/
  | text (letters : List Char)
  /-- Reads one character of a set. -/
  | one (set : CharSet)
  | anchor (condition : Anchor)
  /-- Remembers what `body` reads, under a number and perhaps a name. -/
  | group (index : Nat) (name : Option String) (body : Pattern)
  | seq (first second : Pattern)
  /-- Prefers `first` to `second`. -/
  | alt (first second : Pattern)
  /-- Reads `body` at least `least` times and, when `most` is given, at most that often.
  A greedy pattern prefers another round to none, one that is not greedy prefers to
  stop. -/
  | times (least : Nat) (most : Option Nat) (greedy : Bool) (body : Pattern)
  deriving DecidableEq, Repr

namespace Pattern

/-- Matches nowhere. -/
def fail : Pattern :=
  one .none

/-- The pattern of a set. A set of one character is that character's text. -/
def ofSet (set : CharSet) : Pattern :=
  match set.first? with
  | none => fail
  | some c => if set.same (.single c) then text [c] else one set

/-- There may be a way through the pattern that reads nothing. -/
def isNullable : Pattern → Bool
  | empty | anchor _ => true
  | text letters => letters.isEmpty
  | one _ => false
  | group _ _ body => body.isNullable
  | seq first second => first.isNullable && second.isNullable
  | alt first second => first.isNullable || second.isNullable
  | times least _ _ body => least == 0 || body.isNullable

/-- Some part of the pattern matches nowhere. -/
def hasFail : Pattern → Bool
  | empty | text _ | anchor _ => false
  | one set => set = .none
  | group _ _ body | times _ _ _ body => body.hasFail
  | seq first second | alt first second => first.hasFail || second.hasFail

/-- The pattern is known to read something. Of a pattern with a part that matches nowhere
this is not known. -/
def alwaysReads (pattern : Pattern) : Bool :=
  !pattern.isNullable && !pattern.hasFail

/-- The pattern holds no repetition. -/
def isFlat : Pattern → Bool
  | empty | text _ | one _ | anchor _ => true
  | group _ _ body => body.isFlat
  | seq first second | alt first second => first.isFlat && second.isFlat
  | times _ _ _ _ => false

/-- The pattern always reads something and holds no repetition. -/
def isSimple (pattern : Pattern) : Bool :=
  pattern.isFlat && pattern.alwaysReads

/-- No way through the pattern reads anything. -/
def isZeroWidth : Pattern → Bool
  | empty | anchor _ => true
  | text letters => letters.isEmpty
  | one _ => false
  | group _ _ body => body.isZeroWidth
  | seq first second | alt first second => first.isZeroWidth && second.isZeroWidth
  | times _ most _ body => most == some 0 || body.isZeroWidth

/-- The greatest number of a group that can take part in a match, or zero. -/
def lastGroup : Pattern → Nat
  | empty | text _ | one _ | anchor _ => 0
  | group index _ body => max index body.lastGroup
  | seq first second | alt first second => max first.lastGroup second.lastGroup
  | times _ _ _ body => body.lastGroup

/-! ### Putting patterns together -/

/-- The patterns of a sequence. -/
def items : Pattern → List Pattern
  | empty => []
  | seq first second => first.items ++ second.items
  | item => [item]

/-- The alternatives of a pattern. -/
def branches : Pattern → List Pattern
  | alt first second => first.branches ++ second.branches
  | branch => [branch]

/-- Puts an item in front of others; texts that follow one another are one text. -/
def consItem : Pattern → List Pattern → List Pattern
  | text letters, text more :: items => text (letters ++ more) :: items
  | item, items => item :: items

/-- The patterns of a list one after the other. -/
def ofItems : List Pattern → Pattern
  | [] => empty
  | [item] => item
  | item :: items => seq item (ofItems items)

/-- The sequence of some patterns, of which those that are sequences themselves are
resolved into their items. -/
def sequence (patterns : List Pattern) : Pattern :=
  ofItems ((patterns.flatMap items).foldr consItem [])

/-- The alternatives of a list, the first preferred. -/
def ofBranches : List Pattern → Pattern
  | [] => fail
  | [branch] => branch
  | branch :: branches => alt branch (ofBranches branches)

/-- Two patterns that are built alike from sets with the same members. -/
def same : Pattern → Pattern → Bool
  | empty, empty => true
  | text letters, text others => letters == others
  | one set, one other => set.same other
  | anchor condition, anchor other => condition == other
  | group index name body, group number title other =>
      index == number && name == title && body.same other
  | seq first second, seq third fourth => first.same third && second.same fourth
  | alt first second, alt third fourth => first.same third && second.same fourth
  | times least most greedy body, times fewest limit eager other =>
      least == fewest && most == limit && greedy == eager && body.same other
  | _, _ => false

/-- The longest beginning that two lists share. -/
def commonStart : List Pattern → List Pattern → List Pattern
  | item :: items, other :: others =>
      if item.same other then item :: commonStart items others else []
  | _, _ => []

/-- The beginning that all branches share, if there are several and each has at least two
items. -/
def sharedStart (branches : List Pattern) : List Pattern :=
  match branches with
  | first :: second :: others =>
      if branches.all fun branch => 2 ≤ branch.items.length then
        (second :: others).foldl (fun start branch => commonStart start branch.items) first.items
      else []
  | _ => []

/-- The character of a pattern that reads just this one, as a set. -/
def letter? : Pattern → Option CharSet
  | text [c] => some (.single c)
  | _ => none

/-- The set that a pattern reads one character of. -/
def set? : Pattern → Option CharSet
  | one set => some set
  | _ => none

/-- The set that some branches read one character of between them: each must read a given
character, or each one of a set. -/
def joinedSet? (branches : List Pattern) : Option CharSet :=
  ((branches.mapM letter?).or (branches.mapM set?)).map fun sets => sets.foldl .insert .none

/-- Branches put together, as one set if they are that. -/
def join (branches : List Pattern) : Pattern :=
  match joinedSet? branches with
  | some set => ofSet set
  | none => ofBranches branches

/-- The choice between some patterns, of which those that are choices themselves are
resolved into their branches. What all branches begin with is read once, before the choice
is made; its preferences therefore come before the order of the branches. -/
def choice (patterns : List Pattern) : Pattern :=
  let all := patterns.flatMap branches
  match sharedStart all with
  | [] => join all
  | start =>
      let ends := all.map fun branch => sequence (branch.items.drop start.length)
      sequence (start ++ [join (ends.flatMap branches)])

/-- A repetition. What reads nothing is not repeated, what is never read is nothing, and
what is read exactly once is itself. -/
def repeated (least : Nat) (most : Option Nat) (greedy : Bool) (body : Pattern) : Pattern :=
  let (least, most) :=
    if body.isZeroWidth then (min least 1, some (min (most.getD 1) 1)) else (least, most)
  if most = some 0 then empty
  else if least = 1 ∧ most = some 1 then body
  else times least most greedy body

end Pattern

end LiquidTokens
