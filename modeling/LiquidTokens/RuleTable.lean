import LiquidTokens.Pattern.Match
import LiquidTokens.Pattern.Nesting
import LiquidTokens.SetupError

/-!
Rule tables. A table is an ordered list of rules with a pattern each; at a position of a
text it finds the first rule, in the order of the list, whose pattern matches there.

The written patterns are joined to one alternation, each in a group of its own, and the
group that took part in a match tells the rule. The number of a rule's group is counted
from the groups of the patterns before it.

Main statements: `RuleTable.hitAt?_of_not_boundary` (nothing is found off the character
boundaries of the text) and `RuleTable.span_of_hitAt?` (a hit begins where it was looked for
and is not empty).
-/

namespace LiquidTokens

open Text (Span byteLength dropBytes? slice)

/-- An ordered list of rules made into one pattern. -/
structure RuleTable (R : Type) where
  pattern : Pattern
  /-- The rules in order, each with the number of its group. -/
  rules : List (Nat × R)

namespace RuleTable

variable {R : Type}

/-! ### Making a table -/

/-- The written form of the alternation of some written patterns, at the start of a
text. -/
def joined (patterns : List String) : List Char :=
  "\\A(?:".toList
    ++ (List.intersperse ['|'] (patterns.map fun text => '(' :: text.toList ++ [')'])).flatten
    ++ [')']

/-- Numbers the outer groups: the first is `next`, and each pattern takes one number for
its outer group and one for every group up to its last. -/
def number (next : Nat) : List (R × Pattern) → List (Nat × R)
  | [] => []
  | (rule, pattern) :: rules => (next, rule) :: number (next + 1 + pattern.lastGroup) rules

/-- A rule with its pattern, which is blamed on the rule if it is refused alone. The rule is
named by `label`. -/
def compileAlone (label : R → String) (entry : R × String) : Except SetupError (R × Pattern) :=
  match Pattern.compile? entry.2.toList with
  | some pattern => .ok (entry.1, pattern)
  | none => .error (.invalidPattern (label entry.1))

/-- Makes a table of rules and their written patterns. When only the joined pattern is refused,
as happens when two patterns name the same group, no single rule is blamed. -/
def compile (label : R → String) (rules : List (R × String)) :
    Except SetupError (RuleTable R) := do
  let patterns ← rules.mapM (compileAlone label)
  match Pattern.compile? (joined (rules.map Prod.snd)) with
  | some pattern => .ok ⟨pattern, number 1 patterns⟩
  | none => .error (.invalidPattern SetupError.combinedRule)

/-- The number of rules. -/
def size (table : RuleTable R) : Nat :=
  table.rules.length

/-- There are no rules. -/
def isEmpty (table : RuleTable R) : Bool :=
  table.rules.isEmpty

/-! ### Finding a rule -/

/-- A stretch of a text together with its characters. -/
structure Found where
  span : Span
  text : List Char
  deriving DecidableEq, Repr

/-- What a table finds at a position. Spans are counted from the start of the whole
text. -/
structure Hit (R : Type) where
  rule : R
  whole : Found
  /-- The named groups that took part, the latest first. -/
  named : List (String × Found)
  deriving DecidableEq, Repr

namespace Hit

/-- What a named group read, if it took part. -/
def group? (hit : Hit R) (name : String) : Option Found :=
  (hit.named.find? (·.1 == name)).map Prod.snd

/-- The characters that a named group read, if it took part. -/
def text? (hit : Hit R) (name : String) : Option (List Char) :=
  (hit.group? name).map Found.text

/-- The position just past the hit. -/
def stop (hit : Hit R) : Nat :=
  hit.whole.span.stop

end Hit

/-- The stretch of `rest` that a span covers, for a `rest` that begins at `base`. -/
def foundAt (base : Nat) (rest : List Char) (span : Span) : Found :=
  ⟨span.shift base, slice rest span⟩

/-- The hit that a completed match at `base` amounts to, if it is not empty. -/
def hitOf? (table : RuleTable R) (base : Nat) (rest : List Char) (reached : Place) :
    Option (Hit R) :=
  if reached.offset = 0 then none
  else
    (table.rules.find? fun (index, _) => (reached.group? index).isSome).map fun (_, rule) =>
      { rule
        whole := foundAt base rest ⟨0, reached.offset⟩
        named := reached.captures.filterMap fun capture =>
          capture.name.map (·, foundAt base rest capture.span) }

/-- The rule that matches at a position, with what it read. There is none when the
position is no character boundary of the text or lies past its end, when no rule matches
there, and when the match is empty. -/
def hitAt? (table : RuleTable R) (text : List Char) (offset : Nat) : Option (Hit R) :=
  (dropBytes? text offset).bind fun rest =>
    (table.pattern.find? rest).bind (table.hitOf? offset rest)

/-- Nothing is found off the character boundaries of the text. -/
theorem hitAt?_of_not_boundary {table : RuleTable R} {text : List Char} {offset : Nat}
    (off : dropBytes? text offset = none) : table.hitAt? text offset = none := by
  simp [hitAt?, off]

/-- A hit begins where it was looked for and is not empty. -/
theorem span_of_hitAt? {table : RuleTable R} {text : List Char} {offset : Nat} {hit : Hit R}
    (found : table.hitAt? text offset = some hit) :
    hit.whole.span.start = offset ∧ offset < hit.stop := by
  simp only [hitAt?, Option.bind_eq_some_iff] at found
  obtain ⟨rest, -, reached, -, found⟩ := found
  unfold hitOf? at found
  split at found
  · simp at found
  · next read =>
      obtain ⟨rule, -, rfl⟩ := Option.map_eq_some_iff.1 found
      simp only [foundAt, Span.shift, Hit.stop]
      omega

/-- The hits that follow one another from a position on, at most as many as `bound`, and
the position where none follows. -/
def scanFrom (table : RuleTable R) (text : List Char) : Nat → Nat → List (Hit R) × Nat
  | 0, offset => ([], offset)
  | bound + 1, offset =>
      match table.hitAt? text offset with
      | none => ([], offset)
      | some hit =>
          let (hits, stopped) := table.scanFrom text bound hit.stop
          (hit :: hits, stopped)

/-- The hits that follow one another from the start of a text, and the position where none
follows. Every hit has at least one character. -/
def scan (table : RuleTable R) (text : List Char) : List (Hit R) × Nat :=
  table.scanFrom text text.length 0

end RuleTable

end LiquidTokens
