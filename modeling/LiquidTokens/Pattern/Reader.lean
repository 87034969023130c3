import LiquidTokens.Pattern.Basic

/-!
The written form of patterns, read one character at a time.

A pattern is written with literal characters; `.` for any character; `^`, `$`, `\A`, `\z`,
`\b`, `\B`, `\<` and `\>` for anchors; `\d`, `\s`, `\w` and their capital complements for
sets; bracketed sets with ranges; `(…)`, `(?:…)` and `(?P<name>…)` for groups; `|` between
alternatives; and the quantifiers `*`, `+`, `?`, `{m}`, `{m,}` and `{m,n}`, each followed by
`?` when it is not greedy. A backslash makes any ASCII punctuation literal, and `\n`, `\r`,
`\t`, `\a`, `\f` and `\v` stand for control characters. Flags, set operations and nested
sets are not part of the language and are refused.

What has been read so far is a mode, which says how the next character is to be taken, and
the levels of the groups that are open. Reading is a fold of `Reader.step`, so reading a
text and then another is reading their concatenation (`Reader.readFrom_append`).
-/

namespace LiquidTokens.Pattern

namespace Reader

/-! ### Escapes -/

/-- What a backslash and a character stand for. -/
inductive Escaped where
  | literal (c : Char)
  | set (members : CharSet)
  | anchor (condition : Anchor)

/-- The meaning of a backslash before `c`. Letters and digits without a meaning, and
characters outside ASCII, are refused. -/
def escaped? (c : Char) : Option Escaped :=
  match c with
  | 'd' => some (.set .digit)
  | 'D' => some (.set (.compl .digit))
  | 's' => some (.set .blank)
  | 'S' => some (.set (.compl .blank))
  | 'w' => some (.set .word)
  | 'W' => some (.set (.compl .word))
  | 'A' => some (.anchor .textStart)
  | 'z' => some (.anchor .textEnd)
  | 'b' => some (.anchor .wordBoundary)
  | 'B' => some (.anchor .insideWord)
  | '<' => some (.anchor .wordStart)
  | '>' => some (.anchor .wordEnd)
  | 'a' => some (.literal '\x07')
  | 'f' => some (.literal '\x0c')
  | 'n' => some (.literal '\n')
  | 'r' => some (.literal '\r')
  | 't' => some (.literal '\t')
  | 'v' => some (.literal '\x0b')
  | c => if c.toNat < 0x80 && !c.isAlphanum then some (.literal c) else none

/-! ### States -/

/-- One level of a pattern: the alternatives that are complete and the items of the one
being read, each list with the latest first. -/
structure Level where
  branches : List Pattern
  items : List Pattern
  deriving DecidableEq, Repr

namespace Level

/-- A level of which nothing has been read. -/
def fresh : Level :=
  ⟨[], []⟩

/-- One more item. -/
def push (level : Level) (item : Pattern) : Level :=
  { level with items := item :: level.items }

/-- The current alternative is complete. -/
def bar (level : Level) : Level :=
  ⟨sequence level.items.reverse :: level.branches, []⟩

/-- Repeats the latest item. -/
def quantify (level : Level) (least : Nat) (most : Option Nat) (greedy : Bool) : Level :=
  match level.items with
  | [] => level
  | item :: items => { level with items := repeated least most greedy item :: items }

/-- The pattern of a level that is complete. -/
def pattern (level : Level) : Pattern :=
  choice level.bar.branches.reverse

end Level

/-- How a group that is open was opened. -/
inductive Opening where
  | plain
  | capture (index : Nat) (name : Option String)
  deriving DecidableEq, Repr

/-- The item that a closed group makes of its body. -/
def Opening.close : Opening → Pattern → Pattern
  | plain, body => body
  | capture index name, body => group index name body

/-- The digits of a number inside braces, with blanks around them. -/
inductive Digits where
  | untouched
  | blanks
  | reading (value : Nat)
  | complete (value : Nat)
  deriving DecidableEq, Repr

/-- The number read, if there is one. -/
def Digits.value? : Digits → Option Nat
  | reading value | complete value => some value
  | untouched | blanks => none

/-- How far a bracketed set has been read. -/
inductive Bracket where
  /-- Just opened. -/
  | opened
  /-- Before the first member other than leading hyphens; `bare` when there is none. -/
  | leading (bare : Bool)
  | member
  /-- After a character that may begin a range; `written` when it stands for itself
  without a backslash. -/
  | after (c : Char) (written : Bool)
  /-- After a set, which may not begin a range. -/
  | afterSet
  /-- After a hyphen that may join `c` to the next character. -/
  | hyphen (c : Char)
  /-- After a set and a hyphen. -/
  | setHyphen
  /-- After a backslash, which follows `c` and a hyphen when `c` is given. -/
  | backslash (c : Option Char)
  deriving DecidableEq, Repr

/-- How the next character is to be taken. -/
inductive Mode where
  | item
  /-- After a quantifier, which has yet to be applied to the latest item. -/
  | quantified (least : Nat) (most : Option Nat)
  | backslash
  /-- After `(`. -/
  | opened
  /-- After `(?`. -/
  | flags
  /-- After `(?P`. -/
  | naming
  /-- Inside the name of a group, the latest letter first. -/
  | name (letters : List Char)
  /-- Inside braces; `least` is the first number once its comma has been read. -/
  | count (least : Option Nat) (digits : Digits)
  /-- Inside brackets, with the members read so far. -/
  | bracket (place : Bracket) (negated : Bool) (members : CharSet)
  deriving DecidableEq, Repr

/-- What has been read of a pattern. -/
structure State where
  mode : Mode
  level : Level
  /-- The groups that are open, the innermost first, each with the level around it. -/
  outer : List (Opening × Level)
  /-- The number of capturing groups opened so far. -/
  groups : Nat
  /-- The names given so far. -/
  names : List String
  deriving DecidableEq, Repr

/-- Nothing has been read. -/
def State.start : State :=
  ⟨.item, .fresh, [], 0, []⟩

namespace State

/-- One more item, after which the next is expected. -/
def push (state : State) (item : Pattern) : State :=
  { state with mode := .item, level := state.level.push item }

/-- Opens a group. -/
def openGroup (state : State) (opening : Opening) : State :=
  { state with mode := .item, level := .fresh, outer := (opening, state.level) :: state.outer }

/-- Opens a capturing group with the next number. -/
def openCapture (state : State) (name : Option String) : State :=
  { state.openGroup (.capture (state.groups + 1) name) with groups := state.groups + 1 }

/-- Closes the innermost group, if one is open. -/
def closeGroup? (state : State) : Option State :=
  match state.outer with
  | [] => none
  | (opening, around) :: outer =>
      some { state with
        mode := .item, level := around.push (opening.close state.level.pattern), outer }

/-- A quantifier has been read; it needs an item to apply to. -/
def quantify? (state : State) (least : Nat) (most : Option Nat) : Option State :=
  if state.level.items.isEmpty then none
  else some { state with mode := .quantified least most }

/-- Applies a quantifier to the latest item. -/
def apply (state : State) (least : Nat) (most : Option Nat) (greedy : Bool) : State :=
  { state with mode := .item, level := state.level.quantify least most greedy }

end State

/-! ### Steps -/

/-- The next character where an item may stand. -/
def stepItem (state : State) (c : Char) : Option State :=
  match c with
  | '(' => some { state with mode := .opened }
  | ')' => state.closeGroup?
  | '|' => some { state with mode := .item, level := state.level.bar }
  | '[' => some { state with mode := .bracket .opened false .none }
  | '*' => state.quantify? 0 none
  | '+' => state.quantify? 1 none
  | '?' => state.quantify? 0 (some 1)
  | '\x7b' =>
      if state.level.items.isEmpty then none
      else some { state with mode := .count none .untouched }
  | '\\' => some { state with mode := .backslash }
  | '.' => some (state.push (one .any))
  | '^' => some (state.push (anchor .textStart))
  | '$' => some (state.push (anchor .textEnd))
  | c => some (state.push (text [c]))

/-- The character after a backslash. -/
def stepBackslash (state : State) (c : Char) : Option State :=
  (escaped? c).map fun
    | .literal d => state.push (text [d])
    | .set members => state.push (one members)
    | .anchor condition => state.push (anchor condition)

/-- A name begins with a letter or `_`; after that digits, `.`, `[` and `]` may stand
too. -/
def isNameChar (first : Bool) (c : Char) : Bool :=
  c == '_' || Text.isAlphabetic c
    || !first && (c == '.' || c == '[' || c == ']' || Text.isNumeric c)

/-- The next character of the name of a group, whose end opens the group. An empty name
and a name given before are refused. -/
def stepName (state : State) (letters : List Char) (c : Char) : Option State :=
  if c = '>' then
    let name := String.ofList letters.reverse
    if letters.isEmpty || state.names.contains name then none
    else some { state.openCapture (some name) with names := name :: state.names }
  else if isNameChar letters.isEmpty c then some { state with mode := .name (c :: letters) }
  else none

/-- The greatest number that may stand in braces. -/
def maxCount : Nat :=
  4294967295

/-- The next character of a number in braces that is neither a comma nor a brace. -/
def stepDigits (digits : Digits) (c : Char) : Option Digits :=
  if c.isDigit then
    let append (value : Nat) : Option Digits :=
      if value ≤ maxCount then some (.reading value) else none
    match digits with
    | .untouched | .blanks => append (c.toNat - 48)
    | .reading value => append (10 * value + (c.toNat - 48))
    | .complete _ => none
  else if Text.isBlank c then
    match digits with
    | .untouched | .blanks => some .blanks
    | .reading value | .complete value => some (.complete value)
  else none

/-- The next character inside braces. A comma needs a number before it; the closing brace
needs one unless it follows the comma directly; and the numbers must be in order. -/
def stepCount (state : State) (least : Option Nat) (digits : Digits) (c : Char) :
    Option State :=
  match c, least with
  | ',', none => digits.value?.map fun value =>
      { state with mode := .count (some value) .untouched }
  | '\x7d', none => digits.value?.bind fun value => state.quantify? value (some value)
  | '\x7d', some value =>
      if digits = .untouched then state.quantify? value none
      else digits.value?.bind fun most =>
        if value ≤ most then state.quantify? value (some most) else none
  | c, least => (stepDigits digits c).map fun digits =>
      { state with mode := .count least digits }

/-- The bracketed set is complete. -/
def closeBracket (state : State) (negated : Bool) (members : CharSet) : State :=
  state.push (ofSet (if negated then .compl members else members))

/-- The next character where a member of a bracketed set may stand. -/
def stepMember (state : State) (negated : Bool) (members : CharSet) (c : Char) :
    Option State :=
  match c with
  | ']' => some (closeBracket state negated members)
  | '[' => none
  | '\\' => some { state with mode := .bracket (.backslash none) negated members }
  | c => some { state with mode := .bracket (.after c true) negated members }

/-- A range from `first` to `last`, if they are in order. -/
def stepRange (state : State) (negated : Bool) (members : CharSet) (first last : Char) :
    Option State :=
  if first ≤ last then
    some { state with mode := .bracket .member negated (members.insert (.range first last)) }
  else none

/-- The next character inside brackets. -/
def stepBracket (state : State) (place : Bracket) (negated : Bool) (members : CharSet)
    (c : Char) : Option State :=
  let leading (negated bare : Bool) : Option State :=
    if c = '-' then
      some { state with
        mode := .bracket (.leading false) negated (members.insert (.single '-')) }
    else if c = ']' && bare then
      some { state with mode := .bracket .member negated (members.insert (.single ']')) }
    else stepMember state negated members c
  match place with
  | .opened =>
      if c = '^' then some { state with mode := .bracket (.leading true) true members }
      else leading negated true
  | .leading bare => leading negated bare
  | .member => stepMember state negated members c
  | .after d written =>
      if written && c == d && (c == '&' || c == '~' || c == '-') then none
      else if c = '-' then some { state with mode := .bracket (.hyphen d) negated members }
      else stepMember state negated (members.insert (.single d)) c
  | .afterSet =>
      if c = '-' then some { state with mode := .bracket .setHyphen negated members }
      else stepMember state negated members c
  | .hyphen d =>
      match c with
      | ']' => some (closeBracket state negated
          ((members.insert (.single d)).insert (.single '-')))
      | '-' => none
      | '\\' => some { state with mode := .bracket (.backslash (some d)) negated members }
      | c => stepRange state negated members d c
  | .setHyphen =>
      if c = ']' then some (closeBracket state negated (members.insert (.single '-')))
      else none
  | .backslash none =>
      match escaped? c with
      | some (.literal d) =>
          some { state with mode := .bracket (.after d false) negated members }
      | some (.set set) =>
          some { state with mode := .bracket .afterSet negated (members.insert set) }
      | _ => none
  | .backslash (some d) =>
      match escaped? c with
      | some (.literal e) => stepRange state negated members d e
      | _ => none

/-- The next character of a pattern. -/
def step (state : State) (c : Char) : Option State :=
  match state.mode with
  | .item => stepItem state c
  | .quantified least most =>
      if c = '?' then some (state.apply least most false)
      else stepItem (state.apply least most true) c
  | .backslash => stepBackslash state c
  | .opened =>
      if c = '?' then some { state with mode := .flags }
      else stepItem (state.openCapture none) c
  | .flags =>
      match c with
      | ':' => some (state.openGroup .plain)
      | 'P' => some { state with mode := .naming }
      | '<' => some { state with mode := .name [] }
      | _ => none
  | .naming => if c = '<' then some { state with mode := .name [] } else none
  | .name letters => stepName state letters c
  | .count least digits => stepCount state least digits c
  | .bracket place negated members => stepBracket state place negated members c

/-- Reads on. -/
def readFrom (state : State) (text : List Char) : Option State :=
  text.foldlM step state

/-- Reading a text and then another is reading their concatenation. -/
theorem readFrom_append (state : State) (s t : List Char) :
    readFrom state (s ++ t) = (readFrom state s).bind (readFrom · t) := by
  simp [readFrom, List.foldlM_append, bind]

/-- The pattern read, if nothing is left open. -/
def State.finish? (state : State) : Option Pattern :=
  match state.mode, state.outer with
  | .item, [] => some state.level.pattern
  | .quantified least most, [] => some (state.level.quantify least most true).pattern
  | _, _ => none

end Reader

/-- The pattern with the given written form. -/
def read? (text : List Char) : Option Pattern :=
  (Reader.readFrom .start text).bind Reader.State.finish?

end LiquidTokens.Pattern
