import LiquidTokens.Text.Position

/-!
JSON values, and their written form with one member or item to a line.

The values are those that serialized tokens need: numbers without sign, strings, arrays
and objects, whose members keep their order.

Main statement: `escape_eq_self_iff` (the characters that are written as they are).
-/

namespace LiquidTokens.Json

/-- A JSON value. -/
inductive Value where
  | number (n : Nat)
  | string (s : String)
  | array (items : List Value)
  | object (members : List (String × Value))
  deriving Repr, Inhabited

/-! ### Strings -/

/-- One character inside a string: short escapes where there are any, four hexadecimal
digits for other controls below the space, and all else as it is. -/
def escape (c : Char) : List Char :=
  if c = '"' then ['\\', '"']
  else if c = '\\' then ['\\', '\\']
  else if c = '\x08' then ['\\', 'b']
  else if c = '\t' then ['\\', 't']
  else if c = '\n' then ['\\', 'n']
  else if c = '\x0c' then ['\\', 'f']
  else if c = '\r' then ['\\', 'r']
  else if c < ' ' then
    ['\\', 'u', '0', '0', Nat.digitChar (c.toNat / 16), Nat.digitChar (c.toNat % 16)]
  else [c]

/-- A string in quotes. -/
def stringText (s : String) : List Char :=
  '"' :: s.toList.flatMap escape ++ ['"']

/-- A character is written as it is exactly when it is no quote, no backslash and no
control below the space. -/
theorem escape_eq_self_iff {c : Char} :
    escape c = [c] ↔ c ≠ '"' ∧ c ≠ '\\' ∧ ¬ c < ' ' := by
  unfold escape
  repeat' split
  all_goals simp_all

/-! ### Values -/

/-- A line feed and the blanks in front of a line at a depth. -/
def newline (depth : Nat) : List Char :=
  '\n' :: List.replicate (2 * depth) ' '

/-- Parts between an opening and a closing mark at a depth, each on a line of its own one
level deeper; the marks alone if there are no parts. -/
def enclose (opening closing : Char) (depth : Nat) (parts : List (List Char)) : List Char :=
  if parts.isEmpty then [opening, closing]
  else
    opening :: (List.intersperse [','] (parts.map (newline (depth + 1) ++ ·))).flatten
      ++ newline depth ++ [closing]

mutual

/-- The written form of a value whose last line stands at a depth. -/
def Value.text (depth : Nat) : Value → List Char
  | .number n => Nat.toDigits 10 n
  | .string s => stringText s
  | .array items => enclose '[' ']' depth (itemTexts (depth + 1) items)
  | .object members => enclose '\x7b' '\x7d' depth (memberTexts (depth + 1) members)

/-- The written forms of the items of an array. -/
def itemTexts (depth : Nat) : List Value → List (List Char)
  | [] => []
  | item :: items => item.text depth :: itemTexts depth items

/-- The written forms of the members of an object. -/
def memberTexts (depth : Nat) : List (String × Value) → List (List Char)
  | [] => []
  | (key, value) :: members =>
      (stringText key ++ [':', ' '] ++ value.text depth) :: memberTexts depth members

end

end LiquidTokens.Json
