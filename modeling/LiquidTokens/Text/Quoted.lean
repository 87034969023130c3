import LiquidTokens.Text.CharClass

/-!
The quoted form of a text: double quotes around it, and an escape in place of every
character that would be mistaken or could not be seen. Used in listings and messages.
-/

namespace LiquidTokens.Text.Quoted

/-- One character as it stands between the quotes: a backslash before the double quote
and the backslash; a digit or letter for NUL, tab, line feed and carriage return; the code
point in braces, in hexadecimal without leading zeros, for whatever does not print alone;
and all else as it is. -/
def escape (c : Char) : List Char :=
  if c = '"' then ['\\', '"']
  else if c = '\\' then ['\\', '\\']
  else if c = '\x00' then ['\\', '0']
  else if c = '\t' then ['\\', 't']
  else if c = '\n' then ['\\', 'n']
  else if c = '\r' then ['\\', 'r']
  else if isPrintable c && !isGraphemeExtend c then [c]
  else ['\\', 'u', '\x7b'] ++ Nat.toDigits 16 c.toNat ++ ['\x7d']

/-- The quoted form. -/
def encode (s : List Char) : List Char :=
  '"' :: s.flatMap escape ++ ['"']

end LiquidTokens.Text.Quoted

namespace LiquidTokens.Text

/-- The quoted form of a string. -/
def quoted (s : String) : String :=
  String.ofList (Quoted.encode s.toList)

end LiquidTokens.Text
