import LiquidTokens.Text.Alphabetic
import LiquidTokens.Text.GraphemeExtend
import LiquidTokens.Text.Mark
import LiquidTokens.Text.Number
import LiquidTokens.Text.Unprintable

/-!
Character classes. Patterns and trimming speak of three classes of Unicode
characters: word characters, decimal digits and blanks; the quoted form of a text
speaks of printable characters. ASCII is decided by comparison, the rest by the
range tables.

Main statements: `isWord_of_isDigit` (a digit is a word character) and
`isBlank_iff` (the blanks are a fixed list of 25 characters).
-/

namespace LiquidTokens.Text

section

-- What is asked of the characters of a text is decided by going through these, and never by going
-- through all the characters there are.
variable {p : Char → Prop} [DecidablePred p]

instance decidableForallChars (text : List Char) : Decidable (∀ c ∈ text, p c) :=
  List.decidableBAll p text

instance decidableForallChar? (char? : Option Char) : Decidable (∀ c ∈ char?, p c) :=
  Option.decidableForallMem char?

instance decidableExistsChar? (char? : Option Char) : Decidable (∃ c ∈ char?, p c) :=
  Option.decidableExistsMem char?

end

/-- A code point lies in one of the inclusive ranges. -/
def inRanges (ranges : List (Nat × Nat)) (code : Nat) : Bool :=
  ranges.any fun range => range.1 ≤ code && code ≤ range.2

/-! ### Blanks -/

/-- The characters with the property White_Space. -/
def blanks : List Char :=
  ['\t', '\n', '\x0b', '\x0c', '\r', ' ', '\u0085', '\u00a0', '\u1680', '\u2000', '\u2001',
   '\u2002', '\u2003', '\u2004', '\u2005', '\u2006', '\u2007', '\u2008', '\u2009', '\u200a',
   '\u2028', '\u2029', '\u202f', '\u205f', '\u3000']

/-- White space: what trimming removes and `\s` matches. -/
def isBlank (c : Char) : Bool :=
  blanks.contains c

/-- The blanks are exactly the listed characters. -/
theorem isBlank_iff {c : Char} : isBlank c = true ↔ c ∈ blanks := by
  simp [isBlank]

/-! ### Digits, letters and word characters -/

/-- A decimal digit of any script: category Nd. -/
def isDigit (c : Char) : Bool :=
  if c.toNat < 0x80 then '0' ≤ c && c ≤ '9' else inRanges decimalDigitRanges c.toNat

/-- A character with the property Alphabetic. -/
def isAlphabetic (c : Char) : Bool :=
  if c.toNat < 0x80 then ('a' ≤ c && c ≤ 'z') || ('A' ≤ c && c ≤ 'Z')
  else inRanges alphabeticRanges c.toNat

/-- A number of any kind: categories Nd, Nl and No. -/
def isNumeric (c : Char) : Bool :=
  isDigit c || inRanges otherNumberRanges c.toNat

/-- Code points from U+0080 on of category Pc. -/
def connectorRanges : List (Nat × Nat) :=
  [(0x203F, 0x2040), (0x2054, 0x2054), (0xFE33, 0xFE34), (0xFE4D, 0xFE4F), (0xFF3F, 0xFF3F)]

/-- Punctuation that connects words: category Pc. -/
def isConnector (c : Char) : Bool :=
  c == '_' || inRanges connectorRanges c.toNat

/-- The two characters with the property Join_Control. -/
def isJoiner (c : Char) : Bool :=
  c == '\u200c' || c == '\u200d'

/-- A word character: alphabetic, a mark, a decimal digit, connector punctuation or a
join control. -/
def isWord (c : Char) : Bool :=
  isAlphabetic c || isDigit c || isConnector c || inRanges markRanges c.toNat || isJoiner c

/-- A decimal digit is a word character. -/
theorem isWord_of_isDigit {c : Char} (h : isDigit c = true) : isWord c = true := by
  simp [isWord, h]

/-! ### Printing -/

/-- A character with a glyph of its own. The space is printable, every other separator
is not; nor are controls, format characters, private use and unassigned code points. -/
def isPrintable (c : Char) : Bool :=
  if c.toNat < 0x80 then ' ' ≤ c && c ≤ '~' else !inRanges unprintableRanges c.toNat

/-- A character that attaches to the one before it. -/
def isGraphemeExtend (c : Char) : Bool :=
  inRanges graphemeExtendRanges c.toNat

end LiquidTokens.Text
