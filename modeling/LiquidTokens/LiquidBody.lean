import LiquidTokens.Pattern.Match
import LiquidTokens.Pattern.Reader
import LiquidTokens.Text.Lines
import LiquidTokens.Token

/-!
Bodies of the tag `liquid`, in which every line is a tag without delimiters: a name and,
after blanks, perhaps an expression. A line without a name yields nothing.

Main statement: `linesTokens_append` (the tokens of some lines and then others are those of
the first and then those of the others, numbered on).
-/

namespace LiquidTokens.LiquidBody

open Text (slice lines lineBreaks)

/-- The written pattern of a line. The name is the longest run of word characters after
spaces and tabs; the expression is what follows without the blanks around it. -/
def linePatternText : String :=
  "^[ \\t]*(?P<name>\\w*)[ \\t]*(?P<expr>.*?)[ \\t\\r]*$"

/-- The pattern of a line can be read. -/
theorem isSome_read?_linePatternText :
    (Pattern.read? linePatternText.toList).isSome = true := by
  decide +kernel

/-- The pattern of a line. -/
def linePattern : Pattern :=
  (Pattern.read? linePatternText.toList).get isSome_read?_linePatternText

/-- What a named group of a completed match read; nothing if it took no part. -/
def part (text : List Char) (reached : Place) (name : String) : List Char :=
  match reached.named? name with
  | some capture => slice text capture.span
  | none => []

/-- The tokens of one line. -/
def lineTokens (line : Nat) (text : List Char) : List Token :=
  match linePattern.find? text with
  | none => []
  | some reached =>
      let name := part text reached "name"
      let expression := part text reached "expr"
      if name.isEmpty then []
      else
        ⟨line, .tag, String.ofList name⟩
          :: if expression.isEmpty then [] else [⟨line, .expression, String.ofList expression⟩]

/-- The tokens of lines that are numbered from `line` on. -/
def linesTokens (line : Nat) : List (List Char) → List Token
  | [] => []
  | text :: others => lineTokens line text ++ linesTokens (line + 1) others

/-- The tokens of some lines and then others are those of the first and then those of the
others, numbered on. -/
theorem linesTokens_append (line : Nat) (texts others : List (List Char)) :
    linesTokens line (texts ++ others)
      = linesTokens line texts ++ linesTokens (line + texts.length) others := by
  induction texts generalizing line with
  | nil => simp [linesTokens]
  | cons text texts ih =>
      simp only [List.cons_append, linesTokens, ih, List.length_cons, List.append_assoc]
      rw [Nat.add_right_comm, Nat.add_assoc]

/-- The tokens of a body whose first line has the given number. -/
def tokens (body : String) (line : Nat) : List Token :=
  linesTokens line (lines body.toList)

end LiquidTokens.LiquidBody
