import LiquidTokens.Delimiters
import LiquidTokens.Pattern.Escape
import LiquidTokens.RuleTable

/-!
Regions of a template. At every position the rules are tried in this order: a raw block,
whose inside is plain text; an output statement; a tag; and plain text up to the next
opening delimiter or the end. Inside a delimiter a hyphen marks that blanks are to be
trimmed on that side.

Main statement: `RegionTable.delimiters_of_compile` (a region table is the one of the
delimiters it was made of).
-/

namespace LiquidTokens.Template

/-- The parts into which a template falls. -/
inductive Region where
  | raw | statement | tag | literal
  deriving DecidableEq, Repr

/-- The name of a region's rule in messages. -/
def Region.label : Region → String
  | raw => "Raw"
  | statement => "Statement"
  | tag => "Tag"
  | literal => "Literal"

/-- The written form of a pattern for the text of a delimiter. -/
def literally (delimiter : String) : String :=
  String.ofList (Pattern.escape delimiter.toList)

/-- A raw block: what lies between its two tags is the group `raw`. -/
def rawPattern (delimiters : Delimiters) : String :=
  let start := literally delimiters.tagStart
  let stop := literally delimiters.tagEnd
  start ++ "\\s*raw\\s*" ++ stop ++ "(?P<raw>.*?)" ++ start ++ "\\s*endraw\\s*" ++ stop

/-- An output statement: its body is the group `stmt`, its trim marker at the end `rss`. -/
def statementPattern (delimiters : Delimiters) : String :=
  literally delimiters.statementStart ++ "-?\\s*(?P<stmt>.*?)\\s*(?P<rss>-?)"
    ++ literally delimiters.statementEnd

/-- A tag: its name is the group `name`, what follows it `expr`, its trim marker at the end
`rst`. The name may be empty, so that a tag with a faulty name is still a tag. -/
def tagPattern (delimiters : Delimiters) : String :=
  literally delimiters.tagStart ++ "-?\\s*(?P<name>\\w*)\\s*(?P<expr>.*?)\\s*(?P<rst>-?)"
    ++ literally delimiters.tagEnd

/-- Plain text, the group `literal`. The opening delimiter that ends it is looked at for
its trim marker `rstrip` and belongs to the next region. -/
def literalPattern (delimiters : Delimiters) : String :=
  "(?P<literal>.+?)(?:(?:" ++ literally delimiters.tagStart ++ "|"
    ++ literally delimiters.statementStart ++ ")(?P<rstrip>-?)|\\z)"

/-- The regions with their patterns, in the order in which they are tried. -/
def regionRules (delimiters : Delimiters) : List (Region × String) :=
  [(.raw, rawPattern delimiters),
   (.statement, statementPattern delimiters),
   (.tag, tagPattern delimiters),
   (.literal, literalPattern delimiters)]

/-- The region rules of some delimiters. -/
structure RegionTable where
  delimiters : Delimiters
  table : RuleTable Region

namespace RegionTable

/-- Makes the region rules of delimiters, of which none may be empty. -/
def compile (delimiters : Delimiters) : Except SetupError RegionTable := do
  delimiters.validate
  let table ← RuleTable.compile Region.label (regionRules delimiters)
  return ⟨delimiters, table⟩

/-- A region table is the one of the delimiters it was made of. -/
theorem delimiters_of_compile {delimiters : Delimiters} {regions : RegionTable}
    (made : compile delimiters = .ok regions) : regions.delimiters = delimiters := by
  unfold compile at made
  cases valid : delimiters.validate with
  | error error => simp [valid, bind, Except.bind] at made
  | ok _ =>
      cases table : RuleTable.compile Region.label (regionRules delimiters) with
      | error error => simp [valid, table, bind, Except.bind] at made
      | ok table =>
          simp only [valid, table, bind, Except.bind, pure, Except.pure, Except.ok.injEq] at made
          rw [← made]

/-- Standard delimiters make a region table. -/
theorem isSome_compile_standard : (compile .standard).toOption.isSome = true := by
  decide +kernel

/-- The region rules of standard delimiters. -/
def standard : RegionTable :=
  (compile .standard).toOption.get isSome_compile_standard

end RegionTable

end LiquidTokens.Template
