import LiquidTokens.CommandLine
import LiquidTokens.Delimiters
import LiquidTokens.Diagnostic
import LiquidTokens.Expansion
import LiquidTokens.Expression.Form
import LiquidTokens.Expression.Grammar
import LiquidTokens.Expression.Stream
import LiquidTokens.Failure
import LiquidTokens.Json.Value
import LiquidTokens.Kind
import LiquidTokens.LexError
import LiquidTokens.LiquidBody
import LiquidTokens.LiquidBody.Stream
import LiquidTokens.Main
import LiquidTokens.Pattern.Basic
import LiquidTokens.Pattern.CharSet
import LiquidTokens.Pattern.Escape
import LiquidTokens.Pattern.Match
import LiquidTokens.Pattern.Nesting
import LiquidTokens.Pattern.Place
import LiquidTokens.Pattern.Reader
import LiquidTokens.Pattern.Walk
import LiquidTokens.Proofs.Expansion.Forest
import LiquidTokens.Proofs.Expansion.Grown
import LiquidTokens.Proofs.Expansion.LiquidTag
import LiquidTokens.Proofs.Expansion.Located
import LiquidTokens.Proofs.Expression.Lexemes
import LiquidTokens.Proofs.LiquidBody.Lines
import LiquidTokens.Proofs.LiquidBody.Rows
import LiquidTokens.Proofs.Pattern.Embedded
import LiquidTokens.Proofs.Pattern.Levels
import LiquidTokens.Proofs.Pattern.Nested
import LiquidTokens.Proofs.Pattern.Passing
import LiquidTokens.Proofs.Pattern.Raised
import LiquidTokens.Proofs.Pattern.Related
import LiquidTokens.Proofs.Pattern.Written
import LiquidTokens.Proofs.RuleTable.Accepted
import LiquidTokens.Proofs.RuleTable.FirstMatch
import LiquidTokens.Proofs.Template.Bodies
import LiquidTokens.Proofs.Template.Canonical
import LiquidTokens.Proofs.Template.Inside
import LiquidTokens.Proofs.Template.RegionMatches
import LiquidTokens.Proofs.Template.RegionPatterns
import LiquidTokens.Proofs.Template.Scanner
import LiquidTokens.Proofs.Template.Standard
import LiquidTokens.Proofs.Template.Steps
import LiquidTokens.Proofs.Template.Tiling
import LiquidTokens.Proofs.Template.TrimMarkers
import LiquidTokens.Proofs.Template.Visits
import LiquidTokens.RegionCache
import LiquidTokens.RuleTable
import LiquidTokens.Run
import LiquidTokens.Session
import LiquidTokens.SetupError
import LiquidTokens.Template.Region
import LiquidTokens.Template.Stream
import LiquidTokens.Text.Alphabetic
import LiquidTokens.Text.CharClass
import LiquidTokens.Text.GraphemeExtend
import LiquidTokens.Text.Lines
import LiquidTokens.Text.Mark
import LiquidTokens.Text.Number
import LiquidTokens.Text.Position
import LiquidTokens.Text.Quoted
import LiquidTokens.Text.Trim
import LiquidTokens.Text.Unprintable
import LiquidTokens.Token
import LiquidTokens.TokenTree
import LiquidTokens.TokenTree.Listing
import LiquidTokens.TokenTree.Serialized
import LiquidTokens.Tokenize
import LiquidTokens.Proofs.RegionCache.Window
import LiquidTokens.Proofs.Session.Isolation
import LiquidTokens.Proofs.Expression.Readers
import LiquidTokens.Proofs.Expression.FirstRule
import LiquidTokens.Proofs.Expression.Pieces
import LiquidTokens.Proofs.Expression.Spaced
import LiquidTokens.Proofs.Expression.Calls
import LiquidTokens.Proofs.Expression.Endings
import LiquidTokens.Proofs.Template.Calls
import LiquidTokens.Proofs.Template.Clean
import LiquidTokens.Proofs.Template.Unclosed
import LiquidTokens.Proofs.Template.Appended
import LiquidTokens.Proofs.Expression.Admitted
import LiquidTokens.Proofs.Expression.LoopNumbers
import LiquidTokens.Proofs.Expression.LineBreaks
import LiquidTokens.Proofs.Expression.Keywords
import LiquidTokens.Proofs.Expression.AssignmentSign
import LiquidTokens.Proofs.LiquidBody.Calls
import LiquidTokens.Proofs.Text.Runs
import LiquidTokens.Proofs.Text.Numerals
import LiquidTokens.Proofs.Text.Quoted
import LiquidTokens.Proofs.TokenTree.Listing
import LiquidTokens.Proofs.Json.Lexemes
import LiquidTokens.Proofs.Json.Reader
import LiquidTokens.Proofs.TokenTree.Serialized
