import LiquidTokens.CommandLine
import LiquidTokens.Diagnostic
import LiquidTokens.Expansion
import LiquidTokens.TokenTree.Listing
import LiquidTokens.TokenTree.Serialized

/-!
Answering a request: the token trees of an input, and the text in which they are written.

Main statement: `trees_liquidBody` (the body of the tag `liquid` is never refused).
-/

namespace LiquidTokens.CommandLine

/-- The text of some trees. -/
def Output.text (output : Output) (trees : List TokenTree) : String :=
  match output with
  | human => TokenTree.forestListing 0 trees
  | json => TokenTree.serialized trees

namespace Request

/-- The token trees of an input. -/
def trees (request : Request) (source : String) : Except Refusal (List TokenTree) :=
  match request.mode with
  | some (.form form) =>
      match (form.grammar.tokenize source 1).result with
      | .ok tokens => .ok (tokens.map .leaf)
      | .error error => .error (.lex ⟨error, source, none⟩)
  | some .liquidBody => .ok ((LiquidBody.tokens source 1).map .leaf)
  | none =>
      match Template.RegionTable.compile request.delimiters with
      | .error error => .error (.setup error)
      | .ok regions => (Expansion.template regions request.expand source).mapError .lex

/-- The text to print for an input. -/
def answer (request : Request) (source : String) : Except Refusal String :=
  (request.trees source).map request.outputOrHuman.text

/-- The body of the tag `liquid` is never refused. -/
theorem trees_liquidBody {request : Request} (mode : request.mode = some .liquidBody)
    (source : String) :
    request.trees source = .ok ((LiquidBody.tokens source 1).map .leaf) := by
  simp [trees, mode]

end Request

end LiquidTokens.CommandLine
