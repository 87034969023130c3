import LiquidTokens.Json.Value
import LiquidTokens.TokenTree

/-!
Serialized token trees: an array with one object for each tree, followed by a line feed.

An object has the members `line`, `kind` and `value`, and `children` exactly when the token
has a body that was read and holds tokens.
-/

namespace LiquidTokens.TokenTree

/-- The members of every serialized token. -/
def tokenMembers (token : Token) : List (String × Json.Value) :=
  [("line", .number token.line), ("kind", .string token.kind.code),
    ("value", .string token.value)]

mutual

/-- The object of a tree. -/
def value : TokenTree → Json.Value
  | node token children =>
      .object (tokenMembers token ++
        match forestValues children with
        | [] => []
        | items => [("children", .array items)])

/-- The objects of the trees of a list. -/
def forestValues : List TokenTree → List Json.Value
  | [] => []
  | tree :: trees => tree.value :: forestValues trees

end

/-- The serialized form of a list of trees. -/
def serialized (trees : List TokenTree) : String :=
  String.ofList ((Json.Value.array (forestValues trees)).text 0 ++ ['\n'])

end LiquidTokens.TokenTree
