import LiquidTokens.Token

/-!
Token trees: tokens with the tokens of their bodies below them.

A tree is a leaf when its body was not read or held nothing.
-/

namespace LiquidTokens

/-- A token and the tokens of its body, if the body was read. -/
inductive TokenTree where
  | node (token : Token) (children : List TokenTree)
  deriving Repr

namespace TokenTree

/-- A token whose body was not read. -/
def leaf (token : Token) : TokenTree :=
  node token []

/-- The token at the root. -/
def token : TokenTree → Token
  | node token _ => token

/-- The trees of the body. -/
def children : TokenTree → List TokenTree
  | node _ children => children

end TokenTree

end LiquidTokens
