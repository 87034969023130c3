import LiquidTokens.TokenTree

/-!
Listings: one token to a line, each level of bodies indented by four spaces.

Main statement: `forestListing_append` (the listing of two lists of trees in a row is the
one listing after the other).
-/

namespace LiquidTokens.TokenTree

mutual

/-- The lines of a tree whose root stands at a depth. -/
def listing (depth : Nat) : TokenTree → String
  | node token children =>
      String.ofList (List.replicate (4 * depth) ' ') ++ token.display ++ "\n"
        ++ forestListing (depth + 1) children

/-- The lines of the trees of a list, whose roots stand at a depth. -/
def forestListing (depth : Nat) : List TokenTree → String
  | [] => ""
  | tree :: trees => tree.listing depth ++ forestListing depth trees

end

/-- The listing of two lists of trees in a row is the one listing after the other. -/
theorem forestListing_append (depth : Nat) (trees others : List TokenTree) :
    forestListing depth (trees ++ others)
      = forestListing depth trees ++ forestListing depth others := by
  induction trees with
  | nil => simp [forestListing]
  | cons tree trees ih => simp [forestListing, ih, String.append_assoc]

end LiquidTokens.TokenTree
