import LiquidTokens.Proofs.Text.Quoted
import LiquidTokens.Tokenize

/-!
A listing tells the trees that it lists.

The entries of a list of trees are their tokens in preorder, each with its depth, and a listing has
one line for each entry. A line is cut into blanks, digits, a name and a quoted text, which say the
depth and the token. The trees are told by the depths: the entries below a root are those up to the
next one that stands no deeper.

Main statement: `human_text_lossless`.
-/

namespace LiquidTokens

namespace TokenTree

open Text (cut_unique isDigit_of_mem_toDigits toDigits_injective)
open Text.Quoted (encode encode_injective lineFeed_notMem_encode)

/-! ### Lines -/

/-- The line of a token at a depth. -/
def entryLine (entry : Nat × Token) : List Char :=
  List.replicate (4 * entry.1) ' ' ++ entry.2.display.toList

/-- A line in parts: blanks, digits, a name and a quoted text. -/
theorem entryLine_eq (depth : Nat) (token : Token) :
    entryLine (depth, token) = List.replicate (4 * depth) ' ' ++ (Nat.toDigits 10 token.line
      ++ ':' :: (token.kind.name.toList ++ ' ' :: encode token.value.toList)) := by
  simp [entryLine, Token.display, Text.quoted, Nat.toString_eq_repr, Nat.toList_repr]

/-- A line tells its entry. -/
theorem entryLine_injective : Function.Injective entryLine := by
  rintro ⟨depth, line, kind, value⟩ ⟨depth', line', kind', value'⟩ same
  simp only [entryLine_eq] at same
  have digitFirst (n : Nat) (rest : List Char) :
      ∀ c ∈ (Nat.toDigits 10 n ++ rest).head?, c ≠ ' ' := by
    rintro c first rfl
    rw [List.head?_append_of_ne_nil _ Nat.toDigits_ne_nil] at first
    cases isDigit_of_mem_toDigits ' ' (List.mem_of_mem_head? first)
  have noBlank (kind : Kind) : ∀ c ∈ kind.name.toList, c ≠ ' ' := fun c member blank =>
    kind.solid_name.1 (blank ▸ member)
  -- A name may be a colon, but it stands behind the first one; blanks that are part of a value
  -- stand behind the first one after that.
  obtain ⟨blanks, same⟩ := cut_unique (p := (· = ' ')) (by simp) (digitFirst line _) (by simp)
    (digitFirst line' _) same
  obtain ⟨digits, same⟩ := cut_unique isDigit_of_mem_toDigits (by simp) isDigit_of_mem_toDigits
    (by simp) same
  obtain ⟨names, same⟩ := cut_unique (noBlank kind) (by simp) (noBlank kind') (by simp)
    (List.cons_inj_right ':' |>.1 same)
  have texts := encode_injective (List.cons_inj_right ' ' |>.1 same)
  obtain rfl : depth = depth' := by simpa using congrArg List.length blanks
  obtain rfl := toDigits_injective digits
  obtain rfl := Kind.name_injective (String.toList_inj.1 names)
  obtain rfl := String.toList_inj.1 texts
  rfl

/-- A line has no line break in it. -/
theorem lineFeed_notMem_entryLine (entry : Nat × Token) : '\n' ∉ entryLine entry := by
  obtain ⟨depth, line, kind, value⟩ := entry
  have digits : '\n' ∉ Nat.toDigits 10 line := fun member => by
    have digit := isDigit_of_mem_toDigits _ member
    cases digit
  simp [entryLine_eq, digits, kind.solid_name.2, lineFeed_notMem_encode]

/-! ### Entries -/

mutual

/-- The tokens of a tree whose root stands at a depth, in preorder, with their depths. -/
def preorder (depth : Nat) : TokenTree → List (Nat × Token)
  | node token children => (depth, token) :: forestPreorder (depth + 1) children

/-- The tokens of the trees of a list, whose roots stand at a depth. -/
def forestPreorder (depth : Nat) : List TokenTree → List (Nat × Token)
  | [] => []
  | tree :: trees => tree.preorder depth ++ forestPreorder depth trees

end

mutual

/-- A tree is listed entry by entry. -/
theorem toList_listing (depth : Nat) : ∀ tree : TokenTree,
    (tree.listing depth).toList = (tree.preorder depth).flatMap (entryLine · ++ ['\n'])
  | node token children => by
      simp [listing, preorder, toList_forestListing, entryLine]

theorem toList_forestListing (depth : Nat) : ∀ trees : List TokenTree,
    (forestListing depth trees).toList
      = (forestPreorder depth trees).flatMap (entryLine · ++ ['\n'])
  | [] => by simp [forestListing, forestPreorder]
  | tree :: trees => by
      simp [forestListing, forestPreorder, toList_listing, toList_forestListing]

end

mutual

/-- No entry of a tree stands above its root. -/
theorem le_of_mem_preorder {depth : Nat} : ∀ {tree : TokenTree} {entry : Nat × Token},
    entry ∈ tree.preorder depth → depth ≤ entry.1
  | node token children, entry, member => by
      rw [preorder] at member
      rcases List.mem_cons.1 member with rfl | below
      · exact le_rfl
      · exact (Nat.le_succ depth).trans (le_of_mem_forestPreorder below)

theorem le_of_mem_forestPreorder {depth : Nat} : ∀ {trees : List TokenTree} {entry : Nat × Token},
    entry ∈ forestPreorder depth trees → depth ≤ entry.1
  | [], _, member => by simp [forestPreorder] at member
  | tree :: trees, entry, member => by
      rw [forestPreorder] at member
      rcases List.mem_append.1 member with here | later
      · exact le_of_mem_preorder here
      · exact le_of_mem_forestPreorder later

end

/-- The first entry of a list of trees is a root. -/
theorem depth_of_mem_head? {depth : Nat} {trees : List TokenTree} {entry : Nat × Token}
    (first : entry ∈ (forestPreorder depth trees).head?) : entry.1 = depth := by
  cases trees with
  | nil => simp [forestPreorder] at first
  | cons tree trees =>
      obtain ⟨token, children⟩ := tree
      rw [forestPreorder, preorder, List.cons_append, List.head?_cons, Option.mem_some_iff] at first
      exact congrArg Prod.fst first.symm

/-- The entries tell the trees. -/
theorem forestPreorder_injective (depth : Nat) : Function.Injective (forestPreorder depth) := by
  intro trees others same
  -- What is below the first root and what comes after it have fewer entries than the whole.
  induction size : (forestPreorder depth trees).length using Nat.strong_induction_on
    generalizing depth trees others with
  | _ size ih =>
      match trees, others with
      | [], [] => rfl
      | [], node token children :: others => simp [forestPreorder, preorder] at same
      | node token children :: trees, [] => simp [forestPreorder, preorder] at same
      | node token children :: trees, node token' children' :: others =>
          simp only [forestPreorder, preorder, List.cons_append] at same
          rw [List.cons_eq_cons] at same
          obtain rfl : token = token' := congrArg Prod.snd same.1
          have deeper (children : List TokenTree) :
              ∀ entry ∈ forestPreorder (depth + 1) children, depth < entry.1 :=
            fun _ => le_of_mem_forestPreorder
          have back (trees : List TokenTree) :
              ∀ entry ∈ (forestPreorder depth trees).head?, ¬ depth < entry.1 :=
            fun _ first => (depth_of_mem_head? first).not_gt
          obtain ⟨below, after⟩ := cut_unique (deeper children) (back trees) (deeper children')
            (back others) same.2
          simp only [forestPreorder, preorder, List.length_append, List.length_cons] at size
          rw [ih _ (by omega) (depth + 1) below rfl, ih _ (by omega) depth after rfl]

/-! ### Listings -/

/-- A listing has one line for each entry. -/
theorem lines_forestListing (depth : Nat) (trees : List TokenTree) :
    Text.lines (forestListing depth trees).toList
      = (forestPreorder depth trees).map entryLine ++ [[]] := by
  rw [toList_forestListing, ← List.flatMap_map entryLine (· ++ ['\n'])]
  refine Text.lines_ended fun line member => ?_
  obtain ⟨entry, -, rfl⟩ := List.mem_map.1 member
  exact lineFeed_notMem_entryLine entry

/-- A listing tells the trees. -/
theorem forestListing_injective (depth : Nat) : Function.Injective (forestListing depth) := by
  intro trees others same
  have entries := congrArg (fun listing => Text.lines listing.toList) same
  simp only [lines_forestListing] at entries
  have mapped := List.append_cancel_right entries
  exact forestPreorder_injective depth (List.map_injective_iff.2 entryLine_injective mapped)

end TokenTree

namespace CommandLine

/-- Different lists of trees have different listings. A listing has one line for every token, in
preorder, and each line is indented by four blanks for each level. -/
theorem human_text_lossless : Function.Injective Output.human.text
    ∧ ∀ trees : List TokenTree, Text.lines (Output.human.text trees).toList
      = (TokenTree.forestPreorder 0 trees).map TokenTree.entryLine ++ [[]] :=
  ⟨TokenTree.forestListing_injective 0, TokenTree.lines_forestListing 0⟩

example : Output.human.text [.node ⟨1, .statement, "a:\n"⟩ [.leaf ⟨1, .identifier, "a"⟩,
      .leaf ⟨1, .colon, ":"⟩]]
    = "1:statement \"a:\\n\"\n    1:identifier \"a\"\n    1:: \":\"\n" := by
  decide +kernel

end CommandLine

end LiquidTokens
