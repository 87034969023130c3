import LiquidTokens.Proofs.Json.Reader
import LiquidTokens.Tokenize

/-!
Serialized trees are a JSON text, and the trees can be read back from it.

Main statements: `forest?_eq_some_iff` (which values are those of trees) and `json_text_decodes`.
-/

namespace LiquidTokens

namespace TokenTree

open Json (Value)

/-- The token of an object without children. -/
def token? : List (String × Value) → Option Token
  | [("line", .number line), ("kind", .string code), ("value", .string text)] =>
      (Kind.ofCode? code).map fun kind => ⟨line, kind, text⟩
  | _ => none

mutual

/-- The tree whose object is given. -/
def tree? : Value → Option TokenTree
  | .object [line, kind, value, ("children", .array (item :: items))] =>
      (token? [line, kind, value]).bind fun token =>
        (tree? item).bind fun first => (forest? items).map fun others =>
          node token (first :: others)
  | .object members => (token? members).map leaf
  | _ => none

/-- The trees whose objects are given. -/
def forest? : List Value → Option (List TokenTree)
  | [] => some []
  | item :: items =>
      (tree? item).bind fun tree => (forest? items).map fun trees => tree :: trees

end

theorem token?_eq_some_iff {members : List (String × Value)} {token : Token} :
    token? members = some token ↔ members = tokenMembers token := by
  constructor
  · intro read
    unfold token? at read
    split at read
    · obtain ⟨kind, known, rfl⟩ := Option.map_eq_some_iff.1 read
      rw [tokenMembers, Kind.ofCode?_eq_some_iff.1 known]
    · cases read
  · rintro rfl
    simp [tokenMembers, token?, Kind.ofCode?_code]

mutual

/-- A tree is read back from its object. -/
theorem tree?_value : ∀ tree : TokenTree, tree? tree.value = some tree
  | node token [] => by
      simp [value, forestValues, tree?, tokenMembers, token?, Kind.ofCode?_code, leaf]
  | node token (child :: children) => by
      simp [value, forestValues, tree?, tokenMembers, token?, Kind.ofCode?_code, tree?_value child,
        forest?_forestValues children]

theorem forest?_forestValues : ∀ trees : List TokenTree, forest? (forestValues trees) = some trees
  | [] => by simp [forestValues, forest?]
  | tree :: trees => by
      simp [forestValues, forest?, tree?_value tree, forest?_forestValues trees]

end

mutual

/-- Nothing but the object of a tree is read as the tree. -/
theorem eq_of_tree? {item : Value} {tree : TokenTree} (read : tree? item = some tree) :
    item = tree.value := by
  unfold tree? at read
  split at read
  · simp only [Option.bind_eq_some_iff, Option.map_eq_some_iff] at read
    obtain ⟨token, known, first, readFirst, others, readOthers, rfl⟩ := read
    rw [eq_of_tree? readFirst, eq_of_forest? readOthers, value, forestValues,
      ← token?_eq_some_iff.1 known]
    rfl
  · obtain ⟨token, known, rfl⟩ := Option.map_eq_some_iff.1 read
    rw [token?_eq_some_iff.1 known, leaf, value, forestValues, List.append_nil]
  · cases read

theorem eq_of_forest? {items : List Value} {trees : List TokenTree}
    (read : forest? items = some trees) : items = forestValues trees := by
  unfold forest? at read
  split at read
  · rw [← Option.some.inj read, forestValues]
  · simp only [Option.bind_eq_some_iff, Option.map_eq_some_iff] at read
    obtain ⟨tree, readTree, others, readOthers, rfl⟩ := read
    rw [eq_of_tree? readTree, eq_of_forest? readOthers, forestValues]

end

/-- The values of trees, and no others, are read as the trees. -/
theorem forest?_eq_some_iff {items : List Value} {trees : List TokenTree} :
    forest? items = some trees ↔ items = forestValues trees :=
  ⟨eq_of_forest?, fun same => same ▸ forest?_forestValues trees⟩

/-- The objects of trees, one for each. -/
theorem forestValues_eq_map (trees : List TokenTree) : forestValues trees = trees.map value := by
  induction trees with
  | nil => rfl
  | cons tree trees ih => rw [forestValues, ih, List.map_cons]

/-- An object has an array of children exactly when the token has any. -/
theorem value_node (token : Token) (children : List TokenTree) :
    (node token children).value = .object (tokenMembers token
      ++ if children = [] then [] else [("children", .array (children.map value))]) := by
  rw [value, forestValues_eq_map]
  cases children <;> simp

end TokenTree

namespace CommandLine

open Json (IsText Value enclose read?)
open TokenTree (forest? tokenMembers)

/-- The trees that a serialized text holds. -/
def trees? (text : List Char) : Option (List TokenTree) :=
  match read? text with
  | some (.array items) => forest? items
  | _ => none

theorem getLast?_enclose (opening closing : Char) (depth : Nat) (parts : List (List Char)) :
    (enclose opening closing depth parts).getLast? = some closing := by
  unfold enclose
  split
  · rfl
  · exact List.getLast?_concat

/-- A serialized token is an object with its line, the code of its kind and its text, and with its
children if it has any. Serialized trees are one JSON text and a line feed: a text of the array of
their objects, and of no other value, from which the trees are read back. -/
theorem json_text_decodes :
    (∀ token children, (TokenTree.node token children).value = .object (tokenMembers token
      ++ if children = [] then [] else [("children", .array (children.map TokenTree.value))]))
    ∧ ∀ trees : List TokenTree, ∃ text, (Output.json.text trees).toList = text ++ ['\n']
      ∧ text.getLast? = some ']'
      ∧ (∀ value, IsText value text ↔ value = .array (trees.map TokenTree.value))
      ∧ trees? text = some trees := by
  refine ⟨TokenTree.value_node, fun trees => ?_⟩
  rw [← TokenTree.forestValues_eq_map]
  have isText := Json.isText_text 0 (.array (TokenTree.forestValues trees))
  refine ⟨_, String.toList_ofList, getLast?_enclose _ _ _ _,
    fun _ => Json.isText_iff_of_isText isText, ?_⟩
  rw [trees?, Json.read?_of_isText isText]
  exact TokenTree.forest?_eq_some_iff.2 rfl

example : Output.json.text [.leaf ⟨1, .literal, "\"\n"⟩]
    = "[\n  \x7b\n    \"line\": 1,\n    \"kind\": \"literal\",\n" ++
      "    \"value\": \"\\\"\\n\"\n  \x7d\n]\n" := by
  decide +kernel

end CommandLine

end LiquidTokens
