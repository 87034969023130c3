import LiquidTokens.Expansion
import LiquidTokens.Proofs.LiquidBody.Lines
import LiquidTokens.Proofs.Template.Visits

/-!
Expansion without a stream and without a bound.

The trees of a template depend on what its stream gives and on nothing else: on the tokens in
their order, each with the line on which the latest body starts, and on the error at the end. And
the lines of a `liquid` body are read like tags of their own: an expression in a line is always
shorter than the body, so that none is left unread.

Main statements: `template_of_visits` and `expression_liquid`.
-/

namespace LiquidTokens.Expansion

open Template (RegionTable Stream Visit regionTable)
open Template.Stream (Visits logOf)

/-! ### Trees of a list -/

/-- The trees of tokens that are given in order, each with the line on which its body would start.
The error is the one that comes after them; `tag` is the latest tag before them. -/
def forest (expand : Bool) (source : String) (error : Option LexError) (tag : String) :
    List (Token × Nat) → Except Failure (List TokenTree)
  | [] =>
      match error with
      | some error => .error ⟨error, source, none⟩
      | none => .ok []
  | (token, bodyLine) :: items => do
      let below ← if expand then children tag token bodyLine else .ok []
      let latest := if token.kind = .tag then token.value else tag
      let others ← forest expand source error latest items
      return .node token below :: others

/-- The trees of a stream are those of its items. -/
theorem trees_eq_forest (expand : Bool) (tag : String) (count : Nat) (stream : Stream) :
    trees expand tag count stream
      = forest expand stream.source (stream.log count).2 tag (stream.log count).1 := by
  induction count generalizing tag stream with
  | zero => rfl
  | succ count ih =>
      have source := stream.source_next
      rw [trees, Stream.log]
      generalize stream.next = given at source
      rcases given with ⟨_ | error | token, after⟩
      · rfl
      · rfl
      · simp only [ih, forest]
        rw [source]

/-- The trees of a template are those of the regions that its stream visits. -/
theorem template_of_visits {delimiters : Delimiters} (valid : delimiters.validate = .ok ())
    {source : String} {visits : List Visit} {error : Option LexError}
    (visited : Visits delimiters (Stream.start (regionTable delimiters) source) visits error)
    (expand : Bool) :
    template (regionTable delimiters) expand source
      = forest expand source error "" (logOf visits) := by
  have ready := Stream.ready_start valid source
  have enough : 2 * source.toList.length < 2 * source.length + 2 := by
    rw [String.length_toList]
    omega
  rw [template, trees_eq_forest, Stream.log_of_visits visited ready enough]
  rfl

/-! ### Trees of lines -/

theorem lineTrees_congr {read other : Reader} {tokens : List Token}
    (same : ∀ token ∈ tokens, token.kind = .expression →
      ∀ tag, read tag token.value token.line = other tag token.value token.line) (tag : String) :
    lineTrees read tag tokens = lineTrees other tag tokens := by
  induction tokens generalizing tag with
  | nil => rfl
  | cons token tokens ih =>
      have rest := ih fun later member => same later (List.mem_cons_of_mem token member)
      rw [lineTrees, lineTrees]
      split
      · next expression => rw [same token List.mem_cons_self expression, rest]
      · rw [rest]

/-- The body of the tag `liquid` has the trees of its lines, and each expression in them is
read. -/
theorem expression_liquid (text : String) (line : Nat) :
    expression "liquid" text line = lineTrees expression "" (LiquidBody.tokens text line) := by
  rw [expression, if_pos rfl]
  refine lineTrees_congr (fun token member isExpression tag => ?_) ""
  exact if_pos (LiquidBody.length_lt_of_mem_tokens member isExpression)

end LiquidTokens.Expansion
