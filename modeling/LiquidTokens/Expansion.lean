import LiquidTokens.Expression.Form
import LiquidTokens.Failure
import LiquidTokens.LiquidBody
import LiquidTokens.Template.Stream
import LiquidTokens.TokenTree

/-!
Expansion: the bodies of tags and statements are read too, and their tokens stand below the
token they belong to.

A statement holds filtered values. The expression of a tag has the form that belongs to the
tag; without such a form it is left as it is. In the body of the tag `liquid` every line is
a tag, and its expression is read in turn.

Main statement: `expression_of_form` (the expression of an ordinary tag is read in the form
that belongs to the tag).
-/

namespace LiquidTokens.Expansion

open Expression (Form)

/-- The trees of the tokens of a body in a form, whose first line has the given number. -/
def body (form : Form) (context : String) (text : String) (line : Nat) :
    Except Failure (List TokenTree) :=
  match (form.grammar.tokenize text line).result with
  | .ok tokens => .ok (tokens.map .leaf)
  | .error error => .error ⟨error, text, some context⟩

/-- What the expression of a tag is called in a failure. -/
def expressionContext (tag : String) : String :=
  "`" ++ tag ++ "` expression"

/-- Reads the expression of a tag, given the tag, the expression and its first line. -/
abbrev Reader :=
  String → String → Nat → Except Failure (List TokenTree)

/-- The trees of the tokens of lines: each expression is read as the expression of the
latest tag before it, which is `tag` at the start. -/
def lineTrees (read : Reader) (tag : String) : List Token → Except Failure (List TokenTree)
  | [] => .ok []
  | token :: tokens => do
      if token.kind = .expression then
        let children ← read tag token.value token.line
        let others ← lineTrees read tag tokens
        return .node token children :: others
      else
        let others ← lineTrees read token.value tokens
        return .leaf token :: others

/-- The trees of the expression of a tag whose first line has the given number. The lines
of a body hold expressions that are shorter than the body, so bodies inside bodies come to
an end. -/
def expression (tag text : String) (line : Nat) : Except Failure (List TokenTree) :=
  if tag = "liquid" then
    let read : Reader := fun lineTag inner innerLine =>
      if inner.length < text.length then expression lineTag inner innerLine else .ok []
    lineTrees read "" (LiquidBody.tokens text line)
  else
    match Form.ofTag? tag with
    | some form => body form (expressionContext tag) text line
    | none => .ok []
termination_by text.length

/-- The expression of an ordinary tag is read in the form that belongs to the tag. -/
theorem expression_of_form {tag : String} {form : Form} (ordinary : Form.ofTag? tag = some form)
    (text : String) (line : Nat) :
    expression tag text line = body form (expressionContext tag) text line := by
  have other : tag ≠ "liquid" := by
    rintro rfl
    simp [Form.ofTag?] at ordinary
  rw [expression, if_neg other, ordinary]

/-- The trees below a token of a template, whose body starts on the given line; `tag` is
the latest tag before it. -/
def children (tag : String) (token : Token) (bodyLine : Nat) :
    Except Failure (List TokenTree) :=
  match token.kind with
  | .statement => body .filtered "output statement" token.value bodyLine
  | .expression => expression tag token.value bodyLine
  | _ => .ok []

/-- The trees of the first items of a stream, at most `count` of them, with their bodies
read if `expand` says so; `tag` is the latest tag before them. The first failure in the
order of the stream is the one that is reported. -/
def trees (expand : Bool) (tag : String) : Nat → Template.Stream →
    Except Failure (List TokenTree)
  | 0, _ => .ok []
  | count + 1, stream =>
      match stream.next with
      | (none, _) => .ok []
      | (some (.error error), _) => .error ⟨error, stream.source, none⟩
      | (some (.ok token), after) => do
          let below ← if expand then children tag token after.bodyLine else .ok []
          let latest := if token.kind = .tag then token.value else tag
          let others ← trees expand latest count after
          return .node token below :: others

/-- The token trees of a template. -/
def template (regions : Template.RegionTable) (expand : Bool) (source : String) :
    Except Failure (List TokenTree) :=
  trees expand "" (2 * source.length + 2) (Template.Stream.start regions source)

end LiquidTokens.Expansion
