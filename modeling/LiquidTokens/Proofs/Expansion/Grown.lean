import LiquidTokens.Proofs.Expansion.Forest
import LiquidTokens.Proofs.Expression.Lexemes
import LiquidTokens.Proofs.Template.Bodies
import LiquidTokens.Tokenize

/-!
Expansion as a matter of the tokens that are there without it.

Each expression comes directly after the tag that it belongs to, in a template and in the lines of
a `liquid` body alike, so the token before it says how it is read. The trees of an expansion are
said here by rules in which no latest tag is carried along and no run has a bound (`Below` and
`Grown`), and so are its failures (`Fails` and `FirstFails`). The rules for the two are apart from
each other: one says what it is for every body to be read, and the other which failure comes first.

Main statement: `trees_expanded`.
-/

namespace LiquidTokens.Expansion

open Expression (Form)
open Template (RegionTable Visit regionTable compile_eq_ok)

/-! ### Rules -/

/-- The tokens of a `liquid` body, each with its own line. -/
def lineItems (text : String) (line : Nat) : List (Token × Nat) :=
  (LiquidBody.tokens text line).map fun token => (token, token.line)

/-- Every expression comes directly after a tag; `before` is the token before the first one. -/
def Owned : (before : Option Token) → List Token → Prop
  | _, [] => True
  | before, token :: tokens =>
      (token.kind = .expression → ∃ owner ∈ before, owner.kind = .tag) ∧ Owned (some token) tokens

/-- The expression of a tag. -/
structure Owns (owner token : Token) : Prop where
  tag : owner.kind = .tag
  expression : token.kind = .expression

mutual

/-- The trees of the body of a token whose body starts on a line, if the body can be read;
`before` is the token before it. -/
inductive Below : (before : Option Token) → Token → (line : Nat) → List TokenTree → Prop where
  | statement {before : Option Token} {token : Token} {line : Nat} {tokens : List Token}
      (kind : token.kind = .statement)
      (run : Form.filtered.grammar.tokenize token.value line = ⟨tokens, none⟩) :
      Below before token line (tokens.map .leaf)
  | expression {owner token : Token} {line : Nat} {form : Form} {tokens : List Token}
      (owns : Owns owner token) (ordinary : Form.ofTag? owner.value = some form)
      (run : form.grammar.tokenize token.value line = ⟨tokens, none⟩) :
      Below (some owner) token line (tokens.map .leaf)
  | lines {owner token : Token} {line : Nat} {trees : List TokenTree} (owns : Owns owner token)
      (liquid : owner.value = "liquid") (grown : Grown none (lineItems token.value line) trees) :
      Below (some owner) token line trees
  | unread {owner token : Token} {line : Nat} (owns : Owns owner token)
      (other : owner.value ≠ "liquid") (unknown : Form.ofTag? owner.value = none) :
      Below (some owner) token line []
  | bare {before : Option Token} {token : Token} {line : Nat}
      (noStatement : token.kind ≠ .statement) (noExpression : token.kind ≠ .expression) :
      Below before token line []

/-- The trees of tokens that are given with the lines on which their bodies start, if every body
can be read. -/
inductive Grown : (before : Option Token) → List (Token × Nat) → List TokenTree → Prop where
  | nil {before : Option Token} : Grown before [] []
  | cons {before : Option Token} {token : Token} {line : Nat} {below : List TokenTree}
      {items : List (Token × Nat)} {trees : List TokenTree} (here : Below before token line below)
      (later : Grown (some token) items trees) :
      Grown before ((token, line) :: items) (.node token below :: trees)

end

mutual

/-- The failure in the body of a token. -/
inductive Fails : (before : Option Token) → Token → (line : Nat) → Failure → Prop where
  | statement {before : Option Token} {token : Token} {line : Nat} {tokens : List Token}
      {error : LexError} (kind : token.kind = .statement)
      (run : Form.filtered.grammar.tokenize token.value line = ⟨tokens, some error⟩) :
      Fails before token line ⟨error, token.value, some "output statement"⟩
  | expression {owner token : Token} {line : Nat} {form : Form} {tokens : List Token}
      {error : LexError} (owns : Owns owner token)
      (ordinary : Form.ofTag? owner.value = some form)
      (run : form.grammar.tokenize token.value line = ⟨tokens, some error⟩) :
      Fails (some owner) token line
        ⟨error, token.value, some ("`" ++ owner.value ++ "` expression")⟩
  | lines {owner token : Token} {line : Nat} {failure : Failure} (owns : Owns owner token)
      (liquid : owner.value = "liquid")
      (first : FirstFails none (lineItems token.value line) failure) :
      Fails (some owner) token line failure

/-- The failure in the first body that cannot be read. -/
inductive FirstFails : (before : Option Token) → List (Token × Nat) → Failure → Prop where
  | here {before : Option Token} {token : Token} {line : Nat} {items : List (Token × Nat)}
      {failure : Failure} (fails : Fails before token line failure) :
      FirstFails before ((token, line) :: items) failure
  | later {before : Option Token} {token : Token} {line : Nat} {below : List TokenTree}
      {items : List (Token × Nat)} {failure : Failure} (fine : Below before token line below)
      (others : FirstFails (some token) items failure) :
      FirstFails before ((token, line) :: items) failure

end

/-! ### Owners -/

theorem Owned.append {before : Option Token} {tokens others : List Token}
    (first : Owned before tokens) (rest : ∀ last, Owned last others) :
    Owned before (tokens ++ others) := by
  induction tokens generalizing before with
  | nil => exact rest before
  | cons token tokens ih => exact ⟨first.1, ih first.2⟩

/-- Tokens other than expressions belong to no tag. -/
theorem owned_of_kinds {tokens : List Token} (bare : ∀ token ∈ tokens, token.kind ≠ .expression)
    (before : Option Token) : Owned before tokens := by
  induction tokens generalizing before with
  | nil => trivial
  | cons token tokens ih =>
      obtain ⟨first, others⟩ := List.forall_mem_cons.1 bare
      exact ⟨fun expression => absurd expression first, ih others (some token)⟩

/-- A tag and its expression. -/
theorem owned_tag (before : Option Token) {tag : Token} (kind : tag.kind = .tag)
    {expression : List Token} (one : expression = [] ∨ ∃ token, expression = [token]) :
    Owned before (tag :: expression) := by
  refine ⟨by simp [kind], ?_⟩
  rcases one with rfl | ⟨token, rfl⟩
  · trivial
  · exact ⟨fun _ => ⟨tag, rfl, kind⟩, trivial⟩

theorem owned_lineTokens (before : Option Token) (number : Nat) (line : List Char) :
    Owned before (LiquidBody.lineTokens number line) := by
  rw [LiquidBody.lineTokens_eq]
  split
  · trivial
  · refine owned_tag before rfl ?_
    split
    · exact .inl rfl
    · exact .inr ⟨_, rfl⟩

theorem owned_linesTokens (before : Option Token) (number : Nat) (texts : List (List Char)) :
    Owned before (LiquidBody.linesTokens number texts) := by
  induction texts generalizing before number with
  | nil => trivial
  | cons text texts ih =>
      exact (owned_lineTokens before number text).append fun last => ih last (number + 1)

/-- In a template each expression comes directly after its tag. -/
theorem owned_of_course {delimiters : Delimiters} {read text : List Char} {visits : List Visit}
    (course : Template.Course delimiters read text visits) (before : Option Token) :
    Owned before (visits.flatMap Visit.tokens) := by
  induction course generalizing before with
  | ended => trivial
  | @region read left visit visits holds later ih =>
      obtain ⟨region, piece, inner, tokens, bodyLine⟩ := visit
      refine Owned.append ?_ ih
      cases holds with
      | plain noBody literals =>
          refine owned_of_kinds (fun token member => ?_) before
          rw [literals token member]
          nofun
      | statement => exact owned_of_kinds (by simp) before
      | tag =>
          refine owned_tag before rfl ?_
          unfold Template.tokenUnlessEmpty
          split
          · exact .inl rfl
          · exact .inr ⟨_, rfl⟩

theorem tokens_of_logOf (visits : List Visit) :
    (Template.Stream.logOf visits).map Prod.fst = visits.flatMap Visit.tokens := by
  simp [Template.Stream.logOf, List.map_flatMap, Function.comp_def]

/-- In the items of a template each expression comes directly after its tag. -/
theorem owned_logOf {delimiters : Delimiters} {stream : Template.Stream} {read text : List Char}
    {visits : List Visit} {error : Option LexError}
    (visited : Template.Stream.Visits delimiters stream visits error)
    (ready : Template.Stream.Ready delimiters stream read text) :
    Owned none ((Template.Stream.logOf visits).map Prod.fst) := by
  rw [tokens_of_logOf]
  exact owned_of_course (Template.Stream.course_of_visits visited ready) none

/-! ### Trees of one body -/

section Body

variable {form : Form} {context text : String} {line : Nat}

theorem body_eq_ok_iff {trees : List TokenTree} : body form context text line = .ok trees
    ↔ ∃ tokens, form.grammar.tokenize text line = ⟨tokens, none⟩ ∧ trees = tokens.map .leaf := by
  rw [body, Run.result]
  rcases form.grammar.tokenize text line with ⟨tokens, _ | error⟩
  · constructor
    · rintro ⟨⟩
      exact ⟨tokens, rfl, rfl⟩
    · rintro ⟨_, ⟨⟩, rfl⟩
      rfl
  · exact ⟨nofun, nofun⟩

theorem body_eq_error_iff {failure : Failure} : body form context text line = .error failure
    ↔ ∃ tokens error, form.grammar.tokenize text line = ⟨tokens, some error⟩
      ∧ failure = ⟨error, text, some context⟩ := by
  rw [body, Run.result]
  rcases form.grammar.tokenize text line with ⟨tokens, _ | error⟩
  · exact ⟨nofun, nofun⟩
  · constructor
    · rintro ⟨⟩
      exact ⟨tokens, error, rfl, rfl⟩
    · rintro ⟨_, _, ⟨⟩, rfl⟩
      rfl

end Body

/-! ### Trees of items -/

/-- The latest tag is the token before, if that is a tag. -/
def Carries (tag : String) (before : Option Token) : Prop :=
  ∀ owner ∈ before, owner.kind = .tag → owner.value = tag

/-- If the token is an expression, the token before it is the latest tag. -/
def OwnedBy (tag : String) (before : Option Token) (token : Token) : Prop :=
  token.kind = .expression → ∃ owner, before = some owner ∧ Owns owner token ∧ owner.value = tag

/-- An outcome is the one that the rules give to the body of a token. -/
structure Accords (outcome : Except Failure (List TokenTree)) (before : Option Token)
    (token : Token) (line : Nat) : Prop where
  ok_iff : ∀ trees, outcome = .ok trees ↔ Below before token line trees
  error_iff : ∀ failure, outcome = .error failure ↔ Fails before token line failure

/-- The trees and the failure of the body of a token are those that the rules give it. -/
def Settled (token : Token) (line : Nat) : Prop :=
  ∀ tag before, OwnedBy tag before token → Accords (children tag token line) before token line

section Items

variable {source tag : String} {error : Option LexError} {before : Option Token} {token : Token}
  {line : Nat} {items : List (Token × Nat)} {trees : List TokenTree} {failure : Failure}

theorem carries_after (tag : String) (token : Token) :
    Carries (if token.kind = .tag then token.value else tag) (some token) := by
  rintro owner ⟨⟩ kind
  rw [if_pos kind]

theorem Carries.ownedBy (carries : Carries tag before) {tokens : List Token}
    (owned : Owned before (token :: tokens)) : OwnedBy tag before token := by
  intro expression
  obtain ⟨owner, member, kind⟩ := owned.1 expression
  exact ⟨owner, member, ⟨kind, expression⟩, carries owner member kind⟩

theorem forest_cons_eq_ok_iff : forest true source error tag ((token, line) :: items) = .ok trees
    ↔ ∃ below others, children tag token line = .ok below
      ∧ forest true source error (if token.kind = .tag then token.value else tag) items = .ok others
      ∧ trees = .node token below :: others := by
  rw [forest]
  simp only [if_true]
  rw [bind_eq_ok_iff]
  constructor
  · rintro ⟨below, here, rest⟩
    obtain ⟨others, later, same⟩ := bind_eq_ok_iff.1 rest
    cases same
    exact ⟨below, others, here, later, rfl⟩
  · rintro ⟨below, others, here, later, rfl⟩
    exact ⟨below, here, bind_eq_ok_iff.2 ⟨others, later, rfl⟩⟩

theorem forest_cons_eq_error_iff :
    forest true source error tag ((token, line) :: items) = .error failure
    ↔ children tag token line = .error failure
      ∨ ∃ below, children tag token line = .ok below
        ∧ forest true source error (if token.kind = .tag then token.value else tag) items
          = .error failure := by
  rw [forest]
  simp only [if_true]
  cases children tag token line with
  | error first =>
      constructor
      · rintro ⟨⟩
        exact .inl rfl
      · rintro (⟨⟨⟩⟩ | ⟨below, ⟨⟩, -⟩)
        rfl
  | ok below =>
      cases forest true source error _ items with
      | error later =>
          constructor
          · rintro ⟨⟩
            exact .inr ⟨below, rfl, rfl⟩
          · rintro (⟨⟨⟩⟩ | ⟨_, ⟨⟩, ⟨⟩⟩)
            rfl
      | ok others =>
          constructor
          · rintro ⟨⟩
          · rintro (⟨⟨⟩⟩ | ⟨_, ⟨⟩, ⟨⟩⟩)

/-- Items have trees if all their bodies have and nothing fails after them. -/
theorem forest_eq_ok_iff (settled : ∀ item ∈ items, Settled item.1 item.2)
    (carries : Carries tag before) (owned : Owned before (items.map Prod.fst)) :
    forest true source error tag items = .ok trees ↔ error = none ∧ Grown before items trees := by
  induction items generalizing tag before trees with
  | nil =>
      cases error with
      | none =>
          constructor
          · rintro ⟨⟩
            exact ⟨rfl, .nil⟩
          · rintro ⟨-, ⟨⟩⟩
            rfl
      | some error => exact ⟨nofun, nofun⟩
  | cons item items ih =>
      obtain ⟨token, line⟩ := item
      obtain ⟨first, others⟩ := List.forall_mem_cons.1 settled
      have here := (first tag before (carries.ownedBy owned)).ok_iff
      have rest (trees : List TokenTree) :
          forest true source error (if token.kind = .tag then token.value else tag) items
              = .ok trees ↔ error = none ∧ Grown (some token) items trees :=
        ih others (carries_after tag token) owned.2
      rw [forest_cons_eq_ok_iff]
      constructor
      · rintro ⟨below, others, fine, later, rfl⟩
        obtain ⟨none, grown⟩ := (rest others).1 later
        exact ⟨none, .cons ((here below).1 fine) grown⟩
      · rintro ⟨none, grown⟩
        cases grown with
        | cons fine later =>
            exact ⟨_, _, (here _).2 fine, (rest _).2 ⟨none, later⟩, rfl⟩

/-- Items fail with the first of their bodies that cannot be read, or if there is none with the
error that comes after them. -/
theorem forest_eq_error_iff (settled : ∀ item ∈ items, Settled item.1 item.2)
    (carries : Carries tag before) (owned : Owned before (items.map Prod.fst)) :
    forest true source error tag items = .error failure
      ↔ FirstFails before items failure
        ∨ (∃ trees, Grown before items trees)
          ∧ ∃ last, error = some last ∧ failure = ⟨last, source, none⟩ := by
  induction items generalizing tag before with
  | nil =>
      cases error with
      | none =>
          constructor
          · rintro ⟨⟩
          · rintro (⟨⟨⟩⟩ | ⟨-, _, ⟨⟩, -⟩)
      | some error =>
          constructor
          · rintro ⟨⟩
            exact .inr ⟨⟨[], .nil⟩, error, rfl, rfl⟩
          · rintro (⟨⟨⟩⟩ | ⟨-, _, ⟨⟩, rfl⟩)
            rfl
  | cons item items ih =>
      obtain ⟨token, line⟩ := item
      obtain ⟨first, others⟩ := List.forall_mem_cons.1 settled
      obtain ⟨fine, fails⟩ := first tag before (carries.ownedBy owned)
      have rest := ih others (carries_after tag token) owned.2
      rw [forest_cons_eq_error_iff, fails, rest]
      constructor
      · rintro (here | ⟨below, here, later | ⟨⟨trees, grown⟩, last⟩⟩)
        · exact .inl (.here here)
        · exact .inl (.later ((fine below).1 here) later)
        · exact .inr ⟨⟨_, .cons ((fine below).1 here) grown⟩, last⟩
      · rintro (here | ⟨⟨trees, grown⟩, last⟩)
        · cases here with
          | here here => exact .inl here
          | later here later => exact .inr ⟨_, (fine _).2 here, .inl later⟩
        · cases grown with
          | cons here later => exact .inr ⟨_, (fine _).2 here, .inr ⟨⟨_, later⟩, last⟩⟩

/-- Without expansion all trees are leaves, and only the error at the end can fail. -/
theorem forest_unexpanded (source tag : String) : forest false source error tag items
    = match error with
      | some last => .error ⟨last, source, none⟩
      | none => .ok (items.map fun item => .leaf item.1) := by
  induction items generalizing tag with
  | nil => rfl
  | cons item items ih =>
      obtain ⟨token, line⟩ := item
      show (do
        let others ← forest false source error _ items
        pure (TokenTree.leaf token :: others)) = _
      rw [ih]
      cases error with
      | none => rfl
      | some last => rfl

/-- The trees of an expansion have the tokens of the items at their roots. -/
theorem Grown.tokens (grown : Grown before items trees) :
    trees.map TokenTree.token = items.map Prod.fst := by
  induction items generalizing before trees with
  | nil =>
      cases grown
      rfl
  | cons item items ih =>
      cases grown with
      | cons here later => exact congrArg (_ :: ·) (ih later)

/-- The tokens of lines have the trees that they have as items with their own lines. -/
theorem lineTrees_eq_forest {tokens : List Token}
    (kinds : ∀ token ∈ tokens, token.kind = .tag ∨ token.kind = .expression) (source tag : String) :
    lineTrees expression tag tokens
      = forest true source none tag (tokens.map fun token => (token, token.line)) := by
  induction tokens generalizing tag with
  | nil => rfl
  | cons token tokens ih =>
      obtain ⟨kind, kinds⟩ := List.forall_mem_cons.1 kinds
      rw [lineTrees, List.map_cons, forest]
      rcases kind with isTag | isExpression
      · simp only [isTag, reduceCtorEq, if_false, if_true, children, ih kinds]
        rfl
      · simp only [isExpression, reduceCtorEq, if_false, if_true, children, ih kinds]

end Items

/-! ### Trees of a body -/

theorem owned_lineItems (text : String) (line : Nat) :
    Owned none ((lineItems text line).map Prod.fst) := by
  have same : (lineItems text line).map Prod.fst = LiquidBody.tokens text line := by
    simp [lineItems, Function.comp_def]
  rw [same]
  exact owned_linesTokens none line _

/-- The tokens of the lines of a body are tags and their expressions, and these are shorter than
the body. -/
theorem kind_of_mem_lineItems {text : String} {line number : Nat} {token : Token}
    (member : (token, number) ∈ lineItems text line) : token.line = number
      ∧ (token.kind = .tag ∨ token.kind = .expression ∧ token.value.length < text.length) := by
  obtain ⟨token, inside, same⟩ := List.mem_map.1 member
  cases same
  obtain ⟨row, -, number, found⟩ := LiquidBody.exists_of_mem_linesTokens inside
  refine ⟨rfl, (LiquidBody.kinds_of_mem_lineTokens token found).2.imp_right fun expression => ?_⟩
  exact ⟨expression, LiquidBody.length_lt_of_mem_tokens inside expression⟩

/-- The body of the tag `liquid` has the trees of its lines as items. -/
theorem expression_liquid_eq_forest (text : String) (line : Nat) :
    expression "liquid" text line = forest true text none "" (lineItems text line) := by
  rw [expression_liquid]
  refine lineTrees_eq_forest (fun token member => ?_) text ""
  have item : (token, token.line) ∈ lineItems text line := List.mem_map_of_mem member
  exact (kind_of_mem_lineItems item).2.imp_right And.left

theorem Owns.noStatement {owner token : Token} (owns : Owns owner token) :
    token.kind ≠ .statement := by
  rw [owns.expression]
  nofun

section Children

variable {owner token : Token} {line : Nat}

theorem settled_of_statement (kind : token.kind = .statement) : Settled token line := by
  intro tag before owned
  rw [children, kind]
  constructor
  · intro trees
    rw [body_eq_ok_iff]
    constructor
    · rintro ⟨tokens, run, rfl⟩
      exact .statement kind run
    · intro below
      cases below with
      | statement _ run => exact ⟨_, run, rfl⟩
      | expression owns | lines owns | unread owns => exact absurd kind owns.noStatement
      | bare noStatement => contradiction
  · intro failure
    rw [body_eq_error_iff]
    constructor
    · rintro ⟨tokens, error, run, rfl⟩
      exact .statement kind run
    · intro fails
      cases fails with
      | statement _ run => exact ⟨_, _, run, rfl⟩
      | expression owns | lines owns => exact absurd kind owns.noStatement

theorem settled_of_other (noStatement : token.kind ≠ .statement)
    (noExpression : token.kind ≠ .expression) : Settled token line := by
  intro tag before owned
  have same : children tag token line = .ok [] := by
    rw [children]
    split
    · contradiction
    · contradiction
    · rfl
  rw [same]
  constructor
  · intro trees
    constructor
    · rintro ⟨⟩
      exact .bare noStatement noExpression
    · intro below
      cases below with
      | statement => contradiction
      | expression owns | lines owns | unread owns => exact absurd owns.expression noExpression
      | bare => rfl
  · intro failure
    constructor
    · rintro ⟨⟩
    · intro fails
      cases fails with
      | statement => contradiction
      | expression owns | lines owns => exact absurd owns.expression noExpression

/-- What an expression comes to when its tag has a form. -/
theorem accords_of_form (owns : Owns owner token) {form : Form}
    (ordinary : Form.ofTag? owner.value = some form) :
    Accords (expression owner.value token.value line) (some owner) token line := by
  have noLiquid : owner.value ≠ "liquid" := by
    intro liquid
    rw [liquid] at ordinary
    cases ordinary
  rw [expression_of_form ordinary, expressionContext]
  constructor
  · intro trees
    rw [body_eq_ok_iff]
    constructor
    · rintro ⟨tokens, run, rfl⟩
      exact .expression owns ordinary run
    · intro below
      cases below with
      | statement kind => exact absurd kind owns.noStatement
      | expression _ same run =>
          obtain rfl := Option.some.inj (ordinary.symm.trans same)
          exact ⟨_, run, rfl⟩
      | lines _ liquid => contradiction
      | unread _ _ unknown => cases ordinary.symm.trans unknown
      | bare _ noExpression => exact absurd owns.expression noExpression
  · intro failure
    rw [body_eq_error_iff]
    constructor
    · rintro ⟨tokens, error, run, rfl⟩
      exact .expression owns ordinary run
    · intro fails
      cases fails with
      | statement kind => exact absurd kind owns.noStatement
      | expression _ same run =>
          obtain rfl := Option.some.inj (ordinary.symm.trans same)
          exact ⟨_, _, run, rfl⟩
      | lines _ liquid => contradiction

/-- What it comes to when its tag has none. -/
theorem accords_of_unknown (owns : Owns owner token) (other : owner.value ≠ "liquid")
    (unknown : Form.ofTag? owner.value = none) :
    Accords (expression owner.value token.value line) (some owner) token line := by
  rw [expression, if_neg other, unknown]
  constructor
  · intro trees
    constructor
    · rintro ⟨⟩
      exact .unread owns other unknown
    · intro below
      cases below with
      | statement kind => exact absurd kind owns.noStatement
      | expression _ ordinary => cases unknown.symm.trans ordinary
      | lines _ liquid => contradiction
      | unread => rfl
      | bare _ noExpression => exact absurd owns.expression noExpression
  · intro failure
    constructor
    · rintro ⟨⟩
    · intro fails
      cases fails with
      | statement kind => exact absurd kind owns.noStatement
      | expression _ ordinary => cases unknown.symm.trans ordinary
      | lines _ liquid => contradiction

/-- What it comes to when its tag is `liquid`. -/
theorem accords_of_liquid (owns : Owns owner token) (liquid : owner.value = "liquid")
    (settled : ∀ item ∈ lineItems token.value line, Settled item.1 item.2) :
    Accords (expression owner.value token.value line) (some owner) token line := by
  have noForm : Form.ofTag? owner.value = none := by
    rw [liquid]
    rfl
  have carries : Carries "" none := nofun
  have owned := owned_lineItems token.value line
  rw [liquid, expression_liquid_eq_forest]
  constructor
  · intro trees
    rw [forest_eq_ok_iff settled carries owned]
    constructor
    · rintro ⟨-, grown⟩
      exact .lines owns liquid grown
    · intro below
      cases below with
      | statement kind => exact absurd kind owns.noStatement
      | expression _ ordinary => cases noForm.symm.trans ordinary
      | lines _ _ grown => exact ⟨rfl, grown⟩
      | unread _ other => contradiction
      | bare _ noExpression => exact absurd owns.expression noExpression
  · intro failure
    rw [forest_eq_error_iff settled carries owned]
    constructor
    · rintro (first | ⟨-, last, ⟨⟩, -⟩)
      exact .lines owns liquid first
    · intro fails
      cases fails with
      | statement kind => exact absurd kind owns.noStatement
      | expression _ ordinary => cases noForm.symm.trans ordinary
      | lines _ _ first => exact .inl first

/-- Every body comes to what the rules say. The recursion is on the length of the body: an
expression in a line of a `liquid` body is shorter than this body. -/
theorem settled (token : Token) (line : Nat) : Settled token line := by
  by_cases statement : token.kind = .statement
  · exact settled_of_statement statement
  by_cases isExpression : token.kind = .expression
  · intro tag before owned
    obtain ⟨owner, rfl, owns, rfl⟩ := owned isExpression
    rw [children, isExpression]
    by_cases liquid : owner.value = "liquid"
    · refine accords_of_liquid owns liquid fun ⟨inner, number⟩ member => ?_
      obtain ⟨-, isTag | ⟨-, shorter⟩⟩ := kind_of_mem_lineItems member
      · exact settled_of_other (by simp [isTag]) (by simp [isTag])
      · exact settled inner number
    · cases form : Form.ofTag? owner.value with
      | none => exact accords_of_unknown owns liquid form
      | some form => exact accords_of_form owns ‹_›
  · exact settled_of_other statement isExpression
termination_by token.value.length

end Children

/-! ### Requests -/

theorem mapError_eq_ok_iff {ε φ α : Type} {outcome : Except ε α} {f : ε → φ} {a : α} :
    outcome.mapError f = .ok a ↔ outcome = .ok a := by
  cases outcome with
  | error e => exact ⟨nofun, nofun⟩
  | ok b =>
      constructor
      · rintro ⟨⟩
        rfl
      · rintro ⟨⟩
        rfl

theorem mapError_eq_error_iff {ε φ α : Type} {outcome : Except ε α} {f : ε → φ} {e : φ} :
    outcome.mapError f = .error e ↔ ∃ first, outcome = .error first ∧ e = f first := by
  cases outcome with
  | error first =>
      constructor
      · rintro ⟨⟩
        exact ⟨first, rfl, rfl⟩
      · rintro ⟨_, ⟨⟩, rfl⟩
        rfl
  | ok b => exact ⟨nofun, nofun⟩

section Requests

variable {request : CommandLine.Request} (plain : request.mode = none)
  (valid : request.delimiters.validate = .ok ()) {source : String} {visits : List Visit}
  {error : Option LexError}
  (visited : Template.Stream.Visits request.delimiters
    (Template.Stream.start (regionTable request.delimiters) source) visits error)
include plain valid visited

/-- The trees of a request for a template are those of the items of its visits. -/
theorem request_trees_eq (expand : Bool) : { request with expand }.trees source
    = (forest expand source error "" (Template.Stream.logOf visits)).mapError .lex := by
  have made : RegionTable.compile { request with expand }.delimiters
      = .ok (regionTable request.delimiters) := compile_eq_ok valid
  rw [CommandLine.Request.trees, made]
  simp only [plain]
  rw [template_of_visits valid visited]

theorem unexpanded_eq_ok_iff (trees : List TokenTree) :
    { request with expand := false }.trees source = .ok trees
      ↔ error = none ∧ trees = (Template.Stream.logOf visits).map fun item => .leaf item.1 := by
  rw [request_trees_eq plain valid visited, mapError_eq_ok_iff, forest_unexpanded]
  cases error with
  | none =>
      constructor
      · rintro ⟨⟩
        exact ⟨rfl, rfl⟩
      · rintro ⟨-, rfl⟩
        rfl
  | some last => exact ⟨nofun, nofun⟩

theorem unexpanded_eq_error_iff (refusal : Refusal) :
    { request with expand := false }.trees source = .error refusal
      ↔ ∃ last, error = some last ∧ refusal = .lex ⟨last, source, none⟩ := by
  rw [request_trees_eq plain valid visited, mapError_eq_error_iff, forest_unexpanded]
  cases error with
  | none =>
      constructor
      · rintro ⟨_, ⟨⟩, -⟩
      · rintro ⟨_, ⟨⟩, -⟩
  | some last =>
      constructor
      · rintro ⟨_, ⟨⟩, rfl⟩
        exact ⟨last, rfl, rfl⟩
      · rintro ⟨_, ⟨⟩, rfl⟩
        exact ⟨_, rfl, rfl⟩

theorem expanded_eq_ok_iff (owned : Owned none ((Template.Stream.logOf visits).map Prod.fst))
    (trees : List TokenTree) : { request with expand := true }.trees source = .ok trees
      ↔ error = none ∧ Grown none (Template.Stream.logOf visits) trees := by
  have carries : Carries "" none := nofun
  rw [request_trees_eq plain valid visited, mapError_eq_ok_iff,
    forest_eq_ok_iff (fun item _ => settled item.1 item.2) carries owned]

theorem expanded_eq_error_iff (owned : Owned none ((Template.Stream.logOf visits).map Prod.fst))
    (refusal : Refusal) : { request with expand := true }.trees source = .error refusal
      ↔ ∃ failure, refusal = .lex failure
        ∧ (FirstFails none (Template.Stream.logOf visits) failure
          ∨ (∃ trees, Grown none (Template.Stream.logOf visits) trees)
            ∧ ∃ last, error = some last ∧ failure = ⟨last, source, none⟩) := by
  have carries : Carries "" none := nofun
  rw [request_trees_eq plain valid visited, mapError_eq_error_iff]
  refine exists_congr fun failure => ?_
  rw [forest_eq_error_iff (fun item _ => settled item.1 item.2) carries owned, and_comm]

end Requests

/-- What the expansion of a template comes to is decided by the items that there are without it.
Each expression comes directly after its tag; there are trees exactly if nothing ends the items
with an error and every body can be read; and a failure is the first in the order of the items. No
run would come to anything else if it went on for longer. -/
theorem trees_expanded {request : CommandLine.Request} (plain : request.mode = none)
    (valid : request.delimiters.validate = .ok ()) (source : String) :
    ∃ regions items error,
      RegionTable.compile request.delimiters = .ok regions
      ∧ (∀ count, 2 * source.length < count →
          (Template.Stream.start regions source).log count = (items, error)
          ∧ trees true "" count (Template.Stream.start regions source)
            = template regions true source)
      ∧ (∀ (form : Form) text line count, text.length < count →
          (Expression.Stream.start form.grammar text line).take count
            = form.grammar.tokenize text line)
      ∧ regions.tokenize source = ⟨items.map Prod.fst, error⟩
      ∧ Owned none (items.map Prod.fst)
      ∧ (∀ text line, Owned none (LiquidBody.tokens text line))
      ∧ (∀ trees, { request with expand := false }.trees source = .ok trees
          ↔ error = none ∧ trees = items.map fun item => .leaf item.1)
      ∧ (∀ refusal, { request with expand := false }.trees source = .error refusal
          ↔ ∃ last, error = some last ∧ refusal = .lex ⟨last, source, none⟩)
      ∧ (∀ trees, { request with expand := true }.trees source = .ok trees
          ↔ error = none ∧ Grown none items trees)
      ∧ (∀ trees, { request with expand := true }.trees source = .ok trees →
          { request with expand := false }.trees source
            = .ok (trees.map fun tree => .leaf tree.token))
      ∧ ∀ refusal, { request with expand := true }.trees source = .error refusal
          ↔ ∃ failure, refusal = .lex failure
            ∧ (FirstFails none items failure
              ∨ (∃ trees, Grown none items trees)
                ∧ ∃ last, error = some last ∧ failure = ⟨last, source, none⟩) := by
  have ready := Template.Stream.ready_start valid source
  obtain ⟨visits, error, visited⟩ := Template.Stream.exists_visits ready
  have owned := owned_logOf visited ready
  have logs {count : Nat} (enough : 2 * source.length < count) :
      (Template.Stream.start (regionTable request.delimiters) source).log count
        = (Template.Stream.logOf visits, error) :=
    Template.Stream.log_of_visits visited ready (by rwa [String.length_toList])
  refine ⟨regionTable request.delimiters, Template.Stream.logOf visits, error,
    compile_eq_ok valid, fun count enough => ⟨logs enough, ?_⟩,
    fun form text line count enough => ?_, ?_, owned,
    fun text line => owned_linesTokens none line _,
    unexpanded_eq_ok_iff plain valid visited, unexpanded_eq_error_iff plain valid visited,
    expanded_eq_ok_iff plain valid visited owned, fun trees grows => ?_,
    expanded_eq_error_iff plain valid visited owned⟩
  · rw [trees_eq_forest, logs enough, template_of_visits valid visited]
    rfl
  · obtain ⟨tokens, error, same, -, longer⟩ := Expression.reading_tokenize form text line
    rw [longer count enough, same]
  · rw [RegionTable.tokenize, Template.Stream.run_of_visits visited ready, tokens_of_logOf]
  · obtain ⟨fine, grown⟩ := (expanded_eq_ok_iff plain valid visited owned trees).1 grows
    rw [unexpanded_eq_ok_iff plain valid visited]
    have leaves := congrArg (List.map TokenTree.leaf) grown.tokens
    rw [List.map_map, List.map_map] at leaves
    exact ⟨fine, leaves⟩

/-- A template whose last statement has no end, with a line before it that cannot be read. -/
def failingLine : String :=
  "\x7b% liquid echo b\nif %\n%\x7d\x7b\x7b"

/-- What is wrong with that line. -/
def lineFailure : Failure :=
  ⟨⟨.unexpectedCharacter "%", 2, ⟨0, 1⟩⟩, "%", some "`if` expression"⟩

theorem expanded_failingLine :
    CommandLine.Request.trees { expand := true } failingLine = .error (.lex lineFailure) := by
  have refused : (match CommandLine.Request.trees { expand := true } failingLine with
      | .ok _ => none
      | .error refusal => some refusal) = some (.lex lineFailure) := by
    decide +kernel
  split at refused
  · cases refused
  · next refusal failed =>
      cases refused
      exact failed

/-- The line is reported, and not the statement without an end, which ends the run without
expansion. -/
theorem trees_failingLine :
    CommandLine.Request.mode { } = none ∧ (CommandLine.Request.delimiters { }).validate = .ok ()
      ∧ ∃ items last, CommandLine.Request.trees { expand := true } failingLine
          = .error (.lex lineFailure)
        ∧ CommandLine.Request.trees { expand := false } failingLine
          = .error (.lex ⟨last, failingLine, none⟩)
        ∧ Owned none (items.map Prod.fst) ∧ FirstFails none items lineFailure := by
  have valid : (CommandLine.Request.delimiters { }).validate = .ok () := by decide
  have stopped : (CommandLine.Request.trees { expand := false } failingLine).isOk = false := by
    decide +kernel
  refine ⟨rfl, valid, ?_⟩
  obtain ⟨regions, items, error, -, -, -, -, owned, -, -, unexpanded, -, -, expanded⟩ :=
    trees_expanded rfl valid failingLine
  cases alone : CommandLine.Request.trees { expand := false } failingLine with
  | ok trees =>
      rw [alone] at stopped
      cases stopped
  | error refusal =>
      obtain ⟨last, -, rfl⟩ := (unexpanded refusal).1 alone
      obtain ⟨failure, same, first⟩ := (expanded _).1 expanded_failingLine
      cases same
      refine ⟨items, last, expanded_failingLine, rfl, owned, first.resolve_right ?_⟩
      rintro ⟨-, last, -, same⟩
      cases congrArg Failure.context same

end LiquidTokens.Expansion
