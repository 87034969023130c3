import LiquidTokens.Proofs.Expansion.Grown
import LiquidTokens.Proofs.LiquidBody.Rows

/-!
Where the tokens of an expansion stand in the source.

A body is read as a text of its own, from the line on which it begins, and a line of a `liquid` body
again. Still every token that comes of this stands in the source itself: its lexeme is found there,
between the delimiters of the region that the token belongs to, behind the lexemes before it, and
the token's line is the one of this position (`Placed` and `Rooted`). In the same way a failure in a
body names a stretch of the source (`FailureAt`).

Main statement: `expanded_stands_in_source`.
-/

namespace LiquidTokens.Expansion

open Expression (Form Names Reading Spells)
open LiquidBody (Lined Row expressionIn gapIn leadIn lineTokens linesTokens nameIn)
open Template (Course Holds Leads Passage Region RegionTable Trails Visit covered regionTable
  compile_eq_ok)
open Text (byteLength isBlank isWord lineBreaks)

/-! ### Tokens in their places -/

/-- The lexemes of some trees stand in the source between two positions, one after the other, each
on the line of its token, and the lexemes of the trees below a token stand inside its own. -/
inductive Placed (source : List Char) : (start stop : Nat) → List TokenTree → Prop where
  | nil {start stop : Nat} : Placed source start stop []
  | cons {start stop : Nat} {before lexeme after : List Char} {token : Token}
      {below trees : List TokenTree} (split : source = before ++ lexeme ++ after)
      (nonempty : lexeme ≠ []) (spelled : Spells token lexeme)
      (line : token.line = 1 + lineBreaks before) (starts : start ≤ byteLength before)
      (stops : byteLength (before ++ lexeme) ≤ stop)
      (inside : Placed source (byteLength before) (byteLength (before ++ lexeme)) below)
      (later : Placed source (byteLength (before ++ lexeme)) stop trees) :
      Placed source start stop (.node token below :: trees)

/-- The delimiters of a region with a body. -/
def enclosing? (delimiters : Delimiters) : Region → Option (List Char × List Char)
  | .statement => some (delimiters.statementStart.toList, delimiters.statementEnd.toList)
  | .tag => some (delimiters.tagStart.toList, delimiters.tagEnd.toList)
  | .raw | .literal => none

/-- Trees below a token of a region that `read` comes before in the source: there are none, or they
stand between the delimiters of the region. -/
inductive Inside (delimiters : Delimiters) (source read : List Char) (passage : Passage) :
    List TokenTree → Prop where
  | leaf : Inside delimiters source read passage []
  | body {start inner stop : List Char} {trees : List TokenTree}
      (enclosed : enclosing? delimiters passage.region = some (start, stop))
      (split : passage.piece = start ++ inner ++ stop) (starts : start ≠ []) (stops : stop ≠ [])
      (placed : Placed source (byteLength (read ++ start)) (byteLength (read ++ start ++ inner))
        trees) :
      Inside delimiters source read passage trees

/-- The trees of the tokens of regions that follow one another in the source after `read`. -/
inductive Rooted (delimiters : Delimiters) (source : List Char) :
    (read : List Char) → List Passage → List TokenTree → Prop where
  | done {read : List Char} : Rooted delimiters source read [] []
  | region {read : List Char} {passage : Passage} {passages : List Passage}
      {trees others : List TokenTree} (tokens : trees.map TokenTree.token = passage.tokens)
      (inside : ∀ tree ∈ trees, Inside delimiters source read passage tree.children)
      (later : Rooted delimiters source (read ++ passage.piece) passages others) :
      Rooted delimiters source read (passage :: passages) (trees ++ others)

/-! ### Failures in their places -/

/-- A whole body of a template, and what comes before it in the source: the body of a statement or
of a tag, or the expression in one line of the body of a tag `liquid`, in whatever body this tag
stands itself. The owner of a body is the name of its tag, if it is not that of a statement. -/
inductive BodyAt (delimiters : Delimiters) (passages : List Passage) :
    (owner : Option String) → (before body : List Char) → Prop where
  | statement {earlier later : List Passage} {lead body trail : List Char} {line : Nat}
      (leads : Leads lead) (trails : Trails trail)
      (region : passages = earlier ++ ⟨.statement,
          delimiters.statementStart.toList ++ lead ++ body ++ trail
            ++ delimiters.statementEnd.toList,
          [⟨line, .statement, String.ofList body⟩]⟩ :: later) :
      BodyAt delimiters passages none
        (covered earlier ++ delimiters.statementStart.toList ++ lead) body
  | tag {earlier later : List Passage} {lead name gap body trail : List Char} {line : Nat}
      (leads : Leads lead) (word : ∀ c ∈ name, isWord c = true)
      (blank : ∀ c ∈ gap, isBlank c = true) (trails : Trails trail)
      (region : passages = earlier ++ ⟨.tag,
          delimiters.tagStart.toList ++ (lead ++ name ++ gap) ++ body ++ trail
            ++ delimiters.tagEnd.toList,
          [⟨line, .tag, String.ofList name⟩, ⟨line, .expression, String.ofList body⟩]⟩ :: later) :
      BodyAt delimiters passages (some (String.ofList name))
        (covered earlier ++ delimiters.tagStart.toList ++ (lead ++ name ++ gap)) body
  | line {before text above row below : List Char}
      (outer : BodyAt delimiters passages (some "liquid") before text)
      (inside : Row text above row below) (named : nameIn row ≠ []) :
      BodyAt delimiters passages (some (String.ofList (nameIn row)))
        (before ++ above ++ (leadIn row ++ nameIn row ++ gapIn row)) (expressionIn row)

/-- What a body with this owner is called in a failure. -/
def contextOf : (owner : Option String) → String
  | none => "output statement"
  | some tag => "`" ++ tag ++ "` expression"

/-- A failure in a body with this owner that stands in the source between `before` and `after`. It
names the part `found` of the body, which `front` comes before in it. -/
structure FailureAt (delimiters : Delimiters) (passages : List Passage) (source : List Char)
    (failure : Failure) (owner : Option String) (before front found back after : List Char) :
    Prop where
  body : BodyAt delimiters passages owner before failure.text.toList
  stands : source = before ++ failure.text.toList ++ after
  context : failure.context = some (contextOf owner)
  parts : failure.text.toList = front ++ found ++ back
  nonempty : found ≠ []
  span : failure.error.span = ⟨byteLength front, byteLength front + byteLength found⟩
  names : Names failure.error.cause found
  line : failure.error.line = 1 + lineBreaks (before ++ front)

/-! ### Readings -/

theorem Placed.weaken {source : List Char} {start stop earlier later : Nat}
    {trees : List TokenTree} (placed : Placed source start stop trees) (starts : earlier ≤ start)
    (stops : stop ≤ later) : Placed source earlier later trees := by
  induction placed generalizing earlier with
  | nil => exact .nil
  | cons split nonempty spelled line first last inside others ihInside ihOthers =>
      exact .cons split nonempty spelled line (starts.trans first) (last.trans stops) inside
        (ihOthers le_rfl stops)

/-- The tokens of a reading stand where it found them. -/
theorem placed_of_reading {source outer after read rest : List Char} {first : Nat}
    {tokens : List Token} {error : Option LexError} (reading : Reading first read rest tokens error)
    (fine : error = none) (split : source = outer ++ (read ++ rest) ++ after)
    (number : first = 1 + lineBreaks outer) {trees : List TokenTree}
    (same : trees.map TokenTree.token = tokens)
    (below : ∀ tree ∈ trees, ∀ before lexeme after, source = before ++ lexeme ++ after →
      Spells tree.token lexeme → tree.token.line = 1 + lineBreaks before →
      Placed source (byteLength before) (byteLength (before ++ lexeme)) tree.children) :
    Placed source (byteLength (outer ++ read)) (byteLength (outer ++ (read ++ rest))) trees := by
  induction reading generalizing trees with
  | ended =>
      rw [List.map_eq_nil_iff] at same
      subst same
      exact .nil
  | @passed read piece left tokens error nonempty later ih =>
      rw [← List.append_assoc read] at split ⊢
      refine (ih fine split same below).weaken ?_ le_rfl
      simp only [Text.byteLength_append]
      omega
  | @token read lexeme left token tokens error nonempty spelled line later ih =>
      obtain ⟨⟨root, children⟩, trees, rfl, rfl, rest⟩ := List.map_eq_cons_iff.1 same
      obtain ⟨here, others⟩ := List.forall_mem_cons.1 below
      have place : source = outer ++ read ++ lexeme ++ (left ++ after) := by
        rw [split]
        simp
      have row : root.line = 1 + lineBreaks (outer ++ read) := by
        have known : root.line = first + lineBreaks read := line
        rw [known, number, Text.lineBreaks_append, Nat.add_assoc]
      rw [← List.append_assoc read] at split ⊢
      have behind := ih fine split rest others
      rw [← List.append_assoc outer read lexeme] at behind
      refine .cons place nonempty spelled row le_rfl ?_ (here _ _ _ place spelled row) behind
      simp only [Text.byteLength_append]
      omega
  | failed => cases fine

/-- The failure of a reading is a stretch of the text. -/
theorem failed_of_reading {read rest : List Char} {first : Nat} {tokens : List Token}
    {error : LexError} {outcome : Option LexError}
    (reading : Reading first read rest tokens outcome) (failed : outcome = some error) :
    ∃ front found back, read ++ rest = front ++ found ++ back ∧ found ≠ []
      ∧ Names error.cause found ∧ error.line = first + lineBreaks front
      ∧ error.span = ⟨byteLength front, byteLength front + byteLength found⟩ := by
  induction reading with
  | ended => cases failed
  | passed nonempty later ih => simpa using ih failed
  | token nonempty spelled line later ih => simpa using ih failed
  | @failed read found left cause nonempty names =>
      cases failed
      exact ⟨read, found, left, by simp, nonempty, names, rfl, rfl⟩

/-! ### Trees below a token -/

/-- An expression is spelled as its text. -/
theorem lexeme_of_expression {token : Token} {lexeme : List Char} (spelled : Spells token lexeme)
    (expression : token.kind = .expression) : lexeme = token.value.toList := by
  cases spelled with
  | plain => rfl
  | quoted kind | index kind | subscript kind => exact absurd (expression.symm.trans kind) nofun

/-- The trees below a token are those that the rules give to the body of an item. -/
theorem Grown.below_of_mem {before : Option Token} {items : List (Token × Nat)}
    {trees : List TokenTree} (grown : Grown before items trees) {tree : TokenTree}
    (member : tree ∈ trees) :
    ∃ previous line, (tree.token, line) ∈ items ∧ Below previous tree.token line tree.children := by
  induction items generalizing before trees with
  | nil =>
      cases grown
      cases member
  | cons item items ih =>
      cases grown with
      | cons here later =>
          rcases List.mem_cons.1 member with rfl | member
          · exact ⟨before, _, List.mem_cons_self, here⟩
          · obtain ⟨previous, line, inside, below⟩ := ih later member
            exact ⟨previous, line, List.mem_cons_of_mem _ inside, below⟩

theorem Grown.split {before : Option Token} {items others : List (Token × Nat)}
    {trees : List TokenTree} (grown : Grown before (items ++ others) trees) :
    ∃ first rest last, trees = first ++ rest ∧ Grown before items first
      ∧ Grown last others rest := by
  induction items generalizing before trees with
  | nil => exact ⟨[], trees, before, rfl, .nil, grown⟩
  | cons item items ih =>
      cases grown with
      | cons here later =>
          obtain ⟨first, rest, last, rfl, inside, outside⟩ := ih later
          exact ⟨_, rest, last, rfl, .cons here inside, outside⟩

section Bodies

variable {source front back : List Char} {before : Option Token} {token : Token} {line : Nat}

/-- The tokens of a body in a form stand where the body stands. -/
theorem placed_of_form {form : Form} {text : String} {tokens : List Token}
    (run : form.grammar.tokenize text line = ⟨tokens, none⟩)
    (split : source = front ++ text.toList ++ back) (number : line = 1 + lineBreaks front) :
    Placed source (byteLength front) (byteLength (front ++ text.toList)) (tokens.map .leaf) := by
  obtain ⟨found, error, same, reading, -⟩ := Expression.reading_tokenize form text line
  rw [run] at same
  cases same
  have leaves : (tokens.map TokenTree.leaf).map TokenTree.token = tokens := by
    simp [Function.comp_def, TokenTree.leaf, TokenTree.token]
  have placed := placed_of_reading reading rfl split number leaves fun tree member => by
    obtain ⟨token, -, rfl⟩ := List.mem_map.1 member
    intros
    exact .nil
  rwa [List.append_nil] at placed

theorem Below.eq_nil {trees : List TokenTree} (below : Below before token line trees)
    (noStatement : token.kind ≠ .statement) (noExpression : token.kind ≠ .expression) :
    trees = [] := by
  cases below with
  | statement => contradiction
  | expression owns | lines owns | unread owns => exact absurd owns.expression noExpression
  | bare => rfl

/-- The trees below a token stand inside its text, wherever this text stands in the source. The
recursion is on the length of the text. -/
theorem placed_of_below {token : Token} {line : Nat} {before : Option Token}
    {trees : List TokenTree} (below : Below before token line trees) {source front back : List Char}
    (split : source = front ++ token.value.toList ++ back) (number : line = 1 + lineBreaks front) :
    Placed source (byteLength front) (byteLength (front ++ token.value.toList)) trees := by
  cases below with
  | statement _ run => exact placed_of_form run split number
  | expression _ _ run => exact placed_of_form run split number
  | unread => exact .nil
  | bare => exact .nil
  | lines owns liquid grown =>
      have reading := LiquidBody.reading_tokens token.value line
      have same : trees.map TokenTree.token = LiquidBody.tokens token.value line := by
        rw [grown.tokens, lineItems]
        simp [Function.comp_def]
      have placed := placed_of_reading reading rfl split number same fun tree member => by
        intro before lexeme after stands spelled row
        obtain ⟨previous, bodyLine, item, inner⟩ := grown.below_of_mem member
        obtain ⟨rfl, isTag | ⟨expression, shorter⟩⟩ := kind_of_mem_lineItems item
        · rw [inner.eq_nil (by simp [isTag]) (by simp [isTag])]
          exact .nil
        · obtain rfl := lexeme_of_expression spelled expression
          exact placed_of_below inner stands row
      rwa [List.append_nil] at placed
termination_by token.value.length

end Bodies

/-! ### Trees of a template -/

section Regions

variable {delimiters : Delimiters} {source read piece left text : List Char} {region : Region}
  {tokens : List Token} {bodyLine : Nat}

/-- The body of a token stands between the delimiters of its region. -/
theorem body_of_holds (valid : delimiters.validate = .ok ())
    (holds : Holds delimiters read region piece tokens bodyLine) {token : Token}
    (member : token ∈ tokens) (kind : token.kind = .statement ∨ token.kind = .expression) :
    ∃ start lead trail stop, enclosing? delimiters region = some (start, stop) ∧ start ≠ []
      ∧ stop ≠ [] ∧ piece = start ++ (lead ++ token.value.toList ++ trail) ++ stop
      ∧ bodyLine = 1 + lineBreaks (read ++ start ++ lead) := by
  cases holds with
  | plain noBody literals =>
      rw [literals token member] at kind
      exact kind.elim nofun nofun
  | @statement lead body trail =>
      obtain rfl := List.mem_singleton.1 member
      refine ⟨_, lead, trail, _, rfl, Template.statementStart_ne valid,
        Template.statementEnd_ne valid, ?_, rfl⟩
      simp
  | @tag lead name gap body trail =>
      rcases List.mem_cons.1 member with rfl | member
      · exact kind.elim nofun nofun
      · unfold Template.tokenUnlessEmpty at member
        split at member
        · cases member
        · obtain rfl := List.mem_singleton.1 member
          refine ⟨_, lead ++ name ++ gap, trail, _, rfl, Template.tagStart_ne valid,
            Template.tagEnd_ne valid, ?_, rfl⟩
          simp

/-- The trees below a token of a region stand in the region. -/
theorem inside_of_below (valid : delimiters.validate = .ok ())
    (holds : Holds delimiters read region piece tokens bodyLine)
    (split : source = read ++ (piece ++ left)) {previous : Option Token} {token : Token}
    (member : token ∈ tokens) {trees : List TokenTree}
    (below : Below previous token bodyLine trees) :
    Inside delimiters source read ⟨region, piece, tokens⟩ trees := by
  by_cases kind : token.kind = .statement ∨ token.kind = .expression
  · obtain ⟨start, lead, trail, stop, enclosed, starts, stops, whole, line⟩ :=
      body_of_holds valid holds member kind
    have stands : source = read ++ start ++ lead ++ token.value.toList
        ++ (trail ++ stop ++ left) := by
      rw [split, whole]
      simp
    refine .body enclosed whole starts stops ((placed_of_below below stands line).weaken ?_ ?_)
    · simp only [Text.byteLength_append]
      omega
    · simp only [Text.byteLength_append]
      omega
  · obtain ⟨noStatement, noExpression⟩ := not_or.1 kind
    rw [below.eq_nil noStatement noExpression]
    exact .leaf

/-- The trees of all regions stand in these regions. -/
theorem rooted_of_course (valid : delimiters.validate = .ok ()) {visits : List Visit}
    (course : Course delimiters read text visits) (split : source = read ++ text)
    {before : Option Token} {trees : List TokenTree}
    (grown : Grown before (Template.Stream.logOf visits) trees) :
    Rooted delimiters source read (visits.map Visit.passage) trees := by
  induction course generalizing before trees with
  | ended =>
      cases grown
      exact .done
  | @region read left visit visits holds later ih =>
      rw [Template.Stream.logOf, List.flatMap_cons] at grown
      obtain ⟨first, rest, last, rfl, here, others⟩ := grown.split
      have tokens : first.map TokenTree.token = visit.tokens := by
        rw [here.tokens, List.map_map]
        simp [Function.comp_def]
      refine .region tokens (fun tree member => ?_) (ih (by rw [split, List.append_assoc]) others)
      obtain ⟨previous, line, item, below⟩ := here.below_of_mem member
      obtain ⟨token, inside, same⟩ := List.mem_map.1 item
      cases same
      exact inside_of_below valid holds split inside below

end Regions

/-! ### Bodies that fail -/

section Fails

variable {before : Option Token} {token tag : Token} {line number : Nat} {failure : Failure}
  {items others : List (Token × Nat)}

theorem Fails.kind (fails : Fails before token line failure) :
    token.kind = .statement ∨ token.kind = .expression := by
  cases fails with
  | statement kind => exact .inl kind
  | expression owns | lines owns => exact .inr owns.expression

theorem FirstFails.exists_mem (first : FirstFails before items failure) :
    ∃ item ∈ items, ∃ previous, Fails previous item.1 item.2 failure := by
  induction items generalizing before with
  | nil => cases first
  | cons item items ih =>
      cases first with
      | here fails => exact ⟨_, List.mem_cons_self, before, fails⟩
      | later fine others =>
          obtain ⟨item, member, fails⟩ := ih others
          exact ⟨item, List.mem_cons_of_mem _ member, fails⟩

theorem FirstFails.split (first : FirstFails before (items ++ others) failure) :
    FirstFails before items failure ∨ ∃ last, FirstFails last others failure := by
  induction items generalizing before with
  | nil => exact .inr ⟨before, first⟩
  | cons item items ih =>
      cases first with
      | here fails => exact .inl (.here fails)
      | later fine others => exact (ih others).imp_left (.later fine)

/-- Of a tag and its expression only the expression can fail. -/
theorem FirstFails.of_tag (kind : tag.kind = .tag)
    (first : FirstFails before ((tag, number) :: items) failure) (few : items.length ≤ 1) :
    ∃ expression line, items = [(expression, line)] ∧ Fails (some tag) expression line failure := by
  cases first with
  | here fails =>
      have other := fails.kind
      rw [kind] at other
      exact other.elim nofun nofun
  | later fine others =>
      rcases items with _ | ⟨⟨expression, line⟩, items⟩
      · cases others
      · obtain rfl : items = [] := List.eq_nil_of_length_eq_zero (by simpa using few)
        cases others with
        | here fails => exact ⟨expression, line, rfl, fails⟩
        | later _ none => cases none

/-- The first failure in the lines of a body is in one of the lines. -/
theorem row_of_firstFails {text : List Char} {rows : List (List Char)} (lined : Lined text rows)
    (first : FirstFails before ((linesTokens number rows).map fun token => (token, token.line))
      failure) :
    ∃ above row below previous, Row text above row below ∧ FirstFails previous
      ((lineTokens (number + lineBreaks above) row).map fun token => (token, token.line))
      failure := by
  induction lined generalizing before number with
  | @last row noBreak =>
      rw [linesTokens, linesTokens, List.append_nil] at first
      exact ⟨[], row, [], before, ⟨by simp, noBreak, .inl rfl, .inl rfl⟩, first⟩
  | @cons row text rows noBreak others ih =>
      rw [linesTokens, List.map_append] at first
      rcases first.split with here | ⟨last, later⟩
      · exact ⟨[], row, '\n' :: text, before,
          ⟨by simp, noBreak, .inl rfl, .inr ⟨text, rfl⟩⟩, here⟩
      · obtain ⟨above, line, below, previous, inside, fails⟩ := ih later
        refine ⟨row ++ '\n' :: above, line, below, previous, inside.after row, ?_⟩
        have next : number + lineBreaks (row ++ '\n' :: above) = number + 1 + lineBreaks above := by
          have single : '\n' :: above = ['\n'] ++ above := rfl
          rw [Text.lineBreaks_append, LiquidBody.lineBreaks_of_noBreak noBreak, single,
            Text.lineBreaks_append]
          show number + (0 + (1 + lineBreaks above)) = _
          omega
        rwa [next]

/-- What fails in a line is its expression, which has a tag in the line. -/
theorem fails_of_row {row : List Char}
    (first : FirstFails before ((lineTokens number row).map fun token => (token, token.line))
      failure) :
    nameIn row ≠ [] ∧ Fails (some ⟨number, .tag, String.ofList (nameIn row)⟩)
      ⟨number, .expression, String.ofList (expressionIn row)⟩ number failure := by
  rw [LiquidBody.lineTokens_eq] at first
  split at first
  · cases first
  · next named =>
      refine ⟨by simpa using named, ?_⟩
      split at first
      · obtain ⟨expression, line, none, -⟩ := FirstFails.of_tag rfl first (by simp)
        cases none
      · obtain ⟨expression, line, one, fails⟩ := FirstFails.of_tag rfl first (by simp)
        cases one
        exact fails

end Fails

/-! ### Failures of a template -/

/-- The owner of the body of a token is the tag before it, unless the token is a statement. -/
def Belongs (owner : Option String) (before : Option Token) (token : Token) : Prop :=
  token.kind = .statement ∧ owner = none
    ∨ ∃ tag, before = some tag ∧ Owns tag token ∧ owner = some tag.value

section Located

variable {delimiters : Delimiters} {passages : List Passage} {source : List Char}

/-- What a form cannot read of a body stands in the source. -/
theorem located_of_form {form : Form} {text : String} {line : Nat} {tokens : List Token}
    {error : LexError} (run : form.grammar.tokenize text line = ⟨tokens, some error⟩)
    {owner : Option String} {before after : List Char}
    (body : BodyAt delimiters passages owner before text.toList)
    (stands : source = before ++ text.toList ++ after) (number : line = 1 + lineBreaks before) :
    ∃ front found back, FailureAt delimiters passages source
      ⟨error, text, some (contextOf owner)⟩ owner before front found back after := by
  obtain ⟨read, outcome, same, reading, -⟩ := Expression.reading_tokenize form text line
  rw [run] at same
  cases same
  obtain ⟨front, found, back, parts, nonempty, names, row, span⟩ := failed_of_reading reading rfl
  refine ⟨front, found, back, body, stands, rfl, parts, nonempty, span, names, ?_⟩
  rw [row, number, Text.lineBreaks_append, Nat.add_assoc]

/-- A failure in the body of a token stands in the source. The recursion is on the length of the
body, as in the lines of a `liquid` body the expressions are bodies in turn. -/
theorem located_of_fails {token : Token} {line : Nat} {previous : Option Token} {failure : Failure}
    (fails : Fails previous token line failure) {owner : Option String} {before after : List Char}
    (belongs : Belongs owner previous token)
    (body : BodyAt delimiters passages owner before token.value.toList)
    (stands : source = before ++ token.value.toList ++ after)
    (number : line = 1 + lineBreaks before) :
    ∃ owner before front found back after,
      FailureAt delimiters passages source failure owner before front found back after := by
  cases fails with
  | statement kind run =>
      obtain ⟨-, rfl⟩ | ⟨tag, -, owns, -⟩ := belongs
      · obtain ⟨front, found, back, located⟩ := located_of_form run body stands number
        exact ⟨none, before, front, found, back, after, located⟩
      · exact absurd kind owns.noStatement
  | expression owns ordinary run =>
      obtain ⟨kind, -⟩ | ⟨tag, same, -, rfl⟩ := belongs
      · exact absurd kind owns.noStatement
      · cases same
        obtain ⟨front, found, back, located⟩ := located_of_form run body stands number
        exact ⟨_, before, front, found, back, after, located⟩
  | lines owns liquid first =>
      obtain ⟨kind, -⟩ | ⟨tag, same, -, rfl⟩ := belongs
      · exact absurd kind owns.noStatement
      · cases same
        rw [liquid] at body
        obtain ⟨above, row, below, last, inside, fails⟩ :=
          row_of_firstFails (LiquidBody.lined_lines token.value.toList) first
        obtain ⟨named, fails⟩ := fails_of_row fails
        have shorter : (expressionIn row).length < token.value.length :=
          String.length_toList ▸ inside.length_expressionIn_lt named
        have place : source = before ++ above ++ (leadIn row ++ nameIn row ++ gapIn row)
            ++ (String.ofList (expressionIn row)).toList
            ++ ((LiquidBody.afterName row).rtakeWhile LiquidBody.isTrail ++ below ++ after) := by
          rw [stands, inside.expression_split, String.toList_ofList]
          simp
        have row_number : line + lineBreaks above
            = 1 + lineBreaks (before ++ above ++ (leadIn row ++ nameIn row ++ gapIn row)) := by
          obtain ⟨-, noFront⟩ := LiquidBody.lineBreaks_leadIn inside.noBreak
          rw [Text.lineBreaks_append, noFront, number, Text.lineBreaks_append]
          omega
        have inner := BodyAt.line body inside named
        rw [← String.toList_ofList (l := expressionIn row)] at inner
        exact located_of_fails fails (.inr ⟨_, rfl, ⟨rfl, rfl⟩, rfl⟩) inner place row_number
termination_by token.value.length

/-- The failure in one region. -/
theorem located_of_holds {read piece left : List Char} {region : Region} {tokens : List Token}
    {bodyLine : Nat} (holds : Holds delimiters read region piece tokens bodyLine)
    {earlier later : List Passage} (passed : read = covered earlier)
    (regions : passages = earlier ++ ⟨region, piece, tokens⟩ :: later)
    (split : source = read ++ (piece ++ left)) {before : Option Token} {failure : Failure}
    (first : FirstFails before (tokens.map (·, bodyLine)) failure) :
    ∃ owner before front found back after,
      FailureAt delimiters passages source failure owner before front found back after := by
  subst passed
  cases holds with
  | plain noBody literals =>
      obtain ⟨item, member, previous, fails⟩ := first.exists_mem
      obtain ⟨token, inside, rfl⟩ := List.mem_map.1 member
      have kind := fails.kind
      rw [literals token inside] at kind
      exact kind.elim nofun nofun
  | @statement lead body trail leads trails =>
      obtain ⟨item, member, previous, fails⟩ := first.exists_mem
      obtain ⟨token, inside, rfl⟩ := List.mem_map.1 member
      obtain rfl := List.mem_singleton.1 inside
      have body_at := BodyAt.statement leads trails regions
      rw [← String.toList_ofList (l := body)] at body_at
      have stands : source = covered earlier ++ delimiters.statementStart.toList ++ lead
          ++ (String.ofList body).toList
          ++ (trail ++ delimiters.statementEnd.toList ++ left) := by
        rw [split, String.toList_ofList]
        simp
      exact located_of_fails fails (.inl ⟨rfl, rfl⟩) body_at stands rfl
  | @tag lead name gap body trail leads word blank trails =>
      unfold Template.tokenUnlessEmpty at first regions
      by_cases empty : body.isEmpty = true
      · rw [if_pos empty] at first
        obtain ⟨expression, line, none, -⟩ := FirstFails.of_tag rfl first (by simp)
        cases none
      · rw [if_neg empty] at first regions
        obtain ⟨expression, line, one, fails⟩ := FirstFails.of_tag rfl first (by simp)
        cases one
        have body_at := BodyAt.tag leads word blank trails regions
        rw [← String.toList_ofList (l := body)] at body_at
        have stands : source = covered earlier ++ delimiters.tagStart.toList
            ++ (lead ++ name ++ gap) ++ (String.ofList body).toList
            ++ (trail ++ delimiters.tagEnd.toList ++ left) := by
          rw [split, String.toList_ofList]
          simp
        exact located_of_fails fails (.inr ⟨_, rfl, ⟨rfl, rfl⟩, rfl⟩) body_at stands rfl

/-- The first failure in the regions of a template. -/
theorem located_of_course {read text : List Char} {visits : List Visit}
    (course : Course delimiters read text visits) {earlier : List Passage}
    (passed : read = covered earlier) (regions : passages = earlier ++ visits.map Visit.passage)
    (split : source = read ++ text) {before : Option Token} {failure : Failure}
    (first : FirstFails before (Template.Stream.logOf visits) failure) :
    ∃ owner before front found back after,
      FailureAt delimiters passages source failure owner before front found back after := by
  induction course generalizing earlier before with
  | ended => cases first
  | @region read left visit visits holds later ih =>
      rw [Template.Stream.logOf, List.flatMap_cons] at first
      rw [List.map_cons] at regions
      rcases first.split with here | ⟨last, others⟩
      · exact located_of_holds holds passed regions split here
      · have past : read ++ visit.piece = covered (earlier ++ [visit.passage]) := by
          rw [passed]
          simp [covered, Visit.passage]
        exact ih past (by simp [regions]) (by rw [split, List.append_assoc]) others

end Located

/-- The regions of a template follow one another in its source. -/
theorem covered_of_course {delimiters : Delimiters} {read text : List Char} {visits : List Visit}
    (course : Course delimiters read text visits) :
    ∃ left, text = covered (visits.map Visit.passage) ++ left := by
  induction course with
  | @ended read text => exact ⟨text, rfl⟩
  | @region read left visit visits holds later ih =>
      obtain ⟨rest, split⟩ := ih
      refine ⟨rest, ?_⟩
      rw [split]
      simp [covered, Visit.passage]

/-- Every token of an expansion stands in the source, and so does every failure in a body. Here the
regions are those of the template without expansion, which cover the source up to `left`. -/
theorem expanded_stands_in_source {request : CommandLine.Request} (plain : request.mode = none)
    (valid : request.delimiters.validate = .ok ()) (source : String) :
    ∃ regions left, RegionTable.compile request.delimiters = .ok regions
      ∧ source.toList = covered (regions.passages source) ++ left
      ∧ (∀ trees, { request with expand := true }.trees source = .ok trees →
          Rooted request.delimiters source.toList [] (regions.passages source) trees)
      ∧ ∀ failure, { request with expand := true }.trees source = .error (.lex failure) →
          failure.context ≠ none →
          ∃ owner before front found back after,
            FailureAt request.delimiters (regions.passages source) source.toList failure owner
              before front found back after := by
  have ready := Template.Stream.ready_start valid source
  obtain ⟨visits, error, visited⟩ := Template.Stream.exists_visits ready
  have course := Template.Stream.course_of_visits visited ready
  have owned := owned_logOf visited ready
  have passages : (regionTable request.delimiters).passages source = visits.map Visit.passage :=
    Template.Stream.passages_of_visits visited ready String.length_toList.le
  obtain ⟨left, split⟩ := covered_of_course course
  rw [← passages] at split
  refine ⟨regionTable request.delimiters, left, compile_eq_ok valid, split,
    fun trees grows => ?_, fun failure fails context => ?_⟩
  · obtain ⟨-, grown⟩ := (expanded_eq_ok_iff plain valid visited owned trees).1 grows
    rw [passages]
    exact rooted_of_course valid course rfl grown
  · obtain ⟨_, ⟨⟩, first | ⟨-, last, -, rfl⟩⟩ :=
      (expanded_eq_error_iff plain valid visited owned _).1 fails
    · have regions : (regionTable request.delimiters).passages source
          = [] ++ visits.map Visit.passage := passages
      exact located_of_course course rfl regions rfl first
    · exact absurd rfl context

/-- Bodies on several lines, one of them in a `liquid` body in another one. -/
def nestedBodies : String :=
  "é\n\x7b%- liquid\n if b\n liquid liquid echo 'x'\n-%\x7d\n\x7b\x7b 'p\nq' | r \x7d\x7d"

/-- An expansion of these bodies, and a failure in a line of a body. -/
theorem nestedBodies_stand_in_source :
    CommandLine.Request.mode { } = none ∧ (CommandLine.Request.delimiters { }).validate = .ok ()
      ∧ ∃ regions, RegionTable.compile (CommandLine.Request.delimiters { }) = .ok regions
        ∧ (∃ trees, CommandLine.Request.trees { expand := true } nestedBodies = .ok trees
          ∧ Rooted (CommandLine.Request.delimiters { }) nestedBodies.toList []
              (regions.passages nestedBodies) trees)
        ∧ CommandLine.Request.trees { expand := true } failingLine = .error (.lex lineFailure)
        ∧ ∃ owner before front found back after,
          FailureAt (CommandLine.Request.delimiters { }) (regions.passages failingLine)
            failingLine.toList lineFailure owner before front found back after := by
  have valid : (CommandLine.Request.delimiters { }).validate = .ok () := by decide
  have fine : (CommandLine.Request.trees { expand := true } nestedBodies).isOk = true := by
    decide +kernel
  obtain ⟨regions, left, made, -, placed, -⟩ := expanded_stands_in_source rfl valid nestedBodies
  obtain ⟨_, _, again, -, -, located⟩ := expanded_stands_in_source rfl valid failingLine
  cases made.symm.trans again
  refine ⟨rfl, valid, regions, made, ?_, expanded_failingLine,
    located lineFailure expanded_failingLine nofun⟩
  cases outcome : CommandLine.Request.trees { expand := true } nestedBodies with
  | error refusal =>
      rw [outcome] at fine
      cases fine
  | ok trees => exact ⟨trees, rfl, placed trees outcome⟩

end LiquidTokens.Expansion
