import LiquidTokens.Proofs.Expression.Calls

/-!
Keywords only relabel.

The keywords of a grammar have no say in what its rules match. They are looked up when a rule for
identifiers has matched, with the whole text of the match, and all that they decide is the kind of
the token (`relabel`). So a stream and the stream of the same rules with other keywords go in lock
step: they pass over the same text, stop at the same matches and stand at the same places on the
same lines (`Stands.relabels`).

Main statement: `keywords_relabel`.
-/

namespace LiquidTokens.Expression

open RuleTable (Hit)

/-! ### Keywords of a grammar -/

/-- The keywords among some kinds. -/
def keywordsOf (kinds : List Kind) : List Keyword :=
  kinds.filterMap fun
    | .keyword word => some word
    | _ => none

theorem mem_keywordsOf {kinds : List Kind} {word : Keyword} :
    word ∈ keywordsOf kinds ↔ .keyword word ∈ kinds := by
  rw [keywordsOf, List.mem_filterMap]
  constructor
  · rintro ⟨kind, member, same⟩
    split at same <;> cases same
    exact member
  · exact fun member => ⟨_, member, rfl⟩

theorem Grammar.compile_eq_ok_iff {name : String} {rules : List (Rule × String)}
    {kinds : List Kind} {grammar : Grammar} : Grammar.compile name rules kinds = .ok grammar
      ↔ ∃ table, RuleTable.compile Rule.label rules = .ok table
        ∧ grammar = ⟨name, table, keywordsOf kinds⟩ := by
  rw [Grammar.compile]
  cases RuleTable.compile Rule.label rules with
  | error error => exact ⟨nofun, nofun⟩
  | ok table =>
      constructor
      · rintro ⟨⟩
        exact ⟨table, rfl, rfl⟩
      · rintro ⟨_, ⟨⟩, rfl⟩
        rfl

/-- The grammar with other keywords. -/
def Grammar.withKeywords (grammar : Grammar) (words : List Keyword) : Grammar :=
  { grammar with keywords := words }

/-- The kind of an identifier with the given text, among some keywords. -/
def kindAmong (words : List Keyword) (text : String) : Kind :=
  ((words.find? (·.spelling == text)).map .keyword).getD .identifier

section KindAmong

variable {words others : List Keyword} {word : Keyword} {text : String}

theorem kindAmong_of_spelling (listed : word ∈ words) :
    kindAmong words word.spelling = .keyword word := by
  cases found : words.find? (·.spelling == word.spelling) with
  | none => simpa using List.find?_eq_none.1 found word listed
  | some other =>
      have same : other.spelling = word.spelling := by simpa using List.find?_some found
      obtain rfl := Keyword.spelling_injective same
      simp [kindAmong, found]

theorem kindAmong_of_other (other : ∀ word ∈ words, word.spelling ≠ text) :
    kindAmong words text = .identifier := by
  have nothing : words.find? (·.spelling == text) = none := by
    simpa [List.find?_eq_none] using other
  simp [kindAmong, nothing]

/-- Only which keywords there are matters, not how often or in which order they are listed. -/
theorem kindAmong_congr (same : ∀ word, word ∈ words ↔ word ∈ others) (text : String) :
    kindAmong words text = kindAmong others text := by
  by_cases spelled : ∃ word ∈ words, word.spelling = text
  · obtain ⟨word, listed, rfl⟩ := spelled
    rw [kindAmong_of_spelling listed, kindAmong_of_spelling ((same word).1 listed)]
  · rw [kindAmong_of_other fun word listed spells => spelled ⟨word, listed, spells⟩,
      kindAmong_of_other fun word listed spells => spelled ⟨word, (same word).2 listed, spells⟩]

end KindAmong

/-! ### Tokens among other keywords -/

/-- The token that a grammar with the given keywords makes of a hit, told by the one that a grammar
with the same rules makes of it. -/
def relabel (words : List Keyword) (hit : Hit Rule) (token : Token) : Token :=
  if hit.rule = .token .identifier then { token with kind := kindAmong words token.value }
  else token

/-- The hit is an identifier whose whole text spells a keyword that is one of the kinds. -/
structure SpellsKeyword (kinds : List Kind) (hit : Hit Rule) (word : Keyword) : Prop where
  identifier : hit.rule = .token .identifier
  listed : .keyword word ∈ kinds
  spelled : String.ofList hit.whole.text = word.spelling

/-- A match yields the same with other keywords, but for the kind of an identifier. -/
theorem yield?_withKeywords (words : List Keyword) (hit : Hit Rule) (grammar : Grammar)
    (line : Nat) :
    (grammar.withKeywords words).yield? hit line
      = (grammar.yield? hit line).map (Except.map (relabel words hit)) := by
  obtain ⟨rule, whole, named⟩ := hit
  cases rule with
  | token kind => cases kind <;> rfl
  | operator =>
      simp only [Grammar.yield?]
      cases Kind.ofOperator? (String.ofList whole.text) <;> rfl
  | quotedSubscript | openFloat | newline | skip | illegal => rfl

section Relabel

variable {words : List Keyword} {kinds : List Kind} {hit : Hit Rule} {token : Token}
  {word : Keyword}

@[simp] theorem relabel_line : (relabel words hit token).line = token.line := by
  unfold relabel
  split <;> rfl

@[simp] theorem relabel_value : (relabel words hit token).value = token.value := by
  unfold relabel
  split <;> rfl

/-- The text of an identifier is the whole match. -/
theorem value_of_identifier {grammar : Grammar} {line : Nat}
    (yields : grammar.yield? hit line = some (.ok token))
    (identifier : hit.rule = .token .identifier) :
    token.value = String.ofList hit.whole.text := by
  simp only [Grammar.yield?, identifier] at yields
  cases yields
  rfl

theorem relabel_kind_of_spells (spells : SpellsKeyword kinds hit word)
    (whole : token.value = String.ofList hit.whole.text) :
    (relabel (keywordsOf kinds) hit token).kind = .keyword word := by
  rw [relabel, if_pos spells.identifier, whole, spells.spelled]
  exact kindAmong_of_spelling (mem_keywordsOf.2 spells.listed)

theorem relabel_kind_of_identifier (identifier : hit.rule = .token .identifier) :
    (relabel [] hit token).kind = .identifier := by
  rw [relabel, if_pos identifier]
  rfl

/-- With and without keywords the kind is another exactly if the match spells one. -/
theorem relabel_kind_ne_iff
    (whole : hit.rule = .token .identifier → token.value = String.ofList hit.whole.text) :
    (relabel (keywordsOf kinds) hit token).kind ≠ (relabel [] hit token).kind
      ↔ ∃ word, SpellsKeyword kinds hit word := by
  constructor
  · intro different
    by_cases identifier : hit.rule = .token .identifier
    · rw [relabel_kind_of_identifier identifier, relabel, if_pos identifier] at different
      by_contra unspelled
      refine different (kindAmong_of_other fun word listed spelling => unspelled ⟨word, ?_⟩)
      exact ⟨identifier, mem_keywordsOf.1 listed, by rw [← whole identifier, spelling]⟩
    · simp [relabel, identifier] at different
  · rintro ⟨word, spells⟩
    rw [relabel_kind_of_spells spells (whole spells.identifier),
      relabel_kind_of_identifier spells.identifier]
    exact nofun

end Relabel

/-! ### Streams in lock step -/

/-- The step with its token and its stream changed. -/
def Step.map (change : Token → Token) (move : Stream → Stream) : Step → Step
  | yield item after => yield (item.map change) (move after)
  | pass after => pass (move after)
  | stop after => stop (move after)

namespace Stream

/-- The stream with other keywords. -/
def withKeywords (stream : Stream) (words : List Keyword) : Stream :=
  { stream with grammar := stream.grammar.withKeywords words }

variable {grammar : Grammar} {source : String} {first : Nat} {stream last after : Stream}
  {read rest : List Char} {item : Option (Except LexError Token)} {hit : Hit Rule} {token : Token}

theorem Stands.withKeywords (here : Stands grammar source first stream read rest)
    (words : List Keyword) :
    Stands (grammar.withKeywords words) source first (stream.withKeywords words) read rest :=
  ⟨here.split, congrArg (·.withKeywords words) here.grammar, here.source, here.offset, here.line⟩

/-- The stream stands at a match that makes a token. -/
structure MakesHere (stream : Stream) (hit : Hit Rule) (token : Token) : Prop where
  found : stream.grammar.table.hitAt? stream.source.toList stream.offset = some hit
  yields : stream.grammar.yield? hit stream.line = some (.ok token)

theorem MakesHere.withKeywords (made : stream.MakesHere hit token) (words : List Keyword) :
    (stream.withKeywords words).MakesHere hit (relabel words hit token) := by
  refine ⟨made.found, (yield?_withKeywords words hit stream.grammar stream.line).trans ?_⟩
  rw [made.yields]
  rfl

theorem step_withKeywords_of_hit
    (found : stream.grammar.table.hitAt? stream.source.toList stream.offset = some hit)
    (words : List Keyword) :
    (stream.withKeywords words).step
      = stream.step.map (relabel words hit) (·.withKeywords words) := by
  have again : (stream.withKeywords words).grammar.table.hitAt?
      (stream.withKeywords words).source.toList (stream.withKeywords words).offset
        = some hit := found
  have yields : (stream.withKeywords words).grammar.yield? hit (stream.withKeywords words).line
      = (stream.grammar.yield? hit stream.line).map (Except.map (relabel words hit)) :=
    yield?_withKeywords words hit stream.grammar stream.line
  simp only [step, found, again, yields]
  rcases stream.grammar.yield? hit stream.line with _ | error | token <;> rfl

/-- Where no rule matches, there is no token that keywords could decide about. -/
theorem step_withKeywords_of_none
    (found : stream.grammar.table.hitAt? stream.source.toList stream.offset = none)
    (words : List Keyword) (change : Token → Token) :
    (stream.withKeywords words).step = stream.step.map change (·.withKeywords words) := by
  have again : (stream.withKeywords words).grammar.table.hitAt?
      (stream.withKeywords words).source.toList (stream.withKeywords words).offset
        = none := found
  have same : (stream.withKeywords words).rest = stream.rest := rfl
  simp only [step, found, again, stepUnmatched, same]
  cases stream.rest <;> rfl

/-- A step that yields a token stands at the match of which it makes the token. -/
theorem exists_makesHere (yields : stream.step = .yield (.ok token) after) :
    ∃ hit, stream.MakesHere hit token := by
  unfold step at yields
  cases found : stream.grammar.table.hitAt? stream.source.toList stream.offset with
  | none =>
      simp only [found, stepUnmatched] at yields
      split at yields <;> cases yields
  | some hit =>
      simp only [found] at yields
      split at yields
      · cases yields
      · next made =>
          cases yields
          exact ⟨hit, found, made⟩
      · cases yields

theorem exists_step_withKeywords (stream : Stream) (words : List Keyword) :
    ∃ change, (stream.withKeywords words).step
      = stream.step.map change (·.withKeywords words) := by
  cases found : stream.grammar.table.hitAt? stream.source.toList stream.offset with
  | none => exact ⟨id, step_withKeywords_of_none found words id⟩
  | some hit => exact ⟨relabel words hit, step_withKeywords_of_hit found words⟩

theorem Passes.withKeywords (passes : Passes stream last) (words : List Keyword) :
    Passes (stream.withKeywords words) (last.withKeywords words) := by
  induction passes with
  | refl => exact .refl _
  | step passed later ih =>
      obtain ⟨change, same⟩ := exists_step_withKeywords _ words
      exact .step (by rw [same, passed]; rfl) ih

/-- The next match that yields anything makes the token. -/
def Makes (stream : Stream) (hit : Hit Rule) (token : Token) : Prop :=
  ∃ last, Passes stream last ∧ last.MakesHere hit token

theorem Makes.withKeywords (made : stream.Makes hit token) (words : List Keyword) :
    (stream.withKeywords words).Makes hit (relabel words hit token) := by
  obtain ⟨last, passes, here⟩ := made
  exact ⟨last.withKeywords words, passes.withKeywords words, here.withKeywords words⟩

/-- What a stream gives, and what it gives with other keywords: a token, of which they decide the
kind, or something on which they have no influence. -/
inductive Relabels (stream : Stream) : Option (Except LexError Token) →
    (List Keyword → Option (Except LexError Token)) → Prop where
  | token {hit : Hit Rule} {token : Token} (made : stream.Makes hit token) :
      Relabels stream (some (.ok token)) fun words => some (.ok (relabel words hit token))
  | error (error : LexError) :
      Relabels stream (some (.error error)) fun _ => some (.error error)
  | ended : Relabels stream none fun _ => none

/-- The step that answers a call does so with other keywords too, and leads to the same place. -/
theorem Passes.relabels (passes : Passes stream last)
    (answers : last.step.answer? = some (item, after)) :
    ∃ items, stream.Relabels item items ∧ ∀ words,
      (last.withKeywords words).step.answer? = some (items words, after.withKeywords words) := by
  have again (words : List Keyword) := exists_step_withKeywords last words
  cases taken : last.step with
  | pass middle =>
      rw [taken] at answers
      cases answers
  | stop reached =>
      rw [taken] at answers again
      cases answers
      refine ⟨_, .ended, fun words => ?_⟩
      obtain ⟨change, same⟩ := again words
      rw [same]
      rfl
  | yield given reached =>
      rw [taken] at answers again
      cases answers
      cases given with
      | error error =>
          refine ⟨_, .error error, fun words => ?_⟩
          obtain ⟨change, same⟩ := again words
          rw [same]
          rfl
      | ok token =>
          obtain ⟨hit, here⟩ := exists_makesHere taken
          refine ⟨_, .token ⟨last, passes, here⟩, fun words => ?_⟩
          rw [step_withKeywords_of_hit here.found, taken]
          rfl

/-- A call finds the same whatever the keywords are, and leads to the same place. -/
theorem Stands.relabels (here : Stands grammar source first stream read rest) :
    ∃ items, stream.Relabels stream.next.1 items ∧ ∀ words,
      (stream.withKeywords words).next = (items words, stream.next.2.withKeywords words) := by
  have call := here.call
  generalize stream.next = answer at call
  obtain ⟨item, after⟩ := answer
  cases call with
  | finished ended => exact ⟨_, .ended, fun words => next_of_finished ended⟩
  | steps running passes answers =>
      obtain ⟨items, relabels, again⟩ := passes.relabels answers
      refine ⟨items, relabels, fun words => ?_⟩
      exact (here.withKeywords words).call_iff.1
        (.steps running (passes.withKeywords words) (again words))

theorem Stands.asked_withKeywords (here : Stands grammar source first stream read rest)
    (words : List Keyword) (count : Nat) :
    (stream.withKeywords words).asked count = (stream.asked count).withKeywords words := by
  induction count generalizing stream read rest with
  | zero => rfl
  | succ count ih =>
      obtain ⟨items, -, same⟩ := here.relabels
      obtain ⟨-, passed, piece, left, -, -, -, -, there⟩ := (here.answered here.call).found
      rw [asked, same, asked]
      exact ih there

/-! ### Grammars with and without keywords -/

/-- What a stream gives and what the stream without keywords gives: tokens of the same match that
differ in their kind exactly if the match spells a keyword, or the same error, or both nothing. -/
inductive Alike (kinds : List Kind) (stream bare : Stream) :
    Option (Except LexError Token) → Option (Except LexError Token) → Prop where
  | token {hit : Hit Rule} {token plain : Token} (made : stream.Makes hit token)
      (alone : bare.Makes hit plain) (line : token.line = plain.line)
      (value : token.value = plain.value)
      (differs : token.kind ≠ plain.kind ↔ ∃ word, SpellsKeyword kinds hit word)
      (keyword : ∀ word, SpellsKeyword kinds hit word → token.kind = .keyword word) :
      Alike kinds stream bare (some (.ok token)) (some (.ok plain))
  | error (error : LexError) :
      Alike kinds stream bare (some (.error error)) (some (.error error))
  | ended : Alike kinds stream bare none none

theorem Relabels.alike {items : List Keyword → Option (Except LexError Token)}
    (relabels : stream.Relabels item items) (kinds : List Kind) :
    Alike kinds (stream.withKeywords (keywordsOf kinds)) (stream.withKeywords [])
      (items (keywordsOf kinds)) (items []) := by
  cases relabels with
  | error error => exact .error error
  | ended => exact .ended
  | @token hit token made =>
      have whole (identifier : hit.rule = .token .identifier) :
          token.value = String.ofList hit.whole.text := by
        obtain ⟨last, -, here⟩ := made
        exact value_of_identifier here.yields identifier
      exact .token (made.withKeywords _) (made.withKeywords []) (by simp) (by simp)
        (relabel_kind_ne_iff whole)
        fun word spells => relabel_kind_of_spells spells (whole spells.identifier)

theorem Relabels.congr {items : List Keyword → Option (Except LexError Token)}
    (relabels : stream.Relabels item items) {words others : List Keyword}
    (same : ∀ word, word ∈ words ↔ word ∈ others) : items words = items others := by
  cases relabels with
  | token made => simp only [relabel, kindAmong_congr same]
  | error error => rfl
  | ended => rfl

end Stream

/-- The keywords of a grammar decide about the kinds of its identifiers and about nothing else.
Asked for a token as often as the stream of the same rules without keywords, a stream stands at the
same place on the same line and gives the same, but for the kind of a token; and the kinds differ
exactly at the matches of rules for identifiers whose whole text spells a keyword of the grammar,
which is then the kind. Kinds that are no keywords have no effect, nor has it any how often or in
which order keywords are listed. -/
theorem keywords_relabel {name : String} {rules : List (Rule × String)} {kinds : List Kind}
    {grammar : Grammar} (made : Grammar.compile name rules kinds = .ok grammar) (source : String)
    (first : Nat) :
    ∃ plain, Grammar.compile name rules [] = .ok plain
      ∧ (∀ count,
        let stream := (Stream.start grammar source first).asked count
        let bare := (Stream.start plain source first).asked count
        stream.line = bare.line ∧ stream.offset = bare.offset ∧ stream.finished = bare.finished
          ∧ Stream.Alike kinds stream bare stream.next.1 bare.next.1)
      ∧ ∀ others : List Kind, (∀ word, .keyword word ∈ others ↔ .keyword word ∈ kinds) →
        ∃ same, Grammar.compile name rules others = .ok same ∧ ∀ count,
          ((Stream.start same source first).asked count).next.1
            = ((Stream.start grammar source first).asked count).next.1 := by
  obtain ⟨table, compiled, rfl⟩ := Grammar.compile_eq_ok_iff.1 made
  have accepted (others : List Kind) : Grammar.compile name rules others
      = .ok ⟨name, table, keywordsOf others⟩ :=
    Grammar.compile_eq_ok_iff.2 ⟨table, compiled, rfl⟩
  -- Every other stream is the one without keywords with some keywords added, at any moment.
  have stays (words : List Keyword) (count : Nat) :
      (Stream.start ⟨name, table, words⟩ source first).asked count
        = ((Stream.start ⟨name, table, []⟩ source first).asked count).withKeywords words :=
    (Stream.stands_start ⟨name, table, []⟩ source first).asked_withKeywords words count
  refine ⟨⟨name, table, []⟩, accepted [], fun count => ?_, fun others listed =>
    ⟨_, accepted others, fun count => ?_⟩⟩
  all_goals
    obtain ⟨read, rest, here⟩ := Stream.exists_stands ⟨name, table, []⟩ source first count
    obtain ⟨items, relabels, same⟩ := here.relabels
  · intro stream bare
    have moved : stream = bare.withKeywords (keywordsOf kinds) := stays (keywordsOf kinds) count
    have still : bare = bare.withKeywords [] := stays [] count
    have alone : bare.next.1 = items [] := by
      rw [still, same]
    have alike := relabels.alike kinds
    rw [← still, ← alone] at alike
    rw [moved, same]
    exact ⟨rfl, rfl, rfl, alike⟩
  · rw [stays (keywordsOf others), stays (keywordsOf kinds), same, same]
    exact relabels.congr fun word => by rw [mem_keywordsOf, mem_keywordsOf, listed]

/-- Of two words only the one that is a keyword from end to end turns into one, and in quotes and
brackets it stays an identifier. -/
theorem keywords_relabel_whole_word :
    let rules := [(Rule.token .identifier, "[a-z]+"),
      (.quotedSubscript, "\\[\"(?P<identdq>[^\"]*)\"]"), (.skip, " ")]
    let kinds := [Kind.keyword .inside, .dot, .keyword .inside]
    ∃ grammar plain, Grammar.compile "words" rules kinds = .ok grammar
      ∧ Grammar.compile "words" rules [] = .ok plain
      ∧ (grammar.tokenize "in inn [\"in\"]" 1).tokens
        = [⟨1, .keyword .inside, "in"⟩, ⟨1, .identifier, "inn"⟩, ⟨1, .identifier, "in"⟩]
      ∧ ∀ count,
        let stream := (Stream.start grammar "in inn [\"in\"]" 1).asked count
        let bare := (Stream.start plain "in inn [\"in\"]" 1).asked count
        stream.line = bare.line ∧ Stream.Alike kinds stream bare stream.next.1 bare.next.1 := by
  intro rules kinds
  have run : (Grammar.compile "words" rules kinds).toOption.map
      (fun grammar => (grammar.tokenize "in inn [\"in\"]" 1).tokens)
        = some [⟨1, .keyword .inside, "in"⟩, ⟨1, .identifier, "inn"⟩, ⟨1, .identifier, "in"⟩] := by
    decide +kernel
  obtain ⟨grammar, made⟩ : ∃ grammar, Grammar.compile "words" rules kinds = .ok grammar :=
    ⟨_, rfl⟩
  obtain ⟨plain, accepted, alike, -⟩ := keywords_relabel made "in inn [\"in\"]" 1
  rw [made] at run
  refine ⟨grammar, plain, made, accepted, Option.some.inj run, fun count => ?_⟩
  exact ⟨(alike count).1, (alike count).2.2.2⟩

end LiquidTokens.Expression
