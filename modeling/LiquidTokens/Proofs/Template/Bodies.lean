import LiquidTokens.Proofs.Template.TrimMarkers
import Mathlib.Data.List.DropRight

/-!
Where the bodies of a template stand.

A statement or a tag is made of its delimiters, of trim markers and blanks inside them, of the name
of a tag, and of a body. The token of the body is spelled as the body, and the line that a stream
remembers with it is the line on which the body begins, in whatever lines the delimiter and the
tag began (`Holds`). The regions that a stream visits follow one another in the source (`Course`).

Main statement: `course_of_visits`.
-/

namespace LiquidTokens.Template

open Text (isBlank isWord lineBreaks trimStart trimEnd)

/-! ### Parts of a region -/

/-- What may stand between an opening delimiter and what it holds: a trim marker and blanks. -/
def Leads (lead : List Char) : Prop :=
  ∃ mark gap, lead = mark ++ gap ∧ (mark = [] ∨ mark = ['-']) ∧ ∀ c ∈ gap, isBlank c = true

/-- What may stand before a closing delimiter: blanks and a trim marker. -/
def Trails (trail : List Char) : Prop :=
  ∃ gap mark, trail = gap ++ mark ∧ (mark = [] ∨ mark = ['-']) ∧ ∀ c ∈ gap, isBlank c = true

/-- What a region of a kind is made of, which tokens it gives and on which line its body begins,
when `read` comes before it in the source. -/
inductive Holds (delimiters : Delimiters) (read : List Char) :
    Region → (piece : List Char) → List Token → (bodyLine : Nat) → Prop where
  | plain {region : Region} {piece : List Char} {tokens : List Token} {bodyLine : Nat}
      (noBody : region = .raw ∨ region = .literal)
      (literals : ∀ token ∈ tokens, token.kind = .literal) :
      Holds delimiters read region piece tokens bodyLine
  | statement {lead body trail : List Char} (leads : Leads lead) (trails : Trails trail) :
      Holds delimiters read .statement
        (delimiters.statementStart.toList ++ lead ++ body ++ trail
          ++ delimiters.statementEnd.toList)
        [⟨1 + lineBreaks read, .statement, String.ofList body⟩]
        (1 + lineBreaks (read ++ delimiters.statementStart.toList ++ lead))
  | tag {lead name gap body trail : List Char} (leads : Leads lead)
      (word : ∀ c ∈ name, isWord c = true) (blank : ∀ c ∈ gap, isBlank c = true)
      (trails : Trails trail) :
      Holds delimiters read .tag
        (delimiters.tagStart.toList ++ (lead ++ name ++ gap) ++ body ++ trail
          ++ delimiters.tagEnd.toList)
        (⟨1 + lineBreaks read, .tag, String.ofList name⟩
          :: tokenUnlessEmpty (1 + lineBreaks read) .expression body)
        (1 + lineBreaks (read ++ delimiters.tagStart.toList ++ (lead ++ name ++ gap)))

/-- Regions that follow one another in the text that comes after `read`. -/
inductive Course (delimiters : Delimiters) : (read text : List Char) → List Visit → Prop where
  | ended {read text : List Char} : Course delimiters read text []
  | region {read left : List Char} {visit : Visit} {visits : List Visit}
      (holds : Holds delimiters read visit.region visit.piece visit.tokens visit.bodyLine)
      (later : Course delimiters (read ++ visit.piece) left visits) :
      Course delimiters read (visit.piece ++ left) (visit :: visits)

/-! ### Trimmed texts -/

theorem head?_trimStart (text : List Char) : ∀ c ∈ (trimStart text).head?, isBlank c = false :=
  Text.trimStart_eq_self_iff.1 (List.dropWhile_idempotent isBlank text)

theorem getLast?_trimEnd (text : List Char) : ∀ c ∈ (trimEnd text).getLast?, isBlank c = false := by
  rw [trimEnd, List.getLast?_reverse]
  exact head?_trimStart text.reverse

/-- Trimmed plain text is a part of the plain text. -/
theorem trimmed_isInfix (atStart atEnd : Bool) (literal : List Char) :
    trimmed atStart atEnd literal <:+: literal := by
  have starts (text : List Char) : trimStart text <:+: text :=
    (List.dropWhile_suffix isBlank).isInfix
  have ends (text : List Char) : trimEnd text <:+: text :=
    (List.rdropWhile_prefix isBlank text).isInfix
  rw [trimmed]
  cases atStart <;> cases atEnd
  · exact List.infix_refl literal
  · exact ends literal
  · exact starts literal
  · exact (ends _).trans (starts literal)

/-! ### Parts of an inside -/

theorem exists_leads (inner : List Char) : ∃ lead, Leads lead ∧ inner = lead ++ content inner := by
  obtain ⟨mark, hyphen, whole⟩ :
      ∃ mark, (mark = [] ∨ mark = ['-']) ∧ inner = mark ++ unhyphened inner := by
    unfold unhyphened
    split
    · exact ⟨['-'], .inr rfl, rfl⟩
    · exact ⟨[], .inl rfl, rfl⟩
  refine ⟨mark ++ (unhyphened inner).takeWhile isBlank,
    ⟨mark, _, rfl, hyphen, fun c => List.mem_takeWhile_imp⟩, ?_⟩
  rw [content, trimStart, List.append_assoc, List.takeWhile_append_dropWhile]
  exact whole

theorem exists_trails (tail : List Char) : ∃ trail, Trails trail ∧ tail = bodyOf tail ++ trail := by
  obtain ⟨mark, hyphen, whole⟩ :
      ∃ mark, (mark = [] ∨ mark = ['-']) ∧ tail = unmarked tail ++ mark := by
    unfold unmarked
    split
    · next marked =>
        refine ⟨['-'], .inr rfl, ?_⟩
        rw [endsMarked, beq_iff_eq] at marked
        exact (List.dropLast_append_getLast? '-' marked).symm
    · exact ⟨[], .inl rfl, (List.append_nil tail).symm⟩
  refine ⟨(unmarked tail).rtakeWhile isBlank ++ mark,
    ⟨_, mark, rfl, hyphen, fun c => List.mem_rtakeWhile_imp⟩, ?_⟩
  have body : bodyOf tail = (unmarked tail).rdropWhile isBlank := rfl
  rw [body, ← List.append_assoc, List.rdropWhile_append_rtakeWhile]
  exact whole

theorem exists_gap (inner : List Char) :
    ∃ gap, (∀ c ∈ gap, isBlank c = true)
      ∧ content inner = nameOf inner ++ gap ++ remainder inner := by
  refine ⟨((content inner).dropWhile isWord).takeWhile isBlank, fun c => List.mem_takeWhile_imp, ?_⟩
  rw [nameOf, remainder, trimStart, List.append_assoc, List.takeWhile_append_dropWhile,
    List.takeWhile_append_dropWhile]

/-- A statement taken apart; the body begins where no blank is left. -/
theorem exists_statementParts (start inner stop : List Char) :
    ∃ lead trail, Leads lead ∧ Trails trail ∧ inner = lead ++ content inner
      ∧ (∀ c ∈ (bodyOf (content inner) ++ trail).head?, isBlank c = false)
      ∧ start ++ inner ++ stop = start ++ lead ++ bodyOf (content inner) ++ trail ++ stop := by
  obtain ⟨lead, leads, begins⟩ := exists_leads inner
  obtain ⟨trail, trails, ends⟩ := exists_trails (content inner)
  refine ⟨lead, trail, leads, trails, begins, ?_, ?_⟩
  · rw [← ends]
    exact head?_trimStart _
  · conv_lhs => rw [begins, ends]
    simp

/-- A tag taken apart; what follows its name begins where no blank is left. -/
theorem exists_tagParts (start inner stop : List Char) :
    ∃ lead gap trail, Leads lead ∧ (∀ c ∈ gap, isBlank c = true) ∧ Trails trail
      ∧ inner = (lead ++ nameOf inner ++ gap) ++ remainder inner
      ∧ (∀ c ∈ (bodyOf (remainder inner) ++ trail).head?, isBlank c = false)
      ∧ start ++ inner ++ stop
        = start ++ (lead ++ nameOf inner ++ gap) ++ bodyOf (remainder inner) ++ trail ++ stop := by
  obtain ⟨lead, leads, begins⟩ := exists_leads inner
  obtain ⟨gap, blank, named⟩ := exists_gap inner
  obtain ⟨trail, trails, ends⟩ := exists_trails (remainder inner)
  have split : inner = (lead ++ nameOf inner ++ gap) ++ remainder inner := by
    conv_lhs => rw [begins, named]
    simp
  refine ⟨lead, gap, trail, leads, blank, trails, split, ?_, ?_⟩
  · rw [← ends]
    exact head?_trimStart _
  · conv_lhs => rw [split, ends]
    simp

theorem before_of_split {text lead tail : List Char} (split : text = lead ++ tail) :
    before text tail = lead := by
  rw [split, before_append]

/-! ### Visits -/

namespace Stream

variable {delimiters : Delimiters} {stream after : Stream} {read text piece inner left : List Char}
  {region : Region} {tokens : List Token} {visits : List Visit} {error : Option LexError}

/-- The line on which a body begins that `lead` comes before in its region. -/
theorem Ready.line_before (ready : Ready delimiters stream read text) {lead tail : List Char}
    (split : inner = lead ++ tail) (start : List Char) :
    stream.line + lineBreaks (start ++ before inner tail)
      = 1 + lineBreaks (read ++ start ++ lead) := by
  rw [before_of_split split, ready.line]
  simp [Nat.add_assoc]

theorem holds_of_raw (ready : Ready delimiters stream read text)
    (entry : (stepOver delimiters stream .raw piece inner left).entry = some (tokens, after)) :
    Holds delimiters read .raw piece tokens after.bodyLine := by
  refine .plain (.inl rfl) fun token member => ?_
  rw [stepOver] at entry
  split at entry
  · obtain ⟨rfl, -⟩ := Prod.mk.inj (Option.some.inj entry)
    cases member
  · obtain ⟨rfl, -⟩ := Prod.mk.inj (Option.some.inj entry)
    rw [past, ready.nothing] at member
    rw [List.mem_singleton.1 member, Stream.token]

theorem holds_of_literal (ready : Ready delimiters stream read text)
    (entry : (stepOver delimiters stream .literal piece inner left).entry
      = some (tokens, after)) :
    Holds delimiters read .literal piece tokens after.bodyLine := by
  refine .plain (.inr rfl) fun token member => ?_
  rw [tokens_of_literal ready.nothing entry, tokenUnlessEmpty] at member
  split at member
  · cases member
  · rw [List.mem_singleton.1 member]

theorem holds_of_statement (ready : Ready delimiters stream read text)
    (entry : (stepOver delimiters stream .statement piece inner left).entry
      = some (tokens, after)) :
    Holds delimiters read .statement
      (delimiters.statementStart.toList ++ inner ++ delimiters.statementEnd.toList) tokens
      after.bodyLine := by
  obtain ⟨rfl, rfl⟩ := Prod.mk.inj (Option.some.inj entry)
  obtain ⟨lead, trail, leads, trails, begins, -, whole⟩ := exists_statementParts
    delimiters.statementStart.toList inner delimiters.statementEnd.toList
  show Holds delimiters read .statement _
    (⟨stream.line, .statement, String.ofList (bodyOf (content inner))⟩ :: stream.pending.toList)
    (stream.line + _)
  rw [ready.line_before begins, whole, ready.nothing, ready.line]
  exact .statement leads trails

/-- The expression of a tag waits unless it is empty. -/
theorem Ready.waiting (ready : Ready delimiters stream read text) (body : List Char) :
    (if body.isEmpty then stream.pending else some (stream.token .expression body)).toList
      = tokenUnlessEmpty (1 + lineBreaks read) .expression body := by
  rw [tokenUnlessEmpty, ready.nothing, Stream.token, ready.line]
  split <;> rfl

theorem holds_of_tag (ready : Ready delimiters stream read text)
    (entry : (stepOver delimiters stream .tag piece inner left).entry = some (tokens, after)) :
    Holds delimiters read .tag
      (delimiters.tagStart.toList ++ inner ++ delimiters.tagEnd.toList) tokens
      after.bodyLine := by
  obtain ⟨rfl, rfl⟩ := Prod.mk.inj (Option.some.inj entry)
  obtain ⟨lead, gap, trail, leads, blank, trails, split, -, whole⟩ :=
    exists_tagParts delimiters.tagStart.toList inner delimiters.tagEnd.toList
  show Holds delimiters read .tag _
    (⟨stream.line, .tag, String.ofList (nameOf inner)⟩
      :: (if (bodyOf (remainder inner)).isEmpty then stream.pending
        else some (stream.token .expression (bodyOf (remainder inner)))).toList)
    (stream.line + _)
  rw [ready.line_before split, whole, ready.waiting, ready.line]
  exact .tag leads (fun c => List.mem_takeWhile_imp) blank trails

/-- What a stream gives at a region is what this region holds. -/
theorem holds_of_entry (ready : Ready delimiters stream read text)
    (next : NextRegion delimiters text region piece inner left)
    (entry : (stepOver delimiters stream region piece inner left).entry = some (tokens, after)) :
    Holds delimiters read region piece tokens after.bodyLine := by
  cases next with
  | raw => exact holds_of_raw ready entry
  | statement => exact holds_of_statement ready entry
  | tag => exact holds_of_tag ready entry
  | literal => exact holds_of_literal ready entry

/-- The regions that a stream visits follow one another from its position on. -/
theorem course_of_visits (visited : Visits delimiters stream visits error) {read text : List Char}
    (ready : Ready delimiters stream read text) : Course delimiters read text visits := by
  induction visited generalizing read text with
  | ended => exact .ended
  | failed => exact .ended
  | @visit stream after region piece inner left tokens visits error next kind step entry later ih =>
      rw [ready.rest_eq] at next
      rw [step] at entry
      have following := ih (ready.past_region next entry)
      have holds := holds_of_entry ready next entry
      rw [next.split]
      exact @Course.region _ read left ⟨region, piece, inner, tokens, after.bodyLine⟩ _ holds
        following

end Stream

end LiquidTokens.Template
