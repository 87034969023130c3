import LiquidTokens.Proofs.Template.Scanner

/-!
Templates with the standard delimiters.

Main statements: `front_text`, `front_statement` and `front_tag`, which say when a text begins with
a region that ends where it should.
-/

namespace LiquidTokens.Template

open Text (isBlank isWord)

/-! ### The delimiters -/

/-- What opens a tag of a standard template. -/
def tagOpen : List Char :=
  ['\x7b', '%']

/-- What closes a tag. -/
def tagClose : List Char :=
  ['%', '\x7d']

/-- What opens a statement of a standard template. -/
def statementOpen : List Char :=
  ['\x7b', '\x7b']

/-- What closes a statement. -/
def statementClose : List Char :=
  ['\x7d', '\x7d']

/-- The delimiters of standard templates are separated. -/
theorem separated_standard : Separated .standard :=
  ⟨by decide, fun role => by cases role <;> decide +kernel, by decide +kernel, by decide +kernel⟩

/-! ### Delimiters that cannot begin early -/

section Apart

variable {stop value name text left : List Char}

theorem not_infix_between_spaces (stop_ne : stop ≠ []) (hard : ∀ c ∈ stop, isBlank c = false)
    (absent : ¬ stop <:+: value) : ¬ stop <:+: ' ' :: value ++ [' '] := by
  have space : ' ' ∉ stop := fun member => by
    have no := hard ' ' member
    rw [isBlank_space] at no
    cases no
  intro within
  rcases List.infix_concat_iff.1 within with ⟨u, ends⟩ | within
  · have last := congrArg List.getLast? ends
    rw [List.getLast?_append_of_ne_nil u stop_ne, List.getLast?_concat] at last
    exact space (List.mem_of_getLast? last)
  · rcases List.infix_cons_iff.1 within with ⟨w, starts⟩ | within
    · have first := congrArg List.head? starts
      rw [List.head?_append_of_ne_nil stop stop_ne] at first
      exact space (List.mem_of_mem_head? first)
    · exact absent within

/-- A text that begins with no character of a run is not found before its end. -/
theorem infix_of_infix_append {c : Char} (other : c ∉ name)
    (within : c :: stop <:+: name ++ text) : c :: stop <:+: text := by
  induction name with
  | nil => exact within
  | cons d name ih =>
      obtain ⟨different, others⟩ := not_or.1 (mt List.mem_cons.2 other)
      rcases List.infix_cons_iff.1 within with starts | within
      · exact absurd (List.cons_prefix_cons.1 starts).1 different
      · exact ih others within

/-- An opening delimiter that begins in a text lies in it, unless it begins with its last
character. -/
theorem infix_of_prefix_append {a b : Char} (long : text ≠ []) (starts : [a, b] <+: text ++ left) :
    [a, b] <:+: text ∨ text.getLast? = some a ∧ left ≠ [] := by
  obtain ⟨c, text, rfl⟩ := List.exists_cons_of_ne_nil long
  rw [List.cons_append] at starts
  obtain ⟨rfl, next⟩ := List.cons_prefix_cons.1 starts
  cases text with
  | nil =>
      refine .inr ⟨rfl, ?_⟩
      rintro rfl
      simp at next
  | cons d text =>
      obtain ⟨rfl, -⟩ := List.cons_prefix_cons.1 next
      exact .inl ⟨[], text, rfl⟩

end Apart

/-! ### The regions -/

section Fronts

variable {text inner left : List Char}

/-- Plain text is not cut before its end. -/
theorem not_halts_append (long : text ≠ []) (statement : ¬ statementOpen <:+: text)
    (tag : ¬ tagOpen <:+: text) (last : left = [] ∨ text.getLast? ≠ some '\x7b') :
    ¬ Halts tagOpen statementOpen (text ++ left) := by
  have apart : ¬ (text.getLast? = some '\x7b' ∧ left ≠ []) := by
    rintro ⟨brace, more⟩
    exact last.elim more (· brace)
  rintro (starts | starts | none)
  · exact (infix_of_prefix_append long starts).elim tag apart
  · exact (infix_of_prefix_append long starts).elim statement apart
  · exact long (List.append_eq_nil_iff.1 none).1

/-- Plain text goes up to the next opening delimiter. -/
theorem front_text (long : text ≠ []) (statement : ¬ statementOpen <:+: text)
    (tag : ¬ tagOpen <:+: text) (last : left = [] ∨ text.getLast? ≠ some '\x7b')
    (halts : Halts tagOpen statementOpen left) :
    front .standard (text ++ left) = (.literal, text, left) := by
  have stays := not_halts_append long statement tag last
  have noTag : after? Delimiters.standard.tagStart.toList (text ++ left) = none :=
    after?_eq_none_iff.2 fun starts => stays (.inl starts)
  have noStatement : after? Delimiters.standard.statementStart.toList (text ++ left) = none :=
    after?_eq_none_iff.2 fun starts => stays (.inr (.inl starts))
  have cut : LiteralCut Delimiters.standard.tagStart.toList
      Delimiters.standard.statementStart.toList (text ++ left) text left := by
    refine ⟨rfl, long, halts, fun v w split _ more => ?_⟩
    have within : w <:+ text := split ▸ List.suffix_append v w
    refine not_halts_append more (fun inside => statement (inside.trans within.isInfix))
      (fun inside => tag (inside.trans within.isInfix)) ?_
    rw [split, List.getLast?_append_of_ne_nil v more] at last
    exact last
  rw [front, raw?, namedTag?, enclosed?, enclosed?, noTag, noStatement, literalRun_eq cut]
  rfl

/-- A statement whose inside ends in a blank goes up to the first closing delimiter. -/
theorem front_statement {b : Char} (blank : isBlank b = true)
    (absent : ¬ statementClose <:+: inner ++ [b]) (left : List Char) :
    front .standard (statementOpen ++ (inner ++ [b]) ++ statementClose ++ left)
      = (.statement, inner ++ [b], left) := by
  have noTag : after? Delimiters.standard.tagStart.toList
      (statementOpen ++ (inner ++ [b]) ++ statementClose ++ left) = none := rfl
  have opens : enclosed? Delimiters.standard.statementStart.toList
      Delimiters.standard.statementEnd.toList
      (statementOpen ++ (inner ++ [b]) ++ statementClose ++ left) = some (inner ++ [b], left) :=
    enclosed?_eq_some_of_blank (by decide) blank absent
  rw [front, raw?, namedTag?, noTag, opens]
  rfl

/-- A tag whose inside ends in a blank goes up to the first closing delimiter, unless it is one
that starts a raw block. -/
theorem front_tag {b : Char} (blank : isBlank b = true) (absent : ¬ tagClose <:+: inner ++ [b])
    (other : nameOf (inner ++ [b]) = "raw".toList → remainder (inner ++ [b]) ≠ [])
    (left : List Char) :
    front .standard (tagOpen ++ (inner ++ [b]) ++ tagClose ++ left)
      = (.tag, inner ++ [b], left) := by
  have noStatement : after? Delimiters.standard.statementStart.toList
      (tagOpen ++ (inner ++ [b]) ++ tagClose ++ left) = none := rfl
  have opens : enclosed? Delimiters.standard.tagStart.toList Delimiters.standard.tagEnd.toList
      (tagOpen ++ (inner ++ [b]) ++ tagClose ++ left) = some (inner ++ [b], left) :=
    enclosed?_eq_some_of_blank (by decide) blank absent
  have noBlock : raw? Delimiters.standard.tagStart.toList Delimiters.standard.tagEnd.toList
      (tagOpen ++ (inner ++ [b]) ++ tagClose ++ left) = none :=
    raw?_eq_none_of_enclosed (by decide) (separated_standard.hard .tagEnd) opens other
  rw [front, noBlock, enclosed?, noStatement, opens]
  rfl

end Fronts

end LiquidTokens.Template
