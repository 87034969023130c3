import LiquidTokens.Proofs.Text.Runs
import LiquidTokens.Text.Trim
import Mathlib.Data.List.Infix

/-!
What stands between two delimiters.

The region patterns cut the inside of a statement or a tag into a trim marker, blanks, a name, a
body and so on, each with a preference of its own. Whatever the closing delimiter is, the parts
depend on the inside as a whole alone: `content`, `nameOf`, `remainder` and `bodyOf` find them
without a pattern.

A part at which the closing delimiter is met too early can only begin with a blank, a hyphen or a
word character (`Late`), so delimiters without such characters end a region at their first
occurrence.

Main statements: `BodyCut.bodyOf_inner`, `BodyCut.endsMarked_inner`, `LeadCut.content_eq` and
`NameCut.remainder_eq`.
-/

namespace LiquidTokens.Template

open Text (dropWhile_append_of_head dropWhile_append_of_stop isBlank isWord
  takeWhile_append_of_head takeWhile_append_of_stop trimStart trimEnd)

/-! ### The parts of an inside -/

/-- The text without a trim marker at its start. -/
def unhyphened : List Char → List Char
  | '-' :: text => text
  | text => text

/-- The text ends in a trim marker. -/
def endsMarked (text : List Char) : Bool :=
  text.getLast? == some '-'

/-- The text without a trim marker at its end. -/
def unmarked (text : List Char) : List Char :=
  if endsMarked text then text.dropLast else text

/-- An inside from its first character on that counts. -/
def content (inner : List Char) : List Char :=
  trimStart (unhyphened inner)

/-- The name with which the content of a tag begins. -/
def nameOf (inner : List Char) : List Char :=
  (content inner).takeWhile isWord

/-- What follows the name of a tag. -/
def remainder (inner : List Char) : List Char :=
  trimStart ((content inner).dropWhile isWord)

/-- The body that stands before a trim marker and blanks. -/
def bodyOf (tail : List Char) : List Char :=
  trimEnd (unmarked tail)

/-- The trim marker with which a text ends, if it does. -/
def markerOf (tail : List Char) : List Char :=
  if endsMarked tail then ['-'] else []

theorem isEmpty_markerOf (tail : List Char) : (markerOf tail).isEmpty = !endsMarked tail := by
  rw [markerOf]
  cases endsMarked tail <;> rfl

/-- The part of a text that lies before its end `tail`. -/
def before (text tail : List Char) : List Char :=
  text.take (text.length - tail.length)

theorem before_append (lead tail : List Char) : before (lead ++ tail) tail = lead := by
  simp [before]

/-- The text of a literal once it has been trimmed. -/
def trimmed (atStart atEnd : Bool) (literal : List Char) : List Char :=
  let text := if atStart then trimStart literal else literal
  if atEnd then trimEnd text else text

/-! ### Trimming joined texts -/

theorem trimEnd_append_of_blank {gap : List Char} (blank : ∀ c ∈ gap, isBlank c = true)
    (text : List Char) : trimEnd (text ++ gap) = trimEnd text := by
  have reversed : ∀ c ∈ gap.reverse, isBlank c = true := fun c member =>
    blank c (List.mem_reverse.1 member)
  rw [trimEnd, List.reverse_append, List.dropWhile_append_of_pos reversed, trimEnd]

theorem isBlank_hyphen : isBlank '-' = false := by
  decide

theorem isWord_hyphen : isWord '-' = false := by
  decide +kernel

/-- A blank is no word character. -/
theorem isWord_of_isBlank {c : Char} (blank : isBlank c = true) : isWord c = false := by
  have all : ∀ c ∈ Text.blanks, isWord c = false := by decide +kernel
  exact all c (Text.isBlank_iff.1 blank)

/-! ### Spaces around a value -/

theorem isBlank_space : isBlank ' ' = true := by
  decide

/-- A space after an opening delimiter is no trim marker. -/
theorem content_space (text : List Char) : content (' ' :: text) = trimStart text := by
  rw [content, unhyphened]
  · simp [trimStart, isBlank_space]
  · rintro _ ⟨⟩

/-- Where a blank follows, it is trimmed away with a value that holds blanks alone. -/
theorem trimStart_append_singleton {b : Char} (blank : isBlank b = true) (value : List Char) :
    trimStart (value ++ [b]) = if trimStart value = [] then [] else trimStart value ++ [b] := by
  rw [trimStart, List.dropWhile_append, trimStart]
  by_cases none : value.dropWhile isBlank = []
  · simp [none, blank]
  · simp [none]

/-- A blank after a value keeps its last character from being a trim marker. -/
theorem endsMarked_trimStart_append {b : Char} (blank : isBlank b = true) (value : List Char) :
    endsMarked (trimStart (value ++ [b])) = false := by
  have other : b ≠ '-' := by
    rintro rfl
    rw [isBlank_hyphen] at blank
    cases blank
  rw [trimStart_append_singleton blank]
  split <;> simp [endsMarked, other]

/-- Before a blank the body is the value without the blanks around it. -/
theorem bodyOf_trimStart_append {b : Char} (blank : isBlank b = true) (value : List Char) :
    bodyOf (trimStart (value ++ [b])) = trimEnd (trimStart value) := by
  have unmarked : unmarked (trimStart (value ++ [b])) = trimStart (value ++ [b]) := by
    rw [unmarked, endsMarked_trimStart_append blank]
    rfl
  rw [bodyOf, unmarked, trimStart_append_singleton blank]
  split
  · next none => rw [none]
  · exact trimEnd_append_of_blank (by simp [blank]) _

/-! ### Runs that stop before a text to come -/

/-- No longer run leaves the text `stop` to come. -/
def Longest (p : Char → Bool) (stop text : List Char) : Prop :=
  ∀ w v, text = w ++ v → w ≠ [] → (∀ c ∈ w, p c = true) → ¬ stop <:+: v

/-- A run that could not be longer is followed by a character outside its set, or by the text
that is to come. -/
theorem Longest.head {p : Char → Bool} {stop tail left : List Char}
    (longest : Longest p stop (tail ++ stop ++ left)) : ∀ c ∈ tail.head?, p c = false := by
  intro c first
  obtain ⟨more, rfl⟩ : ∃ more, tail = c :: more := by
    cases tail with
    | nil => cases first
    | cons d more => exact ⟨more, by cases first; rfl⟩
  by_contra inside
  have come : stop <:+: more ++ stop ++ left := ⟨more, left, rfl⟩
  refine longest [c] (more ++ stop ++ left) (by simp) (by simp) ?_ come
  simpa using inside

/-! ### The end of an inside -/

/-- Blanks, perhaps a trim marker and the closing delimiter come next. -/
def Closes (stop text : List Char) : Prop :=
  ∃ gap trail left, text = gap ++ trail ++ stop ++ left ∧ (∀ c ∈ gap, isBlank c = true)
    ∧ (trail = ['-'] ∨ trail = [])

/-- A text cut at the first place where it can be closed. -/
structure BodyCut (stop text : List Char) where
  body : List Char
  gap : List Char
  trail : List Char
  left : List Char
  split : text = body ++ gap ++ trail ++ stop ++ left
  blank : ∀ c ∈ gap, isBlank c = true
  hyphen : trail = ['-'] ∨ trail = []
  shortest : ∀ u w, body = u ++ w → w ≠ [] → ¬ Closes stop (w ++ gap ++ trail ++ stop ++ left)

namespace BodyCut

variable {stop text : List Char} (cut : BodyCut stop text)

/-- What lies before the closing delimiter. -/
def inner : List Char :=
  cut.body ++ cut.gap ++ cut.trail

theorem split_inner : text = cut.inner ++ stop ++ cut.left := by
  rw [inner]
  exact cut.split

/-- The body does not end with a blank, which would have been part of the gap. -/
theorem trimEnd_body : trimEnd cut.body = cut.body := by
  rw [Text.trimEnd_eq_self_iff]
  intro c last
  by_contra blank
  obtain ⟨u, ends⟩ := List.getLast?_eq_some_iff.1 last
  refine cut.shortest u [c] ends (by simp) ⟨c :: cut.gap, cut.trail, cut.left, by simp, ?_,
    cut.hyphen⟩
  exact List.forall_mem_cons.2 ⟨by simpa using blank, cut.blank⟩

/-- Without a trim marker the inside does not end with a hyphen. -/
theorem getLast?_ne (unmarked : cut.trail = []) : (cut.body ++ cut.gap).getLast? ≠ some '-' := by
  intro last
  rw [List.getLast?_append] at last
  cases spaced : cut.gap.getLast? with
  | some c =>
      rw [spaced, Option.some_or] at last
      cases last
      have blank := cut.blank _ (List.mem_of_getLast? spaced)
      rw [isBlank_hyphen] at blank
      cases blank
  | none =>
      rw [spaced, Option.none_or] at last
      have tight : cut.gap = [] := List.getLast?_eq_none_iff.1 spaced
      obtain ⟨u, ends⟩ := List.getLast?_eq_some_iff.1 last
      refine cut.shortest u ['-'] ends (by simp) ⟨[], ['-'], cut.left, ?_, by simp, .inl rfl⟩
      simp [tight, unmarked]

/-- The trim marker is the hyphen with which the inside ends. -/
theorem endsMarked_inner : endsMarked cut.inner = (cut.trail == ['-']) := by
  rcases cut.hyphen with marked | unmarked
  · simp [endsMarked, inner, marked]
  · have last := cut.getLast?_ne unmarked
    rw [endsMarked, inner, unmarked, List.append_nil, beq_eq_false_iff_ne.2 last]
    rfl

/-- The body is what is left of the inside without its trim marker and the blanks before it. -/
theorem bodyOf_inner : bodyOf cut.inner = cut.body := by
  have before : unmarked cut.inner = cut.body ++ cut.gap := by
    rw [unmarked, cut.endsMarked_inner, inner]
    rcases cut.hyphen with marked | unhyphened
    · simp [marked]
    · simp [unhyphened]
  rw [bodyOf, before, trimEnd_append_of_blank cut.blank, cut.trimEnd_body]

theorem markerOf_inner : markerOf cut.inner = cut.trail := by
  rw [markerOf, cut.endsMarked_inner]
  rcases cut.hyphen with marked | unhyphened
  · simp [marked]
  · simp [unhyphened]

theorem inner_eq : cut.inner = bodyOf cut.inner ++ cut.gap ++ markerOf cut.inner := by
  rw [cut.bodyOf_inner, cut.markerOf_inner, inner]

/-- The body does not hold the closing delimiter, at which it would have ended. -/
theorem not_infix_body (nonempty : stop ≠ []) : ¬ stop <:+: cut.body := by
  rintro ⟨u, v, split⟩
  refine cut.shortest u (stop ++ v) (by simpa using split.symm) (by simp [nonempty]) ?_
  exact ⟨[], [], v ++ cut.gap ++ cut.trail ++ stop ++ cut.left, by simp, by simp, .inr rfl⟩

end BodyCut

/-! ### The start of an inside -/

/-- A text after an opening delimiter, cut where its content begins. -/
structure LeadCut (stop text : List Char) where
  mark : List Char
  lead : List Char
  rest : List Char
  split : text = mark ++ lead ++ rest
  hyphen : mark = ['-'] ∨ mark = [] ∧ ∀ left, lead ++ rest = '-' :: left → ¬ stop <:+: left
  blank : ∀ c ∈ lead, isBlank c = true
  longest : Longest isBlank stop rest

theorem LeadCut.content_eq {stop text tail left : List Char} (cut : LeadCut stop text)
    (ends : cut.rest = tail ++ stop ++ left) :
    content (cut.mark ++ cut.lead ++ tail) = tail := by
  have start : ∀ c ∈ tail.head?, isBlank c = false := (ends ▸ cut.longest).head
  have unmarked : unhyphened (cut.mark ++ cut.lead ++ tail) = cut.lead ++ tail := by
    rcases cut.hyphen with marked | ⟨bare, plain⟩
    · rw [marked]
      rfl
    · rw [bare, List.nil_append]
      rcases before : cut.lead ++ tail with _ | ⟨c, more⟩
      · rfl
      · by_cases hyphen : c = '-'
        · subst hyphen
          refine absurd ?_ (plain (more ++ stop ++ left) ?_)
          · exact ⟨more, left, rfl⟩
          · rw [ends, ← List.append_assoc, ← List.append_assoc, before]
            rfl
        · rw [unhyphened]
          rintro _ ⟨⟩
          exact hyphen rfl
  rw [content, unmarked, trimStart, dropWhile_append_of_head cut.blank start]

/-- The content of a tag, cut after its name and the blanks that follow. -/
structure NameCut (stop text : List Char) where
  name : List Char
  spacing : List Char
  rest : List Char
  split : text = name ++ spacing ++ rest
  word : ∀ c ∈ name, isWord c = true
  longestName : Longest isWord stop (spacing ++ rest)
  blank : ∀ c ∈ spacing, isBlank c = true
  longest : Longest isBlank stop rest

namespace NameCut

variable {stop text tail left : List Char} (cut : NameCut stop text)
include cut

theorem takeWhile_eq (ends : cut.rest = tail ++ stop ++ left) :
    (cut.name ++ cut.spacing ++ tail).takeWhile isWord = cut.name := by
  have longest := cut.longestName
  rw [ends, ← List.append_assoc, ← List.append_assoc] at longest
  rw [List.append_assoc]
  exact takeWhile_append_of_head cut.word longest.head

theorem dropWhile_eq (ends : cut.rest = tail ++ stop ++ left) :
    trimStart ((cut.name ++ cut.spacing ++ tail).dropWhile isWord) = tail := by
  have longest := cut.longestName
  rw [ends, ← List.append_assoc, ← List.append_assoc] at longest
  have start : ∀ c ∈ tail.head?, isBlank c = false := (ends ▸ cut.longest).head
  rw [List.append_assoc, dropWhile_append_of_head cut.word longest.head, trimStart,
    dropWhile_append_of_head cut.blank start]

end NameCut

/-! ### Early ends -/

/-- A character that a part of an inside other than a body may hold. -/
def isSoft (c : Char) : Bool :=
  isBlank c || c == '-' || isWord c

/-- Where a closing delimiter begins inside `part`, which `follow` comes after, it begins with a
soft character. -/
def Late (stop part follow : List Char) : Prop :=
  ∀ u c w, part = u ++ c :: w → stop <+: c :: w ++ follow → isSoft c = true

theorem Late.append {stop s t follow : List Char} (first : Late stop s (t ++ follow))
    (second : Late stop t follow) : Late stop (s ++ t) follow := by
  intro u c w split starts
  rcases List.append_eq_append_iff.1 split with ⟨v, rfl, later⟩ | ⟨v, rfl, later⟩
  · exact second v c w later starts
  · rcases v with _ | ⟨d, v⟩
    · exact second [] c w later.symm starts
    · obtain ⟨rfl, rfl⟩ := List.cons_eq_cons.1 later
      refine first u c v rfl ?_
      simpa using starts

theorem late_of_soft {part : List Char} (soft : ∀ c ∈ part, isSoft c = true)
    (stop follow : List Char) : Late stop part follow := by
  rintro u c w rfl -
  exact soft c (by simp)

theorem late_of_blank {part : List Char} (blank : ∀ c ∈ part, isBlank c = true)
    (stop follow : List Char) : Late stop part follow :=
  late_of_soft (fun c member => by simp [isSoft, blank c member]) stop follow

theorem late_of_word {part : List Char} (word : ∀ c ∈ part, isWord c = true)
    (stop follow : List Char) : Late stop part follow :=
  late_of_soft (fun c member => by simp [isSoft, word c member]) stop follow

theorem late_of_hyphen {part : List Char} (hyphen : part = ['-'] ∨ part = [])
    (stop follow : List Char) : Late stop part follow := by
  rcases hyphen with rfl | rfl
  · exact late_of_soft (by simp [isSoft]) stop follow
  · exact late_of_soft (by simp) stop follow

theorem BodyCut.late {stop text : List Char} (cut : BodyCut stop text) :
    Late stop cut.inner (stop ++ cut.left) := by
  have body : Late stop cut.body (cut.gap ++ (cut.trail ++ (stop ++ cut.left))) := by
    intro u c w split starts
    obtain ⟨left, starts⟩ := starts
    refine absurd ?_ (cut.shortest u (c :: w) split (by simp))
    exact ⟨[], [], left, by simpa using starts.symm, by simp, .inr rfl⟩
  have gap : Late stop (cut.gap ++ cut.trail) (stop ++ cut.left) :=
    (late_of_blank cut.blank _ _).append (late_of_hyphen cut.hyphen _ _)
  rw [BodyCut.inner, List.append_assoc]
  rw [← List.append_assoc cut.gap] at body
  exact body.append gap

theorem LeadCut.late {stop text : List Char} (cut : LeadCut stop text) (follow : List Char) :
    Late stop (cut.mark ++ cut.lead) follow :=
  (late_of_hyphen (cut.hyphen.imp_right And.left) _ _).append (late_of_blank cut.blank _ _)

theorem NameCut.late {stop text : List Char} (cut : NameCut stop text) (follow : List Char) :
    Late stop (cut.name ++ cut.spacing) follow :=
  (late_of_word cut.word _ _).append (late_of_blank cut.blank _ _)

end LiquidTokens.Template
