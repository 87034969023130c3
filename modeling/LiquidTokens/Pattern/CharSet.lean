import LiquidTokens.Text.CharClass

/-!
Sets of characters, as patterns write them. One set can be written in many ways, `[ab]` and
`[b-ba]` for instance; `CharSet.same` tells whether two sets have the same members.

A set is made of finitely many ranges of code points, its parts, and from one character to
the next membership can change only where a part begins or has ended. So two sets are
compared at those characters alone.

Main statements: `CharSet.same_iff` (sets are the same exactly if they have the same
members) and `CharSet.first?_eq_none_iff` (only a set without members has no first one).
-/

namespace LiquidTokens

/-- A set of characters that a pattern reads one of. -/
inductive CharSet where
  /-- Every character, line feeds included. -/
  | any
  /-- No character. -/
  | none
  | single (c : Char)
  /-- The characters from `first` to `last` by code point. -/
  | range (first last : Char)
  | digit
  | blank
  | word
  | compl (set : CharSet)
  | union (left right : CharSet)
  deriving DecidableEq, Repr

namespace CharSet

/-- A character lies in a set. -/
def contains : CharSet → Char → Bool
  | any, _ => true
  | none, _ => false
  | single d, c => c == d
  | range first last, c => first ≤ c && c ≤ last
  | digit, c => Text.isDigit c
  | blank, c => Text.isBlank c
  | word, c => Text.isWord c
  | compl set, c => !set.contains c
  | union left right, c => left.contains c || right.contains c

/-- A set with the members of another one added. -/
def insert (set members : CharSet) : CharSet :=
  if set = none then members else union set members

/-! ### Parts -/

/-- The ranges of code points that a set is made of. Whether a character is a member
depends only on which of them it lies in. -/
def parts : CharSet → List (Nat × Nat)
  | any | none => []
  | single c => [(c.toNat, c.toNat)]
  | range first last => [(first.toNat, last.toNat)]
  | digit => (0, 0x7F) :: ('0'.toNat, '9'.toNat) :: Text.decimalDigitRanges
  | blank => Text.blanks.map fun c => (c.toNat, c.toNat)
  | word =>
      [(0, 0x7F), ('0'.toNat, '9'.toNat), ('A'.toNat, 'Z'.toNat), ('_'.toNat, '_'.toNat),
        ('a'.toNat, 'z'.toNat), ('\u200c'.toNat, '\u200c'.toNat),
        ('\u200d'.toNat, '\u200d'.toNat)]
        ++ Text.connectorRanges ++ Text.alphabeticRanges ++ Text.decimalDigitRanges
        ++ Text.markRanges
  | compl set => set.parts
  | union left right => left.parts ++ right.parts

/-- The characters at which membership may change: the first one of each part, the first
one after it, the first one of all, and the first one after the gap in the code points. -/
def cuts (set : CharSet) : List Char :=
  (set.parts.flatMap fun part => [Char.ofNat part.1, Char.ofNat (part.2 + 1)])
    ++ ['\x00', '\ue000']

/-- Two sets have the same members. -/
def same (set other : CharSet) : Bool :=
  decide (set = other)
    || (set.cuts ++ other.cuts).all fun c => set.contains c == other.contains c

/-- A member at which the set or a part of it begins, if the set has any members. -/
def first? (set : CharSet) : Option Char :=
  set.cuts.find? set.contains

/-! ### Comparing sets at their cuts -/

/-- A code point lies in a range. -/
def lies (part : Nat × Nat) (code : Nat) : Bool :=
  part.1 ≤ code && code ≤ part.2

theorem inRanges_eq_any (ranges : List (Nat × Nat)) (code : Nat) :
    Text.inRanges ranges code = ranges.any (lies · code) := rfl

/-- Code points that lie in the same ranges of a table are both in the table or both
outside. -/
theorem inRanges_congr {ranges : List (Nat × Nat)} {m n : Nat}
    (alike : ∀ part ∈ ranges, lies part m = lies part n) :
    Text.inRanges ranges m = Text.inRanges ranges n := by
  rw [Bool.eq_iff_iff]
  simp only [inRanges_eq_any, List.any_eq_true]
  exact ⟨fun ⟨part, member, inside⟩ => ⟨part, member, alike part member ▸ inside⟩,
    fun ⟨part, member, inside⟩ => ⟨part, member, alike part member ▸ inside⟩⟩

/-- A character lies in a range between characters as its code point does between
theirs. -/
theorem between_eq_lies (first last c : Char) :
    (decide (first ≤ c) && decide (c ≤ last)) = lies (first.toNat, last.toNat) c.toNat := rfl

theorem beq_eq_lies (c d : Char) : (c == d) = lies (d.toNat, d.toNat) c.toNat := by
  rw [Bool.eq_iff_iff, beq_iff_eq, ← Char.toNat_inj]
  simp only [lies, Bool.and_eq_true, decide_eq_true_eq]
  omega

theorem ascii_iff_lies (code : Nat) : code < 0x80 ↔ lies (0, 0x7F) code = true := by
  simp only [lies, Bool.and_eq_true, decide_eq_true_eq]
  omega

/-- Characters that lie in the same parts of the class of digits are both digits or
neither is. -/
theorem isDigit_congr {c d : Char}
    (alike : ∀ part ∈ digit.parts, lies part c.toNat = lies part d.toNat) :
    Text.isDigit c = Text.isDigit d := by
  simp only [parts, List.forall_mem_cons] at alike
  obtain ⟨ascii, decimal, table⟩ := alike
  simp only [Text.isDigit, ascii_iff_lies, between_eq_lies, ascii, decimal,
    inRanges_congr table]

/-- The blanks are a table with one range for each. -/
theorem isBlank_eq_inRanges (c : Char) :
    Text.isBlank c = Text.inRanges (blank.parts) c.toNat := by
  simp only [Text.isBlank, parts, inRanges_eq_any, List.any_map, List.contains_eq_any_beq]
  exact congrArg _ (funext fun d => beq_eq_lies c d)

/-- Characters that lie in the same parts of the class of word characters are both word
characters or neither is. -/
theorem isWord_congr {c d : Char}
    (alike : ∀ part ∈ word.parts, lies part c.toNat = lies part d.toNat) :
    Text.isWord c = Text.isWord d := by
  simp only [parts, List.forall_mem_append, List.forall_mem_cons, List.not_mem_nil,
    false_implies, implies_true, and_true] at alike
  obtain ⟨⟨⟨⟨⟨ascii, decimal, upper, line, lower, apart, joined⟩, connectors⟩, letters⟩,
    digits⟩, marks⟩ := alike
  have digit : Text.isDigit c = Text.isDigit d :=
    isDigit_congr (by simpa only [parts, List.forall_mem_cons] using ⟨ascii, decimal, digits⟩)
  simp only [Text.isWord, Text.isAlphabetic, Text.isConnector, Text.isJoiner, digit,
    ascii_iff_lies, ascii, between_eq_lies, beq_eq_lies, upper, lower, line, apart, joined,
    inRanges_congr connectors, inRanges_congr letters, inRanges_congr marks]

/-- Characters that lie in the same parts of a set are both members or both none. -/
theorem contains_congr (set : CharSet) {c d : Char}
    (alike : ∀ part ∈ set.parts, lies part c.toNat = lies part d.toNat) :
    set.contains c = set.contains d := by
  induction set with
  | any | none => rfl
  | single e => simpa only [contains, beq_eq_lies] using alike _ (by simp [parts])
  | range first last => simpa only [contains, between_eq_lies] using alike _ (by simp [parts])
  | digit => exact isDigit_congr alike
  | blank =>
      simp only [contains, isBlank_eq_inRanges, inRanges_congr alike]
  | word => exact isWord_congr alike
  | compl set ih => simp only [contains, ih alike]
  | union left right ihl ihr =>
      simp only [parts, List.mem_append] at alike
      simp only [contains, ihl fun part member => alike part (.inl member),
        ihr fun part member => alike part (.inr member)]

/-! ### Equality of members -/

/-- From one character to the next, membership changes only at a cut. -/
theorem contains_succ (set : CharSet) {c d : Char} (next : d.toNat = c.toNat + 1)
    (uncut : d ∉ set.cuts) : set.contains d = set.contains c := by
  refine contains_congr set fun part member => ?_
  have start : d.toNat ≠ part.1 := fun h => uncut (by
    simp only [cuts, List.mem_append, List.mem_flatMap]
    exact .inl ⟨part, member, by simp [← h]⟩)
  have past : d.toNat ≠ part.2 + 1 := fun h => uncut (by
    simp only [cuts, List.mem_append, List.mem_flatMap]
    exact .inl ⟨part, member, by simp [← h]⟩)
  rw [Bool.eq_iff_iff]
  simp only [lies, Bool.and_eq_true, decide_eq_true_eq]
  omega

/-- A character is the first of all, follows the gap, or follows another character. -/
theorem eq_first_or_succ (c : Char) :
    c = '\x00' ∨ c = '\ue000' ∨ ∃ b : Char, c.toNat = b.toNat + 1 := by
  by_cases first : c.toNat = 0
  · exact .inl (Char.toNat_inj.1 first)
  by_cases gap : c.toNat = 0xE000
  · exact .inr (.inl (Char.toNat_inj.1 gap))
  · have valid : (c.toNat - 1).isValidChar := by
      have : c.toNat.isValidChar := c.valid
      simp only [Nat.isValidChar] at this ⊢
      omega
    refine .inr (.inr ⟨Char.ofNat (c.toNat - 1), ?_⟩)
    have before : (Char.ofNat (c.toNat - 1)).toNat = c.toNat - 1 := by
      rw [Char.ofNat, dif_pos valid]
      rfl
    omega

/-- Sets that agree at their cuts agree everywhere. -/
theorem contains_eq_of_cuts {set other : CharSet}
    (agree : ∀ c ∈ set.cuts ++ other.cuts, set.contains c = other.contains c) (c : Char) :
    set.contains c = other.contains c := by
  by_cases cut : c ∈ set.cuts ++ other.cuts
  · exact agree c cut
  · rcases eq_first_or_succ c with rfl | rfl | ⟨b, next⟩
    · exact agree _ (by simp [cuts])
    · exact agree _ (by simp [cuts])
    · simp only [List.mem_append, not_or] at cut
      rw [contains_succ set next cut.1, contains_succ other next cut.2]
      exact contains_eq_of_cuts agree b
termination_by c.toNat

/-- Sets are the same exactly if they have the same members. -/
theorem same_iff {set other : CharSet} :
    set.same other = true ↔ ∀ c, set.contains c = other.contains c := by
  simp only [same, Bool.or_eq_true, decide_eq_true_eq, List.all_eq_true, beq_iff_eq]
  constructor
  · rintro (rfl | agree)
    · exact fun _ => rfl
    · exact contains_eq_of_cuts agree
  · exact fun agree => .inr fun c _ => agree c

/-- Only a set without members has no first one. -/
theorem first?_eq_none_iff {set : CharSet} :
    set.first? = Option.none ↔ ∀ c, set.contains c = false := by
  constructor
  · intro empty c
    have unmet := List.find?_eq_none.1 empty
    have outside (c : Char) (cut : c ∈ set.cuts) : set.contains c = none.contains c :=
      Bool.eq_false_iff.2 (unmet c cut)
    refine @contains_eq_of_cuts set none (fun c cut => ?_) c
    rcases List.mem_append.1 cut with cut | cut
    · exact outside c cut
    · exact outside c (List.mem_append_right _ cut)
  · intro empty
    simp [first?, empty]

end CharSet

end LiquidTokens
