/-!
Positions in a text. A position is counted in bytes of the UTF-8 form, so it names a
place between two characters only when it lies on a character boundary.

Main statements: `dropBytes?_eq_some_iff` (dropping succeeds exactly at the end of an
initial part of the text, and returns what follows it), `takeBytes?_eq_some_iff` (its
companion for the part before), `lineBreaks_append`.
-/

namespace LiquidTokens.Text

/-! ### Spans -/

/-- A stretch of a text between two byte positions; `stop` is exclusive. -/
structure Span where
  start : Nat
  stop : Nat
  deriving DecidableEq, Repr, Inhabited

/-- The same stretch counted from a position `base` bytes earlier. -/
def Span.shift (base : Nat) (span : Span) : Span :=
  ⟨base + span.start, base + span.stop⟩

/-! ### Byte lengths -/

/-- The number of bytes of the UTF-8 form. -/
def byteLength : List Char → Nat
  | [] => 0
  | c :: rest => c.utf8Size + byteLength rest

@[simp] theorem byteLength_nil : byteLength [] = 0 := rfl

@[simp] theorem byteLength_cons (c : Char) (rest : List Char) :
    byteLength (c :: rest) = c.utf8Size + byteLength rest := rfl

@[simp] theorem byteLength_append (s t : List Char) :
    byteLength (s ++ t) = byteLength s + byteLength t := by
  induction s with
  | nil => simp
  | cons c rest ih => simp [ih, Nat.add_assoc]

/-- The number of bytes of a text that is not empty, as what a cut looks at. -/
theorem exists_byteLength_cons (c : Char) (rest : List Char) :
    ∃ n, byteLength (c :: rest) = n + 1 ∧ c.utf8Size ≤ n + 1
      ∧ n + 1 - c.utf8Size = byteLength rest := by
  have pos := c.utf8Size_pos
  refine ⟨c.utf8Size + byteLength rest - 1, ?_, by omega, by omega⟩
  rw [byteLength_cons]
  omega

/-- Every character takes at least one byte, so only the empty text has no bytes. -/
@[simp] theorem byteLength_eq_zero {s : List Char} : byteLength s = 0 ↔ s = [] := by
  cases s with
  | nil => simp
  | cons c rest =>
      have := c.utf8Size_pos
      simp only [byteLength_cons, reduceCtorEq, iff_false]
      omega

/-! ### Cutting at a position -/

/-- The text from a byte position on, if the position is a character boundary of the
text. -/
def dropBytes? : List Char → Nat → Option (List Char)
  | s, 0 => some s
  | [], _ + 1 => none
  | c :: rest, n + 1 =>
      if n + 1 < c.utf8Size then none else dropBytes? rest (n + 1 - c.utf8Size)

/-- The text before a byte position, if the position is a character boundary of the
text. -/
def takeBytes? : List Char → Nat → Option (List Char)
  | _, 0 => some []
  | [], _ + 1 => none
  | c :: rest, n + 1 =>
      if n + 1 < c.utf8Size then none
      else (takeBytes? rest (n + 1 - c.utf8Size)).map (c :: ·)

@[simp] theorem dropBytes?_zero (s : List Char) : dropBytes? s 0 = some s := by
  cases s <;> rfl

@[simp] theorem takeBytes?_zero (s : List Char) : takeBytes? s 0 = some [] := by
  cases s <;> rfl

/-- Dropping the bytes of an initial part leaves what follows it. -/
@[simp] theorem dropBytes?_append (s t : List Char) :
    dropBytes? (s ++ t) (byteLength s) = some t := by
  induction s with
  | nil => simp
  | cons c rest ih =>
      obtain ⟨n, bytes, fits, left⟩ := exists_byteLength_cons c rest
      rw [bytes, List.cons_append, dropBytes?, if_neg (Nat.not_lt.2 fits), left]
      exact ih

/-- Dropping succeeds exactly at the end of an initial part of the text. -/
theorem dropBytes?_eq_some_iff {s t : List Char} {n : Nat} :
    dropBytes? s n = some t ↔ ∃ u, s = u ++ t ∧ byteLength u = n := by
  constructor
  · intro h
    induction s generalizing n with
    | nil =>
        cases n with
        | zero => exact ⟨[], by simpa using h, rfl⟩
        | succ n => simp [dropBytes?] at h
    | cons c rest ih =>
        cases n with
        | zero => exact ⟨[], by simpa using h, rfl⟩
        | succ n =>
            rw [dropBytes?] at h
            split at h
            · simp at h
            · obtain ⟨u, hu, hlen⟩ := ih h
              exact ⟨c :: u, by simp [hu], by simp only [byteLength_cons]; omega⟩
  · rintro ⟨u, rfl, rfl⟩
    exact dropBytes?_append u t

/-- Taking the bytes of an initial part returns that part. -/
@[simp] theorem takeBytes?_append (s t : List Char) :
    takeBytes? (s ++ t) (byteLength s) = some s := by
  induction s with
  | nil => simp
  | cons c rest ih =>
      obtain ⟨n, bytes, fits, left⟩ := exists_byteLength_cons c rest
      rw [bytes, List.cons_append, takeBytes?, if_neg (Nat.not_lt.2 fits), left, ih]
      rfl

/-- Taking succeeds exactly at the end of an initial part of the text, which it
returns. -/
theorem takeBytes?_eq_some_iff {s u : List Char} {n : Nat} :
    takeBytes? s n = some u ↔ ∃ t, s = u ++ t ∧ byteLength u = n := by
  constructor
  · intro h
    induction s generalizing n u with
    | nil =>
        cases n with
        | zero => exact ⟨[], by simp_all⟩
        | succ n => simp [takeBytes?] at h
    | cons c rest ih =>
        cases n with
        | zero => exact ⟨c :: rest, by simp_all⟩
        | succ n =>
            rw [takeBytes?] at h
            split at h
            · simp at h
            · obtain ⟨v, hv, rfl⟩ := Option.map_eq_some_iff.1 h
              obtain ⟨t, ht, hlen⟩ := ih hv
              exact ⟨t, by simp [ht], by simp only [byteLength_cons]; omega⟩
  · rintro ⟨t, rfl, rfl⟩
    exact takeBytes?_append u t

/-- The text of a span, if both its ends are character boundaries in order. -/
def slice? (s : List Char) (span : Span) : Option (List Char) :=
  if span.stop < span.start then none
  else (dropBytes? s span.start).bind (takeBytes? · (span.stop - span.start))

/-- The text of a span; empty when the span does not fit the text. -/
def slice (s : List Char) (span : Span) : List Char :=
  (slice? s span).getD []

/-- The span that covers the middle of three parts has the middle as its text. -/
theorem slice_append (s t u : List Char) :
    slice (s ++ t ++ u) ⟨byteLength s, byteLength s + byteLength t⟩ = t := by
  have notBefore : ¬ byteLength s + byteLength t < byteLength s := by omega
  simp [slice, slice?, notBefore, List.append_assoc]

/-! ### Lines -/

/-- The number of line breaks in a text. Only the line feed counts. -/
def lineBreaks (s : List Char) : Nat :=
  s.count '\n'

@[simp] theorem lineBreaks_nil : lineBreaks [] = 0 := rfl

@[simp] theorem lineBreaks_append (s t : List Char) :
    lineBreaks (s ++ t) = lineBreaks s + lineBreaks t := by
  simp [lineBreaks]

end LiquidTokens.Text
