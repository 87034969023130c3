import LiquidTokens.Proofs.Text.Numerals
import LiquidTokens.Proofs.Text.Runs
import LiquidTokens.Text.Quoted

/-!
What a quoted text tells about the text.

The first character of a text can be read off its quoted form (`first?`), whatever follows: a
backslash begins an escape, and any other character stands for itself. A quoted text stays on one
line.

Main statements: `encode_injective` and `lineFeed_notMem_encode`.
-/

namespace LiquidTokens.Text.Quoted

/-! ### Escapes -/

/-- What the character after a backslash stands for. -/
def short? (mark : Char) : Option Char :=
  if mark = '"' then some '"'
  else if mark = '\\' then some '\\'
  else if mark = '0' then some '\x00'
  else if mark = 't' then some '\t'
  else if mark = 'n' then some '\n'
  else if mark = 'r' then some '\r'
  else none

/-- The first character that a text between quotes stands for, and what follows it. -/
def first? : List Char → Option (Char × List Char)
  | [] => none
  | '\\' :: 'u' :: '\x7b' :: rest =>
      let digits := rest.takeWhile (· != '\x7d')
      (hexNumber? digits).map fun code => (Char.ofNat code, rest.drop (digits.length + 1))
  | '\\' :: mark :: rest => (short? mark).map fun c => (c, rest)
  | c :: rest => some (c, rest)

/-- The digits of an escape, up to the brace. -/
theorem first?_code (c : Char) (rest : List Char) :
    first? (['\\', 'u', '\x7b'] ++ Nat.toDigits 16 c.toNat ++ ['\x7d'] ++ rest)
      = some (c, rest) := by
  have inside : ∀ d ∈ Nat.toDigits 16 c.toNat, (d != '\x7d') = true := by
    intro d member
    obtain ⟨digit, rfl⟩ := exists_of_mem_toDigits (by decide) member
    exact bne_iff_ne.2 (Nat.digitChar_ne '\x7d' (by decide))
  have digits : (Nat.toDigits 16 c.toNat ++ '\x7d' :: rest).takeWhile (· != '\x7d')
      = Nat.toDigits 16 c.toNat :=
    takeWhile_append_of_head inside (by simp)
  simp [first?, digits, hexNumber?_toDigits, Char.ofNat_toNat]

/-- A character is read off its escape. -/
theorem first?_escape (c : Char) (rest : List Char) :
    first? (escape c ++ rest) = some (c, rest) := by
  unfold escape
  split_ifs with quote backslash nul tab feed carriage plain
  · simp [first?, short?, quote]
  · simp [first?, short?, backslash]
  · simp [first?, short?, nul]
  · simp [first?, short?, tab]
  · simp [first?, short?, feed]
  · simp [first?, short?, carriage]
  · simp [first?, backslash]
  · exact first?_code c rest

/-- An escape keeps to its line. -/
theorem lineFeed_notMem_escape (c : Char) : '\n' ∉ escape c := by
  unfold escape
  split_ifs with quote backslash nul tab feed carriage plain
  · decide
  · decide
  · decide
  · decide
  · decide
  · decide
  · simpa using Ne.symm feed
  · intro member
    simp only [List.mem_append, List.mem_cons, List.not_mem_nil] at member
    obtain (named | digit) | closing := member
    · simp at named
    · obtain ⟨n, same⟩ := exists_of_mem_toDigits (by decide) digit
      exact Nat.digitChar_ne '\n' (by decide) same.symm
    · simp at closing

/-! ### Texts -/

/-- Texts with the same escapes are the same. -/
theorem flatMap_escape_injective : Function.Injective (List.flatMap escape) := by
  intro text
  induction text with
  | nil =>
      rintro (_ | ⟨d, other⟩) same
      · rfl
      · have read := first?_escape d (other.flatMap escape)
        rw [← List.flatMap_cons, ← same] at read
        cases read
  | cons c text ih =>
      rintro (_ | ⟨d, other⟩) same
      · have read := first?_escape c (text.flatMap escape)
        rw [← List.flatMap_cons, same] at read
        cases read
      · have read := first?_escape d (other.flatMap escape)
        rw [← List.flatMap_cons, ← same, List.flatMap_cons, first?_escape] at read
        obtain ⟨rfl, rest⟩ := Prod.mk.inj (Option.some.inj read)
        rw [ih rest]

/-- Texts with the same quoted form are the same. -/
theorem encode_injective : Function.Injective encode := fun _ _ same =>
  flatMap_escape_injective (List.append_cancel_right (List.cons_inj_right '"' |>.1 same))

/-- A quoted text has no line break. -/
theorem lineFeed_notMem_encode (text : List Char) : '\n' ∉ encode text := by
  have kept : ∀ c ∈ text, '\n' ∉ escape c := fun c _ => lineFeed_notMem_escape c
  simpa [encode] using kept

end LiquidTokens.Text.Quoted
