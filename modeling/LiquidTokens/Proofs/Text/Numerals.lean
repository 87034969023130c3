import Mathlib.Data.Nat.Digits.Lemmas

/-!
Numerals: what the digits of a number are, and that the number can be read off them.

Main statements: `toDigits_injective` and `hexNumber?_toDigits`.
-/

namespace LiquidTokens.Text

/-! ### Digits -/

/-- A numeral in any base is made of digits. -/
theorem exists_of_mem_toDigits {base n : Nat} {c : Char} (more : 1 < base)
    (member : c ∈ Nat.toDigits base n) : ∃ digit, c = Nat.digitChar digit := by
  induction n using Nat.strong_induction_on with
  | _ n ih =>
      rw [Nat.toDigits_eq_if more] at member
      split at member
      · exact ⟨n, List.mem_singleton.1 member⟩
      · next large =>
          rcases List.mem_append.1 member with front | last
          · exact ih (n / base) (Nat.div_lt_self (by omega) more) front
          · exact ⟨n % base, List.mem_singleton.1 last⟩

theorem isDigit_of_mem_toDigits {n : Nat} : ∀ c ∈ Nat.toDigits 10 n, c.isDigit = true :=
  fun _ => Nat.isDigit_of_mem_toDigits (by decide) (by decide)

theorem toDigits_injective : Function.Injective (Nat.toDigits 10) := fun m n same => by
  rw [← Nat.ofDigitChars_ten_toDigits (n := m), same, Nat.ofDigitChars_ten_toDigits]

/-! ### Hexadecimal numerals -/

/-- The value of a hexadecimal digit, its letter small or capital. -/
def hexDigit? (c : Char) : Option Nat :=
  if '0' ≤ c ∧ c ≤ '9' then some (c.toNat - '0'.toNat)
  else if 'a' ≤ c ∧ c ≤ 'f' then some (c.toNat - 'a'.toNat + 10)
  else if 'A' ≤ c ∧ c ≤ 'F' then some (c.toNat - 'A'.toNat + 10)
  else none

/-- The number that hexadecimal digits stand for. -/
def hexNumber? (digits : List Char) : Option Nat :=
  digits.foldlM (fun front c => (hexDigit? c).map (16 * front + ·)) 0

theorem hexDigit?_digitChar {n : Nat} (small : n < 16) : hexDigit? n.digitChar = some n := by
  revert n
  decide

theorem hexNumber?_singleton {n : Nat} (small : n < 16) :
    hexNumber? [n.digitChar] = some n := by
  simp [hexNumber?, hexDigit?_digitChar small]

/-- One digit more makes the number sixteen times as large, and adds its value. -/
theorem hexNumber?_append_digitChar {digits : List Char} {front n : Nat}
    (read : hexNumber? digits = some front) (small : n < 16) :
    hexNumber? (digits ++ [n.digitChar]) = some (16 * front + n) := by
  rw [hexNumber?] at read
  simp [hexNumber?, List.foldlM_append, read, hexDigit?_digitChar small]

/-- The digits of a number are read as the number. -/
theorem hexNumber?_toDigits (n : Nat) : hexNumber? (Nat.toDigits 16 n) = some n := by
  induction n using Nat.strong_induction_on with
  | _ n ih =>
      rcases Nat.lt_or_ge n 16 with small | large
      · rw [Nat.toDigits_of_lt_base small, hexNumber?_singleton small]
      · have front := ih (n / 16) (by omega)
        rw [Nat.toDigits_of_base_le (by decide) large,
          hexNumber?_append_digitChar front (by omega), Nat.div_add_mod]

end LiquidTokens.Text
