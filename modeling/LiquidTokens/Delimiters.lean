import LiquidTokens.SetupError

/-!
Delimiters: the four texts that open and close the tags and the output statements of a
template. They are compared and matched literally.

Main statement: `validate_eq_ok_iff` (delimiters are usable exactly when none of them is
empty).
-/

namespace LiquidTokens

/-- The delimiters of a template. -/
structure Delimiters where
  tagStart : String := "\x7b%"
  tagEnd : String := "%\x7d"
  statementStart : String := "\x7b\x7b"
  statementEnd : String := "\x7d\x7d"
  deriving DecidableEq, Repr

namespace Delimiters

/-- The delimiters of standard templates. -/
def standard : Delimiters :=
  { }

/-- Other delimiters for tags. -/
def withTag (delimiters : Delimiters) (start stop : String) : Delimiters :=
  { delimiters with tagStart := start, tagEnd := stop }

/-- Other delimiters for output statements. -/
def withStatement (delimiters : Delimiters) (start stop : String) : Delimiters :=
  { delimiters with statementStart := start, statementEnd := stop }

/-- The delimiter in a place. -/
def get (delimiters : Delimiters) : DelimiterRole → String
  | .tagStart => delimiters.tagStart
  | .tagEnd => delimiters.tagEnd
  | .statementStart => delimiters.statementStart
  | .statementEnd => delimiters.statementEnd

/-- The first place, in the order of the fields, whose delimiter is empty. -/
def firstEmpty? (delimiters : Delimiters) : Option DelimiterRole :=
  [.tagStart, .tagEnd, .statementStart, .statementEnd].find? fun role =>
    delimiters.get role == ""

/-- No delimiter may be empty. -/
def validate (delimiters : Delimiters) : Except SetupError Unit :=
  match delimiters.firstEmpty? with
  | some role => .error (.emptyDelimiter role)
  | none => .ok ()

/-- Delimiters are usable exactly when none of them is empty. -/
theorem validate_eq_ok_iff {delimiters : Delimiters} :
    delimiters.validate = .ok () ↔ ∀ role, delimiters.get role ≠ "" := by
  have empty : delimiters.firstEmpty? = none ↔ ∀ role, delimiters.get role ≠ "" := by
    simp only [firstEmpty?, List.find?_eq_none, beq_iff_eq]
    exact ⟨fun none role => none role (by cases role <;> simp), fun all role _ => all role⟩
  rw [← empty, validate]
  cases delimiters.firstEmpty? <;> simp

end Delimiters

end LiquidTokens
