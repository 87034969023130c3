import LiquidTokens.Expression.Form
import LiquidTokens.Proofs.Pattern.Passing
import LiquidTokens.Proofs.Text.Runs

/-!
What the patterns of expressions read, said without patterns.

A reader looks at the beginning of a text and cuts a part off, or finds nothing. Every pattern of
the standard forms is put together from a few pieces, and at each of these it goes on in one way
only: runs of digits, blanks and quoted characters are followed by what cannot begin with another
such character, so they are taken as a whole. What a piece hands on to the rest of a match is
therefore what its reader cuts off.

Main statements: `run_numeral` (a piece of a pattern goes on behind what its reader reads), and
`follows_eitherQuoted`, `follows_index` and `follows_bracketed` for the patterns that remember a
part of what they read.
-/

namespace LiquidTokens.Expression

open Pattern
open Text (byteLength dropWhile_append_of_head isBlank isDigit takeWhile_append_of_head)

/-! ### Readers -/

/-- What follows a character, if the text begins with it. -/
def past? (c : Char) : List Char → Option (List Char)
  | [] => none
  | d :: rest => if d = c then some rest else none

/-- A first character of one sort and all of another that follow, with what is left. -/
def leading? (first more : Char → Bool) : List Char → Option (List Char × List Char)
  | [] => none
  | c :: rest => if first c then some (c :: rest.takeWhile more, rest.dropWhile more) else none

/-- All digits at the start, at least one. -/
def digits? : List Char → Option (List Char × List Char) :=
  leading? isDigit isDigit

/-- All digits at the start, behind a hyphen if numbers may be signed. -/
def numeral? (signed : Bool) (text : List Char) : Option (List Char × List Char) :=
  match if signed then past? '-' text else none with
  | some rest => (digits? rest).map fun (digits, left) => ('-' :: digits, left)
  | none => digits? text

/-- The text between two quotes of one sort, and what is left behind them. -/
def quotedBy? (quote : Char) (text : List Char) : Option (List Char × List Char) :=
  (past? quote text).bind fun rest =>
    (past? quote (rest.dropWhile (· != quote))).map (rest.takeWhile (· != quote), ·)

/-- What a reader cuts off the beginning of a text. -/
structure Cut where
  /-- The part that counts, without quotes and brackets. -/
  value : List Char
  read : List Char
  left : List Char
  deriving DecidableEq, Repr

/-- All that has been read counts. -/
def Cut.whole : List Char × List Char → Cut
  | (read, left) => ⟨read, read, left⟩

/-- What stands between two quotes counts. -/
def Cut.between (quote : Char) : List Char × List Char → Cut
  | (inner, left) => ⟨inner, quote :: inner ++ [quote], left⟩

/-- A text between double or single quotes. -/
def quoted? (text : List Char) : Option Cut :=
  ((quotedBy? '"' text).map (Cut.between '"')).or ((quotedBy? '\'' text).map (Cut.between '\''))

/-- What stands between brackets and the blanks inside them. -/
def bracketed? (inner? : List Char → Option Cut) (text : List Char) : Option Cut :=
  (past? '[' text).bind fun rest =>
    (inner? (rest.dropWhile isBlank)).bind fun inner =>
      (past? ']' (inner.left.dropWhile isBlank)).map fun left =>
        ⟨inner.value, '[' :: rest.takeWhile isBlank ++ inner.read
          ++ (inner.left.takeWhile isBlank ++ [']']), left⟩

/-! ### What readers cut off -/

section Cuts

variable {text read left : List Char}

theorem past?_eq_some_iff {c : Char} : past? c text = some left ↔ text = c :: left := by
  cases text with
  | nil => simp [past?]
  | cons d rest => by_cases same : d = c <;> simp [past?, same]

theorem head?_dropWhile {α : Type} (p : α → Bool) (list : List α) :
    ∀ a ∈ (list.dropWhile p).head?, p a = false := by
  intro a first
  have stops := List.head?_dropWhile_not p list
  rw [first] at stops
  simpa using stops

theorem leading?_eq_some_iff {first more : Char → Bool} :
    leading? first more text = some (read, left) ↔ ∃ c rest, read = c :: rest ∧ text = read ++ left
      ∧ first c = true ∧ (∀ d ∈ rest, more d = true) ∧ ∀ d ∈ left.head?, more d = false := by
  constructor
  · intro found
    cases text with
    | nil => cases found
    | cons c rest =>
        by_cases member : first c = true
        · rw [leading?, if_pos member] at found
          cases found
          exact ⟨c, _, rfl, by simp, member, fun d inside => List.mem_takeWhile_imp inside,
            head?_dropWhile more rest⟩
        · rw [leading?, if_neg member] at found
          cases found
  · rintro ⟨c, rest, rfl, rfl, member, inside, ends⟩
    rw [List.cons_append, leading?, if_pos member, takeWhile_append_of_head inside ends,
      dropWhile_append_of_head inside ends]

/-- A number is all digits but for a hyphen that may stand before them. -/
structure IsNumeral (signed : Bool) (number : List Char) : Prop where
  split : ∃ front digits, number = front ++ digits ∧ (front = [] ∨ signed = true ∧ front = ['-'])
    ∧ digits ≠ [] ∧ ∀ d ∈ digits, isDigit d = true

theorem isDigit_hyphen : isDigit '-' = false := by
  decide

theorem digits?_eq_some_iff : digits? text = some (read, left) ↔ text = read ++ left ∧ read ≠ []
    ∧ (∀ d ∈ read, isDigit d = true) ∧ ∀ d ∈ left.head?, isDigit d = false := by
  rw [digits?, leading?_eq_some_iff]
  constructor
  · rintro ⟨c, rest, rfl, split, first, inside, ends⟩
    exact ⟨split, by simp, List.forall_mem_cons.2 ⟨first, inside⟩, ends⟩
  · rintro ⟨split, nonempty, inside, ends⟩
    obtain ⟨c, rest, rfl⟩ := List.exists_cons_of_ne_nil nonempty
    obtain ⟨first, inside⟩ := List.forall_mem_cons.1 inside
    exact ⟨c, rest, rfl, split, first, inside, ends⟩

theorem digits?_hyphen (rest : List Char) : digits? ('-' :: rest) = none := by
  rw [digits?, leading?, if_neg]
  simp [isDigit_hyphen]

theorem numeral?_eq_some_iff {signed : Bool} : numeral? signed text = some (read, left)
    ↔ text = read ++ left ∧ IsNumeral signed read ∧ ∀ d ∈ left.head?, isDigit d = false := by
  constructor
  · intro found
    unfold numeral? at found
    split at found
    · next rest sign =>
        split at sign
        · next signs =>
            obtain ⟨⟨digits, behind⟩, counted, same⟩ := Option.map_eq_some_iff.1 found
            cases same
            obtain ⟨rfl, nonempty, inside, ends⟩ := digits?_eq_some_iff.1 counted
            exact ⟨past?_eq_some_iff.1 sign,
              ⟨['-'], digits, rfl, .inr ⟨signs, rfl⟩, nonempty, inside⟩, ends⟩
        · cases sign
    · obtain ⟨split, nonempty, inside, ends⟩ := digits?_eq_some_iff.1 found
      exact ⟨split, ⟨[], read, rfl, .inl rfl, nonempty, inside⟩, ends⟩
  · rintro ⟨rfl, ⟨front, digits, rfl, sign, nonempty, inside⟩, ends⟩
    have counted : digits? (digits ++ left) = some (digits, left) :=
      digits?_eq_some_iff.2 ⟨rfl, nonempty, inside, ends⟩
    rcases sign with rfl | ⟨rfl, rfl⟩
    · have unsigned : past? '-' (digits ++ left) = none := by
        obtain ⟨d, digits, rfl⟩ := List.exists_cons_of_ne_nil nonempty
        have other : d ≠ '-' := by
          rintro rfl
          exact absurd (inside '-' List.mem_cons_self) (by simp [isDigit_hyphen])
        simp [past?, other]
      simp [numeral?, unsigned, counted]
    · simp [numeral?, past?, counted]

theorem quotedBy?_eq_some_iff {quote : Char} : quotedBy? quote text = some (read, left)
    ↔ text = quote :: read ++ quote :: left ∧ quote ∉ read := by
  constructor
  · intro found
    obtain ⟨rest, opened, found⟩ := Option.bind_eq_some_iff.1 found
    obtain ⟨behind, closed, same⟩ := Option.map_eq_some_iff.1 found
    cases same
    rw [past?_eq_some_iff] at opened closed
    refine ⟨?_, fun member => by simpa using List.mem_takeWhile_imp member⟩
    rw [opened, List.cons_append, ← closed, List.takeWhile_append_dropWhile]
  · rintro ⟨rfl, outside⟩
    have inside : ∀ c ∈ read, (c != quote) = true := fun c member => by
      rw [bne_iff_ne]
      rintro rfl
      exact outside member
    have ends : ∀ c ∈ (quote :: left).head?, (c != quote) = false := by simp
    rw [quotedBy?, List.cons_append, past?_eq_some_iff.2 rfl, Option.bind_some,
      takeWhile_append_of_head inside ends, dropWhile_append_of_head inside ends,
      past?_eq_some_iff.2 rfl, Option.map_some]

theorem quoted?_eq_some_iff {cut : Cut} : quoted? text = some cut
    ↔ ∃ quote, (quote = '"' ∨ quote = '\'') ∧ cut.read = quote :: cut.value ++ [quote]
      ∧ text = cut.read ++ cut.left ∧ quote ∉ cut.value := by
  simp only [quoted?, Option.or_eq_some_iff, Option.map_eq_some_iff, Option.map_eq_none_iff]
  constructor
  · rintro (⟨⟨inner, behind⟩, found, rfl⟩ | ⟨-, ⟨inner, behind⟩, found, rfl⟩)
    · obtain ⟨split, outside⟩ := quotedBy?_eq_some_iff.1 found
      exact ⟨'"', .inl rfl, rfl, by simp [split, Cut.between], outside⟩
    · obtain ⟨split, outside⟩ := quotedBy?_eq_some_iff.1 found
      exact ⟨'\'', .inr rfl, rfl, by simp [split, Cut.between], outside⟩
  · obtain ⟨value, read, left⟩ := cut
    rintro ⟨quote, mark, whole, split, outside⟩
    obtain rfl : read = quote :: value ++ [quote] := whole
    obtain rfl : text = quote :: value ++ [quote] ++ left := split
    have found : quotedBy? quote (quote :: value ++ [quote] ++ left) = some (value, left) :=
      quotedBy?_eq_some_iff.2 ⟨by simp, outside⟩
    rcases mark with rfl | rfl
    · exact .inl ⟨(value, left), found, rfl⟩
    · exact .inr ⟨by simp [quotedBy?, past?], (value, left), found, rfl⟩

/-- A reader that cuts off a part beginning with something visible. -/
structure Visible (inner? : List Char → Option Cut) : Prop where
  split : ∀ {text cut}, inner? text = some cut → text = cut.read ++ cut.left
  head : ∀ {text cut}, inner? text = some cut → ∀ c ∈ text.head?, isBlank c = false

theorem bracketed?_eq_some_iff {inner? : List Char → Option Cut} (visible : Visible inner?)
    {cut : Cut} :
    bracketed? inner? text = some cut
      ↔ ∃ before inner after, cut.read = '[' :: before ++ inner ++ (after ++ [']'])
        ∧ text = cut.read ++ cut.left ∧ (∀ c ∈ before ++ after, isBlank c = true)
        ∧ inner? (inner ++ (after ++ ']' :: cut.left))
            = some ⟨cut.value, inner, after ++ ']' :: cut.left⟩ := by
  constructor
  · intro found
    obtain ⟨rest, opened, found⟩ := Option.bind_eq_some_iff.1 found
    obtain ⟨⟨value, inner, behind⟩, inside, found⟩ := Option.bind_eq_some_iff.1 found
    obtain ⟨left, closed, rfl⟩ := Option.map_eq_some_iff.1 found
    rw [past?_eq_some_iff] at opened closed
    have behind_eq : behind.takeWhile isBlank ++ ']' :: left = behind := by
      rw [← closed, List.takeWhile_append_dropWhile]
    have rest_eq : rest.takeWhile isBlank ++ (inner ++ behind) = rest := by
      rw [← visible.split inside, List.takeWhile_append_dropWhile]
    refine ⟨rest.takeWhile isBlank, inner, behind.takeWhile isBlank, rfl, ?_, ?_, ?_⟩
    · simp [opened, behind_eq, rest_eq]
    · rw [List.forall_mem_append]
      exact ⟨fun c => List.mem_takeWhile_imp, fun c => List.mem_takeWhile_imp⟩
    · rw [behind_eq]
      exact (congrArg inner? (visible.split inside)).symm.trans inside
  · obtain ⟨value, read, left⟩ := cut
    rintro ⟨before, inner, after, rfl, rfl, blanks, inside⟩
    obtain ⟨leading, trailing⟩ := List.forall_mem_append.1 blanks
    have start : ∀ c ∈ (inner ++ (after ++ ']' :: left)).head?, isBlank c = false :=
      visible.head inside
    have stop : ∀ c ∈ (']' :: left).head?, isBlank c = false := by
      rintro _ ⟨⟩
      decide
    have joined : '[' :: before ++ inner ++ (after ++ [']']) ++ left
        = '[' :: (before ++ (inner ++ (after ++ ']' :: left))) := by simp
    rw [joined, bracketed?, past?_eq_some_iff.2 rfl, Option.bind_some,
      dropWhile_append_of_head leading start, inside, Option.bind_some]
    simp only [dropWhile_append_of_head trailing stop, takeWhile_append_of_head trailing stop,
      takeWhile_append_of_head leading start, past?_eq_some_iff.2 rfl, Option.map_some]

end Cuts

/-! ### What patterns hand on -/

/-- Digits, as many as there are, at least one. -/
def digitRun : Pattern :=
  times 1 none true (one .digit)

/-- A hyphen that may stand before a number. -/
def sign : Pattern :=
  times 0 (some 1) true (text ['-'])

/-- A text between two quotes, which is remembered. -/
def quotedPart (quote : Char) (index : Nat) (name : String) : Pattern :=
  seq (text [quote]) (seq (group index (some name) (greedyRun (.compl (.single quote))))
    (text [quote]))

/-- A text between double or single quotes. -/
def eitherQuoted (double single : String) : Pattern :=
  alt (quotedPart '"' 1 double) (quotedPart '\'' 2 single)

/-- Blanks and the bracket behind them. -/
def closing : Pattern :=
  seq (greedyRun .blank) (text [']'])

/-- A pattern between brackets, with blanks inside them. -/
def bracketed (inner : Pattern) : Pattern :=
  seq (text ['[']) (seq (greedyRun .blank) (seq inner closing))

section Runs

variable {α : Type} {place : Place} {next : Place → Option α}

theorem run_letter (c : Char) (place : Place) (next : Place → Option α) :
    (text [c]).run place next
      = (past? c place.rest).bind fun rest => next (place.pass [c] rest) := by
  simp only [run, Place.pastText?, Place.past_eq_pass]
  cases place.rest with
  | nil => rfl
  | cons d rest => by_cases same : d = c <;> simp [past?, same]

/-- A match that goes on with a character outside a set takes all of the set before it. -/
theorem takesAll_of_letter {set : CharSet} (inhabited : set ≠ .none) {c : Char}
    (outside : set.contains c = false) {onward : Place → Place} {next : Place → Option α}
    (stays : ∀ reached, (onward reached).rest = reached.rest) :
    TakesAll set place fun reached => (text [c]).run (onward reached) next := by
  refine takesAll_of_halts inhabited fun u d v _ _ member => ?_
  have other : d ≠ c := by
    rintro rfl
    rw [outside] at member
    cases member
  simp [run_letter, stays, past?, other]

theorem run_oneThenMore {first more : CharSet} (takes : ∀ c rest, place.rest = c :: rest →
      first.contains c = true → TakesAll more (place.pass [c] rest) next) :
    (seq (one first) (greedyRun more)).run place next
      = (leading? first.contains more.contains place.rest).bind fun cut =>
          next (place.pass cut.1 cut.2) := by
  rw [run_seq, run_one]
  cases split : place.rest with
  | nil => rfl
  | cons c rest =>
      by_cases member : first.contains c = true
      · have whole := takes c rest split member
        rw [TakesAll, Place.pass_rest, Place.pass_singleton_pass] at whole
        simp [leading?, member, whole]
      · simp [leading?, member]

theorem run_oneOrMore_one {set : CharSet} (inhabited : set ≠ .none) (place : Place)
    (next : Place → Option α) :
    (times 1 none true (one set)).run place next
      = (seq (one set) (greedyRun set)).run place next := by
  have simple : (one set).isSimple = true := by
    simp [isSimple, isFlat, alwaysReads, isNullable, hasFail, inhabited]
  rw [run_oneOrMore simple, run_seq, greedyRun]

theorem run_digitRun (takes : ∀ d rest, place.rest = d :: rest → isDigit d = true →
      TakesAll .digit (place.pass [d] rest) next) :
    digitRun.run place next
      = (digits? place.rest).bind fun cut => next (place.pass cut.1 cut.2) := by
  rw [digitRun, run_oneOrMore_one (by decide)]
  exact run_oneThenMore takes

theorem run_sign (place : Place) (next : Place → Option α) :
    sign.run place next
      = ((past? '-' place.rest).bind fun rest => next (place.pass ['-'] rest)).or (next place) := by
  rw [sign, run_optional (by decide), run_letter]

theorem run_numeral (takes : ∀ front d rest, place.rest = front ++ d :: rest → isDigit d = true →
      TakesAll .digit (place.pass (front ++ [d]) rest) next) :
    (seq sign digitRun).run place next
      = (numeral? true place.rest).bind fun cut => next (place.pass cut.1 cut.2) := by
  have unsigned : digitRun.run place next
      = (digits? place.rest).bind fun cut => next (place.pass cut.1 cut.2) :=
    run_digitRun (takes [])
  rw [run_seq, run_sign, unsigned, numeral?]
  cases signed : past? '-' place.rest with
  | none => simp
  | some rest =>
      have split := past?_eq_some_iff.1 signed
      have after : digitRun.run (place.pass ['-'] rest) next
          = (digits? rest).bind fun cut => next (place.pass ('-' :: cut.1) cut.2) := by
        rw [run_digitRun]
        · simp
        · intro d more later digit
          rw [Place.pass_rest] at later
          rw [Place.pass_singleton_pass]
          exact takes ['-'] d more (by rw [split, later]; rfl) digit
      rw [Option.bind_some, after, split, digits?_hyphen, Option.bind_none, Option.or_none,
        if_pos rfl, Option.bind_map]
      rfl

theorem run_quotedPart (quote : Char) (index : Nat) (name : String) (place : Place)
    (next : Place → Option α) :
    (quotedPart quote index name).run place next
      = (quotedBy? quote place.rest).bind fun cut =>
          next (((place.pass (quote :: cut.1) (quote :: cut.2)).close index name
            (place.offset + byteLength [quote])).pass [quote] cut.2) := by
  have takes (place : Place) (opened : Nat) : TakesAll (.compl (.single quote)) place
      fun reached => (text [quote]).run (reached.close index name opened) next :=
    takesAll_of_letter (by simp) (by simp [CharSet.contains]) fun reached => rfl
  rw [quotedPart, run_seq, run_letter, quotedBy?, Option.bind_assoc]
  congr 1
  funext rest
  rw [run_seq, run_group, takes]
  simp only [run_letter, Place.close_rest, Place.pass_rest, Place.pass_singleton_pass]
  rw [Option.bind_map]
  rfl

theorem run_closing (place : Place) (next : Place → Option α) :
    closing.run place next
      = (past? ']' (place.rest.dropWhile isBlank)).bind fun left =>
          next (place.pass (place.rest.takeWhile isBlank ++ [']']) left) := by
  have takes : TakesAll .blank place fun reached => (text [']']).run reached next :=
    takesAll_of_letter (by simp) (by decide) fun reached => rfl
  rw [closing, run_seq]
  refine takes.trans ?_
  simp only [run_letter, Place.pass_rest, Place.pass_pass]
  rfl

theorem run_bracketed {inner : Pattern} (halts : ∀ place c rest, place.rest = c :: rest →
      isBlank c = true → inner.run place (closing.run · next) = (none : Option α)) (place : Place) :
    (bracketed inner).run place next
      = (past? '[' place.rest).bind fun rest =>
          inner.run (place.pass ('[' :: rest.takeWhile isBlank) (rest.dropWhile isBlank))
            (closing.run · next) := by
  have takes (place : Place) : TakesAll .blank place fun reached =>
      inner.run reached (closing.run · next) :=
    takesAll_of_halts (by simp) fun u c v _ _ member => halts _ c v rfl member
  rw [bracketed, run_seq, run_letter]
  congr 1
  funext rest
  rw [run_seq]
  refine (takes _).trans ?_
  rw [Place.pass_singleton_pass]
  rfl

/-! ### Patterns that remember a part -/

/-- A place behind some text, of which a part is remembered by name. -/
structure Behind (name : String) (place : Place) (front inner back left : List Char)
    (reached : Place) : Prop where
  rest : reached.rest = left
  offset : reached.offset = place.offset + byteLength (front ++ inner ++ back)
  captures : ∃ index, reached.captures = ⟨index, some name, ⟨place.offset + byteLength front,
    place.offset + byteLength front + byteLength inner⟩⟩ :: place.captures

/-- A pattern goes on behind what a reader cuts off, and remembers the part of it that counts by
one of some names. -/
structure Follows (names : List String) (reader : List Char → Option Cut) (pattern : Pattern)
    (place : Place) (next : Place → Option α) : Prop where
  fails : reader place.rest = none → pattern.run place next = none
  reaches : ∀ {cut}, reader place.rest = some cut → ∃ name ∈ names, ∃ front back reached,
    cut.read = front ++ cut.value ++ back ∧ Behind name place front cut.value back cut.left reached
      ∧ pattern.run place next = next reached

theorem behind_quotedPart (quote : Char) (index : Nat) (name : String) (place : Place)
    (inner left : List Char) :
    Behind name place [quote] inner [quote] left
      (((place.pass (quote :: inner) (quote :: left)).close index name
        (place.offset + byteLength [quote])).pass [quote] left) where
  rest := rfl
  offset := by simp [Nat.add_assoc]
  captures := ⟨index, by simp [Nat.add_assoc]⟩

/-- The text begins with one quote or with the other, so there is no choice. -/
theorem follows_eitherQuoted (double single : String) (place : Place)
    (next : Place → Option α) :
    Follows [double, single] quoted? (eitherQuoted double single) place next where
  fails := by
    intro none
    obtain ⟨noDouble, noSingle⟩ := Option.or_eq_none_iff.1 none
    rw [Option.map_eq_none_iff] at noDouble noSingle
    simp [eitherQuoted, run_quotedPart, noDouble, noSingle]
  reaches := by
    intro cut found
    rw [eitherQuoted, run_alt, run_quotedPart, run_quotedPart]
    rcases Option.or_eq_some_iff.1 found with inDouble | ⟨noDouble, inSingle⟩
    · obtain ⟨⟨inner, left⟩, quoted, rfl⟩ := Option.map_eq_some_iff.1 inDouble
      have other : quotedBy? '\'' place.rest = none := by
        rw [(quotedBy?_eq_some_iff.1 quoted).1]
        simp [quotedBy?, past?]
      refine ⟨double, by simp, ['"'], ['"'], _, rfl,
        behind_quotedPart '"' 1 double place inner left, ?_⟩
      simp [quoted, other]
    · obtain ⟨⟨inner, left⟩, quoted, rfl⟩ := Option.map_eq_some_iff.1 inSingle
      rw [Option.map_eq_none_iff] at noDouble
      refine ⟨single, by simp, ['\''], ['\''], _, rfl,
        behind_quotedPart '\'' 2 single place inner left, ?_⟩
      simp [quoted, noDouble]

theorem isBlank_of_isDigit {c : Char} (digit : isDigit c = true) : isBlank c = false := by
  rw [← Bool.not_eq_true, Text.isBlank_iff]
  intro blank
  have other : ∀ d ∈ Text.blanks, isDigit d = false := by decide
  rw [other c blank] at digit
  cases digit

/-- Brackets close behind a number only where no further digit follows. -/
theorem follows_index (name : String) (place : Place) (next : Place → Option α) :
    Follows [name] (fun text => (numeral? true text).map .whole)
      (group 1 (some name) (seq sign digitRun)) place (closing.run · next) := by
  have counted : (group 1 (some name) (seq sign digitRun)).run place (closing.run · next)
      = (numeral? true place.rest).bind fun cut =>
          closing.run ((place.pass cut.1 cut.2).close 1 name place.offset) next := by
    rw [run_group]
    refine run_numeral fun front d rest _ _ => ?_
    refine takesAll_of_halts (by decide) fun u c v _ _ digit => ?_
    have other : c ≠ ']' := by
      rintro rfl
      exact absurd digit (by decide)
    rw [run_closing, Place.close_rest, Place.pass_rest,
      List.dropWhile_cons_of_neg (by simpa using isBlank_of_isDigit digit), past?, if_neg other]
    rfl
  constructor
  · intro none
    rw [counted, Option.map_eq_none_iff.1 none]
    rfl
  · intro cut found
    obtain ⟨⟨number, left⟩, numbered, rfl⟩ := Option.map_eq_some_iff.1 found
    rw [counted, numbered]
    exact ⟨name, List.mem_singleton_self name, [], [], _, (List.append_nil number).symm,
      ⟨rfl, by simp [Cut.whole], 1, by simp [Cut.whole]⟩, rfl⟩

theorem follows_bracketed {names : List String} {inner : Pattern}
    {inner? : List Char → Option Cut} (visible : Visible inner?)
    (follows : ∀ place, Follows names inner? inner place (closing.run · next)) (place : Place) :
    Follows names (bracketed? inner?) (bracketed inner) place next := by
  have halts (place : Place) (c : Char) (rest : List Char) (split : place.rest = c :: rest)
      (blank : isBlank c = true) : inner.run place (closing.run · next) = none := by
    refine (follows place).fails ?_
    rw [Option.eq_none_iff_forall_ne_some]
    intro cut found
    have head := visible.head found c (by rw [split]; rfl)
    rw [blank] at head
    cases head
  constructor
  · intro none
    rw [run_bracketed halts]
    unfold bracketed? at none
    cases opened : past? '[' place.rest with
    | none => rfl
    | some rest =>
        rw [opened, Option.bind_some] at none
        have here := follows (place.pass ('[' :: rest.takeWhile isBlank) (rest.dropWhile isBlank))
        cases inside : inner? (rest.dropWhile isBlank) with
        | none => exact here.fails inside
        | some cut =>
            rw [inside, Option.bind_some, Option.map_eq_none_iff] at none
            obtain ⟨name, -, front, back, reached, -, behind, onward⟩ := here.reaches inside
            rw [Option.bind_some, onward, run_closing, behind.rest, none]
            rfl
  · intro cut found
    rw [run_bracketed halts]
    obtain ⟨rest, opened, enclosed⟩ := Option.bind_eq_some_iff.1 found
    obtain ⟨inner, inside, closed⟩ := Option.bind_eq_some_iff.1 enclosed
    obtain ⟨left, bracket, rfl⟩ := Option.map_eq_some_iff.1 closed
    have here := follows (place.pass ('[' :: rest.takeWhile isBlank) (rest.dropWhile isBlank))
    obtain ⟨name, known, front, back, reached, split, behind, onward⟩ := here.reaches inside
    obtain ⟨index, captures⟩ := behind.captures
    refine ⟨name, known, '[' :: rest.takeWhile isBlank ++ front,
      back ++ (inner.left.takeWhile isBlank ++ [']']),
      reached.pass (inner.left.takeWhile isBlank ++ [']']) left, ?_, ⟨rfl, ?_, index, ?_⟩, ?_⟩
    · simp [split]
    · simp [behind.offset, Nat.add_assoc]
    · simp [captures, Nat.add_assoc]
    · rw [opened, Option.bind_some, onward, run_closing, behind.rest, bracket, Option.bind_some]

end Runs

end LiquidTokens.Expression
