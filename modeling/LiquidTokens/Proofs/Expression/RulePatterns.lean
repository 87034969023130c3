import LiquidTokens.Proofs.Expression.Rules

/-!
The patterns of the standard forms and what they find.

The written patterns of all rules are read here (`Form.pattern`), and what each of them finds at
the start of a text is compared with what the reader of its rule cuts off.

Main statements: `Form.read?_rules` (the written patterns) and `finds_plain` (what the pattern of a
rule finds is what its reader cuts off, if all of it counts). Of the patterns that mark a part of
what they read, `find?_openFloat` has its own statement, and the others are put together from
`follows_eitherQuoted`, `follows_index` and `follows_bracketed`.
-/

namespace LiquidTokens.Expression

open Pattern
open Text (isDigit isWord)

/-! ### Patterns of rules -/

def letterSet : CharSet :=
  .union (.range 'a' 'z') (.range 'A' 'Z')

def nameMarkSet : CharSet :=
  .union (.union (.union letterSet (.range '0' '9')) (.single '_')) (.single '-')

def operatorSet : CharSet :=
  .union (.union (.union (.single '!') (.single '=')) (.single '<')) (.single '>')

namespace Form

def gapSet : Form → CharSet
  | .loop => .union (.union (.single ' ') (.single '\t')) (.single '\r')
  | _ => .union (.single ' ') (.single '\t')

def firstSet : Form → CharSet
  | .loop => .union letterSet (.single '_')
  | _ => .word

def laterSet : Form → CharSet
  | .loop => .union .word (.single '-')
  | .boolean | .inclusion => .union nameMarkSet (.single '?')
  | _ => nameMarkSet

theorem contains_gapSet (form : Form) : form.gapSet.contains = form.isGap := by
  cases form <;> funext c <;> simp [gapSet, isGap, signed, CharSet.contains]

theorem contains_firstSet (form : Form) : form.firstSet.contains = form.startsName := by
  cases form <;> rfl

theorem contains_laterSet (form : Form) : form.laterSet.contains = form.continuesName := by
  cases form <;> rfl

theorem sets_inhabited (form : Form) :
    form.gapSet ≠ .none ∧ form.firstSet ≠ .none ∧ form.laterSet ≠ .none := by
  cases form <;> decide

/-- The pattern that a rule of a form is written as. -/
def pattern (form : Form) : Rule → Pattern
  | .token .integer =>
      if form.signed then seq sign (seq digitRun (anchor .wordBoundary)) else digitRun
  | .token .float =>
      if form.signed then seq sign (seq digitRun (seq (text ['.']) digitRun))
      else seq digitRun (seq (text ['.']) (greedyRun .digit))
  | .token .string => eitherQuoted "dquoted" "squoted"
  | .token .identifier =>
      if form.signed then
        seq (one form.firstSet) (seq (greedyRun form.laterSet) (times 0 (some 1) true (text ['?'])))
      else seq (one form.firstSet) (greedyRun form.laterSet)
  | .token .identIndex => bracketed (group 1 (some "identindex") (seq sign digitRun))
  | .token kind => text kind.name.toList
  | .quotedSubscript => bracketed (eitherQuoted "identdq" "identsq")
  | .openFloat =>
      seq (group 1 (some "openfloat") (seq sign (seq digitRun (text ['.']))))
        (alt (one (.compl (.single '.'))) (anchor .textEnd))
  | .operator => times 1 (some 2) true (one operatorSet)
  | .newline => text ['\n']
  | .skip => times 1 none true (one form.gapSet)
  | .illegal => one .any

theorem read?_rules (form : Form) :
    ∀ entry ∈ form.rules, read? entry.2.toList = some (form.pattern entry.1) := by
  cases form <;> decide +kernel

end Form

/-! ### What patterns find -/

/-- What a pattern finds at the start of a text is what a reader cuts off. -/
def Finds (pattern : Pattern) (reader : List Char → Option (List Char × List Char)) : Prop :=
  ∀ text, pattern.find? text
    = (reader text).bind fun cut => some ((Place.start text).pass cut.1 cut.2)

section Finds

theorem total_some : Total (some : Place → Option Place) := by
  intro place
  simp

theorem takesAll_some {set : CharSet} (inhabited : set ≠ .none) (place : Place) :
    TakesAll set place some :=
  total_some.takesAll inhabited place

theorem finds_text (letters : List Char) : Finds (text letters) (beginning? letters) := by
  intro text
  cases dropped : text.dropPrefix? letters with
  | some left =>
      obtain ⟨front, split, same⟩ := List.dropPrefix?_eq_some_iff.1 dropped
      obtain rfl : front = letters := eq_of_beq same
      rw [beginning?, dropped]
      exact run_text_iff.2 ⟨left, split, rfl⟩
  | none =>
      rw [beginning?, dropped]
      refine run_text_none_iff.2 fun left split => ?_
      have found : text.dropPrefix? letters = some left :=
        List.dropPrefix?_eq_some_iff.2 ⟨letters, split, beq_self_eq_true letters⟩
      rw [dropped] at found
      cases found

theorem finds_one_any : Finds (one .any) (leading? (fun _ => true) fun _ => false) := by
  intro text
  rw [find?, run_one]
  cases text with
  | nil => rfl
  | cons c rest =>
      have none : rest.takeWhile (fun _ => false) = []
          ∧ rest.dropWhile (fun _ => false) = rest := by
        cases rest <;> exact ⟨rfl, rfl⟩
      simp [leading?, none, Place.start, CharSet.contains]

theorem finds_skip (form : Form) :
    Finds (form.pattern .skip) (leading? form.isGap form.isGap) := by
  intro text
  rw [Form.pattern, find?, run_oneOrMore_one form.sets_inhabited.1,
    run_oneThenMore fun c rest _ _ => takesAll_some form.sets_inhabited.1 _,
    Form.contains_gapSet]
  rfl

theorem run_onceOrTwice {α : Type} {body : Pattern} (simple : body.isSimple = true) (place : Place)
    (next : Place → Option α) :
    (times 1 (some 2) true body).run place next
      = body.run place fun reached => (body.run reached next).or (next reached) := by
  simp only [run, simple, if_true, Matcher.exactly, Matcher.upTo, Matcher.prefer]
  congr 1
  funext reached
  cases body.run reached next <;> rfl

theorem finds_operator (form : Form) : Finds (form.pattern .operator) operator? := by
  have members : operatorSet.contains = isOperatorMark := rfl
  intro text
  rw [Form.pattern, find?, run_onceOrTwice (by decide), run_one, members]
  cases text with
  | nil => rfl
  | cons c rest =>
      by_cases first : isOperatorMark c = true
      · simp only [Place.start, first, if_true, run_one, members, Place.pass_rest]
        cases rest with
        | nil => simp [operator?, first]
        | cons d left =>
            by_cases second : isOperatorMark d = true <;> simp [operator?, first, second]
      · simp [operator?, first, Place.start]

theorem finds_name (form : Form) : Finds (form.pattern (.token .identifier)) form.name? := by
  intro text
  obtain ⟨-, -, inhabited⟩ := form.sets_inhabited
  rw [Form.pattern, find?]
  split
  · next loop =>
      have optional (reached : Place) :
          (times 0 (some 1) true (Pattern.text ['?'])).run reached some
            = ((past? '?' reached.rest).map (reached.pass ['?'])).or (some reached) := by
        rw [run_optional (by decide), run_letter, Option.map_eq_bind]
        rfl
      have total : Total fun reached : Place =>
          (times 0 (some 1) true (Pattern.text ['?'])).run reached some := by
        intro place
        simp [optional]
      refine (run_oneThenMore fun c rest _ _ => total.takesAll inhabited _).trans ?_
      rw [Form.contains_firstSet, Form.contains_laterSet, Form.name?, Option.bind_map]
      congr 1
      funext cut
      simp only [optional, Place.pass_rest, loop, if_true, Function.comp_apply]
      cases past? '?' cut.2 with
      | none => rfl
      | some left => simp [Place.pass_pass]
  · next unsigned =>
      rw [run_oneThenMore fun c rest _ _ => takesAll_some inhabited _, Form.contains_firstSet,
        Form.contains_laterSet, Form.name?, Option.bind_map]
      simp only [unsigned, Bool.false_eq_true, if_false]
      rfl

theorem numeral?_unsigned : numeral? false = digits? :=
  rfl

theorem any_getLast?_append {p : Char → Bool} (front : List Char) {back : List Char}
    (nonempty : back ≠ []) (inside : ∀ c ∈ back, p c = true) :
    (front ++ back).getLast?.any p = true := by
  rw [List.getLast?_append, List.getLast?_eq_some_getLast nonempty, Option.some_or, Option.any_some]
  exact inside _ (List.getLast_mem nonempty)

/-- The last character of a number belongs to a word. -/
theorem isWord_getLast?_numeral {signed : Bool} {text number left : List Char}
    (found : numeral? signed text = some (number, left)) :
    number.getLast?.any isWord = true := by
  obtain ⟨-, ⟨front, digits, rfl, -, nonempty, inside⟩, -⟩ := numeral?_eq_some_iff.1 found
  exact any_getLast?_append front nonempty fun c member => Text.isWord_of_isDigit (inside c member)

/-- Behind a character of a word, a word ends where no other such character follows. -/
theorem run_wordBoundary {place : Place} {read left : List Char}
    (word : read.getLast?.any isWord = true) :
    (anchor .wordBoundary).run (place.pass read left) some
      = if left.head?.any isWord then none else some (place.pass read left) := by
  have before : (place.pass read left).before.any isWord = true := by
    rw [Place.pass]
    cases last : read.getLast? with
    | none => simp [last] at word
    | some c => rwa [last] at word
  simp only [run, Anchor.holds, before, Place.pass_rest]
  cases left.head?.any isWord <;> rfl

theorem finds_integer (form : Form) : Finds (form.pattern (.token .integer)) form.integer? := by
  intro text
  rw [Form.pattern, find?]
  split
  · next loop =>
      refine (run_numeral fun front d rest split digit => ?_).trans ?_
      · refine takesAll_of_halts (by decide) fun u c v _ digits member => ?_
        have word : (front ++ ([d] ++ u)).getLast?.any isWord = true := by
          have inside : ∀ e ∈ [d] ++ u, isDigit e = true := List.forall_mem_cons.2 ⟨digit, digits⟩
          exact any_getLast?_append front (by simp) fun e member =>
            Text.isWord_of_isDigit (inside e member)
        rw [Place.pass_pass, List.append_assoc, run_wordBoundary word, List.head?_cons,
          Option.any_some, if_pos (Text.isWord_of_isDigit member)]
      · rw [Form.integer?, loop, Option.bind_assoc]
        refine Option.bind_congr fun cut found => ?_
        rw [run_wordBoundary (isWord_getLast?_numeral found)]
        cases ends : cut.2.head?.any isWord <;> simp [ends]
  · next unsigned =>
      rw [run_digitRun fun d rest _ _ => takesAll_some (by decide) _, Form.integer?,
        Bool.eq_false_iff.2 unsigned, numeral?_unsigned, Option.bind_assoc]
      rfl

theorem finds_float (form : Form) : Finds (form.pattern (.token .float)) form.float? := by
  intro text
  rw [Form.pattern, find?]
  split
  · next loop =>
      refine (run_numeral fun front d rest split digit => ?_).trans ?_
      · exact takesAll_of_letter (by decide) (by decide) fun reached => rfl
      · rw [Form.float?, loop, Option.bind_assoc]
        congr 1
        funext cut
        rw [run_seq, run_letter, Option.bind_assoc]
        congr 1
        funext rest
        rw [run_digitRun fun d rest _ _ => takesAll_some (by decide) _]
        rw [if_pos rfl, Option.bind_map]
        simp only [Place.pass_rest, Place.pass_pass, List.append_assoc]
        rfl
  · next unsigned =>
      rw [run_seq, run_digitRun]
      · rw [Form.float?, Bool.eq_false_iff.2 unsigned, numeral?_unsigned, Option.bind_assoc]
        congr 1
        funext cut
        rw [run_seq, run_letter, Option.bind_assoc]
        congr 1
        funext rest
        rw [takesAll_some (by decide)]
        simp only [Place.pass_rest, Place.pass_pass, List.append_assoc]
        rfl
      · intro d rest split digit
        exact takesAll_of_letter (by decide) (by decide) fun reached => rfl

end Finds

theorem run_unlessPoint (place : Place) :
    (alt (one (.compl (.single '.'))) (anchor .textEnd)).run place some
      = if place.rest.head? = some '.' then none
        else some (place.pass (place.rest.take 1) (place.rest.drop 1)) := by
  rw [run_alt, run_one, run_textEnd]
  cases split : place.rest with
  | nil => simp [Place.pass_of_rest split]
  | cons c rest => by_cases point : c = '.' <;> simp [CharSet.contains, point]

/-- The character behind the point is read too, but the group ends before it. -/
theorem find?_openFloat (form : Form) (text : List Char) :
    (form.pattern .openFloat).find? text = (openFloat? text).bind fun cut =>
      some ((((Place.start text).pass cut.1 cut.2).close 1 "openfloat" 0).pass (cut.2.take 1)
        (cut.2.drop 1)) := by
  rw [Form.pattern, find?, run_seq, run_group]
  refine (run_numeral fun front d rest _ _ => ?_).trans ?_
  · exact takesAll_of_letter (by decide) (by decide) fun reached => rfl
  · rw [openFloat?, Option.bind_assoc]
    congr 1
    funext cut
    rw [run_letter, Option.bind_assoc]
    congr 1
    funext left
    rw [run_unlessPoint]
    by_cases point : left.head? = some '.' <;> simp [point, Place.pass_pass]

/-- Rules of which all that is read counts. -/
theorem finds_plain (form : Form) {rule : Rule} (noString : rule ≠ .token .string)
    (noIndex : rule ≠ .token .identIndex) (noSubscript : rule ≠ .quotedSubscript)
    (noOpenFloat : rule ≠ .openFloat) :
    ∃ reader, (∀ text, form.cut? rule text = (reader text).map .whole)
      ∧ Finds (form.pattern rule) reader := by
  cases rule with
  | token kind =>
      cases kind with
      | integer => exact ⟨_, fun text => rfl, finds_integer form⟩
      | float => exact ⟨_, fun text => rfl, finds_float form⟩
      | identifier => exact ⟨_, fun text => rfl, finds_name form⟩
      | string => contradiction
      | identIndex => contradiction
      | _ => exact ⟨_, fun text => rfl, finds_text _⟩
  | operator => exact ⟨_, fun text => rfl, finds_operator form⟩
  | newline => exact ⟨_, fun text => rfl, finds_text _⟩
  | skip => exact ⟨_, fun text => rfl, finds_skip form⟩
  | illegal => exact ⟨_, fun text => rfl, finds_one_any⟩
  | quotedSubscript => contradiction
  | openFloat => contradiction

end LiquidTokens.Expression
