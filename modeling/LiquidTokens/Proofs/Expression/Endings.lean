import LiquidTokens.Proofs.Expression.Calls

/-!
When the stream of an expression comes to an end.

Every call returns, but a call need not read anything: the text goes on behind the group `openfloat`
of an open float, and a pattern may end that group where its match begins. A stream that finds such
a match stalls (`Stalls`); it gives the token again at every call. Nothing else keeps a stream from
its end: one that never stalls gives no more items than its source has characters.

Main statements: `streams_end`, `stream_never_ends` and `Form.advances` (the standard grammars do
not let a stream stall).
-/

namespace LiquidTokens.Expression

open RuleTable (Hit)
open Text (byteLength)

/-! ### Matches behind which the text does not go on -/

/-- Behind the group `openfloat` of an open float the text goes on further than it was found. -/
def Grammar.Advances (grammar : Grammar) : Prop :=
  ∀ text offset hit part, grammar.table.hitAt? text offset = some hit → hit.rule = .openFloat →
    hit.group? "openfloat" = some part → offset < part.span.stop

/-- In a standard grammar the group of an open float holds its digits. -/
theorem Form.advances (form : Form) : form.grammar.Advances := by
  intro text offset hit part found openFloat grouped
  obtain ⟨rest, left⟩ : ∃ rest, Text.dropBytes? text offset = some rest := by
    refine Option.ne_none_iff_exists'.1 fun off => ?_
    cases (RuleTable.hitAt?_of_not_boundary off).symm.trans found
  obtain ⟨read, rfl, rfl⟩ := Text.dropBytes?_eq_some_iff.1 left
  have nonempty : rest ≠ [] := by
    rintro rfl
    cases (RuleTable.hitAt?_of_end left).symm.trans found
  obtain ⟨rule, cut, scan⟩ := exists_scan form nonempty
  obtain ⟨own, here, means⟩ := hitAt?_of_scan read scan
  obtain rfl : own = hit := Option.some.inj (here.symm.trans found)
  have resume : resumeAt own = part.span.stop := by simp [resumeAt, openFloat, grouped]
  have longer : 0 < byteLength cut.read := by
    have := (split_of_scan scan).2
    exact Nat.pos_of_ne_zero fun zero => this (Text.byteLength_eq_zero.1 zero)
  have := means.resume
  omega

namespace Stream

variable {grammar : Grammar} {source : String} {first : Nat} {stream : Stream}
  {read rest : List Char} {token : Token}

/-- The stream finds an open float here whose group `openfloat` ends where the stream stands. -/
def Stuck (stream : Stream) : Prop :=
  ∃ hit part, stream.grammar.table.hitAt? stream.source.toList stream.offset = some hit
    ∧ hit.rule = .openFloat ∧ hit.group? "openfloat" = some part
    ∧ part.span.stop = stream.offset

/-- The next call finds an open float behind which the text does not go on. -/
def Stalls (stream : Stream) : Prop :=
  stream.finished = false ∧ ∃ middle, Passes stream middle ∧ middle.Stuck

theorem resumeAt_eq_iff {hit : Hit Rule}
    (found : stream.grammar.table.hitAt? stream.source.toList stream.offset = some hit) :
    resumeAt hit = stream.offset ↔ hit.rule = .openFloat
      ∧ ∃ part, hit.group? "openfloat" = some part ∧ part.span.stop = stream.offset := by
  have longer := (RuleTable.span_of_hitAt? found).2
  by_cases openFloat : hit.rule = .openFloat
  · cases grouped : hit.group? "openfloat" with
    | none =>
        simp [resumeAt, openFloat, grouped]
        omega
    | some part => simp [resumeAt, openFloat, grouped]
  · rw [resumeAt_of_ne openFloat]
    simp [openFloat]
    omega

theorem moveTo_offset (stream : Stream) : stream.moveTo stream.offset = stream := by
  have nothing : Text.slice stream.source.toList ⟨stream.offset, stream.offset⟩ = [] := by
    cases left : Text.dropBytes? stream.source.toList stream.offset <;>
      simp [Text.slice, Text.slice?, left]
  simp [moveTo, nothing]

/-- A step behind which the text does not go on yields a token and leaves the stream as it is. -/
theorem Stuck.step_eq (stuck : stream.Stuck) :
    ∃ token, stream.step = .yield (.ok token) stream := by
  obtain ⟨hit, part, found, openFloat, grouped, ends⟩ := stuck
  have resume := (resumeAt_eq_iff found).2 ⟨openFloat, part, grouped, ends⟩
  refine ⟨⟨stream.line, .float, String.ofList part.text⟩, ?_⟩
  simp [step, found, resume, moveTo_offset, Grammar.yield?, openFloat, Hit.text?, grouped]

/-! ### Calls that do not move on -/

/-- A stream that stalls gives a token, and from then on the same token and nothing else. -/
theorem Stalls.again (stalls : stream.Stalls)
    (here : Stands grammar source first stream read rest) :
    ∃ token, ∀ more, (stream.asked more).next.1 = some (.ok token) := by
  obtain ⟨running, middle, passes, stuck⟩ := stalls
  obtain ⟨token, step⟩ := stuck.step_eq
  obtain ⟨passed, left, -, same, there⟩ := passes.stands here
  have answers : middle.step.answer? = some (some (.ok token), middle) := by
    rw [step]
    rfl
  have begins : stream.next = (some (.ok token), middle) :=
    here.call_iff.1 (.steps running passes answers)
  have repeats : middle.next = (some (.ok token), middle) :=
    there.call_iff.1 (.steps (same.trans running) (.refl middle) answers)
  have stays (more : Nat) : middle.asked more = middle := by
    induction more with
    | zero => rfl
    | succ more ih => rw [asked_succ, ih, repeats]
  refine ⟨token, fun more => ?_⟩
  cases more with
  | zero => rw [asked, begins]
  | succ more => rw [asked, begins, stays, repeats]

/-- A call that gives a token reads something, unless the stream stalls. -/
theorem Stands.moves_of_token (here : Stands grammar source first stream read rest)
    (moves : ¬ stream.Stalls) (given : stream.next.1 = some (.ok token)) :
    ∃ moved left, rest = moved ++ left ∧ moved ≠ []
      ∧ Stands grammar source first stream.next.2 (read ++ moved) left := by
  have running : stream.finished = false := by
    cases ended : stream.finished with
    | false => rfl
    | true =>
        rw [next_of_finished ended] at given
        cases given
  obtain ⟨middle, passed, piece, left, passes, split, there, locates, last⟩ :=
    (here.answered here.call).found
  rw [given] at locates
  cases locates with
  | @token hit matched _ found cut =>
      have advanced : piece ≠ [] := by
        rintro rfl
        have stays : resumeAt hit = middle.offset := by
          rw [cut.resume, there.offset]
          rfl
        rw [← there.split, ← there.source, ← there.offset, ← there.grammar] at found
        obtain ⟨openFloat, part, grouped, ends⟩ := (resumeAt_eq_iff found).1 stays
        exact moves ⟨running, middle, passes, hit, part, found, openFloat, grouped, ends⟩
      rw [List.append_assoc] at last
      exact ⟨passed ++ piece, left, by rw [split, List.append_assoc],
        List.append_ne_nil_of_right_ne_nil passed advanced, last⟩

/-- Where no text is left, a call gives nothing. -/
theorem Stands.next_of_end (here : Stands grammar source first stream read []) :
    stream.next.1 = none := by
  obtain ⟨middle, passed, piece, left, -, split, -, locates, -⟩ :=
    (here.answered here.call).found
  obtain ⟨-, nothing⟩ := List.append_eq_nil_iff.1 split.symm
  generalize stream.next.1 = item at locates
  cases locates with
  | ended => rfl
  | token found cut => exact absurd (List.prefix_nil.1 (nothing ▸ cut.begins)) cut.nonempty
  | error _ begins nonempty => exact absurd (List.prefix_nil.1 (nothing ▸ begins)) nonempty

/-- A stream that never stalls gives no more items than there are characters left. -/
theorem Stands.ends (here : Stands grammar source first stream read rest)
    (moves : ∀ count, ¬ (stream.asked count).Stalls) {count : Nat}
    (enough : rest.length ≤ count) : (stream.asked count).next.1 = none := by
  induction count generalizing stream read rest with
  | zero =>
      obtain rfl : rest = [] := List.length_eq_zero_iff.1 (Nat.le_zero.1 enough)
      exact here.next_of_end
  | succ count ih =>
      by_cases token : ∃ token, stream.next.1 = some (.ok token)
      · obtain ⟨token, given⟩ := token
        obtain ⟨moved, left, split, nonempty, there⟩ :=
          here.moves_of_token (moves 0) given
        have shorter := length_lt_of_split nonempty split
        exact ih there (fun count => moves (count + 1)) (by omega)
      · have last := (here.answered here.call).ends (not_exists.1 token)
        rw [asked, asked_of_finished last, next_of_finished last]

/-! ### Endings -/

theorem asked_add (count more : Nat) (stream : Stream) :
    stream.asked (count + more) = (stream.asked count).asked more := by
  induction more with
  | zero => rfl
  | succ more ih => rw [← Nat.add_assoc, asked_succ, ih, asked_succ]

/-- A grammar that advances does not let its streams stall. -/
theorem Stands.not_stalls (here : Stands grammar source first stream read rest)
    (advances : grammar.Advances) : ¬ stream.Stalls := by
  rintro ⟨-, middle, passes, hit, part, found, openFloat, grouped, ends⟩
  obtain ⟨passed, left, -, -, there⟩ := passes.stands here
  rw [there.grammar] at found
  have := advances _ _ hit part found openFloat grouped
  omega

/-- Every call of a stream returns. The stream comes to its end, after no more items than its source
has characters, if and only if it never stalls; once it stalls it gives the same token for ever. It
never stalls if the text always goes on behind the group `openfloat` of an open float. -/
theorem streams_end (grammar : Grammar) (source : String) (first : Nat) :
    let stream := start grammar source first
    (∀ count, Call (stream.asked count) (stream.asked count).next.1 (stream.asked (count + 1)))
      ∧ ((∀ count, source.length ≤ count → (stream.asked count).next.1 = none)
        ↔ ∀ count, ¬ (stream.asked count).Stalls)
      ∧ (∀ count, (stream.asked count).Stalls →
        ∃ token, ∀ more, (stream.asked (count + more)).next.1 = some (.ok token))
      ∧ (grammar.Advances → ∀ count, ¬ (stream.asked count).Stalls) := by
  intro stream
  have again (count : Nat) (stalls : (stream.asked count).Stalls) :
      ∃ token, ∀ more, (stream.asked (count + more)).next.1 = some (.ok token) := by
    obtain ⟨read, rest, here⟩ := exists_stands grammar source first count
    obtain ⟨token, same⟩ := stalls.again here
    exact ⟨token, fun more => by rw [asked_add, same]⟩
  refine ⟨?_, ⟨?_, ?_⟩, again, ?_⟩
  · intro count
    obtain ⟨read, rest, here⟩ := exists_stands grammar source first count
    rw [asked_succ]
    exact here.call
  · intro ends count stalls
    obtain ⟨token, same⟩ := again count stalls
    cases (ends (count + source.length) (Nat.le_add_left ..)).symm.trans (same source.length)
  · intro moves count enough
    rw [← String.length_toList] at enough
    exact (stands_start grammar source first).ends moves enough
  · intro advances count
    obtain ⟨read, rest, here⟩ := exists_stands grammar source first count
    exact here.not_stalls advances

/-- A grammar whose open floats match a letter and hold nothing: its stream of one letter gives an
empty float for ever. -/
theorem stream_never_ends :
    ∃ grammar, Grammar.compile "floats" [(.openFloat, "(?P<openfloat>)a*")] [] = .ok grammar
      ∧ ∀ count, ((start grammar "a" 1).asked count).next.1 = some (.ok ⟨1, .float, ""⟩) := by
  refine ⟨_, rfl, ?_⟩
  generalize begun : start _ "a" 1 = stream
  have here : Stands _ "a" 1 stream [] "a".toList := begun ▸ stands_start _ "a" 1
  have stuck : stream.Stuck := by
    rw [← begun]
    exact ⟨⟨.openFloat, ⟨⟨0, 1⟩, ['a']⟩, [("openfloat", ⟨⟨0, 0⟩, []⟩)]⟩, ⟨⟨0, 0⟩, []⟩,
      by decide +kernel, rfl, rfl, rfl⟩
  have running : stream.finished = false := by rw [← begun]; rfl
  obtain ⟨token, same⟩ := Stalls.again ⟨running, stream, .refl stream, stuck⟩ here
  have given : stream.next.1 = some (.ok ⟨1, .float, ""⟩) := by
    rw [← begun]
    rfl
  obtain rfl := Except.ok.inj (Option.some.inj ((same 0).symm.trans given))
  exact same

end Stream

end LiquidTokens.Expression
