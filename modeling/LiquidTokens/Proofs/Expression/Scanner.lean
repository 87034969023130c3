import LiquidTokens.Proofs.Expression.RulePatterns
import LiquidTokens.Proofs.RuleTable.FirstMatch

/-!
The standard forms as scanners that need no patterns.

At each position the first rule whose reader cuts something off decides (`Form.scan`), and a text is
scanned from its beginning, cut by cut, up to its end or an error (`Scans`).

Main statements: `exists_scans` (every text is scanned) and `tokenize_of_scans` (the tokens of a
text are those of its scan, and a longer run would give no more).
-/

namespace LiquidTokens.Expression

open Pattern
open RuleTable (Hit firstPlace? ownPlace? ownHit? foundAt)
open Text (Span byteLength dropBytes? lineBreaks)

/-! ### What a cut means -/

/-- What becomes of a part of a text. -/
inductive Sense where
  /-- Nothing to be seen. -/
  | nothing
  | token (kind : Kind) (value : List Char)
  | error (cause : LexError.Cause)

/-- What a rule makes of the part that counts. -/
def Form.sense (form : Form) (rule : Rule) (value : List Char) : Sense :=
  match rule with
  | .token .identifier =>
      .token ((form.grammar.keyword? (String.ofList value)).getD .identifier) value
  | .token kind => .token kind value
  | .quotedSubscript => .token .identifier value
  | .openFloat => .token .float value
  | .operator =>
      match Kind.ofOperator? (String.ofList value) with
      | some kind => .token kind value
      | none => .error (.unknownOperator (String.ofList value))
  | .newline | .skip => .nothing
  | .illegal => .error (.unexpectedCharacter (String.ofList value))

/-- The token or error, if there is any, on a line and with the place of the part. -/
def Sense.item? (line : Nat) (span : Span) : Sense → Option (Except LexError Token)
  | nothing => none
  | token kind value => some (.ok ⟨line, kind, String.ofList value⟩)
  | error cause => some (.error ⟨cause, line, span⟩)

/-- The step that a stream takes over the part, to the stream behind it. -/
def Sense.step (line : Nat) (span : Span) (after : Stream) : Sense → Step
  | nothing => .pass after
  | token kind value => .yield (.ok ⟨line, kind, String.ofList value⟩) after
  | error cause => .yield (.error ⟨cause, line, span⟩) after.finish

/-- The part of a hit that counts. -/
def valueOf (hit : Hit Rule) : List Char :=
  match hit.rule with
  | .token .string => unquoted hit
  | .token .identIndex => (hit.text? "identindex").getD hit.whole.text
  | .quotedSubscript => unquotedSubscript hit
  | .openFloat => (hit.text? "openfloat").getD hit.whole.text
  | _ => hit.whole.text

theorem yield?_eq (form : Form) (hit : Hit Rule) (line : Nat) :
    form.grammar.yield? hit line
      = (form.sense hit.rule (valueOf hit)).item? line hit.whole.span := by
  obtain ⟨rule, whole, named⟩ := hit
  cases rule with
  | token kind => cases kind <;> rfl
  | operator =>
      simp only [Grammar.yield?, Form.sense, valueOf]
      cases Kind.ofOperator? (String.ofList whole.text) <;> rfl
  | _ => rfl

/-! ### Hits -/

theorem made (form : Form) :
    RuleTable.compile Rule.label form.rules = .ok form.grammar.table := by
  have accepted : (RuleTable.compile Rule.label form.rules).toOption = some form.grammar.table :=
    (Option.some_get (Form.rules_compile form)).symm
  cases compiled : RuleTable.compile Rule.label form.rules with
  | error error =>
      rw [compiled] at accepted
      cases accepted
  | ok table =>
      rw [compiled] at accepted
      exact congrArg Except.ok (Option.some.inj accepted)

theorem numbered (form : Form) : RuleTable.Numbered form.rules := by
  cases form <;> decide +kernel

theorem resumeAt_of_ne {hit : Hit Rule} (other : hit.rule ≠ .openFloat) :
    resumeAt hit = hit.stop := by
  unfold resumeAt
  split
  · contradiction
  · rfl

/-- A hit means what a cut of its rule means, and the stream goes on behind the cut. -/
structure Means (form : Form) (offset : Nat) (rule : Rule) (cut : Cut) (hit : Hit Rule) : Prop where
  resume : resumeAt hit = offset + byteLength cut.read
  yields : ∀ line, form.grammar.yield? hit line
    = (form.sense rule cut.value).item? line ⟨offset, offset + byteLength cut.read⟩

/-- What a rule finds at the start of a text is what its reader cuts off. -/
structure Agrees (form : Form) (rule : Rule) (text : List Char) : Prop where
  fails : form.cut? rule text = none → (form.pattern rule).find? text = none
  hits : ∀ {cut}, form.cut? rule text = some cut → ∃ reached,
    (form.pattern rule).find? text = some reached ∧ ∀ offset, ∃ hit,
      ownHit? offset text rule reached = some hit ∧ Means form offset rule cut hit

section Agreement

variable {form : Form} {rule : Rule} {offset : Nat} {text : List Char} {cut : Cut} {hit : Hit Rule}

/-- A match of some characters is a hit. -/
theorem exists_ownHit {read left : List Char} (split : text = read ++ left) (nonempty : read ≠ [])
    {reached : Place} (length : reached.offset = byteLength read) (offset : Nat) :
    ∃ hit, ownHit? offset text rule reached = some hit ∧ hit.rule = rule
      ∧ hit.whole = ⟨⟨offset, offset + byteLength read⟩, read⟩ := by
  have some : reached.offset ≠ 0 := by
    rw [length]
    exact fun none => nonempty (Text.byteLength_eq_zero.1 none)
  have whole : foundAt offset text ⟨0, reached.offset⟩
      = ⟨⟨offset, offset + byteLength read⟩, read⟩ := by
    have part := Text.slice_append [] read left
    simp only [List.nil_append, Text.byteLength_nil, Nat.zero_add, ← split] at part
    simp only [foundAt, length, part, Span.shift, Nat.add_zero]
  rw [ownHit?, if_neg some]
  exact ⟨_, rfl, rfl, whole⟩

/-- The part of a hit that is remembered by name. -/
theorem group?_of_behind {name : String} {front inner back left : List Char} {reached : Place}
    (behind : Behind name (Place.start text) front inner back left reached)
    (split : text = front ++ inner ++ back ++ left)
    (own : ownHit? offset text rule reached = some hit) :
    hit.group? name = some ⟨⟨offset + byteLength front,
        offset + byteLength front + byteLength inner⟩, inner⟩
      ∧ ∀ other, other ≠ name → hit.group? other = none := by
  obtain ⟨index, captures⟩ := behind.captures
  have part := Text.slice_append front inner (back ++ left)
  rw [← List.append_assoc, ← split] at part
  unfold ownHit? at own
  split at own
  · cases own
  · cases own
    refine ⟨?_, fun other different => ?_⟩
    · simp [Hit.group?, captures, foundAt, Span.shift, part, Nat.add_assoc]
    · simp [Hit.group?, captures, Ne.symm different]

/-- The text between quotes of either sort. -/
theorem textBetween_eq {name double single : String} {span : Span} {inner : List Char}
    (known : name = double ∨ name = single) (apart : double ≠ single)
    (part : hit.group? name = some ⟨span, inner⟩)
    (others : ∀ other, other ≠ name → hit.group? other = none) :
    ((hit.text? double).orElse fun _ => hit.text? single).getD hit.whole.text = inner := by
  rcases known with rfl | rfl
  · simp [Hit.text?, part]
  · simp [Hit.text?, part, others double apart]

/-- Of most rules all that is read counts, and the stream goes on behind it. -/
theorem means_of_whole (ruled : hit.rule = rule) (other : rule ≠ .openFloat)
    (whole : hit.whole = ⟨⟨offset, offset + byteLength cut.read⟩, cut.read⟩)
    (value : valueOf hit = cut.value) : Means form offset rule cut hit where
  resume := by
    rw [resumeAt_of_ne (by rwa [ruled]), Hit.stop, whole]
  yields := by
    intro line
    rw [yield?_eq, ruled, value, whole]

theorem agrees_plain (noString : rule ≠ .token .string) (noIndex : rule ≠ .token .identIndex)
    (noSubscript : rule ≠ .quotedSubscript) (noOpenFloat : rule ≠ .openFloat) (text : List Char) :
    Agrees form rule text := by
  obtain ⟨reader, cuts, finds⟩ := finds_plain form noString noIndex noSubscript noOpenFloat
  constructor
  · intro none
    rw [cuts, Option.map_eq_none_iff] at none
    rw [finds, none]
    rfl
  · intro cut found
    obtain ⟨split, nonempty⟩ := split_of_cut? found
    rw [cuts] at found
    obtain ⟨⟨read, left⟩, reads, rfl⟩ := Option.map_eq_some_iff.1 found
    refine ⟨(Place.start text).pass read left, by rw [finds, reads]; rfl, fun offset => ?_⟩
    have length : ((Place.start text).pass read left).offset = byteLength read := by simp
    obtain ⟨hit, own, ruled, whole⟩ := exists_ownHit split nonempty length offset
    refine ⟨hit, own, means_of_whole ruled noOpenFloat whole ?_⟩
    unfold valueOf
    rw [ruled]
    split <;> first | contradiction | rw [whole]; rfl

/-- A rule whose value is the part that its pattern remembers. -/
theorem agrees_marked {names : List String} {reader : List Char → Option Cut}
    (cuts : form.cut? rule text = reader text)
    (follows : Follows names reader (form.pattern rule) (Place.start text) some)
    (other : rule ≠ .openFloat)
    (value : ∀ {hit : Hit Rule} {name : String} {span : Span} {inner : List Char}, name ∈ names →
      hit.rule = rule → hit.group? name = some ⟨span, inner⟩ →
        (∀ other, other ≠ name → hit.group? other = none) → valueOf hit = inner) :
    Agrees form rule text := by
  constructor
  · intro none
    exact follows.fails (cuts.symm.trans none)
  · intro cut found
    obtain ⟨split, nonempty⟩ := split_of_cut? found
    obtain ⟨name, known, front, back, reached, read, behind, here⟩ :=
      follows.reaches (cuts.symm.trans found)
    refine ⟨reached, here, fun offset => ?_⟩
    have length : reached.offset = byteLength cut.read := by simp [behind.offset, read]
    obtain ⟨hit, own, ruled, whole⟩ := exists_ownHit split nonempty length offset
    have part := group?_of_behind behind (by rw [split, read]) own
    exact ⟨hit, own, means_of_whole ruled other whole (value known ruled part.1 part.2)⟩

theorem agrees_openFloat (form : Form) (text : List Char) : Agrees form .openFloat text := by
  constructor
  · intro none
    rw [find?_openFloat, Option.map_eq_none_iff.1 none]
    rfl
  · intro cut found
    obtain ⟨split, nonempty⟩ := split_of_cut? found
    obtain ⟨⟨read, left⟩, reads, rfl⟩ := Option.map_eq_some_iff.1 found
    have whole : text = read ++ left.take 1 ++ left.drop 1 := by
      rw [List.append_assoc, List.take_append_drop]
      exact split
    have behind : Behind "openfloat" (Place.start text) [] read (left.take 1) (left.drop 1)
        ((((Place.start text).pass read left).close 1 "openfloat" 0).pass (left.take 1)
          (left.drop 1)) :=
      ⟨rfl, by simp, 1, by simp⟩
    have some : read ++ left.take 1 ≠ [] := List.append_ne_nil_of_left_ne_nil nonempty _
    refine ⟨_, by rw [find?_openFloat, reads]; rfl, fun offset => ?_⟩
    obtain ⟨hit, own, ruled, -⟩ :=
      exists_ownHit whole some (behind.offset.trans (Nat.zero_add _)) offset
    obtain ⟨part, -⟩ := group?_of_behind behind whole own
    refine ⟨hit, own, ⟨?_, fun line => ?_⟩⟩
    · simp [resumeAt, ruled, part, Cut.whole]
    · rw [yield?_eq, ruled]
      simp [valueOf, ruled, Hit.text?, part, Form.sense, Sense.item?, Cut.whole]

/-- The patterns of the rules find what their readers cut off. -/
theorem agrees (form : Form) (rule : Rule) (text : List Char) : Agrees form rule text := by
  by_cases string : rule = .token .string
  · subst string
    refine agrees_marked rfl (follows_eitherQuoted "dquoted" "squoted" _ some) (by simp) ?_
    intro hit name span inner known ruled part others
    rw [valueOf, ruled]
    exact textBetween_eq (by simpa using known) (by decide) part others
  by_cases index : rule = .token .identIndex
  · subst index
    refine agrees_marked rfl (follows_bracketed visible_numeral? (follows_index _ · some) _)
      (by simp) ?_
    intro hit name span inner known ruled part others
    obtain rfl := List.mem_singleton.1 known
    simp [valueOf, ruled, Hit.text?, part]
  by_cases subscript : rule = .quotedSubscript
  · subst subscript
    refine agrees_marked rfl
      (follows_bracketed visible_quoted? (follows_eitherQuoted "identdq" "identsq" · _) _)
      (by simp) ?_
    intro hit name span inner known ruled part others
    rw [valueOf, ruled]
    exact textBetween_eq (by simpa using known) (by decide) part others
  by_cases openFloat : rule = .openFloat
  · subst openFloat
    exact agrees_openFloat form text
  · exact agrees_plain string index subscript openFloat text

end Agreement

/-! ### Scans -/

/-- What the first rule that reads anything cuts off the beginning of a text. -/
def Form.scan (form : Form) (text : List Char) : Option (Rule × Cut) :=
  form.rules.findSome? fun (rule, _) => (form.cut? rule text).map (rule, ·)

/-- A text scanned from some position on, up to its end or an error; `read` is what comes before in
the text, whose first line is `first`. -/
inductive Scans (form : Form) (first : Nat) :
    (read rest : List Char) → List Token → Option LexError → Prop where
  | ended {read : List Char} : Scans form first read [] [] none
  | passed {read rest : List Char} {rule : Rule} {cut : Cut} {tokens : List Token}
      {error : Option LexError} (found : form.scan rest = some (rule, cut))
      (sense : form.sense rule cut.value = .nothing)
      (later : Scans form first (read ++ cut.read) cut.left tokens error) :
      Scans form first read rest tokens error
  | token {read rest : List Char} {rule : Rule} {cut : Cut} {kind : Kind} {value : List Char}
      {tokens : List Token} {error : Option LexError} (found : form.scan rest = some (rule, cut))
      (sense : form.sense rule cut.value = .token kind value)
      (later : Scans form first (read ++ cut.read) cut.left tokens error) :
      Scans form first read rest
        (⟨first + lineBreaks read, kind, String.ofList value⟩ :: tokens) error
  | failed {read rest : List Char} {rule : Rule} {cut : Cut} {cause : LexError.Cause}
      (found : form.scan rest = some (rule, cut))
      (sense : form.sense rule cut.value = .error cause) :
      Scans form first read rest [] (some ⟨cause, first + lineBreaks read,
        ⟨byteLength read, byteLength read + byteLength cut.read⟩⟩)

section Scan

variable {form : Form} {first : Nat} {read rest text : List Char} {rule : Rule} {cut : Cut}

theorem cut?_of_scan (found : form.scan text = some (rule, cut)) :
    form.cut? rule text = some cut ∧ ∃ written, (rule, written) ∈ form.rules := by
  obtain ⟨⟨known, written⟩, member, here⟩ := List.exists_of_findSome?_eq_some found
  obtain ⟨found, cuts, same⟩ := Option.map_eq_some_iff.1 here
  cases same
  exact ⟨cuts, written, member⟩

/-- What is found cuts the text in two, and the first part is not empty. -/
theorem split_of_scan (found : form.scan text = some (rule, cut)) :
    text = cut.read ++ cut.left ∧ cut.read ≠ [] :=
  split_of_cut? (cut?_of_scan found).1

theorem ne_nil_of_scan (found : form.scan text = some (rule, cut)) : text ≠ [] := by
  obtain ⟨split, nonempty⟩ := split_of_scan found
  rw [split]
  exact List.append_ne_nil_of_left_ne_nil nonempty cut.left

/-- The last rule of a form reads any character. -/
theorem exists_scan (form : Form) {text : List Char} (nonempty : text ≠ []) :
    ∃ rule cut, form.scan text = some (rule, cut) := by
  obtain ⟨c, rest, rfl⟩ := List.exists_cons_of_ne_nil nonempty
  have last : (.illegal, ".") ∈ form.rules := by cases form <;> decide
  have reads : (form.scan (c :: rest)).isSome = true := by
    rw [Form.scan, List.findSome?_isSome_iff]
    exact ⟨_, last, rfl⟩
  obtain ⟨⟨rule, cut⟩, found⟩ := Option.isSome_iff_exists.1 reads
  exact ⟨rule, cut, found⟩

/-- The first rule that reads anything is the first whose pattern finds anything. -/
theorem firstPlace?_of_scan (found : form.scan text = some (rule, cut)) : ∃ reached,
    firstPlace? form.rules text = some (rule, reached) ∧ ∀ offset, ∃ hit,
      ownHit? offset text rule reached = some hit ∧ Means form offset rule cut hit := by
  have own (entry : Rule × String) (member : entry ∈ form.rules) :
      ownPlace? entry.2 text = (form.pattern entry.1).find? text := by
    rw [ownPlace?, form.read?_rules entry member, Option.bind_some]
  obtain ⟨before, entry, after, split, here, none⟩ := List.findSome?_eq_some_iff.1 found
  obtain ⟨known, cuts, same⟩ := Option.map_eq_some_iff.1 here
  cases same
  obtain ⟨reached, place, hits⟩ := (agrees form entry.1 text).hits cuts
  refine ⟨reached, List.findSome?_eq_some_iff.2 ⟨before, entry, after, split, ?_, ?_⟩, hits⟩
  · simp only [own entry (by simp [split]), place, Option.map_some]
  · intro other member
    have fails := (agrees form other.1 text).fails (Option.map_eq_none_iff.1 (none other member))
    simp only [own other (by simp [split, member]), fails, Option.map_none]

theorem hitAt?_of_scan (read : List Char) (found : form.scan rest = some (rule, cut)) :
    ∃ hit, form.grammar.table.hitAt? (read ++ rest) (byteLength read) = some hit
      ∧ Means form (byteLength read) rule cut hit := by
  obtain ⟨reached, first, hits⟩ := firstPlace?_of_scan found
  obtain ⟨hit, own, means⟩ := hits (byteLength read)
  refine ⟨hit, ?_, means⟩
  rw [RuleTable.hitAt?_of_numbered (made form) (numbered form), RuleTable.firstHit?,
    Text.dropBytes?_append, Option.bind_some, first]
  exact own

/-- A list of characters with a part in front that is not empty is longer than what follows. -/
theorem length_lt_of_split {rest piece left : List Char} (nonempty : piece ≠ [])
    (split : rest = piece ++ left) : left.length < rest.length := by
  have := List.length_pos_iff.2 nonempty
  rw [split, List.length_append]
  omega

theorem length_left_lt_of_scan (found : form.scan text = some (rule, cut)) :
    cut.left.length < text.length := by
  obtain ⟨split, nonempty⟩ := split_of_scan found
  exact length_lt_of_split nonempty split

/-- Every text is scanned. -/
theorem exists_scans (form : Form) (first : Nat) (read rest : List Char) :
    ∃ tokens error, Scans form first read rest tokens error := by
  by_cases ended : rest = []
  · subst ended
    exact ⟨[], none, .ended⟩
  obtain ⟨rule, cut, found⟩ := exists_scan form ended
  have shorter := length_left_lt_of_scan found
  obtain ⟨tokens, error, later⟩ := exists_scans form first (read ++ cut.read) cut.left
  cases sense : form.sense rule cut.value with
  | nothing => exact ⟨tokens, error, .passed found sense later⟩
  | token kind value => exact ⟨_, error, .token found sense later⟩
  | error cause => exact ⟨[], _, .failed found sense⟩
termination_by rest.length

namespace Stream

/-- A stream of a form that has read a part of its source, whose first line is `first`. -/
structure At (form : Form) (first : Nat) (stream : Stream) (read rest : List Char) : Prop where
  grammar : stream.grammar = form.grammar
  source : stream.source.toList = read ++ rest
  offset : stream.offset = byteLength read
  line : stream.line = first + lineBreaks read
  running : stream.finished = false

variable {form : Form} {first : Nat} {stream : Stream} {read rest piece left : List Char}

theorem at_start (form : Form) (source : String) (first : Nat) :
    At form first (start form.grammar source first) [] source.toList :=
  ⟨rfl, rfl, rfl, rfl, rfl⟩

theorem At.rest_eq (here : At form first stream read rest) : stream.rest = rest := by
  rw [Stream.rest, here.source, here.offset, Text.dropBytes?_append]
  rfl

theorem At.moveTo (here : At form first stream read (piece ++ left)) :
    At form first (stream.moveTo (stream.offset + byteLength piece)) (read ++ piece) left where
  grammar := here.grammar
  source := by rw [Stream.moveTo, here.source, List.append_assoc]
  offset := by simp [Stream.moveTo, here.offset]
  line := by
    have cut := Text.slice_append read piece left
    rw [List.append_assoc] at cut
    simp only [Stream.moveTo, here.source, here.offset, cut, here.line, Text.lineBreaks_append,
      Nat.add_assoc]
  running := here.running

/-- A step takes what the scan cuts off. -/
theorem At.step_eq (here : At form first stream read rest)
    (found : form.scan rest = some (rule, cut)) : ∃ after,
      At form first after (read ++ cut.read) cut.left
      ∧ stream.step = (form.sense rule cut.value).step (first + lineBreaks read)
          ⟨byteLength read, byteLength read + byteLength cut.read⟩ after := by
  obtain ⟨hit, own, means⟩ := hitAt?_of_scan read found
  obtain ⟨split, -⟩ := split_of_scan found
  subst split
  refine ⟨stream.moveTo (stream.offset + byteLength cut.read), here.moveTo, ?_⟩
  rw [step, here.grammar, here.source, here.offset, own]
  simp only [means.resume, means.yields, here.line]
  cases form.sense rule cut.value <;> rfl

theorem At.step_of_end (here : At form first stream read []) :
    stream.step = .stop stream.finish := by
  have ended : dropBytes? stream.source.toList stream.offset = some [] := by
    rw [here.source, here.offset, Text.dropBytes?_append]
  rw [step, RuleTable.hitAt?_of_end ended]
  simp only [stepUnmatched, here.rest_eq]

/-- What a run adds to the item that is given first. -/
def takeFrom (count : Nat) : Option (Except LexError Token) × Stream → Run
  | (some (.ok token), after) => (take count after).cons token
  | (some (.error error), _) => .failed error
  | (none, _) => .nil

theorem take_succ (count : Nat) (stream : Stream) :
    take (count + 1) stream = takeFrom count stream.next := by
  rw [take]
  rcases stream.next with ⟨_ | error | token, after⟩ <;> rfl

theorem At.next_eq (here : At form first stream read rest) :
    stream.next = stream.advance rest := by
  rw [next, here.running, here.rest_eq]
  rfl

/-- The items of a stream are those of the scan of the text that is left, whatever the bounds on
the steps and on the items asked for, if they are large enough. -/
theorem takeFrom_advance_of_scans {tokens : List Token} {error : Option LexError}
    (scans : Scans form first read rest tokens error) (here : At form first stream read rest)
    {bound : List Char} (steps : rest.length ≤ bound.length) {count : Nat}
    (items : rest.length ≤ count) : takeFrom count (stream.advance bound) = ⟨tokens, error⟩ := by
  -- Passing over a part uses up a step of the bound, and a token one of the items asked for; both
  -- leave less text than they use up, so neither runs out before the text does.
  induction scans generalizing stream bound count with
  | ended =>
      rw [advance.eq_def, here.step_of_end]
      rfl
  | failed found sense =>
      obtain ⟨after, -, taken⟩ := here.step_eq found
      rw [sense] at taken
      rw [advance.eq_def, taken]
      rfl
  | passed found sense later ih =>
      obtain ⟨after, there, taken⟩ := here.step_eq found
      have shorter := length_left_lt_of_scan found
      rw [sense] at taken
      rw [advance.eq_def, taken]
      cases bound with
      | nil =>
          rw [List.length_nil] at steps
          omega
      | cons c bound =>
          rw [List.length_cons] at steps
          exact ih there (by omega) (by omega)
  | token found sense later ih =>
      obtain ⟨after, there, taken⟩ := here.step_eq found
      have shorter := length_left_lt_of_scan found
      obtain ⟨count, rfl⟩ : ∃ less, count = less + 1 := ⟨count - 1, by omega⟩
      rw [sense] at taken
      rw [advance.eq_def, taken]
      simp only [Sense.step, takeFrom]
      rw [take_succ, there.next_eq, ih there (Nat.le_refl _) (by omega)]
      rfl

end Stream

/-- The tokens of a text and its error are those of its scan, and it would give no more if it were
asked more often. -/
theorem tokenize_of_scans {source : String} {line : Nat} {tokens : List Token}
    {error : Option LexError} (scans : Scans form line [] source.toList tokens error) :
    form.grammar.tokenize source line = ⟨tokens, error⟩
      ∧ ∀ count, source.length < count →
          (Stream.start form.grammar source line).take count = ⟨tokens, error⟩ := by
  have start := Stream.at_start form source line
  have enough : ∀ count, source.length < count →
      (Stream.start form.grammar source line).take count = ⟨tokens, error⟩ := by
    intro count items
    obtain ⟨count, rfl⟩ : ∃ less, count = less + 1 := ⟨count - 1, by omega⟩
    rw [← String.length_toList] at items
    rw [Stream.take_succ, start.next_eq]
    exact Stream.takeFrom_advance_of_scans scans start (Nat.le_refl _) (by omega)
  refine ⟨enough _ ?_, enough⟩
  rw [start.rest_eq, String.length_toList]
  exact Nat.lt_succ_self _

end Scan

end LiquidTokens.Expression
