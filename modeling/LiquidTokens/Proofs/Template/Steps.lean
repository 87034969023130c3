import LiquidTokens.Proofs.Template.RegionMatches
import LiquidTokens.Template.Stream

/-!
One step of a template stream, said of the text at its position.

The text begins with one region (`NextRegion`), and the step is decided by the kind of this
region, by what it holds and, for plain text, by what follows it (`Stream.stepOver`).

Main statement: `step_eq_stepOver` (a stream steps over the region with which its text begins).
-/

namespace LiquidTokens.Template

open Pattern
open Text (byteLength lineBreaks slice dropBytes? trimStart trimEnd)

/-! ### The next region -/

/-- The region with which a text begins: its kind, the part of the text that it covers, what it
holds, and what follows it. The kinds are tried in the order of the constructors. -/
inductive NextRegion (delimiters : Delimiters) (text : List Char) :
    Region → List Char → List Char → List Char → Prop where
  | raw {head inner foot left : List Char}
      (cut : RawCut delimiters.tagStart.toList delimiters.tagEnd.toList text head inner foot
        left) :
      NextRegion delimiters text .raw (head ++ inner ++ foot) inner left
  | statement {inner left : List Char}
      (noRaw : ¬ OpensRaw delimiters.tagStart.toList delimiters.tagEnd.toList text)
      (enclosed : Enclosed delimiters.statementStart.toList delimiters.statementEnd.toList text
        inner left) :
      NextRegion delimiters text .statement
        (delimiters.statementStart.toList ++ inner ++ delimiters.statementEnd.toList) inner left
  | tag {inner left : List Char}
      (noRaw : ¬ OpensRaw delimiters.tagStart.toList delimiters.tagEnd.toList text)
      (noStatement : ¬ Opens delimiters.statementStart.toList delimiters.statementEnd.toList text)
      (enclosed : Enclosed delimiters.tagStart.toList delimiters.tagEnd.toList text inner left) :
      NextRegion delimiters text .tag
        (delimiters.tagStart.toList ++ inner ++ delimiters.tagEnd.toList) inner left
  | literal {inner left : List Char}
      (noRaw : ¬ OpensRaw delimiters.tagStart.toList delimiters.tagEnd.toList text)
      (noStatement : ¬ Opens delimiters.statementStart.toList delimiters.statementEnd.toList text)
      (noTag : ¬ Opens delimiters.tagStart.toList delimiters.tagEnd.toList text)
      (cut : LiteralCut delimiters.tagStart.toList delimiters.statementStart.toList text inner
        left) :
      NextRegion delimiters text .literal inner inner left

theorem NextRegion.split {delimiters : Delimiters} {text piece inner left : List Char}
    {region : Region} (next : NextRegion delimiters text region piece inner left) :
    text = piece ++ left := by
  cases next with
  | raw cut => exact cut.split
  | statement _ enclosed => exact enclosed.split
  | tag _ _ enclosed => exact enclosed.split
  | literal _ _ _ cut => exact cut.split

theorem NextRegion.piece_ne {delimiters : Delimiters} (valid : delimiters.validate = .ok ())
    {text piece inner left : List Char} {region : Region}
    (next : NextRegion delimiters text region piece inner left) : piece ≠ [] := by
  cases next with
  | raw cut => simp [cut.head_ne]
  | statement => simp [statementStart_ne valid]
  | tag => simp [tagStart_ne valid]
  | literal _ _ _ cut => exact cut.some

theorem NextRegion.length_left_lt {delimiters : Delimiters}
    (valid : delimiters.validate = .ok ()) {text piece inner left : List Char} {region : Region}
    (next : NextRegion delimiters text region piece inner left) : left.length < text.length := by
  have long := List.length_pos_iff.2 (next.piece_ne valid)
  rw [next.split, List.length_append]
  omega

/-- The body of a statement or a tag does not hold the delimiter that closes it. -/
def Shut (delimiters : Delimiters) (region : Region) (inner : List Char) : Prop :=
  match region with
  | .statement => ¬ delimiters.statementEnd.toList <:+: bodyOf (content inner)
  | .tag => ¬ delimiters.tagEnd.toList <:+: bodyOf (remainder inner)
  | .raw | .literal => True

/-! ### Positions of a stream -/

namespace Stream

/-- The stream has read `read` of its source, and `text` is left. -/
structure At (delimiters : Delimiters) (stream : Stream) (read text : List Char) : Prop where
  valid : delimiters.validate = .ok ()
  regions : stream.regions = regionTable delimiters
  source : stream.source.toList = read ++ text
  offset : stream.offset = byteLength read
  line : stream.line = 1 + lineBreaks read

/-- The stream after some characters. -/
def past (stream : Stream) (piece : List Char) : Stream :=
  { stream with
    offset := stream.offset + byteLength piece
    line := stream.line + lineBreaks piece }

variable {delimiters : Delimiters} {stream : Stream} {read text piece left : List Char}

theorem at_start (valid : delimiters.validate = .ok ()) (source : String) :
    At delimiters (start (regionTable delimiters) source) [] source.toList :=
  ⟨valid, rfl, rfl, rfl, rfl⟩

theorem At.past (here : At delimiters stream read (piece ++ left)) :
    At delimiters (stream.past piece) (read ++ piece) left where
  valid := here.valid
  regions := here.regions
  source := by simp [Stream.past, here.source]
  offset := by simp [Stream.past, here.offset]
  line := by simp [Stream.past, here.line, Nat.add_assoc]

theorem At.slice_eq (here : At delimiters stream read (piece ++ left)) :
    slice stream.source.toList ⟨stream.offset, stream.offset + byteLength piece⟩ = piece := by
  rw [here.source, here.offset, ← List.append_assoc]
  exact Text.slice_append read piece left

theorem At.moveTo (here : At delimiters stream read (piece ++ left)) :
    stream.moveTo (stream.offset + byteLength piece) = stream.past piece := by
  rw [Stream.moveTo, here.slice_eq, Stream.past]

theorem At.dropBytes (here : At delimiters stream read text) :
    dropBytes? stream.source.toList stream.offset = some text := by
  rw [here.source, here.offset, Text.dropBytes?_append]

theorem At.rest_eq (here : At delimiters stream read text) : stream.rest = text := by
  rw [rest, here.dropBytes]
  rfl

/-! ### Steps over a region -/

/-- The kind of the region at the position of a stream. -/
def region? (stream : Stream) : Option Region :=
  (stream.regions.table.hitAt? stream.source.toList stream.offset).map RuleTable.Hit.rule

/-- The step of a stream over plain text, for which it is known whether the end is trimmed. -/
def stepOverLiteral (stream : Stream) (literal : List Char) (atEnd : Bool) : Step :=
  let after := { stream.past literal with trimNext := false }
  let text := trimmed stream.trimNext atEnd literal
  if text.isEmpty then .pass after
  else
    match stream.expected? text with
    | some expected =>
        .yield (.error ⟨.unterminatedRegion expected, after.line,
          ⟨stream.offset, stream.offset + byteLength literal⟩⟩) after.finish
    | none => .yield (.ok (stream.token .literal text)) after

/-- The step of a stream over a region. -/
def stepOver (delimiters : Delimiters) (stream : Stream) (region : Region)
    (piece inner left : List Char) : Step :=
  match region with
  | .raw =>
      if inner.isEmpty then .pass (stream.past piece)
      else .yield (.ok (stream.token .literal inner)) (stream.past piece)
  | .statement =>
      let tail := content inner
      .yield (.ok (stream.token .statement (bodyOf tail)))
        { stream.past piece with
          bodyLine := stream.line
            + lineBreaks (delimiters.statementStart.toList ++ before inner tail)
          trimNext := endsMarked tail }
  | .tag =>
      let tail := remainder inner
      .yield (.ok (stream.token .tag (nameOf inner)))
        { stream.past piece with
          bodyLine := stream.line + lineBreaks (delimiters.tagStart.toList ++ before inner tail)
          trimNext := endsMarked tail
          pending :=
            if (bodyOf tail).isEmpty then stream.pending
            else some (stream.token .expression (bodyOf tail)) }
  | .literal =>
      stream.stepOverLiteral inner
        (strips delimiters.tagStart.toList delimiters.statementStart.toList left)

end Stream

/-! ### Hits -/

/-- The outer group of a rule is closed at the end of a match. -/
def closing (index : Nat) (reached : Place) : Option Place :=
  some (reached.close index none 0)

theorem total_closing (index : Nat) : Total (closing index) := by
  simp [Needs, closing]

/-- The rules are tried one after the other. -/
theorem find?_regionPattern (delimiters : Delimiters) (text : List Char) :
    (regionPattern delimiters).find? text
      = ((rawBlock 2 delimiters.tagStart.toList delimiters.tagEnd.toList).run (.start text)
          (closing 1)).or
        (((statementRegion 4 delimiters.statementStart.toList
            delimiters.statementEnd.toList).run (.start text) (closing 3)).or
          (((tagRegion 7 delimiters.tagStart.toList delimiters.tagEnd.toList).run (.start text)
              (closing 6)).or
            ((literalRegion 11 delimiters.tagStart.toList
              delimiters.statementStart.toList).run (.start text) (closing 10)))) := by
  have begins : Anchor.textStart.holds (Place.start text) = true := rfl
  simp only [find?, regionPattern, run_seq, run_alt, run_group]
  rw [run, if_pos begins]
  rfl

theorem run_rawBlock_eq_none {start stop text : List Char} (noRaw : ¬ OpensRaw start stop text) :
    (rawBlock 2 start stop).run (.start text) (closing 1) = none :=
  (needs_rawBlock 2 (total_closing 1) (.start text)).2 noRaw

theorem run_statementRegion_eq_none {start stop text : List Char}
    (noStatement : ¬ Opens start stop text) :
    (statementRegion 4 start stop).run (.start text) (closing 3) = none :=
  (needs_statementRegion 4 (total_closing 3) (.start text)).2 noStatement

theorem run_tagRegion_eq_none {start stop text : List Char} (noTag : ¬ Opens start stop text) :
    (tagRegion 7 start stop).run (.start text) (closing 6) = none :=
  (needs_tagRegion 7 (total_closing 6) (.start text)).2 noTag

/-- What a group reads of a text is the part it was closed over. -/
theorem foundAt_capture {text lead piece more : List Char} (split : text = lead ++ piece ++ more)
    (base index : Nat) (name : Option String) :
    RuleTable.foundAt base text (capture (.start text) index name lead piece).span
      = ⟨⟨base + byteLength lead, base + byteLength lead + byteLength piece⟩, piece⟩ := by
  have sliced := Text.slice_append lead piece more
  rw [← split] at sliced
  simp [RuleTable.foundAt, capture, Place.start, Text.Span.shift, sliced, Nat.add_assoc]
/-- What the groups with a name read of a text. -/
def namedParts (base : Nat) (text : List Char) (captures : List Capture) :
    List (String × RuleTable.Found) :=
  captures.filterMap fun capture =>
    capture.name.map (·, RuleTable.foundAt base text capture.span)

theorem namedParts_unnamed (base : Nat) (text : List Char) (index : Nat) (span : Text.Span)
    (captures : List Capture) :
    namedParts base text (⟨index, none, span⟩ :: captures) = namedParts base text captures := rfl

theorem namedParts_append (base : Nat) (text : List Char) (captures others : List Capture) :
    namedParts base text (captures ++ others)
      = namedParts base text captures ++ namedParts base text others :=
  List.filterMap_append ..

theorem namedParts_singleton {text lead piece more : List Char}
    (split : text = lead ++ piece ++ more) (base index : Nat) (name : String) :
    namedParts base text [capture (.start text) index (some name) lead piece]
      = [(name, ⟨⟨base + byteLength lead, base + byteLength lead + byteLength piece⟩, piece⟩)] := by
  simp only [namedParts, List.filterMap_cons, List.filterMap_nil, capture_name,
    Option.map_some, foundAt_capture split]

/-- What the groups of a body and of its trim marker read. -/
theorem namedParts_bodyCaptures {text lead tail gap more : List Char}
    (split : text = lead ++ tail ++ more) (ends : tail = bodyOf tail ++ gap ++ markerOf tail)
    (base index : Nat) (body mark : String) :
    namedParts base text (bodyCaptures (.start text) index body mark lead tail gap)
      = [(mark, ⟨⟨base + byteLength (lead ++ bodyOf tail ++ gap),
            base + byteLength (lead ++ bodyOf tail ++ gap) + byteLength (markerOf tail)⟩,
            markerOf tail⟩),
          (body, ⟨⟨base + byteLength lead, base + byteLength lead + byteLength (bodyOf tail)⟩,
            bodyOf tail⟩)] := by
  have whole : text = lead ++ (bodyOf tail ++ gap ++ markerOf tail) ++ more := by
    rw [← ends]
    exact split
  have bodyGroup : text = lead ++ bodyOf tail ++ (gap ++ markerOf tail ++ more) := by
    rw [whole]
    simp
  have markGroup : text = lead ++ bodyOf tail ++ gap ++ markerOf tail ++ more := by
    rw [whole]
    simp
  simp only [namedParts, bodyCaptures, List.filterMap_cons, List.filterMap_nil, capture_name,
    Option.map_some, foundAt_capture bodyGroup, foundAt_capture markGroup]

namespace Stream

variable {delimiters : Delimiters} {stream : Stream} {read text piece left : List Char}

/-- The line on which a part begins that comes after `lead`. -/
theorem At.lineAt {lead more : List Char} (here : At delimiters stream read (lead ++ more))
    (stop : Nat) (piece : List Char) :
    stream.lineAt (some ⟨⟨stream.offset + byteLength lead, stop⟩, piece⟩)
      = stream.line + lineBreaks lead := by
  rw [Stream.lineAt, here.slice_eq]

/-- What the table finds at the position of a stream, given the match of its pattern. -/
theorem At.hit (here : At delimiters stream read text) (index : Nat) (region : Region)
    (stop : Nat) {reached : Place} (found : (regionPattern delimiters).find? text = some reached)
    (stopIs : reached.offset = stop) (positive : stop ≠ 0)
    (rule : (regionTable delimiters).table.rules.find?
      (fun (index, _) => (reached.group? index).isSome) = some (index, region)) :
    stream.regions.table.hitAt? stream.source.toList stream.offset
      = some
        { rule := region
          whole := RuleTable.foundAt stream.offset text ⟨0, stop⟩
          named := namedParts stream.offset text reached.captures } := by
  have same : stream.regions.table.pattern = regionPattern delimiters := by
    rw [here.regions]
    rfl
  have rules : stream.regions.table.rules = (regionTable delimiters).table.rules := by
    rw [here.regions]
  rw [RuleTable.hitAt?, here.dropBytes, Option.bind_some, same, found, Option.bind_some,
    RuleTable.hitOf?, stopIs, if_neg positive, rules, rule]
  rfl

theorem At.step_raw (here : At delimiters stream read text) {reached : Place}
    (found : (rawBlock 2 delimiters.tagStart.toList delimiters.tagEnd.toList).run (.start text)
      (closing 1) = some reached) :
    ∃ piece inner left, NextRegion delimiters text .raw piece inner left
      ∧ Shut delimiters .raw inner ∧ stream.region? = some .raw
      ∧ stream.step = stepOver delimiters stream .raw piece inner left := by
  have first : (regionPattern delimiters).find? text = some reached := by
    rw [find?_regionPattern, found, Option.some_or]
  obtain ⟨head, inner, foot, left, last, cut, closed, reaches⟩ :=
    raw_of_run (total_closing 1) found
  cases closed
  obtain rfl : text = head ++ inner ++ foot ++ left := cut.split
  refine ⟨_, inner, left, .raw cut, ?_⟩
  have group : head ++ inner ++ foot ++ left = head ++ inner ++ (foot ++ left) := by simp
  have hit := here.hit 1 .raw (byteLength (head ++ inner ++ foot)) first
    (by simp [reaches.offset]) (by simp [cut.head_ne])
    (by simp [regionTable, Place.group?])
  have named : namedParts stream.offset (head ++ inner ++ foot ++ left)
      (last.close 1 none 0).captures = [("raw", ⟨⟨stream.offset + byteLength head,
        stream.offset + byteLength head + byteLength inner⟩, inner⟩)] := by
    rw [Place.close_captures, reaches.captures, Place.start_captures, List.append_nil,
      namedParts_unnamed, namedParts_singleton group]
  refine ⟨trivial, by rw [region?, hit]; rfl, ?_⟩
  rw [step, hit, named, stepOver, ← here.moveTo]
  rfl

theorem At.step_statement (here : At delimiters stream read text)
    (noRaw : ¬ OpensRaw delimiters.tagStart.toList delimiters.tagEnd.toList text)
    {reached : Place}
    (found : (statementRegion 4 delimiters.statementStart.toList
      delimiters.statementEnd.toList).run (.start text) (closing 3) = some reached) :
    ∃ piece inner left, NextRegion delimiters text .statement piece inner left
      ∧ Shut delimiters .statement inner ∧ stream.region? = some .statement
      ∧ stream.step = stepOver delimiters stream .statement piece inner left := by
  have first : (regionPattern delimiters).find? text = some reached := by
    rw [find?_regionPattern, run_rawBlock_eq_none noRaw, Option.none_or, found, Option.some_or]
  obtain ⟨inner, lead, gap, left, last, enclosed, shut, body, ends, closed, reaches⟩ :=
    statement_of_run (total_closing 3) (statementEnd_ne here.valid) found
  cases closed
  obtain rfl : text = delimiters.statementStart.toList ++ inner
      ++ delimiters.statementEnd.toList ++ left := enclosed.split
  refine ⟨_, inner, left, .statement noRaw enclosed, ?_⟩
  obtain ⟨tail, tailIs⟩ : ∃ tail, content inner = tail := ⟨_, rfl⟩
  rw [tailIs] at body ends reaches
  have whole : delimiters.statementStart.toList ++ inner ++ delimiters.statementEnd.toList ++ left
      = (delimiters.statementStart.toList ++ lead) ++ (tail
        ++ (delimiters.statementEnd.toList ++ left)) := by
    simp [body]
  have hit := here.hit 3 .statement (byteLength (delimiters.statementStart.toList ++ inner
      ++ delimiters.statementEnd.toList)) first
    (by simp [reaches.offset]) (by simp [statementStart_ne here.valid])
    (by simp [regionTable, Place.group?, reaches.captures, bodyCaptures])
  have named := namedParts_bodyCaptures (whole.trans (List.append_assoc _ _ _).symm) ends
    stream.offset 4 "stmt" "rss"
  have line := (whole ▸ here).lineAt
  have lead_eq : before inner tail = lead := by rw [body, before_append]
  refine ⟨shut, by rw [region?, hit]; rfl, ?_⟩
  rw [step, hit, Place.close_captures, reaches.captures, Place.start_captures, List.append_nil,
    namedParts_unnamed, named, stepOver, ← here.moveTo, tailIs, lead_eq]
  rw [← line (stream.offset + byteLength (delimiters.statementStart.toList ++ lead)
    + byteLength (bodyOf tail)) (bodyOf tail), ← Bool.not_not (endsMarked tail), ← isEmpty_markerOf]
  rfl

theorem At.step_tag (here : At delimiters stream read text)
    (noRaw : ¬ OpensRaw delimiters.tagStart.toList delimiters.tagEnd.toList text)
    (noStatement : ¬ Opens delimiters.statementStart.toList delimiters.statementEnd.toList text)
    {reached : Place}
    (found : (tagRegion 7 delimiters.tagStart.toList delimiters.tagEnd.toList).run (.start text)
      (closing 6) = some reached) :
    ∃ piece inner left, NextRegion delimiters text .tag piece inner left
      ∧ Shut delimiters .tag inner ∧ stream.region? = some .tag
      ∧ stream.step = stepOver delimiters stream .tag piece inner left := by
  have first : (regionPattern delimiters).find? text = some reached := by
    rw [find?_regionPattern, run_rawBlock_eq_none noRaw, Option.none_or,
      run_statementRegion_eq_none noStatement, Option.none_or, found, Option.some_or]
  obtain ⟨inner, lead, between, gap, left, last, enclosed, shut, opened, body, ends, closed,
      reaches⟩ :=
    tag_of_run (total_closing 6) (tagEnd_ne here.valid) found
  cases closed
  obtain rfl : text = delimiters.tagStart.toList ++ inner ++ delimiters.tagEnd.toList ++ left :=
    enclosed.split
  refine ⟨_, inner, left, .tag noRaw noStatement enclosed, ?_⟩
  obtain ⟨tail, tailIs⟩ : ∃ tail, remainder inner = tail := ⟨_, rfl⟩
  obtain ⟨name, nameIs⟩ : ∃ name, nameOf inner = name := ⟨_, rfl⟩
  rw [tailIs, nameIs] at body
  rw [tailIs] at ends
  rw [tailIs, nameIs] at reaches
  rw [body] at opened
  have whole : delimiters.tagStart.toList ++ inner ++ delimiters.tagEnd.toList ++ left
      = (delimiters.tagStart.toList ++ lead ++ name ++ between) ++ (tail
        ++ (delimiters.tagEnd.toList ++ left)) := by
    simp [opened]
  have nameGroup : delimiters.tagStart.toList ++ inner ++ delimiters.tagEnd.toList ++ left
      = (delimiters.tagStart.toList ++ lead) ++ name
        ++ (between ++ tail ++ delimiters.tagEnd.toList ++ left) := by
    simp [opened]
  have hit := here.hit 6 .tag
    (byteLength (delimiters.tagStart.toList ++ inner ++ delimiters.tagEnd.toList)) first
    (by simp [reaches.offset]) (by simp [tagStart_ne here.valid])
    (by simp [regionTable, Place.group?, reaches.captures, bodyCaptures])
  have named := namedParts_bodyCaptures (whole.trans (List.append_assoc _ _ _).symm) ends
    stream.offset 8 "expr" "rst"
  have title := namedParts_singleton nameGroup stream.offset 7 "name"
  have line := (whole ▸ here).lineAt
  have lead_eq : before inner tail = lead ++ name ++ between := by
    rw [opened, ← List.append_assoc, ← List.append_assoc, before_append]
  refine ⟨shut, by rw [region?, hit]; rfl, ?_⟩
  rw [step, hit, Place.close_captures, reaches.captures, Place.start_captures, List.append_nil,
    namedParts_unnamed, namedParts_append, named, title, stepOver, ← here.moveTo, tailIs, nameIs,
    lead_eq, ← List.append_assoc, ← List.append_assoc,
    ← line (stream.offset + byteLength (delimiters.tagStart.toList ++ lead ++ name ++ between)
      + byteLength (bodyOf tail)) (bodyOf tail), ← Bool.not_not (endsMarked tail),
    ← isEmpty_markerOf]
  rfl

/-- A step over plain text depends on the group of this text and on the trim marker after it. -/
theorem At.stepLiteral (here : At delimiters stream read (piece ++ left))
    {hit : RuleTable.Hit Region}
    (group : hit.group? "literal"
      = some ⟨⟨stream.offset, stream.offset + byteLength piece⟩, piece⟩) :
    stream.stepLiteral hit = stream.stepOverLiteral piece (marked hit "rstrip") := by
  simp only [Stream.stepLiteral, group, here.moveTo]
  rfl

theorem At.step_literal (here : At delimiters stream read text)
    (noRaw : ¬ OpensRaw delimiters.tagStart.toList delimiters.tagEnd.toList text)
    (noStatement : ¬ Opens delimiters.statementStart.toList delimiters.statementEnd.toList text)
    (noTag : ¬ Opens delimiters.tagStart.toList delimiters.tagEnd.toList text)
    {reached : Place}
    (found : (literalRegion 11 delimiters.tagStart.toList delimiters.statementStart.toList).run
      (.start text) (closing 10) = some reached) :
    ∃ piece inner left, NextRegion delimiters text .literal piece inner left
      ∧ Shut delimiters .literal inner ∧ stream.region? = some .literal
      ∧ stream.step = stepOver delimiters stream .literal piece inner left := by
  have first : (regionPattern delimiters).find? text = some reached := by
    rw [find?_regionPattern, run_rawBlock_eq_none noRaw, Option.none_or,
      run_statementRegion_eq_none noStatement, Option.none_or, run_tagRegion_eq_none noTag,
      Option.none_or, found]
  obtain ⟨literal, left, captures, last, cut, closed, later, groups, stripped⟩ :=
    literal_of_run _ _ 11 (total_closing 10) found
  cases closed
  obtain rfl : text = literal ++ left := cut.split
  refine ⟨literal, literal, left, .literal noRaw noStatement noTag cut, ?_⟩
  have whole : literal ++ left = [] ++ literal ++ left := rfl
  have title := namedParts_singleton whole stream.offset 11 "literal"
  have named : namedParts stream.offset (literal ++ left) (last.close 10 none 0).captures
      = namedParts stream.offset (literal ++ left) captures
        ++ [("literal", ⟨⟨stream.offset, stream.offset + byteLength literal⟩, literal⟩)] := by
    rw [Place.close_captures, groups, namedParts_unnamed, namedParts_append]
    exact congrArg _ title
  have hit := here.hit 10 .literal last.offset first rfl
    (Nat.ne_of_gt later) (by
      rcases stripped with ⟨-, rfl⟩ | ⟨_, _, _, -, rfl, -⟩ <;>
        simp [regionTable, Place.group?, groups])
  refine ⟨trivial, by rw [region?, hit]; rfl, ?_⟩
  rw [step, hit, named, stepOver]
  rcases stripped with ⟨rfl, rfl⟩ | ⟨opening, trail, more, rest, rfl, marked⟩
  · have bare : strips delimiters.tagStart.toList delimiters.statementStart.toList [] = false := by
      simp [strips]
    rw [bare]
    exact here.stepLiteral rfl
  · have markGroup : literal ++ left = (literal ++ opening) ++ trail ++ more := by
      rw [rest]
      simp
    rw [namedParts_singleton markGroup stream.offset 12 "rstrip"]
    refine (here.stepLiteral rfl).trans (congrArg _ ?_)
    rw [Bool.eq_iff_iff, ← marked]
    show (!trail.isEmpty) = true ↔ trail ≠ []
    simp

/-- A stream steps over the region with which the text at its position begins, and its body does not
go on over the delimiter that closes it. -/
theorem exists_stepOver (here : At delimiters stream read text) (nonempty : text ≠ []) :
    ∃ region piece inner left, NextRegion delimiters text region piece inner left
      ∧ Shut delimiters region inner ∧ stream.region? = some region
      ∧ stream.step = stepOver delimiters stream region piece inner left := by
  by_cases noRaw : OpensRaw delimiters.tagStart.toList delimiters.tagEnd.toList text
  · have found := mt (needs_rawBlock 2 (total_closing 1) (.start text)).1 (not_not.2 noRaw)
    obtain ⟨reached, found⟩ := Option.ne_none_iff_exists'.1 found
    exact ⟨.raw, here.step_raw found⟩
  by_cases noStatement :
      Opens delimiters.statementStart.toList delimiters.statementEnd.toList text
  · have found := mt (needs_statementRegion 4 (total_closing 3) (.start text)).1
      (not_not.2 noStatement)
    obtain ⟨reached, found⟩ := Option.ne_none_iff_exists'.1 found
    exact ⟨.statement, here.step_statement noRaw found⟩
  by_cases noTag : Opens delimiters.tagStart.toList delimiters.tagEnd.toList text
  · have found := mt (needs_tagRegion 7 (total_closing 6) (.start text)).1 (not_not.2 noTag)
    obtain ⟨reached, found⟩ := Option.ne_none_iff_exists'.1 found
    exact ⟨.tag, here.step_tag noRaw noStatement found⟩
  · have found := literalRegion_ne_none delimiters.tagStart.toList
      delimiters.statementStart.toList 11 (total_closing 10) (.start text) nonempty
    obtain ⟨reached, found⟩ := Option.ne_none_iff_exists'.1 found
    exact ⟨.literal, here.step_literal noRaw noStatement noTag found⟩

/-- A stream steps over the region with which the text at its position begins. -/
theorem step_eq_stepOver (here : At delimiters stream read text) (nonempty : text ≠ []) :
    ∃ region piece inner left, NextRegion delimiters text region piece inner left
      ∧ stream.region? = some region
      ∧ stream.step = stepOver delimiters stream region piece inner left := by
  obtain ⟨region, piece, inner, left, next, -, kind, step⟩ := exists_stepOver here nonempty
  exact ⟨region, piece, inner, left, next, kind, step⟩

/-- Where nothing is left, nothing is found. -/
theorem At.hitAt?_of_end (here : At delimiters stream read []) :
    stream.regions.table.hitAt? stream.source.toList stream.offset = none := by
  have noRaw : ¬ OpensRaw delimiters.tagStart.toList delimiters.tagEnd.toList [] := by
    rintro ⟨after, ⟨lead, gap, split, -, -⟩, -⟩
    simp [tagStart_ne here.valid] at split
  have noStatement :
      ¬ Opens delimiters.statementStart.toList delimiters.statementEnd.toList [] := by
    rintro ⟨left, split, -⟩
    simp [statementStart_ne here.valid] at split
  have noTag : ¬ Opens delimiters.tagStart.toList delimiters.tagEnd.toList [] := by
    rintro ⟨left, split, -⟩
    simp [tagStart_ne here.valid] at split
  have missed : (regionPattern delimiters).find? [] = none := by
    rw [find?_regionPattern, run_rawBlock_eq_none noRaw, Option.none_or,
      run_statementRegion_eq_none noStatement, Option.none_or, run_tagRegion_eq_none noTag,
      Option.none_or, run_literalRegion]
    rfl
  have same : stream.regions.table.pattern = regionPattern delimiters := by
    rw [here.regions]
    rfl
  rw [RuleTable.hitAt?, here.dropBytes, Option.bind_some, same, missed]
  rfl

/-- Where nothing is left, no region begins. -/
theorem At.step_of_end (here : At delimiters stream read []) :
    stream.step = .stop stream.finish := by
  rw [step, here.hitAt?_of_end]

/-- Where nothing is left, there is no kind of region. -/
theorem At.region?_of_end (here : At delimiters stream read []) : stream.region? = none := by
  rw [region?, here.hitAt?_of_end]
  rfl

end Stream

end LiquidTokens.Template
