import LiquidTokens.Proofs.Template.Visits
import Mathlib.Data.List.TakeWhile

/-!
Trim markers, for delimiters of any kind.

Plain text loses the blanks at its start if the last statement or tag before it ended in a trim
marker, whatever raw blocks lie in between. Whether it loses those at its end is decided before
the next region is known: by the hyphen after the opening delimiter that the pattern of plain text
tries first, which is that of a tag. This is the opening delimiter of the region itself unless the
region is a statement at which a tag could open as well (`<%` and `<%=`), and then the two can
disagree.

Main statement: `literal_trims`.
-/

namespace LiquidTokens.Template

open Text (byteLength isBlank isWord lineBreaks slice trimStart trimEnd)

/-! ### The regions of a run -/

/-- A region of a template: its kind, the part of the source that it covers and the tokens that
it gives. -/
structure Passage where
  region : Region
  piece : List Char
  tokens : List Token
  deriving DecidableEq, Repr

/-- The regions from the position of a stream on, at most `count` of them, as the stream steps
over them. -/
def Stream.passages : Nat → Stream → List Passage
  | 0, _ => []
  | count + 1, stream =>
      match stream.region?, stream.step.entry with
      | some region, some (tokens, after) =>
          ⟨region, slice stream.source.toList ⟨stream.offset, after.offset⟩, tokens⟩
            :: passages count after
      | _, _ => []

/-- The regions of a source; there are no more of them than it has characters. -/
def RegionTable.passages (regions : RegionTable) (source : String) : List Passage :=
  (Stream.start regions source).passages source.length

/-- A visited region as a passage. -/
def Visit.passage (visit : Visit) : Passage :=
  ⟨visit.region, visit.piece, visit.tokens⟩

/-- The text that some passages cover. -/
def covered (passages : List Passage) : List Char :=
  passages.flatMap Passage.piece

/-! ### Trim markers -/

/-- What lies between two delimiters. -/
def inside (start stop piece : List Char) : List Char :=
  before (piece.drop start.length) stop

/-- The region is a statement or a tag that ends in a trim marker. A hyphen that directly follows
the opening delimiter is the marker of the other side. -/
def endsInMarker (delimiters : Delimiters) (passage : Passage) : Bool :=
  match passage.region with
  | .statement =>
      endsMarked (unhyphened (inside delimiters.statementStart.toList
        delimiters.statementEnd.toList passage.piece))
  | .tag =>
      endsMarked (unhyphened (inside delimiters.tagStart.toList delimiters.tagEnd.toList
        passage.piece))
  | .raw | .literal => false

/-- The last region before that is no raw block is a statement or a tag that ended in a trim
marker. -/
def AfterMarker (delimiters : Delimiters) (earlier : List Passage) : Prop :=
  ∃ others marked blocks, earlier = others ++ marked :: blocks
    ∧ endsInMarker delimiters marked = true ∧ ∀ block ∈ blocks, block.region = .raw

/-- The opening delimiter of a region of this kind is directly followed by a trim marker. -/
def opensWithMarker (delimiters : Delimiters) (region : Region) (text : List Char) : Bool :=
  match region with
  | .statement => (delimiters.statementStart.toList ++ ['-']).isPrefixOf text
  | .tag => (delimiters.tagStart.toList ++ ['-']).isPrefixOf text
  | .raw | .literal => false

/-! ### Markers of an inside -/

theorem inside_append (start inner stop : List Char) :
    inside start stop (start ++ inner ++ stop) = inner := by
  rw [inside, List.append_assoc, List.drop_left, before_append]

/-- Taking characters other than a hyphen off the start of a text changes nothing at its end. -/
theorem endsMarked_dropWhile {p : Char → Bool} (other : p '-' = false) (text : List Char) :
    endsMarked (text.dropWhile p) = endsMarked text := by
  rw [endsMarked, endsMarked]
  conv_rhs => rw [← List.takeWhile_append_dropWhile (p := p) (l := text)]
  rw [List.getLast?_append]
  cases rest : text.dropWhile p with
  | cons c rest => simp
  | nil =>
      simp only [List.getLast?_nil, Option.none_or]
      cases last : (text.takeWhile p).getLast? with
      | none => rfl
      | some c =>
          have inside : p c = true := List.mem_takeWhile_imp (List.mem_of_getLast? last)
          have different : c ≠ '-' := by
            rintro rfl
            rw [other] at inside
            cases inside
          simp [different]

theorem endsMarked_content (inner : List Char) :
    endsMarked (content inner) = endsMarked (unhyphened inner) :=
  endsMarked_dropWhile isBlank_hyphen _

theorem endsMarked_remainder (inner : List Char) :
    endsMarked (remainder inner) = endsMarked (unhyphened inner) := by
  rw [remainder, trimStart, endsMarked_dropWhile isBlank_hyphen,
    endsMarked_dropWhile isWord_hyphen, endsMarked_content]

/-! ### The wish to trim -/

/-- A raw block keeps the wish to trim, plain text uses it up, and a statement or a tag says
anew. -/
def nextWish (delimiters : Delimiters) (wish : Bool) (passage : Passage) : Bool :=
  match passage.region with
  | .raw => wish
  | _ => endsInMarker delimiters passage

theorem afterMarker_concat (delimiters : Delimiters) (earlier : List Passage) (last : Passage) :
    AfterMarker delimiters (earlier ++ [last]) ↔ endsInMarker delimiters last = true
      ∨ last.region = .raw ∧ AfterMarker delimiters earlier := by
  constructor
  · rintro ⟨others, marked, blocks, split, ends, raw⟩
    rcases blocks.eq_nil_or_concat with rfl | ⟨blocks, block, rfl⟩
    · obtain ⟨-, same⟩ := List.append_inj' split rfl
      obtain rfl := List.singleton_inj.1 same
      exact .inl ends
    · rw [List.concat_eq_append] at split raw
      rw [← List.cons_append, ← List.append_assoc] at split
      obtain ⟨rfl, same⟩ := List.append_inj' split rfl
      obtain rfl := List.singleton_inj.1 same
      exact .inr ⟨raw last (by simp), others, marked, blocks, rfl, ends,
        fun block member => raw block (by simp [member])⟩
  · rintro (ends | ⟨raw, others, marked, blocks, rfl, ends, raws⟩)
    · exact ⟨earlier, last, [], rfl, ends, by simp⟩
    · refine ⟨others, marked, blocks ++ [last], by simp, ends, ?_⟩
      intro block member
      rcases List.mem_append.1 member with member | member
      · exact raws block member
      · rwa [List.mem_singleton.1 member]

theorem foldl_nextWish_iff (delimiters : Delimiters) (earlier : List Passage) :
    earlier.foldl (nextWish delimiters) false = true ↔ AfterMarker delimiters earlier := by
  induction earlier using List.reverseRecOn with
  | nil => simp [AfterMarker]
  | append_singleton earlier last ih =>
      rw [List.foldl_append, List.foldl_cons, List.foldl_nil, nextWish, afterMarker_concat]
      cases kind : last.region with
      | raw => simp [endsInMarker, kind, ih]
      | statement | tag | literal => simp

namespace Stream

variable {delimiters : Delimiters} {stream after : Stream} {read text piece inner left : List Char}
  {region : Region} {tokens : List Token} {visits : List Visit} {error : Option LexError}

/-- What a region leaves as the wish to trim. -/
theorem trimNext_of_entry (next : NextRegion delimiters text region piece inner left)
    (entry : (stepOver delimiters stream region piece inner left).entry = some (tokens, after)) :
    after.trimNext = nextWish delimiters stream.trimNext ⟨region, piece, tokens⟩ := by
  cases next with
  | raw =>
      rw [stepOver] at entry
      split at entry <;> obtain ⟨-, rfl⟩ := Prod.mk.inj (Option.some.inj entry) <;> rfl
  | statement =>
      obtain ⟨-, rfl⟩ := Prod.mk.inj (Option.some.inj entry)
      simp only [nextWish, endsInMarker]
      rw [inside_append, ← endsMarked_content]
  | tag =>
      obtain ⟨-, rfl⟩ := Prod.mk.inj (Option.some.inj entry)
      simp only [nextWish, endsInMarker]
      rw [inside_append, ← endsMarked_remainder]
  | literal =>
      simp only [stepOver, stepOverLiteral] at entry
      split at entry
      · obtain ⟨-, rfl⟩ := Prod.mk.inj (Option.some.inj entry)
        rfl
      · split at entry
        · cases entry
        · obtain ⟨-, rfl⟩ := Prod.mk.inj (Option.some.inj entry)
          rfl

/-- The passages of a stream are the regions that it visits. -/
theorem passages_of_visits (visited : Visits delimiters stream visits error)
    {read text : List Char} (ready : Ready delimiters stream read text) {count : Nat}
    (enough : text.length ≤ count) : stream.passages count = visits.map Visit.passage := by
  induction visited generalizing read text count with
  | ended step =>
      cases count with
      | zero => rfl
      | succ count => simp [passages, step, Step.entry]
  | failed step =>
      cases count with
      | zero => rfl
      | succ count => simp [passages, step, Step.entry]
  | @visit stream after region piece inner left tokens visits error next kind step entry later ih =>
      rw [ready.rest_eq] at next
      have following := ready.past_region next (step ▸ entry)
      have shorter := next.length_left_lt ready.valid
      obtain ⟨count, rfl⟩ : ∃ less, count = less + 1 := ⟨count - 1, by omega⟩
      have covers := (next.split ▸ ready.toAt).slice_eq
      have stop : after.offset = stream.offset + byteLength piece := by
        rw [following.offset, ready.offset, Text.byteLength_append]
      have further := ih following (show left.length ≤ count by omega)
      simp only [passages, kind, entry, further, List.map_cons, Visit.passage, stop, covers]

/-- Where a stream stands after some of its passages. -/
theorem ready_after (visited : Visits delimiters stream visits error) {read text : List Char}
    (ready : Ready delimiters stream read text) {earlier later : List Passage}
    (split : visits.map Visit.passage = earlier ++ later) :
    ∃ middle rest visits', text = covered earlier ++ rest
      ∧ Ready delimiters middle (read ++ covered earlier) rest
      ∧ middle.trimNext = earlier.foldl (nextWish delimiters) stream.trimNext
      ∧ Visits delimiters middle visits' error ∧ visits'.map Visit.passage = later := by
  induction earlier generalizing stream visits read text with
  | nil => exact ⟨stream, text, visits, rfl, by simpa [covered] using ready, rfl, visited, split⟩
  | cons passage earlier ih =>
      cases visited with
      | ended => cases split
      | failed => cases split
      | visit next kind step entry later =>
          obtain ⟨rfl, others⟩ := List.cons_eq_cons.1 split
          rw [ready.rest_eq] at next
          rw [step] at entry
          obtain ⟨middle, rest, visits', left, reached, wish, further, same⟩ :=
            ih later (ready.past_region next entry) others
          refine ⟨middle, rest, visits', ?_, by simpa [covered, Visit.passage] using reached, ?_,
            further, same⟩
          · rw [next.split, left]
            simp [covered, Visit.passage]
          rw [wish, trimNext_of_entry next entry]
          rfl

/-- Plain text gives itself, trimmed as far as it is to be, or nothing. -/
theorem tokens_of_literal (nothing : stream.pending = none) {literal : List Char} {atEnd : Bool}
    (entry : (stepOverLiteral stream literal atEnd).entry = some (tokens, after)) :
    tokens = tokenUnlessEmpty stream.line .literal (trimmed stream.trimNext atEnd literal) := by
  simp only [stepOverLiteral] at entry
  generalize trimmed stream.trimNext atEnd literal = value at entry ⊢
  split at entry
  · next empty =>
      obtain ⟨rfl, -⟩ := Prod.mk.inj (Option.some.inj entry)
      simp [tokenUnlessEmpty, empty]
  · next some =>
      split at entry
      · cases entry
      · obtain ⟨rfl, -⟩ := Prod.mk.inj (Option.some.inj entry)
        simp [tokenUnlessEmpty, some, past, nothing, token]

end Stream

/-! ### Plain text before a statement or a tag -/

/-- The hyphen that decides on the end of plain text is the trim marker of the region after it,
unless this region is a statement at which a tag could open as well and only one of the two
opening delimiters is followed by a hyphen. -/
theorem strips_eq_opensWithMarker_iff {delimiters : Delimiters} {text piece inner left : List Char}
    {region : Region} (next : NextRegion delimiters text region piece inner left)
    (delimited : region = .statement ∨ region = .tag) :
    strips delimiters.tagStart.toList delimiters.statementStart.toList text
        = opensWithMarker delimiters region text
      ↔ region = .tag ∨ (delimiters.tagStart.toList <+: text →
          ((delimiters.tagStart.toList ++ ['-']) <+: text
            ↔ (delimiters.statementStart.toList ++ ['-']) <+: text)) := by
  cases next with
  | raw => simp at delimited
  | literal => simp at delimited
  | tag noRaw noStatement enclosed =>
      have stands : delimiters.tagStart.toList.isPrefixOf text = true := by
        rw [List.isPrefixOf_iff_prefix, enclosed.split, List.append_assoc, List.append_assoc]
        exact List.prefix_append _ _
      simp [strips, stands, opensWithMarker]
  | statement noRaw enclosed =>
      by_cases stands : delimiters.tagStart.toList.isPrefixOf text = true
      · have met := List.isPrefixOf_iff_prefix.1 stands
        rw [strips, if_pos stands, opensWithMarker, Bool.eq_iff_iff, List.isPrefixOf_iff_prefix,
          List.isPrefixOf_iff_prefix]
        simp [met]
      · have missed := mt List.isPrefixOf_iff_prefix.2 stands
        simp [strips, stands, opensWithMarker, missed]

/-- When neither opening delimiter is a proper beginning of the other, the region after plain text
decides on its end by its own trim marker. -/
theorem strips_eq_opensWithMarker {delimiters : Delimiters} {text piece inner left : List Char}
    {region : Region} (next : NextRegion delimiters text region piece inner left)
    (delimited : region = .statement ∨ region = .tag)
    (tagApart : delimiters.tagStart.toList <+: delimiters.statementStart.toList →
      delimiters.tagStart = delimiters.statementStart)
    (statementApart : delimiters.statementStart.toList <+: delimiters.tagStart.toList →
      delimiters.statementStart = delimiters.tagStart) :
    strips delimiters.tagStart.toList delimiters.statementStart.toList text
      = opensWithMarker delimiters region text := by
  rw [strips_eq_opensWithMarker_iff next delimited]
  cases next with
  | raw => simp at delimited
  | literal => simp at delimited
  | tag => exact .inl rfl
  | statement noRaw enclosed =>
      refine .inr fun tag => ?_
      have statement : delimiters.statementStart.toList <+: text := by
        rw [enclosed.split, List.append_assoc, List.append_assoc]
        exact List.prefix_append _ _
      have same : delimiters.tagStart = delimiters.statementStart := by
        rcases List.prefix_or_prefix_of_prefix tag statement with within | within
        · exact tagApart within
        · exact (statementApart within).symm
      rw [same]

/-- Plain text that a statement or a tag follows gives its text, trimmed at the start exactly
after a region that ended in a trim marker, and at the end by the hyphen after the opening
delimiter that is tried first. This is the trim marker of the region that follows, with the one
exception of `strips_eq_opensWithMarker_iff`. -/
theorem literal_trims {delimiters : Delimiters} (valid : delimiters.validate = .ok ())
    (source : String) :
    ∃ regions, RegionTable.compile delimiters = .ok regions
      ∧ (regions.tokenize source).tokens = (regions.passages source).flatMap Passage.tokens
      ∧ ∀ earlier literal following later,
          regions.passages source = earlier ++ literal :: following :: later →
          literal.region = .literal →
          following.region = .statement ∨ following.region = .tag →
          ∃ rest atStart atEnd, source.toList = covered earlier ++ literal.piece ++ rest
            ∧ following.piece <+: rest
            ∧ literal.tokens = tokenUnlessEmpty (1 + lineBreaks (covered earlier)) .literal
                (trimmed atStart atEnd literal.piece)
            ∧ (atStart = true ↔ AfterMarker delimiters earlier)
            ∧ atEnd = strips delimiters.tagStart.toList delimiters.statementStart.toList rest
            ∧ (atEnd = opensWithMarker delimiters following.region rest
                ↔ following.region = .tag ∨ (delimiters.tagStart.toList <+: rest →
                  ((delimiters.tagStart.toList ++ ['-']) <+: rest
                    ↔ (delimiters.statementStart.toList ++ ['-']) <+: rest)))
            ∧ ((delimiters.tagStart.toList <+: delimiters.statementStart.toList →
                  delimiters.tagStart = delimiters.statementStart) →
                (delimiters.statementStart.toList <+: delimiters.tagStart.toList →
                  delimiters.statementStart = delimiters.tagStart) →
                atEnd = opensWithMarker delimiters following.region rest) := by
  have ready := Stream.ready_start valid source
  obtain ⟨visits, error, visited⟩ := Stream.exists_visits ready
  have passages : (regionTable delimiters).passages source = visits.map Visit.passage :=
    Stream.passages_of_visits visited ready String.length_toList.le
  refine ⟨regionTable delimiters, compile_eq_ok valid, ?_, ?_⟩
  · rw [RegionTable.tokenize, Stream.run_of_visits visited ready, passages, List.flatMap_map]
    rfl
  · intro earlier literal following later split isLiteral delimited
    rw [passages] at split
    obtain ⟨middle, text, further, whole, reached, wish, visited, same⟩ :=
      Stream.ready_after visited ready split
    rw [List.nil_append] at reached
    cases visited with
    | ended => cases same
    | failed => cases same
    | @visit _ after region piece inner rest tokens _ _ next kind step entry visited =>
        obtain ⟨rfl, others⟩ := List.cons_eq_cons.1 same
        obtain rfl : region = .literal := isLiteral
        rw [reached.rest_eq] at next
        rw [step] at entry
        have ready := reached.past_region next entry
        -- The region that follows is visited next, so it begins in the text behind the literal.
        cases visited with
        | ended => cases others
        | failed => cases others
        | visit after =>
            obtain ⟨rfl, -⟩ := List.cons_eq_cons.1 others
            rw [ready.rest_eq] at after
            have same : piece = inner := by cases next; rfl
            subst same
            have given := Stream.tokens_of_literal reached.nothing entry
            refine ⟨rest, middle.trimNext, _, ?_, ⟨_, after.split.symm⟩, ?_, ?_, rfl,
              strips_eq_opensWithMarker_iff after delimited,
              strips_eq_opensWithMarker after delimited⟩
            · rw [Visit.passage, List.append_assoc, ← next.split]
              exact whole
            · rw [← reached.line]
              exact given
            · rw [wish]
              exact foldl_nextWish_iff delimiters earlier

/-- Where only the opening delimiter of statements is followed by a hyphen, but a tag could open
as well, the plain text before the statement keeps its blank. -/
theorem literal_end_kept :
    opensWithMarker ⟨"<%", "%>", "<%=", "%>"⟩ .statement "<%=- x %>".toList = true
      ∧ ((RegionTable.compile ⟨"<%", "%>", "<%=", "%>"⟩).toOption.map fun regions =>
          regions.passages "a <%=- x %>")
        = some [⟨.literal, "a ".toList, [⟨1, .literal, "a "⟩]⟩,
            ⟨.statement, "<%=- x %>".toList, [⟨1, .statement, "x"⟩]⟩] := by
  decide +kernel

/-- A literal that is trimmed on both sides, with a raw block between it and the statement whose
marker trims its start. -/
theorem literal_trims_after_raw :
    Delimiters.validate ⟨"<%", "%>", "<%=", "%>"⟩ = .ok ()
      ∧ ∃ regions, RegionTable.compile ⟨"<%", "%>", "<%=", "%>"⟩ = .ok regions
        ∧ ∃ statement block literal tag,
          regions.passages "<%= y -%><%raw%>z<%endraw%>\n a <%- x %>"
              = [statement, block, literal, tag]
            ∧ literal.region = .literal ∧ tag.region = .tag
            ∧ ∃ rest, "<%= y -%><%raw%>z<%endraw%>\n a <%- x %>".toList
                = covered [statement, block] ++ literal.piece ++ rest
              ∧ literal.tokens = tokenUnlessEmpty 1 .literal (trimmed true
                  (opensWithMarker ⟨"<%", "%>", "<%=", "%>"⟩ .tag rest) literal.piece) := by
  have valid : Delimiters.validate ⟨"<%", "%>", "<%=", "%>"⟩ = .ok () := by decide
  refine ⟨valid, ?_⟩
  obtain ⟨regions, made, -, trims⟩ :=
    literal_trims valid "<%= y -%><%raw%>z<%endraw%>\n a <%- x %>"
  have passages : ((RegionTable.compile ⟨"<%", "%>", "<%=", "%>"⟩).toOption.map fun regions =>
        regions.passages "<%= y -%><%raw%>z<%endraw%>\n a <%- x %>")
      = some [⟨.statement, "<%= y -%>".toList, [⟨1, .statement, "y"⟩]⟩,
          ⟨.raw, "<%raw%>z<%endraw%>".toList, [⟨1, .literal, "z"⟩]⟩,
          ⟨.literal, "\n a ".toList, [⟨1, .literal, "a"⟩]⟩,
          ⟨.tag, "<%- x %>".toList, [⟨2, .tag, "x"⟩]⟩] := by
    decide +kernel
  rw [made] at passages
  have split := Option.some.inj passages
  obtain ⟨rest, atStart, atEnd, source, -, tokens, start, -, agree, -⟩ :=
    trims [_, _] _ _ [] split rfl (.inr rfl)
  refine ⟨regions, made, _, _, _, _, split, rfl, rfl, rest, source, ?_⟩
  have after : atStart = true := start.2 ⟨[], _, [_], rfl, by decide +kernel, by simp⟩
  rw [agree.2 (.inl rfl), after] at tokens
  exact tokens

end LiquidTokens.Template
