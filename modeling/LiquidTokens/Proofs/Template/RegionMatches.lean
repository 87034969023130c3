import LiquidTokens.Proofs.Template.Inside
import LiquidTokens.Proofs.Template.RegionPatterns

/-!
What the region patterns match, said of the text alone.

Each pattern is followed part by part with what the rest of it needs: until its closing delimiter
has been read, the rest of a statement or of a tag needs no more than that this delimiter still
occurs.

Main statements: `raw_of_run`, `statement_of_run`, `tag_of_run` and `literal_of_run`, which say
how a region that is found lies in the text, each with the condition under which none is found
(`needs_rawBlock`, `needs_statementRegion`, `needs_tagRegion` and `run_literalRegion_ne_none`).
-/

namespace LiquidTokens.Template

open Pattern
open Text (byteLength isBlank isWord)

variable {α : Type} {next : Place → Option α} {place reached : Place} {a : α}
  {start stop : List Char}

/-! ### Places reached -/

/-- What a group remembers that has read `piece` after `before`. -/
def capture (place : Place) (index : Nat) (name : Option String) (before piece : List Char) :
    Capture :=
  ⟨index, name, ⟨place.offset + byteLength before,
    place.offset + byteLength before + byteLength piece⟩⟩

@[simp] theorem capture_index (place : Place) (index : Nat) (name : Option String)
    (before piece : List Char) : (capture place index name before piece).index = index := rfl

@[simp] theorem capture_name (place : Place) (index : Nat) (name : Option String)
    (before piece : List Char) : (capture place index name before piece).name = name := rfl

/-- A place lies after some characters, with some more groups closed. -/
structure Reaches (place reached : Place) (read left : List Char) (closed : List Capture) :
    Prop where
  rest : reached.rest = left
  offset : reached.offset = place.offset + byteLength read
  captures : reached.captures = closed ++ place.captures

/-! ### Until the closing delimiter -/

theorem needs_infix_greedyRun (set : CharSet) (inhabited : set ≠ .none)
    (needs : Needs (stop <:+: ·) next) : Needs (stop <:+: ·) ((greedyRun set).run · next) := by
  intro place
  rw [needs.greedyRun set inhabited place, not_iff_not]
  constructor
  · rintro ⟨u, v, split, -, come⟩
    rw [split]
    exact come.trans (List.suffix_append u v).isInfix
  · intro come
    exact ⟨[], place.rest, rfl, by simp, come⟩

theorem needs_infix_hyphenMark (needs : Needs (stop <:+: ·) next) :
    Needs (stop <:+: ·) (hyphenMark.run · next) := by
  intro place
  rw [hyphenMark, needs.optional ['-'] rfl place, not_iff_not]
  constructor
  · rintro ⟨u, v, split, -, come⟩
    rw [split]
    exact come.trans (List.suffix_append u v).isInfix
  · intro come
    exact ⟨[], place.rest, rfl, .inr rfl, come⟩

/-- A greedy run stops as late as the closing delimiter allows. -/
theorem longest_of_run {set : CharSet} (inhabited : set ≠ .none)
    (needs : Needs (stop <:+: ·) next) (found : (greedyRun set).run place next = some a) :
    ∃ u v, place.rest = u ++ v ∧ (∀ c ∈ u, set.contains c = true)
      ∧ next (place.pass u v) = some a ∧ Longest set.contains stop v := by
  obtain ⟨u, v, split, inside, reached, longest⟩ := split_of_run_greedyRun inhabited found
  refine ⟨u, v, split, inside, reached, ?_⟩
  rintro w v' rfl some members
  exact (needs _).1 (longest w v' rfl some members)

/-- A trim marker is read wherever the rest then succeeds. -/
theorem hyphen_of_run {holds : List Char → Prop} (needs : Needs holds next)
    (found : hyphenMark.run place next = some a) :
    ∃ u v, place.rest = u ++ v ∧ next (place.pass u v) = some a
      ∧ (u = ['-'] ∨ u = [] ∧ ∀ left, v = '-' :: left → ¬ holds left) :=
  split_of_run_optional needs rfl found

/-! ### The end of a statement or a tag -/

section BodyEnd

variable (stop : List Char) (index : Nat) (body mark : String) (total : Total next)
include total

/-- After the body: blanks, a trim marker and the closing delimiter. -/
theorem needs_closes :
    Needs (Closes stop) fun place =>
      blankRun.run place fun b =>
        hyphenMark.run b fun c =>
          (text stop).run (c.close (index + 1) (some mark) b.offset) next := by
  have marked : Needs (fun t => ∃ u v, t = u ++ v ∧ (u = ['-'] ∨ u = []) ∧ ∃ left, v = stop ++ left)
      fun b => hyphenMark.run b fun c =>
        (text stop).run (c.close (index + 1) (some mark) b.offset) next := by
    intro b
    have ends := ((total.text stop).close (index + 1) (some mark) b.offset).optional
      ['-'] rfl b
    simpa [hyphenMark] using ends
  intro place
  rw [blankRun, marked.greedyRun .blank (by decide) place, not_iff_not]
  constructor
  · rintro ⟨gap, _, split, blank, trail, _, rfl, hyphen, left, rfl⟩
    exact ⟨gap, trail, left, by simpa using split, blank, hyphen⟩
  · rintro ⟨gap, trail, left, split, blank, hyphen⟩
    exact ⟨gap, _, by simpa using split, blank, trail, _, rfl, hyphen, left, rfl⟩

theorem needs_bodyEnd :
    Needs (stop <:+: ·) ((ofItems (bodyEnd index body mark stop)).run · next) := by
  intro place
  have closes := (needs_closes stop index mark total).close index (some body)
    place.offset
  refine (closes.lazyText place).trans (not_congr ?_)
  constructor
  · rintro ⟨u, _, split, gap, trail, left, rfl, -, -⟩
    exact ⟨u ++ gap ++ trail, left, by simp [split]⟩
  · rintro ⟨u, left, split⟩
    exact ⟨u, stop ++ left, by simpa using split.symm, [], [], left, by simp, by simp, .inr rfl⟩

/-- The body ends at the first place where it can be closed. -/
theorem bodyCut_of_run (found : (ofItems (bodyEnd index body mark stop)).run place next = some a) :
    ∃ (text : List Char) (cut : BodyCut stop text) (reached : Place), place.rest = text
      ∧ next reached = some a
      ∧ Reaches place reached (cut.inner ++ stop) cut.left
          [capture place (index + 1) (some mark) (cut.body ++ cut.gap) cut.trail,
            capture place index (some body) [] cut.body] := by
  have closes := (needs_closes stop index mark total).close index (some body)
    place.offset
  obtain ⟨u, ending, split, found, shortest⟩ := split_of_run_lazyText found
  obtain ⟨gap, marking, spaced, blank, found, -⟩ := split_of_run_greedyRun (by decide) found
  have ends := (total.text stop).close (index + 1) (some mark)
    (((place.pass u ending).close index (some body) place.offset).pass gap marking).offset
  obtain ⟨trail, closing, marked, found, hyphen⟩ := hyphen_of_run ends found
  obtain ⟨left, stopped, found⟩ := run_text_iff.1 found
  simp only [Place.close_rest, Place.pass_rest] at spaced marked stopped
  subst stopped marked spaced
  refine ⟨_, ⟨u, gap, trail, left, by simpa using split, blank, hyphen.imp_right And.left, ?_⟩, _,
    rfl, found, ⟨rfl, ?_, ?_⟩⟩
  · intro u' w whole long
    simpa using closes.not_of_none (shortest u' w whole long)
  · simp [BodyCut.inner, Nat.add_assoc]
  · simp [capture, Nat.add_assoc]

end BodyEnd

/-! ### The start of a statement or a tag -/

theorem leadCut_of_run (needs : Needs (stop <:+: ·) next)
    (found : hyphenMark.run place (fun b => blankRun.run b next) = some a) :
    ∃ (text : List Char) (cut : LeadCut stop text), place.rest = text ∧
      next (place.pass (cut.mark ++ cut.lead) cut.rest) = some a := by
  have spaced := needs_infix_greedyRun .blank (by decide) needs
  obtain ⟨mark, after, marked, found, hyphen⟩ := hyphen_of_run spaced found
  obtain ⟨lead, rest, split, blank, found, longest⟩ := longest_of_run (by decide) needs found
  simp only [Place.pass_rest] at split
  subst split
  refine ⟨_, ⟨mark, lead, rest, by simpa using marked, hyphen, blank, longest⟩, rfl, ?_⟩
  rwa [Place.pass_pass] at found

theorem nameCut_of_run (needs : Needs (stop <:+: ·) next) (index : Nat)
    (found : (greedyRun .word).run place (fun b =>
      blankRun.run (b.close index (some "name") place.offset) next) = some a) :
    ∃ (text : List Char) (cut : NameCut stop text), place.rest = text ∧
      next (((place.pass cut.name (cut.spacing ++ cut.rest)).close index (some "name")
        place.offset).pass cut.spacing cut.rest) = some a := by
  have spaced := (needs_infix_greedyRun .blank (by decide) needs).close index
    (some "name") place.offset
  obtain ⟨name, after, split, word, found, longestName⟩ := longest_of_run (by decide) spaced found
  obtain ⟨spacing, rest, more, blank, found, longest⟩ := longest_of_run (by decide) needs found
  simp only [Place.close_rest, Place.pass_rest] at more
  subst more
  exact ⟨_, ⟨name, spacing, rest, by simpa using split, word, longestName, blank, longest⟩, rfl,
    found⟩

/-! ### Statements and tags -/

/-- A text begins with a region between two delimiters. -/
structure Enclosed (start stop text inner left : List Char) : Prop where
  split : text = start ++ inner ++ stop ++ left
  late : Late stop inner (stop ++ left)

/-- What the groups of a body and of the trim marker after it remember. -/
def bodyCaptures (place : Place) (index : Nat) (body mark : String)
    (before tail gap : List Char) : List Capture :=
  [capture place (index + 1) (some mark) (before ++ bodyOf tail ++ gap) (markerOf tail),
    capture place index (some body) before (bodyOf tail)]

/-- A statement and a tag are found wherever their delimiters come one after the other. -/
def Opens (start stop text : List Char) : Prop :=
  ∃ left, text = start ++ left ∧ stop <:+: left

theorem needs_statementRegion (index : Nat) (total : Total next) :
    Needs (Opens start stop) ((statementRegion index start stop).run · next) :=
  (needs_infix_hyphenMark (needs_infix_greedyRun .blank (by decide)
    (needs_bodyEnd stop index "stmt" "rss" total))).text start

theorem statement_of_run {index : Nat} (total : Total next) (nonempty : stop ≠ [])
    (found : (statementRegion index start stop).run place next = some a) :
    ∃ inner before gap left reached, Enclosed start stop place.rest inner left
      ∧ ¬ stop <:+: bodyOf (content inner)
      ∧ inner = before ++ content inner
      ∧ content inner = bodyOf (content inner) ++ gap ++ markerOf (content inner)
      ∧ next reached = some a
      ∧ Reaches place reached (start ++ inner ++ stop) left
          (bodyCaptures place index "stmt" "rss" (start ++ before) (content inner) gap) := by
  obtain ⟨after, opened, found⟩ := run_text_iff.1 found
  obtain ⟨_, lead, begins, found⟩ :=
    leadCut_of_run (needs_bodyEnd stop index "stmt" "rss" total) found
  obtain ⟨_, cut, reached, follows, found, reaches⟩ :=
    bodyCut_of_run stop index "stmt" "rss" total found
  have ends : lead.rest = cut.inner ++ stop ++ cut.left := follows.trans cut.split_inner
  have body := lead.content_eq ends
  refine ⟨lead.mark ++ lead.lead ++ cut.inner, lead.mark ++ lead.lead, cut.gap, cut.left, reached,
    ⟨?_, (lead.late _).append cut.late⟩, ?_, ?_, ?_, found, ⟨reaches.rest, ?_, ?_⟩⟩
  · rw [opened, show after = _ from begins.trans lead.split, ends]
    simp
  · rw [body, cut.bodyOf_inner]
    exact cut.not_infix_body nonempty
  · rw [body]
  · rw [body]
    exact cut.inner_eq
  · rw [reaches.offset]
    simp [Nat.add_assoc]
  · rw [reaches.captures, body, bodyCaptures, cut.bodyOf_inner, cut.markerOf_inner]
    simp [capture, Nat.add_assoc]

theorem needs_tagRegion (index : Nat) (total : Total next) :
    Needs (Opens start stop) ((tagRegion index start stop).run · next) := by
  have spaced := needs_infix_greedyRun .blank (by decide)
    (needs_bodyEnd stop (index + 1) "expr" "rst" total)
  have named : Needs (stop <:+: ·) fun place => (greedyRun .word).run place fun b =>
      blankRun.run (b.close index (some "name") place.offset)
        ((ofItems (bodyEnd (index + 1) "expr" "rst" stop)).run · next) := fun place =>
    needs_infix_greedyRun .word (by decide) (spaced.close index (some "name") place.offset) place
  exact (needs_infix_hyphenMark (needs_infix_greedyRun .blank (by decide) named)).text start

theorem tag_of_run {index : Nat} (total : Total next) (nonempty : stop ≠ [])
    (found : (tagRegion index start stop).run place next = some a) :
    ∃ inner before between gap left reached, Enclosed start stop place.rest inner left
      ∧ ¬ stop <:+: bodyOf (remainder inner)
      ∧ inner = before ++ content inner
      ∧ content inner = nameOf inner ++ between ++ remainder inner
      ∧ remainder inner = bodyOf (remainder inner) ++ gap ++ markerOf (remainder inner)
      ∧ next reached = some a
      ∧ Reaches place reached (start ++ inner ++ stop) left
          (bodyCaptures place (index + 1) "expr" "rst" (start ++ before ++ nameOf inner ++ between)
            (remainder inner) gap
            ++ [capture place index (some "name") (start ++ before) (nameOf inner)]) := by
  have needs := needs_bodyEnd stop (index + 1) "expr" "rst" total
  have named : Needs (stop <:+: ·) fun place => (greedyRun .word).run place fun b =>
      blankRun.run (b.close index (some "name") place.offset)
        ((ofItems (bodyEnd (index + 1) "expr" "rst" stop)).run · next) := fun place =>
    needs_infix_greedyRun .word (by decide)
      ((needs_infix_greedyRun .blank (by decide) needs).close index (some "name") place.offset)
      place
  -- Each part is cut off in front of what the parts after it need.
  obtain ⟨after, opened, found⟩ := run_text_iff.1 found
  obtain ⟨_, lead, begins, found⟩ := leadCut_of_run named found
  obtain ⟨_, name, continues, found⟩ := nameCut_of_run needs index found
  obtain ⟨_, cut, reached, follows, found, reaches⟩ :=
    bodyCut_of_run stop (index + 1) "expr" "rst" total found
  have ends : name.rest = cut.inner ++ stop ++ cut.left := follows.trans cut.split_inner
  have continued : lead.rest = name.name ++ name.spacing ++ cut.inner ++ stop ++ cut.left := by
    rw [show lead.rest = _ from continues.trans name.split, ends]
    simp
  have body := lead.content_eq continued
  have title : nameOf (lead.mark ++ lead.lead ++ (name.name ++ name.spacing ++ cut.inner))
      = name.name := by
    rw [nameOf, body, name.takeWhile_eq ends]
  have others : remainder (lead.mark ++ lead.lead ++ (name.name ++ name.spacing ++ cut.inner))
      = cut.inner := by
    rw [remainder, body, name.dropWhile_eq ends]
  refine ⟨lead.mark ++ lead.lead ++ (name.name ++ name.spacing ++ cut.inner),
    lead.mark ++ lead.lead, name.spacing, cut.gap, cut.left, reached,
    ⟨?_, (lead.late _).append ((name.late _).append cut.late)⟩, ?_, ?_, ?_, ?_, found,
    ⟨reaches.rest, ?_, ?_⟩⟩
  · rw [opened, show after = _ from begins.trans lead.split, continued]
    simp
  · rw [others, cut.bodyOf_inner]
    exact cut.not_infix_body nonempty
  · rw [body]
  · rw [body, title, others]
  · rw [others]
    exact cut.inner_eq
  · rw [reaches.offset]
    simp [Nat.add_assoc]
  · rw [reaches.captures, others, title, bodyCaptures, cut.bodyOf_inner, cut.markerOf_inner]
    simp [capture, Nat.add_assoc]

/-! ### Raw blocks -/

/-- A text begins with a tag that holds just a word; `left` follows it. -/
def NamedTag (start stop word text left : List Char) : Prop :=
  ∃ lead gap, text = start ++ lead ++ word ++ gap ++ stop ++ left
    ∧ (∀ c ∈ lead, isBlank c = true) ∧ (∀ c ∈ gap, isBlank c = true)

/-- The parts of a tag that holds just a word, read one after the other. -/
def runNamedTag (start stop word : List Char) (place : Place) (next : Place → Option α) :
    Option α :=
  (text start).run place fun p => blankRun.run p fun p => (text word).run p fun p =>
    blankRun.run p fun p => (text stop).run p next

theorem needs_namedTag {holds : List Char → Prop} (needs : Needs holds next)
    (start stop word : List Char) :
    Needs (fun t => ∃ left, NamedTag start stop word t left ∧ holds left)
      (runNamedTag start stop word · next) := by
  intro place
  have parts := ((((needs.text stop).greedyRun .blank (by decide)).text word).greedyRun
    .blank (by decide)).text start
  refine (parts place).trans (not_congr ?_)
  constructor
  · rintro ⟨_, split, lead, _, rfl, leadBlank, _, rfl, gap, _, rfl, gapBlank, left, rfl, met⟩
    exact ⟨left, ⟨lead, gap, by simpa using split, leadBlank, gapBlank⟩, met⟩
  · rintro ⟨left, ⟨lead, gap, split, leadBlank, gapBlank⟩, met⟩
    exact ⟨_, by simpa using split, lead, _, rfl, leadBlank, _, rfl, gap, _, rfl, gapBlank, left,
      rfl, met⟩

theorem namedTag_of_run (start stop word : List Char)
    (found : runNamedTag start stop word place next = some a) :
    ∃ read left, place.rest = read ++ left ∧ NamedTag start stop word place.rest left
      ∧ next (place.pass read left) = some a := by
  obtain ⟨_, opened, found⟩ := run_text_iff.1 found
  obtain ⟨lead, _, spaced, leadBlank, found, -⟩ := split_of_run_greedyRun (by decide) found
  obtain ⟨_, named, found⟩ := run_text_iff.1 found
  obtain ⟨gap, _, apart, gapBlank, found, -⟩ := split_of_run_greedyRun (by decide) found
  obtain ⟨left, closed, found⟩ := run_text_iff.1 found
  simp only [Place.pass_rest] at spaced named apart closed
  subst closed apart named spaced
  refine ⟨start ++ lead ++ word ++ gap ++ stop, left, by simpa using opened,
    ⟨lead, gap, by simpa using opened, leadBlank, gapBlank⟩, ?_⟩
  simpa [Place.pass_pass] using found

/-- A raw block ends with the first tag after its start that holds the word `endraw`. -/
structure RawCut (start stop text head inner foot left : List Char) : Prop where
  split : text = head ++ inner ++ foot ++ left
  opens : NamedTag start stop "raw".toList text (inner ++ foot ++ left)
  closes : NamedTag start stop "endraw".toList (foot ++ left) left
  shortest : ∀ u w, inner = u ++ w → w ≠ [] →
    ∀ l, ¬ NamedTag start stop "endraw".toList (w ++ foot ++ left) l

theorem RawCut.head_ne {text head inner foot left : List Char}
    (cut : RawCut start stop text head inner foot left) : head ≠ [] := by
  obtain ⟨lead, gap, split, -, -⟩ := cut.opens
  have same : head ++ (inner ++ foot ++ left)
      = start ++ lead ++ "raw".toList ++ gap ++ stop ++ (inner ++ foot ++ left) := by
    rw [← split, cut.split]
    simp
  rw [List.append_cancel_right same]
  simp

/-- A raw block is found wherever the tag that opens it is followed by one that closes it. -/
def OpensRaw (start stop text : List Char) : Prop :=
  ∃ after, NamedTag start stop "raw".toList text after
    ∧ ∃ inner rest, after = inner ++ rest ∧ ∃ left, NamedTag start stop "endraw".toList rest left

theorem needs_rawBlock (index : Nat) (total : Total next) :
    Needs (OpensRaw start stop) ((rawBlock index start stop).run · next) := by
  intro place
  have ends : Needs (fun t => ∃ inner rest, t = inner ++ rest
      ∧ ∃ left, NamedTag start stop "endraw".toList rest left) fun place =>
      lazyText.run place fun p =>
        runNamedTag start stop "endraw".toList (p.close index (some "raw") place.offset) next := by
    intro place
    have closes := ((needs_namedTag total start stop "endraw".toList).close index (some "raw")
      place.offset).lazyText
    simpa using closes place
  exact needs_namedTag ends start stop "raw".toList place

theorem raw_of_run {index : Nat} (total : Total next)
    (found : (rawBlock index start stop).run place next = some a) :
    ∃ head inner foot left reached, RawCut start stop place.rest head inner foot left
      ∧ next reached = some a
      ∧ Reaches place reached (head ++ inner ++ foot) left
          [capture place index (some "raw") head inner] := by
  have closes := (needs_namedTag total start stop "endraw".toList).close index (some "raw")
  obtain ⟨head, _, opened, opens, found⟩ :=
    namedTag_of_run start stop "raw".toList found
  obtain ⟨inner, _, split, found, shortest⟩ := split_of_run_lazyText found
  obtain ⟨foot, left, closed, ends, found⟩ :=
    namedTag_of_run start stop "endraw".toList found
  simp only [Place.pass_rest, Place.close_rest] at split closed ends
  subst closed split
  refine ⟨head, inner, foot, left, _, ⟨by simpa using opened, by simpa using opens, ends, ?_⟩,
    found, rfl, ?_, ?_⟩
  · intro u w whole long l tag
    have fails := (closes _).not_of_none (shortest u w whole long)
    exact fails ⟨l, by simpa using tag, trivial⟩
  · simp [Nat.add_assoc]
  · simp [capture]

/-! ### Plain text -/

/-- Plain text ends before an opening delimiter and at the end. -/
def Halts (tagStart statementStart text : List Char) : Prop :=
  tagStart <+: text ∨ statementStart <+: text ∨ text = []

/-- Plain text is trimmed at its end if the opening delimiter after it has a trim marker; where
both delimiters stand, that of a tag is looked at. -/
def strips (tagStart statementStart left : List Char) : Bool :=
  if tagStart.isPrefixOf left then (tagStart ++ ['-']).isPrefixOf left
  else (statementStart ++ ['-']).isPrefixOf left

/-- Plain text has at least one character and ends at the first place after it where it can. -/
structure LiteralCut (tagStart statementStart text literal left : List Char) : Prop where
  split : text = literal ++ left
  some : literal ≠ []
  halts : Halts tagStart statementStart left
  shortest : ∀ v w, literal = v ++ w → v ≠ [] → w ≠ [] →
    ¬ Halts tagStart statementStart (w ++ left)

/-- What the group of the trim marker remembers after plain text, if an opening delimiter
follows it. -/
def StripCaptures (place : Place) (index : Nat) (before left : List Char) (strips : Bool)
    (captures : List Capture) : Prop :=
  (left = [] ∧ captures = []) ∨ ∃ opening trail more, left = opening ++ trail ++ more
    ∧ captures = [capture place index (some "rstrip") (before ++ opening) trail]
    ∧ (trail ≠ [] ↔ strips = true)

section Literal

variable (tagStart statementStart : List Char) (index : Nat) (total : Total next)

/-- What follows plain text: an opening delimiter with its trim marker, or the end. -/
def literalFollow (place : Place) (next : Place → Option α) : Option α :=
  (alt (seq (opening tagStart statementStart) (group index (some "rstrip") hyphenMark))
    (anchor .textEnd)).run place next

include total

theorem needs_mark :
    Total fun place => (group index (some "rstrip") hyphenMark).run place next := by
  intro place
  have marked := (total.close index (some "rstrip") place.offset).optional
    ['-'] rfl place
  refine marked.trans (not_congr ⟨fun _ => trivial, fun _ => ?_⟩)
  exact ⟨[], place.rest, rfl, .inr rfl, trivial⟩

theorem needs_literalFollow :
    Needs (Halts tagStart statementStart) (literalFollow tagStart statementStart index · next) := by
  intro place
  have marked := needs_mark index total
  have ended : (anchor .textEnd).run place next = none ↔ ¬ place.rest = [] := by
    rw [run_textEnd]
    split <;> simp_all [total place]
  simp only [literalFollow, run_alt, run_seq, run_opening, Option.or_eq_none_iff,
    marked.text tagStart place, marked.text statementStart place, ended]
  simp only [Halts, List.IsPrefix, and_true, not_or, and_assoc, eq_comm]

/-- After an opening delimiter a trim marker is read if it comes next. -/
theorem mark_of_run {opening : List Char}
    (found : (text opening).run place
      (fun p => (group index (some "rstrip") hyphenMark).run p next) = some a) :
    ∃ trail more reached, place.rest = opening ++ trail ++ more ∧ next reached = some a
      ∧ Reaches place reached (opening ++ trail) more
          [capture place index (some "rstrip") opening trail]
      ∧ (trail ≠ [] ↔ (opening ++ ['-']).isPrefixOf place.rest = true) := by
  obtain ⟨after, split, found⟩ := run_text_iff.1 found
  obtain ⟨trail, more, marked, found, hyphen⟩ := hyphen_of_run
    (total.close index (some "rstrip") (place.pass opening after).offset) found
  simp only [Place.pass_rest] at marked
  subst marked
  refine ⟨trail, more, _, by simpa using split, found, ⟨rfl, by simp [Nat.add_assoc],
    by simp [capture]⟩, ?_⟩
  rw [List.isPrefixOf_iff_prefix, split, List.prefix_append_right_inj]
  rcases hyphen with rfl | ⟨rfl, bare⟩
  · simp
  · constructor
    · exact fun some => absurd rfl some
    · rintro ⟨left, rest⟩
      exact absurd trivial (bare left rest.symm)

theorem follow_of_run (found : literalFollow tagStart statementStart index place next = some a) :
    ∃ captures reached, next reached = some a ∧ place.offset ≤ reached.offset
      ∧ reached.captures = captures ++ place.captures
      ∧ StripCaptures place index [] place.rest (strips tagStart statementStart place.rest)
          captures := by
  have delimited {opening : List Char} {mark : Bool}
      (looked : (opening ++ ['-']).isPrefixOf place.rest = mark)
      (found : (text opening).run place
        (fun p => (group index (some "rstrip") hyphenMark).run p next) = some a) :
      ∃ captures reached, next reached = some a ∧ place.offset ≤ reached.offset
        ∧ reached.captures = captures ++ place.captures
        ∧ StripCaptures place index [] place.rest mark captures := by
    obtain ⟨trail, more, reached, split, found, reaches, marked⟩ := mark_of_run index total found
    refine ⟨_, reached, found, by rw [reaches.offset]; omega, reaches.captures, .inr ?_⟩
    exact ⟨opening, trail, more, split, rfl, looked ▸ marked⟩
  have missed {opening : List Char} (other : ¬ opening.isPrefixOf place.rest = true)
      (k : Place → Option α) : (text opening).run place k = none := by
    rw [run_text_none_iff]
    intro left split
    exact absurd (List.isPrefixOf_iff_prefix.2 ⟨left, split.symm⟩) other
  have met {opening : List Char} (stands : opening.isPrefixOf place.rest = true) :
      (text opening).run place
        (fun p => (group index (some "rstrip") hyphenMark).run p next) ≠ none := by
    rw [Ne, (needs_mark index total).text opening place, not_not]
    obtain ⟨left, split⟩ := List.isPrefixOf_iff_prefix.1 stands
    exact ⟨left, split.symm, trivial⟩
  rw [literalFollow, run_alt, run_seq, run_opening] at found
  by_cases tag : tagStart.isPrefixOf place.rest = true
  · obtain ⟨b, read⟩ := Option.ne_none_iff_exists'.1 (met tag)
    rw [read, Option.some_or, Option.some_or] at found
    rw [strips, if_pos tag]
    exact delimited rfl (read.trans found)
  · rw [missed tag, Option.none_or] at found
    rw [strips, if_neg tag]
    by_cases statement : statementStart.isPrefixOf place.rest = true
    · obtain ⟨b, read⟩ := Option.ne_none_iff_exists'.1 (met statement)
      rw [read, Option.some_or] at found
      exact delimited rfl (read.trans found)
    · rw [missed statement, Option.none_or, run_textEnd] at found
      split at found
      · next ended => exact ⟨[], place, found, le_rfl, rfl, .inl ⟨ended, rfl⟩⟩
      · cases found

omit total in
theorem run_literalRegion :
    (literalRegion index tagStart statementStart).run place next
      = (one .any).run place fun p => lazyText.run p fun reached =>
          literalFollow tagStart statementStart (index + 1)
            (reached.close index (some "literal") place.offset) next := by
  rw [literalRegion, run_seq, run_group, run_oneOrMore rfl]
  rfl

theorem literal_of_run
    (found : (literalRegion index tagStart statementStart).run place next = some a) :
    ∃ literal left captures reached, LiteralCut tagStart statementStart place.rest literal left
      ∧ next reached = some a ∧ place.offset < reached.offset
      ∧ reached.captures = captures ++ capture place index (some "literal") [] literal
          :: place.captures
      ∧ StripCaptures place (index + 1) literal left (strips tagStart statementStart left)
          captures := by
  have follow := (needs_literalFollow tagStart statementStart (index + 1) total).close index
    (some "literal") place.offset
  rw [run_literalRegion] at found
  obtain ⟨c, rest, first, -, found⟩ := run_one_iff.1 found
  obtain ⟨more, left, split, found, shortest⟩ := split_of_run_lazyText found
  have halts := follow.holds_of_some found
  obtain ⟨captures, reached, taken, later, closed, stripped⟩ :=
    follow_of_run tagStart statementStart (index + 1) total found
  simp only [Place.pass_rest, Place.close_rest, Place.close_offset, Place.pass_offset,
    Place.close_captures, Place.pass_captures] at split halts later closed stripped
  subst split
  refine ⟨c :: more, left, captures, reached, ⟨first, by simp, halts, ?_⟩, taken, ?_, ?_, ?_⟩
  · intro v w whole begun long
    obtain ⟨d, v, rfl⟩ := List.exists_cons_of_ne_nil begun
    obtain ⟨rfl, later⟩ := List.cons_eq_cons.1 whole
    exact follow.not_of_none (shortest v w later long)
  · have positive := c.utf8Size_pos
    simp only [Text.byteLength_cons, Text.byteLength_nil] at later
    omega
  · rw [closed]
    simp [capture, Nat.add_assoc]
  · rcases stripped with ended | ⟨opening, trail, after, rest, here, marked⟩
    · exact .inl ended
    · refine .inr ⟨opening, trail, after, rest, ?_, marked⟩
      rw [here]
      simp [capture, Nat.add_assoc]

/-- Plain text is found wherever there is any. -/
theorem literalRegion_ne_none (place : Place) (some : place.rest ≠ []) :
    (literalRegion index tagStart statementStart).run place next ≠ none := by
  obtain ⟨c, rest, split⟩ := List.exists_cons_of_ne_nil some
  have follow := (needs_literalFollow tagStart statementStart (index + 1) total).close index
    (Option.some "literal") place.offset
  have read : (one .any).run place (fun p => lazyText.run p fun reached =>
        literalFollow tagStart statementStart (index + 1)
          (reached.close index (Option.some "literal") place.offset) next)
      = lazyText.run (place.pass [c] rest) fun reached =>
          literalFollow tagStart statementStart (index + 1)
            (reached.close index (Option.some "literal") place.offset) next := by
    simp [run, Place.pastSet?, split, CharSet.contains, Place.past_eq_pass]
  rw [run_literalRegion, read, Ne, follow.lazyText (place.pass [c] rest), not_not]
  exact ⟨rest, [], by simp, .inr (.inr rfl)⟩

end Literal

end LiquidTokens.Template
