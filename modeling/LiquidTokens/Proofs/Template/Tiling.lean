import LiquidTokens.Proofs.Template.Visits

/-!
How a source falls into regions.

Whatever the delimiters hold, as long as none of them is empty, the regions that a stream steps
over follow one another without a gap, each has at least one character, and together they cover
the source, or the part of it up to the end of the region in which the error lies. What kind of
region begins at a position is said by the text alone: by the delimiters that stand there or come
later (`Begins`), and not by blanks, trim markers or names inside.

Main statement: `regions_tile`.
-/

namespace LiquidTokens.Template

open Text (byteLength slice)

/-! ### Delimiters that are empty -/

/-- The delimiter in this place is empty and none in a place before it is. -/
def FirstEmpty (delimiters : Delimiters) : DelimiterRole → Prop
  | .tagStart => delimiters.tagStart = ""
  | .tagEnd => delimiters.tagStart ≠ "" ∧ delimiters.tagEnd = ""
  | .statementStart =>
      delimiters.tagStart ≠ "" ∧ delimiters.tagEnd ≠ "" ∧ delimiters.statementStart = ""
  | .statementEnd =>
      delimiters.tagStart ≠ "" ∧ delimiters.tagEnd ≠ "" ∧ delimiters.statementStart ≠ ""
        ∧ delimiters.statementEnd = ""

theorem firstEmpty?_eq_some_iff {delimiters : Delimiters} {role : DelimiterRole} :
    delimiters.firstEmpty? = some role ↔ FirstEmpty delimiters role := by
  have blank (text : String) : (text == "") = decide (text = "") := beq_eq_decide text ""
  simp only [Delimiters.firstEmpty?, List.find?_cons, List.find?_nil, Delimiters.get, blank]
  by_cases tagStart : delimiters.tagStart = ""
  · cases role <;> simp [tagStart, FirstEmpty]
  by_cases tagEnd : delimiters.tagEnd = ""
  · cases role <;> simp [tagStart, tagEnd, FirstEmpty]
  by_cases statementStart : delimiters.statementStart = ""
  · cases role <;> simp [tagStart, tagEnd, statementStart, FirstEmpty]
  by_cases statementEnd : delimiters.statementEnd = "" <;>
    cases role <;> simp [tagStart, tagEnd, statementStart, statementEnd, FirstEmpty]

/-- The delimiter that is blamed is the first one that is empty. -/
theorem compile_of_firstEmpty {delimiters : Delimiters} {role : DelimiterRole}
    (empty : FirstEmpty delimiters role) :
    RegionTable.compile delimiters = .error (.emptyDelimiter role) := by
  rw [RegionTable.compile, Delimiters.validate, firstEmpty?_eq_some_iff.2 empty]
  rfl

/-! ### Regions in order -/

/-- The regions from the position of a stream on, at most `count` of them, each with the part of
the source that it covers. A region that raises an error is the last one. -/
def Stream.cuts : Nat → Stream → List (Region × List Char)
  | 0, _ => []
  | count + 1, stream =>
      let piece := slice stream.source.toList ⟨stream.offset, stream.step.reached.offset⟩
      match stream.region?, stream.step.entry with
      | some region, some (_, after) => (region, piece) :: cuts count after
      | some region, none => [(region, piece)]
      | none, _ => []

/-- The regions of a source; there are no more of them than it has characters. -/
def RegionTable.cuts (regions : RegionTable) (source : String) : List (Region × List Char) :=
  (Stream.start regions source).cuts source.length

/-- A text begins with a region of this kind, which covers `piece` and leaves `left`. The kinds
are tried in the order of the fields. -/
structure Begins (delimiters : Delimiters) (text : List Char) (region : Region)
    (piece left : List Char) : Prop where
  split : text = piece ++ left
  nonempty : piece ≠ []
  raw : region = .raw ↔ OpensRaw delimiters.tagStart.toList delimiters.tagEnd.toList text
  statement : region ≠ .raw →
    (region = .statement
      ↔ Opens delimiters.statementStart.toList delimiters.statementEnd.toList text)
  tag : region ≠ .raw → region ≠ .statement →
    (region = .tag ↔ Opens delimiters.tagStart.toList delimiters.tagEnd.toList text)
  literal : region = .literal →
    LiteralCut delimiters.tagStart.toList delimiters.statementStart.toList text piece left

/-- A text falls into regions that follow one another, up to the text `last`. -/
inductive Tiles (delimiters : Delimiters) :
    List Char → List (Region × List Char) → List Char → Prop where
  | done (text : List Char) : Tiles delimiters text [] text
  | region {text piece left last : List Char} {region : Region}
      {cuts : List (Region × List Char)} (begins : Begins delimiters text region piece left)
      (others : Tiles delimiters left cuts last) :
      Tiles delimiters text ((region, piece) :: cuts) last

/-- The text that some regions cover. -/
def spanned (cuts : List (Region × List Char)) : List Char :=
  cuts.flatMap Prod.snd

/-- Regions that follow one another cover all of the text before the rest. -/
theorem Tiles.split {delimiters : Delimiters} {text last : List Char}
    {cuts : List (Region × List Char)} (tiles : Tiles delimiters text cuts last) :
    text = spanned cuts ++ last := by
  induction tiles with
  | done text => rfl
  | region begins others ih =>
      rw [begins.split, ih]
      simp [spanned]

theorem Enclosed.opens {start stop text inner left : List Char}
    (enclosed : Enclosed start stop text inner left) : Opens start stop text :=
  ⟨inner ++ stop ++ left, by simpa using enclosed.split, inner, left, rfl⟩

theorem RawCut.opensRaw {start stop text head inner foot left : List Char}
    (cut : RawCut start stop text head inner foot left) : OpensRaw start stop text :=
  ⟨inner ++ foot ++ left, cut.opens, inner, foot ++ left, by simp, left, cut.closes⟩

/-- The next region begins the text as its kind says. -/
theorem NextRegion.begins {delimiters : Delimiters} (valid : delimiters.validate = .ok ())
    {text piece inner left : List Char} {region : Region}
    (next : NextRegion delimiters text region piece inner left) :
    Begins delimiters text region piece left := by
  have split := next.split
  have nonempty := next.piece_ne valid
  cases next with
  | raw cut => exact ⟨split, nonempty, by simp [cut.opensRaw], by simp, by simp, by simp⟩
  | statement noRaw enclosed =>
      exact ⟨split, nonempty, by simp [noRaw], by simp [enclosed.opens], by simp, by simp⟩
  | tag noRaw noStatement enclosed =>
      exact ⟨split, nonempty, by simp [noRaw], by simp [noStatement], by simp [enclosed.opens],
        by simp⟩
  | literal noRaw noStatement noTag cut =>
      exact ⟨split, nonempty, by simp [noRaw], by simp [noStatement], by simp [noTag],
        fun _ => cut⟩

/-! ### The regions of a run -/

/-- Where a run ends: with no error all of the text has been covered, and an error lies in the
last region, which is plain text. `offset` is where the regions begin. -/
def EndsWith (offset : Nat) (cuts : List (Region × List Char)) (last : List Char) :
    Option LexError → Prop
  | none => last = []
  | some error => ∃ earlier literal, cuts = earlier ++ [(.literal, literal)]
      ∧ error.span = ⟨offset + byteLength (spanned earlier),
          offset + byteLength (spanned earlier) + byteLength literal⟩

theorem EndsWith.cons {offset : Nat} {region : Region} {piece last : List Char}
    {cuts : List (Region × List Char)} {error : Option LexError}
    (ends : EndsWith (offset + byteLength piece) cuts last error) :
    EndsWith offset ((region, piece) :: cuts) last error := by
  cases error with
  | none => exact ends
  | some error =>
      obtain ⟨earlier, literal, rfl, span⟩ := ends
      refine ⟨(region, piece) :: earlier, literal, rfl, span.trans ?_⟩
      simp [spanned, Nat.add_assoc]

namespace Stream

variable {delimiters : Delimiters} {stream after : Stream} {text piece inner left : List Char}
  {region : Region} {error : LexError} {tokens : List Token}

/-- An error is raised in plain text, and its span is this text. -/
theorem literal_of_error
    (failed : stepOver delimiters stream region piece inner left = .yield (.error error) after)
    (next : NextRegion delimiters text region piece inner left) :
    region = .literal ∧ after.offset = stream.offset + byteLength piece
      ∧ error.span = ⟨stream.offset, stream.offset + byteLength piece⟩ := by
  cases next with
  | raw =>
      rw [stepOver] at failed
      split at failed <;> cases failed
  | statement => cases failed
  | tag => cases failed
  | literal =>
      simp only [stepOver, stepOverLiteral] at failed
      split at failed
      · cases failed
      · split at failed
        · cases failed
          exact ⟨rfl, rfl, rfl⟩
        · cases failed

/-- A step that does not end the run leads to where the stream goes on. -/
theorem offset_of_entry {step : Step} (entry : step.entry = some (tokens, after)) :
    step.reached.offset = after.offset := by
  rcases Step.cases_of_entry entry with ⟨rfl, -⟩ | ⟨token, reached, rfl, -, rfl⟩ <;> rfl

/-- From any position on, the regions follow one another to the end of the run. -/
theorem tiles_cuts {stream : Stream} {read text : List Char}
    (ready : Ready delimiters stream read text) {count : Nat} (enough : text.length ≤ count) :
    ∃ visits error last, Visits delimiters stream visits error
      ∧ Tiles delimiters text (stream.cuts count) last
      ∧ EndsWith stream.offset (stream.cuts count) last error := by
  by_cases ended : text = []
  · subst ended
    have none : stream.cuts count = [] := by
      cases count with
      | zero => rfl
      | succ count => rw [cuts, ready.region?_of_end]
    refine ⟨[], .none, [], .ended ready.step_of_end, ?_⟩
    rw [none]
    exact ⟨.done [], rfl⟩
  · obtain ⟨region, piece, inner, left, next, kind, step⟩ := step_eq_stepOver ready.toAt ended
    have begins := next.begins ready.valid
    have shorter : left.length < text.length := by
      have := List.length_pos_iff.2 begins.nonempty
      rw [begins.split, List.length_append]
      omega
    obtain ⟨count, rfl⟩ : ∃ less, count = less + 1 := ⟨count - 1, by omega⟩
    have covers := (begins.split ▸ ready.toAt).slice_eq
    rcases error_or_entry delimiters stream region piece inner left with
      ⟨error, after, failed⟩ | ⟨tokens, after, entry⟩
    · obtain ⟨rfl, reached, span⟩ := literal_of_error failed next
      have only : stream.cuts (count + 1) = [(.literal, piece)] := by
        rw [cuts, kind, step, failed]
        simp only [Step.entry, Step.reached, reached, covers]
      refine ⟨[], some error, left, .failed (step.trans failed), ?_⟩
      rw [only]
      exact ⟨.region begins (.done left), [], piece, rfl, by simpa [spanned] using span⟩
    · have following := ready.past_region next entry
      have stop : after.offset = stream.offset + byteLength piece := by
        rw [following.offset, ready.offset, Text.byteLength_append]
      obtain ⟨visits, error, last, later, tiles, ends⟩ :=
        tiles_cuts following (show left.length ≤ count by omega)
      have first : stream.cuts (count + 1) = (region, piece) :: after.cuts count := by
        rw [cuts, kind, step, entry]
        simp only [offset_of_entry entry, stop, covers]
      rw [← step] at entry
      refine ⟨_, error, last, .visit (ready.rest_eq.symm ▸ next) kind step entry later, ?_⟩
      rw [first]
      exact ⟨.region begins tiles, EndsWith.cons (stop ▸ ends)⟩
termination_by text.length

end Stream

/-- No region table is made exactly when a delimiter is empty, and the first empty one is to
blame. In any other case the run of every source comes to an end, and the source falls into
regions up to there, whose kinds are said by the text alone. -/
theorem regions_tile (delimiters : Delimiters) :
    (∃ role, FirstEmpty delimiters role
        ∧ RegionTable.compile delimiters = .error (.emptyDelimiter role))
      ∨ ((∀ role, delimiters.get role ≠ "")
        ∧ ∃ regions, RegionTable.compile delimiters = .ok regions
          ∧ ∀ source,
            (∀ count, 2 * source.length < count →
                (Stream.start regions source).take count = regions.tokenize source)
              ∧ ∃ last, Tiles delimiters source.toList (regions.cuts source) last
                ∧ EndsWith 0 (regions.cuts source) last (regions.tokenize source).error) := by
  cases empty : delimiters.firstEmpty? with
  | some role =>
      have first := firstEmpty?_eq_some_iff.1 empty
      exact .inl ⟨role, first, compile_of_firstEmpty first⟩
  | none =>
      have valid : delimiters.validate = .ok () := by rw [Delimiters.validate, empty]
      refine .inr ⟨Delimiters.validate_eq_ok_iff.1 valid, regionTable delimiters,
        compile_eq_ok valid, fun source => ?_⟩
      have ready := Stream.ready_start valid source
      obtain ⟨visits, error, last, visited, tiles, ends⟩ :=
        Stream.tiles_cuts ready (show _ ≤ source.length from String.length_toList.le)
      have run := Stream.run_of_visits visited ready
      constructor
      · intro count enough
        rw [Stream.take_eq_log, Stream.log_of_visits visited ready
          (by rwa [String.length_toList]), RegionTable.tokenize, run]
        simp [Stream.logOf, List.map_flatMap, Function.comp_def]
      · refine ⟨last, tiles, ?_⟩
        rw [RegionTable.tokenize, run]
        exact ends

end LiquidTokens.Template
