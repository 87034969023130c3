import LiquidTokens.Proofs.Pattern.Levels
import LiquidTokens.Proofs.Pattern.Passing
import LiquidTokens.Proofs.Pattern.Written
import LiquidTokens.Template.Region

/-!
The region rules of arbitrary delimiters, as patterns.

Whatever the delimiters hold, their escaped forms are read as literal texts, so the four written
rules can always be read, and the patterns they stand for are known in full: a raw block, an
output statement, a tag and plain text, each in a group of its own and tried in this order.

Main statement: `compile_eq_ok` (delimiters none of which is empty always make a region table,
and its pattern is `regionPattern`).
-/

namespace LiquidTokens.Template

open Pattern Pattern.Reader

/-! ### The patterns -/

/-- Blanks, as many as will do. -/
def blankRun : Pattern :=
  greedyRun .blank

/-- A trim marker, if one will do. -/
def hyphenMark : Pattern :=
  times 0 (some 1) true (text ['-'])

/-- A delimiter, a word and another delimiter, with blanks around the word. -/
def namedTag (start stop word : List Char) : List Pattern :=
  [text start, blankRun, text word, blankRun, text stop]

/-- A raw block, whose text is group `index`. -/
def rawBlock (index : Nat) (start stop : List Char) : Pattern :=
  ofItems (namedTag start stop "raw".toList ++ [group index (some "raw") lazyText]
    ++ namedTag start stop "endraw".toList)

/-- What a statement and a tag end with: the body, blanks, a trim marker and the closing
delimiter. -/
def bodyEnd (index : Nat) (body mark : String) (stop : List Char) : List Pattern :=
  [group index (some body) lazyText, blankRun, group (index + 1) (some mark) hyphenMark, text stop]

/-- An output statement, whose groups are numbered from `index` on. -/
def statementRegion (index : Nat) (start stop : List Char) : Pattern :=
  ofItems ([text start, hyphenMark, blankRun] ++ bodyEnd index "stmt" "rss" stop)

/-- A tag, whose groups are numbered from `index` on. -/
def tagRegion (index : Nat) (start stop : List Char) : Pattern :=
  ofItems ([text start, hyphenMark, blankRun, group index (some "name") (greedyRun .word),
    blankRun] ++ bodyEnd (index + 1) "expr" "rst" stop)

/-- An opening delimiter, that of a tag preferred. -/
def opening (tagStart statementStart : List Char) : Pattern :=
  choice [text tagStart, text statementStart]

/-- Plain text up to an opening delimiter or the end. -/
def literalRegion (index : Nat) (tagStart statementStart : List Char) : Pattern :=
  seq (group index (some "literal") (times 1 none false (one .any)))
    (alt (seq (opening tagStart statementStart) (group (index + 1) (some "rstrip") hyphenMark))
      (anchor .textEnd))

/-- The pattern of the region table of some delimiters. -/
def regionPattern (delimiters : Delimiters) : Pattern :=
  let tagStart := delimiters.tagStart.toList
  let tagEnd := delimiters.tagEnd.toList
  let statementStart := delimiters.statementStart.toList
  let statementEnd := delimiters.statementEnd.toList
  seq (anchor .textStart)
    (alt (group 1 none (rawBlock 2 tagStart tagEnd))
      (alt (group 3 none (statementRegion 4 statementStart statementEnd))
        (alt (group 6 none (tagRegion 7 tagStart tagEnd))
          (group 10 none (literalRegion 11 tagStart statementStart)))))

/-- The region table of some delimiters: each rule with the number of its outer group. -/
def regionTable (delimiters : Delimiters) : RegionTable :=
  ⟨delimiters, ⟨regionPattern delimiters,
    [(1, .raw), (3, .statement), (6, .tag), (10, .literal)]⟩⟩

/-! ### Reading the rules -/

theorem reads_blanks (state : State) (item : state.mode = .item) :
    Reads state "\\s*".toList (state.grow [blankRun] 0 []) := by
  obtain ⟨mode, level, outer, count, given⟩ := state
  cases item
  rfl

theorem reads_hyphenMark (state : State) (item : state.mode = .item) :
    Reads state "-?".toList (state.grow [hyphenMark] 0 []) := by
  obtain ⟨mode, level, outer, count, given⟩ := state
  cases item
  rfl

end LiquidTokens.Template

namespace LiquidTokens.Pattern.Reader

open Template (blankRun hyphenMark reads_blanks reads_hyphenMark)

theorem Reads.blanks {state after : State} {read : List Char} (reads : Reads state read after)
    (item : after.mode = .item) :
    Reads state (read ++ "\\s*".toList) (after.grow [blankRun] 0 []) :=
  reads.append (reads_blanks after item) (by decide)

theorem Reads.mark {state after : State} {read : List Char} (reads : Reads state read after)
    (item : after.mode = .item) :
    Reads state (read ++ "-?".toList) (after.grow [hyphenMark] 0 []) :=
  reads.append (reads_hyphenMark after item) (by decide)

end LiquidTokens.Pattern.Reader

namespace LiquidTokens.Template

open Pattern Pattern.Reader

theorem reads_textEnd (state : State) (item : state.mode = .item) :
    Reads state "\\z".toList (state.grow [anchor .textEnd] 0 []) := by
  obtain ⟨mode, level, outer, count, given⟩ := state
  cases item
  rfl

/-- The letters of a tag that holds just a word. -/
def namedTagLetters (start stop word : List Char) : List Pattern :=
  letters start ++ [blankRun] ++ letters word ++ [blankRun] ++ letters stop

theorem reads_namedTag (state : State) (item : state.mode = .item)
    (start stop word : List Char) :
    Reads state
      (escape start ++ ("\\s*".toList ++ escape word ++ "\\s*".toList ++ escape stop))
      (state.grow (namedTagLetters start stop word) 0 []) := by
  have named := ((reads_escape state item start).blanks rfl).append (reads_escape _ rfl word)
    (head?_escape_ne _)
  have chain := (named.blanks rfl).append (reads_escape _ rfl stop) (head?_escape_ne _)
  simpa [namedTagLetters] using chain

theorem reads_rawPattern (state : State) (item : state.mode = .item) (delimiters : Delimiters)
    (fresh : "raw" ∉ state.names) :
    Reads state (rawPattern delimiters).toList
      (state.grow
        (namedTagLetters delimiters.tagStart.toList delimiters.tagEnd.toList "raw".toList
          ++ [group (state.groups + 1) (some "raw") lazyText]
          ++ namedTagLetters delimiters.tagStart.toList delimiters.tagEnd.toList "endraw".toList)
        1 ["raw"]) := by
  have opened := reads_namedTag state item delimiters.tagStart.toList delimiters.tagEnd.toList
    "raw".toList
  have inside := opened.append (reads_namedGroup _ "raw" ".*?".toList lazyText rfl (by decide)
    (by simpa using fresh) (by decide) rfl rfl) (by decide)
  have chain := inside.append (reads_namedTag _ rfl delimiters.tagStart.toList
    delimiters.tagEnd.toList "endraw".toList) (head?_escape_append_ne _ (by simp))
  have raw : escape ['r', 'a', 'w'] = ['r', 'a', 'w'] := rfl
  have endraw : escape ['e', 'n', 'd', 'r', 'a', 'w'] = ['e', 'n', 'd', 'r', 'a', 'w'] := rfl
  simpa [rawPattern, literally, raw, endraw] using chain

/-- The body of a statement or a tag and what follows it, as it is written. -/
theorem reads_bodyEnd (state : State) (item : state.mode = .item) (body mark : String)
    (bodyNamed : GroupName body) (markNamed : GroupName mark) (freshBody : body ∉ state.names)
    (freshMark : mark ∉ body :: state.names)
    (stop : List Char) :
    Reads state
      ("(?P<".toList ++ body.toList ++ ['>'] ++ ".*?".toList ++ [')']
        ++ ("\\s*".toList ++ ("(?P<".toList ++ mark.toList ++ ['>'] ++ "-?".toList ++ [')']
        ++ escape stop)))
      (state.grow ([group (state.groups + 1) (some body) lazyText, blankRun,
        group (state.groups + 2) (some mark) hyphenMark] ++ letters stop) 2 [mark, body]) := by
  have first := (reads_namedGroup state body ".*?".toList lazyText item bodyNamed freshBody
    (by decide) rfl rfl).blanks rfl
  have second := first.append (reads_namedGroup _ mark "-?".toList hyphenMark rfl markNamed
    (by simpa using freshMark) (by decide) rfl (reads_hyphenMark _ rfl)) (by simp)
  have chain := second.append (reads_escape _ rfl stop) (head?_escape_ne _)
  simpa using chain

theorem reads_statementPattern (state : State) (item : state.mode = .item)
    (delimiters : Delimiters) (fresh : "stmt" ∉ state.names ∧ "rss" ∉ state.names) :
    Reads state (statementPattern delimiters).toList
      (state.grow
        (letters delimiters.statementStart.toList ++ [hyphenMark, blankRun]
          ++ [group (state.groups + 1) (some "stmt") lazyText, blankRun,
            group (state.groups + 2) (some "rss") hyphenMark]
          ++ letters delimiters.statementEnd.toList) 2 ["rss", "stmt"]) := by
  have head := ((reads_escape state item delimiters.statementStart.toList).mark rfl).blanks rfl
  have chain := head.append (reads_bodyEnd _ rfl "stmt" "rss" (by decide) (by decide)
    (by simpa using fresh.1) (by simpa using fresh.2) delimiters.statementEnd.toList) (by simp)
  simpa [statementPattern, literally] using chain

theorem reads_tagPattern (state : State) (item : state.mode = .item) (delimiters : Delimiters)
    (fresh : "name" ∉ state.names ∧ "expr" ∉ state.names ∧ "rst" ∉ state.names) :
    Reads state (tagPattern delimiters).toList
      (state.grow
        (letters delimiters.tagStart.toList ++ [hyphenMark, blankRun,
            group (state.groups + 1) (some "name") (greedyRun .word), blankRun]
          ++ [group (state.groups + 2) (some "expr") lazyText, blankRun,
            group (state.groups + 3) (some "rst") hyphenMark]
          ++ letters delimiters.tagEnd.toList) 3 ["rst", "expr", "name"]) := by
  have head := ((reads_escape state item delimiters.tagStart.toList).mark rfl).blanks rfl
  have named := (head.append (reads_namedGroup _ "name" "\\w*".toList (greedyRun .word) rfl
    (by decide) (by simpa using fresh.1) (by decide) rfl rfl) (by decide)).blanks rfl
  have chain := named.append (reads_bodyEnd _ rfl "expr" "rst" (by decide) (by decide)
    (by simpa using fresh.2.1) (by simpa using fresh.2.2) delimiters.tagEnd.toList) (by simp)
  simpa [tagPattern, literally] using chain

/-- The choice of two literal texts, of which one may be a character only. -/
def openingLetters (first second : List Char) : Pattern :=
  choice [Pattern.sequence (letters first), Pattern.sequence (letters second)]

theorem reads_opening (state : State) (item : state.mode = .item) (first second : List Char) :
    Reads state
      ("(?:".toList ++ (escape first ++ ['|'] ++ (escape second ++ [')'])))
      (state.grow [openingLetters first second] 0 []) := by
  have branches := (reads_escape (state.inside [] 0 []) rfl first).bar.append
    (reads_escape _ rfl second).parenthesis (head?_escape_append_ne _ (by simp))
  have apart : (escape first ++ ['|'] ++ (escape second ++ [')'])).head? ≠ some '?' := by
    rw [List.append_assoc]
    exact head?_escape_append_ne _ (by simp)
  simpa [openingLetters] using (reads_parenthesis state item).append branches apart

/-- What ends a plain text: an opening delimiter with its trim marker, or the end. -/
def literalEnd (index : Nat) (tagStart statementStart : List Char) : Pattern :=
  choice [
    Pattern.sequence
      [openingLetters tagStart statementStart, group index (some "rstrip") hyphenMark],
    Pattern.sequence [anchor .textEnd]]

theorem reads_literalEnd (state : State) (item : state.mode = .item)
    (fresh : "rstrip" ∉ state.names) (first second : List Char) :
    Reads state
      ("(?:".toList ++ ("(?:".toList ++ (escape first ++ ['|'] ++ (escape second ++ [')']))
        ++ ("(?P<".toList ++ "rstrip".toList ++ ['>'] ++ "-?".toList ++ [')']) ++ ['|']
        ++ ("\\z".toList ++ [')'])))
      (state.grow [literalEnd (state.groups + 1) first second] 1 ["rstrip"]) := by
  have delimited := ((reads_opening (state.inside [] 0 []) rfl first second).append
    (reads_namedGroup _ "rstrip" "-?".toList hyphenMark rfl (by decide)
      (by simpa using fresh) (by decide) rfl (reads_hyphenMark _ rfl))
    (by simp)).trans (congrArg some (grow_grow _ _ _ _ _ _ _))
  have branches := (Reads.bar delimited).append
    (Reads.parenthesis (reads_textEnd _ rfl)) (by decide)
  simpa [literalEnd] using (reads_parenthesis state item).append branches (by simp)

theorem reads_literalPattern (state : State) (item : state.mode = .item)
    (delimiters : Delimiters) (fresh : "literal" ∉ state.names ∧ "rstrip" ∉ state.names) :
    Reads state (literalPattern delimiters).toList
      (state.grow
        [group (state.groups + 1) (some "literal") (times 1 none false (one .any)),
          literalEnd (state.groups + 2) delimiters.tagStart.toList
            delimiters.statementStart.toList] 2 ["rstrip", "literal"]) := by
  have literal := reads_namedGroup state "literal" ".+?".toList (times 1 none false (one .any)) item
    (by decide) fresh.1 (by decide) rfl rfl
  have apart : ∀ t, ("(?:".toList ++ t).head? ≠ some '?' :=
    head?_append_ne (by decide)
  have chain := literal.append (reads_literalEnd _ rfl (by simpa using fresh.2)
    delimiters.tagStart.toList delimiters.statementStart.toList) (apart _)
  have opened : "(?P<literal>.+?)(?:(?:".toList
      = "(?P<".toList ++ "literal".toList ++ ['>'] ++ ".+?".toList ++ [')'] ++ "(?:".toList
        ++ "(?:".toList := rfl
  have closed : ")(?P<rstrip>-?)|\\z)".toList
      = [')'] ++ ("(?P<".toList ++ "rstrip".toList ++ ['>'] ++ "-?".toList ++ [')']) ++ ['|']
        ++ ("\\z".toList ++ [')']) := rfl
  have bar : "|".toList = ['|'] := rfl
  delta literalPattern
  simp only [String.toList_append, literally, String.toList_ofList, opened, closed, bar,
    List.append_assoc]
  simp only [grow_grow, grow_groups, List.append_assoc] at chain
  exact chain

/-! ### The patterns read -/

section Joined

variable {start stop : List Char} (start_ne : start ≠ []) (stop_ne : stop ≠ [])
include start_ne stop_ne

theorem choice_rawBlock (index : Nat) :
    choice [Pattern.sequence (namedTagLetters start stop "raw".toList
        ++ [group index (some "raw") lazyText] ++ namedTagLetters start stop "endraw".toList)]
      = rawBlock index start stop := by
  have joined : Pattern.sequence (namedTagLetters start stop "raw".toList
        ++ [group index (some "raw") lazyText] ++ namedTagLetters start stop "endraw".toList)
      = rawBlock index start stop := by
    simp [Pattern.sequence, namedTagLetters, flatMap_items_letters, List.foldr_append,
      foldr_consItem_letters, start_ne, stop_ne, rawBlock, namedTag, blankRun, greedyRun, items,
      consItem]
  rw [joined]
  exact choice_seq _ _

theorem choice_statementRegion (index : Nat) :
    choice [Pattern.sequence (letters start ++ [hyphenMark, blankRun]
        ++ [group index (some "stmt") lazyText, blankRun,
          group (index + 1) (some "rss") hyphenMark] ++ letters stop)]
      = statementRegion index start stop := by
  have joined : Pattern.sequence (letters start ++ [hyphenMark, blankRun]
        ++ [group index (some "stmt") lazyText, blankRun,
          group (index + 1) (some "rss") hyphenMark] ++ letters stop)
      = statementRegion index start stop := by
    simp [Pattern.sequence, flatMap_items_letters, List.foldr_append, foldr_consItem_letters,
      start_ne, stop_ne, statementRegion, bodyEnd, blankRun, greedyRun, hyphenMark, items, consItem]
  rw [joined]
  exact choice_seq _ _

theorem choice_tagRegion (index : Nat) :
    choice [Pattern.sequence (letters start ++ [hyphenMark, blankRun,
          group index (some "name") (greedyRun .word), blankRun]
        ++ [group (index + 1) (some "expr") lazyText, blankRun,
          group (index + 2) (some "rst") hyphenMark] ++ letters stop)]
      = tagRegion index start stop := by
  have joined : Pattern.sequence (letters start ++ [hyphenMark, blankRun,
          group index (some "name") (greedyRun .word), blankRun]
        ++ [group (index + 1) (some "expr") lazyText, blankRun,
          group (index + 2) (some "rst") hyphenMark] ++ letters stop)
      = tagRegion index start stop := by
    simp [Pattern.sequence, flatMap_items_letters, List.foldr_append, foldr_consItem_letters,
      start_ne, stop_ne, tagRegion, bodyEnd, blankRun, greedyRun, hyphenMark, items, consItem]
  rw [joined]
  exact choice_seq _ _

theorem openingLetters_eq : openingLetters start stop = opening start stop := by
  simp [openingLetters, opening, Pattern.sequence, flatMap_items_letters, foldr_consItem_letters,
    start_ne, stop_ne, consItem, ofItems]

end Joined

/-- The choice of two texts joins single characters to a set. -/
theorem opening_cases (first second : List Char) :
    opening first second = alt (text first) (text second)
      ∨ ∃ a b, first = [a] ∧ second = [b]
          ∧ opening first second = ofSet (.union (.single a) (.single b)) := by
  have start : opening first second = join [text first, text second] := by
    simp [opening, choice, branches, sharedStart, items]
  rw [start]
  rcases first with _ | ⟨a, _ | ⟨c, first⟩⟩
  · simp [join, joinedSet?, letter?, set?, ofBranches]
  · rcases second with _ | ⟨b, _ | ⟨c, second⟩⟩
    · simp [join, joinedSet?, letter?, set?, ofBranches]
    · exact .inr ⟨a, b, rfl, rfl, rfl⟩
    · simp [join, joinedSet?, letter?, set?, ofBranches]
  · simp [join, joinedSet?, letter?, set?, ofBranches]

/-- An opening delimiter is one of the two texts, the first preferred. -/
theorem run_opening {α : Type} (first second : List Char) (place : Place)
    (next : Place → Option α) :
    (opening first second).run place next
      = ((text first).run place next).or ((text second).run place next) := by
  rcases opening_cases first second with h | ⟨a, b, rfl, rfl, h⟩
  · rw [h, run_alt]
  · rw [h, run_ofSet]
    cases split : place.rest with
    | nil => simp [run, Place.pastSet?, Place.pastText?, split]
    | cons c rest =>
        by_cases isA : c = a
        · subst isA
          by_cases isB : c = b
          · simp [run, Place.pastSet?, Place.pastText?, split, CharSet.contains, ← isB]
          · simp [run, Place.pastSet?, Place.pastText?, split, CharSet.contains, isB]
        · by_cases isB : c = b
          · subst isB
            simp [run, Place.pastSet?, Place.pastText?, split, CharSet.contains, isA]
          · simp [run, Place.pastSet?, Place.pastText?, split, CharSet.contains, isA, isB]

theorem items_opening (first second : List Char) :
    (opening first second).items = [opening first second] := by
  rcases opening_cases first second with h | ⟨a, b, rfl, rfl, h⟩
  · rw [h]
    rfl
  · rw [h, ofSet]
    split
    · rfl
    · split <;> rfl

theorem literalEnd_eq {first second : List Char} (first_ne : first ≠ []) (second_ne : second ≠ [])
    (index : Nat) :
    literalEnd index first second
      = alt (seq (opening first second) (group index (some "rstrip") hyphenMark))
          (anchor .textEnd) := by
  have delimited : Pattern.sequence [opening first second, group index (some "rstrip") hyphenMark]
      = seq (opening first second) (group index (some "rstrip") hyphenMark) := by
    rw [Pattern.sequence, List.flatMap_cons, items_opening]
    simp [items, consItem, ofItems]
  have ended : Pattern.sequence [anchor .textEnd] = anchor .textEnd := rfl
  rw [literalEnd, openingLetters_eq first_ne second_ne, delimited, ended]
  simp [choice, branches, sharedStart, items, join, joinedSet?, letter?, set?, ofBranches]

theorem choice_literalRegion {first second : List Char} (first_ne : first ≠ [])
    (second_ne : second ≠ []) (index : Nat) :
    choice [Pattern.sequence [group index (some "literal") (times 1 none false (one .any)),
        literalEnd (index + 1) first second]] = literalRegion index first second := by
  have joined : Pattern.sequence [group index (some "literal") (times 1 none false (one .any)),
        literalEnd (index + 1) first second] = literalRegion index first second := by
    rw [literalEnd_eq first_ne second_ne]
    simp [Pattern.sequence, items, consItem, ofItems, literalRegion]
  rw [joined]
  exact choice_seq _ _

/-! ### The table -/

section Table

variable {delimiters : Delimiters}

theorem read?_rawPattern (tagStart : delimiters.tagStart.toList ≠ [])
    (tagEnd : delimiters.tagEnd.toList ≠ []) :
    read? (rawPattern delimiters).toList
      = some (rawBlock 1 delimiters.tagStart.toList delimiters.tagEnd.toList) := by
  rw [read?_of_reads (reads_rawPattern .start rfl delimiters (by simp [State.start])),
    finish?_grow]
  exact congrArg some (choice_rawBlock tagStart tagEnd 1)

theorem read?_statementPattern (statementStart : delimiters.statementStart.toList ≠ [])
    (statementEnd : delimiters.statementEnd.toList ≠ []) :
    read? (statementPattern delimiters).toList
      = some (statementRegion 1 delimiters.statementStart.toList
          delimiters.statementEnd.toList) := by
  rw [read?_of_reads (reads_statementPattern .start rfl delimiters (by simp [State.start])),
    finish?_grow]
  exact congrArg some (choice_statementRegion statementStart statementEnd 1)

theorem read?_tagPattern (tagStart : delimiters.tagStart.toList ≠ [])
    (tagEnd : delimiters.tagEnd.toList ≠ []) :
    read? (tagPattern delimiters).toList
      = some (tagRegion 1 delimiters.tagStart.toList delimiters.tagEnd.toList) := by
  rw [read?_of_reads (reads_tagPattern .start rfl delimiters (by simp [State.start])),
    finish?_grow]
  exact congrArg some (choice_tagRegion tagStart tagEnd 1)

theorem read?_literalPattern (tagStart : delimiters.tagStart.toList ≠ [])
    (statementStart : delimiters.statementStart.toList ≠ []) :
    read? (literalPattern delimiters).toList
      = some (literalRegion 1 delimiters.tagStart.toList delimiters.statementStart.toList) := by
  rw [read?_of_reads (reads_literalPattern .start rfl delimiters (by simp [State.start])),
    finish?_grow]
  exact congrArg some (choice_literalRegion tagStart statementStart 1)

theorem head?_rawPattern (delimiters : Delimiters) :
    (rawPattern delimiters).toList.head? ≠ some '?' := by
  simp only [rawPattern, literally, String.toList_append, String.toList_ofList, List.append_assoc]
  exact head?_escape_append_ne _ (head?_append_ne (by decide) _)

theorem head?_statementPattern (delimiters : Delimiters) :
    (statementPattern delimiters).toList.head? ≠ some '?' := by
  simp only [statementPattern, literally, String.toList_append, String.toList_ofList,
    List.append_assoc]
  exact head?_escape_append_ne _ (head?_append_ne (by decide) _)

theorem head?_tagPattern (delimiters : Delimiters) :
    (tagPattern delimiters).toList.head? ≠ some '?' := by
  simp only [tagPattern, literally, String.toList_append, String.toList_ofList, List.append_assoc]
  exact head?_escape_append_ne _ (head?_append_ne (by decide) _)

theorem head?_literalPattern (delimiters : Delimiters) :
    (literalPattern delimiters).toList.head? ≠ some '?' := by
  delta literalPattern
  simp only [String.toList_append, List.append_assoc]
  exact head?_append_ne (by decide) _

/-! Each rule in the group that the table puts it in. -/

theorem reads_rawRule (state : State) (item : state.mode = .item) (fresh : "raw" ∉ state.names)
    (tagStart : delimiters.tagStart.toList ≠ []) (tagEnd : delimiters.tagEnd.toList ≠ []) :
    Reads state ('(' :: (rawPattern delimiters).toList ++ [')'])
      (state.grow [group (state.groups + 1) none (rawBlock (state.groups + 2)
        delimiters.tagStart.toList delimiters.tagEnd.toList)] 2 ["raw"]) := by
  have read := reads_group state item (head?_rawPattern delimiters)
    (reads_rawPattern _ rfl delimiters fresh)
  rwa [choice_rawBlock tagStart tagEnd] at read

theorem reads_statementRule (state : State) (item : state.mode = .item)
    (fresh : "stmt" ∉ state.names ∧ "rss" ∉ state.names)
    (statementStart : delimiters.statementStart.toList ≠ [])
    (statementEnd : delimiters.statementEnd.toList ≠ []) :
    Reads state ('(' :: (statementPattern delimiters).toList ++ [')'])
      (state.grow [group (state.groups + 1) none (statementRegion (state.groups + 2)
        delimiters.statementStart.toList delimiters.statementEnd.toList)] 3 ["rss", "stmt"]) := by
  have read := reads_group state item (head?_statementPattern delimiters)
    (reads_statementPattern _ rfl delimiters fresh)
  rwa [choice_statementRegion statementStart statementEnd] at read

theorem reads_tagRule (state : State) (item : state.mode = .item)
    (fresh : "name" ∉ state.names ∧ "expr" ∉ state.names ∧ "rst" ∉ state.names)
    (tagStart : delimiters.tagStart.toList ≠ []) (tagEnd : delimiters.tagEnd.toList ≠ []) :
    Reads state ('(' :: (tagPattern delimiters).toList ++ [')'])
      (state.grow [group (state.groups + 1) none (tagRegion (state.groups + 2)
        delimiters.tagStart.toList delimiters.tagEnd.toList)] 4 ["rst", "expr", "name"]) := by
  have read := reads_group state item (head?_tagPattern delimiters)
    (reads_tagPattern _ rfl delimiters fresh)
  rwa [choice_tagRegion tagStart tagEnd] at read

theorem reads_literalRule (state : State) (item : state.mode = .item)
    (fresh : "literal" ∉ state.names ∧ "rstrip" ∉ state.names)
    (tagStart : delimiters.tagStart.toList ≠ [])
    (statementStart : delimiters.statementStart.toList ≠ []) :
    Reads state ('(' :: (literalPattern delimiters).toList ++ [')'])
      (state.grow [group (state.groups + 1) none (literalRegion (state.groups + 2)
        delimiters.tagStart.toList delimiters.statementStart.toList)] 3
        ["rstrip", "literal"]) := by
  have read := reads_group state item (head?_literalPattern delimiters)
    (reads_literalPattern _ rfl delimiters fresh)
  rwa [choice_literalRegion tagStart statementStart] at read

/-- Groups are no alternatives that could be joined any further. -/
theorem choice_groups (first second third fourth : Nat × Pattern) :
    choice [Pattern.sequence ([anchor .textStart] ++
        [choice [Pattern.sequence [group first.1 none first.2],
          Pattern.sequence [group second.1 none second.2],
          Pattern.sequence [group third.1 none third.2],
          Pattern.sequence [group fourth.1 none fourth.2]]])]
      = seq (anchor .textStart)
          (alt (group first.1 none first.2) (alt (group second.1 none second.2)
            (alt (group third.1 none third.2) (group fourth.1 none fourth.2)))) := by
  simp [choice, Pattern.sequence, items, consItem, ofItems, branches, sharedStart, join, joinedSet?,
    letter?, set?, ofBranches]

/-- The written rules joined to one alternation are read as the region pattern. -/
theorem read?_joined (tagStart : delimiters.tagStart.toList ≠ [])
    (tagEnd : delimiters.tagEnd.toList ≠ [])
    (statementStart : delimiters.statementStart.toList ≠ [])
    (statementEnd : delimiters.statementEnd.toList ≠ []) :
    read? (RuleTable.joined ((regionRules delimiters).map Prod.snd))
      = some (regionPattern delimiters) := by
  have anchored : Reads .start "\\A".toList (State.start.grow [anchor .textStart] 0 []) := rfl
  have opened := anchored.append (reads_parenthesis _ rfl) (by decide)
  have raw := opened.append (Reads.bar (reads_rawRule _ rfl (by simp [State.start]) tagStart
    tagEnd)) (by simp)
  have statement := raw.append (Reads.bar (reads_statementRule _ rfl (by simp [State.start])
    statementStart statementEnd)) (by simp)
  have tag := statement.append (Reads.bar (reads_tagRule _ rfl (by simp [State.start]) tagStart
    tagEnd)) (by simp)
  have chain := tag.append (Reads.parenthesis (reads_literalRule _ rfl (by simp [State.start])
    tagStart statementStart)) (by simp)
  have written : RuleTable.joined ((regionRules delimiters).map Prod.snd)
      = "\\A".toList ++ "(?:".toList
        ++ ('(' :: (rawPattern delimiters).toList ++ [')'] ++ ['|'])
        ++ ('(' :: (statementPattern delimiters).toList ++ [')'] ++ ['|'])
        ++ ('(' :: (tagPattern delimiters).toList ++ [')'] ++ ['|'])
        ++ ('(' :: (literalPattern delimiters).toList ++ [')'] ++ [')']) := by
    show ("\\A".toList ++ "(?:".toList) ++ (List.intersperse ['|']
      (((regionRules delimiters).map Prod.snd).map fun text =>
        '(' :: text.toList ++ [')'])).flatten ++ [')'] = _
    simp only [regionRules, List.map_cons, List.map_nil, List.intersperse, List.flatten_cons,
      List.flatten_nil, List.append_assoc, List.nil_append, List.cons_append]
  have numbered : State.start.groups = 0 := rfl
  simp only [inside_groups, grow_groups, numbered, Nat.reduceAdd] at chain
  rw [written, read?_of_reads chain, grow_grow, finish?_grow]
  exact congrArg some (choice_groups (1, _) (3, _) (6, _) (10, _))

/-! The levels of the rules, each of them in front of any other text. -/

theorem levels_rawPattern (rest : List Char) :
    levels false ((rawPattern delimiters).toList ++ rest) = 10 + levels false rest := by
  simp +arith [rawPattern, literally, levels, charLevels]

theorem levels_statementPattern (rest : List Char) :
    levels false ((statementPattern delimiters).toList ++ rest) = 14 + levels false rest := by
  simp +arith [statementPattern, literally, levels, charLevels]

theorem levels_tagPattern (rest : List Char) :
    levels false ((tagPattern delimiters).toList ++ rest) = 20 + levels false rest := by
  simp +arith [tagPattern, literally, levels, charLevels]

theorem levels_literalPattern (rest : List Char) :
    levels false ((literalPattern delimiters).toList ++ rest) = 21 + levels false rest := by
  delta literalPattern
  simp +arith [literally, levels, charLevels]

/-- No rule is nested too deep, whatever the delimiters hold. -/
theorem nesting_regionRules :
    ∀ entry ∈ regionRules delimiters, nesting entry.2.toList ≤ maxNesting := by
  have raw := @levels_rawPattern delimiters []
  have statement := @levels_statementPattern delimiters []
  have tag := @levels_tagPattern delimiters []
  have literal := @levels_literalPattern delimiters []
  simp only [List.append_nil, levels] at raw statement tag literal
  have few : ∀ entry ∈ regionRules delimiters, levels false entry.2.toList + 4 ≤ maxNesting := by
    simp [regionRules, raw, statement, tag, literal, maxNesting]
  exact fun entry member => Nat.le_trans (nesting_le_levels _) (few entry member)

theorem nesting_joined :
    nesting (RuleTable.joined ((regionRules delimiters).map Prod.snd)) ≤ maxNesting := by
  refine Nat.le_trans (nesting_le_levels _) ?_
  simp [RuleTable.joined, regionRules, levels_rawPattern, levels_statementPattern,
    levels_tagPattern, levels_literalPattern, levels, charLevels, maxNesting]

theorem tagStart_ne (valid : delimiters.validate = .ok ()) : delimiters.tagStart.toList ≠ [] := by
  simpa [Delimiters.get] using Delimiters.validate_eq_ok_iff.1 valid .tagStart

theorem tagEnd_ne (valid : delimiters.validate = .ok ()) : delimiters.tagEnd.toList ≠ [] := by
  simpa [Delimiters.get] using Delimiters.validate_eq_ok_iff.1 valid .tagEnd

theorem statementStart_ne (valid : delimiters.validate = .ok ()) :
    delimiters.statementStart.toList ≠ [] := by
  simpa [Delimiters.get] using Delimiters.validate_eq_ok_iff.1 valid .statementStart

theorem statementEnd_ne (valid : delimiters.validate = .ok ()) :
    delimiters.statementEnd.toList ≠ [] := by
  simpa [Delimiters.get] using Delimiters.validate_eq_ok_iff.1 valid .statementEnd

/-- Delimiters none of which is empty make a region table, whose pattern is known. -/
theorem compile_eq_ok (valid : delimiters.validate = .ok ()) :
    RegionTable.compile delimiters = .ok (regionTable delimiters) := by
  have tagStart := tagStart_ne valid
  have tagEnd := tagEnd_ne valid
  have statementStart := statementStart_ne valid
  have statementEnd := statementEnd_ne valid
  have table : RuleTable.compile Region.label (regionRules delimiters)
      = .ok ⟨regionPattern delimiters,
          [(1, .raw), (3, .statement), (6, .tag), (10, .literal)]⟩ := by
    have shallow := @nesting_regionRules delimiters
    simp only [regionRules, List.forall_mem_cons] at shallow
    obtain ⟨raw, statement, tag, literal, -⟩ := shallow
    rw [RuleTable.compile, compile?_eq_some_iff.2
      ⟨read?_joined tagStart tagEnd statementStart statementEnd, nesting_joined⟩]
    simp only [regionRules, List.mapM_cons, List.mapM_nil, RuleTable.compileAlone,
      compile?_eq_some_iff.2 ⟨read?_rawPattern tagStart tagEnd, raw⟩,
      compile?_eq_some_iff.2 ⟨read?_statementPattern statementStart statementEnd, statement⟩,
      compile?_eq_some_iff.2 ⟨read?_tagPattern tagStart tagEnd, tag⟩,
      compile?_eq_some_iff.2 ⟨read?_literalPattern tagStart statementStart, literal⟩]
    rfl
  rw [RegionTable.compile, valid, table]
  rfl

end Table

end LiquidTokens.Template
