import LiquidTokens.Proofs.Template.Visits
import Mathlib.Data.List.TakeWhile

/-!
A scanner of templates without patterns.

The scanner looks at the text from one position on and decides by searching for delimiters alone.
It keeps what it has read, which gives the position and the line, and whether the next plain text
is to be trimmed at its start. When no delimiter holds a blank, a hyphen or a word character and
no opening delimiter is a proper beginning of the other (`Separated`), the lazy and greedy parts
of the region patterns leave no trace: a region ends at the first closing delimiter, and the
scanner gives the same tokens and the same error.

Main statement: `tokenize_eq_scan`.
-/

namespace LiquidTokens.Template

open Text (byteLength dropWhile_append_of_head isBlank isWord lineBreaks takeWhile_append_of_head
  trimStart)

/-! ### Searching -/

/-- What follows `start`, if the text begins with it. -/
def after? (start text : List Char) : Option (List Char) :=
  if start.isPrefixOf text then some (text.drop start.length) else none

/-- The text before the first place at which `ends` finds something, and what it leaves there. -/
def cutAt? (ends : List Char → Option (List Char)) :
    List Char → Option (List Char × List Char)
  | [] => (ends []).map ([], ·)
  | c :: rest =>
      match ends (c :: rest) with
      | some left => some ([], left)
      | none => (cutAt? ends rest).map fun (inner, left) => (c :: inner, left)

/-- What follows a tag that holds just a word, if the text begins with one. -/
def namedTag? (start stop word text : List Char) : Option (List Char) :=
  (after? start text).bind fun t =>
    (after? word (trimStart t)).bind fun t => after? stop (trimStart t)

/-- The text up to the first place where an opening delimiter stands, and the rest. -/
def plainRun (tagStart statementStart : List Char) : List Char → List Char × List Char
  | [] => ([], [])
  | c :: rest =>
      if tagStart.isPrefixOf (c :: rest) || statementStart.isPrefixOf (c :: rest) then
        ([], c :: rest)
      else
        let (plain, left) := plainRun tagStart statementStart rest
        (c :: plain, left)

theorem after?_eq_some_iff {start text left : List Char} :
    after? start text = some left ↔ text = start ++ left := by
  rw [after?]
  constructor
  · intro found
    split at found
    · next stands =>
        obtain ⟨rest, rfl⟩ := List.isPrefixOf_iff_prefix.1 stands
        simpa [eq_comm] using found
    · cases found
  · rintro rfl
    simp

theorem after?_eq_none_iff {start text : List Char} :
    after? start text = none ↔ ¬ start <+: text := by
  rw [after?, ← List.isPrefixOf_iff_prefix]
  split <;> simp [*]

theorem cutAt?_append {ends : List Char → Option (List Char)} {inner rest left : List Char}
    (found : ends rest = some left)
    (first : ∀ u w, inner = u ++ w → w ≠ [] → ends (w ++ rest) = none) :
    cutAt? ends (inner ++ rest) = some (inner, left) := by
  induction inner with
  | nil => cases rest <;> simp [cutAt?, found]
  | cons c inner ih =>
      have missed : ends (c :: (inner ++ rest)) = none :=
        first [] (c :: inner) rfl (List.cons_ne_nil c inner)
      have later := ih fun u w split long => first (c :: u) w (congrArg (c :: ·) split) long
      rw [List.cons_append, cutAt?, missed, later]
      rfl

theorem split_of_cutAt? {ends : List Char → Option (List Char)} {text inner left : List Char}
    (found : cutAt? ends text = some (inner, left)) : ∃ rest, text = inner ++ rest
      ∧ ends rest = some left ∧ ∀ u w, inner = u ++ w → w ≠ [] → ends (w ++ rest) = none := by
  induction text generalizing inner with
  | nil =>
      obtain ⟨_, ended, same⟩ := Option.map_eq_some_iff.1 found
      cases same
      exact ⟨[], rfl, ended, by simp⟩
  | cons c text ih =>
      rw [cutAt?] at found
      cases here : ends (c :: text) with
      | some early =>
          rw [here] at found
          cases found
          exact ⟨c :: text, rfl, here, by simp⟩
      | none =>
          rw [here] at found
          obtain ⟨⟨more, left⟩, later, same⟩ := Option.map_eq_some_iff.1 found
          cases same
          obtain ⟨rest, rfl, ended, first⟩ := ih later
          refine ⟨rest, rfl, ended, fun u w split long => ?_⟩
          cases u with
          | nil =>
              obtain rfl : c :: more = w := split
              exact here
          | cons d u => exact first u w (List.cons_eq_cons.1 split).2 long

theorem cutAt?_eq_some_iff {ends : List Char → Option (List Char)} {text inner left : List Char} :
    cutAt? ends text = some (inner, left) ↔ ∃ rest, text = inner ++ rest ∧ ends rest = some left
      ∧ ∀ u w, inner = u ++ w → w ≠ [] → ends (w ++ rest) = none := by
  constructor
  · exact split_of_cutAt?
  · rintro ⟨rest, rfl, found, first⟩
    exact cutAt?_append found first

theorem cutAt?_eq_none_iff {ends : List Char → Option (List Char)} {text : List Char} :
    cutAt? ends text = none ↔ ∀ inner rest, text = inner ++ rest → ends rest = none := by
  induction text with
  | nil => simp [cutAt?]
  | cons c text ih =>
      rw [cutAt?]
      cases here : ends (c :: text) with
      | some early =>
          simp only [reduceCtorEq, false_iff]
          intro missed
          rw [missed [] (c :: text) rfl] at here
          cases here
      | none =>
          simp only [Option.map_eq_none_iff, ih]
          constructor
          · intro missed inner rest split
            rcases inner with _ | ⟨d, inner⟩
            · rw [List.nil_append] at split
              rw [← split]
              exact here
            · obtain ⟨rfl, later⟩ := List.cons_eq_cons.1 split
              exact missed inner rest later
          · rintro missed inner rest rfl
            exact missed (c :: inner) rest rfl

theorem plainRun_eq {tagStart statementStart plain left : List Char}
    (halts : Halts tagStart statementStart left)
    (shortest : ∀ u w, plain = u ++ w → w ≠ [] → ¬ Halts tagStart statementStart (w ++ left)) :
    plainRun tagStart statementStart (plain ++ left) = (plain, left) := by
  induction plain with
  | nil =>
      cases left with
      | nil => rfl
      | cons c left =>
          have stands : (tagStart.isPrefixOf (c :: left) || statementStart.isPrefixOf (c :: left))
              = true := by
            simpa [Halts] using halts
          rw [List.nil_append, plainRun, if_pos stands]
  | cons c plain ih =>
      have early := shortest [] (c :: plain) rfl (by simp)
      have none : ¬ (tagStart.isPrefixOf (c :: plain ++ left)
          || statementStart.isPrefixOf (c :: plain ++ left)) = true := by
        simpa [Halts] using early
      have rest := ih fun u w split long => shortest (c :: u) w (by simp [split]) long
      rw [List.cons_append] at none ⊢
      rw [plainRun, if_neg none, rest]

/-! ### The next region -/

/-- The region that opens with `start` and its inside, up to the first closing delimiter. -/
def enclosed? (start stop text : List Char) : Option (List Char × List Char) :=
  (after? start text).bind (cutAt? (after? stop))

/-- The inside of a raw block, up to the first tag that closes it. -/
def raw? (start stop text : List Char) : Option (List Char × List Char) :=
  (namedTag? start stop "raw".toList text).bind (cutAt? (namedTag? start stop "endraw".toList))

/-- Plain text has at least one character. -/
def literalRun (tagStart statementStart : List Char) : List Char → List Char × List Char
  | [] => ([], [])
  | c :: rest =>
      let (plain, left) := plainRun tagStart statementStart rest
      (c :: plain, left)

/-- The region with which a text begins, what it holds and what follows it. -/
def front (delimiters : Delimiters) (text : List Char) : Region × List Char × List Char :=
  let tagStart := delimiters.tagStart.toList
  let tagEnd := delimiters.tagEnd.toList
  let statementStart := delimiters.statementStart.toList
  let statementEnd := delimiters.statementEnd.toList
  match raw? tagStart tagEnd text with
  | some found => (.raw, found)
  | none =>
      match enclosed? statementStart statementEnd text with
      | some found => (.statement, found)
      | none =>
          match enclosed? tagStart tagEnd text with
          | some found => (.tag, found)
          | none => (.literal, literalRun tagStart statementStart text)

/-- Delimiters of which none holds a blank, a hyphen or a word character, and of which no opening
one is a proper beginning of the other. -/
structure Separated (delimiters : Delimiters) : Prop where
  valid : delimiters.validate = .ok ()
  hard : ∀ role, ∀ c ∈ (delimiters.get role).toList, isSoft c = false
  tagApart : delimiters.tagStart.toList <+: delimiters.statementStart.toList →
    delimiters.tagStart = delimiters.statementStart
  statementApart : delimiters.statementStart.toList <+: delimiters.tagStart.toList →
    delimiters.statementStart = delimiters.tagStart

section Searching

variable {start stop word text inner left : List Char}

theorem head?_append_hard {p : Char → Bool} (word_ne : word ≠ [])
    (hard : ∀ c ∈ word, p c = false) : ∀ c ∈ (word ++ text).head?, p c = false := by
  obtain ⟨d, word, rfl⟩ := List.exists_cons_of_ne_nil word_ne
  rintro c ⟨⟩
  exact hard d List.mem_cons_self

theorem namedTag?_eq_some_iff (word_ne : word ≠ []) (stop_ne : stop ≠ [])
    (wordHard : ∀ c ∈ word, isBlank c = false) (stopHard : ∀ c ∈ stop, isBlank c = false) :
    namedTag? start stop word text = some left ↔ NamedTag start stop word text left := by
  constructor
  · intro found
    obtain ⟨t, opened, found⟩ := Option.bind_eq_some_iff.1 found
    obtain ⟨u, named, closed⟩ := Option.bind_eq_some_iff.1 found
    rw [after?_eq_some_iff] at opened named closed
    have first : t.takeWhile isBlank ++ (word ++ u) = t := by
      rw [← named]
      exact List.takeWhile_append_dropWhile
    have second : u.takeWhile isBlank ++ (stop ++ left) = u := by
      rw [← closed]
      exact List.takeWhile_append_dropWhile
    refine ⟨t.takeWhile isBlank, u.takeWhile isBlank, ?_, fun c => List.mem_takeWhile_imp,
      fun c => List.mem_takeWhile_imp⟩
    calc text = start ++ t := opened
      _ = start ++ (t.takeWhile isBlank ++ (word ++ u)) := by rw [first]
      _ = start ++ (t.takeWhile isBlank ++ (word ++ (u.takeWhile isBlank ++ (stop ++ left)))) := by
          rw [second]
      _ = _ := by simp
  · rintro ⟨lead, gap, rfl, leadBlank, gapBlank⟩
    have opened : after? start (start ++ lead ++ word ++ gap ++ stop ++ left)
        = some (lead ++ (word ++ (gap ++ (stop ++ left)))) := after?_eq_some_iff.2 (by simp)
    have named : trimStart (lead ++ (word ++ (gap ++ (stop ++ left))))
        = word ++ (gap ++ (stop ++ left)) :=
      dropWhile_append_of_head leadBlank (head?_append_hard word_ne wordHard)
    have closed : trimStart (gap ++ (stop ++ left)) = stop ++ left :=
      dropWhile_append_of_head gapBlank (head?_append_hard stop_ne stopHard)
    rw [namedTag?, opened, Option.bind_some, named, after?_eq_some_iff.2 rfl, Option.bind_some,
      closed, after?_eq_some_iff.2 rfl]

/-- What lies between an opening delimiter and the first closing one. -/
theorem enclosed?_eq_some_iff : enclosed? start stop text = some (inner, left)
    ↔ text = start ++ inner ++ stop ++ left
      ∧ ∀ u w, inner = u ++ w → w ≠ [] → ¬ stop <+: w ++ (stop ++ left) := by
  rw [enclosed?, Option.bind_eq_some_iff]
  constructor
  · rintro ⟨t, opened, cut⟩
    obtain ⟨rest, rfl, closed, first⟩ := cutAt?_eq_some_iff.1 cut
    rw [after?_eq_some_iff] at opened closed
    subst opened closed
    exact ⟨by simp, fun u w split long => after?_eq_none_iff.1 (first u w split long)⟩
  · rintro ⟨rfl, first⟩
    refine ⟨inner ++ (stop ++ left), after?_eq_some_iff.2 (by simp), ?_⟩
    exact cutAt?_eq_some_iff.2 ⟨stop ++ left, rfl, after?_eq_some_iff.2 rfl,
      fun u w split long => after?_eq_none_iff.2 (first u w split long)⟩

/-- Where no closing delimiter can begin early, the inside is what precedes the first one. -/
theorem enclosed?_eq_some (stop_ne : stop ≠ []) (hard : ∀ c ∈ stop, isSoft c = false)
    (enclosed : Enclosed start stop text inner left) :
    enclosed? start stop text = some (inner, left) := by
  refine enclosed?_eq_some_iff.2 ⟨enclosed.split, fun u w split long starts => ?_⟩
  obtain ⟨c, w, rfl⟩ := List.exists_cons_of_ne_nil long
  obtain ⟨d, stop, rfl⟩ := List.exists_cons_of_ne_nil stop_ne
  have soft := enclosed.late u c w split starts
  obtain ⟨rfl, -⟩ := List.cons_prefix_cons.1 starts
  rw [hard d List.mem_cons_self] at soft
  cases soft

theorem enclosed?_eq_none (missing : ¬ Opens start stop text) :
    enclosed? start stop text = none := by
  rw [Option.eq_none_iff_forall_ne_some]
  rintro ⟨inner, left⟩ found
  obtain ⟨split, -⟩ := enclosed?_eq_some_iff.1 found
  exact missing ⟨inner ++ stop ++ left, by simpa using split, inner, left, rfl⟩

theorem isBlank_of_hard {c : Char} (hard : isSoft c = false) : isBlank c = false := by
  simp only [isSoft, Bool.or_eq_false_iff] at hard
  exact hard.1.1

/-- The tags that open and close a raw block. -/
theorem rawTag_iff (stop_ne : stop ≠ []) (hard : ∀ c ∈ stop, isSoft c = false) :
    (namedTag? start stop "raw".toList text = some left ↔ NamedTag start stop "raw".toList text left)
      ∧ (namedTag? start stop "endraw".toList text = some left
        ↔ NamedTag start stop "endraw".toList text left) := by
  have apart : ∀ c ∈ stop, isBlank c = false := fun c member => isBlank_of_hard (hard c member)
  exact ⟨namedTag?_eq_some_iff (by decide) stop_ne (by decide) apart,
    namedTag?_eq_some_iff (by decide) stop_ne (by decide) apart⟩

theorem raw?_eq_some (stop_ne : stop ≠ []) (hard : ∀ c ∈ stop, isSoft c = false)
    {head foot : List Char} (cut : RawCut start stop text head inner foot left) :
    raw? start stop text = some (inner, left) := by
  have opens := (rawTag_iff stop_ne hard).1.2 cut.opens
  have closes := (rawTag_iff stop_ne hard).2.2 cut.closes
  rw [raw?, opens, Option.bind_some, cutAt?_eq_some_iff]
  refine ⟨foot ++ left, by simp, closes, fun u w split long => ?_⟩
  rw [Option.eq_none_iff_forall_ne_some]
  intro early found
  have tag := (rawTag_iff stop_ne hard).2.1 found
  exact cut.shortest u w split long early (by simpa using tag)

theorem raw?_eq_none (stop_ne : stop ≠ []) (hard : ∀ c ∈ stop, isSoft c = false)
    (missing : ¬ OpensRaw start stop text) : raw? start stop text = none := by
  rw [Option.eq_none_iff_forall_ne_some]
  rintro ⟨inner, left⟩ found
  obtain ⟨t, opened, found⟩ := Option.bind_eq_some_iff.1 found
  obtain ⟨rest, rfl, closed, -⟩ := cutAt?_eq_some_iff.1 found
  exact missing ⟨_, (rawTag_iff stop_ne hard).1.1 opened, inner, rest, rfl, left,
    (rawTag_iff stop_ne hard).2.1 closed⟩

/-- A closing delimiter after a blank cannot begin before that blank, so it is the first one if
there is none inside. -/
theorem enclosed?_eq_some_of_blank (hard : ∀ c ∈ stop, isBlank c = false) {b : Char}
    (blank : isBlank b = true) (absent : ¬ stop <:+: inner ++ [b]) :
    enclosed? start stop (start ++ (inner ++ [b]) ++ stop ++ left) = some (inner ++ [b], left) := by
  refine enclosed?_eq_some_iff.2 ⟨rfl, fun u w split long starts => ?_⟩
  rcases List.prefix_or_prefix_of_prefix starts (List.prefix_append w _) with within | beyond
  · refine absent (within.isInfix.trans ?_)
    rw [split]
    exact (List.suffix_append u w).isInfix
  · have last : b ∈ w := by
      have ends : (u ++ w).getLast? = some b := by rw [← split, List.getLast?_concat]
      rw [List.getLast?_append_of_ne_nil u long] at ends
      exact List.mem_of_getLast? ends
    rw [hard b (beyond.subset last)] at blank
    cases blank

/-- A tag is the start of a raw block only if it holds the word `raw` and nothing else. -/
theorem raw?_eq_none_of_enclosed (stop_ne : stop ≠ []) (hard : ∀ c ∈ stop, isSoft c = false)
    (enclosed : enclosed? start stop text = some (inner, left))
    (other : nameOf inner = "raw".toList → remainder inner ≠ []) : raw? start stop text = none := by
  refine raw?_eq_none stop_ne hard ?_
  rintro ⟨after, ⟨lead, gap, split, leadBlank, gapBlank⟩, -⟩
  have word : ∀ c ∈ "raw".toList, isWord c = true := by decide +kernel
  have late : Late stop (lead ++ "raw".toList ++ gap) (stop ++ after) :=
    ((late_of_blank leadBlank _ _).append (late_of_word word _ _)).append
      (late_of_blank gapBlank _ _)
  have found := enclosed?_eq_some stop_ne hard ⟨by simpa using split, late⟩
  rw [enclosed] at found
  obtain ⟨rfl, -⟩ := Prod.mk.inj (Option.some.inj found)
  have begins : content (lead ++ "raw".toList ++ gap) = "raw".toList ++ gap := by
    have unmarked : unhyphened (lead ++ ("raw".toList ++ gap)) = lead ++ ("raw".toList ++ gap) := by
      cases lead with
      | nil => rfl
      | cons c lead =>
          rw [List.cons_append, unhyphened]
          rintro _ ⟨⟩
          have hyphen := leadBlank '-' List.mem_cons_self
          rw [isBlank_hyphen] at hyphen
          cases hyphen
    rw [content, List.append_assoc, unmarked]
    exact dropWhile_append_of_head leadBlank (head?_append_hard (by decide) (by decide))
  have apart : ∀ c ∈ gap.head?, isWord c = false := fun c first =>
    isWord_of_isBlank (gapBlank c (List.mem_of_mem_head? first))
  refine other ?_ ?_
  · rw [nameOf, begins, takeWhile_append_of_head word apart]
  · rw [remainder, begins, dropWhile_append_of_head word apart]
    exact List.dropWhile_eq_nil_iff.2 gapBlank

theorem literalRun_eq {tagStart statementStart literal : List Char}
    (cut : LiteralCut tagStart statementStart text literal left) :
    literalRun tagStart statementStart text = (literal, left) := by
  obtain ⟨c, plain, rfl⟩ := List.exists_cons_of_ne_nil cut.some
  have rest : plainRun tagStart statementStart (plain ++ left) = (plain, left) :=
    plainRun_eq cut.halts fun u w split long =>
      cut.shortest (c :: u) w (by simp [split]) (by simp) long
  rw [cut.split, List.cons_append, literalRun, rest]

end Searching

/-- The scanner finds the region with which a text begins. -/
theorem front_eq {delimiters : Delimiters} (separated : Separated delimiters)
    {text piece inner left : List Char} {region : Region}
    (next : NextRegion delimiters text region piece inner left) :
    front delimiters text = (region, inner, left) := by
  have tagHard : ∀ c ∈ delimiters.tagEnd.toList, isSoft c = false := separated.hard .tagEnd
  have statementHard : ∀ c ∈ delimiters.statementEnd.toList, isSoft c = false :=
    separated.hard .statementEnd
  have tagEnd := tagEnd_ne separated.valid
  have statementEnd := statementEnd_ne separated.valid
  cases next with
  | raw cut => rw [front, raw?_eq_some tagEnd tagHard cut]
  | statement noRaw enclosed =>
      rw [front, raw?_eq_none tagEnd tagHard noRaw,
        enclosed?_eq_some statementEnd statementHard enclosed]
  | tag noRaw noStatement enclosed =>
      rw [front, raw?_eq_none tagEnd tagHard noRaw, enclosed?_eq_none noStatement,
        enclosed?_eq_some tagEnd tagHard enclosed]
  | literal noRaw noStatement noTag cut =>
      rw [front, raw?_eq_none tagEnd tagHard noRaw, enclosed?_eq_none noStatement,
        enclosed?_eq_none noTag, literalRun_eq cut]

/-! ### The scanner -/

theorem length_after?_add {start text left : List Char} (found : after? start text = some left) :
    left.length + start.length = text.length := by
  rw [after?_eq_some_iff.1 found, List.length_append, Nat.add_comm]

theorem length_cutAt?_le {ends : List Char → Option (List Char)}
    (shorter : ∀ t left, ends t = some left → left.length ≤ t.length) {text inner left : List Char}
    (found : cutAt? ends text = some (inner, left)) : left.length ≤ text.length := by
  obtain ⟨rest, rfl, closed, -⟩ := cutAt?_eq_some_iff.1 found
  have := shorter rest left closed
  rw [List.length_append]
  omega

theorem length_namedTag?_add_le {start stop word text left : List Char}
    (found : namedTag? start stop word text = some left) :
    left.length + start.length ≤ text.length := by
  obtain ⟨t, opened, found⟩ := Option.bind_eq_some_iff.1 found
  obtain ⟨u, named, closed⟩ := Option.bind_eq_some_iff.1 found
  have opened := length_after?_add opened
  have named := length_after?_add named
  have closed := length_after?_add closed
  have lead := (List.dropWhile_suffix isBlank (l := t)).length_le
  have gap := (List.dropWhile_suffix isBlank (l := u)).length_le
  simp only [trimStart] at named closed
  omega

theorem length_plainRun_le (tagStart statementStart text : List Char) :
    (plainRun tagStart statementStart text).2.length ≤ text.length := by
  induction text with
  | nil => exact le_rfl
  | cons c rest ih =>
      rw [plainRun]
      split
      · exact le_rfl
      · exact ih.trans (Nat.le_succ _)

/-- Each region is followed by less text than it began with. -/
theorem front_left_lt {delimiters : Delimiters} (valid : delimiters.validate = .ok ())
    {text : List Char} (nonempty : text ≠ []) :
    (front delimiters text).2.2.length < text.length := by
  have tagStart := List.length_pos_iff.2 (tagStart_ne valid)
  have statementStart := List.length_pos_iff.2 (statementStart_ne valid)
  have delimited {start stop : List Char} (positive : 0 < start.length)
      {found : List Char × List Char} (cut : enclosed? start stop text = some found) :
      found.2.length < text.length := by
    obtain ⟨rfl, -⟩ := enclosed?_eq_some_iff.1 cut
    simp only [List.length_append]
    omega
  rw [front]
  split
  · next found cut =>
      obtain ⟨t, opened, cut⟩ := Option.bind_eq_some_iff.1 cut
      have rest := length_cutAt?_le (fun u left closed => by
        have := length_namedTag?_add_le closed
        omega) cut
      have := length_namedTag?_add_le opened
      show found.2.length < text.length
      omega
  · split
    · next found cut => exact delimited statementStart cut
    · split
      · next found cut => exact delimited tagStart cut
      · obtain ⟨c, rest, rfl⟩ := List.exists_cons_of_ne_nil nonempty
        exact Nat.lt_succ_of_le (length_plainRun_le _ _ rest)

/-- Some tokens before those of a run. -/
def prepend (tokens : List Token) (run : Run) : Run :=
  { run with tokens := tokens ++ run.tokens }

/-- The closing delimiter that is missing when plain text begins with an opening one. -/
def missing? (delimiters : Delimiters) (text : List Char) : Option String :=
  if delimiters.statementStart.toList.isPrefixOf text then some delimiters.statementEnd
  else if delimiters.tagStart.toList.isPrefixOf text then some delimiters.tagEnd
  else none

/-- The tokens of the region after `read`, put before those that are found further on. The flag
`trim` says that plain text is to be trimmed at its start; what is found further on depends on
it. -/
def scanRegion (delimiters : Delimiters) (read : List Char) (region : Region)
    (inner left : List Char) (trim : Bool) (further : Bool → Run) : Run :=
  let line := 1 + lineBreaks read
  match region with
  | .raw => prepend (tokenUnlessEmpty line .literal inner) (further trim)
  | .statement =>
      prepend [⟨line, .statement, String.ofList (bodyOf (content inner))⟩]
        (further (endsMarked (content inner)))
  | .tag =>
      prepend (⟨line, .tag, String.ofList (nameOf inner)⟩
          :: tokenUnlessEmpty line .expression (bodyOf (remainder inner)))
        (further (endsMarked (remainder inner)))
  | .literal =>
      let marked := (delimiters.tagStart.toList ++ ['-']).isPrefixOf left
        || (delimiters.statementStart.toList ++ ['-']).isPrefixOf left
      let value := trimmed trim marked inner
      match missing? delimiters value with
      | some expected =>
          .failed ⟨.unterminatedRegion expected, line + lineBreaks inner,
            ⟨byteLength read, byteLength read + byteLength inner⟩⟩
      | none => prepend (tokenUnlessEmpty line .literal value) (further false)

/-- The tokens of a text that comes after `read`. -/
def scanFrom (delimiters : Delimiters) (valid : delimiters.validate = .ok ()) :
    List Char → List Char → Bool → Run
  | _, [], _ => .nil
  | read, c :: rest, trim =>
      let found := front delimiters (c :: rest)
      have : found.2.2.length < (c :: rest).length := front_left_lt valid (List.cons_ne_nil c rest)
      scanRegion delimiters read found.1 found.2.1 found.2.2 trim
        (scanFrom delimiters valid (read ++ before (c :: rest) found.2.2) found.2.2)
termination_by _ text => text.length
decreasing_by assumption

/-- The tokens of a source. -/
def scan (delimiters : Delimiters) (valid : delimiters.validate = .ok ()) (source : String) :
    Run :=
  scanFrom delimiters valid [] source.toList false

/-! ### The scanner and the stream -/

section Stream

variable {delimiters : Delimiters} {stream after : Stream} {read text piece inner left : List Char}
  {region : Region} {tokens : List Token}

/-- Where the opening delimiters do not overlap, a trim marker after either of them is one after
the delimiter that is looked at. -/
theorem strips_eq (separated : Separated delimiters) (left : List Char) :
    strips delimiters.tagStart.toList delimiters.statementStart.toList left
      = ((delimiters.tagStart.toList ++ ['-']).isPrefixOf left
        || (delimiters.statementStart.toList ++ ['-']).isPrefixOf left) := by
  rw [strips]
  split
  · next tag =>
      rw [Bool.eq_iff_iff, Bool.or_eq_true, List.isPrefixOf_iff_prefix,
        List.isPrefixOf_iff_prefix]
      refine ⟨.inl, fun marked => marked.elim id fun marked => ?_⟩
      have statement := (List.prefix_append _ _).trans marked
      have same : delimiters.tagStart = delimiters.statementStart := by
        rcases List.prefix_or_prefix_of_prefix (List.isPrefixOf_iff_prefix.1 tag) statement with
          within | within
        · exact separated.tagApart within
        · exact (separated.statementApart within).symm
      rwa [same]
  · next noTag =>
      have unmarked : (delimiters.tagStart.toList ++ ['-']).isPrefixOf left = false := by
        rw [Bool.eq_false_iff]
        intro marked
        refine noTag (List.isPrefixOf_iff_prefix.2 ?_)
        exact (List.prefix_append _ _).trans (List.isPrefixOf_iff_prefix.1 marked)
      rw [unmarked, Bool.false_or]

theorem missing?_nil (valid : delimiters.validate = .ok ()) : missing? delimiters [] = none := by
  simp [missing?, List.isPrefixOf_iff_prefix, tagStart_ne valid, statementStart_ne valid]

theorem expected?_eq (here : Stream.At delimiters stream read text) (value : List Char) :
    stream.expected? value = missing? delimiters value := by
  rw [Stream.expected?, here.regions]
  rfl

theorem scanFrom_append (valid : delimiters.validate = .ok ()) (some : piece ≠ [])
    (found : front delimiters (piece ++ left) = (region, inner, left)) (trim : Bool) :
    scanFrom delimiters valid read (piece ++ left) trim
      = scanRegion delimiters read region inner left trim
          (scanFrom delimiters valid (read ++ piece) left) := by
  obtain ⟨c, rest, rfl⟩ := List.exists_cons_of_ne_nil some
  rw [List.cons_append, scanFrom, ← List.cons_append, found]
  simp only [before_append]

theorem scanFrom_eq (separated : Separated delimiters)
    (next : NextRegion delimiters text region piece inner left) (trim : Bool) :
    scanFrom delimiters separated.valid read text trim
      = scanRegion delimiters read region inner left trim
          (scanFrom delimiters separated.valid (read ++ piece) left) := by
  have found := front_eq separated next
  obtain rfl := next.split
  exact scanFrom_append separated.valid (next.piece_ne separated.valid) found trim

/-- A stream steps over the region that the scanner finds. -/
theorem step_of_front (separated : Separated delimiters)
    (ready : Stream.Ready delimiters stream read (piece ++ left)) (long : piece ≠ [])
    (found : front delimiters (piece ++ left) = (region, inner, left)) :
    NextRegion delimiters (piece ++ left) region piece inner left
      ∧ stream.region? = some region
      ∧ stream.step = Stream.stepOver delimiters stream region piece inner left := by
  obtain ⟨kind, part, content, rest, next, chosen, step⟩ :=
    Stream.step_eq_stepOver ready.toAt (List.append_ne_nil_of_left_ne_nil long left)
  rw [front_eq separated next] at found
  obtain ⟨rfl, rest_eq⟩ := Prod.mk.inj found
  obtain ⟨rfl, rfl⟩ := Prod.mk.inj rest_eq
  obtain rfl := List.append_cancel_right next.split
  exact ⟨next, chosen, step⟩

/-- A region that the scanner finds is visited before those that come after it. -/
theorem visits_of_front (separated : Separated delimiters)
    (ready : Stream.Ready delimiters stream read (piece ++ left)) (long : piece ≠ [])
    (found : front delimiters (piece ++ left) = (region, inner, left))
    (entry :
      (Stream.stepOver delimiters stream region piece inner left).entry = some (tokens, after)) :
    Stream.Ready delimiters after (read ++ piece) left
      ∧ ∀ {visits : List Visit} {error : Option LexError},
          Stream.Visits delimiters after visits error →
            Stream.Visits delimiters stream
              (⟨region, piece, inner, tokens, after.bodyLine⟩ :: visits) error := by
  obtain ⟨next, chosen, step⟩ := step_of_front separated ready long found
  refine ⟨ready.past_region next entry, fun later => ?_⟩
  exact .visit (ready.rest_eq.symm ▸ next) chosen step (step ▸ entry) later

/-- What the scanner finds in a region are the tokens that a stream gives of it. -/
theorem scanRegion_of_entry (separated : Separated delimiters)
    (ready : Stream.Ready delimiters stream read text)
    (entry :
      (Stream.stepOver delimiters stream region piece inner left).entry = some (tokens, after))
    (further : Bool → Run) :
    scanRegion delimiters read region inner left stream.trimNext further
      = prepend tokens (further after.trimNext) := by
  have line := ready.line
  have nothing := ready.nothing
  cases region with
  | raw =>
      simp only [Stream.stepOver] at entry
      split at entry
      · next none =>
          obtain ⟨rfl, rfl⟩ := Prod.mk.inj (Option.some.inj entry)
          simp [scanRegion, tokenUnlessEmpty, none, Stream.past]
      · next some =>
          obtain ⟨rfl, rfl⟩ := Prod.mk.inj (Option.some.inj entry)
          simp [scanRegion, tokenUnlessEmpty, some, Stream.past, nothing, Stream.token, line]
  | statement =>
      obtain ⟨rfl, rfl⟩ := Prod.mk.inj (Option.some.inj entry)
      simp [scanRegion, Stream.past, nothing, Stream.token, line]
  | tag =>
      obtain ⟨rfl, rfl⟩ := Prod.mk.inj (Option.some.inj entry)
      by_cases none : (bodyOf (remainder inner)).isEmpty
      · simp [scanRegion, tokenUnlessEmpty, none, nothing, Stream.token, line]
      · simp [scanRegion, tokenUnlessEmpty, none, Stream.token, line]
  | literal =>
      simp only [Stream.stepOver, Stream.stepOverLiteral, strips_eq separated,
        expected?_eq ready.toAt] at entry
      simp only [scanRegion]
      generalize trimmed stream.trimNext _ inner = value at entry ⊢
      split at entry
      · next none =>
          obtain ⟨rfl, rfl⟩ := Prod.mk.inj (Option.some.inj entry)
          have empty : value = [] := List.isEmpty_iff.1 none
          simp [empty, missing?_nil separated.valid, tokenUnlessEmpty]
      · next some =>
          cases missing : missing? delimiters value with
          | some expected =>
              rw [missing] at entry
              cases entry
          | none =>
              rw [missing] at entry
              obtain ⟨rfl, rfl⟩ := Prod.mk.inj (Option.some.inj entry)
              simp [tokenUnlessEmpty, some, Stream.past, nothing, Stream.token, line]

theorem scanRegion_of_error (separated : Separated delimiters)
    (ready : Stream.Ready delimiters stream read text) {error : LexError}
    (failed :
      Stream.stepOver delimiters stream region piece inner left = .yield (.error error) after)
    (further : Bool → Run) :
    scanRegion delimiters read region inner left stream.trimNext further = .failed error := by
  cases region with
  | raw =>
      simp only [Stream.stepOver] at failed
      split at failed <;> cases failed
  | statement => cases failed
  | tag => cases failed
  | literal =>
      simp only [Stream.stepOver, Stream.stepOverLiteral, strips_eq separated,
        expected?_eq ready.toAt] at failed
      simp only [scanRegion]
      generalize trimmed stream.trimNext _ inner = value at failed ⊢
      split at failed
      · cases failed
      · cases missing : missing? delimiters value with
        | some expected =>
            rw [missing] at failed
            obtain ⟨rfl, -⟩ := failed
            simp [Stream.past, ready.offset, ready.line]
        | none =>
            rw [missing] at failed
            cases failed

/-- The regions that a stream visits give the tokens that the scanner finds. -/
theorem scanFrom_of_visits (separated : Separated delimiters) {visits : List Visit}
    {error : Option LexError} (visited : Stream.Visits delimiters stream visits error)
    {read text : List Char} (ready : Stream.Ready delimiters stream read text) :
    scanFrom delimiters separated.valid read text stream.trimNext
      = ⟨visits.flatMap Visit.tokens, error⟩ := by
  induction visited generalizing read text with
  | ended step =>
      by_cases nonempty : text = []
      · subst nonempty
        rw [scanFrom]
        rfl
      · obtain ⟨region, piece, inner, left, -, -, stepped⟩ :=
          Stream.step_eq_stepOver ready.toAt nonempty
        rw [step] at stepped
        rcases Stream.error_or_entry delimiters _ region piece inner left with
          ⟨_, _, failed⟩ | ⟨_, _, entry⟩
        · cases stepped.trans failed
        · rw [← stepped] at entry
          cases entry
  | failed step =>
      by_cases nonempty : text = []
      · subst nonempty
        cases step.symm.trans ready.step_of_end
      · obtain ⟨region, piece, inner, left, next, -, stepped⟩ :=
          Stream.step_eq_stepOver ready.toAt nonempty
        rw [scanFrom_eq separated next,
          scanRegion_of_error separated ready (stepped.symm.trans step)]
        rfl
  | visit next _ step entry later ih =>
      rw [ready.rest_eq] at next
      rw [step] at entry
      rw [scanFrom_eq separated next, scanRegion_of_entry separated ready entry,
        ih (ready.past_region next entry)]
      rfl

/-- A run gives the tokens that the scanner finds from the start of the source on. -/
theorem tokenize_eq_scanFrom (separated : Separated delimiters) (source : String) :
    (regionTable delimiters).tokenize source
      = scanFrom delimiters separated.valid [] source.toList false := by
  have ready := Stream.ready_start separated.valid source
  obtain ⟨visits, error, visited⟩ := Stream.exists_visits ready
  rw [RegionTable.tokenize, Stream.run_of_visits visited ready]
  exact (scanFrom_of_visits separated visited ready).symm

end Stream

/-- A stream gives the tokens and the error that the scanner finds. -/
theorem tokenize_eq_scan {delimiters : Delimiters} (separated : Separated delimiters) :
    ∃ regions, RegionTable.compile delimiters = .ok regions
      ∧ ∀ source, regions.tokenize source = scan delimiters separated.valid source :=
  ⟨regionTable delimiters, compile_eq_ok separated.valid, tokenize_eq_scanFrom separated⟩

/-- The scanner at work between square brackets and percent signs: markers that trim, a raw block
that keeps the wish to trim for later, and an opening delimiter without an end. -/
theorem scan_brackets :
    Separated ⟨"<%", "%>", "[[", "]]"⟩
      ∧ scan ⟨"<%", "%>", "[[", "]]"⟩ (by decide)
          "a [[- x -]] b <%- c d-%><% raw %> [[ <%endraw%>\n e[[- f"
        = ⟨[⟨1, .literal, "a"⟩, ⟨1, .statement, "x"⟩, ⟨1, .literal, "b"⟩, ⟨1, .tag, "c"⟩,
            ⟨1, .expression, "d"⟩, ⟨1, .literal, " [[ "⟩, ⟨1, .literal, "e"⟩],
          some ⟨.unterminatedRegion "]]", 2, ⟨50, 55⟩⟩⟩ := by
  have separated : Separated ⟨"<%", "%>", "[[", "]]"⟩ :=
    ⟨by decide, fun role => by cases role <;> decide +kernel, by decide, by decide⟩
  obtain ⟨regions, made, same⟩ := tokenize_eq_scan separated
  have given : (RegionTable.compile ⟨"<%", "%>", "[[", "]]"⟩).toOption = some regions := by
    rw [made]
    rfl
  refine ⟨separated, (same _).symm.trans ?_⟩
  have run : ((RegionTable.compile ⟨"<%", "%>", "[[", "]]"⟩).toOption.map
      fun regions => regions.tokenize
        "a [[- x -]] b <%- c d-%><% raw %> [[ <%endraw%>\n e[[- f")
      = some ⟨[⟨1, .literal, "a"⟩, ⟨1, .statement, "x"⟩, ⟨1, .literal, "b"⟩, ⟨1, .tag, "c"⟩,
            ⟨1, .expression, "d"⟩, ⟨1, .literal, " [[ "⟩, ⟨1, .literal, "e"⟩],
          some ⟨.unterminatedRegion "]]", 2, ⟨50, 55⟩⟩⟩ := by
    decide +kernel
  rw [given] at run
  exact Option.some.inj run

end LiquidTokens.Template
