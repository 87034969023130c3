import LiquidTokens.Proofs.Template.Standard
import Mathlib.Data.List.Chain
import Mathlib.Data.List.DropRight

/-!
Canonical templates: lists of items written with the standard delimiters, one after the other.

A value stands between its delimiters with one space on either side. The space after an opening
delimiter keeps a hyphen from being read as a trim marker, and so does the space before a closing
one; a closing delimiter cannot begin before that space. So a value may hold quotes, hyphens,
opening delimiters or line breaks, and a template can be taken apart again: its tokens are those
of its items.

Main statement: `tokenize_render`.
-/

namespace LiquidTokens.Template

open Text (dropWhile_append_of_head isBlank isWord lineBreaks takeWhile_append_of_head trimStart
  trimEnd)

/-! ### Items -/

/-- A part of a template. -/
inductive Item where
  | literal (text : List Char)
  | statement (value : List Char)
  | tag (name expression : List Char)
  /-- Text in a raw block. -/
  | raw (text : List Char)
  deriving DecidableEq, Repr

/-- No blank stands at either end. -/
structure Tight (text : List Char) : Prop where
  head : ∀ c ∈ text.head?, isBlank c = false
  last : ∀ c ∈ text.getLast?, isBlank c = false

/-- The expression of a tag after a space, or nothing at all. -/
def spaced (expression : List Char) : List Char :=
  if expression.isEmpty then [] else ' ' :: expression

namespace Item

/-- An item as it is written. -/
def render : Item → List Char
  | literal text => text
  | statement value => statementOpen ++ (' ' :: value ++ [' ']) ++ statementClose
  | tag name expression => tagOpen ++ (' ' :: (name ++ spaced expression) ++ [' ']) ++ tagClose
  | raw text =>
      tagOpen ++ " raw ".toList ++ tagClose ++ text ++ (tagOpen ++ " endraw ".toList ++ tagClose)

/-- What an item may hold, so that it is not cut anywhere else. -/
def WellFormed : Item → Prop
  | literal text => text ≠ [] ∧ ¬ statementOpen <:+: text ∧ ¬ tagOpen <:+: text
  | statement value => Tight value ∧ ¬ statementClose <:+: value
  | tag name expression =>
      (∀ c ∈ name, isWord c = true) ∧ Tight expression ∧ ¬ tagClose <:+: expression
        ∧ (name = [] → ∀ c ∈ expression.head?, isWord c = false)
        ∧ ¬ (name = "raw".toList ∧ expression = [])
  | raw text => text ≠ [] ∧ ∀ before rest left, text = before ++ rest →
      ¬ NamedTag tagOpen tagClose "endraw".toList rest left

/-- A literal is followed by something else, and its end does not join an opening delimiter. -/
def Precedes : Item → Item → Prop
  | literal _, literal _ => False
  | literal text, _ => text.getLast? ≠ some '\x7b'
  | _, _ => True

/-- The tokens of an item that starts on a line. -/
def tokens (line : Nat) : Item → List Token
  | literal text => [⟨line, .literal, String.ofList text⟩]
  | statement value => [⟨line, .statement, String.ofList value⟩]
  | tag name expression =>
      ⟨line, .tag, String.ofList name⟩
        :: if expression.isEmpty then [] else [⟨line, .expression, String.ofList expression⟩]
  | raw text => [⟨line, .literal, String.ofList text⟩]

/-- The region that an item is. -/
def region : Item → Region
  | literal _ => .literal
  | statement _ => .statement
  | tag _ _ => .tag
  | raw _ => .raw

/-- What the region of an item holds. -/
def inside : Item → List Char
  | literal text => text
  | statement value => ' ' :: value ++ [' ']
  | tag name expression => ' ' :: (name ++ spaced expression) ++ [' ']
  | raw text => text

end Item

/-- Items that can be told apart once they are written one after the other. -/
structure Canonical (items : List Item) : Prop where
  wellFormed : ∀ item ∈ items, item.WellFormed
  apart : items.IsChain Item.Precedes

/-- A template with the items in order. -/
def render (items : List Item) : List Char :=
  items.flatMap Item.render

/-- The tokens of items that come after `read`, each on the line on which its item starts. -/
def tokensAfter (read : List Char) : List Item → List Token
  | [] => []
  | item :: items =>
      item.tokens (1 + lineBreaks read) ++ tokensAfter (read ++ item.render) items

/-! ### Checking items -/

theorem Item.wellFormed_raw_iff {text : List Char} : (Item.raw text).WellFormed
    ↔ text ≠ [] ∧ cutAt? (namedTag? tagOpen tagClose "endraw".toList) text = none := by
  have tag {rest left : List Char} : namedTag? tagOpen tagClose "endraw".toList rest = some left
      ↔ NamedTag tagOpen tagClose "endraw".toList rest left :=
    namedTag?_eq_some_iff (by decide) (by decide) (by decide) (by decide)
  rw [cutAt?_eq_none_iff, Item.WellFormed]
  simp only [Option.eq_none_iff_forall_ne_some, ne_eq, tag]
  exact and_congr_right fun _ =>
    ⟨fun absent before rest split left => absent before rest left split,
      fun absent before rest left split => absent before rest split left⟩

instance : DecidablePred Tight := fun text =>
  decidable_of_iff ((∀ c ∈ text.head?, isBlank c = false) ∧ ∀ c ∈ text.getLast?, isBlank c = false)
    ⟨fun both => ⟨both.1, both.2⟩, fun tight => ⟨tight.head, tight.last⟩⟩

instance : DecidablePred Item.WellFormed
  | .literal _ => inferInstanceAs (Decidable (_ ∧ _ ∧ _))
  | .statement _ => inferInstanceAs (Decidable (_ ∧ _))
  | .tag _ _ => inferInstanceAs (Decidable (_ ∧ _ ∧ _ ∧ _ ∧ _))
  | .raw _ => decidable_of_iff _ Item.wellFormed_raw_iff.symm

instance : DecidableRel Item.Precedes
  | .literal _, .literal _ => inferInstanceAs (Decidable False)
  | .literal _, .statement _ => inferInstanceAs (Decidable (_ ≠ _))
  | .literal _, .tag _ _ => inferInstanceAs (Decidable (_ ≠ _))
  | .literal _, .raw _ => inferInstanceAs (Decidable (_ ≠ _))
  | .statement _, _ => inferInstanceAs (Decidable True)
  | .tag _ _, _ => inferInstanceAs (Decidable True)
  | .raw _, _ => inferInstanceAs (Decidable True)

instance : DecidablePred Canonical := fun items =>
  decidable_of_iff ((∀ item ∈ items, item.WellFormed) ∧ items.IsChain Item.Precedes)
    ⟨fun both => ⟨both.1, both.2⟩, fun canonical => ⟨canonical.wellFormed, canonical.apart⟩⟩

/-! ### Values between spaces -/

section Spaced

variable {value name expression : List Char}

theorem trimEnd_trimStart (tight : Tight value) : trimEnd (trimStart value) = value := by
  rw [Text.trimStart_eq_self_iff.2 tight.head, Text.trimEnd_eq_self_iff.2 tight.last]

theorem trimStart_spaced (expression : List Char) :
    trimStart (spaced expression ++ [' ']) = trimStart (expression ++ [' ']) := by
  rw [spaced]
  split
  · next none => rw [List.isEmpty_iff.1 none]
  · simp [trimStart, isBlank_space]

/-- A tag is cut after its name. -/
theorem name_and_remainder (word : ∀ c ∈ name, isWord c = true)
    (apart : name = [] → ∀ c ∈ expression.head?, isWord c = false) (tight : Tight expression) :
    nameOf (' ' :: (name ++ spaced expression) ++ [' ']) = name
      ∧ remainder (' ' :: (name ++ spaced expression) ++ [' '])
        = trimStart (expression ++ [' ']) := by
  have space : isWord ' ' = false := isWord_of_isBlank isBlank_space
  rw [nameOf, remainder, List.cons_append, content_space, List.append_assoc]
  cases name with
  | nil =>
      have stops : ∀ c ∈ (trimStart (expression ++ [' '])).head?, isWord c = false := by
        rw [trimStart_append_singleton isBlank_space, Text.trimStart_eq_self_iff.2 tight.head]
        cases expression with
        | nil => simp
        | cons c expression => simpa using apart rfl
      rw [List.nil_append, trimStart_spaced]
      have none : ∀ c ∈ ([] : List Char), isWord c = true := by simp
      have start := takeWhile_append_of_head none stops
      have rest := dropWhile_append_of_head none stops
      rw [List.nil_append] at start rest
      rw [start, rest]
      refine ⟨rfl, ?_⟩
      rw [trimStart, trimStart, List.dropWhile_idempotent]
  | cons c name =>
      have first : isBlank c = false := by
        by_contra blank
        have inside := word c List.mem_cons_self
        rw [isWord_of_isBlank (by simpa using blank)] at inside
        cases inside
      have kept : trimStart (c :: name ++ (spaced expression ++ [' ']))
          = c :: name ++ (spaced expression ++ [' ']) := by
        simp [trimStart, first]
      have stops : ∀ d ∈ (spaced expression ++ [' ']).head?, isWord d = false := by
        rw [spaced]
        split <;> simp [space]
      rw [kept, takeWhile_append_of_head word stops, dropWhile_append_of_head word stops,
        trimStart_spaced]
      exact ⟨rfl, rfl⟩

end Spaced

/-! ### The regions of the items -/

namespace Item

variable {item next : Item} {items : List Item} {text left : List Char}

/-- What follows an item does not join it: after a literal comes an item that opens with a
delimiter and a space, or the end. -/
def Ends (left : List Char) : Item → Prop
  | literal text => left = [] ∨ text.getLast? ≠ some '\x7b'
      ∧ ∃ rest, left = statementOpen ++ ' ' :: rest ∨ left = tagOpen ++ ' ' :: rest
  | _ => True

theorem ends_nil (item : Item) : item.Ends [] := by
  cases item with
  | literal => exact .inl rfl
  | statement => trivial
  | tag => trivial
  | raw => trivial

theorem Precedes.ends (precedes : item.Precedes next) (left : List Char) :
    item.Ends (next.render ++ left) := by
  cases item with
  | literal text =>
      cases next with
      | literal => exact precedes.elim
      | statement value =>
          exact .inr ⟨precedes, value ++ ' ' :: statementClose ++ left, .inl (by simp [render])⟩
      | tag name expression =>
          exact .inr ⟨precedes, name ++ spaced expression ++ ' ' :: tagClose ++ left,
            .inr (by simp [render])⟩
      | raw text =>
          exact .inr ⟨precedes, "raw ".toList ++ tagClose ++ text ++ tagOpen
            ++ " endraw ".toList ++ tagClose ++ left, .inr (by simp [render])⟩
  | statement => trivial
  | tag => trivial
  | raw => trivial

theorem render_ne (formed : item.WellFormed) : item.render ≠ [] := by
  cases item with
  | literal => exact formed.1
  | statement => simp [render]
  | tag => simp [render]
  | raw => simp [render]

theorem front_literal (formed : (literal text).WellFormed) (ends : (literal text).Ends left) :
    front .standard (text ++ left) = (.literal, text, left) := by
  obtain ⟨long, statement, tag⟩ := formed
  have halts : Halts tagOpen statementOpen left := by
    rcases ends with ended | ⟨-, rest, opens | opens⟩
    · exact .inr (.inr ended)
    · exact .inr (.inl ⟨' ' :: rest, opens.symm⟩)
    · exact .inl ⟨' ' :: rest, opens.symm⟩
  exact front_text long statement tag (ends.imp_right And.left) halts

theorem front_value {value : List Char} (formed : (statement value).WellFormed)
    (left : List Char) :
    front .standard ((statement value).render ++ left)
      = (.statement, (statement value).inside, left) :=
  front_statement isBlank_space (not_infix_between_spaces (by decide) (by decide) formed.2) left

theorem front_named {name expression : List Char} (formed : (tag name expression).WellFormed)
    (left : List Char) :
    front .standard ((tag name expression).render ++ left)
      = (.tag, (tag name expression).inside, left) := by
  obtain ⟨word, tight, absent, apart, noRaw⟩ := formed
  have noPercent : '%' ∉ name := fun member => by
    have inside := word '%' member
    rw [show isWord '%' = false by decide +kernel] at inside
    cases inside
  have within : ¬ tagClose <:+: name ++ spaced expression := by
    intro within
    have later := infix_of_infix_append noPercent within
    rw [spaced] at later
    split at later
    · simp at later
    · rcases List.infix_cons_iff.1 later with starts | later
      · exact absurd (List.cons_prefix_cons.1 starts).1 (by decide)
      · exact absent later
  refine front_tag isBlank_space (not_infix_between_spaces (by decide) (by decide) within) ?_ left
  obtain ⟨title, rest⟩ := name_and_remainder word apart tight
  rw [title, rest, trimStart_append_singleton isBlank_space,
    Text.trimStart_eq_self_iff.2 tight.head]
  intro raw
  rw [if_neg fun none => noRaw ⟨raw, none⟩]
  simp

/-- The end of a raw block cannot begin in its text and end after it. -/
theorem not_namedTag_append (long : text ≠ [])
    (absent : ∀ l, ¬ NamedTag tagOpen tagClose "endraw".toList text l) (more : List Char) :
    ∀ l, ¬ NamedTag tagOpen tagClose "endraw".toList (text ++ '\x7b' :: more) l := by
  rintro l ⟨lead, gap, split, leadBlank, gapBlank⟩
  rcases List.append_eq_append_iff.1 split with ⟨v, within, rest⟩ | ⟨v, within, rest⟩
  · rcases v with _ | ⟨c, v⟩
    · rw [List.append_nil] at within
      exact absent [] ⟨lead, gap, by rw [List.append_nil, within], leadBlank, gapBlank⟩
    · -- After its first character such a tag has no brace with which the next one could open.
      obtain ⟨rfl, -⟩ := List.cons_eq_cons.1 rest
      obtain ⟨d, text, rfl⟩ := List.exists_cons_of_ne_nil long
      have brace {run : List Char} (blank : ∀ c ∈ run, isBlank c = true) : '\x7b' ∉ run :=
        fun member => absurd (blank _ member) (by decide)
      have later := congrArg List.tail within
      have member : '\x7b' ∈ '%' :: lead ++ "endraw".toList ++ gap ++ tagClose := by
        rw [show '%' :: lead ++ "endraw".toList ++ gap ++ tagClose = text ++ '\x7b' :: v by
          simpa [tagOpen] using later]
        simp
      simp [tagClose, brace leadBlank, brace gapBlank] at member
  · exact absent v ⟨lead, gap, within, leadBlank, gapBlank⟩

theorem front_raw (formed : (raw text).WellFormed) (left : List Char) :
    front .standard ((raw text).render ++ left) = (.raw, text, left) := by
  obtain ⟨-, absent⟩ := formed
  have cut : RawCut Delimiters.standard.tagStart.toList Delimiters.standard.tagEnd.toList
      ((raw text).render ++ left) (tagOpen ++ " raw ".toList ++ tagClose) text
      (tagOpen ++ " endraw ".toList ++ tagClose) left := by
    have blank : ∀ c ∈ [' '], isBlank c = true := by simp [isBlank_space]
    refine ⟨rfl, ⟨[' '], [' '], by simp [render]; rfl, blank, blank⟩,
      ⟨[' '], [' '], by simp; rfl, blank, blank⟩, ?_⟩
    intro u w split long
    rw [List.append_assoc]
    exact not_namedTag_append long (absent u w · split) _
  have opens : raw? Delimiters.standard.tagStart.toList Delimiters.standard.tagEnd.toList
      ((raw text).render ++ left) = some (text, left) :=
    raw?_eq_some (by decide) (separated_standard.hard .tagEnd) cut
  rw [front, opens]

/-- A template that begins with an item begins with the region of that item. -/
theorem front_render (formed : item.WellFormed) (ends : item.Ends left) :
    front .standard (item.render ++ left) = (item.region, item.inside, left) := by
  cases item with
  | literal => exact front_literal formed ends
  | statement => exact front_value formed left
  | tag => exact front_named formed left
  | raw => exact front_raw formed left

/-- The region of an item gives its tokens, and asks for nothing to be trimmed. -/
theorem scanRegion_render (formed : item.WellFormed) (ends : item.Ends left) (read : List Char)
    (further : Bool → Run) :
    scanRegion .standard read item.region item.inside left false further
      = prepend (item.tokens (1 + lineBreaks read)) (further false) := by
  cases item with
  | literal text =>
      obtain ⟨long, statement, tag⟩ := formed
      have unmarked : ((Delimiters.standard.tagStart.toList ++ ['-']).isPrefixOf left
          || (Delimiters.standard.statementStart.toList ++ ['-']).isPrefixOf left) = false := by
        rcases ends with rfl | ⟨-, rest, rfl | rfl⟩ <;> rfl
      have opens : missing? .standard text = none := by
        rw [missing?, if_neg, if_neg]
        · exact fun starts => tag (List.isPrefixOf_iff_prefix.1 starts).isInfix
        · exact fun starts => statement (List.isPrefixOf_iff_prefix.1 starts).isInfix
      simp only [region, inside, scanRegion, unmarked]
      rw [show trimmed false false text = text from rfl, opens]
      simp [tokenUnlessEmpty, long, tokens]
  | statement value =>
      have tight := formed.1
      simp only [region, inside, scanRegion, tokens, List.cons_append, content_space,
        bodyOf_trimStart_append isBlank_space, endsMarked_trimStart_append isBlank_space,
        trimEnd_trimStart tight]
  | tag name expression =>
      obtain ⟨word, tight, -, apart, -⟩ := formed
      obtain ⟨title, rest⟩ := name_and_remainder word apart tight
      simp only [region, inside, scanRegion, tokens, title, rest, tokenUnlessEmpty,
        bodyOf_trimStart_append isBlank_space, endsMarked_trimStart_append isBlank_space,
        trimEnd_trimStart tight]
  | raw text =>
      simp [region, inside, scanRegion, tokens, tokenUnlessEmpty, formed.1]

end Item

/-! ### Templates -/

theorem Canonical.tail {item : Item} {items : List Item} (canonical : Canonical (item :: items)) :
    Canonical items :=
  ⟨fun other member => canonical.wellFormed other (List.mem_cons_of_mem item member),
    canonical.apart.of_cons⟩

theorem Canonical.ends {item : Item} {items : List Item} (canonical : Canonical (item :: items)) :
    item.Ends (render items) := by
  cases items with
  | nil => exact item.ends_nil
  | cons next items => exact (List.isChain_cons_cons.1 canonical.apart).1.ends (render items)

/-- From the start of an item on, with nothing to be trimmed, a scan finds the tokens of the items
that are left. -/
theorem scanFrom_render {items : List Item} (canonical : Canonical items) (read : List Char) :
    scanFrom .standard separated_standard.valid read (render items) false
      = ⟨tokensAfter read items, none⟩ := by
  induction items generalizing read with
  | nil =>
      rw [render, List.flatMap_nil, scanFrom]
      rfl
  | cons item items ih =>
      have formed := canonical.wellFormed item List.mem_cons_self
      have found := Item.front_render formed canonical.ends
      rw [render, List.flatMap_cons, ← render,
        scanFrom_append separated_standard.valid (Item.render_ne formed) found,
        Item.scanRegion_render formed canonical.ends, ih canonical.tail]
      rfl

/-- A template that is written in the canonical form gives exactly the tokens of its items, and no
error. -/
theorem tokenize_render {items : List Item} (canonical : Canonical items) :
    ∃ regions, RegionTable.compile .standard = .ok regions
      ∧ regions.tokenize (String.ofList (render items)) = ⟨tokensAfter [] items, none⟩ := by
  refine ⟨regionTable .standard, compile_eq_ok separated_standard.valid, ?_⟩
  rw [tokenize_eq_scanFrom separated_standard, String.toList_ofList]
  exact scanFrom_render canonical []

/-- Items with hyphens, single delimiter characters, opening delimiters, line breaks and, in a raw
block, a tag without an end. -/
def mixed : List Item :=
  [.literal "a-\n%\x7d \x7b %".toList, .statement "-\x7b% '-\x7d' \n-".toList,
    .tag "if".toList "a\n\x7b\x7b - %".toList, .raw "-\n\x7b% endraw\n".toList,
    .tag [] "- raw".toList, .tag "raw".toList "-".toList, .statement [], .tag [] [],
    .literal "\x7d\x7d\n\x7b".toList]

theorem tokenize_render_mixed :
    ∃ regions, RegionTable.compile .standard = .ok regions
      ∧ regions.tokenize (String.ofList (render mixed))
        = ⟨[⟨1, .literal, "a-\n%\x7d \x7b %"⟩, ⟨2, .statement, "-\x7b% '-\x7d' \n-"⟩,
            ⟨3, .tag, "if"⟩, ⟨3, .expression, "a\n\x7b\x7b - %"⟩,
            ⟨4, .literal, "-\n\x7b% endraw\n"⟩, ⟨6, .tag, ""⟩, ⟨6, .expression, "- raw"⟩,
            ⟨6, .tag, "raw"⟩, ⟨6, .expression, "-"⟩, ⟨6, .statement, ""⟩, ⟨6, .tag, ""⟩,
            ⟨6, .literal, "\x7d\x7d\n\x7b"⟩], none⟩ :=
  tokenize_render (by decide +kernel : Canonical mixed)

end LiquidTokens.Template
