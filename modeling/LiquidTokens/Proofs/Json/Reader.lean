import LiquidTokens.Proofs.Json.Lexemes

/-!
JSON texts of values, and how they are read.

A value has its lexemes, in which all is said but white space and the spellings of characters. A
text of the value is one that spells them; the written form of the value is such a text at every
depth. A text is read in two steps, first into lexemes and from these into values, and each text of
a value is read as the value.

Main statements: `isText_text`, `read?_of_isText` and `isText_iff_of_isText` (no text is one of two
values).
-/

namespace LiquidTokens.Json

/-! ### Texts of values -/

/-- Parts with commas between them and marks around them. -/
def enclosed (opening closing : Char) (parts : List (List Lexeme)) : List Lexeme :=
  .mark opening :: (parts.intersperse [.mark ',']).flatten ++ [.mark closing]

mutual

/-- The lexemes of a value. -/
def Value.lexemes : Value → List Lexeme
  | .number n => [.number n]
  | .string s => [.string s]
  | .array items => enclosed '[' ']' (itemLexemes items)
  | .object members => enclosed '\x7b' '\x7d' (memberLexemes members)

/-- The lexemes of the items of an array. -/
def itemLexemes : List Value → List (List Lexeme)
  | [] => []
  | item :: items => item.lexemes :: itemLexemes items

/-- The lexemes of the members of an object. -/
def memberLexemes : List (String × Value) → List (List Lexeme)
  | [] => []
  | (key, value) :: members =>
      (.string key :: .mark ':' :: value.lexemes) :: memberLexemes members

end

/-- The JSON texts of a value. -/
def IsText (value : Value) (text : List Char) : Prop :=
  Spells value.lexemes text

/-! ### The written form -/

/-- White space in front of a text does not change what it spells. -/
theorem Spells.gap_append {gap text : List Char} {lexemes : List Lexeme}
    (blank : ∀ c ∈ gap, isSpace c = true) (spells : Spells lexemes text) :
    Spells lexemes (gap ++ text) := by
  cases spells with
  | nil blank' => exact .nil (List.forall_mem_append.2 ⟨blank, blank'⟩)
  | cons blank' written ends others =>
      rw [← List.append_assoc]
      exact .cons (List.forall_mem_append.2 ⟨blank, blank'⟩) written ends others

theorem Spells.next {lexeme : Lexeme} {lexemes : List Lexeme} {piece text : List Char}
    (written : lexeme.Written piece) (ends : lexeme.EndsBefore text)
    (spells : Spells lexemes text) : Spells (lexeme :: lexemes) (piece ++ text) := by
  have noGap : ∀ c ∈ ([] : List Char), isSpace c = true := by simp
  exact .cons noGap written ends spells

theorem Spells.mark {c : Char} {text : List Char} {lexemes : List Lexeme}
    (known : isMark c = true) (spells : Spells lexemes text) :
    Spells (.mark c :: lexemes) (c :: text) :=
  spells.next (.mark known) trivial

theorem Spells.string {s : String} {text : List Char} {lexemes : List Lexeme}
    (spells : Spells lexemes text) : Spells (.string s :: lexemes) (stringText s ++ text) :=
  spells.next (.string (spellings_flatMap_escape s.toList)) trivial

theorem isSpace_of_mem_newline (depth : Nat) : ∀ c ∈ newline depth, isSpace c = true := by
  intro c member
  rcases List.mem_cons.1 member with rfl | blank
  · rfl
  · rw [List.eq_of_mem_replicate blank]
    rfl

/-- A text spells lexemes whatever comes after it, if that does not go on with a number. -/
def Fits (lexemes : List Lexeme) (text : List Char) : Prop :=
  ∀ more after, Spells more after → EndsNumber after → Spells (lexemes ++ more) (text ++ after)

/-- Parts on lines of their own, with commas after all but the last. -/
theorem spells_parts {parts : List (List Lexeme)} {texts : List (List Char)} (depth : Nat)
    (fits : List.Forall₂ Fits parts texts) {more : List Lexeme} {after : List Char}
    (spells : Spells more after) (ends : EndsNumber after) :
    Spells ((parts.intersperse [.mark ',']).flatten ++ more)
      ((List.intersperse [','] (texts.map (newline depth ++ ·))).flatten ++ after) := by
  induction fits with
  | nil => simpa using spells
  | @cons part text parts texts first others ih =>
      have alone (more : List Lexeme) (after : List Char) (spells : Spells more after)
          (ends : EndsNumber after) : Spells (part ++ more) (newline depth ++ (text ++ after)) :=
        (first more after spells ends).gap_append (isSpace_of_mem_newline depth)
      cases others with
      | nil => simpa using alone more after spells ends
      | cons => simpa using alone _ _ (ih.mark (c := ',') rfl) (by simp [EndsNumber])

/-- Parts between marks. -/
theorem fits_enclose {opening closing : Char} (opens : isMark opening = true)
    (closes : isMark closing = true) (depth : Nat) {parts : List (List Lexeme)}
    {texts : List (List Char)} (fits : List.Forall₂ Fits parts texts) :
    Fits (enclosed opening closing parts) (enclose opening closing depth texts) := by
  intro more after spells _
  have closed := spells.mark closes
  cases fits with
  | nil => simpa [enclosed, enclose] using closed.mark opens
  | cons first others =>
      have indented := closed.gap_append (isSpace_of_mem_newline depth)
      have inside := spells_parts (depth + 1) (.cons first others) indented
        (by simp [EndsNumber, newline])
      simpa [enclosed, enclose] using inside.mark opens

mutual

/-- The written form of a value is one of its texts. -/
theorem fits_text (depth : Nat) : ∀ value : Value, Fits value.lexemes (value.text depth)
  | .number n => fun _ _ spells ends => spells.next (.number n) ends
  | .string _ => fun _ _ spells _ => spells.string
  | .array items => fits_enclose rfl rfl depth (fits_itemTexts (depth + 1) items)
  | .object members => fits_enclose rfl rfl depth (fits_memberTexts (depth + 1) members)

theorem fits_itemTexts (depth : Nat) : ∀ items : List Value,
    List.Forall₂ Fits (itemLexemes items) (itemTexts depth items)
  | [] => .nil
  | item :: items => .cons (fits_text depth item) (fits_itemTexts depth items)

theorem fits_memberTexts (depth : Nat) : ∀ members : List (String × Value),
    List.Forall₂ Fits (memberLexemes members) (memberTexts depth members)
  | [] => .nil
  | (key, value) :: members => by
      refine .cons (fun more after spells ends => ?_) (fits_memberTexts depth members)
      have blank : ∀ c ∈ [' '], isSpace c = true := by simp [isSpace]
      have spaced := (fits_text depth value more after spells ends).gap_append blank
      simpa using (spaced.mark (c := ':') rfl).string (s := key)

end

/-- The written form of a value is one of its texts. -/
theorem isText_text (depth : Nat) (value : Value) : IsText value (value.text depth) := by
  simpa [IsText] using fits_text depth value [] [] (.nil (by simp)) (by simp [EndsNumber])

/-! ### Reading -/

section Parts

variable {α : Type}

/-- Parts with commas between them, up to a closing mark; at least one and at most so many. -/
def parts? (part? : List Lexeme → Option (α × List Lexeme)) (closing : Char) :
    (bound : Nat) → List Lexeme → Option (List α × List Lexeme)
  | 0, _ => none
  | bound + 1, lexemes =>
      (part? lexemes).bind fun
        | (part, .mark c :: rest) =>
            if c = closing then some ([part], rest)
            else if c = ',' then
              (parts? part? closing bound rest).map fun (parts, rest) => (part :: parts, rest)
            else none
        | _ => none

/-- What stands in front of a closing mark: nothing, or parts. -/
def enclosed? (part? : List Lexeme → Option (α × List Lexeme)) (closing : Char) (bound : Nat) :
    List Lexeme → Option (List α × List Lexeme)
  | .mark c :: rest =>
      if c = closing then some ([], rest) else parts? part? closing bound (.mark c :: rest)
  | lexemes => parts? part? closing bound lexemes

end Parts

/-- A member of an object, if values can be read. -/
def member? (value? : List Lexeme → Option (Value × List Lexeme)) :
    List Lexeme → Option ((String × Value) × List Lexeme)
  | .string key :: .mark c :: rest =>
      if c = ':' then (value? rest).map fun (value, rest) => ((key, value), rest) else none
  | _ => none

/-- The value that lexemes begin with, if it has no more than so many, and the others. -/
def value? : (bound : Nat) → List Lexeme → Option (Value × List Lexeme)
  | 0, _ => none
  | _ + 1, [] => none
  | _ + 1, .number n :: rest => some (.number n, rest)
  | _ + 1, .string s :: rest => some (.string s, rest)
  | bound + 1, .mark c :: rest =>
      if c = '[' then
        (enclosed? (value? bound) ']' bound rest).map fun (items, rest) => (.array items, rest)
      else if c = '\x7b' then
        (enclosed? (member? (value? bound)) '\x7d' bound rest).map fun (members, rest) =>
          (.object members, rest)
      else none

/-- The value of a text. -/
def read? (text : List Char) : Option Value :=
  (lexemes? text.length text).bind fun lexemes =>
    match value? lexemes.length lexemes with
    | some (value, []) => some value
    | _ => none

section Parts

variable {α : Type} {part? : List Lexeme → Option (α × List Lexeme)} {lexemesOf : α → List Lexeme}
  {closing : Char}

/-- Parts with a mark between them have no fewer lexemes than one of them, and with one more no
fewer than there are parts. -/
theorem length_le_intersperse (c : Char) (parts : List (List Lexeme)) :
    parts.length ≤ (parts.intersperse [.mark c]).flatten.length + 1
      ∧ ∀ part ∈ parts, part.length ≤ (parts.intersperse [.mark c]).flatten.length := by
  induction parts with
  | nil => simp
  | cons part parts ih =>
      cases parts with
      | nil => simp
      | cons next parts =>
          obtain ⟨count, each⟩ := ih
          simp only [List.intersperse_cons_cons, List.flatten_cons, List.length_append,
            List.length_cons, List.length_nil] at count ⊢
          refine ⟨by omega, List.forall_mem_cons.2 ⟨by omega, fun part member => ?_⟩⟩
          have := each part member
          omega

/-- Parts are read if each of them is. -/
theorem parts?_of_reads (other : closing ≠ ',') {parts : List α} (nonempty : parts ≠ [])
    (reads : ∀ part ∈ parts, ∀ rest, part? (lexemesOf part ++ rest) = some (part, rest))
    {bound : Nat} (enough : parts.length ≤ bound) (rest : List Lexeme) :
    parts? part? closing bound
        (((parts.map lexemesOf).intersperse [.mark ',']).flatten ++ .mark closing :: rest)
      = some (parts, rest) := by
  induction parts generalizing bound with
  | nil => exact absurd rfl nonempty
  | cons part parts ih =>
      obtain ⟨first, others⟩ := List.forall_mem_cons.1 reads
      obtain ⟨bound, rfl⟩ := Nat.exists_eq_add_one_of_ne_zero (n := bound)
        (by rw [List.length_cons] at enough; omega)
      cases parts with
      | nil => simp [parts?, first]
      | cons next parts =>
          have later := ih (by simp) others (Nat.le_of_succ_le_succ enough)
          simp only [List.map_cons, List.intersperse_cons_cons, List.flatten_cons,
            List.append_assoc, List.singleton_append] at later ⊢
          simp [parts?, first, Ne.symm other, later]

/-- What stands between marks is read if each part of it is, and none begins with the closing
mark. -/
theorem enclosed?_of_reads {opening : Char} (other : closing ≠ ',') {parts : List α} {bound : Nat}
    (begins : ∀ part ∈ parts, ∃ first more, lexemesOf part = first :: more ∧ first ≠ .mark closing)
    (reads : ∀ part ∈ parts, (lexemesOf part).length ≤ bound →
      ∀ rest, part? (lexemesOf part ++ rest) = some (part, rest))
    (enough : (enclosed opening closing (parts.map lexemesOf)).length ≤ bound + 1)
    (rest : List Lexeme) :
    enclosed? part? closing bound
        (((parts.map lexemesOf).intersperse [.mark ',']).flatten ++ .mark closing :: rest)
      = some (parts, rest) := by
  obtain ⟨count, each⟩ := length_le_intersperse ',' (parts.map lexemesOf)
  simp only [enclosed, List.length_cons, List.length_append, List.length_nil,
    List.length_map] at enough count
  cases parts with
  | nil => simp [enclosed?]
  | cons part parts =>
      have reads : ∀ one ∈ part :: parts, ∀ rest,
          part? (lexemesOf one ++ rest) = some (one, rest) := fun one member =>
        reads one member ((each _ (List.mem_map_of_mem member)).trans (by omega))
      have few : (part :: parts).length ≤ bound := by omega
      have read := parts?_of_reads other (by simp) reads few rest
      obtain ⟨first, more, split, noClosing⟩ := begins part List.mem_cons_self
      have starts : ∃ tail, (((part :: parts).map lexemesOf).intersperse [.mark ',']).flatten
          ++ .mark closing :: rest = first :: tail := by
        cases parts <;> simp [split]
      obtain ⟨tail, starts⟩ := starts
      rw [starts] at read ⊢
      cases first with
      | mark c =>
          have noClosing : c ≠ closing := fun same => noClosing (congrArg Lexeme.mark same)
          rw [enclosed?, if_neg noClosing, read]
      | string s => exact read
      | number n => exact read

end Parts

theorem itemLexemes_eq_map (items : List Value) : itemLexemes items = items.map Value.lexemes := by
  induction items with
  | nil => rfl
  | cons item items ih => rw [itemLexemes, ih, List.map_cons]

/-- The lexemes of a member of an object. -/
def lexemesOfMember (member : String × Value) : List Lexeme :=
  .string member.1 :: .mark ':' :: member.2.lexemes

theorem memberLexemes_eq_map (members : List (String × Value)) :
    memberLexemes members = members.map lexemesOfMember := by
  induction members with
  | nil => rfl
  | cons member members ih => rw [memberLexemes, ih, List.map_cons, lexemesOfMember]

/-- The lexemes of a value begin with no closing mark. -/
theorem lexemes_eq_cons (value : Value) : ∃ first more, value.lexemes = first :: more
    ∧ first ≠ .mark ']' := by
  cases value with
  | number n => exact ⟨_, _, rfl, by simp⟩
  | string s => exact ⟨_, _, rfl, by simp⟩
  | array items => exact ⟨_, _, rfl, by simp⟩
  | object members => exact ⟨_, _, rfl, by simp⟩

/-- A value is read from its lexemes. -/
theorem value?_lexemes {bound : Nat} {value : Value} (enough : value.lexemes.length ≤ bound)
    (rest : List Lexeme) : value? bound (value.lexemes ++ rest) = some (value, rest) := by
  -- The parts of a value have fewer lexemes than the value, so they are read with a smaller bound.
  induction bound generalizing value rest with
  | zero =>
      obtain ⟨first, more, split, -⟩ := lexemes_eq_cons value
      simp [split] at enough
  | succ bound ih =>
      cases value with
      | number n => rfl
      | string s => rfl
      | array items =>
          rw [Value.lexemes, itemLexemes_eq_map] at enough ⊢
          have read := enclosed?_of_reads (by decide) (fun item _ => lexemes_eq_cons item)
            (fun item _ small => ih small) enough rest
          simp [enclosed, value?, read]
      | object members =>
          have reads : ∀ member ∈ members, (lexemesOfMember member).length ≤ bound → ∀ rest,
              member? (value? bound) (lexemesOfMember member ++ rest) = some (member, rest) := by
            intro member _ small rest
            simp only [lexemesOfMember, List.length_cons] at small
            have read := ih (by omega : member.2.lexemes.length ≤ bound) rest
            simp [lexemesOfMember, member?, read]
          rw [Value.lexemes, memberLexemes_eq_map] at enough ⊢
          have begins : ∀ member ∈ members, ∃ first more, lexemesOfMember member = first :: more
              ∧ first ≠ .mark '\x7d' := fun member _ => ⟨_, _, rfl, by simp⟩
          have read := enclosed?_of_reads (by decide) begins reads enough rest
          simp [enclosed, value?, read]

/-- A text of a value is read as the value. -/
theorem read?_of_isText {value : Value} {text : List Char} (isText : IsText value text) :
    read? text = some value := by
  have lexemes := lexemes?_of_spells isText le_rfl
  have read := value?_lexemes (le_refl value.lexemes.length) []
  rw [List.append_nil] at read
  simp [read?, lexemes, read]

/-- A text of a value is a text of no other value. -/
theorem isText_iff_of_isText {value other : Value} {text : List Char}
    (isText : IsText value text) : IsText other text ↔ other = value := by
  constructor
  · intro isOther
    exact Option.some.inj ((read?_of_isText isOther).symm.trans (read?_of_isText isText))
  · rintro rfl
    exact isText

end LiquidTokens.Json
