import LiquidTokens.Proofs.Expression.Endings
import LiquidTokens.Proofs.Expression.Spaced

/-!
What becomes of a number in a loop.

Numbers in loops may be integers or floats, a float may end with its point, and a point that another
one follows belongs to a range. Which of the rules takes the digits, and how many characters behind
them, is told by what follows the number (`ReadsNumber`). The digits are never divided: where no
rule takes all of them, in front of a word, the number is an error.

This is said of every number that a stream comes to, whatever it has read before.

Main statement: `numbers_in_loops`.
-/

namespace LiquidTokens.Expression

open Text (byteLength isDigit isWord lineBreaks)

/-! ### What the rules read -/

section Rules

variable {left : List Char}

/-- No name of a loop begins like a number. -/
theorem startsName_of_isNumeric {c : Char} (numeric : isNumeric c = true) :
    Form.loop.startsName c = false := by
  rw [← Bool.not_eq_true]
  intro starts
  simp only [Form.startsName, isAsciiLetter, Bool.or_eq_true, Bool.and_eq_true, decide_eq_true_eq,
    beq_iff_eq, Char.le_def, UInt32.le_iff_toNat_le] at starts
  rcases starts with letter | rfl
  · have ascii : c.toNat < 0x80 := by
      rcases letter with lower | upper
      · exact Nat.lt_of_le_of_lt lower.2 (by decide)
      · exact Nat.lt_of_le_of_lt upper.2 (by decide)
    simp only [isNumeric, isDigit, if_pos ascii, Bool.or_eq_true, Bool.and_eq_true,
      decide_eq_true_eq, beq_iff_eq, Char.le_def, UInt32.le_iff_toNat_le] at numeric
    rcases numeric with digit | rfl
    · have nine : ('9' : Char).val.toNat = 57 := rfl
      have lower : ('a' : Char).val.toNat = 97 := rfl
      have upper : ('A' : Char).val.toNat = 65 := rfl
      omega
    · revert letter
      decide
  · revert numeric
    decide +kernel

theorem earlier_range : .token .range ∈ Form.loop.rules.map Prod.fst
    ∧ ∀ other ∈ Form.loop.earlier (.token .range), Form.loop.mayBegin other '.' = false := by
  decide +kernel

theorem scan_range (left : List Char) : Form.loop.scan ('.' :: '.' :: left)
    = some (.token .range, ⟨['.', '.'], ['.', '.'], left⟩) := by
  obtain ⟨known, earlier⟩ := earlier_range
  have reads : beginning? ['.', '.'] ('.' :: '.' :: left) = some (['.', '.'], left) :=
    beginning?_eq_some_iff.2 ⟨rfl, rfl⟩
  exact scan_of_earlier known (fun other before => cut?_of_mayBegin (earlier other before))
    (congrArg (Option.map Cut.whole) reads)

/-- Two points do not end a float. -/
theorem openFloat?_of_range {number : List Char} (numeral : IsNumeral true number)
    (left : List Char) : openFloat? (number ++ '.' :: '.' :: left) = none := by
  have counted : numeral? true (number ++ '.' :: '.' :: left) = some (number, '.' :: '.' :: left) :=
    numeral?_eq_some_iff.2 ⟨rfl, numeral, isDigit_point _⟩
  simp only [openFloat?, counted, Option.bind_some, past?_eq_some_iff.2 rfl, List.head?_cons,
    if_true]

/-- Only numbers and names are tried before illegal characters where a number begins. -/
theorem earlier_illegal : .illegal ∈ Form.loop.rules.map Prod.fst
    ∧ ∀ other ∈ Form.loop.earlier .illegal, other ∈ [.token .float, .openFloat, .token .integer]
      ∨ other = .token .identifier ∨ other.begins isNumeric = true := by
  decide +kernel

/-- In front of a word a number is no integer, since no word ends between them. -/
theorem integer?_of_word {number : List Char} {w : Char} (numeral : IsNumeral true number)
    (noDigit : isDigit w = false) (word : isWord w = true) :
    Form.loop.integer? (number ++ w :: left) = none := by
  have counted : numeral? true (number ++ w :: left) = some (number, w :: left) :=
    numeral?_eq_some_iff.2 ⟨rfl, numeral, by simpa using noDigit⟩
  have signed : Form.loop.signed = true := rfl
  simp only [Form.integer?, signed, counted, Option.bind_some, List.head?_cons, Option.any_some,
    word, Bool.and_self, if_true]

/-- In front of a word no rule takes a number, and neither a part of it. -/
theorem scan_before_word {c w : Char} {more : List Char} (numeral : IsNumeral true (c :: more))
    (noDigit : isDigit w = false) (word : isWord w = true) :
    Form.loop.scan (c :: more ++ w :: left) = some (.illegal, ⟨[c], [c], more ++ w :: left⟩) := by
  obtain ⟨known, earlier⟩ := earlier_illegal
  have numeric : isNumeric c = true := by
    obtain ⟨d, others, same, numeric⟩ := numeral.head
    obtain ⟨rfl, -⟩ := List.cons_eq_cons.1 same
    exact numeric
  have noPoint : past? '.' (w :: left) = none := by
    have other : w ≠ '.' := by
      rintro rfl
      revert word
      decide +kernel
    simp [past?, other]
  have noFloats : Form.loop.float? (c :: more ++ w :: left) = none
      ∧ openFloat? (c :: more ++ w :: left) = none :=
    float?_of_no_point numeral (by simpa using noDigit) noPoint
  have fails : ∀ other ∈ Form.loop.earlier .illegal,
      Form.loop.cut? other (c :: more ++ w :: left) = none := by
    intro other before
    rcases earlier other before with number | rfl | begins
    · simp only [List.mem_cons, List.not_mem_nil, or_false] at number
      rcases number with rfl | rfl | rfl
      · exact Option.map_eq_none_iff.2 noFloats.1
      · exact Option.map_eq_none_iff.2 noFloats.2
      · exact Option.map_eq_none_iff.2 (integer?_of_word numeral noDigit word)
    · exact cut?_of_mayBegin (startsName_of_isNumeric numeric)
    · exact numeral.cut?_of_begins begins _
  have reads : leading? (fun _ => true) (fun _ => false) (c :: more ++ w :: left)
      = some ([c], more ++ w :: left) :=
    leading?_eq_some_iff.2 ⟨c, [], rfl, rfl, rfl, by simp, fun _ _ => rfl⟩
  exact scan_of_earlier known fails (congrArg (Option.map Cut.whole) reads)

end Rules

/-! ### What the next call gives -/

namespace Stream

/-- Steps that yield nothing lead a stream of a form to where `rest` is left after `read`. -/
structure ComesTo (form : Form) (source : String) (first : Nat) (stream : Stream)
    (read rest : List Char) : Prop where
  running : stream.finished = false
  reached : ∃ middle, Passes stream middle ∧ Stands form.grammar source first middle read rest

/-- The next call gives a token, and the stream goes on from where `rest` is left after `read`. -/
structure Gives (form : Form) (source : String) (first : Nat) (stream : Stream) (token : Token)
    (read rest : List Char) : Prop where
  given : stream.next.1 = some (.ok token)
  running : stream.next.2.finished = false
  stands : Stands form.grammar source first stream.next.2 read rest

/-- The next call gives an error, and the stream is finished. -/
structure Fails (stream : Stream) (error : LexError) : Prop where
  given : stream.next.1 = some (.error error)
  ended : stream.next.2.finished = true

variable {form : Form} {source : String} {first : Nat} {stream : Stream}
  {read rest before remaining : List Char} {rule : Rule} {cut : Cut}

/-- A stream of a form steps over what the scan cuts off. -/
theorem Stands.step_of_scan (here : Stands form.grammar source first stream read rest)
    (running : stream.finished = false) (found : form.scan rest = some (rule, cut)) :
    ∃ after, Stands form.grammar source first after (read ++ cut.read) cut.left
      ∧ after.finished = false
      ∧ stream.step = (form.sense rule cut.value).step (first + lineBreaks read)
          ⟨byteLength read, byteLength read + byteLength cut.read⟩ after := by
  have standing : At form first stream read rest :=
    ⟨here.grammar, by rw [here.source, here.split], here.offset, here.line, running⟩
  obtain ⟨after, there, taken⟩ := standing.step_eq found
  obtain ⟨split, -⟩ := split_of_scan found
  have source_eq : after.source = source := by
    rw [← String.toList_inj, there.source, here.split, split, List.append_assoc]
  have stands : Stands form.grammar source first after (read ++ cut.read) cut.left :=
    ⟨by rw [← source_eq, there.source], there.grammar, source_eq, there.offset, there.line⟩
  exact ⟨after, stands, there.running, taken⟩

theorem Stands.comesTo (here : Stands form.grammar source first stream read rest)
    (running : stream.finished = false) : ComesTo form source first stream read rest :=
  ⟨running, stream, .refl stream, here⟩

/-- Behind a gap the stream comes to what follows it. -/
theorem Stands.comesTo_behind (here : Stands form.grammar source first stream read rest)
    (running : stream.finished = false) (found : form.scan rest = some (rule, cut))
    (sense : form.sense rule cut.value = .nothing) :
    ComesTo form source first stream (read ++ cut.read) cut.left := by
  obtain ⟨after, there, -, taken⟩ := here.step_of_scan running found
  rw [sense] at taken
  exact ⟨running, after, .step taken (.refl after), there⟩

/-- What a stream comes to decides what its next call gives. -/
theorem ComesTo.next_eq (comes : ComesTo form source first stream read rest)
    (here : Stands form.grammar source first stream before remaining)
    (found : form.scan rest = some (rule, cut)) :
    ∃ after, Stands form.grammar source first after (read ++ cut.read) cut.left
      ∧ after.finished = false ∧ ∀ answer, ((form.sense rule cut.value).step
        (first + lineBreaks read) ⟨byteLength read, byteLength read + byteLength cut.read⟩
        after).answer? = some answer → stream.next = answer := by
  obtain ⟨middle, passes, there⟩ := comes.reached
  obtain ⟨-, -, -, same, -⟩ := passes.stands here
  obtain ⟨after, behind, running, taken⟩ := there.step_of_scan (same.trans comes.running) found
  refine ⟨after, behind, running, fun answer answers => ?_⟩
  exact here.call_iff.1 (.steps comes.running passes (taken ▸ answers))

theorem ComesTo.gives (comes : ComesTo form source first stream read rest)
    (here : Stands form.grammar source first stream before remaining)
    (found : form.scan rest = some (rule, cut)) {kind : Kind} {value : List Char}
    (sense : form.sense rule cut.value = .token kind value) :
    Gives form source first stream ⟨first + lineBreaks read, kind, String.ofList value⟩
      (read ++ cut.read) cut.left := by
  obtain ⟨after, there, running, next⟩ := comes.next_eq here found
  rw [sense] at next
  have same := next _ rfl
  exact ⟨by rw [same], by rw [same]; exact running, by rw [same]; exact there⟩

theorem ComesTo.fails (comes : ComesTo form source first stream read rest)
    (here : Stands form.grammar source first stream before remaining)
    (found : form.scan rest = some (rule, cut)) {cause : LexError.Cause}
    (sense : form.sense rule cut.value = .error cause) :
    Fails stream ⟨cause, first + lineBreaks read,
      ⟨byteLength read, byteLength read + byteLength cut.read⟩⟩ := by
  obtain ⟨after, -, -, next⟩ := comes.next_eq here found
  rw [sense] at next
  have same := next _ rfl
  exact ⟨by rw [same], by rw [same]; rfl⟩

/-! ### Numbers -/

/-- What a stream of a loop gives where it comes to a number, by what follows the number. -/
structure ReadsNumber (source : String) (first : Nat) (stream : Stream)
    (read number rest : List Char) : Prop where
  /-- A point and digits make it a float, as far as the digits go. -/
  float : ∀ {fraction left : List Char}, rest = '.' :: fraction ++ left → fraction ≠ [] →
    (∀ c ∈ fraction, isDigit c = true) → (∀ c ∈ left.head?, isDigit c = false) →
      Gives .loop source first stream
        ⟨first + lineBreaks read, .float, String.ofList (number ++ '.' :: fraction)⟩
        (read ++ (number ++ '.' :: fraction)) left
  /-- Two points leave it an integer, and the next token is the range. -/
  range : ∀ {left : List Char}, rest = '.' :: '.' :: left →
    Gives .loop source first stream
        ⟨first + lineBreaks read, .integer, String.ofList number⟩ (read ++ number) rest
      ∧ Gives .loop source first stream.next.2 ⟨first + lineBreaks (read ++ number), .range, ".."⟩
        (read ++ number ++ ['.', '.']) left
  /-- A point with anything else behind it, or nothing, ends a float, and the text goes on behind
  the point. -/
  openFloat : ∀ {left : List Char}, rest = '.' :: left →
    (∀ c ∈ left.head?, c ≠ '.' ∧ isDigit c = false) →
      Gives .loop source first stream
        ⟨first + lineBreaks read, .float, String.ofList (number ++ ['.'])⟩
        (read ++ (number ++ ['.'])) left
  /-- Neither a point nor a word follows an integer. -/
  integer : (∀ c ∈ rest.head?, c ≠ '.' ∧ isWord c = false) →
    Gives .loop source first stream
      ⟨first + lineBreaks read, .integer, String.ofList number⟩ (read ++ number) rest
  /-- In front of a word the first character of the number is an error. -/
  word : ∀ {c w : Char} {more left : List Char}, number = c :: more → rest = w :: left →
    isWord w = true →
      Fails stream ⟨.unexpectedCharacter (String.ofList [c]), first + lineBreaks read,
        ⟨byteLength read, byteLength read + c.utf8Size⟩⟩

/-- Wherever a stream of a loop comes to a number, what follows the number decides how it is
read. -/
theorem numbers_in_loops {count : Nat} {number : List Char} (numeral : IsNumeral true number)
    (whole : ∀ c ∈ rest.head?, isDigit c = false)
    (comes : ComesTo .loop source first ((start Form.loop.grammar source first).asked count) read
      (number ++ rest)) :
    ReadsNumber source first ((start Form.loop.grammar source first).asked count) read number
      rest := by
  obtain ⟨before, remaining, here⟩ := exists_stands Form.loop.grammar source first count
  constructor
  case float =>
    rintro fraction left rfl nonempty digits ends
    have found : Form.loop.scan (number ++ '.' :: fraction ++ left) = some
        (.token .float, ⟨number ++ '.' :: fraction, number ++ '.' :: fraction, left⟩) :=
      scan_float rfl numeral digits (fun _ => nonempty) ends
    rw [List.append_assoc] at found
    exact comes.gives here found rfl
  case range =>
    rintro left rfl
    have noFloat : Form.loop.float? (number ++ '.' :: '.' :: left) = none :=
      float?_of_no_digit rfl numeral (isDigit_point left)
    have noWord : ('.' :: '.' :: left).head?.any isWord = false := by
      rw [List.head?_cons, Option.any_some]
      decide +kernel
    have integer := comes.gives here
      (scan_integer numeral whole (fun _ => noWord) noFloat (openFloat?_of_range numeral left)) rfl
    have behind := integer.stands.comesTo integer.running
    exact ⟨integer, behind.gives integer.stands (scan_range left) rfl⟩
  case openFloat =>
    rintro left rfl ends
    have noPoint : left.head? ≠ some '.' := fun point => (ends '.' point).1 rfl
    have found := scan_openFloat numeral (fun c first => (ends c first).2) noPoint
    rw [List.append_assoc] at found
    exact comes.gives here found rfl
  case integer =>
    intro ends
    have noWord : rest.head?.any isWord = false := by
      cases rest with
      | nil => rfl
      | cons c left => exact (ends c rfl).2
    have noPoint : past? '.' rest = none := by
      cases rest with
      | nil => rfl
      | cons c left => simp [past?, (ends c rfl).1]
    have noFloats : Form.loop.float? (number ++ rest) = none ∧ openFloat? (number ++ rest) = none :=
      float?_of_no_point numeral whole noPoint
    exact comes.gives here (scan_integer numeral whole (fun _ => noWord) noFloats.1 noFloats.2) rfl
  case word =>
    rintro c w more left rfl rfl word
    have failed := comes.fails here (scan_before_word numeral (whole w rfl) word) rfl
    simpa using failed

/-- A float that ends with its point, and a range on the next line. -/
theorem range_behind_open_float :
    let source := "-2.\n3..4"
    let stream := start Form.loop.grammar source 7
    (IsNumeral true ['-', '2']
        ∧ ComesTo .loop source 7 stream [] (['-', '2'] ++ ['.', '\n', '3', '.', '.', '4'])
        ∧ Gives .loop source 7 stream ⟨7, .float, "-2."⟩ ['-', '2', '.']
          ['\n', '3', '.', '.', '4'])
      ∧ IsNumeral true ['3']
      ∧ ComesTo .loop source 7 stream.next.2 ['-', '2', '.', '\n'] (['3'] ++ ['.', '.', '4'])
      ∧ Gives .loop source 7 stream.next.2 ⟨8, .integer, "3"⟩ ['-', '2', '.', '\n', '3']
        ['.', '.', '4']
      ∧ Gives .loop source 7 stream.next.2.next.2 ⟨8, .range, ".."⟩
        ['-', '2', '.', '\n', '3', '.', '.'] ['4'] := by
  intro source stream
  have signed : IsNumeral true ['-', '2'] :=
    ⟨['-'], ['2'], rfl, .inr ⟨rfl, rfl⟩, by simp, by decide⟩
  have unsigned : IsNumeral true ['3'] := ⟨[], ['3'], rfl, .inl rfl, by simp, by decide⟩
  have begins : ComesTo .loop source 7 (stream.asked 0) []
      (['-', '2'] ++ ['.', '\n', '3', '.', '.', '4']) :=
    (stands_start Form.loop.grammar "-2.\n3..4" 7).comesTo rfl
  have float := (numbers_in_loops signed (by decide) begins).openFloat rfl (by decide)
  have behind : ComesTo .loop source 7 (stream.asked 1) ['-', '2', '.', '\n']
      (['3'] ++ ['.', '.', '4']) :=
    float.stands.comesTo_behind float.running (scan_lineBreak .loop _) rfl
  obtain ⟨integer, range⟩ := (numbers_in_loops unsigned (by decide) behind).range rfl
  exact ⟨⟨signed, begins, float⟩, unsigned, behind, integer, range⟩

end Stream

end LiquidTokens.Expression
