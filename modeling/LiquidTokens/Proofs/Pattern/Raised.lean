import LiquidTokens.Pattern.Basic

/-!
Patterns whose groups have other numbers.

A pattern that stands inside another one is the pattern that it would be alone, but for the
numbers of its groups, which are raised by the number of groups that begin before it. No way to
put patterns together depends on these numbers.

Main statements: `sequence_raise`, `choice_raise` and `repeated_raise`.
-/

namespace LiquidTokens

namespace Pattern

/-- The pattern with the numbers of its groups raised by `k`. -/
def raise (k : Nat) : Pattern → Pattern
  | empty => empty
  | text letters => text letters
  | one set => one set
  | anchor condition => anchor condition
  | group index name body => group (index + k) name (body.raise k)
  | seq first second => seq (first.raise k) (second.raise k)
  | alt first second => alt (first.raise k) (second.raise k)
  | times least most greedy body => times least most greedy (body.raise k)

variable (k : Nat)

/-! ### What is known of a pattern -/

@[simp] theorem isNullable_raise (pattern : Pattern) :
    (pattern.raise k).isNullable = pattern.isNullable := by
  induction pattern <;> simp_all [raise, isNullable]

@[simp] theorem hasFail_raise (pattern : Pattern) :
    (pattern.raise k).hasFail = pattern.hasFail := by
  induction pattern <;> simp_all [raise, hasFail]

@[simp] theorem isFlat_raise (pattern : Pattern) : (pattern.raise k).isFlat = pattern.isFlat := by
  induction pattern <;> simp_all [raise, isFlat]

@[simp] theorem isZeroWidth_raise (pattern : Pattern) :
    (pattern.raise k).isZeroWidth = pattern.isZeroWidth := by
  induction pattern <;> simp_all [raise, isZeroWidth]

@[simp] theorem alwaysReads_raise (pattern : Pattern) :
    (pattern.raise k).alwaysReads = pattern.alwaysReads := by
  simp [alwaysReads]

@[simp] theorem isSimple_raise (pattern : Pattern) :
    (pattern.raise k).isSimple = pattern.isSimple := by
  simp [isSimple]

/-- Whether two patterns are built alike does not depend on the numbers, if they are raised
alike. -/
@[simp] theorem same_raise (pattern other : Pattern) :
    (pattern.raise k).same (other.raise k) = pattern.same other := by
  induction pattern generalizing other with
  | empty | text | one | anchor => cases other <;> rfl
  | group index name body ih =>
      cases other with
      | group number title other =>
          have numbers : (index + k == number + k) = (index == number) := by
            rw [Bool.eq_iff_iff, beq_iff_eq, beq_iff_eq, Nat.add_right_cancel_iff]
          simp only [raise, same, ih, numbers]
      | _ => rfl
  | seq first second ihFirst ihSecond | alt first second ihFirst ihSecond =>
      cases other <;> simp [raise, same, ihFirst, ihSecond]
  | times least most greedy body ih =>
      cases other <;> simp [raise, same, ih]

/-! ### Putting patterns together -/

theorem items_raise (pattern : Pattern) :
    (pattern.raise k).items = pattern.items.map (raise k) := by
  induction pattern <;> simp_all [raise, items]

theorem branches_raise (pattern : Pattern) :
    (pattern.raise k).branches = pattern.branches.map (raise k) := by
  induction pattern <;> simp_all [raise, branches]

theorem flatMap_items_raise (patterns : List Pattern) :
    (patterns.map (raise k)).flatMap items = (patterns.flatMap items).map (raise k) := by
  simp only [List.flatMap_map, List.map_flatMap, items_raise]

theorem flatMap_branches_raise (patterns : List Pattern) :
    (patterns.map (raise k)).flatMap branches = (patterns.flatMap branches).map (raise k) := by
  simp only [List.flatMap_map, List.map_flatMap, branches_raise]

theorem consItem_raise (item : Pattern) (others : List Pattern) :
    consItem (item.raise k) (others.map (raise k)) = (consItem item others).map (raise k) := by
  cases item <;> cases others with
    | nil => rfl
    | cons other others => cases other <;> rfl

theorem ofItems_raise (patterns : List Pattern) :
    ofItems (patterns.map (raise k)) = (ofItems patterns).raise k := by
  induction patterns with
  | nil => rfl
  | cons item others ih =>
      cases others with
      | nil => rfl
      | cons other others => exact congrArg (seq (item.raise k)) ih

theorem foldr_consItem_raise (patterns : List Pattern) :
    (patterns.map (raise k)).foldr consItem [] = (patterns.foldr consItem []).map (raise k) := by
  induction patterns with
  | nil => rfl
  | cons item others ih =>
      rw [List.map_cons, List.foldr_cons, ih, consItem_raise, List.foldr_cons]

theorem sequence_raise (patterns : List Pattern) :
    sequence (patterns.map (raise k)) = (sequence patterns).raise k := by
  rw [sequence, flatMap_items_raise, foldr_consItem_raise, ofItems_raise, sequence]

theorem ofBranches_raise (patterns : List Pattern) :
    ofBranches (patterns.map (raise k)) = (ofBranches patterns).raise k := by
  induction patterns with
  | nil => rfl
  | cons branch others ih =>
      cases others with
      | nil => rfl
      | cons other others => exact congrArg (alt (branch.raise k)) ih

theorem commonStart_raise (patterns others : List Pattern) :
    commonStart (patterns.map (raise k)) (others.map (raise k))
      = (commonStart patterns others).map (raise k) := by
  induction patterns generalizing others with
  | nil => cases others <;> rfl
  | cons item items ih =>
      cases others with
      | nil => rfl
      | cons other others =>
          simp only [List.map_cons, commonStart, same_raise, ih]
          split <;> rfl

theorem foldl_commonStart_raise (start : List Pattern) (patterns : List Pattern) :
    (patterns.map (raise k)).foldl (fun start branch => commonStart start branch.items)
        (start.map (raise k))
      = (patterns.foldl (fun start branch => commonStart start branch.items) start).map
          (raise k) := by
  induction patterns generalizing start with
  | nil => rfl
  | cons branch patterns ih =>
      rw [List.map_cons, List.foldl_cons, items_raise, commonStart_raise, ih, List.foldl_cons]

theorem sharedStart_raise (patterns : List Pattern) :
    sharedStart (patterns.map (raise k)) = (sharedStart patterns).map (raise k) := by
  match patterns with
  | [] => rfl
  | [_] => rfl
  | first :: second :: others =>
      have long : ((first :: second :: others).map (raise k)).all (fun branch =>
            2 ≤ branch.items.length)
          = (first :: second :: others).all fun branch => 2 ≤ branch.items.length := by
        simp [items_raise, Function.comp_def]
      have start := foldl_commonStart_raise k first.items (second :: others)
      simp only [sharedStart, List.map_cons] at long start ⊢
      rw [long, items_raise, start]
      split <;> rfl

theorem letter?_raise (pattern : Pattern) : (pattern.raise k).letter? = pattern.letter? := by
  cases pattern <;> rfl

theorem set?_raise (pattern : Pattern) : (pattern.raise k).set? = pattern.set? := by
  cases pattern <;> rfl

theorem joinedSet?_raise (patterns : List Pattern) :
    joinedSet? (patterns.map (raise k)) = joinedSet? patterns := by
  have letters : (patterns.map (raise k)).mapM letter? = patterns.mapM letter? := by
    simp only [List.mapM_map, Function.comp_def, letter?_raise]
  have sets : (patterns.map (raise k)).mapM set? = patterns.mapM set? := by
    simp only [List.mapM_map, Function.comp_def, set?_raise]
  rw [joinedSet?, letters, sets, joinedSet?]

theorem ofSet_raise (set : CharSet) : (ofSet set).raise k = ofSet set := by
  rw [ofSet]
  split
  · rfl
  · split <;> rfl

theorem join_raise (patterns : List Pattern) :
    join (patterns.map (raise k)) = (join patterns).raise k := by
  rw [join, joinedSet?_raise, join]
  split
  · exact (ofSet_raise k _).symm
  · exact ofBranches_raise k patterns

theorem choice_raise (patterns : List Pattern) :
    choice (patterns.map (raise k)) = (choice patterns).raise k := by
  simp only [choice, flatMap_branches_raise, sharedStart_raise]
  generalize patterns.flatMap branches = all
  cases sharedStart all with
  | nil => exact join_raise k all
  | cons item start =>
      have ends : (all.map (raise k)).map (fun branch =>
            sequence (branch.items.drop ((item :: start).map (raise k)).length))
          = (all.map fun branch => sequence (branch.items.drop (item :: start).length)).map
              (raise k) := by
        simp only [List.map_map, Function.comp_def, items_raise, List.length_map, ← List.map_drop,
          sequence_raise]
      simp only [List.map_cons] at ends ⊢
      rw [ends, flatMap_branches_raise, join_raise, ← sequence_raise]
      simp

theorem repeated_raise (least : Nat) (most : Option Nat) (greedy : Bool) (body : Pattern) :
    repeated least most greedy (body.raise k) = (repeated least most greedy body).raise k := by
  simp only [repeated, isZeroWidth_raise]
  generalize (if body.isZeroWidth = true then _ else _ : Nat × Option Nat) = bounds
  split
  · rfl
  · split <;> rfl

end Pattern

end LiquidTokens
