import LiquidTokens.Proofs.Template.RegionPatterns
import LiquidTokens.RegionCache
import Mathlib.Data.List.DropRight
import Mathlib.Data.List.Nodup

/-!
A cache of region tables as a window on what was put into it.

A lookup of delimiters that are absent and can be compiled inserts an entry. Nothing else adds
entries or moves them, and only room for a new entry and clearing take some away, the oldest first.
So a cache holds, in order, the last insertions since it was cleared, as many as its capacity
admits, and an entry is found again for just as long as it is among them.

Every step of a cache is one of four (`Does`), and what the steps keep is said once (`Sound`).

Main statement: `window_of_calls`.
-/

namespace LiquidTokens

open Template (RegionTable)

namespace RegionCache

/-! ### Calls -/

/-- Delimiters and the table that was made of them. -/
abbrev Entry :=
  Delimiters × SharedRegions

/-- What a cache can be asked to do. -/
inductive Call where
  | get (delimiters : Delimiters)
  | tokenize (delimiters : Delimiters) (source : String)
  | clear
  deriving DecidableEq

/-- The delimiters that a call looks up. -/
def Call.delimiters? : Call → Option Delimiters
  | get delimiters | tokenize delimiters _ => some delimiters
  | clear => none

/-- The empty cache of at most so many entries, or without a bound. -/
def limited : Option Nat → RegionCache
  | none => unbounded
  | some limit => withCapacity limit

section Calls

variable (cache : RegionCache)

/-- The cache after a call. -/
def perform : Call → RegionCache
  | .get delimiters => (cache.lookup delimiters).2
  | .tokenize delimiters source => (cache.tokenize delimiters source).2
  | .clear => cache.clear

/-- The cache after some calls. -/
def after (calls : List Call) : RegionCache :=
  calls.foldl perform cache

/-- The table with which a lookup succeeds. -/
def answer? (call : Call) : Option SharedRegions :=
  call.delimiters?.bind fun delimiters => (cache.lookup delimiters).1.toOption

/-- The entry that a call inserts: it looks up delimiters that are absent, and succeeds. -/
def inserted? (call : Call) : Option Entry :=
  call.delimiters?.bind fun delimiters =>
    if (cache.find? delimiters).isSome then none
    else (cache.lookup delimiters).1.toOption.map (delimiters, ·)

/-- The entries that some calls insert, in order. -/
def insertions (cache : RegionCache) : List Call → List Entry
  | [] => []
  | call :: calls => (cache.inserted? call).toList ++ insertions (cache.perform call) calls

/-- The entries that were inserted since the last of the calls that cleared the cache. -/
def recent (calls : List Call) : List Entry :=
  (cache.after (calls.rdropWhile (· ≠ .clear))).insertions (calls.rtakeWhile (· ≠ .clear))

end Calls

/-- How many of so many entries a capacity admits. -/
def admitted (capacity : Option Nat) (count : Nat) : Nat :=
  capacity.elim count (min · count)

/-! ### What a call does -/

/-- What a call does to a cache, what it answers and what it inserts. -/
inductive Does (cache : RegionCache) :
    Call → RegionCache → Option SharedRegions → Option Entry → Prop where
  | cleared : Does cache .clear cache.clear none none
  | found {call : Call} {delimiters : Delimiters} {shared : SharedRegions}
      (asked : call.delimiters? = some delimiters)
      (present : cache.find? delimiters = some shared) :
      Does cache call cache (some shared) none
  | refused {call : Call} {delimiters : Delimiters} {error : SetupError}
      (asked : call.delimiters? = some delimiters) (absent : cache.find? delimiters = none)
      (faulty : RegionTable.compile delimiters = .error error) : Does cache call cache none none
  | inserted {call : Call} {delimiters : Delimiters} {regions : RegionTable}
      (asked : call.delimiters? = some delimiters) (absent : cache.find? delimiters = none)
      (compiled : RegionTable.compile delimiters = .ok regions) :
      Does cache call (cache.insert delimiters ⟨cache.made, regions⟩)
        (some ⟨cache.made, regions⟩) (some (delimiters, ⟨cache.made, regions⟩))

section Steps

variable {cache : RegionCache}

theorem perform_of_delimiters? {call : Call} {delimiters : Delimiters}
    (asked : call.delimiters? = some delimiters) :
    cache.perform call = (cache.lookup delimiters).2 := by
  cases call <;> cases asked <;> rfl

theorem answer?_of_find? {call : Call} {delimiters : Delimiters} {shared : SharedRegions}
    (asked : call.delimiters? = some delimiters) (present : cache.find? delimiters = some shared) :
    cache.answer? call = some shared := by
  rw [answer?, asked, Option.bind_some, lookup_of_find? present]
  rfl

theorem does (cache : RegionCache) (call : Call) :
    Does cache call (cache.perform call) (cache.answer? call) (cache.inserted? call) := by
  cases asked : call.delimiters? with
  | none =>
      cases call <;> cases asked
      exact .cleared
  | some delimiters =>
      rw [perform_of_delimiters? asked, answer?, inserted?, asked, Option.bind_some,
        Option.bind_some]
      cases present : cache.find? delimiters with
      | some shared =>
          rw [lookup_of_find? present]
          exact .found asked present
      | none =>
          cases compiled : RegionTable.compile delimiters with
          | error error =>
              simp only [lookup, present, compiled]
              exact .refused asked present compiled
          | ok regions =>
              simp only [lookup, present, compiled]
              exact .inserted asked present compiled

theorem perform_capacity (call : Call) : (cache.perform call).capacity = cache.capacity := by
  have step := cache.does call
  generalize cache.perform call = after, cache.answer? call = answer,
    cache.inserted? call = new at step
  cases step <;> rfl

theorem after_capacity (calls : List Call) : (cache.after calls).capacity = cache.capacity := by
  induction calls generalizing cache with
  | nil => rfl
  | cons call calls ih => exact ih.trans (perform_capacity call)

theorem after_cons (call : Call) (calls : List Call) :
    cache.after (call :: calls) = (cache.perform call).after calls := rfl

theorem after_append (calls more : List Call) :
    cache.after (calls ++ more) = (cache.after calls).after more :=
  List.foldl_append

end Steps

/-! ### What calls keep -/

/-- What holds of a cache at all times. -/
structure Sound (cache : RegionCache) : Prop where
  positive : ∀ capacity ∈ cache.capacity, 0 < capacity
  within : ∀ capacity ∈ cache.capacity, cache.entries.length ≤ capacity
  distinct : (cache.entries.map Prod.fst).Nodup
  compiled : ∀ entry ∈ cache.entries, RegionTable.compile entry.1 = .ok entry.2.regions
  numbered : ∀ entry ∈ cache.entries, entry.2.serial < cache.made

section Sound

variable {cache : RegionCache}

theorem sound_of_entries (empty : cache.entries = [])
    (positive : ∀ capacity ∈ cache.capacity, 0 < capacity) : Sound cache where
  positive := positive
  within := by simp [empty]
  distinct := by simp [empty]
  compiled := by simp [empty]
  numbered := by simp [empty]

theorem capacity_limited (limit : Option Nat) :
    (limited limit).capacity = limit.map (max · 1) := by
  cases limit <;> rfl

theorem entries_limited (limit : Option Nat) : (limited limit).entries = [] := by
  cases limit <;> rfl

theorem sound_limited (limit : Option Nat) : Sound (limited limit) := by
  refine sound_of_entries (entries_limited limit) fun capacity bound => ?_
  rw [capacity_limited] at bound
  obtain ⟨limit, -, rfl⟩ := Option.map_eq_some_iff.1 bound
  omega

theorem find?_eq_none_iff {delimiters : Delimiters} :
    cache.find? delimiters = none ↔ delimiters ∉ cache.entries.map Prod.fst := by
  simp only [find?, Option.map_eq_none_iff, List.find?_eq_none, beq_iff_eq, List.mem_map,
    not_exists, not_and]

theorem mem_of_find? {delimiters : Delimiters} {shared : SharedRegions}
    (present : cache.find? delimiters = some shared) : (delimiters, shared) ∈ cache.entries := by
  obtain ⟨entry, found, rfl⟩ := Option.map_eq_some_iff.1 present
  have key := List.find?_some found
  rw [beq_iff_eq] at key
  exact key ▸ List.mem_of_find?_eq_some found

theorem Sound.find?_of_mem (sound : Sound cache) {entry : Entry} (member : entry ∈ cache.entries) :
    cache.find? entry.1 = some entry.2 := by
  cases present : cache.find? entry.1 with
  | none => exact absurd (List.mem_map_of_mem member) (find?_eq_none_iff.1 present)
  | some shared =>
      have same := List.inj_on_of_nodup_map sound.distinct (mem_of_find? present) member rfl
      rw [← same]

theorem kept_suffix (cache : RegionCache) : cache.kept <:+ cache.entries := by
  unfold kept
  split
  · exact List.suffix_refl _
  · exact List.drop_suffix _ _

theorem Sound.insert (sound : Sound cache) {delimiters : Delimiters} {regions : RegionTable}
    (absent : cache.find? delimiters = none)
    (compiled : RegionTable.compile delimiters = .ok regions) :
    Sound (cache.insert delimiters ⟨cache.made, regions⟩) where
  positive := sound.positive
  within capacity bound := by
    have unchanged : cache.capacity = some capacity := bound
    exact length_insert_le (sound.positive capacity unchanged) unchanged delimiters _
  distinct := by
    have kept : cache.kept.map Prod.fst <:+ cache.entries.map Prod.fst :=
      cache.kept_suffix.map Prod.fst
    rw [RegionCache.insert, List.map_append, List.map_singleton, ← List.concat_eq_append]
    exact List.Nodup.concat (fun member => find?_eq_none_iff.1 absent (kept.subset member))
      (sound.distinct.sublist kept.sublist)
  compiled entry member := by
    rcases List.mem_append.1 member with old | new
    · exact sound.compiled entry (cache.kept_suffix.subset old)
    · rw [List.mem_singleton.1 new]
      exact compiled
  numbered entry member := by
    rcases List.mem_append.1 member with old | new
    · exact Nat.lt_succ_of_lt (sound.numbered entry (cache.kept_suffix.subset old))
    · rw [List.mem_singleton.1 new]
      exact Nat.lt_succ_self _

theorem Sound.perform (sound : Sound cache) (call : Call) : Sound (cache.perform call) := by
  have step := cache.does call
  generalize cache.perform call = after, cache.answer? call = answer,
    cache.inserted? call = new at step
  cases step with
  | cleared => exact sound_of_entries rfl sound.positive
  | found asked present => exact sound
  | refused asked absent faulty => exact sound
  | inserted asked absent compiled => exact sound.insert absent compiled

theorem Sound.after (sound : Sound cache) (calls : List Call) : Sound (cache.after calls) := by
  induction calls generalizing cache with
  | nil => exact sound
  | cons call calls ih => exact ih (sound.perform call)

/-- What a lookup answers is what compiling its delimiters gives. -/
theorem Sound.lookup_eq (sound : Sound cache) (delimiters : Delimiters) :
    (cache.lookup delimiters).1.map SharedRegions.regions = RegionTable.compile delimiters := by
  unfold lookup
  cases present : cache.find? delimiters with
  | some shared => exact (sound.compiled _ (mem_of_find? present)).symm
  | none => cases RegionTable.compile delimiters <;> rfl

end Sound

/-! ### The last insertions -/

section Latest

variable {cache : RegionCache}

/-- The last of some entries, as many as a capacity admits. -/
def latest (capacity : Option Nat) (entries : List Entry) : List Entry :=
  entries.rtake (admitted capacity entries.length)

theorem latest_none (entries : List Entry) : latest none entries = entries := by
  simp [latest, admitted, List.rtake]

theorem latest_some (capacity : Nat) (entries : List Entry) :
    latest (some capacity) entries = entries.drop (entries.length - capacity) := by
  rw [latest, admitted, Option.elim_some, List.rtake]
  congr 1
  omega

theorem length_latest (capacity : Option Nat) (entries : List Entry) :
    (latest capacity entries).length = admitted capacity entries.length := by
  have bound : admitted capacity entries.length ≤ entries.length := by
    cases capacity with
    | none => exact Nat.le_refl _
    | some capacity => exact Nat.min_le_right _ _
  rw [latest, List.rtake, List.length_drop]
  omega

/-- Entries that give way to new ones may as well give way to all the new ones at once. -/
theorem latest_append (capacity : Option Nat) (entries more : List Entry) :
    latest capacity (latest capacity entries ++ more) = latest capacity (entries ++ more) := by
  cases capacity with
  | none => simp only [latest_none]
  | some capacity =>
      have early : entries.length - capacity ≤ entries.length := Nat.sub_le _ _
      simp only [latest_some, List.length_append, List.length_drop,
        ← List.drop_append_of_le_length early, List.drop_drop]
      congr 1
      omega

theorem Sound.latest_entries (sound : Sound cache) :
    latest cache.capacity cache.entries = cache.entries := by
  cases bound : cache.capacity with
  | none => exact latest_none _
  | some capacity =>
      rw [latest_some, Nat.sub_eq_zero_of_le (sound.within capacity bound), List.drop_zero]

/-- Room is made for the new entry before it is put in. -/
theorem Sound.entries_insert (sound : Sound cache) (delimiters : Delimiters)
    (shared : SharedRegions) :
    (cache.insert delimiters shared).entries
      = latest cache.capacity (cache.entries ++ [(delimiters, shared)]) := by
  cases bound : cache.capacity with
  | none => simp only [RegionCache.insert, kept, bound, latest_none]
  | some capacity =>
      have positive := sound.positive capacity bound
      simp only [RegionCache.insert, kept, bound, latest_some, List.length_append,
        List.length_singleton]
      rw [List.drop_append_of_le_length (by omega)]

theorem Sound.entries_perform (sound : Sound cache) {call : Call} (other : call ≠ .clear) :
    (cache.perform call).entries
      = latest cache.capacity (cache.entries ++ (cache.inserted? call).toList) := by
  have step := cache.does call
  generalize cache.perform call = after, cache.answer? call = answer,
    cache.inserted? call = new at step
  cases step with
  | cleared => contradiction
  | inserted asked absent compiled => exact sound.entries_insert _ _
  | _ => simp only [Option.toList_none, List.append_nil, sound.latest_entries]

theorem Sound.entries_after (sound : Sound cache) {calls : List Call} (others : .clear ∉ calls) :
    (cache.after calls).entries
      = latest cache.capacity (cache.entries ++ cache.insertions calls) := by
  induction calls generalizing cache with
  | nil =>
      rw [insertions, List.append_nil, sound.latest_entries]
      rfl
  | cons call calls ih =>
      obtain ⟨other, others⟩ := not_or.1 (mt List.mem_cons.2 others)
      have later := ih (sound.perform call) others
      rw [sound.entries_perform (Ne.symm other), perform_capacity, latest_append,
        List.append_assoc] at later
      exact later

theorem entries_after_clear (calls : List Call) :
    (cache.after (calls ++ [.clear])).entries = [] := by
  rw [after_append]
  rfl

theorem clear_not_mem_rtakeWhile (calls : List Call) :
    .clear ∉ calls.rtakeWhile (· ≠ .clear) := by
  intro member
  simpa using List.mem_rtakeWhile_imp member

theorem entries_rdropWhile (limit : Option Nat) (calls : List Call) :
    ((limited limit).after (calls.rdropWhile (· ≠ .clear))).entries = [] := by
  by_cases nothing : calls.rdropWhile (· ≠ .clear) = []
  · rw [nothing]
    exact entries_limited limit
  · have last := List.rdropWhile_last_not (· ≠ .clear) calls nothing
    rw [decide_eq_true_eq, not_not] at last
    rw [← List.dropLast_append_getLast nothing, last]
    exact entries_after_clear _

/-- The entries are the last ones that were inserted since the cache was cleared. -/
theorem entries_eq_latest (limit : Option Nat) (calls : List Call) :
    ((limited limit).after calls).entries
      = latest (limit.map (max · 1)) ((limited limit).recent calls) := by
  have sound := (sound_limited limit).after (calls.rdropWhile (· ≠ .clear))
  have later := sound.entries_after (clear_not_mem_rtakeWhile calls)
  rw [← after_append, List.rdropWhile_append_rtakeWhile, after_capacity, capacity_limited,
    entries_rdropWhile, List.nil_append] at later
  exact later

end Latest

/-! ### Tables made once -/

section Serials

variable {cache : RegionCache}

theorem made_le_after (cache : RegionCache) (calls : List Call) :
    cache.made ≤ (cache.after calls).made := by
  induction calls generalizing cache with
  | nil => exact Nat.le_refl _
  | cons call calls ih =>
      refine Nat.le_trans ?_ (ih (cache.perform call))
      have step := cache.does call
      generalize cache.perform call = after, cache.answer? call = answer,
        cache.inserted? call = new at step
      cases step with
      | inserted asked absent compiled => exact Nat.le_succ _
      | _ => exact Nat.le_refl _

/-- A new entry has the next number, and numbers are not used again. -/
theorem serial_of_inserted? {call : Call} {entry : Entry}
    (new : cache.inserted? call = some entry) :
    entry.2.serial = cache.made ∧ (cache.perform call).made = cache.made + 1 := by
  have step := cache.does call
  rw [new] at step
  generalize cache.perform call = after, cache.answer? call = answer at step
  cases step with
  | inserted asked absent compiled => exact ⟨rfl, rfl⟩

theorem made_le_of_mem_insertions {calls : List Call} {entry : Entry}
    (member : entry ∈ cache.insertions calls) : cache.made ≤ entry.2.serial := by
  induction calls generalizing cache with
  | nil => cases member
  | cons call calls ih =>
      rcases List.mem_append.1 member with new | later
      · exact (serial_of_inserted? (Option.mem_toList.1 new)).1.ge
      · exact (made_le_after cache [call]).trans (ih later)

theorem mem_perform {call : Call} {entry : Entry} (member : entry ∈ (cache.perform call).entries) :
    entry ∈ cache.entries ∨ cache.inserted? call = some entry := by
  have step := cache.does call
  generalize cache.perform call = after, cache.answer? call = answer,
    cache.inserted? call = new at step member
  cases step with
  | cleared => cases member
  | inserted asked absent compiled =>
      rcases List.mem_append.1 member with old | new
      · exact .inl (cache.kept_suffix.subset old)
      · exact .inr (congrArg some (List.mem_singleton.1 new).symm)
  | _ => exact .inl member

/-- What a lookup answers is an entry, or becomes one. -/
theorem entry_of_answer {call : Call} {delimiters : Delimiters} {shared : SharedRegions}
    (asked : call.delimiters? = some delimiters)
    (answered : cache.answer? call = some shared) :
    (delimiters, shared) ∈ cache.entries ∨ cache.inserted? call = some (delimiters, shared) := by
  have step := cache.does call
  rw [answered] at step
  generalize cache.perform call = after, cache.inserted? call = new at step
  cases step with
  | found own present =>
      cases own.symm.trans asked
      exact .inl (mem_of_find? present)
  | inserted own absent compiled =>
      cases own.symm.trans asked
      exact .inr rfl

/-- A call among others that inserts an entry. -/
structure Inserts (cache : RegionCache) (calls earlier : List Call) (call : Call)
    (later : List Call) (entry : Entry) : Prop where
  split : calls = earlier ++ call :: later
  inserted : (cache.after earlier).inserted? call = some entry

theorem exists_inserts {calls : List Call} {entry : Entry} (empty : cache.entries = [])
    (member : entry ∈ (cache.after calls).entries) :
    ∃ earlier call later, Inserts cache calls earlier call later entry := by
  induction calls using List.reverseRecOn with
  | nil => rw [after, List.foldl_nil, empty] at member; cases member
  | append_singleton calls call ih =>
      rw [after_append] at member
      rcases mem_perform member with old | new
      · obtain ⟨earlier, insert, later, split, inserted⟩ := ih old
        exact ⟨earlier, insert, later ++ [call], by simp [split], inserted⟩
      · exact ⟨calls, call, [], rfl, new⟩

theorem made_le_of_mem_after {calls : List Call} {entry : Entry} (empty : cache.entries = [])
    (member : entry ∈ (cache.after calls).entries) : cache.made ≤ entry.2.serial := by
  obtain ⟨earlier, call, later, -, inserted⟩ := exists_inserts empty member
  rw [(serial_of_inserted? inserted).1]
  exact made_le_after cache earlier

/-- An entry that has been inserted is found again until the cache is cleared or as many others
have been inserted as there is room for. -/
theorem Sound.answer_again (sound : Sound cache) {insert again : Call} {between : List Call}
    {delimiters : Delimiters} {one other : SharedRegions}
    (inserted : cache.inserted? insert = some (delimiters, one))
    (asked : again.delimiters? = some delimiters)
    (answered : (cache.after (insert :: between)).answer? again = some other) :
    one.serial = other.serial ↔ .clear ∉ between
      ∧ ∀ capacity ∈ cache.capacity,
          ((cache.perform insert).insertions between).length < capacity := by
  obtain ⟨serial, made⟩ := serial_of_inserted? inserted
  have following := (sound.perform insert).after between
  have noClear : insert ≠ .clear := by
    rintro rfl
    cases inserted
  have entries := sound.entries_perform noClear
  rw [inserted, Option.toList_some] at entries
  have whole (others : .clear ∉ between) :
      ((cache.perform insert).after between).entries
        = latest cache.capacity (cache.entries ++ [(delimiters, one)]
            ++ (cache.perform insert).insertions between) := by
    rw [(sound.perform insert).entries_after others, perform_capacity, entries, latest_append]
  -- Whatever has been made since has a greater number.
  have newer {shared : SharedRegions} (later : (cache.perform insert).made ≤ shared.serial) :
      one.serial ≠ shared.serial := by
    have number : one.serial = cache.made := serial
    omega
  constructor
  · intro same
    have member : (delimiters, other) ∈ ((cache.perform insert).after between).entries := by
      refine (entry_of_answer asked answered).resolve_right fun new => newer ?_ same
      rw [(serial_of_inserted? new).1]
      exact made_le_after _ _
    have others : .clear ∉ between := by
      intro cleared
      obtain ⟨front, back, rfl⟩ := List.append_of_mem cleared
      rw [List.append_cons, after_append] at member
      have since := made_le_of_mem_after (entries_after_clear front) member
      exact newer ((made_le_after _ _).trans since) same
    refine ⟨others, fun capacity bound => Nat.lt_of_not_le fun full => ?_⟩
    rw [whole others, bound, latest_some] at member
    have beyond : (cache.entries ++ [(delimiters, one)]).length
        ≤ (cache.entries ++ [(delimiters, one)]
            ++ (cache.perform insert).insertions between).length - capacity := by
      simp only [List.length_append] at full ⊢
      omega
    rw [List.drop_append, List.drop_eq_nil_of_le beyond, List.nil_append] at member
    exact newer (made_le_of_mem_insertions (List.mem_of_mem_drop member)) same
  · rintro ⟨others, room⟩
    have member : (delimiters, one) ∈ ((cache.perform insert).after between).entries := by
      rw [whole others]
      cases bound : cache.capacity with
      | none =>
          rw [latest_none]
          simp
      | some capacity =>
          have few := room capacity bound
          rw [latest_some, List.append_assoc, List.drop_append_of_le_length]
          · simp
          · simp only [List.length_append, List.length_singleton]
            omega
    rw [after_cons, answer?_of_find? asked (following.find?_of_mem member)] at answered
    cases answered
    rfl

end Serials

/-! ### Sequences of calls -/

/-- A call that finds its delimiters, or cannot compile them, changes nothing. -/
theorem perform_of_present_or_refused {cache : RegionCache} {call : Call} {delimiters : Delimiters}
    (asked : call.delimiters? = some delimiters)
    (idle : (cache.find? delimiters).isSome ∨ cache.answer? call = none) :
    cache.perform call = cache := by
  have step := cache.does call
  generalize cache.perform call = after, cache.inserted? call = new at step
  generalize answered : cache.answer? call = answer at step idle
  cases step with
  | cleared => cases asked
  | inserted own absent compiled =>
      cases own.symm.trans asked
      rw [absent] at idle
      rcases idle with idle | idle <;> cases idle
  | _ => rfl

/-- A cache after any calls is a window on its insertions. Its keys are distinct, and its entries
are, in order, the last insertions since it was cleared, as many as its capacity of at least one
admits, each with the table that was compiled then; that is also its size. Lookups that find their
delimiters or fail change nothing. What a lookup answers was inserted by one of the calls up to
it, and a later lookup of the same delimiters answers with the same table exactly if, since that
insertion, the cache was not cleared and fewer entries were inserted than its capacity admits. -/
theorem window_of_calls (limit : Option Nat) (calls : List Call) :
    let empty := limited limit
    let capacity := limit.map (max · 1)
    let cache := empty.after calls
    let recent := empty.recent calls
    (cache.entries.map Prod.fst).Nodup
      ∧ cache.entries = recent.rtake (admitted capacity recent.length)
      ∧ (∀ entry ∈ cache.entries, RegionTable.compile entry.1 = .ok entry.2.regions)
      ∧ cache.size = admitted capacity recent.length
      ∧ (cache.isEmpty = true ↔ cache.size = 0)
      ∧ ∀ call delimiters, call.delimiters? = some delimiters →
        ((cache.find? delimiters).isSome ∨ cache.answer? call = none → cache.perform call = cache)
        ∧ ∀ one, cache.answer? call = some one →
          (∃ earlier insert later,
            Inserts empty (calls ++ [call]) earlier insert later (delimiters, one))
          ∧ ∀ earlier insert later between again other,
            Inserts empty (calls ++ [call]) earlier insert later (delimiters, one) →
            again.delimiters? = some delimiters →
            (cache.after (call :: between)).answer? again = some other →
            (one.serial = other.serial ↔ .clear ∉ later ++ between
              ∧ ∀ bound ∈ capacity,
                  ((empty.after (earlier ++ [insert])).insertions (later ++ between)).length
                    < bound) := by
  intro empty capacity cache recent
  have sound : Sound cache := (sound_limited limit).after calls
  have entries : cache.entries = latest capacity recent := entries_eq_latest limit calls
  have size : cache.size = admitted capacity recent.length := by
    rw [← length_latest, ← entries]
    rfl
  refine ⟨sound.distinct, entries, sound.compiled, size, ?_, fun call delimiters asked =>
    ⟨perform_of_present_or_refused asked, fun one answered => ⟨?_, ?_⟩⟩⟩
  · rw [isEmpty, List.isEmpty_iff, RegionCache.size, List.length_eq_zero_iff]
  · rcases entry_of_answer asked answered with old | new
    · obtain ⟨earlier, insert, later, split, inserted⟩ :=
        exists_inserts (entries_limited limit) old
      exact ⟨earlier, insert, later ++ [call], by simp [split], inserted⟩
    · exact ⟨calls, call, [], rfl, new⟩
  · rintro earlier insert later between again other ⟨split, inserted⟩ same found
    have joined : cache.after (call :: between)
        = (empty.after earlier).after (insert :: (later ++ between)) := by
      rw [← after_append, List.append_cons, split, List.append_assoc, List.cons_append,
        after_append]
    rw [joined] at found
    have again := ((sound_limited limit).after earlier).answer_again inserted same found
    rw [after_capacity, capacity_limited] at again
    rw [after_append]
    exact again

/-- In a cache of one entry a table is found once more, and made anew after other delimiters have
been asked for. -/
theorem window_of_calls_one :
    ∃ one other, ((limited (some 0)).after [.get .standard]).answer? (.tokenize .standard "a")
        = some one
      ∧ (((limited (some 0)).after [.get .standard]).after [.tokenize .standard "a",
          .get (Delimiters.standard.withTag "<%" "%>")]).answer? (.get .standard) = some other
      ∧ one.serial ≠ other.serial := by
  have standard : RegionTable.compile .standard = .ok (Template.regionTable .standard) :=
    Template.compile_eq_ok rfl
  have compiled : RegionTable.compile (Delimiters.standard.withTag "<%" "%>")
      = .ok (Template.regionTable (Delimiters.standard.withTag "<%" "%>")) :=
    Template.compile_eq_ok rfl
  have different : Delimiters.standard ≠ Delimiters.standard.withTag "<%" "%>" := by decide
  have inserted : (limited (some 0)).inserted? (.get .standard)
      = some (.standard, ⟨0, Template.regionTable .standard⟩) := by
    simp [inserted?, Call.delimiters?, find?, lookup, limited, withCapacity, standard,
      Except.toOption]
  have filled : (limited (some 0)).after [.get .standard]
      = ⟨some 1, [(.standard, ⟨0, Template.regionTable .standard⟩)], 1⟩ := by
    simp [after, perform, lookup, find?, limited, withCapacity, standard, insert, kept]
  have found : ((limited (some 0)).after [.get .standard]).answer? (.tokenize .standard "a")
      = some ⟨0, Template.regionTable .standard⟩ := by
    rw [filled]
    simp [answer?, Call.delimiters?, lookup, find?, Except.toOption]
  have anew : (((limited (some 0)).after [.get .standard]).after [.tokenize .standard "a",
        .get (Delimiters.standard.withTag "<%" "%>")]).answer? (.get .standard)
      = some ⟨2, Template.regionTable .standard⟩ := by
    rw [filled]
    simp [after, perform, answer?, Call.delimiters?, tokenize, lookup, find?, standard,
      compiled, different, different.symm, insert, kept, Except.toOption]
  have once : (((limited (some 0)).after [.get .standard]).insertions [.tokenize .standard "a",
      .get (Delimiters.standard.withTag "<%" "%>")]).length = 1 := by
    rw [filled]
    simp [perform, insertions, inserted?, Call.delimiters?, tokenize, lookup, find?,
      compiled, different, Except.toOption]
  obtain ⟨-, again⟩ := ((window_of_calls (some 0) [.get .standard]).2.2.2.2.2 _ _ rfl).2 _ found
  have same := again [] _ [.tokenize .standard "a"] _ _ _ ⟨rfl, inserted⟩ rfl anew
  refine ⟨_, _, found, anew, fun equal => ?_⟩
  have fewer := (same.1 equal).2 1 rfl
  rw [List.singleton_append, List.nil_append, once] at fewer
  exact Nat.lt_irrefl 1 fewer

end RegionCache

end LiquidTokens
