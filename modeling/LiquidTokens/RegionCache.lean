import LiquidTokens.Template.Stream

/-!
A cache of region tables by their delimiters. An entry stays until the cache is cleared or
room is needed for a new one; then the oldest entry goes, whether it was asked for in the
meantime or not.

Every table made gets a serial number, so that the answers of two lookups can be told
apart even when they were made of the same delimiters.

Main statements: `RegionCache.lookup_of_find?` (delimiters that are cached are not compiled
again) and `RegionCache.length_insert_le` (a new entry keeps a bounded cache within its
capacity).
-/

namespace LiquidTokens

open Template (RegionTable)

/-- A region table with the serial number it got when it was made. -/
structure SharedRegions where
  serial : Nat
  regions : RegionTable

/-- A cache of region tables. -/
structure RegionCache where
  /-- The greatest number of entries; none for a cache without a bound. -/
  capacity : Option Nat
  /-- The entries, the oldest first. -/
  entries : List (Delimiters × SharedRegions)
  /-- The number of tables made so far. -/
  made : Nat

namespace RegionCache

/-- An empty cache without a bound. -/
def unbounded : RegionCache :=
  ⟨none, [], 0⟩

/-- An empty cache of at most `capacity` entries, and of one entry at least. -/
def withCapacity (capacity : Nat) : RegionCache :=
  ⟨some (max capacity 1), [], 0⟩

/-- The number of entries. -/
def size (cache : RegionCache) : Nat :=
  cache.entries.length

/-- There are no entries. -/
def isEmpty (cache : RegionCache) : Bool :=
  cache.entries.isEmpty

/-- The cache without its entries. -/
def clear (cache : RegionCache) : RegionCache :=
  { cache with entries := [] }

/-- The entry of some delimiters. -/
def find? (cache : RegionCache) (delimiters : Delimiters) : Option SharedRegions :=
  (cache.entries.find? (·.1 == delimiters)).map Prod.snd

/-- The entries that stay when there has to be room for one more: all of them if there is
no bound, and else the latest, one fewer than the capacity. -/
def kept (cache : RegionCache) : List (Delimiters × SharedRegions) :=
  match cache.capacity with
  | none => cache.entries
  | some capacity => cache.entries.drop (cache.entries.length + 1 - capacity)

/-- A new entry, for which the oldest may have to go. -/
def insert (cache : RegionCache) (delimiters : Delimiters) (shared : SharedRegions) :
    RegionCache :=
  { cache with entries := cache.kept ++ [(delimiters, shared)], made := cache.made + 1 }

/-- The region table of some delimiters: the cached one, or else a new one, which is then
cached. Delimiters of which no table can be made leave the cache as it is. -/
def lookup (cache : RegionCache) (delimiters : Delimiters) :
    Except SetupError SharedRegions × RegionCache :=
  match cache.find? delimiters with
  | some shared => (.ok shared, cache)
  | none =>
      match RegionTable.compile delimiters with
      | .error error => (.error error, cache)
      | .ok regions =>
          let shared := ⟨cache.made, regions⟩
          (.ok shared, cache.insert delimiters shared)

/-- A stream of the tokens of a template, with the cached regions of some delimiters. -/
def tokenize (cache : RegionCache) (delimiters : Delimiters) (source : String) :
    Except SetupError Template.Stream × RegionCache :=
  let (found, after) := cache.lookup delimiters
  (found.map fun shared => Template.Stream.start shared.regions source, after)

/-- Delimiters that are cached are not compiled again. -/
theorem lookup_of_find? {cache : RegionCache} {delimiters : Delimiters}
    {shared : SharedRegions} (cached : cache.find? delimiters = some shared) :
    cache.lookup delimiters = (.ok shared, cache) := by
  simp [lookup, cached]

/-- A new entry keeps a bounded cache within its capacity. -/
theorem length_insert_le {cache : RegionCache} {capacity : Nat} (positive : 0 < capacity)
    (bound : cache.capacity = some capacity) (delimiters : Delimiters)
    (shared : SharedRegions) : (cache.insert delimiters shared).entries.length ≤ capacity := by
  simp only [insert, kept, bound, List.length_append, List.length_drop, List.length_singleton]
  omega

end RegionCache

end LiquidTokens
