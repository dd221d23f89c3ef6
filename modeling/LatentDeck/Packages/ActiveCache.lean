import LatentDeck.Library.SortedMap
import LatentDeck.Packages.Hashing
import Mathlib.Data.Finset.Insert
import Mathlib.Data.Finset.Lattice.Basic
import Mathlib.Data.Finset.Erase

/-!
# The cache of active packages

The cache retains the leases of a bounded working set of packages. Its operations are sections
under one lock: what each of them does to the entries, to their order of use, to the count of
handles and to the markers of the packages in a lifecycle call.
-/

namespace LatentDeck.Packages

variable {κ : Type} [LinearOrder κ]

def maxActiveCacheEntries : Nat := 16
/-- `SOFT_MAX_ACTIVE_CACHE_RETAINED_HANDLES`. -/
def softMaxRetainedHandles : Nat := 16384

/-- `ActiveInstalledPackage` — a lease, with the numbers that the cache reads of it. -/
structure ActiveLease where
  lease : Nat
  retainedHandleCount : Nat
  fullHashPasses : Nat
  counted : retainedHandleCount < 2 ^ 64
  deriving DecidableEq

structure CachedEntry where
  active : ActiveLease
  retainedHandles : Nat
  lastUsed : Nat

/-- `ActivePackageCacheStats`. -/
structure CacheStats where
  coldFullHashPasses : Nat
  persistentFastCheckouts : Nat
  cachedCheckouts : Nat
  capacityEvictions : Nat

/-- `CacheState`; the keys are those of a package under its roots. -/
structure CacheState (κ : Type) [LinearOrder κ] where
  entries : SortedMap κ CachedEntry
  busy : Finset κ
  stats : CacheStats
  retainedHandles : Nat
  recency : Nat

def requiresSoleEntry (retainedHandles : Nat) : Bool := retainedHandles > softMaxRetainedHandles

namespace CacheState

/-- `CacheState::default`. -/
def new : CacheState κ := ⟨.empty, ∅, ⟨0, 0, 0, 0⟩, 0, 0⟩

variable (state : CacheState κ)

def remove (key : κ) : CacheState κ :=
  match state.entries.lookup key with
  | none => state
  | some entry =>
      { state with
        entries := state.entries.erase key
        retainedHandles := state.retainedHandles - entry.retainedHandles }

def insertRetained (key : κ) (active : ActiveLease) (retainedHandles : Nat) : CacheState κ :=
  let recency := saturatingAdd state.recency 1
  { state with
    recency
    retainedHandles := saturatingAdd state.retainedHandles retainedHandles
    entries := state.entries.insert key ⟨active, retainedHandles, recency⟩ }

def counted (count : CacheStats → CacheStats) : CacheState κ :=
  { state with stats := count state.stats }

def evicted (evictions : Nat) : CacheState κ := state.counted fun stats =>
  { stats with capacityEvictions := saturatingAdd stats.capacityEvictions evictions }

/-- Counts passes over all the files of a package. -/
def passed (passes : Nat) : CacheState κ := state.counted fun stats =>
  { stats with coldFullHashPasses := saturatingAdd stats.coldFullHashPasses passes }

def evictAllForCapacity : CacheState κ :=
  { state.evicted state.entries.length with entries := .empty, retainedHandles := 0 }

/-- The entry that was used least recently; of several the one with the smallest key. -/
def leastRecent : Option (κ × CachedEntry) :=
  state.entries.entries.argmin fun entry => toLex (entry.2.lastUsed, entry.1)

/-- The eviction loop of `insert`, for at most so many entries. -/
def makeRoom (retainedHandles : Nat) : Nat → CacheState κ → CacheState κ
  | 0, state => state
  | fuel + 1, state =>
      if state.entries.length ≥ maxActiveCacheEntries ∨
          saturatingAdd state.retainedHandles retainedHandles > softMaxRetainedHandles then
        match state.leastRecent with
        | none => state
        | some entry => makeRoom retainedHandles fuel ((state.remove entry.1).evicted 1)
      else state

def insert (key : κ) (active : ActiveLease) : CacheState κ :=
  let retainedHandles := active.retainedHandleCount
  if (state.entries.lookup key).isNone ∧ ¬ requiresSoleEntry retainedHandles ∧
      state.retainedHandles > softMaxRetainedHandles then state
  else
    let removed := state.remove key
    if requiresSoleEntry retainedHandles then
      removed.evictAllForCapacity.insertRetained key active retainedHandles
    else
      (makeRoom retainedHandles removed.entries.length removed).insertRetained key active
        retainedHandles

/-- The first section of `resolve_active`, which returns the cached lease. -/
def beginResolve (key : κ) : Option ActiveLease × CacheState κ :=
  let recency := saturatingAdd state.recency 1
  let marked := { state with busy := {key} ∪ state.busy, recency }
  match state.entries.lookup key with
  | none => (none, marked)
  | some entry =>
      (some entry.active,
        { marked with entries := state.entries.insert key { entry with lastUsed := recency } })

/-- The last section of `resolve_active`, after a new lease or a revalidated one. -/
def finishResolve (key : κ) (resolvedNewEntry : Bool) (result : Except ErrorCode ActiveLease) :
    CacheState κ :=
  let released := { state with busy := state.busy.erase key }
  match result, resolvedNewEntry with
  | .ok active, true =>
      let stored := released.insert key active
      if active.fullHashPasses = 0 then
        stored.counted fun stats =>
          { stats with persistentFastCheckouts := saturatingAdd stats.persistentFastCheckouts 1 }
      else stored.passed active.fullHashPasses
  | .ok _, false => released.counted fun stats =>
      { stats with cachedCheckouts := saturatingAdd stats.cachedCheckouts 1 }
  | .error _, _ => released.remove key

/-- The first section of `enable_and_prime` and of `disable`. -/
def beginChange (key : κ) : CacheState κ :=
  CacheState.remove { state with busy := {key} ∪ state.busy } key

/-- The last section of `enable_and_prime`. -/
def finishEnable (key : κ) (result : Except ErrorCode ActiveLease) : CacheState κ :=
  let released := { state with busy := state.busy.erase key }
  match result with
  | .ok active =>
      (released.insert key active).passed active.fullHashPasses
  | .error _ => released

/-- The last section of `disable`. -/
def finishDisable (key : κ) : CacheState κ := { state with busy := state.busy.erase key }

/-- The section of `invalidate_all`. -/
def clear : CacheState κ := { state with entries := .empty, retainedHandles := 0 }

end CacheState

def handleSum (entries : SortedMap κ CachedEntry) : Nat :=
  (entries.entries.map fun entry => entry.2.retainedHandles).sum

theorem handleSum_erase {entries : SortedMap κ CachedEntry} {key : κ} {entry : CachedEntry}
    (found : entries.lookup key = some entry) :
    handleSum entries = entry.retainedHandles + handleSum (entries.erase key) :=
  ((entries.perm_erase found).map _).sum_eq

theorem handleSum_insert (entries : SortedMap κ CachedEntry) (key : κ) (entry : CachedEntry) :
    handleSum (entries.insert key entry) = entry.retainedHandles + handleSum (entries.erase key) :=
  ((entries.insert_perm key entry).map _).sum_eq

theorem saturatingAdd_one {value : Nat} (word : value < 2 ^ 64) :
    value ≤ saturatingAdd value 1 ∧ saturatingAdd value 1 < 2 ^ 64 ∧
      (value + 1 < 2 ^ 64 → value < saturatingAdd value 1) := by
  unfold saturatingAdd
  by_cases last : value + 1 < 2 ^ 64
  · rw [Nat.min_eq_left (by omega)]
    exact ⟨by omega, last, fun _ => by omega⟩
  · rw [Nat.min_eq_right (by omega)]
    exact ⟨by omega, by decide, fun inside => absurd inside last⟩

namespace CacheState

variable {state : CacheState κ} {key : κ}

/-- The count is that of the entries, and no entry was used later than now. -/
structure Accounted (state : CacheState κ) : Prop where
  handles : state.retainedHandles = handleSum state.entries
  stamped : ∀ entry ∈ state.entries.entries, entry.2.lastUsed ≤ state.recency
  word : state.recency < 2 ^ 64

/-- An accounted state of a bounded working set. -/
structure Sound (state : CacheState κ) : Prop extends Accounted state where
  few : state.entries.length ≤ maxActiveCacheEntries
  small : state.entries.length ≤ 1 ∨ state.retainedHandles ≤ softMaxRetainedHandles

theorem remove_entries (state : CacheState κ) (key : κ) :
    (state.remove key).entries = state.entries.erase key := by
  unfold remove
  split
  · rename_i absent
    exact (state.entries.erase_of_absent absent).symm
  · rfl

theorem remove_busy (state : CacheState κ) (key : κ) : (state.remove key).busy = state.busy := by
  unfold remove
  split <;> rfl

theorem remove_recency (state : CacheState κ) (key : κ) :
    (state.remove key).recency = state.recency := by
  unfold remove
  split <;> rfl

/-- A removal keeps the accounts and lowers the count. -/
theorem Accounted.remove (accounted : state.Accounted) (key : κ) :
    (state.remove key).Accounted ∧ (state.remove key).retainedHandles ≤ state.retainedHandles := by
  have stamped : ∀ entry ∈ (state.remove key).entries.entries,
      entry.2.lastUsed ≤ (state.remove key).recency := by
    intro entry inside
    rw [remove_entries, SortedMap.mem_erase] at inside
    rw [remove_recency]
    exact accounted.stamped entry inside.1
  have word : (state.remove key).recency < 2 ^ 64 := by
    rw [remove_recency]
    exact accounted.word
  have handles := accounted.handles
  cases found : state.entries.lookup key with
  | none =>
    have same : state.remove key = state := by rw [CacheState.remove, found]
    rw [same]
    exact ⟨accounted, Nat.le_refl _⟩
  | some entry =>
    have sum := handleSum_erase found
    have count : (state.remove key).retainedHandles =
        state.retainedHandles - entry.retainedHandles := by rw [CacheState.remove, found]
    refine ⟨⟨?_, stamped, word⟩, by omega⟩
    rw [count, remove_entries]
    omega

theorem Sound.remove (sound : state.Sound) (key : κ) : (state.remove key).Sound := by
  obtain ⟨accounted, fewer⟩ := sound.toAccounted.remove key
  have shorter : (state.remove key).entries.length ≤ state.entries.length := by
    rw [remove_entries]
    exact List.length_filter_le _ _
  have few := sound.few
  refine ⟨accounted, by omega, ?_⟩
  rcases sound.small with single | small
  · left
    omega
  · right
    omega

/-- A retained entry is accounted for, when the count does not overflow. -/
theorem Accounted.insertRetained (accounted : state.Accounted)
    (absent : state.entries.lookup key = none) (active : ActiveLease) (retainedHandles : Nat)
    (fits : state.retainedHandles + retainedHandles < 2 ^ 64) :
    (state.insertRetained key active retainedHandles).Accounted ∧
      (state.insertRetained key active retainedHandles).retainedHandles =
        state.retainedHandles + retainedHandles ∧
      (state.insertRetained key active retainedHandles).entries.length =
        state.entries.length + 1 := by
  have erased := state.entries.erase_of_absent absent
  have count : saturatingAdd state.retainedHandles retainedHandles =
      state.retainedHandles + retainedHandles := by
    unfold saturatingAdd
    omega
  have later := saturatingAdd_one accounted.word
  refine ⟨⟨?_, ?_, later.2.1⟩, count, ?_⟩
  · dsimp only [CacheState.insertRetained]
    rw [count, handleSum_insert, erased, accounted.handles, Nat.add_comm]
  · intro entry inside
    rcases (state.entries.mem_insert ..).mp inside with same | kept
    · rw [same]
      exact Nat.le_refl _
    · exact (accounted.stamped entry kept.1).trans later.1
  · have entries := (state.entries.insert_perm key
      ⟨active, retainedHandles, saturatingAdd state.recency 1⟩).length_eq
    rw [erased, List.length_cons] at entries
    exact entries

/-- What is left after evictions: entries of before, none of them used earlier than one that is
gone. -/
structure Evicts (before after : CacheState κ) : Prop where
  kept : ∀ entry ∈ after.entries.entries, entry ∈ before.entries.entries
  earlier : ∀ gone ∈ before.entries.entries, gone ∉ after.entries.entries →
    ∀ left ∈ after.entries.entries, gone.2.lastUsed ≤ left.2.lastUsed
  busy : after.busy = before.busy
  recency : after.recency = before.recency

/-- The eviction loop makes room for an entry that is not too large. -/
theorem makeRoom_evicts (retainedHandles : Nat) (small : retainedHandles ≤ softMaxRetainedHandles)
    (fuel : Nat) (state : CacheState κ) (accounted : state.Accounted)
    (enough : state.entries.length ≤ fuel) :
    (makeRoom retainedHandles fuel state).Accounted ∧
      Evicts state (makeRoom retainedHandles fuel state) ∧
      (makeRoom retainedHandles fuel state).entries.length < maxActiveCacheEntries ∧
      (makeRoom retainedHandles fuel state).retainedHandles + retainedHandles ≤
        softMaxRetainedHandles := by
  have unchanged : Evicts state state :=
    ⟨fun _ inside => inside, fun _ inside gone => absurd inside gone, rfl, rfl⟩
  have vacant : state.entries.entries = [] → state.retainedHandles = 0 := by
    intro empty
    rw [accounted.handles, handleSum, empty]
    rfl
  have limit : softMaxRetainedHandles = 16384 := rfl
  have most : maxActiveCacheEntries = 16 := rfl
  induction fuel generalizing state with
  | zero =>
    have empty := List.length_eq_zero_iff.mp (Nat.le_zero.mp enough)
    have nothing := vacant empty
    have none : state.entries.length = 0 := Nat.le_zero.mp enough
    exact ⟨accounted, unchanged, by rw [makeRoom]; omega, by rw [makeRoom]; omega⟩
  | succ fuel ih =>
    rw [makeRoom]
    split
    · rename_i full
      cases found : state.leastRecent with
      | none =>
        have empty : state.entries.entries = [] := List.argmin_eq_none.mp found
        have nothing := vacant empty
        have none : state.entries.length = 0 := congrArg List.length empty
        exact ⟨accounted, unchanged, by dsimp only; omega, by dsimp only; omega⟩
      | some entry =>
        have inside : entry ∈ state.entries.entries := List.argmin_mem found
        have least : ∀ other ∈ state.entries.entries, entry.2.lastUsed ≤ other.2.lastUsed := by
          intro other there
          have smallest := List.le_of_mem_argmin there found
          rcases Prod.Lex.toLex_le_toLex.mp smallest with less | same
          · exact less.le
          · exact same.1.le
        have held : state.entries.lookup entry.1 = some entry.2 :=
          (SortedMap.lookup_eq_some ..).mpr inside
        have removed : ((state.remove entry.1).evicted 1).Accounted := by
          obtain ⟨handles, stamped, word⟩ := (accounted.remove entry.1).1
          exact ⟨handles, stamped, word⟩
        have erased : ((state.remove entry.1).evicted 1).entries = state.entries.erase entry.1 :=
          state.remove_entries entry.1
        have shorter : ((state.remove entry.1).evicted 1).entries.length ≤ fuel := by
          have counted := (state.entries.perm_erase held).length_eq
          have whole : state.entries.entries.length ≤ fuel + 1 := enough
          rw [List.length_cons] at counted
          rw [erased]
          show (state.entries.erase entry.1).entries.length ≤ fuel
          omega
        obtain ⟨after, evicts, few, room⟩ := ih _ removed shorter
          ⟨fun _ inside => inside, fun _ inside gone => absurd inside gone, rfl, rfl⟩ (by
            intro empty
            rw [removed.handles, handleSum, empty]
            rfl)
        refine ⟨after, ⟨?_, ?_, ?_, ?_⟩, few, room⟩
        · intro other there
          have among := evicts.kept other there
          rw [erased, SortedMap.mem_erase] at among
          exact among.1
        · intro gone there lost left stays
          by_cases first : gone.1 = entry.1
          · rw [state.entries.entry_unique gone entry there inside first]
            have among := evicts.kept left stays
            rw [erased, SortedMap.mem_erase] at among
            exact least left among.1
          · refine evicts.earlier gone ?_ lost left stays
            rw [erased, SortedMap.mem_erase]
            exact ⟨there, first⟩
        · exact evicts.busy.trans (state.remove_busy entry.1)
        · exact evicts.recency.trans (state.remove_recency entry.1)
    · rename_i fits
      rw [not_or, Nat.not_le] at fits
      have room : state.retainedHandles + retainedHandles ≤ softMaxRetainedHandles := by
        have bounded := fits.2
        unfold saturatingAdd at bounded
        omega
      exact ⟨accounted, unchanged, fits.1, room⟩

/-- What a section that may store one key makes of the state: the working set stays bounded, entries
used earlier go first, and the stored one is the last used. -/
structure Stores (before after : CacheState κ) (key : κ) : Prop where
  sound : after.Sound
  kept : ∀ entry ∈ after.entries.entries, entry.1 = key ∨ entry ∈ before.entries.entries
  earlier : ∀ gone ∈ before.entries.entries, gone.1 ≠ key → gone ∉ after.entries.entries →
    ∀ left ∈ after.entries.entries, left.1 ≠ key → gone.2.lastUsed ≤ left.2.lastUsed
  last : ∀ entry ∈ after.entries.entries, entry.1 = key →
    ∀ other ∈ after.entries.entries, other.1 ≠ key → other.2.lastUsed ≤ entry.2.lastUsed ∧
      (before.recency + 1 < 2 ^ 64 → other.2.lastUsed < entry.2.lastUsed)
  busy : after.busy = before.busy

/-- An entry that is retained after evictions is stored. -/
theorem stores_of_evicts {removed room : CacheState κ} {active : ActiveLease}
    {retainedHandles : Nat} (accounted : state.Accounted) (gone : state.remove key = removed)
    (kept : room.Accounted) (evicts : Evicts removed room)
    (fits : room.retainedHandles + retainedHandles < 2 ^ 64)
    (few : room.entries.length < maxActiveCacheEntries) (small : room.entries.length = 0 ∨
      room.retainedHandles + retainedHandles ≤ softMaxRetainedHandles) :
    Stores state (room.insertRetained key active retainedHandles) key := by
  have erased : removed.entries = state.entries.erase key := by rw [← gone, remove_entries]
  have recency : room.recency = state.recency := by
    rw [evicts.recency, ← gone, remove_recency]
  have among : ∀ entry ∈ room.entries.entries, entry ∈ state.entries.entries ∧ entry.1 ≠ key := by
    intro entry inside
    have before := evicts.kept entry inside
    rwa [erased, SortedMap.mem_erase] at before
  have absent : room.entries.lookup key = none := by
    rw [SortedMap.lookup_eq_none]
    intro there
    obtain ⟨entry, inside, same⟩ := List.mem_map.mp there
    exact (among entry inside).2 same
  obtain ⟨stored, handles, length⟩ := kept.insertRetained absent active retainedHandles fits
  have members : ∀ entry ∈ (room.insertRetained key active retainedHandles).entries.entries,
      entry = (key, ⟨active, retainedHandles, saturatingAdd room.recency 1⟩) ∨
        entry ∈ room.entries.entries ∧ entry.1 ≠ key :=
    fun entry inside => (room.entries.mem_insert ..).mp inside
  refine ⟨⟨stored, by omega, by omega⟩, ?_, ?_, ?_, ?_⟩
  · intro entry inside
    rcases members entry inside with same | other
    · exact .inl (congrArg Prod.fst same)
    · exact .inr (among entry other.1).1
  · intro lost there other missing left stays different
    have before : lost ∈ removed.entries.entries := by
      rw [erased, SortedMap.mem_erase]
      exact ⟨there, other⟩
    have without : lost ∉ room.entries.entries :=
      fun inside => missing ((room.entries.mem_insert ..).mpr (.inr ⟨inside, other⟩))
    rcases members left stays with same | inside
    · exact absurd (congrArg Prod.fst same) different
    · exact evicts.earlier lost before without left inside.1
  · intro entry inside same other there different
    have stamp : entry.2.lastUsed = saturatingAdd state.recency 1 := by
      rcases members entry inside with exact | other
      · rw [exact, recency]
      · exact absurd same other.2
    rcases members other there with exact | inside
    · exact absurd (congrArg Prod.fst exact) different
    · have stamped := accounted.stamped other (among other inside.1).1
      obtain ⟨later, _, moves⟩ := saturatingAdd_one accounted.word
      rw [stamp]
      exact ⟨stamped.trans later, fun word => Nat.lt_of_le_of_lt stamped (moves word)⟩
  · exact evicts.busy.trans (by rw [← gone, remove_busy])

/-- An insertion stores the package, unless it is small and the only entry is a large one. -/
theorem insert_stores (sound : state.Sound) (key : κ) (active : ActiveLease) :
    Stores state (state.insert key active) key := by
  unfold insert
  dsimp only
  split
  · rename_i refused
    have absent := Option.isNone_iff_eq_none.mp refused.1
    rw [SortedMap.lookup_eq_none] at absent
    refine ⟨sound, fun entry inside => .inr inside, fun gone there _ lost => absurd there lost,
      fun entry inside same => absurd ?_ absent, rfl⟩
    exact List.mem_map.mpr ⟨entry, inside, same⟩
  · have removed := (sound.toAccounted.remove key).1
    split
    · have empty : (state.remove key).evictAllForCapacity.Accounted :=
        ⟨rfl, nofun, removed.word⟩
      refine stores_of_evicts sound.toAccounted rfl empty
        ⟨nofun, nofun, rfl, rfl⟩ ?_ ?_
        (.inl rfl)
      · have counted := active.counted
        show 0 + active.retainedHandleCount < 2 ^ 64
        omega
      · show 0 < maxActiveCacheEntries
        decide
    · rename_i shared
      have small : active.retainedHandleCount ≤ softMaxRetainedHandles := by
        rw [requiresSoleEntry, decide_eq_true_eq] at shared
        omega
      obtain ⟨kept, evicts, few, room⟩ := makeRoom_evicts _ small _ _ removed (Nat.le_refl _)
      have limit : softMaxRetainedHandles = 16384 := rfl
      exact stores_of_evicts sound.toAccounted rfl kept evicts (by omega) few (.inr room)

end CacheState

namespace CacheState

variable {before after : CacheState κ} {state : CacheState κ}

/-- What a section does to the entries: only the stored one appears, for it those used earlier go
first, and what appears or is looked up is the last used. -/
structure Turn (before after : CacheState κ) (stored used : Option κ) : Prop where
  sound : after.Sound
  appears : ∀ key, after.entries.lookup key ≠ none →
    before.entries.lookup key ≠ none ∨ stored = some key
  earlier : ∀ key, stored = some key → ∀ gone ∈ before.entries.entries, gone.1 ≠ key →
    gone ∉ after.entries.entries →
      ∀ left ∈ after.entries.entries, left.1 ≠ key → gone.2.lastUsed ≤ left.2.lastUsed
  last : ∀ key, used = some key ∨ before.entries.lookup key = none →
    ∀ entry ∈ after.entries.entries, entry.1 = key →
      ∀ other ∈ after.entries.entries, other.1 ≠ key → other.2.lastUsed ≤ entry.2.lastUsed ∧
        (before.recency + 1 < 2 ^ 64 → other.2.lastUsed < entry.2.lastUsed)

theorem lookup_of_mem {entries : SortedMap κ CachedEntry} {entry : κ × CachedEntry} {key : κ}
    (inside : entry ∈ entries.entries) (named : entry.1 = key) : entries.lookup key ≠ none := by
  rw [← named, (SortedMap.lookup_eq_some ..).mpr inside]
  exact Option.some_ne_none entry.2

theorem turn_of_fewer (sound : after.Sound)
    (fewer : ∀ key, after.entries.lookup key ≠ none → before.entries.lookup key ≠ none) :
    Turn before after none none where
  sound := sound
  appears key there := .inl (fewer key there)
  earlier := nofun
  last key fresh entry inside named := by
    rcases fresh with never | fresh
    · exact nomatch never
    · exact absurd fresh (fewer key (lookup_of_mem inside named))

theorem remove_turn (sound : state.Sound) (key : κ) : Turn state (state.remove key) none none := by
  refine turn_of_fewer (sound.remove key) fun other there => ?_
  rw [remove_entries] at there
  by_cases same : other = key
  · rw [same, SortedMap.lookup_erase_self] at there
    exact absurd rfl there
  · rwa [SortedMap.lookup_erase_of_ne _ _ _ same] at there

theorem insert_turn (sound : state.Sound) (key : κ) (active : ActiveLease) :
    Turn state (state.insert key active) (some key) none := by
  have stores := insert_stores sound key active
  refine ⟨stores.sound, fun other there => ?_, fun _ same => Option.some.inj same ▸ stores.earlier,
    fun other fresh entry inside named => ?_⟩
  · obtain ⟨entry, found⟩ := Option.ne_none_iff_exists'.mp there
    rcases stores.kept _ ((SortedMap.lookup_eq_some ..).mp found) with same | inside
    · exact .inr (congrArg some same.symm)
    · exact .inl (lookup_of_mem inside rfl)
  · rcases fresh with never | fresh
    · exact nomatch never
    · rcases stores.kept entry inside with same | before
      · rw [← named, same]
        exact stores.last entry inside same
      · exact absurd fresh (lookup_of_mem before named)

theorem clear_turn (sound : state.Sound) : Turn state state.clear none none :=
  turn_of_fewer ⟨⟨rfl, nofun, sound.word⟩, Nat.zero_le _,
    .inl (Nat.zero_le _)⟩ fun _ there => absurd rfl there

theorem Turn.unmarked {stored used : Option κ} {busy marks : Finset κ} {stats : CacheStats}
    (turn : Turn { before with busy := marks } after stored used) :
    Turn before { after with busy, stats } stored used where
  sound := ⟨⟨turn.sound.handles, turn.sound.stamped, turn.sound.word⟩, turn.sound.few,
    turn.sound.small⟩
  appears := turn.appears
  earlier := turn.earlier
  last := turn.last

section

variable (sound : state.Sound)

include sound

/-- The first section of `resolve_active` looks its package up. -/
theorem beginResolve_turn (key : κ) :
    Turn state (state.beginResolve key).2 none (some key) ∧
      (state.beginResolve key).2.busy = {key} ∪ state.busy := by
  obtain ⟨later, word, moves⟩ := saturatingAdd_one sound.word
  unfold beginResolve
  dsimp only
  split
  · rename_i absent
    rw [SortedMap.lookup_eq_none] at absent
    refine ⟨⟨⟨⟨sound.handles, fun entry inside => (sound.stamped entry inside).trans later, word⟩,
      sound.few, sound.small⟩, fun _ there => .inl there, nofun,
      fun other fresh entry inside named => ?_⟩, rfl⟩
    rcases fresh with same | fresh
    · rw [← Option.some.inj same] at named
      exact absurd (List.mem_map.mpr ⟨entry, inside, named⟩) absent
    · exact absurd fresh (lookup_of_mem inside named)
  · rename_i entry found
    have members := state.entries.mem_insert key
      { entry with lastUsed := saturatingAdd state.recency 1 }
    have length := (state.entries.insert_perm key
      { entry with lastUsed := saturatingAdd state.recency 1 }).length_eq.trans
        (state.entries.perm_erase found).length_eq.symm
    have sum := (handleSum_insert state.entries key
      { entry with lastUsed := saturatingAdd state.recency 1 }).trans (handleSum_erase found).symm
    refine ⟨⟨⟨⟨sound.handles.trans sum.symm, ?_, word⟩, length.trans_le sound.few, ?_⟩, ?_, nofun,
      ?_⟩, rfl⟩
    · intro other inside
      rcases (members other).mp inside with same | kept
      · rw [same]
      · exact (sound.stamped other kept.1).trans later
    · exact sound.small.imp length.trans_le id
    · intro other there
      left
      dsimp only at there
      rw [SortedMap.lookup_insert] at there
      split at there
      · rename_i same
        rw [same, found]
        exact Option.some_ne_none entry
      · exact there
    · intro used fresh touched inside named other there different
      rcases (members touched).mp inside with exact | kept
      · rw [exact] at named
        rcases (members other).mp there with same | others
        · exact absurd ((congrArg Prod.fst same).trans named) different
        · have stamped := sound.stamped other others.1
          rw [exact]
          exact ⟨stamped.trans later, fun word => Nat.lt_of_le_of_lt stamped (moves word)⟩
      · rcases fresh with same | fresh
        · exact absurd (named.trans (Option.some.inj same).symm) kept.2
        · exact absurd fresh (lookup_of_mem kept.1 named)

theorem Sound.marked (busy : Finset κ) : CacheState.Sound { state with busy } :=
  ⟨⟨sound.handles, sound.stamped, sound.word⟩, sound.few, sound.small⟩

theorem beginChange_turn (key : κ) :
    Turn state (state.beginChange key) none none ∧
      (state.beginChange key).busy = {key} ∪ state.busy ∧
      (state.beginChange key).entries.lookup key = none := by
  refine ⟨(remove_turn (sound.marked _) key).unmarked, remove_busy _ _, ?_⟩
  rw [beginChange, remove_entries]
  exact SortedMap.lookup_erase_self _ _

theorem release_turn (key : κ) (stored : Option κ) (stats : CacheStats) :
    Turn state { state with busy := state.busy.erase key, stats } stored none where
  sound := ⟨⟨sound.handles, sound.stamped, sound.word⟩, sound.few, sound.small⟩
  appears _ there := .inl there
  earlier _ _ _ there _ lost := absurd there lost
  last := (turn_of_fewer sound fun _ there => there).last

def stored (key : κ) (result : Except ErrorCode ActiveLease) : Option κ :=
  result.toOption.map fun _ => key

/-- The last section of `resolve_active` releases the marker; after an error nothing is cached. -/
theorem finishResolve_turn (key : κ) (new : Bool) (result : Except ErrorCode ActiveLease) :
    Turn state (state.finishResolve key new result) (stored key result) none ∧
      (state.finishResolve key new result).busy = state.busy.erase key ∧
      (stored key result = none →
        (state.finishResolve key new result).entries.lookup key = none) := by
  have released := sound.marked (state.busy.erase key)
  cases result with
  | error code =>
    refine ⟨(remove_turn released key).unmarked, remove_busy _ _, fun _ => ?_⟩
    show (CacheState.remove _ key).entries.lookup key = none
    rw [remove_entries]
    exact SortedMap.lookup_erase_self _ _
  | ok active =>
    have inserted := insert_turn released key active
    have busy := (insert_stores released key active).busy
    cases new with
    | false => exact ⟨release_turn sound key _ _, rfl, nofun⟩
    | true =>
      unfold finishResolve
      dsimp only
      split
      · exact ⟨inserted.unmarked, busy, nofun⟩
      · exact ⟨inserted.unmarked, busy, nofun⟩

/-- The last section of `enable_and_prime` releases the marker. -/
theorem finishEnable_turn (key : κ) (result : Except ErrorCode ActiveLease) :
    Turn state (state.finishEnable key result) (stored key result) none ∧
      (state.finishEnable key result).busy = state.busy.erase key := by
  have released := sound.marked (state.busy.erase key)
  cases result with
  | error code => exact ⟨release_turn sound key _ _, rfl⟩
  | ok active =>
    exact ⟨(insert_turn released key active).unmarked, (insert_stores released key active).busy⟩

end

end CacheState

end LatentDeck.Packages
