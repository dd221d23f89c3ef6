import LatentDeck.Library.Fallible
import Mathlib.Order.Lattice

/-!
# Maps sorted by their keys

A map lists its entries in the strict order of their keys, so two maps with the same entries are
equal and an iteration visits the keys in that order.
-/

namespace LatentDeck

/-- A map whose entries stand in the strict order of their keys. -/
@[ext]
structure SortedMap (κ α : Type) [LinearOrder κ] where
  entries : List (κ × α)
  sorted : (entries.map Prod.fst).Pairwise (· < ·)

namespace SortedMap

open Fallible

variable {κ α β ε : Type} [LinearOrder κ]

instance [DecidableEq α] : DecidableEq (SortedMap κ α) :=
  fun _ _ => decidable_of_iff _ SortedMap.ext_iff.symm

def empty : SortedMap κ α where
  entries := []
  sorted := List.Pairwise.nil

def lookup (map : SortedMap κ α) (key : κ) : Option α :=
  (map.entries.find? fun entry => entry.1 = key).map Prod.snd

def values (map : SortedMap κ α) : List α := map.entries.map Prod.snd

def keys (map : SortedMap κ α) : List κ := map.entries.map Prod.fst

def length (map : SortedMap κ α) : Nat := map.entries.length

def insertEntry (key : κ) (value : α) : List (κ × α) → List (κ × α)
  | [] => [(key, value)]
  | entry :: entries =>
      if key < entry.1 then (key, value) :: entry :: entries
      else if key = entry.1 then (key, value) :: entries
      else entry :: insertEntry key value entries

theorem mem_insertEntry (key other : κ) (value : α) (entries : List (κ × α))
    (inside : other ∈ (insertEntry key value entries).map Prod.fst) :
    other = key ∨ other ∈ entries.map Prod.fst := by
  induction entries with
  | nil => simpa [insertEntry] using inside
  | cons entry entries ih =>
    rw [insertEntry] at inside
    by_cases below : key < entry.1
    · simpa [below] using inside
    · by_cases same : key = entry.1
      · rw [if_neg below, if_pos same, List.map_cons, List.mem_cons] at inside
        exact inside.imp id (List.mem_cons_of_mem _)
      · rw [if_neg below, if_neg same, List.map_cons, List.mem_cons] at inside
        rw [List.map_cons, List.mem_cons]
        rcases inside with first | later
        · exact .inr (.inl first)
        · exact (ih later).imp id .inr

theorem insertEntry_sorted (key : κ) (value : α) (entries : List (κ × α))
    (sorted : (entries.map Prod.fst).Pairwise (· < ·)) :
    ((insertEntry key value entries).map Prod.fst).Pairwise (· < ·) := by
  induction entries with
  | nil => simp [insertEntry]
  | cons entry entries ih =>
    rw [List.map_cons, List.pairwise_cons] at sorted
    rw [insertEntry]
    by_cases below : key < entry.1
    · rw [if_pos below, List.map_cons, List.map_cons, List.pairwise_cons, List.pairwise_cons]
      refine ⟨fun other inside => ?_, sorted⟩
      rcases List.mem_cons.mp inside with first | later
      · exact first ▸ below
      · exact below.trans (sorted.1 other later)
    · by_cases same : key = entry.1
      · rw [if_neg below, if_pos same, List.map_cons, List.pairwise_cons]
        exact ⟨fun other inside => same ▸ sorted.1 other inside, sorted.2⟩
      · rw [if_neg below, if_neg same, List.map_cons, List.pairwise_cons]
        refine ⟨fun other inside => ?_, ih sorted.2⟩
        rcases mem_insertEntry key other value entries inside with first | later
        · exact first ▸ lt_of_le_of_ne (not_lt.mp below) (Ne.symm same)
        · exact sorted.1 other later

def insert (map : SortedMap κ α) (key : κ) (value : α) : SortedMap κ α where
  entries := insertEntry key value map.entries
  sorted := insertEntry_sorted key value map.entries map.sorted

def erase (map : SortedMap κ α) (key : κ) : SortedMap κ α where
  entries := map.entries.filter fun entry => entry.1 ≠ key
  sorted := map.sorted.sublist (List.filter_sublist.map Prod.fst)

variable (map : SortedMap κ α)

theorem entry_unique (first second : κ × α) (inside : first ∈ map.entries)
    (other : second ∈ map.entries) (same : first.1 = second.1) : first = second := by
  obtain ⟨entries, sorted⟩ := map
  change first ∈ entries at inside
  change second ∈ entries at other
  induction entries with
  | nil => exact absurd inside (List.not_mem_nil)
  | cons entry entries ih =>
    rw [List.map_cons, List.pairwise_cons] at sorted
    rcases List.mem_cons.mp inside with here | later <;>
      rcases List.mem_cons.mp other with there | after
    · rw [here, there]
    · have below := sorted.1 second.1 (List.mem_map_of_mem after)
      rw [← here, same] at below
      exact absurd below (lt_irrefl _)
    · have below := sorted.1 first.1 (List.mem_map_of_mem later)
      rw [← there, same] at below
      exact absurd below (lt_irrefl _)
    · exact ih sorted.2 later after

theorem lookup_eq_some (key : κ) (value : α) :
    map.lookup key = some value ↔ (key, value) ∈ map.entries := by
  rw [lookup, Option.map_eq_some_iff]
  constructor
  · rintro ⟨entry, found, rfl⟩
    have same := List.find?_some found
    simp only [decide_eq_true_eq] at same
    rw [← same]
    exact List.mem_of_find?_eq_some found
  · intro inside
    cases found : map.entries.find? fun entry => entry.1 = key with
    | none =>
      have absent := List.find?_eq_none.mp found (key, value) inside
      simp at absent
    | some entry =>
      have same := List.find?_some found
      simp only [decide_eq_true_eq] at same
      refine ⟨entry, rfl, ?_⟩
      rw [map.entry_unique entry (key, value) (List.mem_of_find?_eq_some found) inside same]

theorem lookup_eq_none (key : κ) : map.lookup key = none ↔ key ∉ map.keys := by
  rw [lookup, Option.map_eq_none_iff, List.find?_eq_none, keys, List.mem_map]
  constructor
  · rintro absent ⟨entry, inside, same⟩
    exact absent entry inside (by simpa using same)
  · intro absent entry inside same
    exact absent ⟨entry, inside, by simpa using same⟩

theorem lookup_insert (key other : κ) (value : α) :
    (map.insert key value).lookup other =
      if other = key then some value else map.lookup other := by
  show ((insertEntry key value map.entries).find? fun entry => entry.1 = other).map Prod.snd = _
  unfold lookup
  induction map.entries with
  | nil =>
    by_cases same : other = key
    · simp [insertEntry, same]
    · simp [insertEntry, same, Ne.symm same]
  | cons entry entries ih =>
    by_cases below : key < entry.1
    · rw [insertEntry, if_pos below, List.find?_cons]
      by_cases same : other = key
      · simp [same]
      · simp [same, Ne.symm same]
    · by_cases here : key = entry.1
      · rw [insertEntry, if_neg below, if_pos here, List.find?_cons, List.find?_cons, ← here]
        by_cases same : other = key
        · simp [same]
        · simp [same, Ne.symm same]
      · rw [insertEntry, if_neg below, if_neg here, List.find?_cons, List.find?_cons]
        by_cases first : entry.1 = other
        · have later : ¬ other = key := fun same => here (same.symm.trans first.symm)
          simp [first, later]
        · simpa [first] using ih

theorem insertEntry_perm {key : κ} {value : α} {entries : List (κ × α)}
    (absent : key ∉ entries.map Prod.fst) :
    (insertEntry key value entries).Perm ((key, value) :: entries) := by
  induction entries with
  | nil => rfl
  | cons entry entries ih =>
    rw [List.map_cons, List.mem_cons, not_or] at absent
    rw [insertEntry]
    by_cases below : key < entry.1
    · rw [if_pos below]
    · rw [if_neg below, if_neg absent.1]
      exact ((ih absent.2).cons entry).trans (List.Perm.swap (key, value) entry entries)

theorem foldl_insert_perm (key : β → κ) (value : β → α) {items : List β} {map : SortedMap κ α}
    (distinct : (items.map key).Nodup) (absent : ∀ item ∈ items, key item ∉ map.keys) :
    (items.foldl (fun map item => map.insert (key item) (value item)) map).entries.Perm
      (items.map (fun item => (key item, value item)) ++ map.entries) := by
  induction items generalizing map with
  | nil => rfl
  | cons item items ih =>
    rw [List.map_cons, List.nodup_cons] at distinct
    have inserted : (map.insert (key item) (value item)).entries.Perm
        ((key item, value item) :: map.entries) :=
      insertEntry_perm (absent item List.mem_cons_self)
    have apart : ∀ other ∈ items, key other ∉ (map.insert (key item) (value item)).keys := by
      intro other among within
      have keys := (inserted.map Prod.fst).mem_iff.mp within
      rw [List.map_cons, List.mem_cons] at keys
      rcases keys with same | earlier
      · have shared : key other = key item := same
        exact distinct.1 (shared ▸ List.mem_map_of_mem among)
      · exact absent other (List.mem_cons_of_mem item among) earlier
    rw [List.foldl_cons, List.map_cons, List.cons_append]
    exact (ih distinct.2 apart).trans ((inserted.append_left _).trans List.perm_middle)

theorem mem_erase (key : κ) (entry : κ × α) :
    entry ∈ (map.erase key).entries ↔ entry ∈ map.entries ∧ entry.1 ≠ key := by
  change entry ∈ map.entries.filter _ ↔ _
  rw [List.mem_filter, decide_eq_true_eq]

theorem lookup_erase_of_ne (key other : κ) (different : other ≠ key) :
    (map.erase key).lookup other = map.lookup other := by
  rw [Option.ext_iff]
  intro value
  rw [lookup_eq_some, lookup_eq_some, mem_erase]
  exact and_iff_left different

theorem entries_nodup : map.entries.Nodup := by
  have keys : (map.entries.map Prod.fst).Nodup := map.sorted.imp ne_of_lt
  exact List.Pairwise.of_map Prod.fst (fun _ _ different same => different (congrArg _ same)) keys

theorem lookup_erase_self (key : κ) : (map.erase key).lookup key = none := by
  rw [lookup_eq_none, keys, List.mem_map]
  intro there
  obtain ⟨entry, inside, same⟩ := there
  exact ((mem_erase ..).mp inside).2 same

theorem erase_of_absent {key : κ} (absent : map.lookup key = none) : map.erase key = map := by
  rw [lookup_eq_none] at absent
  ext1
  refine List.filter_eq_self.mpr fun entry inside => decide_eq_true fun same => absent ?_
  exact List.mem_map.mpr ⟨entry, inside, same⟩

theorem mem_insert (key : κ) (value : α) (entry : κ × α) :
    entry ∈ (map.insert key value).entries ↔
      entry = (key, value) ∨ entry ∈ map.entries ∧ entry.1 ≠ key := by
  obtain ⟨other, held⟩ := entry
  rw [← lookup_eq_some, ← lookup_eq_some, lookup_insert]
  by_cases same : other = key
  · simp [same, eq_comm]
  · simp [same]

theorem insert_perm (key : κ) (value : α) :
    (map.insert key value).entries.Perm ((key, value) :: (map.erase key).entries) := by
  have distinct : ((key, value) :: (map.erase key).entries).Nodup :=
    List.nodup_cons.mpr ⟨fun inside => ((mem_erase ..).mp inside).2 rfl, entries_nodup _⟩
  refine (List.perm_ext_iff_of_nodup (entries_nodup _) distinct).mpr fun entry => ?_
  rw [mem_insert, List.mem_cons, mem_erase]

theorem perm_erase {key : κ} {value : α} (found : map.lookup key = some value) :
    map.entries.Perm ((key, value) :: (map.erase key).entries) := by
  have distinct : ((key, value) :: (map.erase key).entries).Nodup :=
    List.nodup_cons.mpr ⟨fun inside => ((mem_erase ..).mp inside).2 rfl, entries_nodup _⟩
  rw [lookup_eq_some] at found
  refine (List.perm_ext_iff_of_nodup (entries_nodup _) distinct).mpr fun entry => ?_
  rw [List.mem_cons, mem_erase]
  constructor
  · intro inside
    by_cases same : entry.1 = key
    · exact .inl (map.entry_unique entry _ inside found same)
    · exact .inr ⟨inside, same⟩
  · intro either
    rcases either with same | other
    · exact same ▸ found
    · exact other.1

theorem values_perm (entries : List (κ × α)) (distinct : entries.Nodup)
    (same : ∀ entry, entry ∈ map.entries ↔ entry ∈ entries) :
    map.values.Perm (entries.map Prod.snd) :=
  ((List.perm_ext_iff_of_nodup map.entries_nodup distinct).mpr same).map Prod.snd

/-- Computes a result for each entry, in order, and stops at the first error. -/
def traverseEntries (compute : κ → α → Except ε β) : List (κ × α) → Except ε (List (κ × β))
  | [] => .ok []
  | (key, value) :: entries => do
      let result ← compute key value
      let results ← traverseEntries compute entries
      return (key, result) :: results

omit [LinearOrder κ] in
/-- The results stand under the keys of their entries. -/
theorem traverseEntries_eq_ok (compute : κ → α → Except ε β) (entries : List (κ × α))
    (results : List (κ × β)) :
    traverseEntries compute entries = .ok results ↔
      List.Forall₂ (fun entry result => result.1 = entry.1 ∧
        compute entry.1 entry.2 = .ok result.2) entries results := by
  induction entries generalizing results with
  | nil =>
    rw [traverseEntries, List.forall₂_nil_left_iff]
    exact ⟨fun same => (Except.ok.inj same).symm, fun same => congrArg _ same.symm⟩
  | cons entry entries ih =>
    rw [traverseEntries, bind_eq_ok, List.forall₂_cons_left_iff]
    constructor
    · rintro ⟨value, computed, rest⟩
      obtain ⟨others, traversed, same⟩ := ok_of_bind rest
      exact ⟨(entry.1, value), others, ⟨rfl, computed⟩, (ih others).mp traversed,
        (Except.ok.inj same).symm⟩
    · rintro ⟨⟨key, value⟩, others, ⟨same, computed⟩, related, rfl⟩
      refine ⟨value, computed, ?_⟩
      rw [bind_eq_ok]
      exact ⟨others, (ih others).mpr related, by rw [← same]; rfl⟩

omit [LinearOrder κ] in
/-- The keys of the results are those of the entries. -/
theorem traverseEntries_keys (compute : κ → α → Except ε β) (entries : List (κ × α))
    (results : List (κ × β)) (computed : traverseEntries compute entries = .ok results) :
    results.map Prod.fst = entries.map Prod.fst := by
  rw [traverseEntries_eq_ok] at computed
  induction computed with
  | nil => rfl
  | cons first _ ih => rw [List.map_cons, List.map_cons, first.1, ih]

/-- Computes a value for each entry under the same key. -/
def traverse (map : SortedMap κ α) (compute : κ → α → Except ε β) : Except ε (SortedMap κ β) :=
  match computed : traverseEntries compute map.entries with
  | .error error => .error error
  | .ok entries => .ok {
      entries
      sorted := by
        rw [traverseEntries_keys compute map.entries entries computed]
        exact map.sorted }

/-- A traversal succeeds when every computation does. -/
theorem traverse_eq_ok (compute : κ → α → Except ε β) (result : SortedMap κ β) :
    map.traverse compute = .ok result ↔
      List.Forall₂ (fun entry computed => computed.1 = entry.1 ∧
        compute entry.1 entry.2 = .ok computed.2) map.entries result.entries := by
  rw [← traverseEntries_eq_ok, traverse]
  split
  · rename_i error failed
    rw [failed]
    exact ⟨nofun, nofun⟩
  · rename_i entries computed
    obtain ⟨results, sorted⟩ := result
    rw [Except.ok.injEq, mk.injEq]
    constructor
    · exact fun same => computed.trans (congrArg _ same)
    · exact fun same => Except.ok.inj (computed.symm.trans same)

def mapValues (map : SortedMap κ α) (change : α → β) : SortedMap κ β where
  entries := map.entries.map fun entry => (entry.1, change entry.2)
  sorted := by
    rw [List.map_map]
    exact map.sorted

theorem values_mapValues (change : α → β) :
    (map.mapValues change).values = map.values.map change := by
  simp only [values, mapValues, List.map_map]
  rfl

theorem keys_mapValues (change : α → β) : (map.mapValues change).keys = map.keys := by
  simp only [keys, mapValues, List.map_map]
  rfl

section

variable (compute : κ → α → Except ε β)

include compute

theorem traverse_of_ok (change : α → β)
    (computed : ∀ entry ∈ map.entries, compute entry.1 entry.2 = .ok (change entry.2)) :
    map.traverse compute = .ok (map.mapValues change) := by
  rw [traverse_eq_ok]
  change List.Forall₂ _ map.entries (map.entries.map fun entry => (entry.1, change entry.2))
  rw [List.forall₂_map_right_iff, List.forall₂_same]
  exact fun entry member => ⟨rfl, computed entry member⟩

/-- A traversal whose computations succeed has a result. -/
theorem traverse_succeeds
    (computed : ∀ entry ∈ map.entries, ∃ value, compute entry.1 entry.2 = .ok value) :
    ∃ result, map.traverse compute = .ok result := by
  have related : ∃ results, traverseEntries compute map.entries = .ok results := by
    generalize map.entries = entries at computed
    induction entries with
    | nil => exact ⟨[], rfl⟩
    | cons entry entries ih =>
      rw [List.forall_mem_cons] at computed
      obtain ⟨value, first⟩ := computed.1
      obtain ⟨results, rest⟩ := ih computed.2
      refine ⟨(entry.1, value) :: results, ?_⟩
      rw [traverseEntries, bind_eq_ok]
      refine ⟨value, first, ?_⟩
      rw [bind_eq_ok]
      exact ⟨results, rest, rfl⟩
  obtain ⟨results, traversed⟩ := related
  have keys := traverseEntries_keys compute map.entries results traversed
  refine ⟨⟨results, keys ▸ map.sorted⟩, ?_⟩
  rw [traverse_eq_ok]
  exact (traverseEntries_eq_ok ..).mp traversed

section

variable (result : SortedMap κ β)

include result

/-- Every result of a traversal is that of an entry under the same key. -/
theorem mem_of_traverse (traversed : map.traverse compute = .ok result)
    (entry : κ × β) (member : entry ∈ result.entries) :
    ∃ value, (entry.1, value) ∈ map.entries ∧ compute entry.1 value = .ok entry.2 := by
  rw [traverse_eq_ok] at traversed
  revert member
  generalize map.entries = entries at traversed ⊢
  generalize result.entries = results at traversed ⊢
  intro member
  induction traversed with
  | nil => exact nomatch member
  | @cons original computed originals results first _ ih =>
    rcases List.mem_cons.mp member with rfl | later
    · refine ⟨original.2, ?_, first.1 ▸ first.2⟩
      rw [first.1]
      exact List.mem_cons_self
    · obtain ⟨value, inside, same⟩ := ih later
      exact ⟨value, List.mem_cons_of_mem _ inside, same⟩

theorem traverse_keys (traversed : map.traverse compute = .ok result) : result.keys = map.keys := by
  rw [traverse_eq_ok, ← traverseEntries_eq_ok] at traversed
  exact traverseEntries_keys compute map.entries result.entries traversed

theorem succeeds_of_traverse (traversed : map.traverse compute = .ok result) :
    ∀ entry ∈ map.entries, ∃ value, compute entry.1 entry.2 = .ok value := by
  rw [traverse_eq_ok] at traversed
  generalize map.entries = entries at traversed ⊢
  generalize result.entries = results at traversed
  induction traversed with
  | nil => exact fun _ never => absurd never List.not_mem_nil
  | @cons _ computed _ _ first _ ih =>
    rw [List.forall_mem_cons]
    exact ⟨⟨computed.2, first.2⟩, ih⟩

/-- What every computation keeps, a traversal keeps of all values. -/
theorem values_of_traverse {γ : Type}
    (traversed : map.traverse compute = .ok result) (before : α → γ)
    (after : β → γ) (kept : ∀ key value computed, compute key value = .ok computed →
      after computed = before value) :
    result.values.map after = map.values.map before := by
  rw [traverse_eq_ok] at traversed
  rw [values, values]
  generalize map.entries = entries at traversed ⊢
  generalize result.entries = results at traversed ⊢
  induction traversed with
  | nil => rfl
  | cons first _ ih =>
    iterate 4 rw [List.map_cons]
    rw [ih, kept _ _ _ first.2]

/-- The value of a key in the result of a traversal is computed from its value in the map. -/
theorem lookup_of_traverse (traversed : map.traverse compute = .ok result) (key : κ) (value : α)
    (found : map.lookup key = some value) :
    ∃ computed, result.lookup key = some computed ∧ compute key value = .ok computed := by
  have inside : key ∈ result.keys := by
    rw [traverse_keys map compute result traversed]
    exact List.mem_map_of_mem ((lookup_eq_some ..).mp found)
  obtain ⟨⟨_, computed⟩, member, rfl⟩ := List.mem_map.mp inside
  obtain ⟨original, among, same⟩ := mem_of_traverse map compute result traversed _ member
  have again := (lookup_eq_some ..).mpr among
  dsimp only at again
  rw [found] at again
  obtain rfl := Option.some.inj again
  exact ⟨computed, (lookup_eq_some ..).mpr member, same⟩

theorem traverse_length (traversed : map.traverse compute = .ok result) :
    result.length = map.length := by
  have lengths := congrArg List.length (traverse_keys map compute result traversed)
  rwa [keys, keys, List.length_map, List.length_map] at lengths

end

end

/-- The keys of a map with as many other values. -/
def withValues (map : SortedMap κ α) (values : List β) (same : values.length = map.length) :
    SortedMap κ β where
  entries := map.keys.zip values
  sorted := by
    have fits : map.keys.length ≤ values.length := by simp [same, keys, length]
    rw [List.map_fst_zip fits]
    exact map.sorted

theorem values_withValues (values : List β)
    (same : values.length = map.length) : (map.withValues values same).values = values := by
  have fits : values.length ≤ map.keys.length := by simp [same, keys, length]
  show (map.keys.zip values).map Prod.snd = values
  exact List.map_snd_zip fits

end SortedMap

end LatentDeck
