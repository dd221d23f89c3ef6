import Mathlib.Data.List.Nodup
import Mathlib.Logic.Function.Basic

/-!
# Insertion-ordered dictionaries

A dictionary lists its entries in the order in which their keys were inserted, each key once.
Assigning to a key that is there replaces its value in place.
-/

namespace LatentDeck

/-- A dictionary with distinct keys in insertion order. -/
structure Dict (κ α : Type) where
  entries : List (κ × α)
  distinct : (entries.map Prod.fst).Nodup

namespace Dict

variable {κ α β : Type} [DecidableEq κ]

def empty : Dict κ α where
  entries := []
  distinct := List.nodup_nil

def lookup (dict : Dict κ α) (key : κ) : Option α := dict.entries.lookup key

def keys (dict : Dict κ α) : List κ := dict.entries.map Prod.fst

def values (dict : Dict κ α) : List α := dict.entries.map Prod.snd

def isEmpty (dict : Dict κ α) : Bool := dict.entries.isEmpty

def contains (dict : Dict κ α) (key : κ) : Bool := (dict.lookup key).isSome

def assign (key : κ) (value : α) : List (κ × α) → List (κ × α)
  | [] => [(key, value)]
  | entry :: entries =>
      if key = entry.1 then (key, value) :: entries else entry :: assign key value entries

/-- An assignment adds its key at the end unless it is there. -/
theorem map_fst_assign (key : κ) (value : α) (entries : List (κ × α)) :
    (assign key value entries).map Prod.fst =
      if key ∈ entries.map Prod.fst then entries.map Prod.fst
      else entries.map Prod.fst ++ [key] := by
  induction entries with
  | nil => simp [assign]
  | cons entry entries ih =>
    by_cases same : key = entry.1
    · simp [assign, same]
    · rw [assign, if_neg same, List.map_cons, ih, List.map_cons]
      by_cases found : key ∈ entries.map Prod.fst
      · rw [if_pos found, if_pos (List.mem_cons_of_mem _ found)]
      · rw [if_neg found, if_neg (by simp only [List.mem_cons, same, found, or_self,
          not_false_iff])]
        rfl

def insert (dict : Dict κ α) (key : κ) (value : α) : Dict κ α where
  entries := assign key value dict.entries
  distinct := by
    rw [map_fst_assign]
    by_cases found : key ∈ dict.entries.map Prod.fst
    · rw [if_pos found]
      exact dict.distinct
    · rw [if_neg found]
      exact List.nodup_append.mpr ⟨dict.distinct, List.nodup_singleton key,
        fun other inside another last same => by
          rw [List.mem_singleton] at last
          exact found (last ▸ same ▸ inside)⟩

/-- An entry after an assignment is the assigned one or was there before. -/
theorem mem_assign {key : κ} {value : α} {entries : List (κ × α)} {entry : κ × α}
    (member : entry ∈ assign key value entries) : entry = (key, value) ∨ entry ∈ entries := by
  induction entries with
  | nil => exact Or.inl (List.mem_singleton.mp member)
  | cons first rest ih =>
    unfold assign at member
    by_cases here : key = first.1
    · rw [if_pos here, List.mem_cons] at member
      exact member.imp id (List.mem_cons_of_mem _)
    · rw [if_neg here, List.mem_cons] at member
      cases member with
      | inl same => exact Or.inr (same ▸ List.mem_cons_self)
      | inr later => exact (ih later).imp id (List.mem_cons_of_mem _)

theorem length_assign_le (key : κ) (value : α) (entries : List (κ × α)) :
    (assign key value entries).length ≤ entries.length + 1 := by
  induction entries with
  | nil => exact Nat.le_refl 1
  | cons first rest ih =>
    unfold assign
    by_cases here : key = first.1
    · rw [if_pos here]
      exact Nat.le_succ _
    · rw [if_neg here]
      exact Nat.succ_le_succ ih

def erase (dict : Dict κ α) (key : κ) : Dict κ α where
  entries := dict.entries.filter fun entry => entry.1 ≠ key
  distinct := dict.distinct.sublist (List.filter_sublist.map Prod.fst)

def mapValues (dict : Dict κ α) (change : α → β) : Dict κ β where
  entries := dict.entries.map fun entry => (entry.1, change entry.2)
  distinct := by
    rw [List.map_map]
    exact dict.distinct

def update (dict : Dict κ α) (key : κ) (change : α → α) : Dict κ α where
  entries := dict.entries.map fun entry =>
    (entry.1, if entry.1 = key then change entry.2 else entry.2)
  distinct := by
    rw [List.map_map]
    exact dict.distinct

theorem lookup_cons (key : κ) (entry : κ × α) (entries : List (κ × α)) :
    (entry :: entries).lookup key =
      if key = entry.1 then some entry.2 else entries.lookup key := by
  by_cases here : key = entry.1
  · rw [if_pos here, here, List.lookup_cons_self]
  · rw [if_neg here, List.lookup_cons, beq_false_of_ne here]

@[simp]
theorem lookup_empty (key : κ) : (empty : Dict κ α).lookup key = none := rfl

variable (dict : Dict κ α)

theorem lookup_insert (key other : κ) (value : α) :
    (dict.insert key value).lookup other = if other = key then some value
      else dict.lookup other := by
  change (assign key value dict.entries).lookup other = _
  unfold lookup
  induction dict.entries with
  | nil =>
    rw [assign, lookup_cons]
  | cons entry entries ih =>
    by_cases first : key = entry.1
    · rw [assign, if_pos first, lookup_cons, lookup_cons, ← first]
      by_cases same : other = key
      · rw [if_pos same, if_pos same]
      · rw [if_neg same, if_neg same, if_neg same]
    · rw [assign, if_neg first, lookup_cons, lookup_cons, ih]
      by_cases here : other = entry.1
      · rw [if_pos here, if_pos here, if_neg fun same => first (same.symm.trans here)]
      · rw [if_neg here, if_neg here]

@[simp]
theorem lookup_insert_self (key : κ) (value : α) :
    (dict.insert key value).lookup key = some value := by
  rw [lookup_insert, if_pos rfl]

theorem lookup_erase (key other : κ) :
    (dict.erase key).lookup other = if other = key then none else dict.lookup other := by
  change (dict.entries.filter fun entry => entry.1 ≠ key).lookup other = _
  unfold lookup
  induction dict.entries with
  | nil => simp
  | cons entry entries ih =>
    by_cases removed : entry.1 = key
    · rw [List.filter_cons_of_neg (by simpa using removed), ih]
      by_cases same : other = key
      · rw [if_pos same, if_pos same]
      · rw [if_neg same, if_neg same, lookup_cons, if_neg fun here => same (here.trans removed)]
    · rw [List.filter_cons_of_pos (by simpa using removed), lookup_cons, lookup_cons, ih]
      by_cases here : other = entry.1
      · rw [if_pos here, if_pos here, if_neg fun same => removed (here.symm.trans same)]
      · rw [if_neg here, if_neg here]

/-- What a lookup finds after every value changed. -/
@[simp]
theorem lookup_mapValues (change : α → β) (key : κ) :
    (dict.mapValues change).lookup key = (dict.lookup key).map change := by
  change (dict.entries.map fun entry => (entry.1, change entry.2)).lookup key = _
  unfold lookup
  induction dict.entries with
  | nil => rfl
  | cons entry entries ih =>
    rw [List.map_cons, lookup_cons, lookup_cons, ih]
    by_cases here : key = entry.1
    · rw [if_pos here, if_pos here]
      rfl
    · rw [if_neg here, if_neg here]

theorem lookup_update (key other : κ) (change : α → α) :
    (dict.update key change).lookup other =
      if other = key then (dict.lookup other).map change else dict.lookup other := by
  change (dict.entries.map fun entry =>
    (entry.1, if entry.1 = key then change entry.2 else entry.2)).lookup other = _
  unfold lookup
  induction dict.entries with
  | nil => simp
  | cons entry entries ih =>
    rw [List.map_cons, lookup_cons, lookup_cons, ih]
    by_cases here : other = entry.1
    · by_cases changed : entry.1 = key <;> simp [here, changed]
    · rw [if_neg here, if_neg here]

omit [DecidableEq κ] in
/-- Two dictionaries with the same entries are equal. -/
theorem ext_entries {first second : Dict κ α} (same : first.entries = second.entries) :
    first = second := by
  cases first
  cases second
  cases same
  rfl

theorem mapValues_update {view : α → β} {change : α → α}
    (blind : ∀ value, view (change value) = view value) (dict : Dict κ α) (key : κ) :
    (dict.update key change).mapValues view = dict.mapValues view := by
  apply ext_entries
  show (dict.entries.map _).map _ = dict.entries.map _
  rw [List.map_map]
  apply List.map_congr_left
  intro entry _
  by_cases here : entry.1 = key <;> simp [here, blind]

theorem mem_entries_of_lookup {dict : Dict κ α} {key : κ} {value : α}
    (found : dict.lookup key = some value) : (key, value) ∈ dict.entries := by
  obtain ⟨before, after, split, -⟩ := List.lookup_eq_some_iff.mp found
  rw [split]
  simp

theorem mem_values (value : α) : value ∈ dict.values ↔ ∃ key, dict.lookup key = some value := by
  obtain ⟨entries, distinct⟩ := dict
  change value ∈ entries.map Prod.snd ↔ ∃ key, entries.lookup key = some value
  induction entries with
  | nil => simp
  | cons entry entries ih =>
    rw [List.map_cons, List.nodup_cons] at distinct
    rw [List.map_cons, List.mem_cons, ih distinct.2]
    constructor
    · rintro (first | ⟨key, found⟩)
      · exact ⟨entry.1, by rw [lookup_cons, if_pos rfl, first]⟩
      · have later : ¬ key = entry.1 := by
          intro same
          obtain ⟨before, after, split, -⟩ := List.lookup_eq_some_iff.mp found
          have inside : key ∈ entries.map Prod.fst := by
            rw [split]
            simp
          exact distinct.1 (same ▸ inside)
        exact ⟨key, by rw [lookup_cons, if_neg later, found]⟩
    · rintro ⟨key, found⟩
      rw [lookup_cons] at found
      by_cases here : key = entry.1
      · rw [if_pos here] at found
        exact .inl (Option.some.inj found).symm
      · rw [if_neg here] at found
        exact .inr ⟨key, found⟩

theorem isEmpty_iff : dict.isEmpty = true ↔ ∀ key, dict.lookup key = none := by
  unfold isEmpty lookup
  cases dict.entries with
  | nil => simp
  | cons entry entries =>
    constructor
    · intro none
      exact absurd none (by simp)
    · intro none
      have found := none entry.1
      rw [lookup_cons, if_pos rfl] at found
      exact nomatch found

variable {ι : Type} [DecidableEq ι]

/-- An index names exactly what the keys hold: it is the inverse of a partial map. -/
def Inverts (index : Dict ι κ) (held : κ → Option ι) : Prop :=
  ∀ id key, index.lookup id = some key ↔ held key = some id

section Inverts

variable {index : Dict ι κ} {held : κ → Option ι}

omit [DecidableEq κ] in
theorem inverts_empty (free : ∀ key, held key = none) : (empty : Dict ι κ).Inverts held := by
  intro id key
  simp [free]

/-- A fresh name goes to a key that holds nothing. -/
theorem Inverts.insert (inverts : index.Inverts held) {id : ι} {key : κ}
    (fresh : index.lookup id = none) (free : held key = none) :
    (index.insert id key).Inverts (Function.update held key (some id)) := by
  intro other owner
  rw [lookup_insert]
  by_cases same : other = id
  · rw [if_pos same, same]
    by_cases here : owner = key
    · rw [here, Function.update_self]
      exact ⟨fun _ => rfl, fun _ => rfl⟩
    · rw [Function.update_of_ne here, ← inverts, fresh]
      exact ⟨fun named => absurd (Option.some.inj named).symm here, nofun⟩
  · rw [if_neg same, inverts]
    by_cases here : owner = key
    · rw [here, Function.update_self, free]
      exact ⟨nofun, fun named => absurd (Option.some.inj named).symm same⟩
    · rw [Function.update_of_ne here]

/-- A name that is given up leaves its key with nothing. -/
theorem Inverts.erase (inverts : index.Inverts held) {id : ι} {key : κ}
    (holds : held key = some id) : (index.erase id).Inverts (Function.update held key none) := by
  intro other owner
  rw [lookup_erase]
  have named := (inverts id key).mpr holds
  by_cases same : other = id
  · rw [if_pos same, same]
    by_cases here : owner = key
    · rw [here, Function.update_self]
      exact ⟨nofun, nofun⟩
    · rw [Function.update_of_ne here, ← inverts, named]
      exact ⟨nofun, fun found => absurd (Option.some.inj found).symm here⟩
  · rw [if_neg same, inverts]
    by_cases here : owner = key
    · rw [here, Function.update_self, holds]
      exact ⟨fun found => absurd (Option.some.inj found).symm same, nofun⟩
    · rw [Function.update_of_ne here]

end Inverts

end Dict

end LatentDeck
