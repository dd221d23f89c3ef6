import Mathlib.Data.List.Pairwise
import Mathlib.Order.Compare
import Mathlib.Order.Lattice
import Mathlib.Tactic.Common

/-!
# Binary search

The search halves a window of a slice until one element is left and looks at that element. On a
slice that the probe splits into what comes before the sought element, what is equal to it and what
comes after it, an element is found exactly when one is there.
-/

namespace LatentDeck.BinarySearch

variable {α : Type}

/-- The loop over windows: the start of the last window, of one element. -/
def narrow (probe : α → Ordering) (items : List α) (base size : Nat) : Nat :=
  if 1 < size then
    let half := size / 2
    let mid := base + half
    if items[mid]?.any fun item => probe item == .gt then narrow probe items base (size - half)
    else narrow probe items mid (size - half)
  else base
termination_by size

/-- `binary_search_by`: the index of an element that the probe finds equal, or where one would be
inserted. -/
def search (probe : α → Ordering) (items : List α) : Except Nat Nat :=
  let base := narrow probe items 0 items.length
  match items[base]? with
  | none => .error base
  | some item =>
      match probe item with
      | .eq => .ok base
      | .lt => .error (base + 1)
      | .gt => .error base

/-- The probe never goes back along the elements. -/
def Ordered (probe : α → Ordering) (items : List α) : Prop :=
  items.Pairwise fun earlier later =>
    (probe earlier = .gt → probe later = .gt) ∧ (probe later = .lt → probe earlier = .lt)

variable {probe : α → Ordering} {items : List α}

theorem Ordered.at (ordered : Ordered probe items) {first second : Nat} (before : first < second)
    {earlier later : α} (firstFound : items[first]? = some earlier)
    (secondFound : items[second]? = some later) :
    (probe earlier = .gt → probe later = .gt) ∧ (probe later = .lt → probe earlier = .lt) := by
  obtain ⟨inside, earlierAt⟩ := List.getElem?_eq_some_iff.mp firstFound
  obtain ⟨within, laterAt⟩ := List.getElem?_eq_some_iff.mp secondFound
  rw [← earlierAt, ← laterAt]
  exact List.pairwise_iff_getElem.mp ordered first second inside within before

/-- A window with an equal element narrows to one. -/
theorem narrow_finds (ordered : Ordered probe items) (base size : Nat)
    (bounded : base + size ≤ items.length)
    (present : ∃ index item, base ≤ index ∧ index < base + size ∧ items[index]? = some item ∧
      probe item = .eq) :
    ∃ item, items[narrow probe items base size]? = some item ∧ probe item = .eq := by
  fun_induction narrow probe items base size with
  | case1 base size large half mid after ih =>
    have halved : half = size / 2 := rfl
    have middle : mid = base + half := rfl
    obtain ⟨index, item, above, below, found, equal⟩ := present
    obtain ⟨pivot, pivotFound, pivotAfter⟩ := (Option.any_eq_true _ _).mp after
    have greater : probe pivot = .gt := beq_iff_eq.mp pivotAfter
    have before : index < mid := by
      by_contra late
      have behind : mid < index ∨ mid = index := by omega
      rcases behind with behind | same
      · have also := (ordered.at behind pivotFound found).1 greater
        exact nomatch equal.symm.trans also
      · rw [same, found] at pivotFound
        rw [Option.some.inj pivotFound, greater] at equal
        exact nomatch equal
    exact ih (by omega) ⟨index, item, above, by omega, found, equal⟩
  | case2 base size large half mid upTo ih =>
    have halved : half = size / 2 := rfl
    have middle : mid = base + half := rfl
    obtain ⟨index, item, above, below, found, equal⟩ := present
    apply ih (by omega)
    by_cases before : index < mid
    · -- an equal element before the middle makes the middle equal as well
      have inside : mid < items.length := by omega
      have pivotFound : items[mid]? = some items[mid] := List.getElem?_eq_getElem inside
      have notAfter : probe items[mid] ≠ .gt := by
        intro greater
        exact upTo ((Option.any_eq_true _ _).mpr ⟨_, pivotFound, beq_iff_eq.mpr greater⟩)
      have notBefore : probe items[mid] ≠ .lt := by
        intro less
        have also := (ordered.at before found pivotFound).2 less
        exact nomatch equal.symm.trans also
      have same : probe items[mid] = .eq := by
        cases seen : probe items[mid] with
        | lt => exact absurd seen notBefore
        | eq => rfl
        | gt => exact absurd seen notAfter
      exact ⟨mid, items[mid], Nat.le_refl mid, by omega, pivotFound, same⟩
    · exact ⟨index, item, by omega, by omega, found, equal⟩
  | case3 base size small =>
    obtain ⟨index, item, above, below, found, equal⟩ := present
    have same : index = base := by omega
    rw [same] at found
    exact ⟨item, found, equal⟩

theorem search_sound {index : Nat} (found : search probe items = .ok index) :
    ∃ item, items[index]? = some item ∧ probe item = .eq := by
  unfold search at found
  dsimp only at found
  cases last : items[narrow probe items 0 items.length]? with
  | none =>
    rw [last] at found
    exact nomatch found
  | some item =>
    rw [last] at found
    dsimp only at found
    cases compared : probe item with
    | lt =>
      rw [compared] at found
      exact nomatch found
    | gt =>
      rw [compared] at found
      exact nomatch found
    | eq =>
      rw [compared] at found
      rw [← Except.ok.inj found]
      exact ⟨item, last, compared⟩

/-- On ordered elements the search fails exactly when no element is equal. -/
theorem search_fails_iff (ordered : Ordered probe items) :
    (∃ place, search probe items = .error place) ↔ ∀ item ∈ items, probe item ≠ .eq := by
  constructor
  · rintro ⟨place, failed⟩ item among equal
    obtain ⟨index, inside, here⟩ := List.getElem_of_mem among
    have present : ∃ index item, 0 ≤ index ∧ index < 0 + items.length ∧
        items[index]? = some item ∧ probe item = .eq :=
      ⟨index, item, Nat.zero_le index, by omega,
        List.getElem?_eq_some_iff.mpr ⟨inside, here⟩, equal⟩
    obtain ⟨last, lastFound, lastEqual⟩ := narrow_finds ordered 0 items.length (by omega) present
    unfold search at failed
    dsimp only at failed
    rw [lastFound] at failed
    dsimp only at failed
    rw [lastEqual] at failed
    exact nomatch failed
  · intro different
    cases found : search probe items with
    | error place => exact ⟨place, rfl⟩
    | ok index =>
      obtain ⟨item, itemFound, equal⟩ := search_sound found
      exact absurd equal (different item (List.mem_of_getElem? itemFound))

theorem ordered_of_sorted {κ : Type} [LinearOrder κ] {key : α → κ}
    (sorted : items.Pairwise fun earlier later => key earlier < key later) (sought : κ) :
    Ordered (fun item => compare (key item) sought) items := by
  apply sorted.imp
  intro earlier later below
  constructor
  · intro after
    exact compare_gt_iff_gt.mpr ((compare_gt_iff_gt.mp after).trans below)
  · intro before
    exact compare_lt_iff_lt.mpr (below.trans (compare_lt_iff_lt.mp before))

end LatentDeck.BinarySearch
