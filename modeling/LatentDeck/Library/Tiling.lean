import Mathlib.Algebra.BigOperators.Group.List.Basic
import Mathlib.Algebra.GroupWithZero.Nat
import Mathlib.Data.List.Range
import Mathlib.Data.List.Sort
import Mathlib.Tactic.Common

/-!
# Ranges that tile an interval

A range is its first element and its length. Ranges tile an interval when the first one starts where
the interval does, each later one starts where the one before it ended, and the last one ends where
the interval does.
-/

namespace LatentDeck.Tiling

/-- The ranges tile the interval from `start` up to `stop`, in order. -/
def Tiles : Nat → List (Nat × Nat) → Nat → Prop
  | start, [], stop => start = stop
  | start, (first, length) :: ranges, stop => first = start ∧ Tiles (first + length) ranges stop

instance (start : Nat) (ranges : List (Nat × Nat)) (stop : Nat) :
    Decidable (Tiles start ranges stop) := by
  induction ranges generalizing start with
  | nil => exact inferInstanceAs (Decidable (start = stop))
  | cons range ranges ih =>
    have := ih (range.1 + range.2)
    exact inferInstanceAs (Decidable (_ ∧ _))

theorem tiles_append (earlier later : List (Nat × Nat)) (start stop : Nat) :
    Tiles start (earlier ++ later) stop ↔
      ∃ middle, Tiles start earlier middle ∧ Tiles middle later stop := by
  induction earlier generalizing start with
  | nil =>
    constructor
    · exact fun tiles => ⟨start, rfl, tiles⟩
    · rintro ⟨middle, rfl, tiles⟩
      exact tiles
  | cons range ranges ih =>
    obtain ⟨first, length⟩ := range
    simp only [List.cons_append, Tiles, ih, and_assoc, exists_and_left]

variable {ranges : List (Nat × Nat)} {start stop : Nat}

section

variable (tiles : Tiles start ranges stop)

include tiles

theorem tiles_bound : start ≤ stop ∧ ∀ range ∈ ranges, range.1 + range.2 ≤ stop := by
  induction ranges generalizing start with
  | nil => exact ⟨Nat.le_of_eq tiles, nofun⟩
  | cons range ranges ih =>
    obtain ⟨begins, rest⟩ := tiles
    have inside := ih rest
    rw [List.forall_mem_cons]
    exact ⟨by omega, inside.1, inside.2⟩

/-- In a tiling each range starts where the one before it ended. -/
theorem tiles_adjoin (index : Nat) (inside : index + 1 < ranges.length) :
    ranges[index + 1].1 = ranges[index].1 + ranges[index].2 := by
  induction ranges generalizing start index with
  | nil => exact absurd inside (Nat.not_lt_zero _)
  | cons range ranges ih =>
    obtain ⟨begins, rest⟩ := tiles
    cases index with
    | zero =>
      cases ranges with
      | nil => exact absurd inside (Nat.lt_irrefl _)
      | cons second ranges => exact rest.1
    | succ index => exact ih rest index (Nat.lt_of_succ_lt_succ inside)

/-- In a tiling each range ends before any later one starts. -/
theorem tiles_ordered :
    (∀ range ∈ ranges, start ≤ range.1) ∧
      ranges.Pairwise fun earlier later => earlier.1 + earlier.2 ≤ later.1 := by
  induction ranges generalizing start with
  | nil => exact ⟨nofun, List.Pairwise.nil⟩
  | cons range ranges ih =>
    obtain ⟨begins, rest⟩ := tiles
    obtain ⟨after, ordered⟩ := ih rest
    rw [List.forall_mem_cons, List.pairwise_cons]
    refine ⟨⟨Nat.le_of_eq begins.symm, fun later member => ?_⟩, after, ordered⟩
    have bound := after later member
    omega

theorem tiles_sum : start + (ranges.map Prod.snd).sum = stop := by
  induction ranges generalizing start with
  | nil => exact tiles
  | cons range ranges ih =>
    obtain ⟨rfl, rest⟩ := tiles
    rw [List.map_cons, List.sum_cons, ← Nat.add_assoc]
    exact ih rest

end

/-- Ranges of equal lengths at equal strides tile exactly when the first one starts at the boundary
and, if there are several, the stride is the length. -/
theorem tiles_progression (base stride length count start stop : Nat) :
    Tiles start ((List.range count).map fun index => (base + index * stride, length)) stop ↔
      (0 < count → base = start) ∧ (1 < count → stride = length) ∧
        stop = start + count * length := by
  induction count generalizing base start with
  | zero =>
    simp only [List.range_zero, List.map_nil, Tiles, Nat.zero_mul, Nat.add_zero]
    omega
  | succ count ih =>
    have shifted : ((List.range (count + 1)).map fun index => (base + index * stride, length)) =
        (base, length) ::
          (List.range count).map fun index => (base + stride + index * stride, length) := by
      rw [List.range_succ_eq_map, List.map_cons, List.map_map, Nat.zero_mul, Nat.add_zero]
      congr 1
      apply List.map_congr_left
      intro index _
      rw [Function.comp_apply, Nat.succ_mul, Nat.add_comm (index * stride), Nat.add_assoc]
    rw [shifted, Tiles, ih, Nat.succ_mul]
    generalize count * length = total
    omega

/-- Ranges by their starts; ranges with one start keep their order. -/
def sortRanges (ranges : List (Nat × Nat)) : List (Nat × Nat) :=
  ranges.insertionSort fun first second => first.1 ≤ second.1

/-- The ranges tile the interval when they are taken by their starts. -/
def Covers (start : Nat) (ranges : List (Nat × Nat)) (stop : Nat) : Prop :=
  Tiles start (sortRanges ranges) stop

instance (start : Nat) (ranges : List (Nat × Nat)) (stop : Nat) :
    Decidable (Covers start ranges stop) :=
  inferInstanceAs (Decidable (Tiles _ _ _))

theorem map_sortedBy {α : Type} (records : List α) (range : α → Nat × Nat) :
    (records.insertionSort fun first second => (range first).1 ≤ (range second).1).map range =
      sortRanges (records.map range) :=
  List.map_insertionSort _ _ range records fun _ _ _ _ => Iff.rfl

def shift (offset : Nat) (range : Nat × Nat) : Nat × Nat := (offset + range.1, range.2)

theorem tiles_shift (ranges : List (Nat × Nat)) (start stop offset : Nat) :
    Tiles (offset + start) (ranges.map (shift offset)) (offset + stop) ↔
      Tiles start ranges stop := by
  induction ranges generalizing start with
  | nil => exact Nat.add_left_cancel_iff
  | cons range ranges ih =>
    rw [List.map_cons, shift, Tiles, Nat.add_assoc, ih]
    exact and_congr_left fun _ => Nat.add_left_cancel_iff

theorem covers_shift (ranges : List (Nat × Nat)) (start stop offset : Nat) :
    Covers (offset + start) (ranges.map (shift offset)) (offset + stop) ↔
      Covers start ranges stop := by
  have sorting : sortRanges (ranges.map (shift offset)) = (sortRanges ranges).map (shift offset) :=
    (List.map_insertionSort _ _ (shift offset) ranges fun _ _ _ _ =>
      Nat.add_le_add_iff_left.symm).symm
  rw [Covers, sorting, tiles_shift]
  rfl

/-- A range as its first element and its end. -/
def bounds (range : Nat × Nat) : Nat × Nat := (range.1, range.1 + range.2)

theorem insertionSort_bounds (ranges : List (Nat × Nat)) :
    ((ranges.map bounds).insertionSort fun first second => first.1 ≤ second.1) =
      (sortRanges ranges).map bounds :=
  (List.map_insertionSort _ _ bounds ranges fun _ _ _ _ => Iff.rfl).symm

def Apart (first second : Nat × Nat) : Prop :=
  first.1 + first.2 ≤ second.1 ∨ second.1 + second.2 ≤ first.1

instance (first second : Nat × Nat) : Decidable (Apart first second) :=
  inferInstanceAs (Decidable (_ ∨ _))

instance : Std.Symm Apart where
  symm _ _ apart := Or.symm apart

theorem covers_bound
    (covers : Covers start ranges stop) (range : Nat × Nat) (member : range ∈ ranges) :
    start ≤ range.1 ∧ range.1 + range.2 ≤ stop := by
  have inside : range ∈ sortRanges ranges := (List.mem_insertionSort _).mpr member
  exact ⟨(tiles_ordered covers).1 range inside, (tiles_bound covers).2 range inside⟩

theorem covers_apart (covers : Covers start ranges stop) : ranges.Pairwise Apart := by
  have ordered := (tiles_ordered covers).2
  have rearranged : (sortRanges ranges).Perm ranges := List.perm_insertionSort _ ranges
  exact (rearranged.pairwise_iff fun apart => Or.symm apart).mp (ordered.imp Or.inl)

theorem covers_sum
    (covers : Covers start ranges stop) : start + (ranges.map Prod.snd).sum = stop := by
  have rearranged : (sortRanges ranges).Perm ranges := List.perm_insertionSort _ ranges
  rw [← (rearranged.map Prod.snd).sum_eq]
  exact tiles_sum covers

/-- The ranges tile the interval in some order. -/
def Tileable (start : Nat) (ranges : List (Nat × Nat)) (stop : Nat) : Prop :=
  ∃ order, order.Perm ranges ∧ Tiles start order stop

/-- A range that is not empty has an empty range with its start behind it. -/
def Hides (earlier later : Nat × Nat) : Prop :=
  earlier.1 = later.1 ∧ 0 < earlier.2 ∧ later.2 = 0

variable {first second : List (Nat × Nat)}

theorem tileable_perm (rearranged : first.Perm second) (start stop : Nat) :
    Tileable start first stop ↔ Tileable start second stop := by
  constructor
  · intro tileable
    obtain ⟨order, permutes, tiles⟩ := tileable
    exact ⟨order, permutes.trans rearranged, tiles⟩
  · intro tileable
    obtain ⟨order, permutes, tiles⟩ := tileable
    exact ⟨order, permutes.trans rearranged.symm, tiles⟩

/-- Sorting by starts keeps the order of the ranges of one start. -/
theorem sortRanges_stable (ranges : List (Nat × Nat)) (start : Nat) :
    (sortRanges ranges).filter (fun range => decide (range.1 = start)) =
      ranges.filter fun range => decide (range.1 = start) := by
  let here := fun range : Nat × Nat => decide (range.1 = start)
  have equal : ∀ range ∈ ranges.filter here, range.1 = start :=
    fun range member => of_decide_eq_true (List.mem_filter.mp member).2
  have ordered : (ranges.filter here).Pairwise fun first second => first.1 ≤ second.1 := by
    apply List.pairwise_of_forall_mem_list
    intro first firstMember second secondMember
    rw [equal first firstMember, equal second secondMember]
  have inside : (ranges.filter here).Sublist (sortRanges ranges) :=
    List.sublist_insertionSort ordered List.filter_sublist
  have kept : (ranges.filter here).Sublist ((sortRanges ranges).filter here) := by
    have filtered := inside.filter here
    rwa [List.filter_eq_self.mpr fun range member => (List.mem_filter.mp member).2] at filtered
  have counted : ((sortRanges ranges).filter here).length = (ranges.filter here).length :=
    ((List.perm_insertionSort _ ranges).filter here).length_eq
  exact (kept.eq_of_length counted.symm).symm

theorem sublist_of_sorted {first second : Nat × Nat}
    (sorted : [first, second].Sublist (sortRanges ranges)) (same : first.1 = second.1) :
    [first, second].Sublist ranges := by
  have here := sorted.filter fun range => decide (range.1 = second.1)
  rw [sortRanges_stable, List.filter_eq_self.mpr] at here
  · exact here.trans List.filter_sublist
  · intro range member
    rw [List.mem_cons, List.mem_singleton] at member
    cases member with
    | inl isFirst => simp [isFirst, same]
    | inr isSecond => simp [isSecond]

/-- The order of ranges by their starts, and for one start by their lengths. -/
def Precedes (first second : Nat × Nat) : Prop :=
  first.1 < second.1 ∨ (first.1 = second.1 ∧ first.2 ≤ second.2)

theorem tiles_precedes (tiles : Tiles start ranges stop) : ranges.Pairwise Precedes := by
  refine (tiles_ordered tiles).2.imp fun {first second} adjoins => ?_
  unfold Precedes
  omega

/-- Sorted by their starts, ranges tile exactly when they can be ordered to tile and no empty range
comes behind another one of its start. -/
theorem covers_iff (ranges : List (Nat × Nat)) (start stop : Nat) :
    Covers start ranges stop ↔
      Tileable start ranges stop ∧ ranges.Pairwise fun first second => ¬ Hides first second := by
  have rearranged : (sortRanges ranges).Perm ranges := List.perm_insertionSort _ ranges
  have sorted : (sortRanges ranges).Pairwise fun first second => first.1 ≤ second.1 :=
    List.pairwise_insertionSort _ ranges
  constructor
  · intro covers
    refine ⟨⟨_, rearranged, covers⟩, List.pairwise_of_forall_sublist fun {first second} stand => ?_⟩
    intro hides
    have adjoins := (tiles_ordered covers).2.forall_sublist
      (List.pair_sublist_insertionSort (Nat.le_of_eq hides.1) stand)
    unfold Hides at hides
    omega
  · intro both
    obtain ⟨⟨order, permutes, tiles⟩, shown⟩ := both
    have apart : (sortRanges ranges).Pairwise Apart :=
      ((permutes.trans rearranged.symm).pairwise_iff fun apart => Or.symm apart).mp
        ((tiles_ordered tiles).2.imp Or.inl)
    have precedes : (sortRanges ranges).Pairwise Precedes := by
      refine List.pairwise_of_forall_sublist fun {first second} stand => ?_
      have below := sorted.forall_sublist stand
      by_cases same : first.1 = second.1
      · have clear := shown.forall_sublist (sublist_of_sorted stand same)
        have disjoint := apart.forall_sublist stand
        unfold Hides at clear
        unfold Apart at disjoint
        unfold Precedes
        omega
      · exact Or.inl (Nat.lt_of_le_of_ne below same)
    have antisymm : ∀ first second : Nat × Nat, first ∈ sortRanges ranges → second ∈ order →
        Precedes first second → Precedes second first → first = second := by
      intro first second _ _ before after
      unfold Precedes at before after
      apply Prod.ext
      · omega
      · omega
    have equal : sortRanges ranges = order :=
      List.Perm.eq_of_pairwise antisymm precedes (tiles_precedes tiles)
        (rearranged.trans permutes.symm)
    rw [Covers, equal]
    exact tiles

/-- An empty range has the start of one that is not empty. -/
def Contested (ranges : List (Nat × Nat)) : Prop :=
  ∃ first ∈ ranges, ∃ second ∈ ranges, Hides first second

theorem contested_perm (rearranged : first.Perm second) : Contested first ↔ Contested second := by
  unfold Contested
  simp only [rearranged.mem_iff]

theorem covers_of_tileable (tileable : Tileable start ranges stop) (clear : ¬ Contested ranges) :
    Covers start ranges stop := by
  have shown : ranges.Pairwise fun first second => ¬ Hides first second := by
    apply List.pairwise_of_forall_mem_list
    intro first firstMember second secondMember hides
    exact clear ⟨first, firstMember, second, secondMember, hides⟩
  exact (covers_iff ranges start stop).mpr ⟨tileable, shown⟩

/-- No start is contested among ranges that cover an interval in an order and in its reverse. -/
theorem not_contested_of_reverse
    (covers : Covers start ranges stop) (reversed : Covers start ranges.reverse stop) :
    ¬ Contested ranges := by
  have forwards := ((covers_iff ..).mp covers).2
  have backwards := List.pairwise_reverse.mp ((covers_iff ..).mp reversed).2
  have itself : ∀ range ∈ ranges, ¬ Hides range range ∧ ¬ Hides range range := by
    intro range _
    unfold Hides
    omega
  have both : ∀ first ∈ ranges, ∀ second ∈ ranges,
      ¬ Hides first second ∧ ¬ Hides second first := by
    have : Std.Symm fun first second => ¬ Hides first second ∧ ¬ Hides second first :=
      ⟨fun _ _ clear => clear.symm⟩
    intro first firstMember second secondMember
    exact (forwards.and backwards).forall_of_forall itself firstMember secondMember
  intro contested
  obtain ⟨first, firstMember, second, secondMember, hides⟩ := contested
  exact (both first firstMember second secondMember).1 hides

theorem covers_perm (rearranged : first.Perm second)
    (nonempty : ∀ range ∈ first, 0 < range.2) (covers : Covers start first stop) :
    Covers start second stop := by
  have tileable := (tileable_perm rearranged start stop).mp ((covers_iff ..).mp covers).1
  apply covers_of_tileable tileable
  rw [← contested_perm rearranged]
  intro contested
  obtain ⟨full, _, empty, member, hides⟩ := contested
  have some := nonempty empty member
  rw [hides.2.2] at some
  exact absurd some (Nat.lt_irrefl 0)

end LatentDeck.Tiling
