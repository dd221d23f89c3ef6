import Mathlib.Data.List.Defs
import Mathlib.Data.List.Range
import Mathlib.Tactic.Common

/-!
# Lists cut into chunks

The chunks of a list are its consecutive pieces of one width. A list may be cut between two chunks
before it is cut into them, and when the width divides the length, the chunks are the elements of an
array of that width.
-/

namespace LatentDeck.Chunks

variable {α : Type} (width : Nat) (items : List α)

theorem go_done (begun : Array α) (done : Array (List α)) :
    List.toChunks.go width items begun done =
      done.toList ++ List.toChunks.go width items begun #[] := by
  induction items generalizing begun done with
  | nil => simp [List.toChunks.go]
  | cons item items ih =>
    rw [List.toChunks.go, List.toChunks.go]
    by_cases full : begun.size == width
    · rw [if_pos full, if_pos full, ih, ih _ (#[].push _)]
      simp
    · rw [if_neg full, if_neg full, ih]

theorem go_fill (begun front items : List α) (done : Array (List α))
    (room : begun.length + front.length ≤ width) :
    List.toChunks.go width (front ++ items) begun.toArray done =
      List.toChunks.go width items (begun ++ front).toArray done := by
  induction front generalizing begun with
  | nil => rw [List.nil_append, List.append_nil]
  | cons item front ih =>
    rw [List.length_cons] at room
    have unfilled : ¬ (begun.toArray.size == width) := by
      rw [List.size_toArray, beq_iff_eq]
      omega
    rw [List.cons_append, List.toChunks.go, if_neg unfilled, List.push_toArray, ih]
    · rw [List.append_assoc, List.singleton_append]
    · rw [List.length_append, List.length_singleton]
      omega

theorem toChunks_cons (positive : 0 < width) (item : α) (items : List α) :
    (item :: items).toChunks width = List.toChunks.go width items [item].toArray #[] := by
  cases width with
  | zero => exact absurd positive (Nat.lt_irrefl 0)
  | succ width => rfl

/-- A piece of the width in front is a chunk of its own. -/
theorem toChunks_append (positive : 0 < width) (front items : List α)
    (fits : front.length = width) :
    (front ++ items).toChunks width = front :: items.toChunks width := by
  cases front with
  | nil => exact absurd (fits.symm.trans List.length_nil) (Nat.ne_of_gt positive)
  | cons first front =>
    rw [List.length_cons] at fits
    have room : [first].length + front.length ≤ width := by
      rw [List.length_singleton]
      omega
    rw [List.cons_append, toChunks_cons width positive, go_fill width _ _ _ _ room]
    cases items with
    | nil => simp [List.toChunks.go, List.toChunks]
    | cons item items =>
      have full : (([first] ++ front).toArray.size == width) = true := by
        simp [fits]
      rw [List.toChunks.go, if_pos full, go_done, toChunks_cons width positive]
      rfl

/-- The element at an index of an array of elements of one width. -/
def elementAt (width : Nat) (items : List α) (index : Nat) : List α :=
  (items.drop (index * width)).take width

theorem elementAt_drop (skipped index : Nat) :
    elementAt width (items.drop (skipped * width)) index =
      elementAt width items (skipped + index) := by
  rw [elementAt, elementAt, List.drop_drop, Nat.add_mul]

theorem elementAt_take (count index : Nat) (inside : index < count) :
    elementAt width (items.take (count * width)) index = elementAt width items index := by
  have room : (index + 1) * width ≤ count * width := Nat.mul_le_mul_right width inside
  rw [Nat.add_mul, Nat.one_mul] at room
  rw [elementAt, elementAt, List.drop_take, List.take_take, Nat.min_eq_left (by omega)]

/-- The chunks of a whole number of elements are the elements. -/
theorem toChunks_eq (positive : 0 < width) (count : Nat) (items : List α)
    (whole : items.length = count * width) :
    items.toChunks width = (List.range count).map (elementAt width items) := by
  induction count generalizing items with
  | zero =>
    rw [Nat.zero_mul, List.length_eq_zero_iff] at whole
    rw [whole]
    rfl
  | succ count ih =>
    rw [Nat.succ_mul] at whole
    have rest : (items.drop width).length = count * width := by
      rw [List.length_drop]
      omega
    have first : (items.take width).length = width := by
      rw [List.length_take]
      omega
    have shifted : elementAt width items ∘ Nat.succ = elementAt width (items.drop width) := by
      funext index
      have behind := elementAt_drop width items 1 index
      rw [Nat.one_mul] at behind
      rw [Function.comp_apply, behind, Nat.succ_eq_one_add]
    calc
      items.toChunks width = (items.take width ++ items.drop width).toChunks width := by
        rw [List.take_append_drop]
      _ = items.take width :: (items.drop width).toChunks width :=
        toChunks_append width positive _ _ first
      _ = (List.range (count + 1)).map (elementAt width items) := by
        rw [ih _ rest, List.range_succ_eq_map, List.map_cons, List.map_map, shifted, elementAt,
          Nat.zero_mul, List.drop_zero]

theorem toChunks_take (positive : 0 < width) (count : Nat) (items : List α)
    (inside : count * width ≤ items.length) :
    (items.take (count * width)).toChunks width =
      (List.range count).map (elementAt width items) := by
  rw [toChunks_eq width positive count _ (List.length_take_of_le inside)]
  apply List.map_congr_left
  intro index member
  exact elementAt_take width items count index (List.mem_range.mp member)

end LatentDeck.Chunks
