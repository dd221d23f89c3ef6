import Mathlib.Algebra.Order.Group.Nat
import Mathlib.Order.Bounds.Basic
import Mathlib.Tactic.Common

/-!
# Ticks of a rational rate

A clock ticks `numerator` times in every `period` units. Tick `tick` is due at the floor of
`tick * period / numerator`. The first tick that is due after an instant is a ceiling division, which
is the exact inverse of that floor.
-/

namespace LatentDeck.Ticks

variable {numerator period : Nat}

def due (numerator period tick : Nat) : Nat := tick * period / numerator

/-- The first tick that is due after an instant. -/
def firstAfter (numerator period elapsed : Nat) : Nat :=
  ((elapsed + 1) * numerator + (period - 1)) / period

section

variable (ticking : 0 < numerator)

include ticking

theorem lt_due_iff (positive : 0 < period) (elapsed tick : Nat) :
    elapsed < due numerator period tick ↔ firstAfter numerator period elapsed ≤ tick := by
  have below : firstAfter numerator period elapsed ≤ tick ↔
      firstAfter numerator period elapsed < tick + 1 := Nat.lt_add_one_iff.symm
  rw [below, due, firstAfter, Nat.lt_iff_add_one_le, Nat.le_div_iff_mul_le ticking,
    Nat.div_lt_iff_lt_mul positive, Nat.add_mul tick 1 period]
  omega

theorem due_exact (tick : Nat) :
    due numerator period tick * numerator ≤ tick * period ∧
      tick * period < due numerator period tick * numerator + numerator := by
  have split := Nat.div_add_mod (tick * period) numerator
  have small := Nat.mod_lt (tick * period) ticking
  rw [due, Nat.mul_comm]
  omega

theorem due_strictMono (apart : numerator ≤ period) : StrictMono (due numerator period) := by
  apply strictMono_nat_of_lt_succ
  intro tick
  rw [due, due, Nat.succ_mul, Nat.lt_iff_add_one_le, ← Nat.add_div_right _ ticking]
  exact Nat.div_le_div_right (Nat.add_le_add_left apart _)

theorem le_due (apart : numerator ≤ period) (tick : Nat) : tick ≤ due numerator period tick := by
  rw [due, Nat.le_div_iff_mul_le ticking]
  exact Nat.mul_le_mul_left tick apart

theorem isLeast_next (positive : 0 < period) (elapsed last : Nat) :
    IsLeast {tick | last < tick ∧ elapsed < due numerator period tick}
      (max (last + 1) (firstAfter numerator period elapsed)) := by
  constructor
  · refine ⟨Nat.lt_of_lt_of_le (Nat.lt_succ_self last) (Nat.le_max_left _ _), ?_⟩
    rw [lt_due_iff ticking positive]
    exact Nat.le_max_right _ _
  · intro tick later
    have first := (lt_due_iff ticking positive elapsed tick).mp later.2
    exact Nat.max_le.mpr ⟨later.1, first⟩

end

end LatentDeck.Ticks
