import Mathlib.Algebra.Order.Ring.Int

/-!
# Binary64 numbers

A number is its 64 bits. Numbers are compared as whole multiples of the least positive one, `2 ^
-1074`: every finite number is one, and an infinity counts as the multiple that its fields would
spell, beyond every finite one. Rounding is to the nearest, ties to even. The sign of a zero that an
operation returns is not kept; no comparison sees it.
-/

namespace LatentDeck.Binary64

def one : Nat := 2 ^ 1074

theorem one_pos : 0 < one := by decide +kernel

def fraction (bits : UInt64) : Nat := bits.toNat % 2 ^ 52

def exponent (bits : UInt64) : Nat := bits.toNat / 2 ^ 52 % 2 ^ 11

def isNegative (bits : UInt64) : Bool := 2 ^ 63 ≤ bits.toNat

/-- Whether a number is neither an infinity nor a NaN. -/
def isFinite (bits : UInt64) : Bool := exponent bits != 2047

def isNan (bits : UInt64) : Bool := exponent bits == 2047 && fraction bits != 0

/-- The absolute value of a number, as a multiple of the least positive number. -/
def magnitude (bits : UInt64) : Nat :=
  if exponent bits = 0 then fraction bits
  else (2 ^ 52 + fraction bits) * 2 ^ (exponent bits - 1)

/-- A number as a multiple of the least positive number. -/
def units (bits : UInt64) : Int :=
  if isNegative bits then -(magnitude bits : Int) else magnitude bits

/-- `left < right`. -/
def isLess (left right : UInt64) : Bool :=
  !isNan left && !isNan right && decide (units left < units right)

/-- `left <= right`. -/
def isAtMost (left right : UInt64) : Bool :=
  !isNan left && !isNan right && decide (units left ≤ units right)

/-- `left == right`. -/
def isEqual (left right : UInt64) : Bool :=
  !isNan left && !isNan right && decide (units left = units right)

/-- Whether a number is finite and has no fractional part. -/
def isIntegral (bits : UInt64) : Bool := isFinite bits && decide (units bits % one = 0)

/-- The whole number nearest to a ratio, ties to the even one. -/
def nearest (numerator denominator : Nat) : Nat :=
  let quotient := numerator / denominator
  let rest := numerator % denominator
  if 2 * rest < denominator ∨ (2 * rest = denominator ∧ quotient % 2 = 0) then quotient
  else quotient + 1

/-- How many units the last place of a number of this magnitude is worth, as a power of two. -/
def lastPlace (numerator denominator : Nat) : Nat := (numerator / denominator).log2 - 52

/-- The bits, without the sign, of the number nearest to a ratio of units. -/
def magnitudeBits (numerator denominator : Nat) : Nat :=
  let place := lastPlace numerator denominator
  min (nearest numerator (denominator * 2 ^ place) + place * 2 ^ 52) (2047 * 2 ^ 52)

def round (negative : Bool) (numerator denominator : Nat) : UInt64 :=
  UInt64.ofNat ((if negative then 2 ^ 63 else 0) + magnitudeBits numerator denominator)

def ofInt (value : Int) : UInt64 := round (decide (value < 0)) (value.natAbs * one) 1

/-- The number nearest to a ratio, as a literal is read. -/
def ofRatio (numerator denominator : Nat) : UInt64 := round false (numerator * one) denominator

def infinity (negative : Bool) : UInt64 :=
  UInt64.ofNat ((if negative then 2 ^ 63 else 0) + 2047 * 2 ^ 52)

def nan : UInt64 := UInt64.ofNat (2047 * 2 ^ 52 + 2 ^ 51)

/-- `left + right`. -/
def add (left right : UInt64) : UInt64 :=
  if isNan left || isNan right then nan
  else if isFinite left && isFinite right then
    let sum := units left + units right
    round (decide (sum < 0)) sum.natAbs 1
  else if isFinite left then right
  else if isFinite right || isNegative left == isNegative right then left
  else nan

/-- `-bits`. -/
def neg (bits : UInt64) : UInt64 := bits ^^^ 0x8000000000000000

/-- `left - right`. -/
def sub (left right : UInt64) : UInt64 := add left (neg right)

/-- `left * right`. -/
def mul (left right : UInt64) : UInt64 :=
  let negative := isNegative left != isNegative right
  if isNan left || isNan right then nan
  else if isFinite left && isFinite right then
    round negative (magnitude left * magnitude right) one
  else if units left = 0 || units right = 0 then nan
  else infinity negative

section Order

variable {left right : UInt64}

theorem isLess_asymm (less : isLess left right = true) : isLess right left = false := by
  unfold isLess at less ⊢
  simp only [Bool.and_eq_true, decide_eq_true_eq] at less
  simp only [less.1.1, less.1.2, Bool.and_self, Bool.true_and, decide_eq_false_iff_not]
  omega

theorem not_isAtMost_of_isLess (less : isLess left right = true) : isAtMost right left = false := by
  unfold isLess at less
  unfold isAtMost
  simp only [Bool.and_eq_true, decide_eq_true_eq] at less
  simp only [less.1.1, less.1.2, Bool.and_self, Bool.true_and, decide_eq_false_iff_not]
  omega

theorem not_isLess_of_isAtMost (atMost : isAtMost left right = true) :
    isLess right left = false := by
  unfold isAtMost at atMost
  unfold isLess
  simp only [Bool.and_eq_true, decide_eq_true_eq] at atMost
  simp only [atMost.1.1, atMost.1.2, Bool.and_self, Bool.true_and, decide_eq_false_iff_not]
  omega

theorem isNan_of_isFinite {bits : UInt64} (finite : isFinite bits = true) : isNan bits = false := by
  unfold isFinite at finite
  unfold isNan
  simp_all

end Order

/-- A ratio of units that a number's significand and exponent can spell. -/
structure Spelled (significand place : Nat) : Prop where
  bounded : significand < 2 ^ 53
  normal : 2 ^ 52 ≤ significand ∨ place = 0
  finite : place ≤ 2045

namespace Spelled

variable {significand place : Nat}

section

variable (spelled : Spelled significand place)

include spelled

/-- The last place of what can be spelled is where it is spelled. -/
theorem lastPlace_eq : lastPlace (significand * 2 ^ place) 1 = place := by
  have bounded := spelled.bounded
  unfold lastPlace
  rw [Nat.div_one]
  by_cases large : 2 ^ 52 ≤ significand
  · have positive : 0 < 2 ^ place := Nat.two_pow_pos place
    have grown : (significand * 2 ^ place).log2 = 52 + place := by
      rw [Nat.log2_eq_iff (Nat.mul_ne_zero (by omega) positive.ne'), Nat.pow_add,
        show 52 + place + 1 = 53 + place by omega, Nat.pow_add]
      exact ⟨Nat.mul_le_mul_right _ large, Nat.mul_lt_mul_of_pos_right bounded positive⟩
    omega
  · have least : place = 0 := spelled.normal.resolve_left large
    have small : significand.log2 < 52 ∨ significand = 0 := by
      by_cases zero : significand = 0
      · exact Or.inr zero
      · exact Or.inl ((Nat.log2_lt zero).mpr (by omega))
    rcases small with small | zero
    · simp only [least, pow_zero, Nat.mul_one]
      omega
    · simp [zero, least]

theorem magnitudeBits_eq :
    magnitudeBits (significand * 2 ^ place) 1 = significand + place * 2 ^ 52 := by
  have bounded := spelled.bounded
  have finite := spelled.finite
  have whole : nearest (significand * 2 ^ place) (1 * 2 ^ place) = significand := by
    have positive : 0 < 2 ^ place := Nat.two_pow_pos place
    unfold nearest
    rw [Nat.one_mul, Nat.mul_div_cancel _ positive, Nat.mul_mod_left]
    exact if_pos (Or.inl (by omega))
  unfold magnitudeBits
  rw [spelled.lastPlace_eq]
  show min (nearest (significand * 2 ^ place) (1 * 2 ^ place) + place * 2 ^ 52) _ = _
  rw [whole]
  omega

section

variable (negative : Bool)

include negative

theorem round_toNat :
    (round negative (significand * 2 ^ place) 1).toNat =
      (if negative then 2 ^ 63 else 0) + (significand + place * 2 ^ 52) := by
  have bounded := spelled.bounded
  have finite := spelled.finite
  unfold round
  rw [spelled.magnitudeBits_eq, UInt64.toNat_ofNat']
  apply Nat.mod_eq_of_lt
  split <;> omega

theorem exponent_round :
    exponent (round negative (significand * 2 ^ place) 1) =
      if significand < 2 ^ 52 then 0 else place + 1 := by
  have bounded := spelled.bounded
  have normal := spelled.normal
  have finite := spelled.finite
  unfold exponent
  rw [spelled.round_toNat]
  split <;> split <;> omega

theorem fraction_round :
    fraction (round negative (significand * 2 ^ place) 1) =
      if significand < 2 ^ 52 then significand else significand - 2 ^ 52 := by
  have bounded := spelled.bounded
  have normal := spelled.normal
  unfold fraction
  rw [spelled.round_toNat]
  split <;> split <;> omega

theorem isFinite_round : isFinite (round negative (significand * 2 ^ place) 1) = true := by
  have finite := spelled.finite
  unfold isFinite
  rw [spelled.exponent_round, bne_iff_ne]
  split <;> omega

theorem magnitude_round :
    magnitude (round negative (significand * 2 ^ place) 1) = significand * 2 ^ place := by
  unfold magnitude
  rw [spelled.exponent_round, spelled.fraction_round]
  by_cases small : significand < 2 ^ 52
  · have least : place = 0 := spelled.normal.resolve_left (by omega)
    rw [if_pos small, if_pos rfl, if_pos small, least, Nat.pow_zero, Nat.mul_one]
  · rw [if_neg small, if_neg small, if_neg (Nat.succ_ne_zero place), Nat.add_sub_cancel,
      Nat.add_sub_cancel' (by omega)]

theorem units_round :
    units (round negative (significand * 2 ^ place) 1) =
      if negative then -((significand * 2 ^ place : Nat) : Int)
      else ((significand * 2 ^ place : Nat) : Int) := by
  have bounded := spelled.bounded
  have finite := spelled.finite
  have sign : isNegative (round negative (significand * 2 ^ place) 1) = negative := by
    unfold isNegative
    rw [spelled.round_toNat]
    cases negative with
    | true => exact decide_eq_true (by rw [if_pos rfl]; omega)
    | false => exact decide_eq_false (by rw [if_neg Bool.false_ne_true]; omega)
  unfold units
  rw [sign, spelled.magnitude_round]

end

end

end Spelled

/-- A natural number of at most 53 bits can be spelled. -/
theorem exists_spelled {value : Nat} (bounded : value < 2 ^ 53) :
    ∃ significand place, Spelled significand place ∧
      value * one = significand * 2 ^ place := by
  by_cases zero : value = 0
  · exact ⟨0, 0, ⟨by decide, Or.inr rfl, by decide⟩, by simp [zero]⟩
  · have size : value.log2 < 53 := (Nat.log2_lt zero).mpr bounded
    have low := Nat.log2_self_le zero
    have high : value < 2 ^ (value.log2 + 1) := Nat.lt_log2_self
    have shift : 2 ^ value.log2 * 2 ^ (52 - value.log2) = 2 ^ 52 := by
      rw [← Nat.pow_add, Nat.add_sub_cancel' (by omega)]
    have shift' : 2 ^ (value.log2 + 1) * 2 ^ (52 - value.log2) = 2 ^ 53 := by
      rw [← Nat.pow_add, show value.log2 + 1 + (52 - value.log2) = 53 by omega]
    refine ⟨value * 2 ^ (52 - value.log2), 1022 + value.log2, ⟨?_, Or.inl ?_, by omega⟩, ?_⟩
    · rw [← shift']
      exact Nat.mul_lt_mul_of_pos_right high (Nat.two_pow_pos _)
    · rw [← shift]
      exact Nat.mul_le_mul_right _ low
    · unfold one
      rw [Nat.mul_assoc, ← Nat.pow_add, show 52 - value.log2 + (1022 + value.log2) = 1074 by omega]

section OfInt

variable {left right : Int}

theorem ofInt_exact (bounded : left.natAbs < 2 ^ 53) :
    isFinite (ofInt left) = true ∧ units (ofInt left) = left * one := by
  obtain ⟨significand, place, spelled, same⟩ := exists_spelled bounded
  have spelling : ofInt left = round (decide (left < 0)) (significand * 2 ^ place) 1 := by
    unfold ofInt
    rw [same]
  rw [spelling, spelled.units_round, ← same]
  have finite := spelled.isFinite_round (decide (left < 0))
  rw [← same] at finite
  refine ⟨finite, ?_⟩
  by_cases negative : left < 0
  · have size : ((left.natAbs : Nat) : Int) = -left := by omega
    rw [decide_eq_true negative, if_pos rfl, Nat.cast_mul, size, Int.neg_mul, Int.neg_neg]
  · have size : ((left.natAbs : Nat) : Int) = left := by omega
    rw [decide_eq_false negative, if_neg Bool.false_ne_true, Nat.cast_mul, size]

theorem isFinite_ofInt (bounded : left.natAbs < 2 ^ 53) : isFinite (ofInt left) = true :=
  (ofInt_exact bounded).1

theorem units_lt_iff : left * one < right * one ↔ left < right := by
  have positive : (0 : Int) < one := by exact_mod_cast one_pos
  exact ⟨fun less => Int.lt_of_mul_lt_mul_right less positive.le,
    fun less => Int.mul_lt_mul_of_pos_right less positive⟩

variable (leftBounded : left.natAbs < 2 ^ 53) (rightBounded : right.natAbs < 2 ^ 53)
include leftBounded rightBounded

theorem isLess_ofInt : isLess (ofInt left) (ofInt right) = decide (left < right) := by
  obtain ⟨leftFinite, leftUnits⟩ := ofInt_exact leftBounded
  obtain ⟨rightFinite, rightUnits⟩ := ofInt_exact rightBounded
  unfold isLess
  rw [isNan_of_isFinite leftFinite, isNan_of_isFinite rightFinite, leftUnits, rightUnits]
  simp only [Bool.not_false, Bool.true_and, decide_eq_decide]
  exact units_lt_iff

theorem isAtMost_ofInt : isAtMost (ofInt left) (ofInt right) = decide (left ≤ right) := by
  obtain ⟨leftFinite, leftUnits⟩ := ofInt_exact leftBounded
  obtain ⟨rightFinite, rightUnits⟩ := ofInt_exact rightBounded
  unfold isAtMost
  rw [isNan_of_isFinite leftFinite, isNan_of_isFinite rightFinite, leftUnits, rightUnits]
  simp only [Bool.not_false, Bool.true_and, decide_eq_decide]
  rw [← Int.not_lt, ← Int.not_lt, units_lt_iff]

omit leftBounded rightBounded

theorem isIntegral_ofInt (bounded : left.natAbs < 2 ^ 53) : isIntegral (ofInt left) = true := by
  obtain ⟨finite, same⟩ := ofInt_exact bounded
  unfold isIntegral
  rw [finite, same, Int.mul_emod_left, decide_eq_true rfl]
  rfl

theorem ofInt_zero : ofInt 0 = 0 := by decide +kernel

theorem not_isAtMost_zero (bounded : left.natAbs < 2 ^ 53) (positive : 0 < left) :
    isAtMost (ofInt left) 0 = false := by
  have zero : (0 : Int).natAbs < 2 ^ 53 := Nat.two_pow_pos 53
  have compared := isAtMost_ofInt bounded zero
  rw [ofInt_zero, decide_eq_false (Int.not_le.mpr positive)] at compared
  exact compared

end OfInt

end LatentDeck.Binary64
