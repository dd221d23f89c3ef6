import Mathlib.Algebra.BigOperators.Ring.List
import Mathlib.Algebra.Ring.Nat
import Mathlib.Data.Nat.Bitwise

/-!
# Checked unsigned arithmetic

Natural-number models of the checked 64-bit operations: a result outside the word is `none`,
never a wrapped value.
-/

namespace LatentDeck.Checked

def checkedAdd (left right : Nat) : Option Nat :=
  if left + right < 2 ^ 64 then some (left + right) else none

/-- Multiplication that refuses a 64-bit overflow. -/
def checkedMul (left right : Nat) : Option Nat :=
  if left * right < 2 ^ 64 then some (left * right) else none

/-- Subtraction that refuses a negative result. -/
def checkedSub (left right : Nat) : Option Nat :=
  if right ≤ left then some (left - right) else none

variable (left : Nat)

theorem checkedAdd_eq_some (right sum : Nat) :
    checkedAdd left right = some sum ↔ sum = left + right ∧ left + right < 2 ^ 64 := by
  rw [checkedAdd]
  split
  · simp only [Option.some.injEq]
    omega
  · simp only [reduceCtorEq, false_iff]
    omega

theorem checkedMul_eq_some (right product : Nat) :
    checkedMul left right = some product ↔
      product = left * right ∧ left * right < 2 ^ 64 := by
  rw [checkedMul]
  split
  · simp only [Option.some.injEq]
    constructor
    · rintro rfl
      exact ⟨rfl, ‹_›⟩
    · exact fun exact => exact.1.symm
  · simp only [reduceCtorEq, false_iff]
    exact fun exact => absurd exact.2 ‹_›

theorem checkedSub_eq_some (right difference : Nat) :
    checkedSub left right = some difference ↔ left = right + difference := by
  rw [checkedSub]
  split
  · simp only [Option.some.injEq]
    omega
  · simp only [reduceCtorEq, false_iff]
    omega

theorem checkedSub_eq_none (right : Nat) : checkedSub left right = none ↔ left < right := by
  rw [checkedSub]
  split
  · simp only [reduceCtorEq, false_iff]
    omega
  · simp only [true_iff]
    omega

/-- The product of a list that refuses an overflow on the way. -/
def checkedProduct (factors : List Nat) : Option Nat := factors.foldlM checkedMul 1

/-- The sum of a list that refuses an overflow on the way. -/
def checkedSum (terms : List Nat) : Option Nat := terms.foldlM checkedAdd 0

variable (factors : List Nat)

/-- A checked product from a start is the exact one, inside the word after every factor. -/
theorem foldlM_checkedMul (start product : Nat) (fits : start < 2 ^ 64) :
    factors.foldlM checkedMul start = some product ↔ product = start * factors.prod ∧
      ∀ count, start * (factors.take count).prod < 2 ^ 64 := by
  induction factors generalizing start with
  | nil =>
    simp only [List.foldlM_nil, List.prod_nil, List.take_nil, Nat.mul_one, forall_const]
    exact ⟨fun same => ⟨(Option.some.inj same).symm, fits⟩, fun both => congrArg _ both.1.symm⟩
  | cons factor factors ih =>
    rw [List.foldlM_cons, List.prod_cons, ← Nat.mul_assoc]
    constructor
    · intro computed
      obtain ⟨next, multiplied, rest⟩ := Option.bind_eq_some_iff.mp computed
      obtain ⟨rfl, bound⟩ := (checkedMul_eq_some ..).mp multiplied
      obtain ⟨exact, bounds⟩ := (ih _ bound).mp rest
      refine ⟨exact, fun count => ?_⟩
      cases count with
      | zero => simpa using fits
      | succ count =>
        rw [List.take_succ_cons, List.prod_cons, ← Nat.mul_assoc]
        exact bounds count
    · rintro ⟨exact, bounds⟩
      have step : ∀ count, start * factor * (factors.take count).prod < 2 ^ 64 := by
        intro count
        have bound := bounds (count + 1)
        rwa [List.take_succ_cons, List.prod_cons, ← Nat.mul_assoc] at bound
      have bound : start * factor < 2 ^ 64 := by simpa using step 0
      exact Option.bind_eq_some_iff.mpr ⟨_, (checkedMul_eq_some ..).mpr ⟨rfl, bound⟩,
        (ih _ bound).mpr ⟨exact, step⟩⟩

theorem checkedProduct_eq_some (product : Nat) :
    checkedProduct factors = some product ↔
      product = factors.prod ∧ ∀ count, (factors.take count).prod < 2 ^ 64 := by
  rw [checkedProduct, foldlM_checkedMul factors 1 product (by decide)]
  simp only [Nat.one_mul]

theorem prod_take_le (positive : 0 ∉ factors) (count : Nat) :
    (factors.take count).prod ≤ factors.prod := by
  rw [← List.prod_take_mul_prod_drop factors count]
  apply Nat.le_mul_of_pos_right
  exact Nat.pos_of_ne_zero
    (List.prod_ne_zero fun inside => positive (List.mem_of_mem_drop inside))

theorem checkedProduct_of_positive (positive : 0 ∉ factors) (product : Nat) :
    checkedProduct factors = some product ↔ product = factors.prod ∧ factors.prod < 2 ^ 64 := by
  rw [checkedProduct_eq_some]
  constructor
  · rintro ⟨exact, bounds⟩
    have whole := bounds factors.length
    rw [List.take_length] at whole
    exact ⟨exact, whole⟩
  · exact fun ⟨exact, bound⟩ =>
      ⟨exact, fun count => (prod_take_le factors positive count).trans_lt bound⟩

theorem foldlM_checkedAdd (terms : List Nat) (start sum : Nat) (fits : start < 2 ^ 64) :
    terms.foldlM checkedAdd start = some sum ↔
      sum = start + terms.sum ∧ start + terms.sum < 2 ^ 64 := by
  induction terms generalizing start with
  | nil =>
    simp only [List.foldlM_nil, List.sum_nil, Nat.add_zero]
    exact ⟨fun same => ⟨(Option.some.inj same).symm, fits⟩, fun both => congrArg _ both.1.symm⟩
  | cons term terms ih =>
    rw [List.foldlM_cons, List.sum_cons, ← Nat.add_assoc]
    constructor
    · intro computed
      obtain ⟨next, added, rest⟩ := Option.bind_eq_some_iff.mp computed
      obtain ⟨rfl, bound⟩ := (checkedAdd_eq_some ..).mp added
      exact (ih _ bound).mp rest
    · rintro ⟨exact, bound⟩
      have first : start + term < 2 ^ 64 := by omega
      exact Option.bind_eq_some_iff.mpr ⟨_, (checkedAdd_eq_some ..).mpr ⟨rfl, first⟩,
        (ih _ first).mpr ⟨exact, bound⟩⟩

theorem checkedSum_eq_some (terms : List Nat) (sum : Nat) :
    checkedSum terms = some sum ↔ sum = terms.sum ∧ terms.sum < 2 ^ 64 := by
  rw [checkedSum, foldlM_checkedAdd terms 0 sum (by decide), Nat.zero_add]

/-- Rounds up to a power-of-two alignment by masking the low bits of the padded value. -/
def alignUp (value alignment : Nat) : Option Nat :=
  (checkedAdd value (alignment - 1)).map fun sum => sum &&& (2 ^ 64 - 1 - (alignment - 1))

/-- Masking the low bits of a word removes its remainder. -/
theorem mask_low_bits (value bits : Nat) (fits : value < 2 ^ 64) (inside : bits ≤ 64) :
    value &&& (2 ^ 64 - 1 - (2 ^ bits - 1)) = value / 2 ^ bits * 2 ^ bits := by
  have positive : 0 < 2 ^ bits := Nat.two_pow_pos bits
  have mask : 2 ^ 64 - 1 - (2 ^ bits - 1) = (2 ^ (64 - bits) - 1) <<< bits := by
    rw [Nat.shiftLeft_eq, Nat.sub_mul, ← Nat.pow_add, Nat.sub_add_cancel inside]
    omega
  rw [mask, ← Nat.shiftRight_eq_div_pow, ← Nat.shiftLeft_eq]
  apply Nat.eq_of_testBit_eq
  intro index
  simp only [Nat.testBit_and, Nat.testBit_shiftLeft, Nat.testBit_shiftRight,
    Nat.testBit_two_pow_sub_one]
  by_cases low : bits ≤ index
  · rw [show bits + (index - bits) = index by omega]
    by_cases high : index < 64
    · simp [low, show index - bits < 64 - bits by omega]
    · have clear : value.testBit index = false :=
        Nat.testBit_lt_two_pow
          (Nat.lt_of_lt_of_le fits (Nat.pow_le_pow_right (by omega) (by omega)))
      simp [clear]
  · simp [low]

/-- Alignment to `2 ^ bits` never loses bytes and adds less than one unit. -/
theorem alignUp_bounds (value bits aligned : Nat) (inside : bits ≤ 64)
    (computed : alignUp value (2 ^ bits) = some aligned) :
    value ≤ aligned ∧ aligned < value + 2 ^ bits ∧ aligned % 2 ^ bits = 0 := by
  rw [alignUp, Option.map_eq_some_iff] at computed
  obtain ⟨sum, added, rfl⟩ := computed
  rw [checkedAdd_eq_some] at added
  have positive : 0 < 2 ^ bits := Nat.two_pow_pos bits
  rw [mask_low_bits sum bits (by omega) inside]
  have division := Nat.div_add_mod' sum (2 ^ bits)
  have remainder := Nat.mod_lt sum positive
  exact ⟨by omega, by omega, Nat.mul_mod_left _ _⟩

/-! ## Words

The same operations on 64-bit words: a result is a word whose value is the exact one.
-/

/-- Addition of words that refuses an overflow. -/
def addWord (left right : UInt64) : Option UInt64 :=
  if left.toNat + right.toNat < 2 ^ 64 then some (left + right) else none

/-- Multiplication of words that refuses an overflow. -/
def mulWord (left right : UInt64) : Option UInt64 :=
  if left.toNat * right.toNat < 2 ^ 64 then some (left * right) else none

/-- Subtraction of words that refuses a negative result. -/
def subWord (left right : UInt64) : Option UInt64 :=
  if right.toNat ≤ left.toNat then some (left - right) else none

theorem word_toNat {value : Nat} (fits : value < 2 ^ 64) : (UInt64.ofNat value).toNat = value :=
  UInt64.toNat_ofNat_of_lt' fits

theorem addWord_eq_some (left right sum : UInt64) :
    addWord left right = some sum ↔ sum.toNat = left.toNat + right.toNat := by
  have bound := sum.toNat_lt
  rw [addWord]
  split
  · rw [Option.some.injEq, ← UInt64.toNat_inj, UInt64.toNat_add, Nat.mod_eq_of_lt ‹_›]
    exact eq_comm
  · simp only [reduceCtorEq, false_iff]
    omega

theorem mulWord_eq_some (left right product : UInt64) :
    mulWord left right = some product ↔ product.toNat = left.toNat * right.toNat := by
  have bound := product.toNat_lt
  rw [mulWord]
  split
  · rw [Option.some.injEq, ← UInt64.toNat_inj, UInt64.toNat_mul, Nat.mod_eq_of_lt ‹_›]
    exact eq_comm
  · simp only [reduceCtorEq, false_iff]
    omega

theorem subWord_eq_some (left right difference : UInt64) :
    subWord left right = some difference ↔ left.toNat = right.toNat + difference.toNat := by
  rw [subWord]
  split
  · rw [Option.some.injEq, ← UInt64.toNat_inj,
      UInt64.toNat_sub_of_le _ _ (UInt64.le_iff_toNat_le.mpr ‹_›)]
    omega
  · simp only [reduceCtorEq, false_iff]
    omega

end LatentDeck.Checked
