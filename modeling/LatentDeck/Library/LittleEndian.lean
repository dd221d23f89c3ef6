import Mathlib.Data.Nat.Digits.Defs
import Mathlib.Tactic.Ring

/-!
# Little-endian words

Fixed-width byte encodings of natural numbers. A word of `width` bytes is the list of its
base-256 digits, least significant first, padded to the width. Values are read back with
Mathlib's `Nat.ofDigits`, so the round trip is exact for every value that fits and is reduction
modulo `256 ^ width` for every other one.
-/

namespace LatentDeck.LittleEndian

/-- The `width` little-endian bytes of a value, dropping what does not fit. -/
def leBytes : Nat → Nat → List UInt8
  | 0, _ => []
  | width + 1, value => UInt8.ofNat (value % 256) :: leBytes width (value / 256)

/-- The value of a little-endian byte string. -/
def leValue (bytes : List UInt8) : Nat :=
  Nat.ofDigits 256 (bytes.map UInt8.toNat)

@[simp]
theorem leBytes_length (width value : Nat) : (leBytes width value).length = width := by
  induction width generalizing value with
  | zero => rfl
  | succ width ih => simp only [leBytes, List.length_cons, ih]

@[simp]
theorem leValue_nil : leValue [] = 0 := rfl

theorem leValue_cons (byte : UInt8) (bytes : List UInt8) :
    leValue (byte :: bytes) = byte.toNat + 256 * leValue bytes := by
  simp only [leValue, List.map_cons, Nat.ofDigits_cons]

theorem leValue_append (low high : List UInt8) :
    leValue (low ++ high) = leValue low + 256 ^ low.length * leValue high := by
  simp only [leValue, List.map_append, Nat.ofDigits_append, List.length_map]

theorem leValue_bound (bytes : List UInt8) : leValue bytes < 256 ^ bytes.length := by
  induction bytes with
  | nil => simp
  | cons byte bytes ih =>
    have digit := byte.toNat_lt
    rw [leValue_cons, List.length_cons, Nat.pow_succ]
    omega

theorem leValue_leBytes (width value : Nat) :
    leValue (leBytes width value) = value % 256 ^ width := by
  induction width generalizing value with
  | zero => simp [leBytes, Nat.mod_one]
  | succ width ih =>
    have digit : (UInt8.ofNat (value % 256)).toNat = value % 256 := by
      simp
    rw [leBytes, leValue_cons, ih, digit, Nat.pow_succ', Nat.mod_mul]

theorem leValue_leBytes_of_lt (width value : Nat) (fits : value < 256 ^ width) :
    leValue (leBytes width value) = value := by
  rw [leValue_leBytes, Nat.mod_eq_of_lt fits]

theorem leBytes_leValue (bytes : List UInt8) : leBytes bytes.length (leValue bytes) = bytes := by
  induction bytes with
  | nil => rfl
  | cons byte bytes ih =>
    have digit := byte.toNat_lt
    have low : (byte.toNat + 256 * leValue bytes) % 256 = byte.toNat := by omega
    have high : (byte.toNat + 256 * leValue bytes) / 256 = leValue bytes := by omega
    rw [List.length_cons, leBytes, leValue_cons, low, high, ih, UInt8.ofNat_toNat]

theorem leValue_injective (left right : List UInt8) (width : left.length = right.length)
    (value : leValue left = leValue right) : left = right := by
  rw [← leBytes_leValue left, ← leBytes_leValue right, width, value]

/-- A mask of `width` bits from `offset` on leaves that field of a value. -/
theorem and_field (value offset width : Nat) :
    value &&& ((2 ^ width - 1) <<< offset) = (value >>> offset % 2 ^ width) <<< offset := by
  apply Nat.eq_of_testBit_eq
  intro index
  rw [Nat.testBit_and, Nat.testBit_shiftLeft, Nat.testBit_shiftLeft, Nat.testBit_two_pow_sub_one,
    Nat.testBit_mod_two_pow, Nat.testBit_shiftRight]
  by_cases above : offset ≤ index
  · rw [Nat.add_sub_cancel' above]
    simp [above, Bool.and_comm]
  · simp [above]

theorem field_all_ones (value offset width : Nat) :
    value &&& ((2 ^ width - 1) <<< offset) = (2 ^ width - 1) <<< offset ↔
      value / 2 ^ offset % 2 ^ width = 2 ^ width - 1 := by
  rw [and_field, Nat.shiftLeft_eq, Nat.shiftLeft_eq, Nat.shiftRight_eq_div_pow]
  exact Nat.mul_left_inj (Nat.ne_of_gt (Nat.two_pow_pos offset))

end LatentDeck.LittleEndian
