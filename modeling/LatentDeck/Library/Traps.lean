import LatentDeck.Library.Checked
import LatentDeck.Library.Fallible
import LatentDeck.Library.LittleEndian

/-!
# Computations that could trap

A program over bytes may refuse its input, but a slice outside the bytes or a sum outside the word
would stop it. Here such a step is an outcome of its own, so that a computation is safe when it ends
in a value or in a refusal.
-/

namespace LatentDeck.Traps

open Fallible LittleEndian

inductive Trap (ε : Type) where
  | refused (error : ε)
  | outOfRange
  | overflow
  deriving DecidableEq

abbrev Attempt (ε α : Type) : Type := Except (Trap ε) α

variable {ε α β : Type}

def refuseIf (condition : Prop) [Decidable condition] (error : ε) : Attempt ε Unit :=
  refuseWhen condition (.refused error)

def require (found : Option α) (error : ε) : Attempt ε α := orError found (.refused error)

/-- A computation ends in a value or in a refusal. -/
def Untrapped (computation : Attempt ε α) : Prop :=
  Raises (fun trap => ∃ error, trap = .refused error) computation

/-- A computation is safe, and its value has a property. -/
structure Ensures (post : α → Prop) (computation : Attempt ε α) : Prop where
  untrapped : Untrapped computation
  holds : ∀ value, computation = .ok value → post value

variable {post : α → Prop}

theorem ensures_ok {value : α} (has : post value) :
    Ensures post (.ok value : Attempt ε α) where
  untrapped := raises_ok value
  holds := by
    intro other same
    rw [← Except.ok.inj same]
    exact has

theorem ensures_refuseIf (condition : Prop) [Decidable condition] (error : ε) :
    Ensures (fun _ => ¬ condition) (refuseIf condition error) where
  untrapped := raises_refuseWhen ⟨error, rfl⟩
  holds := fun _ passed => (refuseWhen_eq_ok _ _).mp passed

theorem ensures_require (found : Option α) (error : ε) :
    Ensures (fun value => found = some value) (require found error) where
  untrapped := raises_orError ⟨error, rfl⟩
  holds := fun _ present => (orError_eq_ok ..).mp present

variable {computation : Attempt ε α}

theorem Ensures.bind {mid : α → Prop} {post : β → Prop} {next : α → Attempt ε β}
    (first : Ensures mid computation) (rest : ∀ value, mid value → Ensures post (next value)) :
    Ensures post (computation >>= next) := by
  cases computation with
  | error error => exact ⟨raises_error (first.untrapped error rfl), nofun⟩
  | ok value => exact rest value (first.holds value rfl)

theorem Ensures.ite {condition : Prop} [Decidable condition] {other : Attempt ε α}
    (whenTrue : condition → Ensures post computation)
    (whenFalse : ¬ condition → Ensures post other) :
    Ensures post (if condition then computation else other) := by
  by_cases met : condition
  · rw [if_pos met]
    exact whenTrue met
  · rw [if_neg met]
    exact whenFalse met

theorem Ensures.mono {weaker : α → Prop} (ensures : Ensures post computation)
    (implies : ∀ value, post value → weaker value) : Ensures weaker computation :=
  ⟨ensures.untrapped, fun value ended => implies value (ensures.holds value ended)⟩

theorem ensures_of_eq {value : α} (known : computation = .ok value) :
    Ensures (fun result => result = value) computation := by
  rw [known]
  exact ensures_ok rfl

def window (bytes : List UInt8) (start width : Nat) : List UInt8 := (bytes.drop start).take width

def field (bytes : List UInt8) (start width : Nat) : Nat := leValue (window bytes start width)

/-- `bytes[start..stop]`. -/
def slice (bytes : List UInt8) (start stop : Nat) : Attempt ε (List UInt8) :=
  if start ≤ stop ∧ stop ≤ bytes.length then .ok (window bytes start (stop - start))
  else .error .outOfRange

def plus (left right : Nat) : Attempt ε Nat :=
  if left + right < 2 ^ 64 then .ok (left + right) else .error .overflow

def minus (left right : Nat) : Attempt ε Nat :=
  if right ≤ left then .ok (left - right) else .error .overflow

def numberAt (bytes : List UInt8) (start width : Nat) : Attempt ε Nat := do
  let stop ← plus start width
  let piece ← slice bytes start stop
  .ok (leValue piece)

/-- `for offset in (0..=last).rev()`, up to the first offset that passes a test. -/
def findDown (test : Nat → Attempt ε Bool) : Nat → Attempt ε (Option Nat)
  | 0 => do
      let passed ← test 0
      .ok (if passed then some 0 else none)
  | last + 1 => do
      let passed ← test (last + 1)
      if passed then .ok (some (last + 1)) else findDown test last

theorem slice_eq {bytes : List UInt8} {start stop : Nat} (ordered : start ≤ stop)
    (inside : stop ≤ bytes.length) :
    (slice bytes start stop : Attempt ε _) = .ok (window bytes start (stop - start)) :=
  if_pos ⟨ordered, inside⟩

theorem plus_eq {left right : Nat} (fits : left + right < 2 ^ 64) :
    (plus left right : Attempt ε _) = .ok (left + right) := if_pos fits

theorem minus_eq {left right : Nat} (ordered : right ≤ left) :
    (minus left right : Attempt ε _) = .ok (left - right) := if_pos ordered

variable {width : Nat}

theorem numberAt_eq {bytes : List UInt8} {start : Nat} (fits : bytes.length < 2 ^ 64)
    (inside : start + width ≤ bytes.length) :
    (numberAt bytes start width : Attempt ε _) = .ok (field bytes start width) := by
  have sized : start + width - start = width := by omega
  unfold numberAt
  rw [plus_eq (by omega)]
  show (slice bytes start (start + width) >>= fun piece => _) = _
  rw [slice_eq (by omega) inside, sized]
  rfl

/-- A search that decides a property finds the last offset that has it. -/
theorem findDown_spec {test : Nat → Attempt ε Bool} {property : Nat → Prop} {last : Nat}
    (decides : ∀ offset ≤ last, ∃ passed, test offset = .ok passed ∧
      (passed = true ↔ property offset)) :
    ∃ found, findDown test last = .ok found ∧
      (∀ offset ∈ found, offset ≤ last ∧ property offset ∧
        ∀ later ≤ last, property later → later ≤ offset) ∧
      (found = none → ∀ offset ≤ last, ¬ property offset) := by
  induction last with
  | zero =>
    obtain ⟨passed, tested, agrees⟩ := decides 0 (Nat.le_refl 0)
    refine ⟨if passed then some 0 else none, ?_, ?_, ?_⟩
    · unfold findDown
      rw [tested]
      rfl
    · intro offset found
      by_cases accepted : passed = true
      · rw [if_pos accepted] at found
        have zero : offset = 0 := (Option.some.inj found).symm
        rw [zero]
        exact ⟨Nat.le_refl 0, agrees.mp accepted, fun later bounded _ => bounded⟩
      · rw [if_neg accepted] at found
        exact nomatch found
    · intro missing offset bounded has
      have zero : offset = 0 := by omega
      rw [zero] at has
      rw [if_pos (agrees.mpr has)] at missing
      exact nomatch missing
  | succ last ih =>
    obtain ⟨passed, tested, agrees⟩ := decides (last + 1) (Nat.le_refl _)
    by_cases accepted : passed = true
    · refine ⟨some (last + 1), ?_, ?_, nofun⟩
      · unfold findDown
        rw [tested, accepted]
        rfl
      · intro offset found
        have here : offset = last + 1 := (Option.some.inj found).symm
        rw [here]
        exact ⟨Nat.le_refl _, agrees.mp accepted, fun later bounded _ => bounded⟩
    · have absent : ¬ property (last + 1) := fun has => accepted (agrees.mpr has)
      obtain ⟨found, searched, first, none⟩ :=
        ih fun offset bounded => decides offset (by omega)
      refine ⟨found, ?_, ?_, ?_⟩
      · unfold findDown
        rw [tested, Bool.eq_false_iff.mpr accepted]
        exact searched
      · intro offset within
        obtain ⟨bounded, has, latest⟩ := first offset within
        refine ⟨by omega, has, ?_⟩
        intro later before holds
        by_cases top : later = last + 1
        · rw [top] at holds
          exact absurd holds absent
        · exact latest later (by omega) holds
      · intro missing offset bounded has
        by_cases top : offset = last + 1
        · rw [top] at has
          exact absent has
        · exact none missing offset (by omega) has

theorem window_length {bytes : List UInt8} {start : Nat} (inside : start + width ≤ bytes.length) :
    (window bytes start width).length = width := by
  rw [window, List.length_take, List.length_drop]
  omega

theorem window_window (bytes : List UInt8) {start inner size : Nat}
    (inside : inner + size ≤ width) :
    window (window bytes start width) inner size = window bytes (start + inner) size := by
  unfold window
  rw [List.drop_take, List.take_take, List.drop_drop, Nat.min_eq_left (by omega)]

theorem field_window (bytes : List UInt8) {start inner size : Nat} (inside : inner + size ≤ width) :
    field (window bytes start width) inner size = field bytes (start + inner) size := by
  rw [field, window_window bytes inside, field]

theorem field_lt (bytes : List UInt8) (start width : Nat) : field bytes start width < 256 ^ width := by
  have bound := leValue_bound (window bytes start width)
  have short : (window bytes start width).length ≤ width := by
    rw [window, List.length_take]
    omega
  exact Nat.lt_of_lt_of_le bound (Nat.pow_le_pow_right (by decide) short)

end LatentDeck.Traps
