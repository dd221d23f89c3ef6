import LatentDeck.Host.RuntimeError
import LatentDeck.Library.Fallible
import LatentDeck.Library.Ticks
import Mathlib.Data.List.Pairwise

/-!
# The presentation clock

`FrameClock`: a rate, an epoch and the next tick to present. Every product is taken in 128 bits and
every tick and deadline has to fit 64. An instant is a number of nanoseconds; what the platform can
represent of them is a parameter. `clock_advances` says what a call does to a clock that any run of
calls has reached.
-/

namespace LatentDeck.Host

open Fallible Ticks

/-- Multiplication of `u128`. -/
def checkedMul128 (left right : Nat) : Option Nat :=
  if left * right < 2 ^ 128 then some (left * right) else none

/-- Addition of `u128`. -/
def checkedAdd128 (left right : Nat) : Option Nat :=
  if left + right < 2 ^ 128 then some (left + right) else none

/-- `u64::try_from`. -/
def toU64 (value : Nat) : Option Nat := if value < 2 ^ 64 then some value else none

def nanosPerSecond : Nat := 1000000000

structure FrameClock where
  numerator : Nat
  denominator : Nat
  epoch : Nat
  nextTick : Nat
  deriving DecidableEq

def frameOffsetNs (numerator denominator tick : Nat) : Except GenericDeckRuntimeError Nat := do
  refuseWhen (numerator = 0 ∨ denominator = 0 ∨ tick = 0) .input
  let value ← orError ((checkedMul128 tick denominator).bind (checkedMul128 · nanosPerSecond))
    GenericDeckRuntimeError.protocol
  orError (toU64 (value / numerator)) .protocol

/-- `FrameClock::new` at an instant. -/
def FrameClock.new (numerator denominator : UInt32) (now : Nat) :
    Except GenericDeckRuntimeError FrameClock := do
  let numerator := numerator.toNat
  let denominator := denominator.toNat
  refuseWhen (numerator = 0 ∨ denominator = 0) .input
  let offset ← frameOffsetNs numerator denominator 1
  refuseWhen (offset = 0) .input
  return ⟨numerator, denominator, now, 1⟩

/-- `restart` at an instant. -/
def FrameClock.restart (clock : FrameClock) (now : Nat) : FrameClock :=
  { clock with epoch := now, nextTick := 1 }

/-- `next_deadline`, where `latest` is the last instant of the platform. -/
def FrameClock.nextDeadline (latest : Nat) (clock : FrameClock) :
    Except GenericDeckRuntimeError Nat := do
  let offset ← frameOffsetNs clock.numerator clock.denominator clock.nextTick
  orError (if clock.epoch + offset ≤ latest then some (clock.epoch + offset) else none) .protocol

/-- `advance_past`. An instant before the epoch counts as the epoch. -/
def FrameClock.advancePast (clock : FrameClock) (now : Nat) :
    Except GenericDeckRuntimeError FrameClock := do
  let elapsedNs := now - clock.epoch
  let periodScale ← orError (checkedMul128 clock.denominator nanosPerSecond)
    GenericDeckRuntimeError.protocol
  let scaled ← orError ((checkedAdd128 elapsedNs 1).bind (checkedMul128 · clock.numerator))
    GenericDeckRuntimeError.protocol
  let raised ← orError (checkedAdd128 scaled (periodScale - 1)) GenericDeckRuntimeError.protocol
  let firstFutureTick ← orError (toU64 (raised / periodScale)) GenericDeckRuntimeError.protocol
  let followingTick ← orError (toU64 (clock.nextTick + 1)) GenericDeckRuntimeError.protocol
  return { clock with nextTick := max followingTick (max firstFutureTick 1) }

theorem checkedMul128_eq_some (left right product : Nat) :
    checkedMul128 left right = some product ↔ left * right = product ∧ left * right < 2 ^ 128 := by
  unfold checkedMul128
  by_cases fits : left * right < 2 ^ 128
  · rw [if_pos fits, Option.some.injEq, and_iff_left fits]
  · rw [if_neg fits]
    exact ⟨nofun, fun both => absurd both.2 fits⟩

theorem checkedAdd128_eq_some (left right sum : Nat) :
    checkedAdd128 left right = some sum ↔ left + right = sum ∧ left + right < 2 ^ 128 := by
  unfold checkedAdd128
  by_cases fits : left + right < 2 ^ 128
  · rw [if_pos fits, Option.some.injEq, and_iff_left fits]
  · rw [if_neg fits]
    exact ⟨nofun, fun both => absurd both.2 fits⟩

theorem toU64_eq_some (value kept : Nat) :
    toU64 value = some kept ↔ value = kept ∧ value < 2 ^ 64 := by
  unfold toU64
  by_cases fits : value < 2 ^ 64
  · rw [if_pos fits, Option.some.injEq, and_iff_left fits]
  · rw [if_neg fits]
    exact ⟨nofun, fun both => absurd both.2 fits⟩

def FrameClock.period (clock : FrameClock) : Nat := clock.denominator * nanosPerSecond

/-- The deadline of a tick: the epoch and the floor of its exact distance. -/
def FrameClock.deadline (clock : FrameClock) (tick : Nat) : Nat :=
  clock.epoch + due clock.numerator clock.period tick

/-- A clock that `FrameClock::new` and the calls behind it make: a rate of two 32-bit words that
ticks at most once in a nanosecond, and a tick of 64 bits. -/
structure FrameClock.Valid (clock : FrameClock) : Prop where
  ticking : 0 < clock.numerator
  numeratorFits : clock.numerator < 2 ^ 32
  denominatorFits : clock.denominator < 2 ^ 32
  apart : clock.numerator ≤ clock.period
  started : 0 < clock.nextTick
  tickFits : clock.nextTick < 2 ^ 64

variable {clock : FrameClock}

theorem FrameClock.Valid.positive (valid : clock.Valid) :
    0 < clock.period := Nat.lt_of_lt_of_le valid.ticking valid.apart

theorem FrameClock.Valid.period_lt (valid : clock.Valid) : clock.period < 2 ^ 62 := by
  have bound := valid.denominatorFits
  rw [FrameClock.period, nanosPerSecond]
  omega

/-- An offset is the distance of its tick, if that fits. -/
theorem frameOffsetNs_eq_ok {numerator denominator tick : Nat} (ticking : 0 < numerator)
    (rated : 0 < denominator) (denominatorFits : denominator < 2 ^ 32) (started : 0 < tick)
    (tickFits : tick < 2 ^ 64) (offset : Nat) :
    frameOffsetNs numerator denominator tick = .ok offset ↔
      due numerator (denominator * nanosPerSecond) tick = offset ∧ offset < 2 ^ 64 := by
  have first : tick * denominator < 2 ^ 96 :=
    Nat.lt_of_lt_of_le (Nat.mul_lt_mul'' tickFits denominatorFits) (by decide)
  have product : (checkedMul128 tick denominator).bind (checkedMul128 · nanosPerSecond) =
      some (tick * denominator * nanosPerSecond) := by
    have inner : checkedMul128 tick denominator = some (tick * denominator) :=
      (checkedMul128_eq_some ..).mpr ⟨rfl, by omega⟩
    rw [inner, Option.bind_some, checkedMul128_eq_some]
    refine ⟨rfl, ?_⟩
    rw [nanosPerSecond]
    omega
  have nonzero : ¬ (numerator = 0 ∨ denominator = 0 ∨ tick = 0) := by omega
  rw [frameOffsetNs, check_eq_ok, refuseWhen_eq_ok, and_iff_right nonzero, product, bind_eq_ok,
    due, ← Nat.mul_assoc]
  constructor
  · intro accepted
    obtain ⟨value, found, kept⟩ := accepted
    rw [orError_eq_ok, Option.some.injEq] at found
    rw [orError_eq_ok, toU64_eq_some, ← found] at kept
    exact ⟨kept.1, kept.1 ▸ kept.2⟩
  · intro exactly
    refine ⟨tick * denominator * nanosPerSecond, (orError_eq_ok ..).mpr rfl, ?_⟩
    rw [orError_eq_ok, toU64_eq_some]
    exact ⟨exactly.1, exactly.1.symm ▸ exactly.2⟩

variable {now : Nat}

/-- A clock starts valid, at its epoch, with the first tick. -/
theorem new_eq_ok {numerator denominator : UInt32}
    (started : FrameClock.new numerator denominator now = .ok clock) :
    clock.Valid ∧ clock = ⟨numerator.toNat, denominator.toNat, now, 1⟩ := by
  have numeratorFits := numerator.toNat_lt
  have denominatorFits := denominator.toNat_lt
  rw [FrameClock.new] at started
  rw [check_eq_ok, refuseWhen_eq_ok, bind_eq_ok] at started
  obtain ⟨rated, offset, first, started⟩ := started
  rw [check_eq_ok, refuseWhen_eq_ok] at started
  obtain ⟨nonzero, result⟩ := started
  have same := Except.ok.inj result
  rw [frameOffsetNs_eq_ok (by omega) (by omega) denominatorFits (by decide) (by decide)] at first
  have apart : numerator.toNat ≤ denominator.toNat * nanosPerSecond := by
    by_contra close
    have zero : 1 * (denominator.toNat * nanosPerSecond) / numerator.toNat = 0 := by
      rw [Nat.one_mul]
      exact Nat.div_eq_of_lt (Nat.not_le.mp close)
    rw [due, zero] at first
    exact nonzero first.1.symm
  have ticking : 0 < numerator.toNat := by omega
  have tickFits : 1 < 2 ^ 64 := by decide
  refine ⟨?_, same.symm⟩
  rw [← same]
  exact ⟨ticking, numeratorFits, denominatorFits, apart, Nat.one_pos, tickFits⟩

/-- What a call computes: the following tick or the first one that is due after the instant. -/
theorem advancePast_eq_ok {after : FrameClock} (advanced : clock.advancePast now = .ok after) :
    after = { clock with
      nextTick := max (clock.nextTick + 1)
        (firstAfter clock.numerator clock.period (now - clock.epoch)) } ∧
      after.nextTick < 2 ^ 64 := by
  rw [FrameClock.advancePast] at advanced
  obtain ⟨periodScale, scale, advanced⟩ := ok_of_bind advanced
  rw [orError_eq_ok, checkedMul128_eq_some] at scale
  obtain ⟨scaled, product, advanced⟩ := ok_of_bind advanced
  rw [orError_eq_ok, Option.bind_eq_some_iff] at product
  obtain ⟨behind, sum, product⟩ := product
  rw [checkedAdd128_eq_some] at sum
  rw [checkedMul128_eq_some, ← sum.1] at product
  obtain ⟨raised, added, advanced⟩ := ok_of_bind advanced
  rw [orError_eq_ok, checkedAdd128_eq_some, ← product.1, ← scale.1] at added
  obtain ⟨first, future, advanced⟩ := ok_of_bind advanced
  rw [orError_eq_ok, toU64_eq_some, ← added.1, ← scale.1] at future
  obtain ⟨following, next, advanced⟩ := ok_of_bind advanced
  rw [orError_eq_ok, toU64_eq_some] at next
  have same := Except.ok.inj advanced
  have firstTick : first = firstAfter clock.numerator clock.period (now - clock.epoch) :=
    future.1.symm
  have greatest : max following (max first 1) = max (clock.nextTick + 1) first := by omega
  rw [greatest] at same
  rw [← same, ← firstTick]
  refine ⟨rfl, ?_⟩
  show max (clock.nextTick + 1) first < 2 ^ 64
  omega

section

variable (valid : clock.Valid)

include valid

theorem FrameClock.Valid.lt_deadline_iff {tick : Nat} (started : 0 < tick) (now : Nat) :
    now < clock.deadline tick ↔ now - clock.epoch < due clock.numerator clock.period tick := by
  have later := le_due valid.ticking valid.apart tick
  rw [FrameClock.deadline]
  omega

/-- What a call makes of a clock: it keeps the rate and the epoch, and the next tick is the first
one behind the last whose deadline lies strictly after the instant. -/
structure Follows (clock : FrameClock) (now : Nat) (after : FrameClock) : Prop where
  kept : after = { clock with nextTick := after.nextTick }
  least : IsLeast {tick | clock.nextTick < tick ∧ now < clock.deadline tick} after.nextTick
  later : clock.deadline clock.nextTick < after.deadline after.nextTick
  unskipped : ∀ tick, clock.nextTick < tick → tick < after.nextTick → clock.deadline tick ≤ now

theorem FrameClock.Valid.deadline_strictMono : StrictMono clock.deadline :=
  fun _ _ later => Nat.add_lt_add_left (due_strictMono valid.ticking valid.apart later) _

theorem follows_of_advancePast {after : FrameClock}
    (advanced : clock.advancePast now = .ok after) : Follows clock now after := by
  have computed := (advancePast_eq_ok advanced).1
  have tick : after.nextTick = max (clock.nextTick + 1)
      (firstAfter clock.numerator clock.period (now - clock.epoch)) := by rw [computed]
  have kept : after = { clock with nextTick := after.nextTick } := by rw [tick, ← computed]
  have next := isLeast_next valid.ticking valid.positive (now - clock.epoch) clock.nextTick
  rw [← tick] at next
  have dueAfter (tick : Nat) (behind : clock.nextTick < tick) :
      now < clock.deadline tick ↔ now - clock.epoch < due clock.numerator clock.period tick :=
    valid.lt_deadline_iff (Nat.lt_of_le_of_lt (Nat.zero_le _) behind) now
  have least : IsLeast {tick | clock.nextTick < tick ∧ now < clock.deadline tick}
      after.nextTick := by
    constructor
    · exact ⟨next.1.1, (dueAfter _ next.1.1).mpr next.1.2⟩
    · exact fun tick later => next.2 ⟨later.1, (dueAfter tick later.1).mp later.2⟩
  refine ⟨kept, least, ?_, ?_⟩
  · have same : after.deadline after.nextTick = clock.deadline after.nextTick := by rw [kept]; rfl
    rw [same]
    exact valid.deadline_strictMono least.1.1
  · intro tick behind before
    by_contra ahead
    have bound := least.2 ⟨behind, Nat.not_le.mp ahead⟩
    omega

theorem valid_of_advancePast {after : FrameClock}
    (advanced : clock.advancePast now = .ok after) : after.Valid := by
  have follows := follows_of_advancePast valid advanced
  have fits := (advancePast_eq_ok advanced).2
  have started : 0 < after.nextTick := Nat.lt_of_le_of_lt (Nat.zero_le _) follows.least.1.1
  have numerator : after.numerator = clock.numerator := by rw [follows.kept]
  have denominator : after.denominator = clock.denominator := by rw [follows.kept]
  have period : after.period = clock.period := by rw [FrameClock.period, denominator]; rfl
  constructor
  · rw [numerator]
    exact valid.ticking
  · rw [numerator]
    exact valid.numeratorFits
  · rw [denominator]
    exact valid.denominatorFits
  · rw [numerator, period]
    exact valid.apart
  · exact started
  · exact fits

/-- The time since the epoch and the deadline of a later tick behind an instant are 64-bit
nanoseconds, and the platform has that deadline. -/
def Representable (latest : Nat) (clock : FrameClock) (now : Nat) : Prop :=
  now - clock.epoch < 2 ^ 64 ∧
    ∃ tick, clock.nextTick < tick ∧ now < clock.deadline tick ∧
      due clock.numerator clock.period tick < 2 ^ 64 ∧ clock.deadline tick ≤ latest

/-- A call returns while time and deadlines are representable, and so does the deadline of the tick
behind it. -/
theorem advancePast_succeeds {latest : Nat} (representable : Representable latest clock now) :
    ∃ after, clock.advancePast now = .ok after ∧
      after.nextDeadline latest = .ok (clock.deadline after.nextTick) := by
  obtain ⟨elapsedFits, tick, behind, ahead, offsetFits, inside⟩ := representable
  have ticking := valid.ticking
  have numeratorFits := valid.numeratorFits
  have periodFits := valid.period_lt
  have started : 0 < tick := Nat.lt_of_le_of_lt (Nat.zero_le _) behind
  have tickFits : tick < 2 ^ 64 :=
    Nat.lt_of_le_of_lt (le_due valid.ticking valid.apart tick) offsetFits
  have first : firstAfter clock.numerator clock.period (now - clock.epoch) ≤ tick :=
    (lt_due_iff valid.ticking valid.positive _ _).mp ((valid.lt_deadline_iff started now).mp ahead)
  have scale : checkedMul128 clock.denominator nanosPerSecond = some clock.period :=
    (checkedMul128_eq_some ..).mpr ⟨rfl, by
      have small : clock.denominator * nanosPerSecond < 2 ^ 62 := periodFits
      omega⟩
  have productFits : (now - clock.epoch + 1) * clock.numerator < 2 ^ 97 :=
    Nat.lt_of_le_of_lt (Nat.mul_le_mul (by omega : _ ≤ 2 ^ 64) (Nat.le_of_lt numeratorFits))
      (by decide)
  have product : (checkedAdd128 (now - clock.epoch) 1).bind (checkedMul128 · clock.numerator) =
      some ((now - clock.epoch + 1) * clock.numerator) := by
    rw [Option.bind_eq_some_iff]
    refine ⟨now - clock.epoch + 1, ?_, ?_⟩
    · rw [checkedAdd128_eq_some]
      omega
    · rw [checkedMul128_eq_some]
      omega
  have raised : checkedAdd128 ((now - clock.epoch + 1) * clock.numerator) (clock.period - 1) =
      some ((now - clock.epoch + 1) * clock.numerator + (clock.period - 1)) := by
    rw [checkedAdd128_eq_some]
    omega
  have future : toU64 (((now - clock.epoch + 1) * clock.numerator + (clock.period - 1)) /
      clock.period) = some (firstAfter clock.numerator clock.period (now - clock.epoch)) :=
    (toU64_eq_some ..).mpr ⟨rfl, Nat.lt_of_le_of_lt first tickFits⟩
  have following : toU64 (clock.nextTick + 1) = some (clock.nextTick + 1) :=
    (toU64_eq_some ..).mpr ⟨rfl, by omega⟩
  obtain ⟨after, advanced⟩ : ∃ after, clock.advancePast now = .ok after := by
    rw [FrameClock.advancePast, scale, product]
    refine ⟨{ clock with
      nextTick := max (clock.nextTick + 1)
        (max (firstAfter clock.numerator clock.period (now - clock.epoch)) 1) }, ?_⟩
    refine (bind_eq_ok ..).mpr ⟨_, rfl, (bind_eq_ok ..).mpr ⟨_, rfl, ?_⟩⟩
    rw [raised]
    refine (bind_eq_ok ..).mpr ⟨_, rfl, ?_⟩
    rw [future]
    refine (bind_eq_ok ..).mpr ⟨_, rfl, ?_⟩
    rw [following]
    exact (bind_eq_ok ..).mpr ⟨_, rfl, rfl⟩
  have follows := follows_of_advancePast valid advanced
  have afterValid := valid_of_advancePast valid advanced
  have bound : after.nextTick ≤ tick := follows.least.2 ⟨behind, ahead⟩
  have offset : due clock.numerator clock.period after.nextTick ≤
      due clock.numerator clock.period tick :=
    (due_strictMono valid.ticking valid.apart).monotone bound
  refine ⟨after, advanced, ?_⟩
  have rated : 0 < clock.denominator := by
    by_contra zero
    have none : clock.denominator = 0 := by omega
    have positive := valid.positive
    rw [FrameClock.period, none, Nat.zero_mul] at positive
    exact Nat.lt_irrefl _ positive
  have computed : frameOffsetNs clock.numerator clock.denominator after.nextTick =
      .ok (due clock.numerator clock.period after.nextTick) :=
    (frameOffsetNs_eq_ok valid.ticking rated valid.denominatorFits afterValid.started
      afterValid.tickFits _).mpr ⟨rfl, Nat.lt_of_le_of_lt offset offsetFits⟩
  have reachable : clock.epoch + due clock.numerator clock.period after.nextTick ≤ latest :=
    Nat.le_trans (Nat.add_le_add_left offset _) inside
  rw [follows.kept, FrameClock.nextDeadline]
  dsimp only
  rw [computed]
  refine (bind_eq_ok ..).mpr ⟨_, rfl, ?_⟩
  rw [if_pos reachable]
  rfl

end

/-- A run of calls leaves a valid clock of the same rate and epoch. -/
theorem valid_of_run {first : FrameClock} (valid : first.Valid) (instants : List Nat)
    (reached : instants.foldlM FrameClock.advancePast first = .ok clock) :
    clock.Valid ∧ clock = { first with nextTick := clock.nextTick } := by
  induction instants generalizing first with
  | nil =>
    cases reached
    exact ⟨valid, rfl⟩
  | cons now instants ih =>
    rw [List.foldlM_cons, bind_eq_ok] at reached
    obtain ⟨middle, advanced, reached⟩ := reached
    have kept := (follows_of_advancePast valid advanced).kept
    obtain ⟨still, same⟩ := ih (valid_of_advancePast valid advanced) reached
    refine ⟨still, ?_⟩
    rw [kept] at same
    exact same

/-- The deadline behind a run of at least one call is later than the one before it. -/
theorem deadline_lt_of_run {first : FrameClock} (valid : first.Valid) (instants : List Nat)
    (some : instants ≠ []) (reached : instants.foldlM FrameClock.advancePast first = .ok clock) :
    first.deadline first.nextTick < clock.deadline clock.nextTick := by
  induction instants generalizing first with
  | nil => exact absurd rfl some
  | cons now instants ih =>
    rw [List.foldlM_cons, bind_eq_ok] at reached
    obtain ⟨middle, advanced, reached⟩ := reached
    have later := (follows_of_advancePast valid advanced).later
    by_cases last : instants = []
    · rw [last] at reached
      cases reached
      exact later
    · exact Nat.lt_trans later (ih (valid_of_advancePast valid advanced) last reached)

/-- The clock of a rate and an epoch after any calls: deadlines are the epoch and the floor of the
exact distance, they only grow, a call moves to the first later tick whose deadline lies strictly
after the instant, and it returns while time is representable. -/
theorem clock_advances (latest : Nat) (numerator denominator : UInt32) (epoch : Nat)
    (first : FrameClock) (started : FrameClock.new numerator denominator epoch = .ok first)
    (instants : List Nat) (clock : FrameClock)
    (reached : instants.foldlM FrameClock.advancePast first = .ok clock) :
    (∀ tick, clock.deadline tick =
        epoch + tick * (denominator.toNat * 1000000000) / numerator.toNat ∧
      (clock.deadline tick - epoch) * numerator.toNat ≤
        tick * (denominator.toNat * 1000000000) ∧
      tick * (denominator.toNat * 1000000000) <
        (clock.deadline tick - epoch) * numerator.toNat + numerator.toNat) ∧
    (∀ before behind earlier, instants = before ++ behind → behind ≠ [] →
      before.foldlM FrameClock.advancePast first = .ok earlier →
        earlier.deadline earlier.nextTick < clock.deadline clock.nextTick) ∧
    ∀ now,
      (∀ after, clock.advancePast now = .ok after → Follows clock now after) ∧
      (Representable latest clock now → ∃ after, clock.advancePast now = .ok after ∧
        after.nextDeadline latest = .ok (clock.deadline after.nextTick)) := by
  obtain ⟨firstValid, same⟩ := new_eq_ok started
  obtain ⟨valid, kept⟩ := valid_of_run firstValid instants reached
  rw [same] at kept
  refine ⟨fun tick => ?_, ?_, fun now => ⟨?_, ?_⟩⟩
  · have exactly :
        due clock.numerator clock.period tick * clock.numerator ≤ tick * clock.period ∧
          tick * clock.period <
            due clock.numerator clock.period tick * clock.numerator + clock.numerator :=
      due_exact valid.ticking tick
    have formula : clock.deadline tick = epoch + due clock.numerator clock.period tick := by
      rw [kept]
      rfl
    have numeratorSame : clock.numerator = numerator.toNat := by rw [kept]
    have periodSame : clock.period = denominator.toNat * 1000000000 := by
      rw [kept]
      rfl
    rw [formula, Nat.add_sub_cancel_left]
    rw [numeratorSame, periodSame] at exactly ⊢
    exact ⟨rfl, exactly⟩
  · intro before behind earlier split some reachedEarlier
    rw [split, List.foldlM_append, bind_eq_ok] at reached
    obtain ⟨middle, front, back⟩ := reached
    rw [reachedEarlier] at front
    cases front
    exact deadline_lt_of_run (valid_of_run firstValid before reachedEarlier).1 behind some back
  · exact fun after advanced => follows_of_advancePast valid advanced
  · exact fun representable => advancePast_succeeds valid representable

/-- A clock of 30000/1001 frames a second at epoch seven, called at an instant between its third and
its fourth deadline. -/
theorem clock_advances_ntsc :
    ∃ first clock after, FrameClock.new 30000 1001 7 = .ok first ∧
      [(7 : Nat)].foldlM FrameClock.advancePast first = .ok clock ∧
      clock.advancePast 110000007 = .ok after ∧ Follows clock 110000007 after ∧
      after.nextDeadline (2 ^ 63) = .ok (clock.deadline after.nextTick) := by
  have started : FrameClock.new 30000 1001 7 = .ok ⟨30000, 1001, 7, 1⟩ := by decide +kernel
  have reached : [(7 : Nat)].foldlM FrameClock.advancePast ⟨30000, 1001, 7, 1⟩ =
      .ok ⟨30000, 1001, 7, 2⟩ := by decide +kernel
  have representable : Representable (2 ^ 63) ⟨30000, 1001, 7, 2⟩ 110000007 :=
    ⟨by decide +kernel, 4, by decide +kernel, by decide +kernel, by decide +kernel,
      by decide +kernel⟩
  have call := (clock_advances (2 ^ 63) 30000 1001 7 ⟨30000, 1001, 7, 1⟩ started [7]
    ⟨30000, 1001, 7, 2⟩ reached).2.2 110000007
  obtain ⟨after, advanced, deadline⟩ := call.2 representable
  exact ⟨_, _, after, started, reached, advanced, call.1 after advanced, deadline⟩

end LatentDeck.Host
