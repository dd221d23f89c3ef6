import LatentDeck.Recording.Controller
import Mathlib.Data.Finset.Card
import Mathlib.Data.Finset.Insert

/-!
# Finalizations of decoded recordings

The epoch that the controller finalizes is in the hands of one stop. The stops that wait are
counted, each of them waits for that epoch or finds its outcome, and those that sleep will be
woken. Every event does one of a few things, and each of these keeps this so.
-/

namespace LatentDeck.Recording

open Checked Fallible Host Output

/-- The recorder that a call of `arm` between its sections has retired. -/
def Phase.retired : Phase → Option (Option Nat)
  | .arming retired | .armed retired _ _ => some retired
  | .idle | .finalizing _ _ | .finalized _ _ | .notifying _ | .waiting _ _ => none

/-- The epoch that a stop is finalizing, and its recorder. -/
def Phase.inHand : Phase → Option (Nat × Nat)
  | .finalizing epoch recorder => some (epoch, recorder)
  | .finalized recorder completed => some (completed.epoch, recorder)
  | .idle | .arming _ | .armed _ _ _ | .notifying _ | .waiting _ _ => none

/-- The epoch that a stop waits for. -/
def Phase.awaited : Phase → Option Nat
  | .waiting epoch _ => some epoch
  | .idle | .arming _ | .armed _ _ _ | .finalizing _ _ | .finalized _ _ | .notifying _ => none

/-- The count is the number of callers that wait for an epoch. -/
def Counted (callers : Nat → Phase) (count : Nat) : Prop :=
  ∃ waiting : Finset Nat, waiting.card = count ∧
    ∀ caller, caller ∈ waiting ↔ (callers caller).awaited ≠ none

/-- The accounts of finalizations agree with what the callers do. -/
structure System.Settles (system : System) : Prop where
  waiters : Counted system.callers system.inner.finalizationWaiters
  quiet : 0 < system.inner.finalizationWaiters → system.inner.recorder = none
  taken : ∀ epoch, system.inner.finalizingEpoch = some epoch →
    system.inner.recorder = none ∧ system.inner.completedFinalization = none ∧
      epoch = system.inner.nextFinalizationEpoch
  inHand : ∀ caller epoch recorder, (system.callers caller).inHand = some (epoch, recorder) →
    system.inner.finalizingEpoch = some epoch ∧ system.latest = some recorder
  alone : ∀ first second, (system.callers first).inHand ≠ none →
    (system.callers second).inHand ≠ none → first = second
  awaited : ∀ caller epoch, (system.callers caller).awaited = some epoch →
    system.inner.finalizingEpoch = some epoch ∨
      ∃ completed, system.inner.completedFinalization = some completed ∧ completed.epoch = epoch
  asleep : ∀ caller epoch, system.callers caller = .waiting epoch false →
    system.inner.finalizingEpoch = some epoch ∨ ∃ other, system.callers other = .notifying epoch
  ordered : system.history.Pairwise fun first second => first.2.epoch < second.2.epoch
  bounded : ∀ entry ∈ system.history, entry.2.epoch ≤ system.inner.nextFinalizationEpoch ∧
    system.inner.finalizingEpoch ≠ some entry.2.epoch
  told : ∀ completed, system.inner.completedFinalization = some completed →
    ∃ recorder, system.history.getLast? = some (recorder, completed) ∧
      system.latest = some recorder
  owner : ∀ recorder, system.inner.recorder = some recorder → system.latest = some recorder

variable {inner : ControllerInner}

/-- The first section of an arm passes when nothing is finalized and nobody waits. -/
theorem armRetire_eq_ok {after : ControllerInner} {observed : RecorderStatus} {retired : Option Nat}
    (passed : inner.armRetire observed = .ok (retired, after)) :
    inner.finalizingEpoch = none ∧ inner.finalizationWaiters = 0 ∧ retired = inner.recorder ∧
      after = { inner with recorder := none } := by
  unfold ControllerInner.armRetire at passed
  split at passed
  · exact nomatch passed
  · rename_i free
    cases passed
    rw [not_or, not_or] at free
    refine ⟨?_, by omega, rfl, rfl⟩
    simpa using free.1

/-- A step in which nobody begins or ends to wait or to finalize. -/
structure Continues (system after : System) : Prop where
  awaited : ∀ caller, (after.callers caller).awaited = (system.callers caller).awaited
  inHand : ∀ caller, (after.callers caller).inHand = (system.callers caller).inHand
  /-- Who sleeps waits for what is finalized, or slept before and will be woken as before. -/
  asleep : ∀ caller epoch, after.callers caller = .waiting epoch false →
    system.inner.finalizingEpoch = some epoch ∨
      (system.callers caller = .waiting epoch false ∧
        ∀ other, system.callers other = .notifying epoch → after.callers other = .notifying epoch)
  finalizing : after.inner.finalizingEpoch = system.inner.finalizingEpoch
  waiters : after.inner.finalizationWaiters = system.inner.finalizationWaiters
  epochs : after.inner.nextFinalizationEpoch = system.inner.nextFinalizationEpoch
  history : after.history = system.history
  completed : after.inner.completedFinalization = system.inner.completedFinalization ∨
    (after.inner.completedFinalization = none ∧ system.inner.finalizationWaiters = 0)
  latest : after.latest = system.latest ∨
    (system.inner.finalizingEpoch = none ∧ after.inner.completedFinalization = none)
  owner : ∀ recorder, after.inner.recorder = some recorder → after.latest = some recorder
  recorder : after.inner.recorder = none ∨ after.inner.recorder = system.inner.recorder ∨
    (system.inner.finalizingEpoch = none ∧ system.inner.finalizationWaiters = 0)

variable {system : System}

/-- A count of zero leaves nobody waiting. -/
theorem System.Settles.unawaited (settles : system.Settles)
    (none : system.inner.finalizationWaiters = 0) (caller : Nat) :
    (system.callers caller).awaited = .none := by
  obtain ⟨waiting, card, same⟩ := settles.waiters
  rw [none, Finset.card_eq_zero] at card
  by_contra waits
  have member := (same caller).mpr waits
  rw [card] at member
  exact absurd member (Finset.notMem_empty caller)

/-- Such a step keeps what holds of finalizations. -/
theorem System.Settles.continued {after : System} (settles : system.Settles)
    (continues : Continues system after) : after.Settles where
  waiters := by
    obtain ⟨waiting, card, same⟩ := settles.waiters
    refine ⟨waiting, card.trans continues.waiters.symm, fun caller => ?_⟩
    rw [continues.awaited]
    exact same caller
  quiet := by
    intro some
    rw [continues.waiters] at some
    rcases continues.recorder with empty | same | ⟨_, nobody⟩
    · exact empty
    · rw [same]
      exact settles.quiet some
    · omega
  taken := by
    intro epoch finalizing
    rw [continues.finalizing] at finalizing
    obtain ⟨empty, unsettled, last⟩ := settles.taken epoch finalizing
    refine ⟨?_, ?_, last.trans continues.epochs.symm⟩
    · rcases continues.recorder with none | same | ⟨nothing, _⟩
      · exact none
      · exact same.trans empty
      · rw [finalizing] at nothing
        exact nomatch nothing
    · rcases continues.completed with same | ⟨cleared, _⟩
      · exact same.trans unsettled
      · exact cleared
  inHand := by
    intro caller epoch recorder inHand
    rw [continues.inHand] at inHand
    rw [continues.finalizing]
    obtain ⟨finalizing, last⟩ := settles.inHand caller epoch recorder inHand
    rcases continues.latest with same | ⟨nothing, _⟩
    · exact ⟨finalizing, same.trans last⟩
    · rw [finalizing] at nothing
      exact nomatch nothing
  alone := by
    intro first second
    rw [continues.inHand, continues.inHand]
    exact settles.alone first second
  awaited := by
    intro caller epoch awaited
    rw [continues.awaited] at awaited
    rw [continues.finalizing]
    rcases continues.completed with same | ⟨_, nobody⟩
    · rw [same]
      exact settles.awaited caller epoch awaited
    · rw [settles.unawaited nobody] at awaited
      exact nomatch awaited
  asleep := by
    intro caller epoch sleeps
    rw [continues.finalizing]
    rcases continues.asleep caller epoch sleeps with now | ⟨slept, notifies⟩
    · exact Or.inl now
    · rcases settles.asleep caller epoch slept with now | ⟨other, told⟩
      · exact Or.inl now
      · exact Or.inr ⟨other, notifies other told⟩
  ordered := by
    rw [continues.history]
    exact settles.ordered
  bounded := by
    rw [continues.history, continues.epochs, continues.finalizing]
    exact settles.bounded
  told := by
    intro completed there
    rw [continues.history]
    rcases continues.completed with same | ⟨cleared, _⟩
    · obtain ⟨recorder, told, last⟩ := settles.told completed (same.symm.trans there)
      rcases continues.latest with same | ⟨_, cleared⟩
      · exact ⟨recorder, told, same.trans last⟩
      · rw [cleared] at there
        exact nomatch there
    · rw [cleared] at there
      exact nomatch there
  owner := continues.owner

variable {caller : Nat} {phase : Phase}

/-- A caller that goes on without waiting or finalizing. -/
theorem continues_of_advance {latest : Option Nat}
    (owner : ∀ recorder, inner.recorder = some recorder → latest = some recorder)
    (last : latest = system.latest ∨
      (system.inner.finalizingEpoch = none ∧ inner.completedFinalization = none))
    (awaited : phase.awaited = (system.callers caller).awaited)
    (inHand : phase.inHand = (system.callers caller).inHand)
    (awake : ∀ epoch, phase = .waiting epoch false → system.inner.finalizingEpoch = some epoch)
    (silent : ∀ epoch, system.callers caller ≠ .notifying epoch)
    (finalizing : inner.finalizingEpoch = system.inner.finalizingEpoch)
    (waiters : inner.finalizationWaiters = system.inner.finalizationWaiters)
    (epochs : inner.nextFinalizationEpoch = system.inner.nextFinalizationEpoch)
    (completed : inner.completedFinalization = system.inner.completedFinalization ∨
      (inner.completedFinalization = none ∧ system.inner.finalizationWaiters = 0))
    (recorder : inner.recorder = none ∨ inner.recorder = system.inner.recorder ∨
      (system.inner.finalizingEpoch = none ∧ system.inner.finalizationWaiters = 0)) :
    Continues system { system.advance caller inner phase with latest } where
  awaited := by
    intro other
    show (Function.update system.callers caller phase other).awaited = _
    by_cases same : other = caller
    · rw [same, Function.update_self]
      exact awaited
    · rw [Function.update_of_ne same]
  inHand := by
    intro other
    show (Function.update system.callers caller phase other).inHand = _
    by_cases same : other = caller
    · rw [same, Function.update_self]
      exact inHand
    · rw [Function.update_of_ne same]
  asleep := by
    intro other epoch sleeps
    have there : Function.update system.callers caller phase other = .waiting epoch false := sleeps
    by_cases same : other = caller
    · rw [same, Function.update_self] at there
      exact Or.inl (awake epoch there)
    · rw [Function.update_of_ne same] at there
      refine Or.inr ⟨there, fun third tells => ?_⟩
      have apart : third ≠ caller := by
        intro same
        rw [same] at tells
        exact silent epoch tells
      show Function.update system.callers caller phase third = _
      rw [Function.update_of_ne apart]
      exact tells
  finalizing := finalizing
  waiters := waiters
  epochs := epochs
  history := rfl
  completed := completed
  latest := last
  owner := owner
  recorder := recorder

/-- What one event comes to. -/
inductive Change (system : System) (event : Event) : Reply → System → Prop where
  | ignored : Change system event .ignored system
  | refused (caller : Nat) (observed : RecorderStatus) (arms : event = .arms caller observed)
      (error : DecodedRecordingError) : Change system event (.armed (.error error)) system
  | retired (caller : Nat) (observed : RecorderStatus) (arms : event = .arms caller observed)
      (idle : system.callers caller = .idle) (unfinalized : system.inner.finalizingEpoch = none)
      (nobody : system.inner.finalizationWaiters = 0)
      (passed : ∃ made, system.inner.armRetire observed = .ok made) :
      Change system event .quiet
        (system.advance caller { system.inner with recorder := none }
          (.arming system.inner.recorder))
  | unstarted (caller : Nat) (retired : Option Nat) (error : RecorderError)
      (starts : event = .starts caller (.error error))
      (arming : system.callers caller = .arming retired) :
      Change system event (.armed (.error (.recorder error)))
        (system.advance caller system.inner .idle)
  | started (caller : Nat) (retired : Option Nat) (status : RecorderStatus)
      (starts : event = .starts caller (.ok status))
      (arming : system.callers caller = .arming retired) :
      Change system event .quiet
        { system.advance caller system.inner (.armed retired system.started status) with
          started := system.started + 1 }
  | uninstalled (caller : Nat) (retired : Option Nat) (recorder : Nat) (status : RecorderStatus)
      (installs : event = .installs caller)
      (armed : system.callers caller = .armed retired recorder status)
      (taken : system.inner.finalizingEpoch ≠ none ∨ 0 < system.inner.finalizationWaiters ∨
        system.inner.recorder ≠ none) :
      Change system event (.armed (.error .active)) (system.advance caller system.inner .idle)
  | installed (caller : Nat) (retired : Option Nat) (recorder : Nat) (status : RecorderStatus)
      (installs : event = .installs caller)
      (armed : system.callers caller = .armed retired recorder status)
      (unfinalized : system.inner.finalizingEpoch = none)
      (nobody : system.inner.finalizationWaiters = 0) :
      Change system event (.armed (.ok status))
        { system.advance caller
            { system.inner with
              completedFinalization := none
              lastStatus := status
              recorder := some recorder } .idle with
          latest := some recorder }
  | observed (reply : Reply) (lastStatus : RecorderStatus)
      (silent : ∀ result, reply ≠ .stopped result ∧ reply ≠ .armed result)
      (there : system.inner.recorder ≠ none ∨ lastStatus = system.inner.lastStatus) :
      Change system event reply { system with inner := { system.inner with lastStatus } }
  | exhausted (caller : Nat) (stops : event = .stops caller) (reply : Reply) (after : System)
      (full : (system.inner.finalizingEpoch ≠ none ∧
          ¬ system.inner.finalizationWaiters + 1 < 2 ^ 64) ∨
        (system.inner.recorder ≠ none ∧ ¬ system.inner.nextFinalizationEpoch + 1 < 2 ^ 64)) :
      Change system event reply after
  | answered (caller : Nat) (stops : event = .stops caller)
      (idle : system.callers caller = .idle) (unfinalized : system.inner.finalizingEpoch = none)
      (empty : system.inner.recorder = none) (result : StopResult)
      (told : (∃ completed, system.inner.completedFinalization = some completed ∧
          result = completed.outcome) ∨
        (system.inner.completedFinalization = none ∧ result = .ok system.inner.lastStatus)) :
      Change system event (.stopped result) (system.advance caller system.inner .idle)
  | joined (caller epoch : Nat) (stops : event = .stops caller)
      (idle : system.callers caller = .idle)
      (finalizing : system.inner.finalizingEpoch = some epoch) :
      Change system event .quiet
        (system.advance caller
          { system.inner with
            finalizationWaiters := system.inner.finalizationWaiters + 1 } (.waiting epoch false))
  | took (caller recorder : Nat) (stops : event = .stops caller)
      (idle : system.callers caller = .idle) (unfinalized : system.inner.finalizingEpoch = none)
      (there : system.inner.recorder = some recorder) :
      Change system event .quiet
        (system.advance caller
          { system.inner with
            recorder := none
            nextFinalizationEpoch := system.inner.nextFinalizationEpoch + 1
            finalizingEpoch := some (system.inner.nextFinalizationEpoch + 1)
            completedFinalization := none
            lastStatus := { system.inner.lastStatus with state := .finalizing } }
          (.finalizing (system.inner.nextFinalizationEpoch + 1) recorder))
  | finalized (caller epoch recorder : Nat) (completed : CompletedFinalization)
      (finalizing : system.callers caller = .finalizing epoch recorder)
      (same : completed.epoch = epoch) :
      Change system event .quiet
        (system.advance caller system.inner (.finalized recorder completed))
  | completed (caller recorder : Nat) (completed : CompletedFinalization)
      (completes : event = .completes caller)
      (finalized : system.callers caller = .finalized recorder completed)
      (finalizing : system.inner.finalizingEpoch = some completed.epoch) :
      Change system event (.stopped completed.outcome)
        { system.advance caller
            { system.inner with
              lastStatus := completed.status
              completedFinalization := some completed
              finalizingEpoch := none } (.notifying completed.epoch) with
          history := system.history ++ [(recorder, completed)] }
  | notified (caller epoch : Nat) (notifying : system.callers caller = .notifying epoch) :
      Change system event .quiet
        { system with
          callers := fun other =>
            if other = caller then .idle else (system.callers other).woken }
  | stirred (caller epoch : Nat) (awake : Bool)
      (waiting : system.callers caller = .waiting epoch awake) :
      Change system event .quiet (system.advance caller system.inner (.waiting epoch true))
  | saw (caller : Nat) (completed : CompletedFinalization) (looks : event = .looks caller)
      (waiting : system.callers caller = .waiting completed.epoch true)
      (there : system.inner.completedFinalization = some completed) :
      Change system event (.stopped completed.outcome)
        (system.advance caller
          { system.inner with
            finalizationWaiters := system.inner.finalizationWaiters - 1 } .idle)
  | slept (caller epoch : Nat) (looks : event = .looks caller)
      (waiting : system.callers caller = .waiting epoch true)
      (finalizing : system.inner.finalizingEpoch = some epoch) :
      Change system event .quiet (system.advance caller system.inner (.waiting epoch false))

/-- An outcome that is looked for is there or not. -/
theorem stopLook_eq (inner : ControllerInner) (epoch : Nat) :
    (∃ completed, inner.completedFinalization = some completed ∧ completed.epoch = epoch ∧
      inner.stopLook epoch = (.answered completed.outcome,
        { inner with finalizationWaiters := inner.finalizationWaiters - 1 })) ∨
    ((∀ completed, inner.completedFinalization = some completed → completed.epoch ≠ epoch) ∧
      inner.stopLook epoch = (.waits epoch, inner)) := by
  unfold ControllerInner.stopLook
  cases there : inner.completedFinalization with
  | none => exact Or.inr ⟨nofun, rfl⟩
  | some completed =>
    by_cases same : completed.epoch = epoch
    · refine Or.inl ⟨completed, rfl, same, ?_⟩
      rw [Option.filter_some, if_pos (decide_eq_true same)]
    · refine Or.inr ⟨fun other found => ?_, ?_⟩
      · rw [← Option.some.inj found]
        exact same
      · rw [Option.filter_some, if_neg (by simpa using same)]

/-- The last section of an arm is refused, or installs the recorder. -/
theorem armInstall_eq (inner : ControllerInner) (recorder : Nat) (status : RecorderStatus) :
    ((inner.finalizingEpoch ≠ none ∨ 0 < inner.finalizationWaiters ∨ inner.recorder ≠ none) ∧
      inner.armInstall recorder status = .error .active) ∨
    (inner.finalizingEpoch = none ∧ inner.finalizationWaiters = 0 ∧
      inner.armInstall recorder status = .ok
        { inner with
          completedFinalization := none
          lastStatus := status
          recorder := some recorder }) := by
  unfold ControllerInner.armInstall
  split
  · rename_i taken
    exact Or.inl ⟨by simpa [Option.isSome_iff_ne_none] using taken, rfl⟩
  · rename_i free
    rw [not_or, not_or] at free
    exact Or.inr ⟨by simpa using free.1, by omega, rfl⟩

/-- A submission changes at most the last status, and only with a recorder. -/
theorem submitIfActive_eq (inner : ControllerInner)
    (answer : Except RecorderError RecorderStatus) (observed : RecorderStatus) :
    ∃ status lastStatus,
      inner.submitIfActive answer observed = (status, { inner with lastStatus }) ∧
        (inner.recorder ≠ none ∨ lastStatus = inner.lastStatus) := by
  unfold ControllerInner.submitIfActive
  split
  · exact ⟨none, inner.lastStatus, rfl, Or.inr rfl⟩
  · rename_i recorder there
    exact ⟨_, _, rfl, Or.inl (by simp [there])⟩

/-- So does asking for the status. -/
theorem status_eq (inner : ControllerInner) (observed : RecorderStatus) :
    ∃ lastStatus, inner.status observed = (lastStatus, { inner with lastStatus }) ∧
      (inner.recorder ≠ none ∨ lastStatus = inner.lastStatus) := by
  unfold ControllerInner.status
  split
  · exact ⟨inner.lastStatus, rfl, Or.inr rfl⟩
  · rename_i recorder there
    exact ⟨_, rfl, Or.inl (by simp [there])⟩

variable {epoch : Nat}

/-- A stop joins a finalization whose outcome is open. -/
theorem stopEnter_joins (finalizing : inner.finalizingEpoch = some epoch)
    (unsettled : inner.completedFinalization = none)
    (room : inner.finalizationWaiters + 1 < 2 ^ 64) :
    inner.stopEnter = (.waits epoch,
      { inner with finalizationWaiters := inner.finalizationWaiters + 1 }) := by
  unfold ControllerInner.stopEnter
  rw [finalizing, (checkedAdd_eq_some ..).mpr ⟨rfl, room⟩]
  rcases stopLook_eq { inner with
    finalizationWaiters := inner.finalizationWaiters + 1 } epoch with
    ⟨completed, there, _⟩ | ⟨_, waits⟩
  · have never : inner.completedFinalization = some completed := there
    rw [unsettled] at never
    exact nomatch never
  · rw [finalizing] at waits
    exact waits

/-- A caller retires the recorder in place, or is refused. -/
theorem arms_changes (caller : Nat) (observed : RecorderStatus) :
    Change system (.arms caller observed) (system.step (.arms caller observed)).1
      (system.step (.arms caller observed)).2 := by
  unfold System.step
  dsimp only
  cases phase : system.callers caller with
  | idle =>
    dsimp only
    cases check : system.inner.armRetire observed with
    | error error => exact .refused caller observed rfl error
    | ok made =>
      obtain ⟨retired, inner⟩ := made
      obtain ⟨unfinalized, nobody, rfl, rfl⟩ := armRetire_eq_ok check
      exact .retired caller observed rfl phase unfinalized nobody ⟨_, check⟩
  | arming _ | armed _ _ _ | finalizing _ _ | finalized _ _ | notifying _ | waiting _ _ =>
    exact .ignored

/-- A caller installs the recorder it started. -/
theorem installs_changes (caller : Nat) :
    Change system (.installs caller) (system.step (.installs caller)).1
      (system.step (.installs caller)).2 := by
  unfold System.step
  dsimp only
  cases phase : system.callers caller with
  | armed retired recorder status =>
    dsimp only
    rcases armInstall_eq system.inner recorder status with
      ⟨taken, refused⟩ | ⟨unfinalized, nobody, handed⟩
    · rw [refused]
      exact .uninstalled caller retired recorder status rfl phase taken
    · rw [handed]
      exact .installed caller retired recorder status rfl phase unfinalized nobody
  | idle | arming _ | finalizing _ _ | finalized _ _ | notifying _ | waiting _ _ => exact .ignored

section

variable (settles : system.Settles)

include settles

/-- A stop takes the recorder, joins its finalization or is answered. -/
theorem stops_changes (caller : Nat) :
    Change system (.stops caller) (system.step (.stops caller)).1
      (system.step (.stops caller)).2 := by
  unfold System.step
  dsimp only
  cases phase : system.callers caller with
  | idle =>
    dsimp only
    cases finalizing : system.inner.finalizingEpoch with
    | some epoch =>
      by_cases room : system.inner.finalizationWaiters + 1 < 2 ^ 64
      · rw [stopEnter_joins finalizing (settles.taken epoch finalizing).2.1 room]
        exact .joined caller epoch rfl phase finalizing
      · refine .exhausted caller rfl _ _ (Or.inl ⟨?_, room⟩)
        rw [finalizing]
        exact Option.some_ne_none _
    | none =>
      unfold ControllerInner.stopEnter
      rw [finalizing]
      cases there : system.inner.recorder with
      | none =>
        dsimp only
        cases completed : system.inner.completedFinalization with
        | some found =>
          exact .answered caller rfl phase finalizing there _ (Or.inl ⟨found, completed, rfl⟩)
        | none => exact .answered caller rfl phase finalizing there _ (Or.inr ⟨completed, rfl⟩)
      | some recorder =>
        dsimp only
        by_cases room : system.inner.nextFinalizationEpoch + 1 < 2 ^ 64
        · rw [(checkedAdd_eq_some ..).mpr ⟨rfl, room⟩]
          exact .took caller recorder rfl phase finalizing there
        · refine .exhausted caller rfl _ _ (Or.inr ⟨?_, room⟩)
          rw [there]
          exact Option.some_ne_none _
  | arming _ | armed _ _ _ | finalizing _ _ | finalized _ _ | notifying _ | waiting _ _ =>
    exact .ignored

/-- A finalization is filed. -/
theorem completes_changes (caller : Nat) :
    Change system (.completes caller) (system.step (.completes caller)).1
      (system.step (.completes caller)).2 := by
  unfold System.step
  dsimp only
  cases phase : system.callers caller with
  | finalized recorder completed =>
    dsimp only
    have finalizing : system.inner.finalizingEpoch = some completed.epoch := by
      apply (settles.inHand caller completed.epoch recorder _).1
      rw [phase]
      rfl
    unfold ControllerInner.stopComplete
    rw [if_neg (not_not.mpr finalizing), if_pos finalizing]
    exact .completed caller recorder completed rfl phase finalizing
  | idle | arming _ | armed _ _ _ | finalizing _ _ | notifying _ | waiting _ _ => exact .ignored

/-- A waiting caller looks for its finalization. -/
theorem looks_changes (caller : Nat) :
    Change system (.looks caller) (system.step (.looks caller)).1
      (system.step (.looks caller)).2 := by
  unfold System.step
  dsimp only
  cases phase : system.callers caller with
  | waiting epoch awake =>
    cases awake with
    | false => exact .ignored
    | true =>
      dsimp only
      rcases stopLook_eq system.inner epoch with ⟨completed, there, same, sees⟩ | ⟨other, waits⟩
      · rw [sees]
        rw [← same] at phase
        exact .saw caller completed rfl phase there
      · rw [waits]
        refine .slept caller epoch rfl phase ?_
        have waits : (system.callers caller).awaited = some epoch := by
          rw [phase]
          rfl
        rcases settles.awaited caller epoch waits with now | ⟨completed, there, same⟩
        · exact now
        · exact absurd same (other completed there)
  | idle | arming _ | armed _ _ _ | finalizing _ _ | finalized _ _ | notifying _ => exact .ignored

/-- Every step is a change. The cases are the events. -/
theorem step_changes (event : Event) :
    Change system event (system.step event).1 (system.step event).2 := by
  cases event with
  | arms caller observed => exact arms_changes caller observed
  | starts caller answer =>
    unfold System.step
    dsimp only
    cases phase : system.callers caller with
    | arming retired =>
      cases answer with
      | error error => exact .unstarted caller retired error rfl phase
      | ok status => exact .started caller retired status rfl phase
    | idle | armed _ _ _ | finalizing _ _ | finalized _ _ | notifying _ | waiting _ _ =>
      exact .ignored
  | installs caller => exact installs_changes caller
  | submits answer observed =>
    unfold System.step
    obtain ⟨status, lastStatus, said, there⟩ := submitIfActive_eq system.inner answer observed
    dsimp only
    rw [said]
    apply Change.observed _ lastStatus _ there
    exact fun _ => ⟨nofun, nofun⟩
  | asks observed =>
    unfold System.step
    obtain ⟨lastStatus, said, there⟩ := status_eq system.inner observed
    dsimp only
    rw [said]
    apply Change.observed _ lastStatus _ there
    exact fun _ => ⟨nofun, nofun⟩
  | stops caller => exact stops_changes settles caller
  | finalizes caller before answer =>
    unfold System.step
    dsimp only
    cases phase : system.callers caller with
    | finalizing epoch recorder =>
      refine .finalized caller epoch recorder _ phase ?_
      unfold finalization
      cases answer <;> rfl
    | idle | arming _ | armed _ _ _ | finalized _ _ | notifying _ | waiting _ _ => exact .ignored
  | completes caller => exact completes_changes settles caller
  | notifies caller =>
    unfold System.step
    dsimp only
    cases phase : system.callers caller with
    | notifying epoch => exact .notified caller epoch phase
    | idle | arming _ | armed _ _ _ | finalizing _ _ | finalized _ _ | waiting _ _ => exact .ignored
  | stirs caller =>
    unfold System.step
    dsimp only
    cases phase : system.callers caller with
    | waiting epoch awake => exact .stirred caller epoch awake phase
    | idle | arming _ | armed _ _ _ | finalizing _ _ | finalized _ _ | notifying _ => exact .ignored
  | looks caller => exact looks_changes settles caller

end

variable {callers : Nat → Phase}

/-- A caller that begins to wait is counted. -/
theorem Counted.joins {count : Nat} (counted : Counted callers count)
    (before : (callers caller).awaited = none) (waits : phase.awaited ≠ none) :
    Counted (Function.update callers caller phase) (count + 1) := by
  obtain ⟨waiting, card, same⟩ := counted
  have outside : caller ∉ waiting := fun member => (same caller).mp member before
  refine ⟨insert caller waiting, ?_, fun other => ?_⟩
  · rw [Finset.card_insert_of_notMem outside, card]
  · by_cases this : other = caller
    · rw [this, Function.update_self]
      exact iff_of_true (Finset.mem_insert_self caller waiting) waits
    · rw [Function.update_of_ne this, Finset.mem_insert, same other]
      exact or_iff_right this

/-- A caller that no longer waits is not. -/
theorem Counted.leaves {count : Nat} (counted : Counted callers count)
    (before : (callers caller).awaited ≠ none) (waits : phase.awaited = none) :
    Counted (Function.update callers caller phase) (count - 1) := by
  obtain ⟨waiting, card, same⟩ := counted
  refine ⟨waiting.erase caller, ?_, fun other => ?_⟩
  · rw [Finset.card_erase_of_mem ((same caller).mpr before), card]
  · by_cases this : other = caller
    · rw [this, Function.update_self]
      exact iff_of_false (Finset.notMem_erase caller waiting) (not_not.mpr waits)
    · rw [Function.update_of_ne this, Finset.mem_erase, same other]
      exact and_iff_right this

/-- A phase that awaits the same leaves the count. -/
theorem Counted.stays {count : Nat} (counted : Counted callers count)
    (same : phase.awaited = (callers caller).awaited) :
    Counted (Function.update callers caller phase) count := by
  obtain ⟨waiting, card, member⟩ := counted
  refine ⟨waiting, card, fun other => ?_⟩
  by_cases this : other = caller
  · rw [this, Function.update_self, same]
    exact member caller
  · rw [Function.update_of_ne this]
    exact member other

/-- Whoever waits is counted. -/
theorem Counted.positive {count : Nat} (counted : Counted callers count)
    (waits : (callers caller).awaited ≠ none) : 0 < count := by
  obtain ⟨waiting, card, same⟩ := counted
  rw [← card]
  exact Finset.card_pos.mpr ⟨caller, (same caller).mpr waits⟩

/-- A completion stands only after its finalization. -/
theorem System.Settles.unfinalized (settles : system.Settles) {completed : CompletedFinalization}
    (there : system.inner.completedFinalization = some completed) :
    system.inner.finalizingEpoch = none := by
  by_contra finalizing
  obtain ⟨epoch, some⟩ := Option.ne_none_iff_exists'.mp finalizing
  have unsettled := (settles.taken epoch some).2.1
  rw [there] at unsettled
  exact nomatch unsettled

/-- Outside of a finalization no caller has a recorder in hand. -/
theorem System.Settles.released (settles : system.Settles)
    (unfinalized : system.inner.finalizingEpoch = none) (caller : Nat) :
    (system.callers caller).inHand = none := by
  by_contra inHand
  obtain ⟨⟨epoch, recorder⟩, some⟩ := Option.ne_none_iff_exists'.mp inHand
  have finalizing := (settles.inHand caller epoch recorder some).1
  rw [unfinalized] at finalizing
  exact nomatch finalizing

/-- A fact of every phase is proved of the new phase and of the others. -/
theorem update_forall (fact : Nat → Phase → Prop) (self : fact caller phase)
    (others : ∀ other, other ≠ caller → fact other (callers other)) (other : Nat) :
    fact other (Function.update callers caller phase other) :=
  (Function.forall_update_iff callers fact).mpr ⟨self, others⟩ other

/-- When nobody waits, a caller that goes on without waiting leaves nobody. -/
theorem advance_unawaited (self : phase.awaited = none)
    (others : ∀ other, (callers other).awaited = none) (other epoch : Nat) :
    (Function.update callers caller phase other).awaited ≠ some epoch := by
  apply update_forall fun _ phase => phase.awaited ≠ some epoch
  · rw [self]
    exact nofun
  · intro other _
    rw [others other]
    exact nofun

/-- When no other caller has a recorder in hand, at most one has. -/
theorem alone_of_released (released : ∀ other, other ≠ caller → (callers other).inHand = none)
    (first second : Nat) (one : (Function.update callers caller phase first).inHand ≠ none)
    (two : (Function.update callers caller phase second).inHand ≠ none) : first = second := by
  have only : ∀ other, (Function.update callers caller phase other).inHand ≠ none →
      other = caller :=
    update_forall (fun other phase => phase.inHand ≠ none → other = caller) (fun _ => rfl)
      fun other apart inHand => absurd (released other apart) inHand
  rw [only first one, only second two]

section

variable (settles : system.Settles)

include settles

/-- A caller that lets go of its recorder leaves at most one in hand. -/
theorem System.Settles.alone_advance (empty : phase.inHand = none)
    (first second : Nat) (one : (Function.update system.callers caller phase first).inHand ≠ none)
    (two : (Function.update system.callers caller phase second).inHand ≠ none) :
    first = second := by
  have before : ∀ other, (Function.update system.callers caller phase other).inHand ≠ none →
      (system.callers other).inHand ≠ none :=
    update_forall (fun other phase => phase.inHand ≠ none → (system.callers other).inHand ≠ none)
      (fun never => absurd empty never) fun _ _ same => same
  exact settles.alone first second (before first one) (before second two)

/-- While one caller goes on that is not to notify, whoever sleeps will be woken. -/
theorem System.Settles.asleep_advance
    (awake : ∀ epoch, phase = .waiting epoch false → system.inner.finalizingEpoch = some epoch)
    (silent : ∀ epoch, system.callers caller ≠ .notifying epoch) (other epoch : Nat)
    (sleeps : (system.advance caller inner phase).callers other = .waiting epoch false) :
    system.inner.finalizingEpoch = some epoch ∨
      ∃ third, (system.advance caller inner phase).callers third = .notifying epoch := by
  have before : ∀ epoch, (system.advance caller inner phase).callers other = .waiting epoch false →
      system.inner.finalizingEpoch = some epoch ∨
        system.callers other = .waiting epoch false :=
    update_forall (fun other phase => ∀ epoch, phase = .waiting epoch false →
      system.inner.finalizingEpoch = some epoch ∨ system.callers other = .waiting epoch false)
      (fun epoch same => Or.inl (awake epoch same)) (fun _ _ _ same => Or.inr same) other
  rcases before epoch sleeps with now | slept
  · exact Or.inl now
  rcases settles.asleep other epoch slept with now | ⟨third, tells⟩
  · exact Or.inl now
  · have apart : third ≠ caller := by
      intro same
      rw [same] at tells
      exact silent epoch tells
    exact Or.inr ⟨third, (Function.update_of_ne apart ..).trans tells⟩

/-- A stop that joins a finalization. -/
theorem System.Settles.joined (idle : system.callers caller = .idle)
    (finalizing : system.inner.finalizingEpoch = some epoch) :
    (system.advance caller
      { system.inner with finalizationWaiters := system.inner.finalizationWaiters + 1 }
      (.waiting epoch false)).Settles where
  waiters := by
    apply settles.waiters.joins
    · rw [idle]
      rfl
    · exact Option.some_ne_none epoch
  quiet := fun _ => (settles.taken epoch finalizing).1
  taken := settles.taken
  inHand := update_forall (fun _ phase => ∀ epoch recorder,
      phase.inHand = some (epoch, recorder) →
        system.inner.finalizingEpoch = some epoch ∧ system.latest = some recorder)
    nofun fun other _ => settles.inHand other
  alone := settles.alone_advance rfl
  awaited := by
    apply update_forall (fun _ phase => ∀ awaited, phase.awaited = some awaited →
      system.inner.finalizingEpoch = some awaited ∨ ∃ completed,
        system.inner.completedFinalization = some completed ∧ completed.epoch = awaited)
    · intro awaited same
      cases same
      exact Or.inl finalizing
    · exact fun other _ => settles.awaited other
  asleep := by
    apply settles.asleep_advance
    · intro awaited sleeps
      cases sleeps
      exact finalizing
    · rw [idle]
      exact nofun
  ordered := settles.ordered
  bounded := settles.bounded
  told := settles.told
  owner := settles.owner

/-- A stop that takes the recorder and begins a finalization. -/
theorem System.Settles.took {recorder : Nat}
    (lastStatus : RecorderStatus) (idle : system.callers caller = .idle)
    (unfinalized : system.inner.finalizingEpoch = none)
    (there : system.inner.recorder = some recorder) :
    (system.advance caller
      { system.inner with
        recorder := none
        nextFinalizationEpoch := system.inner.nextFinalizationEpoch + 1
        finalizingEpoch := some (system.inner.nextFinalizationEpoch + 1)
        completedFinalization := none
        lastStatus }
      (.finalizing (system.inner.nextFinalizationEpoch + 1) recorder)).Settles := by
  have nobody : system.inner.finalizationWaiters = 0 := by
    by_contra some
    have empty := settles.quiet (Nat.pos_of_ne_zero some)
    rw [there] at empty
    exact nomatch empty
  have unawaited := settles.unawaited nobody
  have released := settles.released unfinalized
  constructor
  case waiters =>
    apply settles.waiters.stays
    rw [idle]
    rfl
  case quiet => exact fun _ => rfl
  case taken =>
    intro epoch finalizing
    cases finalizing
    exact ⟨rfl, rfl, rfl⟩
  case inHand =>
    apply update_forall (fun _ phase => ∀ epoch held, phase.inHand = some (epoch, held) →
      some (system.inner.nextFinalizationEpoch + 1) = some epoch ∧ system.latest = some held)
    · intro epoch held same
      cases same
      exact ⟨rfl, settles.owner recorder there⟩
    · intro other _ epoch held inHand
      rw [released other] at inHand
      exact nomatch inHand
  case alone => exact alone_of_released fun other _ => released other
  case awaited =>
    intro other epoch waits
    exact absurd waits (advance_unawaited rfl unawaited other epoch)
  case asleep =>
    intro other epoch sleeps
    exact absurd (congrArg Phase.awaited sleeps) (advance_unawaited rfl unawaited other epoch)
  case ordered => exact settles.ordered
  case bounded =>
    intro completed member
    have last := (settles.bounded completed member).1
    refine ⟨by show _ ≤ system.inner.nextFinalizationEpoch + 1; omega, fun same => ?_⟩
    have equal := Option.some.inj same
    omega
  case told => exact nofun
  case owner => exact nofun

/-- The end of a finalization. -/
theorem System.Settles.completed {recorder : Nat} {completed : CompletedFinalization}
    (finalized : system.callers caller = .finalized recorder completed)
    (finalizing : system.inner.finalizingEpoch = some completed.epoch) :
    System.Settles
      { system.advance caller
          { system.inner with
            lastStatus := completed.status
            completedFinalization := some completed
            finalizingEpoch := none } (.notifying completed.epoch) with
        history := system.history ++ [(recorder, completed)] } := by
  obtain ⟨empty, unsettled, last⟩ := settles.taken completed.epoch finalizing
  have inHand : (system.callers caller).inHand = some (completed.epoch, recorder) := by
    rw [finalized]
    rfl
  constructor
  case waiters =>
    apply settles.waiters.stays
    rw [finalized]
    rfl
  case quiet => exact fun _ => empty
  case taken => exact nofun
  case inHand =>
    apply update_forall (fun _ phase => ∀ epoch held, phase.inHand = some (epoch, held) →
      none = some epoch ∧ system.latest = some held)
    · exact nofun
    · intro other apart epoch held same
      refine absurd (settles.alone other caller ?_ ?_) apart
      · rw [same]
        exact Option.some_ne_none _
      · rw [inHand]
        exact Option.some_ne_none _
  case alone => exact settles.alone_advance rfl
  case awaited =>
    apply update_forall (fun _ phase => ∀ awaited, phase.awaited = some awaited →
      none = some awaited ∨ ∃ told, some completed = some told ∧ told.epoch = awaited)
    · exact nofun
    · intro other _ awaited waits
      rcases settles.awaited other awaited waits with now | ⟨told, there, _⟩
      · rw [finalizing] at now
        exact Or.inr ⟨completed, rfl, Option.some.inj now⟩
      · rw [unsettled] at there
        exact nomatch there
  case asleep =>
    have told : ∀ epoch, system.inner.finalizingEpoch = some epoch → completed.epoch = epoch := by
      intro epoch now
      exact Option.some.inj (finalizing.symm.trans now)
    intro other epoch sleeps
    have same : completed.epoch = epoch := by
      have waits : (Function.update system.callers caller (.notifying completed.epoch)
        other).awaited = some epoch := congrArg Phase.awaited sleeps
      revert waits
      apply update_forall fun _ phase => phase.awaited = some epoch → completed.epoch = epoch
      · exact nofun
      · intro other _ waits
        rcases settles.awaited other epoch waits with now | ⟨found, there, _⟩
        · exact told epoch now
        · rw [unsettled] at there
          exact nomatch there
    rw [← same]
    exact Or.inr ⟨caller, Function.update_self ..⟩
  case ordered =>
    rw [List.pairwise_append]
    refine ⟨settles.ordered, List.pairwise_singleton .., fun earlier member later one => ?_⟩
    rw [List.mem_singleton] at one
    obtain ⟨bound, other⟩ := settles.bounded earlier member
    have apart : completed.epoch ≠ earlier.2.epoch := by
      intro same
      rw [finalizing, same] at other
      exact other rfl
    rw [one]
    show earlier.2.epoch < completed.epoch
    omega
  case bounded =>
    intro earlier member
    refine ⟨?_, nofun⟩
    rcases List.mem_append.mp member with before | one
    · exact (settles.bounded earlier before).1
    · rw [List.mem_singleton.mp one]
      exact last.le
  case told =>
    intro told there
    cases there
    exact ⟨recorder, List.getLast?_concat .., (settles.inHand caller _ _ inHand).2⟩
  case owner => exact fun other there => settles.owner other there

/-- A waiter that sees its completion. -/
theorem System.Settles.saw (waiting : system.callers caller = .waiting epoch true) :
    (system.advance caller
      { system.inner with finalizationWaiters := system.inner.finalizationWaiters - 1 }
      .idle).Settles where
  waiters := by
    apply settles.waiters.leaves
    · rw [waiting]
      exact Option.some_ne_none epoch
    · rfl
  quiet := by
    intro some
    have more : 0 < system.inner.finalizationWaiters - 1 := some
    apply settles.quiet
    omega
  taken := settles.taken
  inHand := update_forall (fun _ phase => ∀ epoch recorder,
      phase.inHand = some (epoch, recorder) →
        system.inner.finalizingEpoch = some epoch ∧ system.latest = some recorder)
    nofun fun other _ => settles.inHand other
  alone := settles.alone_advance rfl
  awaited := update_forall (fun _ phase => ∀ awaited, phase.awaited = some awaited →
      system.inner.finalizingEpoch = some awaited ∨ ∃ completed,
        system.inner.completedFinalization = some completed ∧ completed.epoch = awaited)
    nofun fun other _ => settles.awaited other
  asleep := by
    apply settles.asleep_advance
    · exact nofun
    · rw [waiting]
      exact nofun
  ordered := settles.ordered
  bounded := settles.bounded
  told := settles.told
  owner := settles.owner

end

/-- A wake changes not what is awaited. -/
@[simp] theorem Phase.woken_awaited (phase : Phase) : phase.woken.awaited = phase.awaited := by
  cases phase <;> rfl

/-- Nor what is in hand. -/
@[simp] theorem Phase.woken_inHand (phase : Phase) : phase.woken.inHand = phase.inHand := by
  cases phase <;> rfl

/-- Nor what was retired. -/
@[simp] theorem Phase.woken_retired (phase : Phase) : phase.woken.retired = phase.retired := by
  cases phase <;> rfl

/-- Nobody sleeps after it. -/
theorem Phase.woken_awake (phase : Phase) (epoch : Nat) : phase.woken ≠ .waiting epoch false := by
  cases phase <;> exact nofun

/-- A notification wakes the waiters and changes no account. -/
theorem continues_of_notified (settles : system.Settles)
    (notifying : system.callers caller = .notifying epoch) :
    Continues system
      { system with
        callers := fun other =>
          if other = caller then .idle else (system.callers other).woken } where
  awaited := by
    intro other
    dsimp only
    split
    · rename_i same
      rw [same, notifying]
      rfl
    · exact Phase.woken_awaited _
  inHand := by
    intro other
    dsimp only
    split
    · rename_i same
      rw [same, notifying]
      rfl
    · exact Phase.woken_inHand _
  asleep := by
    intro other awaited sleeps
    dsimp only at sleeps
    split at sleeps
    · exact nomatch sleeps
    · exact absurd sleeps (Phase.woken_awake _ awaited)
  finalizing := rfl
  waiters := rfl
  epochs := rfl
  history := rfl
  completed := Or.inl rfl
  latest := Or.inl rfl
  owner := settles.owner
  recorder := Or.inr (Or.inl rfl)

/-- The condition under which the controller keeps its word: arms do not overlap between their
sections, an arm that has retired a recorder starts another and meets no stop before, and no counter
is exhausted. -/
def System.Orderly (system : System) : Event → Prop
  | .arms _ observed => (∃ made, system.inner.armRetire observed = .ok made) →
      ∀ caller, (system.callers caller).retired = none
  | .starts caller (.error _) =>
      ∀ recorder, (system.callers caller).retired ≠ some (some recorder)
  | .stops _ =>
      (∀ caller recorder, (system.callers caller).retired ≠ some (some recorder)) ∧
        (system.inner.finalizingEpoch ≠ none → system.inner.finalizationWaiters + 1 < 2 ^ 64) ∧
          (system.inner.recorder ≠ none → system.inner.nextFinalizationEpoch + 1 < 2 ^ 64)
  | .starts _ (.ok _) | .installs _ | .submits _ _ | .asks _ | .finalizes _ _ _ | .completes _
  | .notifies _ | .stirs _ | .looks _ => True

/-- An orderly stop finds no counter exhausted. -/
theorem not_exhausted (orderly : system.Orderly (.stops caller)) :
    ¬ ((system.inner.finalizingEpoch ≠ none ∧
        ¬ system.inner.finalizationWaiters + 1 < 2 ^ 64) ∨
      (system.inner.recorder ≠ none ∧ ¬ system.inner.nextFinalizationEpoch + 1 < 2 ^ 64)) := by
  obtain ⟨_, waiters, epochs⟩ := orderly
  rintro (⟨finalizing, full⟩ | ⟨there, full⟩)
  · exact full (waiters finalizing)
  · exact full (epochs there)

/-- An orderly step settles the accounts again. The cases are the changes. -/
theorem System.Settles.stepped {after : System} {event : Event} {reply : Reply}
    (settles : system.Settles) (orderly : system.Orderly event)
    (change : Change system event reply after) : after.Settles := by
  cases change with
  | ignored | refused => exact settles
  | retired caller observed _ idle unfinalized nobody =>
    apply settles.continued
    apply continues_of_advance (fun _ never => absurd never.symm (Option.some_ne_none _))
      (Or.inl rfl) <;> simp [idle, Phase.awaited, Phase.inHand]
  | unstarted caller retired error _ arming =>
    apply settles.continued
    apply continues_of_advance settles.owner (Or.inl rfl) <;>
      simp [arming, Phase.awaited, Phase.inHand]
  | started caller retired status _ arming =>
    have continues : Continues system
        (system.advance caller system.inner (.armed retired system.started status)) := by
      apply continues_of_advance settles.owner (Or.inl rfl) <;>
      simp [arming, Phase.awaited, Phase.inHand]
    exact settles.continued { continues with }
  | uninstalled caller retired recorder status _ armed =>
    apply settles.continued
    apply continues_of_advance settles.owner (Or.inl rfl) <;>
      simp [armed, Phase.awaited, Phase.inHand]
  | installed caller retired recorder status _ armed unfinalized nobody =>
    apply settles.continued
    apply continues_of_advance (fun _ same => same) (Or.inr ⟨unfinalized, rfl⟩) <;>
      simp [armed, unfinalized, nobody, Phase.awaited, Phase.inHand]
  | observed reply lastStatus _ there =>
    exact { settles with }
  | exhausted caller stops _ _ full =>
    rw [stops] at orderly
    exact absurd full (not_exhausted orderly)
  | answered caller _ idle =>
    apply settles.continued
    apply continues_of_advance settles.owner (Or.inl rfl) <;>
      simp [idle, Phase.awaited, Phase.inHand]
  | joined caller epoch _ idle finalizing => exact settles.joined idle finalizing
  | took caller recorder _ idle unfinalized there => exact settles.took _ idle unfinalized there
  | finalized caller epoch recorder completed finalizing same =>
    apply settles.continued
    apply continues_of_advance settles.owner (Or.inl rfl) <;>
      simp [finalizing, same, Phase.awaited, Phase.inHand]
  | completed caller recorder completed _ finalized finalizing =>
    exact settles.completed finalized finalizing
  | notified caller epoch notifying =>
    exact settles.continued (continues_of_notified settles notifying)
  | stirred caller epoch awake waiting =>
    apply settles.continued
    apply continues_of_advance settles.owner (Or.inl rfl) <;>
      simp [waiting, Phase.awaited, Phase.inHand]
  | saw caller completed _ waiting there => exact settles.saw waiting
  | slept caller epoch _ waiting finalizing =>
    apply settles.continued
    apply continues_of_advance settles.owner (Or.inl rfl) <;>
      simp [waiting, finalizing, Phase.awaited, Phase.inHand]

end LatentDeck.Recording
