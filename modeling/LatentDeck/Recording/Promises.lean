import LatentDeck.Recording.Finalizations

/-!
# What the controller of recordings promises

While arms do not overlap and do not fail after they have retired a recorder, at most one recorder
is live, a stop answers the outcome of the last recording until another is armed, and an arm that
fails leaves everything as it was. An arm that retires a failed recorder and then fails itself loses
the outcome, and two arms that overlap hold a recorder each.
-/

namespace LatentDeck.Recording

open Checked Fallible Host Output

structure System.Arms (system : System) : Prop where
  free : ∀ caller, (system.callers caller).retired ≠ none → system.inner.recorder = none ∧
    system.inner.finalizingEpoch = none ∧ system.inner.finalizationWaiters = 0
  alone : ∀ first second, (system.callers first).retired ≠ none →
    (system.callers second).retired ≠ none → first = second
  recorded : system.inner.recorder ≠ none ∨ system.inner.finalizingEpoch ≠ none ∨
    system.inner.completedFinalization ≠ none ∨
      (∃ caller recorder, (system.callers caller).retired = some (some recorder)) ∨
        (system.inner.lastStatus = .fresh .idle ∧ system.latest = none)

variable {system : System}

theorem System.Arms.nobody (arms : system.Arms)
    (busy : system.inner.recorder ≠ none ∨ system.inner.finalizingEpoch ≠ none ∨
      0 < system.inner.finalizationWaiters) (caller : Nat) :
    (system.callers caller).retired = none := by
  by_contra between
  obtain ⟨empty, unfinalized, nobody⟩ := arms.free caller between
  rcases busy with there | finalizing | some
  · exact there empty
  · exact finalizing unfinalized
  · omega

/-- When no arm is between its sections, only the status is to be accounted for. -/
theorem arms_of_nobody (nobody : ∀ caller, (system.callers caller).retired = none)
    (recorded : system.inner.recorder ≠ none ∨ system.inner.finalizingEpoch ≠ none ∨
      system.inner.completedFinalization ≠ none ∨
        (system.inner.lastStatus = .fresh .idle ∧ system.latest = none)) : system.Arms where
  free := fun caller between => absurd (nobody caller) between
  alone := fun first _ between => absurd (nobody first) between
  recorded := by
    rcases recorded with there | finalizing | completed | fresh
    · exact Or.inl there
    · exact Or.inr (Or.inl finalizing)
    · exact Or.inr (Or.inr (Or.inl completed))
    · exact Or.inr (Or.inr (Or.inr (Or.inr fresh)))

variable {after : System}

/-- Nothing changes for arms while the controller stays and nobody arms. -/
theorem System.Arms.alike (arms : system.Arms)
    (retired : ∀ caller, (after.callers caller).retired = (system.callers caller).retired)
    (inner : after.inner = system.inner) (latest : after.latest = system.latest) :
    after.Arms where
  free := by
    intro caller
    rw [retired, inner]
    exact arms.free caller
  alone := by
    intro first second
    rw [retired, retired]
    exact arms.alone first second
  recorded := by
    rw [inner, latest]
    simp only [retired]
    exact arms.recorded

variable {caller : Nat} {phase : Phase} {callers : Nat → Phase}

theorem retired_update (same : phase.retired = (callers caller).retired) (other : Nat) :
    (Function.update callers caller phase other).retired = (callers other).retired :=
  update_forall (fun other phase => phase.retired = (callers other).retired) same
    (fun _ _ => rfl) other

theorem System.Arms.retired (arms : system.Arms)
    (nobody : ∀ other, (system.callers other).retired = none)
    (unfinalized : system.inner.finalizingEpoch = none)
    (unawaited : system.inner.finalizationWaiters = 0) :
    (system.advance caller { system.inner with recorder := none }
      (.arming system.inner.recorder)).Arms where
  free := fun _ _ => ⟨rfl, unfinalized, unawaited⟩
  alone := by
    have only : ∀ other, (Function.update system.callers caller
        (.arming system.inner.recorder) other).retired ≠ none → other = caller :=
      update_forall (fun other phase => phase.retired ≠ none → other = caller) (fun _ => rfl)
        fun other _ between => absurd (nobody other) between
    intro first second one two
    rw [only first one, only second two]
  recorded := by
    rcases arms.recorded with there | finalizing | completed | ⟨other, recorder, between⟩ | fresh
    · obtain ⟨recorder, there⟩ := Option.ne_none_iff_exists'.mp there
      refine Or.inr (Or.inr (Or.inr (Or.inl ⟨caller, recorder, ?_⟩)))
      show (Function.update system.callers caller _ caller).retired = _
      rw [Function.update_self, there]
      rfl
    · exact absurd unfinalized finalizing
    · exact Or.inr (Or.inr (Or.inl completed))
    · rw [nobody other] at between
      exact nomatch between
    · exact Or.inr (Or.inr (Or.inr (Or.inr fresh)))

theorem System.Arms.unstarted (arms : system.Arms)
    (nothing : ∀ recorder, (system.callers caller).retired ≠ some (some recorder)) :
    (system.advance caller system.inner .idle).Arms where
  free := by
    apply update_forall (fun _ phase => phase.retired ≠ none → system.inner.recorder = none ∧
      system.inner.finalizingEpoch = none ∧ system.inner.finalizationWaiters = 0)
    · exact fun never => absurd rfl never
    · exact fun other _ => arms.free other
  alone := by
    have before : ∀ other, (Function.update system.callers caller .idle other).retired ≠ none →
        (system.callers other).retired ≠ none :=
      update_forall (fun other phase => phase.retired ≠ none →
        (system.callers other).retired ≠ none) (fun never => absurd rfl never) fun _ _ same => same
    intro first second one two
    exact arms.alone first second (before first one) (before second two)
  recorded := by
    rcases arms.recorded with there | finalizing | completed | ⟨other, recorder, between⟩ | fresh
    · exact Or.inl there
    · exact Or.inr (Or.inl finalizing)
    · exact Or.inr (Or.inr (Or.inl completed))
    · refine Or.inr (Or.inr (Or.inr (Or.inl ⟨other, recorder, ?_⟩)))
      have apart : other ≠ caller := by
        intro same
        rw [same] at between
        exact nothing recorder between
      exact (congrArg Phase.retired (Function.update_of_ne apart ..)).trans between
    · exact Or.inr (Or.inr (Or.inr (Or.inr fresh)))

variable {event : Event}

theorem System.Arms.stepped {reply : Reply} (settles : system.Settles)
    (arms : system.Arms) (orderly : system.Orderly event)
    (change : Change system event reply after) : after.Arms := by
  cases change with
  | ignored | refused => exact arms
  | retired caller observed arming idle unfinalized nobody passed =>
    rw [arming] at orderly
    exact arms.retired (orderly passed) unfinalized nobody
  | unstarted caller retired error starts arming =>
    rw [starts] at orderly
    exact arms.unstarted orderly
  | started caller retired status _ arming =>
    exact arms.alike (retired_update (by rw [arming]; rfl)) rfl rfl
  | uninstalled caller retired recorder status _ armed taken =>
    have between : (system.callers caller).retired ≠ none := by
      rw [armed]
      exact Option.some_ne_none retired
    refine absurd (arms.nobody ?_ caller) between
    rcases taken with finalizing | some | there
    · exact Or.inr (Or.inl finalizing)
    · exact Or.inr (Or.inr some)
    · exact Or.inl there
  | installed caller retired recorder status _ armed unfinalized nobody =>
    refine arms_of_nobody ?_ (Or.inl (Option.some_ne_none recorder))
    apply update_forall (fun _ phase => phase.retired = none) rfl
    intro other apart
    by_contra between
    exact apart (arms.alone other caller between (by rw [armed]; exact Option.some_ne_none retired))
  | observed reply lastStatus _ there =>
    rcases there with there | same
    · exact arms_of_nobody (arms.nobody (Or.inl there)) (Or.inl there)
    · rw [same]
      exact arms
  | exhausted caller stops _ _ full =>
    rw [stops] at orderly
    exact absurd full (not_exhausted orderly)
  | answered caller _ idle => exact arms.alike (retired_update (by rw [idle])) rfl rfl
  | joined caller epoch _ idle finalizing =>
    have busy : system.inner.finalizingEpoch ≠ none := by
      rw [finalizing]
      exact Option.some_ne_none epoch
    refine arms_of_nobody ?_ (Or.inr (Or.inl busy))
    exact update_forall (fun _ phase => phase.retired = none) rfl
      fun other _ => arms.nobody (Or.inr (Or.inl busy)) other
  | took caller recorder _ idle _ there =>
    have busy : system.inner.recorder ≠ none := by
      rw [there]
      exact Option.some_ne_none recorder
    refine arms_of_nobody ?_ (Or.inr (Or.inl (Option.some_ne_none _)))
    exact update_forall (fun _ phase => phase.retired = none) rfl
      fun other _ => arms.nobody (Or.inl busy) other
  | finalized caller epoch recorder completed finalizing =>
    exact arms.alike (retired_update (by rw [finalizing]; rfl)) rfl rfl
  | completed caller recorder completed _ finalized finalizing =>
    have busy : system.inner.finalizingEpoch ≠ none := by
      rw [finalizing]
      exact Option.some_ne_none _
    refine arms_of_nobody ?_ (Or.inr (Or.inr (Or.inl (Option.some_ne_none completed))))
    exact update_forall (fun _ phase => phase.retired = none) rfl
      fun other _ => arms.nobody (Or.inr (Or.inl busy)) other
  | notified caller epoch notifying =>
    refine arms.alike (fun other => ?_) rfl rfl
    dsimp only
    split
    · rename_i same
      rw [same, notifying]
      rfl
    · exact Phase.woken_retired _
  | stirred caller epoch awake waiting =>
    exact arms.alike (retired_update (by rw [waiting]; rfl)) rfl rfl
  | saw caller completed _ waiting there =>
    have waits : (system.callers caller).awaited ≠ none := by
      rw [waiting]
      exact Option.some_ne_none _
    have some := settles.waiters.positive waits
    refine arms_of_nobody ?_ (Or.inr (Or.inr (Or.inl ?_)))
    · exact update_forall (fun _ phase => phase.retired = none) rfl
        fun other _ => arms.nobody (Or.inr (Or.inr some)) other
    · show system.inner.completedFinalization ≠ none
      rw [there]
      exact Option.some_ne_none completed
  | slept caller epoch _ waiting =>
    exact arms.alike (retired_update (by rw [waiting]; rfl)) rfl rfl

abbrev Stepped : Type := Run.Step System Event Reply

/-- The steps of a run from the first call on. -/
def stepsOf (events : List Event) : List Stepped := Run.steps System.step System.new events

def Phase.recorder : Phase → Option Nat
  | .arming retired => retired
  | .armed _ recorder _ => some recorder
  | .finalizing _ recorder => some recorder
  | .idle | .finalized _ _ | .notifying _ | .waiting _ _ => none

/-- The recorder that is in the slot of the controller, or that a caller holds. -/
def System.holds (system : System) : Option Nat → Option Nat
  | none => system.inner.recorder
  | some caller => (system.callers caller).recorder

structure Coherent (events : List Event) : Prop where
  single : ∀ step ∈ stepsOf events, ∀ first second, step.after.holds first ≠ none →
    step.after.holds second ≠ none → first = second
  joins : ∀ step ∈ stepsOf events, ∀ caller epoch, step.input = .stops caller →
    step.before.callers caller = .idle → step.before.inner.finalizingEpoch = some epoch →
      step.after.callers caller = .waiting epoch false
  once : ∀ step ∈ stepsOf events,
    step.after.history.Pairwise fun first second => first.2.epoch < second.2.epoch
  /-- A stop that has waited answers with the outcome of the epoch that it has waited for. -/
  joined : ∀ step ∈ stepsOf events, ∀ caller epoch result, step.input = .looks caller →
    step.before.callers caller = .waiting epoch true → step.output = .stopped result →
      ∃ entry ∈ step.before.history, entry.2.epoch = epoch ∧ result = entry.2.outcome
  prompt : ∀ step ∈ stepsOf events, ∀ caller epoch, step.input = .looks caller →
    step.before.callers caller = .waiting epoch true →
      (∃ entry ∈ step.before.history, entry.2.epoch = epoch) →
        ∃ result, step.output = .stopped result
  woken : ∀ step ∈ stepsOf events, ∀ caller epoch,
    step.after.callers caller = .waiting epoch false →
      step.after.inner.finalizingEpoch = some epoch ∨
        ∃ other, step.after.callers other = .notifying epoch
  stable : ∀ earlier between later first second result again,
    stepsOf events = earlier ++ first :: (between ++ second :: later) →
      first.output = .stopped result → second.output = .stopped again →
        (∀ step ∈ between, ∀ status, step.output ≠ .armed (.ok status)) → again = result
  refused : ∀ step ∈ stepsOf events, ∀ caller observed error, step.input = .arms caller observed →
    step.output = .armed (.error error) → step.after = step.before
  kept : ∀ earlier between later first last caller observed error,
    stepsOf events = earlier ++ first :: (between ++ last :: later) →
      first.input = .arms caller observed →
        (∀ step ∈ between, ∀ observed, step.input ≠ .arms caller observed) →
          ((∃ answer, last.input = .starts caller answer) ∨ last.input = .installs caller) →
            last.output = .armed (.error error) → last.after.inner = first.before.inner
  /-- A stop answers the outcome of the last recorder that was handed over, if there was one. -/
  truthful : ∀ step ∈ stepsOf events, ∀ result, step.output = .stopped result →
    (∃ recorder completed, step.after.history.getLast? = some (recorder, completed) ∧
      step.after.latest = some recorder ∧ result = completed.outcome) ∨
    (step.after.latest = none ∧ result = .ok (.fresh .idle))

structure System.Sound (system : System) : Prop where
  settles : system.Settles
  arms : system.Arms

theorem new_sound : System.new.Sound where
  settles := by
    constructor
    case waiters => exact ⟨∅, rfl, fun _ => iff_of_false (Finset.notMem_empty _) (not_not.mpr rfl)⟩
    case quiet => exact fun _ => rfl
    case taken => exact nofun
    case inHand => exact nofun
    case alone => exact fun _ _ never => absurd rfl never
    case awaited => exact nofun
    case asleep => exact nofun
    case ordered => exact List.Pairwise.nil
    case bounded => exact nofun
    case told => exact nofun
    case owner => exact nofun
  arms := arms_of_nobody (fun _ => rfl) (Or.inr (Or.inr (Or.inr ⟨rfl, rfl⟩)))

theorem System.Sound.changes (sound : system.Sound) (event : Event) :
    Change system event (system.step event).1 (system.step event).2 :=
  step_changes sound.settles event

theorem System.Sound.stepped (sound : system.Sound) (orderly : system.Orderly event) :
    (system.step event).2.Sound where
  settles := sound.settles.stepped orderly (sound.changes event)
  arms := sound.arms.stepped sound.settles orderly (sound.changes event)

theorem Phase.holds (held : phase.recorder ≠ none) :
    phase.retired ≠ none ∨ phase.inHand ≠ none := by
  cases phase with
  | arming retired => exact Or.inl (Option.some_ne_none retired)
  | armed retired recorder status => exact Or.inl (Option.some_ne_none retired)
  | finalizing epoch recorder => exact Or.inr (Option.some_ne_none _)
  | idle | finalized _ _ | notifying _ | waiting _ _ => exact absurd rfl held

theorem System.Settles.busy (settles : system.Settles)
    (inHand : (system.callers caller).inHand ≠ none) :
    system.inner.finalizingEpoch ≠ none ∧ system.inner.recorder = none := by
  obtain ⟨⟨epoch, recorder⟩, same⟩ := Option.ne_none_iff_exists'.mp inHand
  have finalizing := (settles.inHand caller epoch recorder same).1
  refine ⟨?_, (settles.taken epoch finalizing).1⟩
  rw [finalizing]
  exact Option.some_ne_none epoch

theorem System.Sound.slot_empty (sound : system.Sound)
    (held : (system.callers caller).recorder ≠ none) : system.inner.recorder = none := by
  rcases Phase.holds held with between | inHand
  · exact (sound.arms.free caller between).1
  · exact (sound.settles.busy inHand).2

/-- In a sound state at most one recorder is held. -/
theorem System.Sound.single (sound : system.Sound) {first second : Option Nat}
    (one : system.holds first ≠ none) (two : system.holds second ≠ none) : first = second := by
  cases first with
  | none =>
    cases second with
    | none => rfl
    | some caller => exact absurd (sound.slot_empty two) one
  | some first =>
    cases second with
    | none => exact absurd (sound.slot_empty one) two
    | some second =>
      have apart : ∀ {arming stopping : Nat}, (system.callers arming).retired ≠ none →
          (system.callers stopping).inHand ≠ none → False := by
        intro arming stopping between inHand
        exact (sound.settles.busy inHand).1 (sound.arms.free arming between).2.1
      rcases Phase.holds one with between | inHand <;> rcases Phase.holds two with also | too
      · rw [sound.arms.alone first second between also]
      · exact (apart between too).elim
      · exact (apart also inHand).elim
      · rw [sound.settles.alone first second inHand too]

/-- What the next stop answers while nothing is recorded or finalized. -/
structure System.Tells (system : System) (result : StopResult) : Prop where
  unfinalized : system.inner.finalizingEpoch = none
  empty : system.inner.recorder = none
  told : (∃ completed, system.inner.completedFinalization = some completed ∧
      result = completed.outcome) ∨
    (system.inner.completedFinalization = none ∧ result = .ok system.inner.lastStatus)

theorem System.Tells.unique {result again : StopResult} (tells : system.Tells result)
    (told : (∃ completed, system.inner.completedFinalization = some completed ∧
        again = completed.outcome) ∨
      (system.inner.completedFinalization = none ∧ again = .ok system.inner.lastStatus)) :
    again = result := by
  rcases tells.told with ⟨completed, there, same⟩ | ⟨nothing, same⟩ <;>
    rcases told with ⟨other, found, equal⟩ | ⟨missing, equal⟩
  · rw [there] at found
    rw [equal, same, Option.some.inj found]
  · rw [there] at missing
    exact nomatch missing
  · rw [nothing] at found
    exact nomatch found
  · rw [equal, same]

variable {epoch : Nat}

theorem System.Settles.quiet_of_waiting (settles : system.Settles) {awake : Bool}
    (waiting : system.callers caller = .waiting epoch awake) : system.inner.recorder = none := by
  apply settles.quiet
  have waits : (system.callers caller).awaited ≠ none := by
    rw [waiting]
    exact Option.some_ne_none epoch
  exact settles.waiters.positive waits

variable {result : StopResult}

/-- After a stop has answered, the next one answers the same. -/
theorem tells_of_stopped (settles : system.Settles)
    (orderly : system.Orderly event) (change : Change system event (.stopped result) after) :
    after.Tells result := by
  cases change with
  | observed _ _ silent => exact absurd rfl (silent result).1
  | exhausted caller stops _ _ full =>
    rw [stops] at orderly
    exact absurd full (not_exhausted orderly)
  | answered caller _ _ unfinalized empty _ told => exact ⟨unfinalized, empty, told⟩
  | completed caller recorder completed _ _ finalizing =>
    exact ⟨rfl, (settles.taken _ finalizing).1, Or.inl ⟨completed, rfl, rfl⟩⟩
  | saw caller completed _ waiting there =>
    exact ⟨settles.unfinalized there, settles.quiet_of_waiting waiting,
      Or.inl ⟨completed, there, rfl⟩⟩

/-- Until an arm succeeds the next stop answers the same. -/
theorem System.Tells.stepped {reply : Reply}
    (tells : system.Tells result) (orderly : system.Orderly event)
    (change : Change system event reply after) (unarmed : ∀ status, reply ≠ .armed (.ok status)) :
    after.Tells result := by
  cases change with
  | ignored | refused | unstarted | started | uninstalled | answered | finalized | notified
  | stirred | slept => exact ⟨tells.unfinalized, tells.empty, tells.told⟩
  | retired => exact ⟨tells.unfinalized, rfl, tells.told⟩
  | installed caller retired recorder status => exact absurd rfl (unarmed status)
  | observed _ lastStatus _ there =>
    rcases there with there | same
    · exact absurd tells.empty there
    · rw [same]
      exact ⟨tells.unfinalized, tells.empty, tells.told⟩
  | exhausted caller stops _ _ full =>
    rw [stops] at orderly
    exact absurd full (not_exhausted orderly)
  | joined caller epoch _ _ finalizing =>
    rw [tells.unfinalized] at finalizing
    exact nomatch finalizing
  | took caller recorder _ _ _ there =>
    rw [tells.empty] at there
    exact nomatch there
  | completed caller recorder completed _ _ finalizing =>
    rw [tells.unfinalized] at finalizing
    exact nomatch finalizing
  | saw => exact ⟨tells.unfinalized, tells.empty, tells.told⟩

theorem System.Tells.answers {result again : StopResult}
    (tells : system.Tells result) (orderly : system.Orderly event)
    (change : Change system event (.stopped again) after) : again = result := by
  cases change with
  | observed _ _ silent => exact absurd rfl (silent again).1
  | exhausted caller stops _ _ full =>
    rw [stops] at orderly
    exact absurd full (not_exhausted orderly)
  | answered caller _ _ _ _ _ told => exact tells.unique told
  | completed caller recorder completed _ _ finalizing =>
    rw [tells.unfinalized] at finalizing
    exact nomatch finalizing
  | saw caller completed _ _ there => exact tells.unique (Or.inl ⟨completed, there, rfl⟩)

theorem outside_stepped {reply : Reply}
    (outside : (system.callers caller).retired = none) (orderly : system.Orderly event)
    (elsewhere : ∀ observed, event ≠ .arms caller observed)
    (change : Change system event reply after) : (after.callers caller).retired = none := by
  have goes : ∀ {other : Nat} {phase : Phase}, (other = caller → phase.retired = none) →
      (Function.update system.callers other phase caller).retired = none := by
    intro other phase steps
    by_cases same : caller = other
    · rw [same, Function.update_self]
      exact steps same.symm
    · rw [Function.update_of_ne same]
      exact outside
  cases change with
  | ignored | refused | observed => exact outside
  | retired other observed arms =>
    apply goes
    intro same
    rw [same] at arms
    exact absurd arms (elsewhere observed)
  | started other retired status _ arming =>
    apply goes
    intro same
    rw [same] at arming
    rw [arming] at outside
    exact nomatch outside
  | exhausted other stops _ _ full =>
    rw [stops] at orderly
    exact absurd full (not_exhausted orderly)
  | notified other =>
    dsimp only
    split
    · rfl
    · rw [Phase.woken_retired]
      exact outside
  | unstarted | uninstalled | installed | answered | joined | took | finalized | completed
  | stirred | saw | slept => exact goes fun _ => rfl

/-- While an arm is between its sections, the controller stays as it is, and so does what the arm
has retired. -/
theorem between_stepped {reply : Reply} {retired : Option Nat}
    (sound : system.Sound) (between : (system.callers caller).retired = some retired)
    (orderly : system.Orderly event) (change : Change system event reply after) :
    (after.callers caller).retired = none ∨
      ((after.callers caller).retired = some retired ∧ after.inner = system.inner) := by
  have inArm : (system.callers caller).retired ≠ none := by
    rw [between]
    exact Option.some_ne_none retired
  obtain ⟨empty, unfinalized, nobody⟩ := sound.arms.free caller inArm
  have goes : ∀ {other : Nat} {phase : Phase}, (other = caller → phase.retired = none ∨
      phase.retired = some retired) →
      (Function.update system.callers other phase caller).retired = none ∨
        ((Function.update system.callers other phase caller).retired = some retired ∧
          system.inner = system.inner) := by
    intro other phase steps
    by_cases same : caller = other
    · rw [same, Function.update_self]
      exact (steps same.symm).imp_right fun still => ⟨still, rfl⟩
    · rw [Function.update_of_ne same]
      exact Or.inr ⟨between, rfl⟩
  cases change with
  | ignored | refused => exact Or.inr ⟨between, rfl⟩
  | retired other observed arms _ _ _ passed =>
    rw [arms] at orderly
    exact absurd (orderly passed caller) inArm
  | started other held status _ arming =>
    apply goes
    intro same
    rw [← same, arming] at between
    exact Or.inr between
  | installed other held recorder status _ armed =>
    have same : other = caller := by
      refine sound.arms.alone other caller ?_ inArm
      rw [armed]
      exact Option.some_ne_none held
    rw [← same]
    left
    show (Function.update system.callers other .idle other).retired = none
    rw [Function.update_self]
    rfl
  | observed _ lastStatus _ there =>
    rcases there with there | same
    · exact absurd empty there
    · rw [same]
      exact Or.inr ⟨between, rfl⟩
  | exhausted other stops _ _ full =>
    rw [stops] at orderly
    exact absurd full (not_exhausted orderly)
  | joined other epoch _ _ finalizing =>
    rw [unfinalized] at finalizing
    exact nomatch finalizing
  | took other recorder _ _ _ there =>
    rw [empty] at there
    exact nomatch there
  | completed other recorder completed _ _ finalizing =>
    rw [unfinalized] at finalizing
    exact nomatch finalizing
  | notified other epoch =>
    dsimp only
    split
    · exact Or.inl rfl
    · rw [Phase.woken_retired]
      exact Or.inr ⟨between, rfl⟩
  | saw other completed _ waiting =>
    have waits : (system.callers other).awaited ≠ none := by
      rw [waiting]
      exact Option.some_ne_none _
    have some := sound.settles.waiters.positive waits
    omega
  | unstarted | uninstalled | answered | finalized | stirred | slept =>
    exact goes fun _ => Or.inl rfl

def OrderlyFrom (system : System) (events : List Event) : Prop :=
  ∀ step ∈ Run.steps System.step system events, step.before.Orderly step.input

/-- A caller that does not arm stays out of `arm` along a run. -/
theorem outside_along (events : List Event) :
    ∀ {system : System}, system.Sound → (system.callers caller).retired = none →
      OrderlyFrom system events → (∀ event ∈ events, ∀ observed, event ≠ .arms caller observed) →
        ((Run.final System.step system events).callers caller).retired = none := by
  induction events with
  | nil => exact fun _ outside _ _ => outside
  | cons event events ih =>
    intro system sound outside orderly elsewhere
    obtain ⟨now, later⟩ := List.forall_mem_cons.mp orderly
    obtain ⟨here, rest⟩ := List.forall_mem_cons.mp elsewhere
    exact ih (sound.stepped now) (outside_stepped outside now here (sound.changes event)) later rest

/-- While an arm is between its sections, the controller stays as it is along a run. -/
theorem between_along {retired : Option Nat} (events : List Event) :
    ∀ {system : System}, system.Sound → (system.callers caller).retired = some retired →
      OrderlyFrom system events → (∀ event ∈ events, ∀ observed, event ≠ .arms caller observed) →
        ((Run.final System.step system events).callers caller).retired = none ∨
          (((Run.final System.step system events).callers caller).retired = some retired ∧
            (Run.final System.step system events).inner = system.inner) := by
  induction events with
  | nil => exact fun _ between _ _ => Or.inr ⟨between, rfl⟩
  | cons event events ih =>
    intro system sound between orderly elsewhere
    obtain ⟨now, later⟩ := List.forall_mem_cons.mp orderly
    obtain ⟨here, rest⟩ := List.forall_mem_cons.mp elsewhere
    have next := sound.stepped now
    rcases between_stepped sound between now (sound.changes event) with outside | ⟨still, same⟩
    · exact Or.inl (outside_along events next outside later rest)
    · rcases ih next still later rest with outside | ⟨still, kept⟩
      · exact Or.inl outside
      · exact Or.inr ⟨still, kept.trans same⟩

variable {error : DecodedRecordingError}

/-- An arm that fails after its first section was between its sections, and has retired nothing. -/
theorem failed_arm (sound : system.Sound) (orderly : system.Orderly event)
    (change : Change system event (.armed (.error error)) after)
    (later : (∃ answer, event = .starts caller answer) ∨ event = .installs caller) :
    (system.callers caller).retired = some none ∧ after.inner = system.inner := by
  cases change with
  | refused other observed arms =>
    rw [arms] at later
    rcases later with ⟨answer, never⟩ | never <;> exact nomatch never
  | unstarted other retired error starts arming =>
    rw [starts] at later orderly
    have same : other = caller := by
      rcases later with ⟨answer, same⟩ | never
      · cases same
        rfl
      · exact nomatch never
    rw [← same]
    have nothing : ∀ recorder, retired ≠ some recorder := by
      intro recorder there
      apply orderly recorder
      rw [arming, there]
      rfl
    refine ⟨?_, rfl⟩
    rw [arming, Option.eq_none_iff_forall_ne_some.mpr nothing]
    rfl
  | uninstalled other retired recorder status _ armed taken =>
    have between : (system.callers other).retired ≠ none := by
      rw [armed]
      exact Option.some_ne_none retired
    obtain ⟨empty, unfinalized, nobody⟩ := sound.arms.free other between
    rcases taken with finalizing | some | there
    · exact absurd unfinalized finalizing
    · omega
    · exact absurd empty there
  | observed _ _ silent => exact absurd rfl (silent (.error error)).2
  | exhausted other stops _ _ full =>
    rw [stops] at orderly
    exact absurd full (not_exhausted orderly)

variable {observed : RecorderStatus}

/-- An arm that has passed its first section and retired nothing has changed nothing. -/
theorem arms_kept
    (nothing : ((system.step (.arms caller observed)).2.callers caller).retired = some none) :
    (system.step (.arms caller observed)).2.inner = system.inner := by
  unfold System.step at nothing ⊢
  dsimp only at nothing ⊢
  cases phase : system.callers caller with
  | idle =>
    rw [phase] at nothing
    dsimp only at nothing ⊢
    cases check : system.inner.armRetire observed with
    | error error => rfl
    | ok made =>
      obtain ⟨retired, inner⟩ := made
      obtain ⟨_, _, rfl, rfl⟩ := armRetire_eq_ok check
      rw [check] at nothing
      have there : (Function.update system.callers caller (.arming system.inner.recorder)
        caller).retired = some none := nothing
      rw [Function.update_self] at there
      show { system.inner with recorder := none } = system.inner
      rw [← Option.some.inj there]
  | arming _ | armed _ _ _ | finalizing _ _ | finalized _ _ | notifying _ | waiting _ _ => rfl

structure Lawful (step : Stepped) : Prop where
  before : step.before.Sound
  orderly : step.before.Orderly step.input
  change : Change step.before step.input step.output step.after
  after : step.after.Sound

variable {events : List Event}

theorem lawful (sound : system.Sound) (orderly : OrderlyFrom system events) :
    (Run.final System.step system events).Sound ∧
      ∀ step ∈ Run.steps System.step system events, Lawful step := by
  obtain ⟨reached, around⟩ := Run.invariant_under
    (fun step : Stepped => step.before.Orderly step.input) System.Sound
    (fun before input holds met => holds.stepped met) events system sound orderly
  refine ⟨reached, fun step member => ?_⟩
  obtain ⟨before, after⟩ := around step member
  refine ⟨before, orderly step member, ?_, after⟩
  have change := before.changes step.input
  rw [Run.step_eq system events step member]
  exact change

/-- What a stop answers is the outcome of the last recorder, if there was one. -/
theorem truthful_of_stopped (sound : system.Sound)
    (orderly : system.Orderly event) (change : Change system event (.stopped result) after) :
    (∃ recorder completed, after.history.getLast? = some (recorder, completed) ∧
      after.latest = some recorder ∧ result = completed.outcome) ∨
    (after.latest = none ∧ result = .ok (.fresh .idle)) := by
  cases change with
  | observed _ _ silent => exact absurd rfl (silent result).1
  | exhausted caller stops _ _ full =>
    rw [stops] at orderly
    exact absurd full (not_exhausted orderly)
  | answered caller stops _ unfinalized empty _ told =>
    rcases told with ⟨completed, there, same⟩ | ⟨nothing, same⟩
    · obtain ⟨recorder, last, latest⟩ := sound.settles.told completed there
      exact Or.inl ⟨recorder, completed, last, latest, same⟩
    · right
      rw [stops] at orderly
      rcases sound.arms.recorded with there | finalizing | told | ⟨other, recorder, between⟩ | fresh
      · exact absurd empty there
      · exact absurd unfinalized finalizing
      · exact absurd nothing told
      · exact absurd between (orderly.1 other recorder)
      · exact ⟨fresh.2, by rw [same, fresh.1]⟩
  | completed caller recorder completed _ finalized =>
    have inHand : (system.callers caller).inHand = some (completed.epoch, recorder) := by
      rw [finalized]
      rfl
    exact Or.inl ⟨recorder, completed, List.getLast?_concat ..,
      (sound.settles.inHand caller _ _ inHand).2, rfl⟩
  | saw caller completed _ _ there =>
    obtain ⟨recorder, last, latest⟩ := sound.settles.told completed there
    exact Or.inl ⟨recorder, completed, last, latest, rfl⟩

/-- A stop that looks again answers with the outcome of its epoch, or goes on waiting while the
epoch is finalized. -/
theorem looks_again (sound : system.Sound) (waiting : system.callers caller = .waiting epoch true) :
    (∃ entry ∈ system.history, entry.2.epoch = epoch ∧
      (system.step (.looks caller)).1 = .stopped entry.2.outcome) ∨
    ((∀ entry ∈ system.history, entry.2.epoch ≠ epoch) ∧
      (system.step (.looks caller)).1 = .quiet) := by
  unfold System.step
  dsimp only
  rw [waiting]
  rcases stopLook_eq system.inner epoch with ⟨completed, there, same, sees⟩ | ⟨other, waits⟩
  · obtain ⟨recorder, last, _⟩ := sound.settles.told completed there
    refine Or.inl ⟨(recorder, completed), List.mem_of_getLast? last, same, ?_⟩
    dsimp only
    rw [sees]
    rfl
  · have awaited : (system.callers caller).awaited = some epoch := by
      rw [waiting]
      rfl
    rcases sound.settles.awaited caller epoch awaited with now | ⟨completed, there, same⟩
    · refine Or.inr ⟨fun entry member same => ?_, ?_⟩
      · rw [← same] at now
        exact (sound.settles.bounded entry member).2 now
      · dsimp only
        rw [waits]
        rfl
    · exact absurd same (other completed there)

/-- A stop that comes while a recorder is finalized waits for that epoch. -/
theorem joins_of_finalizing (sound : system.Sound) (orderly : system.Orderly (.stops caller))
    (idle : system.callers caller = .idle)
    (finalizing : system.inner.finalizingEpoch = some epoch) :
    (system.step (.stops caller)).2.callers caller = .waiting epoch false := by
  have busy : system.inner.finalizingEpoch ≠ none := by
    rw [finalizing]
    exact Option.some_ne_none epoch
  unfold System.step
  dsimp only
  rw [idle]
  dsimp only
  rw [stopEnter_joins finalizing (sound.settles.taken epoch finalizing).2.1 (orderly.2.1 busy)]
  exact Function.update_self ..

theorem refused_kept
    (change : Change system (.arms caller observed) (.armed (.error error)) after) :
    after = system := by
  cases change with
  | refused => rfl
  | unstarted _ _ _ never => exact nomatch never
  | uninstalled _ _ _ _ never => exact nomatch never
  | observed _ _ silent => exact absurd rfl (silent (.error error)).2
  | exhausted _ never => exact nomatch never

/-- Until an arm succeeds stops answer the same along a run. -/
theorem tells_along (sound : system.Sound) (tells : system.Tells result)
    (orderly : OrderlyFrom system events)
    (unarmed : ∀ step ∈ Run.steps System.step system events, ∀ status,
      step.output ≠ .armed (.ok status)) :
    (Run.final System.step system events).Tells result := by
  have kept := Run.invariant_under
    (fun step : Stepped => step.before.Orderly step.input ∧
      ∀ status, step.output ≠ .armed (.ok status))
    (fun system => system.Sound ∧ system.Tells result)
    (fun before input holds met => ⟨holds.1.stepped met.1,
      holds.2.stepped met.1 (holds.1.changes input) met.2⟩)
    events system ⟨sound, tells⟩ fun step member => ⟨orderly step member, unarmed step member⟩
  exact kept.1.2

/-- A run that goes through two steps, cut at them. -/
theorem cut_twice {earlier between later : List Stepped} {first second : Stepped}
    (orderly : OrderlyFrom System.new events)
    (cut : stepsOf events = earlier ++ first :: (between ++ second :: later)) :
    Lawful first ∧ Lawful second ∧
      first = Run.stepOf System.step first.before first.input ∧
        ∃ middle, between = Run.steps System.step first.after middle ∧
          OrderlyFrom first.after middle ∧
            second.before = Run.final System.step first.after middle := by
  obtain ⟨_, each⟩ := lawful new_sound orderly
  have members : ∀ step, step = first ∨ step ∈ between ∨ step = second →
      step ∈ stepsOf events := by
    intro step which
    rw [cut]
    rcases which with same | inside | same <;> simp [*]
  obtain ⟨_, input, rest, _, _, first_eq, rest_eq⟩ := Run.steps_from cut
  obtain ⟨middle, next, _, _, between_eq, second_eq, _⟩ := Run.steps_from rest_eq.symm
  refine ⟨each first (members first (Or.inl rfl)),
    each second (members second (Or.inr (Or.inr rfl))), ?_, middle, between_eq, ?_, ?_⟩
  · rw [first_eq]
    rfl
  · intro step member
    rw [← between_eq] at member
    exact orderly step (members step (Or.inr (Or.inl member)))
  · rw [second_eq]
    rfl

/-- In an orderly run the controller keeps its promises. -/
theorem recording_coherent (events : List Event) (orderly : OrderlyFrom System.new events) :
    Coherent events := by
  obtain ⟨_, each⟩ := lawful new_sound orderly
  constructor
  case single =>
    exact fun step member first second one two => (each step member).after.single one two
  case joins =>
    intro step member caller epoch stops idle finalizing
    have law := each step member
    have orderly := law.orderly
    rw [stops] at orderly
    have same : step = Run.stepOf System.step step.before step.input :=
      Run.step_eq _ _ step member
    rw [same, stops]
    exact joins_of_finalizing law.before orderly idle finalizing
  case once => exact fun step member => (each step member).after.settles.ordered
  case joined =>
    intro step member caller epoch result looks waiting answers
    have same : step.output = (System.step step.before step.input).1 :=
      congrArg Run.Step.output (Run.step_eq _ _ step member)
    rw [looks] at same
    rcases looks_again (each step member).before waiting with
      ⟨entry, there, told, equal⟩ | ⟨_, quiet⟩
    · rw [answers, equal] at same
      cases same
      exact ⟨entry, there, told, rfl⟩
    · rw [answers, quiet] at same
      exact nomatch same
  case prompt =>
    intro step member caller epoch looks waiting completed
    obtain ⟨entry, there, told⟩ := completed
    have same : step.output = (System.step step.before step.input).1 :=
      congrArg Run.Step.output (Run.step_eq _ _ step member)
    rw [looks] at same
    rcases looks_again (each step member).before waiting with ⟨found, _, _, equal⟩ | ⟨still, _⟩
    · exact ⟨found.2.outcome, same.trans equal⟩
    · exact absurd told (still entry there)
  case woken => exact fun step member => (each step member).after.settles.asleep
  case stable =>
    intro earlier between later first second result again cut answers repeats unarmed
    obtain ⟨law, next, _, middle, between_eq, along, before_eq⟩ := cut_twice orderly cut
    have change := law.change
    rw [answers] at change
    have tells := tells_of_stopped law.before.settles law.orderly change
    rw [between_eq] at unarmed
    have still := tells_along law.after tells along unarmed
    rw [← before_eq] at still
    have answer := next.change
    rw [repeats] at answer
    exact still.answers next.orderly answer
  case refused =>
    intro step member caller observed error arms failed
    have change := (each step member).change
    rw [arms, failed] at change
    exact refused_kept change
  case kept =>
    intro earlier between later first last caller observed error cut arms alone ends failed
    obtain ⟨law, next, first_eq, middle, between_eq, along, before_eq⟩ := cut_twice orderly cut
    have change := next.change
    rw [failed] at change
    obtain ⟨nothing, same⟩ := failed_arm next.before next.orderly change ends
    have elsewhere : ∀ event ∈ middle, ∀ observed, event ≠ .arms caller observed := by
      intro event member
      rw [← Run.steps_inputs System.step first.after middle, ← between_eq] at member
      obtain ⟨step, inside, input⟩ := List.mem_map.mp member
      rw [← input]
      exact alone step inside
    rw [before_eq] at nothing same
    cases retired : (first.after.callers caller).retired with
    | none =>
      have outside := outside_along middle law.after retired along elsewhere
      rw [nothing] at outside
      exact nomatch outside
    | some held =>
      rcases between_along middle law.after retired along elsewhere with outside | ⟨still, kept⟩
      · rw [nothing] at outside
        exact nomatch outside
      · rw [nothing] at still
        rw [← Option.some.inj still, first_eq, arms] at retired
        rw [same, kept, first_eq, arms]
        exact arms_kept retired
  case truthful =>
    intro step member result answers
    have law := each step member
    have change := law.change
    rw [answers] at change
    exact truthful_of_stopped law.before law.orderly change

/-- A recording that two callers stop, and a third asks about. -/
def stoppedTwice : List Event :=
  [.arms 0 (.fresh .idle), .starts 0 (.ok (.fresh .armed)), .installs 0,
    .submits (.ok (.fresh .recording)) (.fresh .armed), .stops 0, .stops 1,
    .arms 2 (.fresh .idle), .finalizes 0 (.fresh .recording) (.ok (.fresh .finished)),
    .completes 0, .stops 2, .notifies 0, .looks 1]

theorem nothing_retired (others : ∀ other recorder, (callers other).retired ≠ some (some recorder))
    (self : ∀ recorder, phase.retired ≠ some (some recorder)) (other recorder : Nat) :
    (Function.update callers caller phase other).retired ≠ some (some recorder) :=
  update_forall (fun _ phase => ∀ recorder, phase.retired ≠ some (some recorder)) self
    (fun other _ => others other) other recorder

/-- No arm fails or overlaps another in that recording. -/
theorem stoppedTwice_orderly : OrderlyFrom System.new stoppedTwice := by
  unfold OrderlyFrom stoppedTwice
  simp only [Run.steps, List.forall_mem_cons]
  have armed : ∀ caller recorder, ((Run.final System.step System.new
      (stoppedTwice.take 4)).callers caller).retired ≠ some (some recorder) := by
    apply nothing_retired
    · apply nothing_retired
      · apply nothing_retired
        · exact fun _ _ never => by cases never
        · exact fun _ never => by cases never
      · exact fun _ never => by cases never
    · exact fun _ never => by cases never
  have stopping : ∀ caller recorder, ((Run.final System.step System.new
      (stoppedTwice.take 5)).callers caller).retired ≠ some (some recorder) :=
    nothing_retired armed fun _ never => by cases never
  have stopped : ∀ caller recorder, ((Run.final System.step System.new
      (stoppedTwice.take 9)).callers caller).retired ≠ some (some recorder) := by
    apply nothing_retired
    · apply nothing_retired
      · exact nothing_retired stopping fun _ never => by cases never
      · exact fun _ never => by cases never
    · exact fun _ never => by cases never
  refine ⟨fun _ _ => rfl, trivial, trivial, trivial, ⟨armed, ?_, ?_⟩, ⟨stopping, ?_, ?_⟩, ?_,
    trivial, trivial, ⟨stopped, ?_, ?_⟩, trivial, trivial, fun _ never => by cases never⟩
  · exact fun never => absurd rfl never
  · exact fun _ => by decide
  · exact fun _ => by decide
  · exact fun never => absurd rfl never
  · rintro ⟨made, passed⟩
    cases passed
  · exact fun never => absurd rfl never
  · exact fun never => absurd rfl never

/-- The promises are kept in a recording that is stopped twice. -/
theorem stoppedTwice_coherent : Coherent stoppedTwice ∧
    (stepsOf stoppedTwice).map Run.Step.output =
      [.quiet, .quiet, .armed (.ok (.fresh .armed)), .submitted (some (.fresh .recording)), .quiet,
        .quiet, .armed (.error .active), .quiet, .stopped (.ok (.fresh .finished)),
        .stopped (.ok (.fresh .finished)), .quiet, .stopped (.ok (.fresh .finished))] :=
  ⟨recording_coherent stoppedTwice stoppedTwice_orderly, rfl⟩

/-- A recording fails, and no other can be started in its place. -/
def lostRecording : List Event :=
  [.arms 0 (.fresh .idle), .starts 0 (.ok (.fresh .armed)), .installs 0,
    .submits (.error .invalidFrame) (.fresh .failed), .arms 0 (.fresh .failed),
    .starts 0 (.error .outputExists), .stops 0]

def overlappingArms : List Event :=
  [.arms 0 (.fresh .idle), .arms 1 (.fresh .idle), .starts 0 (.ok (.fresh .armed)),
    .starts 1 (.ok (.fresh .armed))]

/-- The recording that has failed is reported as stopped after an arm that has failed too; and arms
that overlap hold a recorder each. -/
theorem recordings_incoherent : ¬ Coherent lostRecording ∧ ¬ Coherent overlappingArms := by
  constructor
  · intro coherent
    have stop := (stepsOf lostRecording).getElem_mem (n := 6) (by decide)
    rcases coherent.truthful _ stop _ rfl with ⟨_, _, never, _⟩ | ⟨never, _⟩
    · exact nomatch never
    · exact nomatch never
  · intro coherent
    have start := (stepsOf overlappingArms).getElem_mem (n := 3) (by decide)
    have same := coherent.single _ start (some 0) (some 1) (fun never => nomatch never)
      fun never => nomatch never
    exact nomatch same

end LatentDeck.Recording
