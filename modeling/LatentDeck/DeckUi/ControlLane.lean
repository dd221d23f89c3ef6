import LatentDeck.Library.Run

/-!
# The lane of realtime controls

A lane keeps at most one command in flight and only the newest value that waits. Callers push
values, cancel what waits and dispose of the lane; timers of the event loop fire, and commands in
flight settle, in any order.
-/

namespace LatentDeck.DeckUi.ControlLane

variable {T : Type}

structure LatestValueDispatchState where
  running : Bool
  pending : Bool

/-- `LatestValueDispatcher`; a timer is its number. -/
structure LatestValueDispatcher (T : Type) where
  pending : Option T
  running : Bool
  timer : Option Nat
  disposed : Bool

/-- The dispatcher and what is outstanding outside it. -/
structure World (T : Type) where
  lane : LatestValueDispatcher T
  timers : List Nat
  started : Nat
  /-- The values of the calls of `apply` that have not settled. -/
  applying : List T

def World.new : World T := ⟨⟨none, false, none, false⟩, [], 0, []⟩

/-- What the lane does outside: the value that it applies, and the states that it notifies. -/
structure Output (T : Type) where
  applied : Option T
  notified : List LatestValueDispatchState

inductive Event (T : Type) where
  | push (value : T) (immediate : Bool)
  | cancelPending
  | dispose
  | fires (timer : Nat)
  /-- A call of `apply` settles, in either way. -/
  | settles (place : Nat) (failed : Bool)

namespace World

variable (world : World T)

/-- What `#notify` tells. -/
def notify : LatestValueDispatchState :=
  ⟨world.lane.running, world.lane.pending.isSome || world.lane.timer.isSome⟩

/-- `clearTimeout` of the timer of the lane. -/
def clearTimer : World T :=
  match world.lane.timer with
  | none => world
  | some timer =>
      { world with
        lane := { world.lane with timer := none }
        timers := world.timers.erase timer }

/-- `#schedule`; the delay does not matter, since a timer may fire at any time. -/
def schedule : World T :=
  if world.lane.disposed || world.lane.running || world.lane.timer.isSome ||
      world.lane.pending.isNone then world
  else
    { world with
      lane := { world.lane with timer := some world.started }
      timers := world.timers ++ [world.started]
      started := world.started + 1 }

/-- A value waits, and a timer is cleared for one that is immediate. -/
def put (value : T) (immediate : Bool) : World T :=
  let set : World T := { world with lane := { world.lane with pending := some value } }
  if immediate then set.clearTimer else set

def push (value : T) (immediate : Bool) : Output T × World T :=
  if world.lane.disposed then (⟨none, []⟩, world)
  else
    (⟨none, [(world.put value immediate).notify]⟩, (world.put value immediate).schedule)

def cancelPending : Output T × World T :=
  let clear := { world with lane := { world.lane with pending := none } }.clearTimer
  (⟨none, [clear.notify]⟩, clear)

def dispose : Output T × World T :=
  { world with lane := { world.lane with disposed := true } }.cancelPending

/-- `#dispatch`, up to the call of `apply`. -/
def dispatch : Output T × World T :=
  if world.lane.disposed || world.lane.running then (⟨none, []⟩, world)
  else
    match world.lane.pending with
    | none => (⟨none, []⟩, world)
    | some value =>
        let after : World T :=
          { world with
            lane := { world.lane with pending := none, running := true }
            applying := world.applying ++ [value] }
        (⟨some value, [after.notify]⟩, after)

def step : Event T → Output T × World T
  | .push value immediate => world.push value immediate
  | .cancelPending => world.cancelPending
  | .dispose => world.dispose
  | .fires timer =>
      if timer ∈ world.timers then
        { world with
          lane := { world.lane with timer := none }
          timers := world.timers.erase timer }.dispatch
      else (⟨none, []⟩, world)
  | .settles place _ =>
      if place < world.applying.length then
        let after : World T :=
          { world with
            lane := { world.lane with running := false }
            applying := world.applying.eraseIdx place }
        (⟨none, [after.notify]⟩, after.schedule)
      else (⟨none, []⟩, world)

end World

/-- What holds of the lane and of what is outstanding, also while an operation goes on. -/
structure World.Tidy (world : World T) : Prop where
  timers : world.timers = world.lane.timer.toList
  /-- The lane runs while its only call of `apply` is in flight. -/
  applying : (world.lane.running = false ∧ world.applying = []) ∨
    (world.lane.running = true ∧ world.lane.timer = none ∧ ∃ value, world.applying = [value])
  disposed : world.lane.disposed = true → world.lane.pending = none

structure World.Sound (world : World T) : Prop extends World.Tidy world where
  waits : world.lane.pending ≠ none → world.lane.running = true ∨ world.lane.timer ≠ none

/-- What an event makes of what waits, and what it applies. -/
inductive Change (world : World T) : Event T → Option T → World T → Prop where
  | kept {event : Event T} {after : World T} (calm : ∀ value immediate,
      event = .push value immediate → world.lane.disposed = true)
      (calls : event ≠ .cancelPending ∧ event ≠ .dispose)
      (pending : after.lane.pending = world.lane.pending)
      (disposed : after.lane.disposed = world.lane.disposed) : Change world event none after
  | pushed {after : World T} (value : T) (immediate : Bool)
      (live : world.lane.disposed = false) (pending : after.lane.pending = some value)
      (disposed : after.lane.disposed = false) :
      Change world (.push value immediate) none after
  | cleared {event : Event T} {after : World T}
      (calls : (event = .cancelPending ∧ after.lane.disposed = world.lane.disposed) ∨
        (event = .dispose ∧ after.lane.disposed = true))
      (pending : after.lane.pending = none) : Change world event none after
  | applied {after : World T} (timer : Nat) (value : T) (live : world.lane.disposed = false)
      (waits : world.lane.pending = some value) (pending : after.lane.pending = none)
      (disposed : after.lane.disposed = false) :
      Change world (.fires timer) (some value) after

theorem clearTimer_eq (world : World T) (timers : world.timers = world.lane.timer.toList) :
    world.clearTimer = { world with lane := { world.lane with timer := none }, timers := [] } := by
  obtain ⟨⟨pending, running, timer, disposed⟩, _, started, applying⟩ := world
  dsimp only at timers
  rw [timers]
  cases timer <;> simp [World.clearTimer]

theorem schedule_lane (world : World T) : world.schedule.lane.pending = world.lane.pending ∧
    world.schedule.lane.disposed = world.lane.disposed := by
  unfold World.schedule
  split <;> exact ⟨rfl, rfl⟩

variable {world : World T}

/-- After scheduling, what waits will be dispatched. -/
theorem schedule_sound (tidy : world.Tidy) : world.schedule.Sound := by
  unfold World.schedule
  split
  · rename_i nothing
    refine ⟨tidy, fun waits => ?_⟩
    simp only [Bool.or_eq_true] at nothing
    rcases nothing with ((disposed | running) | timer) | empty
    · exact absurd (tidy.disposed disposed) waits
    · exact Or.inl running
    · exact Or.inr (Option.isSome_iff_ne_none.mp timer)
    · exact absurd (Option.isNone_iff_eq_none.mp empty) waits
  · rename_i something
    simp only [Bool.or_eq_true, not_or, Bool.not_eq_true] at something
    obtain ⟨⟨⟨live, still⟩, untimed⟩, there⟩ := something
    have timer : world.lane.timer = none := by simpa using untimed
    have idle : world.applying = [] := by
      rcases tidy.applying with ⟨_, none⟩ | ⟨running, _⟩
      · exact none
      · rw [still] at running
        exact nomatch running
    refine ⟨⟨?_, Or.inl ⟨still, idle⟩, tidy.disposed⟩, fun _ => Or.inr (Option.some_ne_none _)⟩
    show world.timers ++ [world.started] = [world.started]
    rw [tidy.timers, timer]
    rfl

theorem cancelPending_sound (world : World T) (timers : world.timers = world.lane.timer.toList)
    (applying : (world.lane.running = false ∧ world.applying = []) ∨
      (world.lane.running = true ∧ world.lane.timer = none ∧ ∃ value, world.applying = [value])) :
    world.cancelPending.2.Sound ∧ world.cancelPending.1.applied = none ∧
      world.cancelPending.2.lane.pending = none ∧
        world.cancelPending.2.lane.disposed = world.lane.disposed := by
  have clear := clearTimer_eq { world with lane := { world.lane with pending := none } } timers
  unfold World.cancelPending
  dsimp only
  rw [clear]
  refine ⟨⟨⟨rfl, ?_, fun _ => rfl⟩, fun never => absurd rfl never⟩, rfl, rfl, rfl⟩
  exact applying.imp_right fun inFlight => ⟨inFlight.1, rfl, inFlight.2.2⟩

/-- A push into a lane that is not disposed of lets its value wait. -/
theorem push_tidy (tidy : world.Tidy) (value : T) (immediate : Bool)
    (live : world.lane.disposed = false) :
    (world.put value immediate).Tidy ∧ (world.put value immediate).lane.pending = some value ∧
      (world.put value immediate).lane.disposed = false := by
  have undisposed : world.lane.disposed = true → (some value : Option T) = none := by
    intro never
    rw [live] at never
    exact nomatch never
  cases immediate with
  | false => exact ⟨⟨tidy.timers, tidy.applying, undisposed⟩, rfl, live⟩
  | true =>
    have clear := clearTimer_eq { world with lane := { world.lane with pending := some value } }
      tidy.timers
    rw [World.put, if_pos rfl, clear]
    refine ⟨⟨rfl, ?_, undisposed⟩, rfl, live⟩
    exact tidy.applying.imp_right fun inFlight => ⟨inFlight.1, rfl, inFlight.2.2⟩

theorem fires_idle (tidy : world.Tidy) {timer : Nat} (set : timer ∈ world.timers) :
    world.timers = [timer] ∧ world.lane.running = false ∧ world.applying = [] := by
  rw [tidy.timers, Option.mem_toList] at set
  have there : world.lane.timer = some timer := set
  refine ⟨by rw [tidy.timers, there]; rfl, ?_⟩
  rcases tidy.applying with idle | ⟨_, untimed, _⟩
  · exact idle
  · rw [untimed] at there
    exact nomatch there

theorem step_changes (sound : world.Sound) (event : Event T) :
    (world.step event).2.Sound ∧
      Change world event (world.step event).1.applied (world.step event).2 := by
  cases event with
  | push value immediate =>
    unfold World.step World.push
    dsimp only
    split
    · rename_i live
      exact ⟨sound, .kept (fun _ _ _ => live) ⟨nofun, nofun⟩ rfl rfl⟩
    · rename_i live
      rw [Bool.not_eq_true] at live
      obtain ⟨tidy, pending, disposed⟩ := push_tidy sound.toTidy value immediate live
      obtain ⟨lane_pending, lane_disposed⟩ := schedule_lane (world.put value immediate)
      refine ⟨schedule_sound tidy, .pushed value immediate live ?_ ?_⟩
      · exact lane_pending.trans pending
      · exact lane_disposed.trans disposed
  | cancelPending =>
    obtain ⟨after, applied, pending, disposed⟩ :=
      cancelPending_sound world sound.timers sound.applying
    refine ⟨after, ?_⟩
    show Change world _ world.cancelPending.1.applied world.cancelPending.2
    rw [applied]
    exact .cleared (Or.inl ⟨rfl, disposed⟩) pending
  | dispose =>
    obtain ⟨after, applied, pending, disposed⟩ := cancelPending_sound
      { world with lane := { world.lane with disposed := true } } sound.timers sound.applying
    refine ⟨after, ?_⟩
    show Change world _ world.dispose.1.applied world.dispose.2
    rw [show world.dispose.1.applied = none from applied]
    exact .cleared (Or.inr ⟨rfl, disposed⟩) pending
  | fires timer =>
    unfold World.step
    dsimp only
    split
    · rename_i set
      obtain ⟨there, still, idle⟩ := fires_idle sound.toTidy set
      unfold World.dispatch
      rw [there, List.erase_cons_head]
      dsimp only
      rw [still, Bool.or_false]
      cases live : world.lane.disposed with
      | true =>
        have empty := sound.disposed live
        refine ⟨⟨⟨rfl, Or.inl ⟨rfl, idle⟩, fun _ => empty⟩, fun some => absurd empty some⟩, ?_⟩
        exact .kept nofun ⟨nofun, nofun⟩ rfl live.symm
      | false =>
        rw [if_neg Bool.false_ne_true]
        cases waits : world.lane.pending with
        | none =>
          refine ⟨⟨⟨rfl, Or.inl ⟨rfl, idle⟩, fun _ => rfl⟩, fun never => absurd rfl never⟩, ?_⟩
          exact .kept nofun ⟨nofun, nofun⟩ waits.symm live.symm
        | some value =>
          refine ⟨⟨⟨rfl, Or.inr ⟨rfl, rfl, value, ?_⟩, fun _ => rfl⟩,
            fun never => absurd rfl never⟩, .applied timer value live waits rfl rfl⟩
          show world.applying ++ [value] = [value]
          rw [idle]
          rfl
    · exact ⟨sound, .kept nofun ⟨nofun, nofun⟩ rfl rfl⟩
  | settles place failed =>
    unfold World.step
    dsimp only
    split
    · rename_i inFlight
      have only : world.lane.timer = none ∧ world.applying.eraseIdx place = [] := by
        rcases sound.applying with ⟨_, idle⟩ | ⟨_, untimed, value, one⟩
        · rw [idle] at inFlight
          exact absurd inFlight (Nat.not_lt_zero place)
        · rw [one] at inFlight ⊢
          have first : place = 0 := Nat.lt_one_iff.mp inFlight
          rw [first]
          exact ⟨untimed, rfl⟩
      generalize same : { world with
        lane := { world.lane with running := false }
        applying := world.applying.eraseIdx place } = after
      have tidy : after.Tidy := by
        rw [← same]
        exact ⟨sound.timers, Or.inl ⟨rfl, only.2⟩, sound.disposed⟩
      obtain ⟨lane_pending, lane_disposed⟩ := schedule_lane after
      refine ⟨schedule_sound tidy, .kept nofun ⟨nofun, nofun⟩ ?_ ?_⟩
      · rw [lane_pending, ← same]
      · rw [lane_disposed, ← same]
    · exact ⟨sound, .kept nofun ⟨nofun, nofun⟩ rfl rfl⟩

/-- What an observer of the calls has seen. -/
structure Seen (T : Type) where
  pushed : List T
  applied : List T
  /-- The last value that was pushed, as long as it is neither applied nor cancelled. -/
  waiting : Option T
  /-- The pushed values that were neither superseded while they waited nor cancelled. -/
  lasting : List T
  /-- The pushed values that were not cancelled. -/
  uncancelled : List T
  disposed : Bool

/-- A list of pushed values without the one that waits, which is its last. -/
def Seen.without (seen : Seen T) (values : List T) : List T :=
  if seen.waiting.isSome then values.dropLast else values

/-- What waits is cancelled. -/
def Seen.cancel (seen : Seen T) : Seen T :=
  { seen with
    waiting := none
    lasting := seen.without seen.lasting
    uncancelled := seen.without seen.uncancelled }

def Seen.after (seen : Seen T) (step : Run.Step (World T) (Event T) (Output T)) : Seen T :=
  match step.input with
  | .push value _ =>
      { seen with
        pushed := seen.pushed ++ [value]
        waiting := some value
        lasting := seen.without seen.lasting ++ [value]
        uncancelled := seen.uncancelled ++ [value] }
  | .cancelPending => seen.cancel
  | .dispose => { seen.cancel with disposed := true }
  | .fires _ | .settles _ _ =>
      match step.output.applied with
      | none => seen
      | some value => { seen with applied := seen.applied ++ [value], waiting := none }

def seenOf (steps : List (Run.Step (World T) (Event T) (Output T))) : Seen T :=
  steps.foldl Seen.after ⟨[], [], none, [], [], false⟩

def stepsOf (events : List (Event T)) : List (Run.Step (World T) (Event T) (Output T)) :=
  Run.steps World.step World.new events

/-- The lane holds what the observer takes to wait, and has applied the other lasting values. -/
structure Tracks (seen : Seen T) (world : World T) : Prop where
  sound : world.Sound
  ordered : List.Sublist (seen.applied ++ world.lane.pending.toList) seen.pushed
  waits : seen.disposed = false → seen.waiting = world.lane.pending
  lasting : seen.disposed = false → seen.lasting = seen.applied ++ world.lane.pending.toList
  disposed : world.lane.disposed = seen.disposed

variable {seen : Seen T}

section

variable (tracks : Tracks seen world)

include tracks

theorem Tracks.sublist : List.Sublist seen.applied seen.pushed :=
  (List.sublist_append_left seen.applied _).trans tracks.ordered

/-- Without the value that waits, the lasting values are those that were applied. -/
theorem Tracks.without
    (live : seen.disposed = false) : seen.without seen.lasting = seen.applied := by
  unfold Seen.without
  rw [tracks.waits live, tracks.lasting live]
  cases world.lane.pending with
  | none => exact List.append_nil _
  | some value => exact List.dropLast_concat

variable {after : World T}

/-- A lane in which what waits has not changed still agrees with what was seen. -/
theorem Tracks.kept (sound : after.Sound) (pending : after.lane.pending = world.lane.pending)
    (disposed : after.lane.disposed = world.lane.disposed) : Tracks seen after where
  sound := sound
  ordered := by
    rw [pending]
    exact tracks.ordered
  waits := by
    rw [pending]
    exact tracks.waits
  lasting := by
    rw [pending]
    exact tracks.lasting
  disposed := disposed.trans tracks.disposed

/-- A lane in which nothing waits any more agrees with an observer who saw the cancel. -/
theorem Tracks.cleared (sound : after.Sound) (pending : after.lane.pending = none) (disposed : Bool)
    (later : disposed = false → seen.disposed = false) (same : after.lane.disposed = disposed) :
    Tracks { seen.cancel with disposed } after where
  sound := sound
  ordered := by
    rw [pending, Option.toList_none, List.append_nil]
    exact tracks.sublist
  waits := fun _ => pending.symm
  lasting := by
    intro live
    rw [pending, Option.toList_none, List.append_nil]
    exact tracks.without (later live)
  disposed := same

/-- A value that is pushed waits in the place of the one that waited. -/
theorem Tracks.pushed (sound : after.Sound) (value : T) (pending : after.lane.pending = some value)
    (same : after.lane.disposed = world.lane.disposed) :
    Tracks { seen with
      pushed := seen.pushed ++ [value]
      waiting := some value
      lasting := seen.without seen.lasting ++ [value]
      uncancelled := seen.uncancelled ++ [value] } after where
  sound := sound
  ordered := by
    rw [pending]
    exact tracks.sublist.append (List.Sublist.refl _)
  waits := fun _ => pending.symm
  lasting := by
    intro live
    show seen.without seen.lasting ++ [value] = _
    rw [pending, tracks.without live]
    rfl
  disposed := same.trans tracks.disposed

/-- The value that waits is applied. -/
theorem Tracks.applied (sound : after.Sound) (value : T) (waits : world.lane.pending = some value)
    (pending : after.lane.pending = none) (same : after.lane.disposed = world.lane.disposed) :
    Tracks { seen with applied := seen.applied ++ [value], waiting := none } after := by
  obtain ⟨_, ordered, _, lasting, disposed⟩ := tracks
  rw [waits] at ordered lasting
  constructor
  · exact sound
  · rw [pending, Option.toList_none, List.append_nil]
    exact ordered
  · exact fun _ => pending.symm
  · rw [pending, Option.toList_none, List.append_nil]
    exact lasting
  · exact same.trans disposed

theorem Tracks.stepped (event : Event T) :
    Tracks (seen.after (Run.stepOf World.step world event)) (world.step event).2 := by
  obtain ⟨sound, change⟩ := step_changes tracks.sound event
  unfold Seen.after Run.stepOf
  dsimp only
  generalize (world.step event).1.applied = applied at change ⊢
  generalize (world.step event).2 = after at sound change ⊢
  cases change with
  | kept calm calls pending disposed =>
    cases event with
    | push value immediate =>
      -- The lane was disposed of, and the value is refused.
      have disposal := calm value immediate rfl
      have empty := pending.trans (tracks.sound.disposed disposal)
      have closed := tracks.disposed.symm.trans disposal
      constructor
      · exact sound
      · rw [empty, Option.toList_none, List.append_nil]
        exact tracks.sublist.trans (List.sublist_append_left _ _)
      · exact fun live => absurd (closed.symm.trans live) Bool.noConfusion
      · exact fun live => absurd (closed.symm.trans live) Bool.noConfusion
      · exact disposed.trans tracks.disposed
    | cancelPending => exact absurd rfl calls.1
    | dispose => exact absurd rfl calls.2
    | fires timer => exact tracks.kept sound pending disposed
    | settles place failed => exact tracks.kept sound pending disposed
  | pushed value immediate live pending disposed =>
    exact tracks.pushed sound value pending (disposed.trans live.symm)
  | cleared calls pending =>
    rcases calls with ⟨rfl, disposed⟩ | ⟨rfl, disposed⟩
    · exact tracks.cleared sound pending _ (fun live => live) (disposed.trans tracks.disposed)
    · exact tracks.cleared sound pending true (fun live => Bool.noConfusion live) disposed
  | applied timer value live waits pending disposed =>
    exact tracks.applied sound value waits pending (disposed.trans live.symm)

end

theorem tracks_run (events : List (Event T)) :
    Tracks (seenOf (stepsOf events)) (Run.final World.step World.new events) := by
  refine Run.observed_under (fun _ => True) Seen.after Tracks
    (fun _ _ event tracks _ => tracks.stepped event) events World.new _ ?_ fun _ _ => trivial
  constructor
  · exact ⟨⟨rfl, Or.inl ⟨rfl, rfl⟩, nofun⟩, fun never => absurd rfl never⟩
  · exact List.Sublist.refl _
  · exact fun _ => rfl
  · exact fun _ => rfl
  · rfl

/-- A lane at rest: no call and no timer is outstanding, and it is not disposed of. -/
def World.Rests (world : World T) : Prop :=
  world.applying = [] ∧ world.timers = [] ∧ world.lane.disposed = false

structure Lively (events : List (Event T)) : Prop where
  single : (Run.final World.step World.new events).applying.length ≤ 1
  ordered : List.Sublist (seenOf (stepsOf events)).applied (seenOf (stepsOf events)).pushed
  /-- A value that is applied is the last that was pushed, with no cancel and no disposal since,
  and was not applied before. -/
  newest : ∀ earlier step later value, stepsOf events = earlier ++ step :: later →
    step.output.applied = some value →
      (seenOf earlier).waiting = some value ∧ (seenOf earlier).disposed = false
  /-- In a lane at rest nothing waits, and the pushed values that were neither cancelled nor
  superseded are those that were applied. -/
  rests : (Run.final World.step World.new events).Rests →
    (Run.final World.step World.new events).lane.pending = none ∧
      (seenOf (stepsOf events)).lasting = (seenOf (stepsOf events)).applied

/-- The lane keeps its promises in every run. -/
theorem lane_lively (events : List (Event T)) : Lively events := by
  have tracks := tracks_run events
  constructor
  · rcases tracks.sound.applying with ⟨_, idle⟩ | ⟨_, _, value, one⟩
    · rw [idle]
      exact Nat.zero_le 1
    · rw [one]
      exact Nat.le_refl 1
  · exact tracks.sublist
  · intro earlier step later value cut applied
    obtain ⟨before, event, after, _, earlier_eq, step_eq, _⟩ := Run.steps_from cut
    have reached := tracks_run before
    obtain ⟨_, change⟩ := step_changes reached.sound event
    rw [step_eq] at applied
    have given : ((Run.final World.step World.new before).step event).1.applied = some value :=
      applied
    rw [given] at change
    have same : seenOf earlier = seenOf (stepsOf before) := congrArg seenOf earlier_eq
    rw [same]
    cases change with
    | applied timer value live waits =>
      have undisposed := reached.disposed.symm.trans live
      exact ⟨(reached.waits undisposed).trans waits, undisposed⟩
  · intro rests
    obtain ⟨idle, untimed, live⟩ := rests
    have empty : (Run.final World.step World.new events).lane.pending = none := by
      by_contra waits
      rcases tracks.sound.waits waits with running | timer
      · rcases tracks.sound.applying with ⟨still, _⟩ | ⟨_, _, value, one⟩
        · rw [still] at running
          exact nomatch running
        · rw [idle] at one
          exact nomatch one
      · rw [tracks.sound.timers] at untimed
        obtain ⟨id, there⟩ := Option.ne_none_iff_exists'.mp timer
        rw [there] at untimed
        exact nomatch untimed
    refine ⟨empty, ?_⟩
    rw [tracks.lasting (tracks.disposed.symm.trans live), empty]
    exact List.append_nil _

/-- A replaced value is not applied when a cancel meets the value that replaced it: in a lane at
rest the last value that no cancel has met need not be applied. -/
theorem replaced_then_cancelled :
    ¬ ∀ events : List (Event Nat), (Run.final World.step World.new events).Rests →
      ∀ value, (seenOf (stepsOf events)).uncancelled.getLast? = some value →
        (seenOf (stepsOf events)).applied.getLast? = some value := by
  intro served
  have never := served [.push 1 false, .push 2 false, .cancelPending] ⟨rfl, rfl, rfl⟩ 1 rfl
  exact nomatch never

end LatentDeck.DeckUi.ControlLane
