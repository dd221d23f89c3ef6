import LatentDeck.Host.SessionEnds
import LatentDeck.Viewport.System

/-!
# The order of viewports

Host revisions increase, runtimes only move on to newer viewports, and a command that succeeds has
brought the latest viewport to every open runtime, as long as no window is placed at new bounds and
can then be neither shown nor hidden: the actor has noted the viewport by then, and takes the next
delivery for one that it has followed.
-/

namespace LatentDeck.Viewport

open Effect Fallible Host

/-- A viewport that has been handed out: only the latest one has the latest revision. -/
def Known (store : ViewportStoreState) (viewport : EmbeddedViewport) : Prop :=
  viewport.revision ≤ store.hostRevision ∧
    (viewport.revision = store.hostRevision → store.viewport = some viewport)

/-- A runtime that follows a viewport: its window is placed at the bounds, and shown if the runtime
is in the foreground and the viewport is visible. -/
structure Runtime.Applied (runtime : Runtime) (viewport : EmbeddedViewport) : Prop where
  held : runtime.actor.viewport = viewport
  placed : runtime.placed = some viewport.bounds
  shown : runtime.actor.outputVisible = runtime.shows viewport

/-- A runtime follows its viewport, except that the window may be out of place while a newer one is
to come. -/
structure Runtime.Follows (store : ViewportStoreState) (runtime : Runtime) : Prop where
  known : Known store runtime.actor.viewport
  placed : runtime.placed = some runtime.actor.viewport.bounds ∨
    runtime.revision < store.hostRevision
  shown : runtime.actor.outputVisible = runtime.shows runtime.actor.viewport
  latest : ∀ latest, runtime.stage.latest = some latest → Known store latest

/-- An open runtime has a viewport at least as new as the one of a command, unless that has still to
be delivered; one about to be open will have. -/
def Runtime.Reached (runtime : Runtime) (viewport : EmbeddedViewport) (waiting : Prop) : Prop :=
  match runtime.stage with
  | .opened => waiting ∨ viewport.revision ≤ runtime.revision
  | .updating latest =>
      waiting ∨ viewport.revision ≤ latest.revision ∨ viewport.revision ≤ runtime.revision
  | .started | .configuring _ | .registered | .closing | .closed => True

/-- The runtimes that have not yet answered a command that has listed them. -/
def Progress.pending : Progress → Option (List Nat)
  | .delivering pending => some pending
  | .issued | .acknowledged | .failed => none

structure System.Ordered (system : System) : Prop where
  store : ∀ viewport, system.store.viewport = some viewport →
    viewport.revision = system.store.hostRevision
  openings : ∀ viewport ∈ system.openings, Known system.store viewport
  commands : ∀ command ∈ system.commands, Known system.store command.viewport
  runtimes : ∀ runtime ∈ system.runtimes, runtime.Follows system.store
  reached : ∀ command ∈ system.commands, ∀ pending, command.progress.pending = some pending →
    ∀ (id : Nat) (runtime : Runtime), system.runtimes[id]? = some runtime →
      runtime.Reached command.viewport (id ∈ pending)

/-- The store hands out a newer viewport or none. -/
def Succeeds (before after : ViewportStoreState) : Prop :=
  before.hostRevision < after.hostRevision ∨
    (after.hostRevision = before.hostRevision ∧ after.viewport = before.viewport)

section

variable {store before after : ViewportStoreState} {viewport : EmbeddedViewport}

theorem Known.later (known : Known before viewport)
    (succeeds : Succeeds before after) : Known after viewport := by
  rcases succeeds with newer | ⟨revision, same⟩
  · have below : viewport.revision < after.hostRevision := UInt64.lt_of_le_of_lt known.1 newer
    refine ⟨UInt64.le_of_lt below, fun equal => ?_⟩
    rw [equal] at below
    exact absurd below (UInt64.lt_irrefl _)
  · unfold Known
    rw [revision, same]
    exact known

variable {runtime : Runtime}

theorem Runtime.Follows.later (follows : runtime.Follows before)
    (succeeds : Succeeds before after) : runtime.Follows after where
  known := follows.known.later succeeds
  placed := by
    rcases follows.placed with placed | below
    · exact Or.inl placed
    · rcases succeeds with newer | ⟨revision, _⟩
      · exact Or.inr (UInt64.lt_trans below newer)
      · rw [revision]
        exact Or.inr below
  shown := follows.shown
  latest := fun latest reading => (follows.latest latest reading).later succeeds

variable {result : Except GenericDeckRuntimeError ResizeOutcome} {after : Runtime}

/-- A runtime follows what is delivered to it, unless it is stranded. -/
theorem Runtime.Follows.delivered {outside : Outside}
    (follows : runtime.Follows store) (known : Known store viewport)
    (ends : Delivery runtime outside viewport result after)
    (followed : ¬ Stranded runtime outside viewport) : after.Follows store := by
  cases ends with
  | unchanged old => exact follows
  | unplaced newer refused =>
    have below : runtime.revision < store.hostRevision := UInt64.lt_of_lt_of_le newer known.1
    exact ⟨follows.known, Or.inr below, follows.shown, follows.latest⟩
  | stranded newer outcome placed refused =>
    exact absurd ⟨newer, Option.isSome_iff_exists.mpr ⟨_, placed⟩, refused⟩ followed
  | applied newer outcome placed visible => exact ⟨known, Or.inl rfl, rfl, follows.latest⟩

theorem Runtime.Follows.staged {stage : Stage} (follows : runtime.Follows store)
    (latest : ∀ latest, stage.latest = some latest → Known store latest) :
    Runtime.Follows store { runtime with stage } :=
  ⟨follows.known, follows.placed, follows.shown, latest⟩

theorem Runtime.Reached.advanced {waiting : Prop}
    (reached : runtime.Reached viewport waiting) (stage : after.stage = runtime.stage)
    (advances : runtime.revision ≤ after.revision) : after.Reached viewport waiting := by
  unfold Runtime.Reached at reached ⊢
  rw [stage]
  split at reached
  · exact reached.imp_right fun below => UInt64.le_trans below advances
  · exact reached.imp_right fun either =>
      either.imp_right fun below => UInt64.le_trans below advances
  all_goals exact trivial

/-- A runtime in the foreground or in the background follows its viewport as before. -/
theorem foregrounded_ends (runtime : Runtime) (outside : Outside) (foreground : Bool) :
    runtime.foregrounded outside foreground = runtime ∨
      runtime.foregrounded outside foreground =
        { runtime with
          actor :=
            { runtime.actor with
              foreground
              outputVisible := foreground && runtime.actor.viewport.visible } } := by
  have acts : setForeground outside foreground runtime.actor =
      (demand (outside.setSpoutEnabled (foreground && runtime.actor.spoutRequestedEnabled) = true)
          .output >>= fun _ =>
        demand (outside.setVisible (foreground && runtime.actor.viewport.visible) = true)
          .output >>= fun _ =>
        modify fun actor : RuntimeActor => { actor with
          foreground := foreground
          outputVisible := foreground && actor.viewport.visible } : Act Unit)
        runtime.actor := rfl
  unfold Runtime.foregrounded ending
  rw [acts]
  by_cases spout :
      outside.setSpoutEnabled (foreground && runtime.actor.spoutRequestedEnabled) = true
  · rw [demand_met spout, pure_bind]
    by_cases visible : outside.setVisible (foreground && runtime.actor.viewport.visible) = true
    · rw [demand_met visible, pure_bind]
      exact Or.inr rfl
    · rw [demand_unmet visible]
      exact Or.inl rfl
  · rw [demand_unmet spout]
    exact Or.inl rfl

theorem foregrounded_viewport (runtime : Runtime) (outside : Outside) (foreground : Bool) :
    (runtime.foregrounded outside foreground).actor.viewport = runtime.actor.viewport ∧
      (runtime.foregrounded outside foreground).stage = runtime.stage := by
  rcases foregrounded_ends runtime outside foreground with same | changed
  · rw [same]
    exact ⟨rfl, rfl⟩
  · rw [changed]
    exact ⟨rfl, rfl⟩

theorem Runtime.Follows.foregrounded (outside : Outside) (foreground : Bool)
    (follows : runtime.Follows store) :
    (runtime.foregrounded outside foreground).Follows store := by
  rcases foregrounded_ends runtime outside foreground with same | changed
  · rw [same]
    exact follows
  · rw [changed]
    exact ⟨follows.known, follows.placed, rfl, follows.latest⟩

end

theorem lt_of_checkedSucc {value next : UInt64} (succeeds : checkedSucc value = some next) :
    value < next := by
  unfold checkedSucc at succeeds
  split at succeeds
  · rename_i bounded
    rw [← Option.some.inj succeeds]
    rw [UInt64.lt_iff_toNat_lt, UInt64.toNat_add]
    show value.toNat < (value.toNat + 1) % 2 ^ 64
    rw [Nat.mod_eq_of_lt bounded]
    omega
  · exact nomatch succeeds

/-- A store that answers: it hands out a viewport, a new one or, once more, the latest one. -/
inductive Hands (before : ViewportStoreState) (viewport : EmbeddedViewport)
    (after : ViewportStoreState) : Prop where
  | fresh (newer : before.hostRevision < after.hostRevision)
      (revision : viewport.revision = after.hostRevision)
      (latest : after.viewport = some viewport)
  | again (latest : before.viewport = some viewport) (same : after = before)

theorem beginSession_hands {store after : ViewportStoreState} {ack : ViewportSessionAck}
    (begun : store.beginSession = (.ok (ack, viewport), after)) : Hands store viewport after := by
  unfold ViewportStoreState.beginSession at begun
  split at begun
  · exact nomatch begun
  · split at begun
    · exact nomatch begun
    · rename_i hostRevision succeeds
      cases begun
      exact .fresh (lt_of_checkedSucc succeeds) rfl rfl

theorem beginSession_refuses {store after : ViewportStoreState} {error : CommandError}
    (refused : store.beginSession = (.error error, after)) :
    after.hostRevision = store.hostRevision ∧ after.viewport = store.viewport := by
  unfold ViewportStoreState.beginSession at refused
  split at refused
  · cases refused
    exact ⟨rfl, rfl⟩
  · split at refused
    · cases refused
      exact ⟨rfl, rfl⟩
    · exact nomatch refused

/-- What `apply` accepts: a revision above the last one under the epoch of the session, or the last
one again with the same geometry. -/
inductive Accepts (before : ViewportStoreState) (request : ValidatedViewportRequest)
    (viewport : EmbeddedViewport) (after : ViewportStoreState) : Prop where
  | newer (epoch : request.epoch = before.epoch)
      (revision : before.clientRevision < request.clientRevision)
      (hands : Hands before viewport after)
  | again (epoch : request.epoch = before.epoch)
      (revision : request.clientRevision = before.clientRevision)
      (geometry : ∃ geometry, before.geometry = some geometry ∧
        geometry.same request.geometry = true)
      (latest : before.viewport = some viewport) (same : after = before)

variable {before : ViewportStoreState}

theorem Accepts.hands {after : ViewportStoreState} {request : ValidatedViewportRequest}
    (accepts : Accepts before request viewport after) : Hands before viewport after := by
  cases accepts with
  | newer epoch revision hands => exact hands
  | again epoch revision geometry latest same => exact .again latest same

theorem apply_ends (store : ViewportStoreState) (request : ValidatedViewportRequest) :
    (∃ viewport, (store.apply request).1 = .ok viewport ∧
        Accepts store request viewport (store.apply request).2) ∨
      (∃ error, store.apply request = (.error error, store)) := by
  unfold ViewportStoreState.apply
  by_cases stale : request.epoch = 0 ∨ request.epoch ≠ store.epoch
  · rw [if_pos stale]
    exact Or.inr ⟨_, rfl⟩
  have epoch : request.epoch = store.epoch := not_not.mp (not_or.mp stale).2
  rw [if_neg stale]
  by_cases zero : request.clientRevision = 0
  · rw [if_pos zero]
    exact Or.inr ⟨_, rfl⟩
  rw [if_neg zero]
  by_cases below : request.clientRevision < store.clientRevision
  · rw [if_pos below]
    exact Or.inr ⟨_, rfl⟩
  rw [if_neg below]
  by_cases equal : request.clientRevision = store.clientRevision
  · rw [if_pos equal]
    by_cases same : (store.geometry.any fun geometry => geometry.same request.geometry) = true
    · rw [if_pos same]
      cases latest : store.viewport with
      | none => exact Or.inr ⟨_, rfl⟩
      | some viewport =>
        have geometry := (Option.any_eq_true _ _).mp same
        exact Or.inl ⟨viewport, rfl, .again epoch equal geometry latest rfl⟩
    · rw [if_neg same]
      exact Or.inr ⟨_, rfl⟩
  · rw [if_neg equal]
    have newer : store.clientRevision < request.clientRevision :=
      UInt64.lt_of_le_of_ne (UInt64.not_lt.mp below) fun same => equal same.symm
    cases succeeds : checkedSucc store.hostRevision with
    | none => exact Or.inr ⟨_, rfl⟩
    | some hostRevision =>
      exact Or.inl ⟨_, rfl, .newer epoch newer (.fresh (lt_of_checkedSucc succeeds) rfl rfl)⟩

def Reply.IsSilent : Reply → Prop
  | .ignored | .quiet | .refused _ | .unreachable => True
  | .issued _ | .delivered _ _ _ | .acknowledged _ => False

inductive Change (system : System) (event : Event) : Reply → System → Prop where
  | same (reply : Reply) (silent : reply.IsSilent) : Change system event reply system
  | issued (confirmation : Confirmation) (viewport : EmbeddedViewport)
      (store : ViewportStoreState) (hands : Hands system.store viewport store)
      (asked : ∀ request, event = .applies request → system.store.apply request =
        (.ok viewport, store)) :
      Change system event (.issued viewport) (system.launch store confirmation viewport)
  | refused (error : CommandError) (store : ViewportStoreState)
      (same : store.hostRevision = system.store.hostRevision ∧
        store.viewport = system.store.viewport) :
      Change system event (.refused error) { system with store }
  | listed (command : Nat) (issued : ViewportCommand)
      (there : system.commands[command]? = some issued) :
      Change system event .quiet (system.proceed command issued (.delivering system.active))
  | acknowledged (command : Nat) (issued : ViewportCommand)
      (there : system.commands[command]? = some issued) (done : issued.progress = .delivering [])
      (confirmed : issued.confirmation.check system.store issued.viewport = .ok ()) :
      Change system event (.acknowledged issued.viewport)
        (system.proceed command issued .acknowledged)
  | failed (reply : Reply) (silent : reply.IsSilent) (command : Nat) (issued : ViewportCommand)
      (there : system.commands[command]? = some issued) :
      Change system event reply (system.proceed command issued .failed)
  | delivered (command id : Nat) (issued : ViewportCommand) (pending : List Nat)
      (runtime after : Runtime) (outside : Outside)
      (result : Except GenericDeckRuntimeError ResizeOutcome)
      (delivers : event = .delivers command id outside)
      (there : system.commands[command]? = some issued)
      (listed : issued.progress = .delivering pending) (among : id ∈ pending)
      (runs : system.runtimes[id]? = some runtime) (alive : runtime.stage ≠ .closed)
      (made : runtime.deliver outside issued.viewport = (result, after)) :
      Change system event (.delivered id issued.viewport result)
        ((system.replace id after).proceed command issued (.answered pending id result))
  | settled (id : Nat) (runtime after : Runtime) (latest : EmbeddedViewport) (outside : Outside)
      (result : Except GenericDeckRuntimeError ResizeOutcome)
      (settles : event = .settles id outside)
      (runs : system.runtimes[id]? = some runtime) (reading : runtime.stage.latest = some latest)
      (made : runtime.deliver outside latest = (result, after)) :
      Change system event (.delivered id latest result)
        (system.replace id
          { after with stage := runtime.stage.settled result.toOption.isSome })
  | prepared (viewport : EmbeddedViewport) (latest : system.store.viewport = some viewport) :
      Change system event .quiet { system with openings := system.openings ++ [viewport] }
  | started (viewport : EmbeddedViewport) (actor : RuntimeActor)
      (read : viewport ∈ system.openings) :
      Change system event .quiet
        { system with runtimes := system.runtimes ++ [.start actor viewport] }
  | staged (id : Nat) (runtime : Runtime) (stage : Stage)
      (runs : system.runtimes[id]? = some runtime) (unopened : stage ≠ .opened)
      (latest : ∀ latest, stage.latest = some latest → system.store.viewport = some latest) :
      Change system event .quiet (system.replace id { runtime with stage })
  | foregrounded (id : Nat) (runtime : Runtime) (outside : Outside) (foreground : Bool)
      (runs : system.runtimes[id]? = some runtime) :
      Change system event .quiet (system.replace id (runtime.foregrounded outside foreground))

theorem current_eq_ok (store : ViewportStoreState) (viewport : EmbeddedViewport) :
    store.current = .ok viewport ↔ store.viewport = some viewport := by
  unfold ViewportStoreState.current
  rw [orError_eq_ok]

variable {store : ViewportStoreState}

theorem currentVisible_latest
    (visible : store.currentVisible = .ok viewport) : store.viewport = some viewport := by
  unfold ViewportStoreState.currentVisible at visible
  obtain ⟨latest, current, rest⟩ := ok_of_bind visible
  rw [check_eq_ok] at rest
  rw [← Except.ok.inj rest.2]
  exact (current_eq_ok ..).mp current

section

variable (system : System)

include system

/-- A runtime that is listed and not closed is delivered the viewport of the command. -/
theorem delivers_changes (command : Nat) (id : Nat) (outside : Outside) :
    Change system (.delivers command id outside) (system.step (.delivers command id outside)).1
      (system.step (.delivers command id outside)).2 := by
  unfold System.step
  dsimp only
  cases there : system.commands[command]? with
  | none => exact .same _ trivial
  | some issued =>
    obtain ⟨confirmation, viewport, progress⟩ := issued
    cases runs : system.runtimes[id]? with
    | none => cases progress <;> exact .same _ trivial
    | some runtime =>
      cases progress with
      | issued | acknowledged | failed => exact .same _ trivial
      | delivering pending =>
        dsimp only
        by_cases among : id ∈ pending
        · rw [if_pos among]
          unfold System.delivers
          by_cases closed : runtime.stage = .closed
          · rw [if_pos closed]
            exact .failed .unreachable trivial command _ there
          · rw [if_neg closed]
            exact .delivered command id _ pending runtime _ outside _ rfl there rfl among runs
              closed rfl
        · rw [if_neg among]
          exact .same _ trivial

/-- A command without pending runtimes is acknowledged when it is confirmed. -/
theorem confirms_changes (command : Nat) :
    Change system (.confirms command) (system.step (.confirms command)).1
      (system.step (.confirms command)).2 := by
  unfold System.step
  dsimp only
  cases there : system.commands[command]? with
  | none => exact .same _ trivial
  | some issued =>
    obtain ⟨confirmation, viewport, progress⟩ := issued
    cases progress with
    | issued | acknowledged | failed => exact .same _ trivial
    | delivering pending =>
      cases pending with
      | cons id pending => exact .same _ trivial
      | nil =>
        dsimp only
        cases confirmed : confirmation.check system.store viewport with
        | ok done => exact .acknowledged command _ there rfl confirmed
        | error error => exact .failed (.refused error) trivial command _ there

theorem configures_changes (id : Nat) :
    Change system (.configures id) (system.step (.configures id)).1
      (system.step (.configures id)).2 := by
  unfold System.step
  dsimp only
  cases runs : system.runtimes[id]? with
  | none => exact .same _ trivial
  | some runtime =>
    cases current : system.store.current with
    | error error =>
      obtain ⟨actor, placed, stage⟩ := runtime
      cases stage <;> exact .same _ trivial
    | ok latest =>
      obtain ⟨actor, placed, stage⟩ := runtime
      cases stage with
      | started =>
        refine .staged id _ (.configuring latest) runs nofun ?_
        rintro other same
        rw [← Option.some.inj same]
        exact (current_eq_ok ..).mp current
      | configuring _ | registered | updating _ | opened | closing | closed =>
        exact .same _ trivial

theorem updates_changes (id : Nat) :
    Change system (.updates id) (system.step (.updates id)).1 (system.step (.updates id)).2 := by
  unfold System.step
  dsimp only
  cases runs : system.runtimes[id]? with
  | none => exact .same _ trivial
  | some runtime =>
    cases current : system.store.current with
    | error error =>
      obtain ⟨actor, placed, stage⟩ := runtime
      cases stage <;> exact .same _ trivial
    | ok latest =>
      obtain ⟨actor, placed, stage⟩ := runtime
      cases stage with
      | registered =>
        refine .staged id _ (.updating latest) runs nofun ?_
        rintro other same
        rw [← Option.some.inj same]
        exact (current_eq_ok ..).mp current
      | started | configuring _ | updating _ | opened | closing | closed =>
        exact .same _ trivial

theorem foregrounds_changes (id : Nat) (foreground : Bool) (outside : Outside) :
    Change system (.foregrounds id foreground outside)
      (system.step (.foregrounds id foreground outside)).1
      (system.step (.foregrounds id foreground outside)).2 := by
  unfold System.step
  dsimp only
  cases runs : system.runtimes[id]? with
  | none => exact .same _ trivial
  | some runtime =>
    dsimp only
    by_cases closed : runtime.stage = .closed
    · rw [if_pos closed]
      exact .same _ trivial
    · rw [if_neg closed]
      exact .foregrounded id runtime outside foreground runs

theorem step_changes (event : Event) :
    Change system event (system.step event).1 (system.step event).2 := by
  cases event with
  | begins =>
    unfold System.step
    dsimp only
    cases begun : system.store.beginSession with
    | mk result store =>
      cases result with
      | error error => exact .refused error store (beginSession_refuses begun)
      | ok handed =>
        obtain ⟨ack, viewport⟩ := handed
        exact .issued (.session ack) viewport store (beginSession_hands begun) nofun
  | applies request =>
    unfold System.step
    dsimp only
    rcases apply_ends system.store request with ⟨viewport, accepted, accepts⟩ | ⟨error, refused⟩
    · have applied : system.store.apply request = (.ok viewport, (system.store.apply request).2) :=
        Prod.ext accepted rfl
      rw [applied]
      refine .issued (.request request) viewport _ accepts.hands fun other same => ?_
      cases same
      exact applied
    · rw [refused]
      exact .same _ trivial
  | lists command =>
    unfold System.step
    dsimp only
    cases there : system.commands[command]? with
    | none => exact .same _ trivial
    | some issued =>
      obtain ⟨confirmation, viewport, progress⟩ := issued
      cases progress with
      | issued => exact .listed command _ there
      | delivering _ | acknowledged | failed => exact .same _ trivial
  | delivers command id outside => exact delivers_changes system command id outside
  | confirms command => exact confirms_changes system command
  | prepares =>
    unfold System.step
    dsimp only
    cases visible : system.store.currentVisible with
    | error error => exact .same _ trivial
    | ok viewport => exact .prepared viewport (currentVisible_latest visible)
  | starts opening actor =>
    unfold System.step
    dsimp only
    cases there : system.openings[opening]? with
    | none => exact .same _ trivial
    | some viewport => exact .started viewport actor (List.mem_of_getElem? there)
  | configures id => exact configures_changes system id
  | registers id =>
    unfold System.step
    dsimp only
    cases runs : system.runtimes[id]? with
    | none => exact .same _ trivial
    | some runtime =>
      obtain ⟨actor, placed, stage⟩ := runtime
      cases stage with
      | started =>
        exact .staged id _ .registered runs nofun nofun
      | configuring _ | registered | updating _ | opened | closing | closed =>
        exact .same _ trivial
  | updates id => exact updates_changes system id
  | settles id outside =>
    unfold System.step
    dsimp only
    cases runs : system.runtimes[id]? with
    | none => exact .same _ trivial
    | some runtime =>
      dsimp only
      cases reading : runtime.stage.latest with
      | none => exact .same _ trivial
      | some latest =>
        exact .settled id runtime _ latest outside _ rfl runs reading rfl
  | foregrounds id foreground outside => exact foregrounds_changes system id foreground outside
  | closes id =>
    unfold System.step
    dsimp only
    cases runs : system.runtimes[id]? with
    | none => exact .same _ trivial
    | some runtime =>
      exact .staged id runtime .closed runs nofun nofun

end

/-- What is delivered by an event, to which runtime, and what is answered there. -/
inductive System.Delivers (system : System) :
    Event → Nat → Runtime → EmbeddedViewport → Outside → Prop where
  | command {command id : Nat} {outside : Outside} {issued : ViewportCommand} {pending : List Nat}
      {runtime : Runtime} (there : system.commands[command]? = some issued)
      (listed : issued.progress = .delivering pending) (among : id ∈ pending)
      (runs : system.runtimes[id]? = some runtime) (alive : runtime.stage ≠ .closed) :
      Delivers system (.delivers command id outside) id runtime issued.viewport outside
  | opening {id : Nat} {outside : Outside} {runtime : Runtime} {latest : EmbeddedViewport}
      (runs : system.runtimes[id]? = some runtime) (reading : runtime.stage.latest = some latest) :
      Delivers system (.settles id outside) id runtime latest outside

/-- No delivery of an event leaves a window stranded. -/
def System.Followed (system : System) (event : Event) : Prop :=
  ∀ id runtime viewport outside, system.Delivers event id runtime viewport outside →
    ¬ Stranded runtime outside viewport

theorem Hands.succeeds {after : ViewportStoreState}
    (hands : Hands before viewport after) : Succeeds before after := by
  cases hands with
  | fresh newer revision latest => exact Or.inl newer
  | again latest same =>
    rw [same]
    exact Or.inr ⟨rfl, rfl⟩

variable {runtime : Runtime} {waiting : Prop}

/-- At an opening's next stage, a runtime will be as far as a command. -/
theorem Runtime.Reached.staged {stage : Stage} (known : Known store viewport)
    (revision : ∀ latest, store.viewport = some latest → latest.revision = store.hostRevision)
    (unopened : stage ≠ .opened)
    (latest : ∀ latest, stage.latest = some latest → store.viewport = some latest) :
    Runtime.Reached { runtime with stage } viewport waiting := by
  cases stage with
  | opened => exact absurd rfl unopened
  | updating current =>
    refine Or.inr (Or.inl ?_)
    rw [revision current (latest current rfl)]
    exact known.1
  | started | configuring _ | registered | closing | closed => exact trivial

/-- After the delivery of its opening, a runtime is as far as a command. -/
theorem Runtime.Reached.settled {outside : Outside} {latest viewport : EmbeddedViewport}
    (reached : runtime.Reached viewport waiting) (reading : runtime.stage.latest = some latest)
    (ends : Delivery runtime outside latest result after) :
    Runtime.Reached
      { after with stage := runtime.stage.settled result.toOption.isSome } viewport waiting := by
  unfold Runtime.Reached at reached
  cases stage : runtime.stage with
  | updating current =>
    rw [stage] at reached reading
    cases Option.some.inj reading
    cases answered : result.toOption.isSome with
    | false => exact trivial
    | true =>
      rcases reached with waits | reads | reaches
      · exact Or.inl waits
      · exact Or.inr (UInt64.le_trans reads (ends.reaches answered))
      · exact Or.inr (UInt64.le_trans reaches ends.advances)
  | configuring current => cases result.toOption.isSome <;> exact trivial
  | started | registered | opened | closing | closed =>
    rw [stage] at reading
    exact nomatch reading

namespace System.Ordered

variable {system : System} {issued : ViewportCommand}

theorem proceeded {command : Nat} {progress : Progress} (ordered : system.Ordered)
    (there : system.commands[command]? = some issued)
    (reached : ∀ pending, progress.pending = some pending → ∀ (id : Nat) (runtime : Runtime),
      system.runtimes[id]? = some runtime → runtime.Reached issued.viewport (id ∈ pending)) :
    (system.proceed command issued progress).Ordered where
  store := ordered.store
  openings := ordered.openings
  commands := by
    intro other member
    rcases List.mem_or_eq_of_mem_set member with before | rfl
    · exact ordered.commands other before
    · exact ordered.commands issued (List.mem_of_getElem? there)
  runtimes := ordered.runtimes
  reached := by
    intro other member
    rcases List.mem_or_eq_of_mem_set member with before | rfl
    · exact ordered.reached other before
    · exact reached

theorem replaced {id : Nat} {next : Runtime} (ordered : system.Ordered)
    (runs : system.runtimes[id]? = some runtime) (follows : next.Follows system.store)
    (reached : ∀ viewport waiting, Known system.store viewport →
      runtime.Reached viewport waiting → next.Reached viewport waiting) :
    (system.replace id next).Ordered where
  store := ordered.store
  openings := ordered.openings
  commands := ordered.commands
  runtimes := by
    intro other member
    rcases List.mem_or_eq_of_mem_set member with before | rfl
    · exact ordered.runtimes other before
    · exact follows
  reached := by
    intro command member pending progress other found there
    have set : (system.runtimes.set id next)[other]? = some found := there
    by_cases here : id = other
    · subst here
      have inside : id < system.runtimes.length := (List.getElem?_eq_some_iff.mp runs).1
      rw [List.getElem?_set_self inside] at set
      rw [← Option.some.inj set]
      exact reached _ _ (ordered.commands command member)
        (ordered.reached command member pending progress id runtime runs)
    · rw [List.getElem?_set_ne here] at set
      exact ordered.reached command member pending progress other found set

theorem moved (ordered : system.Ordered)
    (succeeds : Succeeds system.store store) (latest : ∀ viewport, store.viewport = some viewport →
      viewport.revision = store.hostRevision) :
    System.Ordered { system with store } where
  store := latest
  openings := fun viewport member => (ordered.openings viewport member).later succeeds
  commands := fun command member => (ordered.commands command member).later succeeds
  runtimes := fun runtime member => (ordered.runtimes runtime member).later succeeds
  reached := ordered.reached

/-- The store hands out a viewport for a new command. -/
theorem launched (confirmation : Confirmation) (ordered : system.Ordered)
    (hands : Hands system.store viewport store) :
    (system.launch store confirmation viewport).Ordered := by
  have latest : store.viewport = some viewport ∧ viewport.revision = store.hostRevision := by
    cases hands with
    | fresh newer revision latest => exact ⟨latest, revision⟩
    | again latest same =>
      rw [same]
      exact ⟨latest, ordered.store viewport latest⟩
  have before : System.Ordered { system with store } := by
    refine ordered.moved hands.succeeds fun other same => ?_
    rw [latest.1] at same
    rw [← Option.some.inj same]
    exact latest.2
  refine ⟨before.store, before.openings, ?_, before.runtimes, ?_⟩
  · intro command member
    rcases List.mem_append.mp member with old | new
    · exact before.commands command old
    · rw [List.mem_singleton.mp new]
      exact ⟨UInt64.le_of_eq latest.2, fun _ => latest.1⟩
  · intro command member pending progress
    rcases List.mem_append.mp member with old | new
    · exact before.reached command old pending progress
    · rw [List.mem_singleton.mp new] at progress
      exact nomatch progress

theorem appended (actor : RuntimeActor) (ordered : system.Ordered)
    (read : viewport ∈ system.openings) :
    System.Ordered
      { system with runtimes := system.runtimes ++ [.start actor viewport] } where
  store := ordered.store
  openings := ordered.openings
  commands := ordered.commands
  runtimes := by
    intro runtime member
    rcases List.mem_append.mp member with old | new
    · exact ordered.runtimes runtime old
    · rw [List.mem_singleton.mp new]
      exact ⟨ordered.openings viewport read, Or.inl rfl, rfl, nofun⟩
  reached := by
    intro command member pending progress id runtime there
    rw [List.getElem?_append] at there
    split at there
    · exact ordered.reached command member pending progress id runtime there
    · have new := List.mem_singleton.mp (List.mem_of_getElem? there)
      rw [new]
      exact trivial

/-- The runtimes that a command lists are those that have still to answer. -/
theorem listed (id : Nat) (runtime : Runtime) (runs : system.runtimes[id]? = some runtime) :
    runtime.Reached issued.viewport (id ∈ system.active) := by
  have inside : id < system.runtimes.length := (List.getElem?_eq_some_iff.mp runs).1
  have among : runtime.stage.isActive = true → id ∈ system.active := by
    intro active
    refine List.mem_filter.mpr ⟨List.mem_range.mpr inside, ?_⟩
    rw [runs]
    exact active
  unfold Runtime.Reached
  cases stage : runtime.stage with
  | opened =>
    rw [stage] at among
    exact Or.inl (among rfl)
  | updating latest =>
    rw [stage] at among
    exact Or.inl (among rfl)
  | started | configuring _ | registered | closing | closed => exact trivial

end System.Ordered

/-- A runtime is as far as a command that waits for it no longer. -/
theorem Runtime.Reached.answered {later : Prop} (reached : runtime.Reached viewport waiting)
    (answered : waiting → later ∨ viewport.revision ≤ runtime.revision) :
    runtime.Reached viewport later := by
  unfold Runtime.Reached at reached ⊢
  split at reached
  · rcases reached with waits | reaches
    · exact answered waits
    · exact Or.inr reaches
  · rcases reached with waits | reads | reaches
    · exact (answered waits).imp_right Or.inr
    · exact Or.inr (Or.inl reads)
    · exact Or.inr (Or.inr reaches)
  all_goals exact trivial

variable {system : System}

/-- The delivery of a command keeps everything in order. -/
theorem System.Ordered.delivered {command id : Nat} {issued : ViewportCommand} {pending : List Nat}
    {outside : Outside} (ordered : system.Ordered) (there : system.commands[command]? = some issued)
    (listed : issued.progress = .delivering pending) (runs : system.runtimes[id]? = some runtime)
    (ends : Delivery runtime outside issued.viewport result after)
    (followed : ¬ Stranded runtime outside issued.viewport) :
    ((system.replace id after).proceed command issued (.answered pending id result)).Ordered := by
  have known := ordered.commands issued (List.mem_of_getElem? there)
  have follows := ordered.runtimes runtime (List.mem_of_getElem? runs)
  have moved : (system.replace id after).Ordered :=
    ordered.replaced runs (follows.delivered known ends followed)
      fun _ _ _ reached => reached.advanced ends.stage ends.advances
  refine moved.proceeded there ?_
  intro later progress other found runs'
  have before := moved.reached issued (List.mem_of_getElem? there) pending
    (by rw [listed]; rfl) other found runs'
  refine before.answered fun waits => ?_
  cases result with
  | error error => exact nomatch progress
  | ok outcome =>
    cases Option.some.inj progress
    by_cases here : other = id
    · subst here
      have inside : other < system.runtimes.length := (List.getElem?_eq_some_iff.mp runs).1
      have set : (system.runtimes.set other after)[other]? = some found := runs'
      rw [List.getElem?_set_self inside] at set
      rw [← Option.some.inj set]
      exact Or.inr (ends.reaches rfl)
    · exact Or.inl (List.mem_filter.mpr ⟨waits, decide_eq_true here⟩)

theorem Stage.settled_latest {stage : Stage} {latest : EmbeddedViewport} (answered : Bool)
    (reading : stage.latest = some latest) : (stage.settled answered).latest = none := by
  cases stage with
  | configuring _ | updating _ => cases answered <;> rfl
  | started | registered | opened | closing | closed => exact nomatch reading

variable {event : Event}

theorem step_ordered (ordered : system.Ordered) (followed : system.Followed event) :
    (system.step event).2.Ordered := by
  have changes := step_changes system event
  generalize (system.step event).1 = reply, (system.step event).2 = after at changes
  cases changes with
  | same reply silent => exact ordered
  | issued confirmation viewport store hands asked => exact ordered.launched confirmation hands
  | refused error store same =>
    refine ordered.moved (Or.inr same) fun viewport latest => ?_
    rw [same.1]
    exact ordered.store viewport (same.2.symm.trans latest)
  | listed command issued there =>
    refine ordered.proceeded there fun pending progress id runtime runs => ?_
    cases Option.some.inj progress
    exact System.Ordered.listed id runtime runs
  | acknowledged command issued there done confirmed =>
    exact ordered.proceeded there nofun
  | failed reply silent command issued there =>
    exact ordered.proceeded there nofun
  | delivered command id issued pending runtime after outside result delivers there listed among
      runs alive made =>
    subst delivers
    exact ordered.delivered there listed runs (.of_made made)
      (followed _ _ _ _ (.command there listed among runs alive))
  | settled id runtime after latest outside result settles runs reading made =>
    subst settles
    have ends := Delivery.of_made made
    have follows := ordered.runtimes runtime (List.mem_of_getElem? runs)
    have known := follows.latest latest reading
    have next := follows.delivered known ends (followed _ _ _ _ (.opening runs reading))
    refine ordered.replaced runs (next.staged fun other never => ?_)
      fun viewport waiting _ reached => reached.settled reading ends
    rw [Stage.settled_latest _ reading] at never
    exact nomatch never
  | prepared viewport latest =>
    have known : Known system.store viewport :=
      ⟨UInt64.le_of_eq (ordered.store viewport latest), fun _ => latest⟩
    have openings : ∀ other ∈ system.openings ++ [viewport], Known system.store other := by
      intro other member
      rcases List.mem_append.mp member with old | new
      · exact ordered.openings other old
      · rw [List.mem_singleton.mp new]
        exact known
    exact ⟨ordered.store, openings, ordered.commands, ordered.runtimes, ordered.reached⟩
  | started viewport actor read => exact ordered.appended actor read
  | staged id runtime stage runs unopened latest =>
    have follows := ordered.runtimes runtime (List.mem_of_getElem? runs)
    refine ordered.replaced runs (follows.staged fun current read => ?_)
      fun viewport waiting known _ => .staged known ordered.store unopened latest
    have there := latest current read
    exact ⟨UInt64.le_of_eq (ordered.store current there), fun _ => there⟩
  | foregrounded id runtime outside foreground runs =>
    have follows := ordered.runtimes runtime (List.mem_of_getElem? runs)
    obtain ⟨viewport, stage⟩ := foregrounded_viewport runtime outside foreground
    refine ordered.replaced runs (follows.foregrounded outside foreground)
      fun _ _ _ reached => reached.advanced stage ?_
    exact UInt64.le_of_eq (congrArg EmbeddedViewport.revision viewport.symm)

/-- What a delivery answers, and what it makes of the runtime. -/
theorem delivered_runtime {after : System} {id : Nat}
    (changes : Change system event (.delivered id viewport result) after) :
    ∃ runtime next outside, system.Delivers event id runtime viewport outside ∧
      after.runtimes[id]? = some next ∧ ∃ delivered,
        runtime.deliver outside viewport = (result, delivered) ∧ next.actor = delivered.actor := by
  generalize told : Reply.delivered id viewport result = reply at changes
  cases changes with
  | delivered command other issued pending runtime next outside answer delivers there listed among
      runs alive made =>
    cases told
    subst delivers
    have inside : id < system.runtimes.length := (List.getElem?_eq_some_iff.mp runs).1
    exact ⟨runtime, next, outside, .command there listed among runs alive,
      List.getElem?_set_self inside, next, made, rfl⟩
  | settled other runtime next latest outside answer settles runs reading made =>
    cases told
    subst settles
    have inside : id < system.runtimes.length := (List.getElem?_eq_some_iff.mp runs).1
    exact ⟨runtime, _, outside, .opening runs reading, List.getElem?_set_self inside, next, made,
      rfl⟩
  | same reply silent =>
    rw [← told] at silent
    exact silent.elim
  | failed reply silent command issued there =>
    rw [← told] at silent
    exact silent.elim
  | issued _ _ _ _ _ | refused _ _ _ | listed _ _ _ | acknowledged _ _ _ _ _ | prepared _ _
  | started _ _ _ | staged _ _ _ _ _ _ | foregrounded _ _ _ _ _ => exact nomatch told

/-- A runtime is delivered to, or it keeps its viewport. -/
theorem runtime_after {after : System} {reply : Reply} {id : Nat}
    (changes : Change system event reply after) (runs : system.runtimes[id]? = some runtime) :
    ∃ next, after.runtimes[id]? = some next ∧
      (next.actor.viewport = runtime.actor.viewport ∨
        ∃ viewport outside result delivered, reply = .delivered id viewport result ∧
          system.Delivers event id runtime viewport outside ∧
          Delivery runtime outside viewport result delivered ∧ next.actor = delivered.actor) := by
  have inside : id < system.runtimes.length := (List.getElem?_eq_some_iff.mp runs).1
  have replaced : ∀ {other : Nat} {next : Runtime}, other ≠ id →
      (system.runtimes.set other next)[id]? = some runtime := by
    intro other next different
    rw [List.getElem?_set_ne different]
    exact runs
  cases changes with
  | same _ _ | issued _ _ _ _ _ | refused _ _ _ | listed _ _ _ | acknowledged _ _ _ _ _
  | failed _ _ _ _ _ | prepared _ _ => exact ⟨runtime, runs, Or.inl rfl⟩
  | started viewport actor read =>
    refine ⟨runtime, ?_, Or.inl rfl⟩
    show (system.runtimes ++ _)[id]? = _
    rw [List.getElem?_append_left inside]
    exact runs
  | delivered command other issued pending found next outside result delivers there listed among
      runs' alive made =>
    by_cases here : other = id
    · subst here
      rw [runs] at runs'
      cases Option.some.inj runs'
      subst delivers
      exact ⟨next, List.getElem?_set_self inside, Or.inr ⟨_, outside, result, next, rfl,
        .command there listed among runs alive, .of_made made, rfl⟩⟩
    · exact ⟨runtime, replaced here, Or.inl rfl⟩
  | settled other found next latest outside result settles runs' reading made =>
    by_cases here : other = id
    · subst here
      rw [runs] at runs'
      cases Option.some.inj runs'
      subst settles
      exact ⟨_, List.getElem?_set_self inside, Or.inr ⟨_, outside, result, next, rfl,
        .opening runs reading, .of_made made, rfl⟩⟩
    · exact ⟨runtime, replaced here, Or.inl rfl⟩
  | staged other found stage runs' unopened latest =>
    by_cases here : other = id
    · subst here
      rw [runs] at runs'
      cases Option.some.inj runs'
      exact ⟨_, List.getElem?_set_self inside, Or.inl rfl⟩
    · exact ⟨runtime, replaced here, Or.inl rfl⟩
  | foregrounded other found outside foreground runs' =>
    by_cases here : other = id
    · subst here
      rw [runs] at runs'
      cases Option.some.inj runs'
      exact ⟨_, List.getElem?_set_self inside,
        Or.inl (foregrounded_viewport runtime outside foreground).1⟩
    · exact ⟨runtime, replaced here, Or.inl rfl⟩

abbrev stepsOf (events : List Event) : List (Run.Step System Event Reply) :=
  Run.steps System.step System.new events

def freshlyIssued (step : Run.Step System Event Reply) : Option EmbeddedViewport :=
  match step.output with
  | .issued viewport =>
      if step.before.store.hostRevision < viewport.revision then some viewport else none
  | _ => none

/-- A delivery that failed is made in full by the next one of the same revision, unless the runtime
has followed that revision or a newer one in between. -/
def RetriedInFull (failing : Run.Step System Event Reply)
    (between : List (Run.Step System Event Reply)) (retry : Run.Step System Event Reply) : Prop :=
  ∀ id viewport error again result,
    failing.output = .delivered id viewport (.error error) →
    (∀ step ∈ between, ∀ other outcome, step.output = .delivered id other (.ok outcome) →
      other.revision < viewport.revision) →
    retry.output = .delivered id again result → again.revision = viewport.revision →
    ∃ runtime after outside, retry.before.Delivers retry.input id runtime again outside ∧
      retry.after.runtimes[id]? = some after ∧
      ending (placeViewport outside again runtime.actor.foreground) runtime.actor =
        (result, after.actor)

structure InOrder (events : List Event) : Prop where
  increasing : ((stepsOf events).filterMap freshlyIssued).Pairwise
    fun first second => first.revision < second.revision
  issued : ∀ step ∈ stepsOf events, ∀ viewport, step.output = .issued viewport →
    freshlyIssued step = some viewport ∨ step.before.store.viewport = some viewport
  stale : ∀ step ∈ stepsOf events, ∀ request, step.input = .applies request →
    (request.epoch ≠ step.before.store.epoch ∨
      request.clientRevision < step.before.store.clientRevision) →
    (∃ error, step.output = .refused error) ∧ step.after.store = step.before.store
  /-- An equal revision is accepted with the same geometry only, and changes nothing. -/
  equal : ∀ step ∈ stepsOf events, ∀ request viewport, step.input = .applies request →
    step.output = .issued viewport →
    request.clientRevision = step.before.store.clientRevision →
    (∃ geometry, step.before.store.geometry = some geometry ∧
      geometry.same request.geometry = true) ∧
      step.before.store.viewport = some viewport ∧ step.after.store = step.before.store
  newer : ∀ step ∈ stepsOf events, ∀ (id : Nat) (runtime : Runtime),
    step.before.runtimes[id]? = some runtime → ∃ after : Runtime,
      step.after.runtimes[id]? = some after ∧
        (after.actor.viewport = runtime.actor.viewport ∨ runtime.revision < after.revision)
  retried : ∀ earlier failing between retry later,
    stepsOf events = earlier ++ failing :: (between ++ retry :: later) →
    RetriedInFull failing between retry
  /-- An acknowledged viewport is the latest, and every open runtime has applied it; a runtime that
  is being opened has it or is about to be given it. -/
  acknowledged : ∀ step ∈ stepsOf events, ∀ viewport, step.output = .acknowledged viewport →
    step.before.store.viewport = some viewport ∧
      ∀ runtime ∈ step.before.runtimes, (runtime.stage = .opened → runtime.Applied viewport) ∧
        ∀ latest, runtime.stage = .updating latest →
          latest = viewport ∨ runtime.actor.viewport = viewport

theorem new_ordered : System.new.Ordered where
  store := fun _ never => nomatch never
  openings := nofun
  commands := nofun
  runtimes := fun _ never => nomatch never
  reached := nofun

theorem history_ordered {events : List Event}
    (followed : ∀ step ∈ stepsOf events, step.before.Followed step.input) :
    ∀ step ∈ stepsOf events, step.before.Ordered :=
  fun step member => ((Run.invariant_under (fun step => step.before.Followed step.input)
    System.Ordered (fun _ _ ordered followed => step_ordered ordered followed) events System.new
    new_ordered followed).2 step member).1

/-- An acknowledged viewport is the latest one, and applied by every open runtime. -/
theorem acknowledged_applied {after : System}
    (ordered : system.Ordered) (changes : Change system event (.acknowledged viewport) after) :
    system.store.viewport = some viewport ∧
      ∀ runtime ∈ system.runtimes, (runtime.stage = .opened → runtime.Applied viewport) ∧
        ∀ latest, runtime.stage = .updating latest →
          latest = viewport ∨ runtime.actor.viewport = viewport := by
  generalize told : Reply.acknowledged viewport = reply at changes
  cases changes with
  | acknowledged command issued there done confirmed =>
    cases told
    have member := List.mem_of_getElem? there
    have latest : system.store.viewport = some issued.viewport := by
      unfold Confirmation.check at confirmed
      split at confirmed
      · unfold ViewportStoreState.confirmSession at confirmed
        rw [check_eq_ok, refuseWhen_eq_ok, refuseWhen_eq_ok] at confirmed
        exact not_not.mp (not_or.mp confirmed.2).2
      · unfold ViewportStoreState.confirmApplied at confirmed
        rw [check_eq_ok, refuseWhen_eq_ok, refuseWhen_eq_ok] at confirmed
        exact not_not.mp (not_or.mp confirmed.2).2
    have top := ordered.store issued.viewport latest
    have only : ∀ other, Known system.store other →
        issued.viewport.revision ≤ other.revision → other = issued.viewport := by
      intro other known above
      have equal : other.revision = system.store.hostRevision := by
        apply UInt64.le_antisymm known.1
        rw [← top]
        exact above
      have same := known.2 equal
      rw [latest] at same
      exact (Option.some.inj same).symm
    refine ⟨latest, fun runtime among => ?_⟩
    obtain ⟨id, runs⟩ := List.getElem?_of_mem among
    have follows := ordered.runtimes runtime among
    have reached := ordered.reached issued member [] (by rw [done]; rfl) id runtime runs
    unfold Runtime.Reached at reached
    constructor
    · intro opened
      rw [opened] at reached
      have above : issued.viewport.revision ≤ runtime.revision :=
        reached.resolve_left nofun
      have held := only _ follows.known above
      refine ⟨held, ?_, ?_⟩
      · rw [← held]
        refine follows.placed.resolve_right fun below => ?_
        rw [← top] at below
        exact absurd below (UInt64.not_lt.mpr above)
      · rw [← held]
        exact follows.shown
    · intro current updating
      rw [updating] at reached
      have known := follows.latest current (by rw [updating]; rfl)
      rcases reached with never | reads | above
      · exact nomatch never
      · exact Or.inl (only current known reads)
      · exact Or.inr (only _ follows.known above)
  | same reply silent =>
    rw [← told] at silent
    exact silent.elim
  | failed reply silent command issued there =>
    rw [← told] at silent
    exact silent.elim
  | issued _ _ _ _ _ | refused _ _ _ | listed _ _ _ | prepared _ _ | started _ _ _
  | delivered _ _ _ _ _ _ _ _ _ _ _ _ _ _ _ | settled _ _ _ _ _ _ _ _ _ _
  | staged _ _ _ _ _ _ | foregrounded _ _ _ _ _ => exact nomatch told

theorem step_revisions (system : System) (event : Event) :
    system.store.hostRevision ≤ (system.step event).2.store.hostRevision := by
  have changes := step_changes system event
  generalize (system.step event).1 = reply, (system.step event).2 = after at changes ⊢
  cases changes with
  | issued confirmation viewport store hands asked =>
    rcases hands.succeeds with newer | ⟨same, _⟩
    · exact UInt64.le_of_lt newer
    · exact UInt64.le_of_eq same.symm
  | refused error store same => exact UInt64.le_of_eq same.1.symm
  | same _ _ | listed _ _ _ | acknowledged _ _ _ _ _ | failed _ _ _ _ _ | prepared _ _
  | started _ _ _ | delivered _ _ _ _ _ _ _ _ _ _ _ _ _ _ _ | settled _ _ _ _ _ _ _ _ _ _
  | staged _ _ _ _ _ _ | foregrounded _ _ _ _ _ => exact UInt64.le_refl _

/-- A new viewport has a revision above the one of the store before, and not above the one after. -/
theorem freshlyIssued_revision (ordered : system.Ordered)
    (fresh : freshlyIssued (Run.stepOf System.step system event) = some viewport) :
    system.store.hostRevision < viewport.revision ∧
      viewport.revision ≤ (system.step event).2.store.hostRevision := by
  have changes := step_changes system event
  unfold freshlyIssued Run.stepOf at fresh
  dsimp only at fresh
  split at fresh
  · rename_i handed told
    split at fresh
    · rename_i newer
      cases Option.some.inj fresh
      refine ⟨newer, ?_⟩
      rw [told] at changes
      generalize (system.step event).2 = after at changes ⊢
      cases changes with
      | issued confirmation _ store hands asked =>
        cases hands with
        | fresh _ revision latest => exact UInt64.le_of_eq revision
        | again latest same =>
          rw [ordered.store viewport latest] at newer
          exact absurd newer (UInt64.lt_irrefl _)
      | same _ silent => exact silent.elim
      | failed _ silent _ _ _ => exact silent.elim
    · exact nomatch fresh
  · exact nomatch fresh

/-- The revisions that are handed out from a state on increase from the one of its store. -/
theorem revisions_increase (events : List Event) : ∀ start : System,
    (∀ step ∈ Run.steps System.step start events, step.before.Ordered) →
    (∀ viewport ∈ (Run.steps System.step start events).filterMap freshlyIssued,
      start.store.hostRevision < viewport.revision) ∧
      ((Run.steps System.step start events).filterMap freshlyIssued).Pairwise
        fun first second => first.revision < second.revision := by
  induction events with
  | nil => exact fun _ _ => ⟨nofun, List.Pairwise.nil⟩
  | cons event events ih =>
    intro start ordered
    rw [Run.steps, List.forall_mem_cons] at ordered
    obtain ⟨above, increasing⟩ := ih _ ordered.2
    have rises := step_revisions start event
    rw [Run.steps]
    cases fresh : freshlyIssued (Run.stepOf System.step start event) with
    | none =>
      rw [List.filterMap_cons_none fresh]
      exact ⟨fun viewport member => UInt64.lt_of_le_of_lt rises (above viewport member), increasing⟩
    | some viewport =>
      obtain ⟨newer, bounded⟩ := freshlyIssued_revision ordered.1 fresh
      rw [List.filterMap_cons_some fresh, List.forall_mem_cons, List.pairwise_cons]
      exact ⟨⟨newer, fun other member => UInt64.lt_of_le_of_lt rises (above other member)⟩,
        fun other member => UInt64.lt_of_le_of_lt bounded (above other member), increasing⟩

/-- A runtime that is not as far as a revision. -/
def Below (id : Nat) (revision : UInt64) (system : System) : Prop :=
  ∃ runtime, system.runtimes[id]? = some runtime ∧ runtime.revision < revision

/-- A runtime stays below a revision until it follows that one or a newer one. -/
theorem step_below {id : Nat} {revision : UInt64} (below : Below id revision system)
    (followed : system.Followed event)
    (lower : ∀ other outcome, (system.step event).1 = .delivered id other (.ok outcome) →
      other.revision < revision) : Below id revision (system.step event).2 := by
  obtain ⟨runtime, runs, under⟩ := below
  obtain ⟨next, runs', kept | delivery⟩ := runtime_after (step_changes system event) runs
  · refine ⟨next, runs', ?_⟩
    show next.actor.viewport.revision < revision
    rw [kept]
    exact under
  · obtain ⟨viewport, outside, result, delivered, told, delivers, ends, actor⟩ := delivery
    refine ⟨next, runs', ?_⟩
    have stays := ends.stays_below (followed _ _ _ _ delivers) under (by
      cases result with
      | error error => exact Or.inr rfl
      | ok outcome => exact Or.inl (lower viewport outcome told))
    show next.actor.viewport.revision < revision
    rw [actor]
    exact stays

/-- A delivery that fails leaves the runtime below the viewport. -/
theorem below_of_failed {id : Nat} {error : GenericDeckRuntimeError}
    (followed : system.Followed event)
    (told : (system.step event).1 = .delivered id viewport (.error error)) :
    Below id viewport.revision (system.step event).2 := by
  have changes := step_changes system event
  rw [told] at changes
  obtain ⟨runtime, next, outside, delivers, runs, delivered, made, actor⟩ :=
    delivered_runtime changes
  have ends := (Delivery.of_made made).fails (followed _ _ _ _ delivers) rfl
  refine ⟨next, runs, ?_⟩
  show next.actor.viewport.revision < viewport.revision
  rw [actor]
  exact ends.2

/-- A delivery to a runtime below its revision is made in full. -/
theorem full_of_below {id : Nat} (below : Below id viewport.revision system)
    (told : (system.step event).1 = .delivered id viewport result) :
    ∃ runtime after outside, system.Delivers event id runtime viewport outside ∧
      (system.step event).2.runtimes[id]? = some after ∧
      ending (placeViewport outside viewport runtime.actor.foreground) runtime.actor =
        (result, after.actor) := by
  have changes := step_changes system event
  rw [told] at changes
  obtain ⟨runtime, next, outside, delivers, runs', delivered, made, actor⟩ :=
    delivered_runtime changes
  refine ⟨runtime, next, outside, delivers, runs', ?_⟩
  obtain ⟨found, here, under⟩ := below
  have same : system.runtimes[id]? = some runtime := by
    cases delivers with
    | command there listed among runs alive => exact runs
    | opening runs reading => exact runs
  rw [same] at here
  rw [← Option.some.inj here] at under
  have placed : ending (placeViewport outside viewport runtime.actor.foreground) runtime.actor =
      ending (setViewport outside viewport) runtime.actor := by
    unfold ending
    rw [setViewport_newer under]
  unfold Runtime.deliver at made
  rw [placed, actor]
  generalize ending (setViewport outside viewport) runtime.actor = outcome at made ⊢
  cases made
  rfl

/-- What is handed out is new or the latest viewport once more. -/
theorem issued_fresh (changes : Change system event (system.step event).1 (system.step event).2)
    (told : (system.step event).1 = .issued viewport) :
    freshlyIssued (Run.stepOf System.step system event) = some viewport ∨
      system.store.viewport = some viewport := by
  have shown : freshlyIssued (Run.stepOf System.step system event) =
      if system.store.hostRevision < viewport.revision then some viewport else none := by
    unfold freshlyIssued Run.stepOf
    dsimp only
    rw [told]
  rw [told] at changes
  generalize (system.step event).2 = after at changes
  cases changes with
  | issued confirmation _ store hands asked =>
    cases hands with
    | fresh newer revision latest =>
      rw [← revision] at newer
      rw [shown, if_pos newer]
      exact Or.inl rfl
    | again latest same => exact Or.inr latest
  | same _ silent => exact silent.elim
  | failed _ silent _ _ _ => exact silent.elim

/-- In every history in which no delivery leaves a window placed that is then neither shown nor
hidden, the viewports are in order. -/
theorem viewports_in_order (events : List Event)
    (followed : ∀ step ∈ stepsOf events, step.before.Followed step.input) : InOrder events := by
  have ordered := history_ordered followed
  have own : ∀ step ∈ stepsOf events, ∃ system event,
      step = Run.stepOf System.step system event :=
    fun step member => ⟨_, _, Run.step_eq System.new events step member⟩
  have asked : ∀ step ∈ stepsOf events, ∀ request, step.input = .applies request →
      (∃ viewport, step.output = .issued viewport ∧
          Accepts step.before.store request viewport step.after.store) ∨
        ((∃ error, step.output = .refused error) ∧ step.after.store = step.before.store) := by
    intro step member request asks
    obtain ⟨system, event, rfl⟩ := own step member
    have applies : event = .applies request := asks
    subst applies
    unfold Run.stepOf System.step
    dsimp only
    rcases apply_ends system.store request with ⟨viewport, accepted, accepts⟩ | ⟨error, refused⟩
    · have applied : system.store.apply request = (.ok viewport, (system.store.apply request).2) :=
        Prod.ext accepted rfl
      rw [applied]
      exact Or.inl ⟨viewport, rfl, accepts⟩
    · rw [refused]
      exact Or.inr ⟨⟨error, rfl⟩, rfl⟩
  refine ⟨(revisions_increase events System.new ordered).2, ?_, ?_, ?_, ?_, ?_, ?_⟩
  · intro step member viewport told
    obtain ⟨system, event, rfl⟩ := own step member
    exact issued_fresh (step_changes system event) told
  · intro step member request asks stale
    rcases asked step member request asks with ⟨viewport, told, accepts⟩ | refused
    · cases accepts with
      | newer epoch revision hands =>
        rcases stale with other | lower
        · exact absurd epoch other
        · exact absurd lower (UInt64.lt_asymm revision)
      | again epoch revision geometry latest same =>
        rcases stale with other | lower
        · exact absurd epoch other
        · rw [revision] at lower
          exact absurd lower (UInt64.lt_irrefl _)
    · exact refused
  · intro step member request viewport asks told equal
    rcases asked step member request asks with ⟨handed, told', accepts⟩ | ⟨⟨error, refused⟩, _⟩
    · rw [told] at told'
      cases told'
      cases accepts with
      | newer epoch revision hands =>
        rw [equal] at revision
        exact absurd revision (UInt64.lt_irrefl _)
      | again epoch revision geometry latest same => exact ⟨geometry, latest, same⟩
    · rw [told] at refused
      exact nomatch refused
  · intro step member id runtime runs
    obtain ⟨system, event, rfl⟩ := own step member
    obtain ⟨next, runs', kept | delivery⟩ := runtime_after (step_changes system event) runs
    · exact ⟨next, runs', Or.inl kept⟩
    · obtain ⟨viewport, outside, result, delivered, told, delivers, ends, actor⟩ := delivery
      refine ⟨next, runs', ?_⟩
      have moves := ends.moves
      show next.actor.viewport = _ ∨ _ < next.actor.viewport.revision
      rw [actor]
      exact moves
  · intro earlier failing between retry later split
    have stands : ∀ step, step = failing ∨ step ∈ between →
        step ∈ stepsOf events := by
      intro step among
      rw [split]
      refine List.mem_append_right _ ?_
      rcases among with rfl | member
      · exact List.mem_cons_self
      · exact List.mem_cons_of_mem _ (List.mem_append_left _ member)
    obtain ⟨before, event, after, _, _, failing_eq, rest⟩ := Run.steps_from split
    obtain ⟨middle, again, last, _, between_eq, retry_eq, _⟩ := Run.steps_from rest.symm
    intro id viewport error other result fails lower told same
    have followed' : (Run.final System.step System.new before).Followed event := by
      have here := followed failing (stands _ (Or.inl rfl))
      rw [failing_eq] at here
      exact here
    have failed : Below id viewport.revision failing.after := by
      rw [failing_eq] at fails ⊢
      exact below_of_failed followed' fails
    have below : Below id viewport.revision (Run.final System.step failing.after middle) := by
      refine (Run.invariant_under (fun step => step.before.Followed step.input ∧
        ∀ other outcome, step.output = .delivered id other (.ok outcome) →
          other.revision < viewport.revision) (Below id viewport.revision)
        (fun _ _ below held => step_below below held.1 held.2) middle failing.after failed ?_).1
      intro step member
      rw [← between_eq] at member
      exact ⟨followed step (stands step (Or.inr member)), lower step member⟩
    rw [retry_eq] at told ⊢
    rw [← same] at below
    exact full_of_below below told
  · intro step member viewport told
    obtain ⟨system, event, rfl⟩ := own step member
    have changes := step_changes system event
    have acknowledges : (system.step event).1 = .acknowledged viewport := told
    rw [acknowledges] at changes
    exact acknowledged_applied (ordered _ member) changes

def shownGeometry : ViewportGeometry where
  bounds := some ⟨0, 0, 64, 64⟩
  visible := true
  xCss := 0
  yCss := 0
  widthCss := 0x4050000000000000
  heightCss := 0x4050000000000000
  scaleFactor := Binary64.ofInt 1

/-- A world in which windows are placed and shown or hidden, or not. -/
def windows (place visible : Bool) : Outside :=
  { answering startsCaptures with
    setBounds := fun _ => if place then some .configured else none
    setVisible := fun _ => visible }

/-- A runtime is opened and shown, and is then to be hidden; the delivery is answered by the first
world, and once more by one in which everything succeeds. -/
def hidingHistory (first : Outside) : List Event :=
  [.begins, .applies ⟨1, 1, shownGeometry⟩, .prepares, .starts 0 playingActor, .registers 0,
    .updates 0, .settles 0 (windows true true), .foregrounds 0 true (windows true true),
    .applies ⟨1, 2, .hidden⟩, .lists 2, .delivers 2 0 first, .applies ⟨1, 2, .hidden⟩, .lists 3,
    .delivers 3 0 (windows true true), .confirms 3]

/-- An acknowledged viewport, and the runtimes with their viewports and whether they are shown. -/
def acknowledgedRuntimes (step : Run.Step System Event Reply) :
    Option (EmbeddedViewport × List (Stage × EmbeddedViewport × Bool)) :=
  match step.output with
  | .acknowledged viewport => some (viewport, step.before.runtimes.map fun runtime =>
      (runtime.stage, runtime.actor.viewport, runtime.actor.outputVisible))
  | _ => none

theorem hiding_acknowledged : (stepsOf (hidingHistory (windows true false))).filterMap
    acknowledgedRuntimes = [(⟨3, none, false⟩, [(.opened, ⟨3, none, false⟩, true)])] := by
  decide +kernel

/-- Not in every history are the viewports in order: when a window is placed and cannot be hidden,
the next delivery of the revision does nothing and succeeds. -/
theorem stranded_window_acknowledged : ¬ InOrder (hidingHistory (windows true false)) := by
  intro inOrder
  have seen : (⟨3, none, false⟩, [(.opened, ⟨3, none, false⟩, true)]) ∈
      (stepsOf (hidingHistory (windows true false))).filterMap acknowledgedRuntimes := by
    rw [hiding_acknowledged]
    exact List.mem_cons_self
  obtain ⟨step, member, shown⟩ := List.mem_filterMap.mp seen
  unfold acknowledgedRuntimes at shown
  split at shown
  · rename_i viewport told
    obtain ⟨latest, listed⟩ := Prod.mk.inj (Option.some.inj shown)
    obtain ⟨_, applied⟩ := inOrder.acknowledged step member viewport told
    have among : (Stage.opened, EmbeddedViewport.mk 3 none false, true) ∈
        step.before.runtimes.map fun runtime =>
          (runtime.stage, runtime.actor.viewport, runtime.actor.outputVisible) := by
      rw [listed]
      exact List.mem_cons_self
    obtain ⟨runtime, within, same⟩ := List.mem_map.mp among
    obtain ⟨opened, rest⟩ := Prod.mk.inj same
    obtain ⟨held, visible⟩ := Prod.mk.inj rest
    have follows := (applied runtime within).1 opened
    have hidden := follows.shown
    rw [visible, ← follows.held] at hidden
    unfold Runtime.shows at hidden
    rw [held] at hidden
    simp at hidden
  · exact nomatch shown

/-- An event in which every window can be shown and hidden. -/
def Event.Willing : Event → Prop
  | .delivers _ _ outside | .settles _ outside => ∀ shown, outside.setVisible shown = true
  | .begins | .applies _ | .lists _ | .confirms _ | .prepares | .starts _ _ | .configures _
  | .registers _ | .updates _ | .foregrounds _ _ _ | .closes _ => True

theorem followed_of_willing (willing : event.Willing) : system.Followed event := by
  rintro id runtime viewport outside delivers ⟨_, _, refused⟩
  cases delivers with
  | command there listed among runs alive =>
    rw [willing] at refused
    exact Bool.noConfusion refused
  | opening runs reading =>
    rw [willing] at refused
    exact Bool.noConfusion refused

/-- A history in which a window cannot be placed at first. -/
theorem hiding_in_order :
    (∀ step ∈ stepsOf (hidingHistory (windows false true)), step.before.Followed step.input) ∧
      InOrder (hidingHistory (windows false true)) := by
  have willing : ∀ event ∈ hidingHistory (windows false true), event.Willing := by
    unfold hidingHistory
    simp [Event.Willing, windows]
  have followed : ∀ step ∈ stepsOf (hidingHistory (windows false true)),
      step.before.Followed step.input := by
    intro step member
    obtain ⟨earlier, later, split⟩ := List.append_of_mem member
    obtain ⟨before, event, after, events, _, same, _⟩ := Run.steps_from split
    have among : event ∈ hidingHistory (windows false true) := by
      rw [events]
      exact List.mem_append_right _ List.mem_cons_self
    rw [same]
    exact followed_of_willing (willing event among)
  exact ⟨followed, viewports_in_order _ followed⟩

end LatentDeck.Viewport
