import LatentDeck.Host.RuntimeActor

/-!
# The embedded viewport

The host hands out the places at which deck outputs are embedded. A place is asked for under the
epoch of a session and a revision of the client, and gets a revision of the host, which is never
reset. Commands deliver it to the registered runtimes, each of which keeps the newest, and are
acknowledged when the place is still the latest.
-/

namespace LatentDeck.Viewport

open Effect Fallible Host

deriving instance DecidableEq for NativeOutputBounds, EmbeddedViewport

structure CommandError where
  code : String
  message : String

def viewportNotReady : CommandError where
  code := "output.viewport_not_ready"
  message := "LatentDeck is waiting for the embedded video area."

def staleSession : CommandError where
  code := "output.viewport_session_stale"
  message := "The embedded video-area session is stale; begin a new viewport session."

def staleRevision : CommandError where
  code := "output.viewport_revision_stale"
  message := "LatentDeck rejected an out-of-order embedded video-area update."

def epochOverflow : CommandError where
  code := "output.viewport_epoch_overflow"
  message := "The embedded video-area session counter is exhausted."

def hostRevisionOverflow : CommandError where
  code := "output.viewport_revision_overflow"
  message := "The embedded video-area host revision counter is exhausted."

def revisionInvalid : CommandError where
  code := "output.viewport_revision_invalid"
  message := "Embedded video-area revisions must start at one."

/-- The error of a revision with two geometries. -/
def revisionConflict : CommandError where
  code := "output.viewport_revision_conflict"
  message := "One embedded video-area revision cannot describe two geometries."

/-- The error of a viewport that cannot be seen. -/
def viewportInvisible : CommandError where
  code := "output.viewport_not_ready"
  message := "LatentDeck is waiting for a visible embedded video area."

structure ViewportSessionAck where
  epoch : UInt64

/-- `ViewportGeometry`; the measures of the client are binary64 numbers. -/
structure ViewportGeometry where
  bounds : Option NativeOutputBounds
  visible : Bool
  xCss : UInt64
  yCss : UInt64
  widthCss : UInt64
  heightCss : UInt64
  scaleFactor : UInt64

def ViewportGeometry.hidden : ViewportGeometry where
  bounds := none
  visible := false
  xCss := 0
  yCss := 0
  widthCss := 0
  heightCss := 0
  scaleFactor := Binary64.ofInt 1

def ViewportGeometry.viewport (geometry : ViewportGeometry) (hostRevision : UInt64) :
    EmbeddedViewport where
  revision := hostRevision
  bounds := geometry.bounds
  visible := geometry.visible

/-- `==` of two geometries. -/
def ViewportGeometry.same (first second : ViewportGeometry) : Bool :=
  decide (first.bounds = second.bounds) && first.visible == second.visible &&
    Binary64.isEqual first.xCss second.xCss && Binary64.isEqual first.yCss second.yCss &&
    Binary64.isEqual first.widthCss second.widthCss &&
    Binary64.isEqual first.heightCss second.heightCss &&
    Binary64.isEqual first.scaleFactor second.scaleFactor

structure ValidatedViewportRequest where
  epoch : UInt64
  clientRevision : UInt64
  geometry : ViewportGeometry

structure ViewportStoreState where
  epoch : UInt64
  clientRevision : UInt64
  hostRevision : UInt64
  geometry : Option ViewportGeometry
  viewport : Option EmbeddedViewport

namespace ViewportStoreState

/-- `EmbeddedViewportStore::new`. -/
def new : ViewportStoreState := ⟨0, 0, 0, none, none⟩

/-- `begin_session`. The epoch is already new when the revisions are exhausted. -/
def beginSession (state : ViewportStoreState) :
    Except CommandError (ViewportSessionAck × EmbeddedViewport) × ViewportStoreState :=
  match checkedSucc state.epoch with
  | none => (.error epochOverflow, state)
  | some epoch =>
      match checkedSucc state.hostRevision with
      | none => (.error hostRevisionOverflow, { state with epoch })
      | some hostRevision =>
          let geometry := ViewportGeometry.hidden
          let viewport := geometry.viewport hostRevision
          (.ok (⟨epoch⟩, viewport), ⟨epoch, 0, hostRevision, some geometry, some viewport⟩)

def apply (state : ViewportStoreState) (request : ValidatedViewportRequest) :
    Except CommandError EmbeddedViewport × ViewportStoreState :=
  if request.epoch = 0 ∨ request.epoch ≠ state.epoch then (.error staleSession, state)
  else if request.clientRevision = 0 then (.error revisionInvalid, state)
  else if request.clientRevision < state.clientRevision then (.error staleRevision, state)
  else if request.clientRevision = state.clientRevision then
    if state.geometry.any fun geometry => geometry.same request.geometry then
      (orError state.viewport viewportNotReady, state)
    else (.error revisionConflict, state)
  else
    match checkedSucc state.hostRevision with
    | none => (.error hostRevisionOverflow, state)
    | some hostRevision =>
        let viewport := request.geometry.viewport hostRevision
        (.ok viewport, ⟨state.epoch, request.clientRevision, hostRevision, some request.geometry,
          some viewport⟩)

def confirmApplied (state : ViewportStoreState) (request : ValidatedViewportRequest)
    (viewport : EmbeddedViewport) : Except CommandError Unit := do
  refuseWhen (request.epoch ≠ state.epoch) staleSession
  refuseWhen (request.clientRevision ≠ state.clientRevision ∨ state.viewport ≠ some viewport)
    staleRevision

def confirmSession (state : ViewportStoreState) (session : ViewportSessionAck)
    (viewport : EmbeddedViewport) : Except CommandError Unit := do
  refuseWhen (session.epoch ≠ state.epoch) staleSession
  refuseWhen (state.clientRevision ≠ 0 ∨ state.viewport ≠ some viewport) staleRevision

def current (state : ViewportStoreState) : Except CommandError EmbeddedViewport :=
  orError state.viewport viewportNotReady

def currentVisible (state : ViewportStoreState) : Except CommandError EmbeddedViewport := do
  let viewport ← state.current
  refuseWhen (viewport.bounds.isNone ∨ viewport.visible = false) viewportInvisible
  .ok viewport

end ViewportStoreState

/-- How far the opening of a runtime has come, in `deck_generic_open` and in
`deck_generic_sources_replace`. -/
inductive Stage where
  | started
  | configuring (latest : EmbeddedViewport)
  | registered
  | updating (latest : EmbeddedViewport)
  | opened
  /-- The last delivery of the opening has failed, and the session is to be closed. -/
  | closing
  | closed
  deriving DecidableEq

/-- `active_runtimes` lists the runtime. -/
def Stage.isActive : Stage → Bool
  | .registered | .updating _ | .opened | .closing => true
  | .started | .configuring _ | .closed => false

/-- The viewport that the opening is about to deliver. -/
def Stage.latest : Stage → Option EmbeddedViewport
  | .configuring latest | .updating latest => some latest
  | .started | .registered | .opened | .closing | .closed => none

/-- The stage after the delivery of the opening. -/
def Stage.settled : Stage → Bool → Stage
  | .configuring _, true => .started
  | .configuring _, false => .closed
  | .updating _, true => .opened
  | .updating _, false => .closing
  | stage, _ => stage

structure Runtime where
  actor : RuntimeActor
  placed : Option (Option NativeOutputBounds)
  stage : Stage

/-- The revision of the viewport that a runtime has. -/
def Runtime.revision (runtime : Runtime) : UInt64 := runtime.actor.viewport.revision

/-- A runtime starts with a viewport, in the background. -/
def Runtime.start (actor : RuntimeActor) (viewport : EmbeddedViewport) : Runtime where
  actor :=
    { actor with
      viewport
      foreground := false
      outputVisible := false }
  placed := some viewport.bounds
  stage := .started

/-- What becomes of the placement of the window by `set_viewport`. -/
def Runtime.placement (runtime : Runtime) (outside : Outside) (viewport : EmbeddedViewport) :
    Option (Option NativeOutputBounds) :=
  if viewport.revision ≤ runtime.revision then runtime.placed
  else (outside.setBounds viewport.bounds).map fun _ => viewport.bounds

/-- The actor of a runtime handles `SetViewport`. -/
def Runtime.deliver (runtime : Runtime) (outside : Outside) (viewport : EmbeddedViewport) :
    Except GenericDeckRuntimeError ResizeOutcome × Runtime :=
  let (result, actor) := ending (setViewport outside viewport) runtime.actor
  (result,
    { runtime with
      actor
      placed := runtime.placement outside viewport })

/-- The actor of a runtime handles `SetForeground`. -/
def Runtime.foregrounded (runtime : Runtime) (outside : Outside) (foreground : Bool) : Runtime :=
  { runtime with actor := (ending (setForeground outside foreground) runtime.actor).2 }

inductive Confirmation where
  /-- `deck_generic_viewport_session_begin`. -/
  | session (session : ViewportSessionAck)
  /-- `deck_generic_viewport_set_bounds`. -/
  | request (request : ValidatedViewportRequest)

def Confirmation.check (confirmation : Confirmation) (store : ViewportStoreState)
    (viewport : EmbeddedViewport) : Except CommandError Unit :=
  match confirmation with
  | .session ack => store.confirmSession ack viewport
  | .request asked => store.confirmApplied asked viewport

inductive Progress where
  | issued
  | delivering (pending : List Nat)
  | acknowledged
  | failed

def Progress.answered (pending : List Nat) (id : Nat)
    (result : Except GenericDeckRuntimeError ResizeOutcome) : Progress :=
  match result with
  | .ok _ => .delivering (pending.filter fun other => other ≠ id)
  | .error _ => .failed

structure ViewportCommand where
  confirmation : Confirmation
  viewport : EmbeddedViewport
  progress : Progress

/-- The store, the viewports that openings start with, the commands and the runtimes. -/
structure System where
  store : ViewportStoreState
  openings : List EmbeddedViewport
  commands : List ViewportCommand
  runtimes : List Runtime

def System.new : System := ⟨.new, [], [], []⟩

/-- `active_runtimes`. -/
def System.active (system : System) : List Nat :=
  (List.range system.runtimes.length).filter fun id =>
    system.runtimes[id]?.any fun runtime => runtime.stage.isActive

inductive Event where
  /-- `begin_session` for a new command. -/
  | begins
  /-- `apply` for a new command. -/
  | applies (request : ValidatedViewportRequest)
  | lists (command : Nat)
  | delivers (command id : Nat) (outside : Outside)
  | confirms (command : Nat)
  | prepares
  | starts (opening : Nat) (actor : RuntimeActor)
  | configures (id : Nat)
  | registers (id : Nat)
  | updates (id : Nat)
  | settles (id : Nat) (outside : Outside)
  /-- A runtime handles `SetForeground`. -/
  | foregrounds (id : Nat) (foreground : Bool) (outside : Outside)
  | closes (id : Nat)

inductive Reply where
  | ignored
  | quiet
  | issued (viewport : EmbeddedViewport)
  | refused (error : CommandError)
  | delivered (id : Nat) (viewport : EmbeddedViewport)
      (result : Except GenericDeckRuntimeError ResizeOutcome)
  | unreachable
  | acknowledged (viewport : EmbeddedViewport)

namespace System

variable (system : System)

def proceed (command : Nat) (issued : ViewportCommand) (progress : Progress) : System :=
  { system with commands := system.commands.set command { issued with progress } }

def replace (id : Nat) (runtime : Runtime) : System :=
  { system with runtimes := system.runtimes.set id runtime }

def launch (store : ViewportStoreState) (confirmation : Confirmation)
    (viewport : EmbeddedViewport) : System :=
  { system with
    store
    commands := system.commands ++ [⟨confirmation, viewport, .issued⟩] }

/-- A command delivers to a runtime that it has listed. -/
def delivers (command id : Nat) (issued : ViewportCommand) (pending : List Nat)
    (runtime : Runtime) (outside : Outside) : Reply × System :=
  if runtime.stage = .closed then (.unreachable, system.proceed command issued .failed)
  else
    let (result, runtime) := runtime.deliver outside issued.viewport
    (.delivered id issued.viewport result,
      (system.replace id runtime).proceed command issued (.answered pending id result))

/-- An opening delivers the latest viewport that it has read. -/
def settles (id : Nat) (runtime : Runtime) (latest : EmbeddedViewport) (outside : Outside) :
    Reply × System :=
  let (result, after) := runtime.deliver outside latest
  let stage := runtime.stage.settled result.toOption.isSome
  (.delivered id latest result, system.replace id { after with stage })

def step : Event → Reply × System
  | .begins =>
      match system.store.beginSession with
      | (.ok (session, viewport), store) =>
          (.issued viewport, system.launch store (.session session) viewport)
      | (.error error, store) => (.refused error, { system with store })
  | .applies request =>
      match system.store.apply request with
      | (.ok viewport, store) => (.issued viewport, system.launch store (.request request) viewport)
      | (.error error, store) => (.refused error, { system with store })
  | .lists command =>
      match system.commands[command]? with
      | some ⟨confirmation, viewport, .issued⟩ =>
          (.quiet, system.proceed command ⟨confirmation, viewport, .issued⟩
            (.delivering system.active))
      | _ => (.ignored, system)
  | .delivers command id outside =>
      match system.commands[command]?, system.runtimes[id]? with
      | some ⟨confirmation, viewport, .delivering pending⟩, some runtime =>
          if id ∈ pending then
            system.delivers command id ⟨confirmation, viewport, .delivering pending⟩ pending
              runtime outside
          else (.ignored, system)
      | _, _ => (.ignored, system)
  | .confirms command =>
      match system.commands[command]? with
      | some ⟨confirmation, viewport, .delivering []⟩ =>
          match confirmation.check system.store viewport with
          | .ok () => (.acknowledged viewport,
              system.proceed command ⟨confirmation, viewport, .delivering []⟩ .acknowledged)
          | .error error => (.refused error,
              system.proceed command ⟨confirmation, viewport, .delivering []⟩ .failed)
      | _ => (.ignored, system)
  | .prepares =>
      match system.store.currentVisible with
      | .ok viewport => (.quiet, { system with openings := system.openings ++ [viewport] })
      | .error error => (.refused error, system)
  | .starts opening actor =>
      match system.openings[opening]? with
      | some viewport =>
          (.quiet, { system with runtimes := system.runtimes ++ [.start actor viewport] })
      | none => (.ignored, system)
  | .configures id =>
      match system.runtimes[id]?, system.store.current with
      | some ⟨actor, placed, .started⟩, .ok latest =>
          (.quiet, system.replace id ⟨actor, placed, .configuring latest⟩)
      | _, _ => (.ignored, system)
  | .registers id =>
      match system.runtimes[id]? with
      | some ⟨actor, placed, .started⟩ => (.quiet, system.replace id ⟨actor, placed, .registered⟩)
      | _ => (.ignored, system)
  | .updates id =>
      match system.runtimes[id]?, system.store.current with
      | some ⟨actor, placed, .registered⟩, .ok latest =>
          (.quiet, system.replace id ⟨actor, placed, .updating latest⟩)
      | _, _ => (.ignored, system)
  | .settles id outside =>
      match system.runtimes[id]? with
      | some runtime =>
          match runtime.stage.latest with
          | some latest => system.settles id runtime latest outside
          | none => (.ignored, system)
      | none => (.ignored, system)
  | .foregrounds id foreground outside =>
      match system.runtimes[id]? with
      | some runtime =>
          if runtime.stage = .closed then (.ignored, system)
          else (.quiet, system.replace id (runtime.foregrounded outside foreground))
      | none => (.ignored, system)
  | .closes id =>
      match system.runtimes[id]? with
      | some ⟨actor, placed, _⟩ => (.quiet, system.replace id ⟨actor, placed, .closed⟩)
      | none => (.ignored, system)

end System

/-- `set_viewport` once the viewport is newer. -/
def placeViewport (outside : Outside) (viewport : EmbeddedViewport) (foreground : Bool) :
    Act ResizeOutcome := do
  let outcome ← check (orError (outside.setBounds viewport.bounds) .output)
  modify fun actor => { actor with viewport := viewport }
  showOutput outside (foreground && viewport.visible)
  pure outcome

/-- What the window of a runtime is to show of a viewport. -/
def Runtime.shows (runtime : Runtime) (viewport : EmbeddedViewport) : Bool :=
  runtime.actor.foreground && viewport.visible

inductive Delivery (runtime : Runtime) (outside : Outside) (viewport : EmbeddedViewport) :
    Except GenericDeckRuntimeError ResizeOutcome → Runtime → Prop where
  | unchanged (old : viewport.revision ≤ runtime.revision) :
      Delivery runtime outside viewport (.ok .unchanged) runtime
  | unplaced (newer : runtime.revision < viewport.revision)
      (refused : outside.setBounds viewport.bounds = none) :
      Delivery runtime outside viewport (.error .output) { runtime with placed := none }
  | stranded (newer : runtime.revision < viewport.revision) (outcome : ResizeOutcome)
      (placed : outside.setBounds viewport.bounds = some outcome)
      (refused : outside.setVisible (runtime.shows viewport) = false) :
      Delivery runtime outside viewport (.error .output)
        { runtime with
          actor := { runtime.actor with viewport }
          placed := some viewport.bounds }
  | applied (newer : runtime.revision < viewport.revision) (outcome : ResizeOutcome)
      (placed : outside.setBounds viewport.bounds = some outcome)
      (visible : outside.setVisible (runtime.shows viewport) = true) :
      Delivery runtime outside viewport (.ok outcome)
        { runtime with
          actor :=
            { runtime.actor with
              viewport
              outputVisible := runtime.shows viewport }
          placed := some viewport.bounds }

variable {actor : RuntimeActor} {outside : Outside} {viewport : EmbeddedViewport}

theorem setViewport_old (old : viewport.revision ≤ actor.viewport.revision) :
    setViewport outside viewport actor = .ok .unchanged actor := by
  show (if viewport.revision ≤ actor.viewport.revision then (pure .unchanged : Act ResizeOutcome)
    else placeViewport outside viewport actor.foreground) actor = _
  rw [if_pos old]
  rfl

theorem setViewport_newer (newer : actor.viewport.revision < viewport.revision) :
    setViewport outside viewport actor =
      placeViewport outside viewport actor.foreground actor := by
  show (if viewport.revision ≤ actor.viewport.revision then (pure .unchanged : Act ResizeOutcome)
    else placeViewport outside viewport actor.foreground) actor = _
  rw [if_neg (UInt64.not_le.mpr newer)]

theorem placeViewport_unplaced {foreground : Bool}
    (refused : outside.setBounds viewport.bounds = none) :
    placeViewport outside viewport foreground actor = .error .output actor := by
  unfold placeViewport
  rw [refused]
  rfl

theorem placeViewport_placed {foreground : Bool}
    {outcome : ResizeOutcome} (placed : outside.setBounds viewport.bounds = some outcome) :
    placeViewport outside viewport foreground actor =
      (demand (outside.setVisible (foreground && viewport.visible) = true) .output >>= fun _ => do
        modify fun actor : RuntimeActor =>
          { actor with outputVisible := foreground && viewport.visible }
        pure outcome : Act ResizeOutcome) { actor with viewport } := by
  unfold placeViewport
  rw [placed]
  show (showOutput outside _ >>= fun _ => (pure outcome : Act ResizeOutcome)) _ = _
  unfold showOutput
  rw [bind_assoc]

theorem demand_met {ε σ : Type} {condition : Prop} [Decidable condition] {error : ε}
    (met : condition) : (demand condition error : EStateM ε σ Unit) = pure () := by
  funext state
  unfold demand reading
  rw [if_pos met]
  rfl

theorem demand_unmet {ε σ : Type} {condition : Prop} [Decidable condition] {error : ε}
    (unmet : ¬ condition) : (demand condition error : EStateM ε σ Unit) = throw error := by
  funext state
  unfold demand reading
  rw [if_neg unmet]
  rfl

theorem deliver_ends (runtime : Runtime) (outside : Outside) (viewport : EmbeddedViewport) :
    Delivery runtime outside viewport (runtime.deliver outside viewport).1
      (runtime.deliver outside viewport).2 := by
  unfold Runtime.deliver Runtime.placement ending
  by_cases old : viewport.revision ≤ runtime.revision
  · rw [setViewport_old old, if_pos old]
    exact .unchanged old
  · have newer : runtime.revision < viewport.revision := UInt64.not_le.mp old
    rw [setViewport_newer newer, if_neg old]
    cases placed : outside.setBounds viewport.bounds with
    | none =>
      rw [placeViewport_unplaced placed]
      exact .unplaced newer placed
    | some outcome =>
      rw [placeViewport_placed placed]
      by_cases visible : outside.setVisible (runtime.actor.foreground && viewport.visible) = true
      · rw [demand_met visible]
        exact .applied newer outcome placed visible
      · rw [demand_unmet visible]
        exact .stranded newer outcome placed (Bool.eq_false_iff.mpr visible)

/-- A window that has been placed at the bounds of a new viewport and is then neither shown nor
hidden. -/
def Stranded (runtime : Runtime) (outside : Outside) (viewport : EmbeddedViewport) : Prop :=
  runtime.revision < viewport.revision ∧ (outside.setBounds viewport.bounds).isSome = true ∧
    outside.setVisible (runtime.shows viewport) = false

theorem Delivery.of_made {runtime after : Runtime}
    {result : Except GenericDeckRuntimeError ResizeOutcome}
    (made : runtime.deliver outside viewport = (result, after)) :
    Delivery runtime outside viewport result after := by
  have ends := deliver_ends runtime outside viewport
  rw [made] at ends
  exact ends

namespace Delivery

variable {runtime after : Runtime} {outside : Outside} {viewport : EmbeddedViewport}
  {result : Except GenericDeckRuntimeError ResizeOutcome}

section

variable (ends : Delivery runtime outside viewport result after)

include ends

theorem stage : after.stage = runtime.stage := by
  cases ends <;> rfl

theorem moves :
    after.actor.viewport = runtime.actor.viewport ∨ runtime.revision < after.revision := by
  cases ends with
  | unchanged old => exact Or.inl rfl
  | unplaced newer refused => exact Or.inl rfl
  | stranded newer outcome placed refused => exact Or.inr newer
  | applied newer outcome placed visible => exact Or.inr newer

theorem advances : runtime.revision ≤ after.revision := by
  rcases ends.moves with same | newer
  · have equal : after.revision = runtime.revision := congrArg EmbeddedViewport.revision same
    rw [equal]
    exact UInt64.le_refl _
  · exact UInt64.le_of_lt newer

theorem reaches
    (answered : result.toOption.isSome = true) : viewport.revision ≤ after.revision := by
  cases ends with
  | unchanged old => exact old
  | unplaced newer refused => exact Bool.noConfusion answered
  | stranded newer outcome placed refused => exact Bool.noConfusion answered
  | applied newer outcome placed visible => exact UInt64.le_refl _

theorem fails
    (followed : ¬ Stranded runtime outside viewport) (failed : result.toOption.isSome = false) :
    after.actor = runtime.actor ∧ after.revision < viewport.revision := by
  cases ends with
  | unchanged old => exact Bool.noConfusion failed
  | unplaced newer refused => exact ⟨rfl, newer⟩
  | stranded newer outcome placed refused =>
    exact absurd ⟨newer, Option.isSome_iff_exists.mpr ⟨_, placed⟩, refused⟩ followed
  | applied newer outcome placed visible => exact Bool.noConfusion failed

/-- A runtime that is not as far as a revision is not after a delivery below it, nor after one that
fails. -/
theorem stays_below {revision : UInt64}
    (followed : ¬ Stranded runtime outside viewport) (below : runtime.revision < revision)
    (lower : viewport.revision < revision ∨ result.toOption.isSome = false) :
    after.revision < revision := by
  cases ends with
  | unchanged old => exact below
  | unplaced newer refused => exact below
  | stranded newer outcome placed refused =>
    exact absurd ⟨newer, Option.isSome_iff_exists.mpr ⟨_, placed⟩, refused⟩ followed
  | applied newer outcome placed visible =>
    rcases lower with lower | failed
    · exact lower
    · exact Bool.noConfusion failed

end

end Delivery

end LatentDeck.Viewport
