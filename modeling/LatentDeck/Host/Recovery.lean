import LatentDeck.Host.RuntimeLoop

/-!
# Which errors end a session

The loop of an actor asks for the fatal flag of an error behind a command, and ends on every error of
its own work. Its own work raises fatal errors only, as long as the worker does not answer it with an
error that is not fatal and the library takes what it captured. A capture that is over leaves its
slot empty.
-/

namespace LatentDeck.Host

open Effect Fallible Run
open Control (Ack CaptureState CaptureStatusSnapshot Command DeckStatusSnapshot ErrorCode)

def Faults {α : Type} (result : Except GenericDeckRuntimeError α) : Prop :=
  Raises (fun error => error.fatal = true) result

/-- The bounds of playheads are kept, or the session faults. -/
theorem faults_validatePlayheadBounds (status : DeckStatusSnapshot)
    (slotCounts : List (UInt8 × UInt64)) : Faults (validatePlayheadBounds status slotCounts) := by
  unfold validatePlayheadBounds
  have each : ∀ entry, Faults (validatePlayheadBound status entry) := by
    intro entry
    unfold validatePlayheadBound
    refine .refusing rfl fun _ => ?_
    refine .finding rfl fun playhead => ?_
    refine .finding rfl fun transport => ?_
    exact raises_refuseWhen rfl
  refine .refusing rfl fun _ => ?_
  exact raises_checkEach each slotCounts

variable (previous status : DeckStatusSnapshot)

theorem faults_validateProcessStatus (slotCounts : List (UInt8 × UInt64)) :
    Faults (validateProcessStatus previous status slotCounts) := by
  unfold validateProcessStatus
  refine .refusing rfl fun _ => ?_
  exact faults_validatePlayheadBounds status slotCounts

theorem faults_validateExactMutationStatus (expected status : DeckStatusSnapshot)
    (slotCounts : List (UInt8 × UInt64)) :
    Faults (validateExactMutationStatus expected status slotCounts) := by
  unfold validateExactMutationStatus
  refine .refusing rfl fun _ => ?_
  exact faults_validatePlayheadBounds status slotCounts

/-- A status after a change of the transport is accepted, or the session faults. -/
theorem faults_validateTransportMutationStatus
    (expected : List Control.SourceTransportBinding) (slotCounts : List (UInt8 × UInt64)) :
    Faults (validateTransportMutationStatus previous status expected slotCounts) := by
  unfold validateTransportMutationStatus
  have each : ∀ transport,
      Faults (validateTransportMutation previous status slotCounts transport) := by
    intro transport
    unfold validateTransportMutation
    refine .finding rfl fun before => ?_
    refine .finding rfl fun after => ?_
    refine .finding rfl fun slotCount => ?_
    exact raises_refuseWhen rfl
  refine .refusing rfl fun _ => ?_
  apply Raises.bind
  · exact raises_checkEach each expected
  intro _
  exact faults_validatePlayheadBounds status slotCounts

/-- A status after a reset is accepted, or the session faults. -/
theorem faults_validateResetStatus (generation : UInt64)
    (preservePlayheads : Bool) (slotCounts : List (UInt8 × UInt64)) :
    Faults (validateResetStatus previous status generation preservePlayheads slotCounts) := by
  unfold validateResetStatus
  have expected : Faults (resetCaptureState previous.captureState) := by
    cases previous.captureState with
    | starting => exact raises_error rfl
    | idle | capturing | finalizing | completed | aborted | faulted => exact raises_ok _
  apply expected.bind
  intro captureState
  refine .refusing rfl fun _ => ?_
  exact faults_validatePlayheadBounds status slotCounts

theorem faults_loopedPhysicalSlots (slotCounts : List (UInt8 × UInt64)) :
    Faults (loopedPhysicalSlots previous status slotCounts) := by
  unfold loopedPhysicalSlots
  have each : ∀ transport, Faults (loopedSlot previous status slotCounts transport) := by
    intro transport
    unfold loopedSlot
    apply Raises.ite
    · exact raises_ok _
    refine .finding rfl fun before => ?_
    refine .finding rfl fun after => ?_
    refine .finding rfl fun count => ?_
    refine .refusing rfl fun _ => ?_
    exact raises_ok _
  apply Raises.bind
  · exact raises_mapM _ fun transport _ => each transport
  intro looped
  exact raises_ok _

theorem faults_causalLoopResetRequest (status : DeckStatusSnapshot) :
    Faults (causalLoopResetRequest status) := by
  unfold causalLoopResetRequest
  refine .finding rfl fun generation => ?_
  exact raises_ok _

theorem faults_validateCaptureArtifactBounds (artifact : Control.CaptureArtifact) :
    Faults (validateCaptureArtifactBounds artifact) := by
  unfold validateCaptureArtifactBounds
  refine .refusing rfl fun _ => ?_
  exact raises_refuseWhen rfl

theorem faults_splitBatch (batch : RgbaBatch) : Faults (splitBatch batch) := by
  unfold splitBatch
  refine .refusing rfl fun _ => ?_
  exact raises_ok _

theorem faults_padTightRgba (bytes : List UInt8) (width height : UInt32) (rowStride : Nat) :
    Faults (padTightRgba bytes width height rowStride) := by
  unfold padTightRgba
  refine .refusing rfl fun _ => ?_
  exact raises_ok _

theorem faults_readBatch (outside : Outside) : Faults (readBatch outside) := by
  unfold readBatch
  cases outside.tryRead with
  | none => exact raises_error rfl
  | some read =>
    cases read with
    | batch batch => exact raises_ok _
    | empty => exact raises_error rfl

theorem faults_advancePast (clock : FrameClock) (now : Nat) : Faults (clock.advancePast now) := by
  unfold FrameClock.advancePast
  refine .finding rfl fun periodScale => ?_
  refine .finding rfl fun scaled => ?_
  refine .finding rfl fun raised => ?_
  refine .finding rfl fun firstFutureTick => ?_
  refine .finding rfl fun followingTick => ?_
  exact raises_ok _

/-- The deadline of a valid clock is computed, or the session faults. -/
theorem faults_nextDeadline {clock : FrameClock} (valid : clock.Valid) (latest : Nat) :
    Faults (clock.nextDeadline latest) := by
  have rated : 0 < clock.denominator := by
    have positive := valid.positive
    unfold FrameClock.period at positive
    exact Nat.pos_of_mul_pos_right positive
  have ticking := valid.ticking
  have started := valid.started
  have offset : Faults (frameOffsetNs clock.numerator clock.denominator clock.nextTick) := by
    unfold frameOffsetNs
    have runs : ¬ (clock.numerator = 0 ∨ clock.denominator = 0 ∨ clock.nextTick = 0) := by omega
    rw [refuseWhen, if_neg runs]
    apply Raises.bind
    · exact raises_ok _
    intro _
    refine .finding rfl fun value => ?_
    exact raises_orError rfl
  unfold FrameClock.nextDeadline
  apply offset.bind
  intro value
  exact raises_orError rfl

/-- The codes of the errors that tell that a capture is lost. -/
def lostCaptureCodes : List String :=
  ["capture.import_failed", "capture.invalid_state", "capture.limit_exceeded",
    "capture.worker_rejected"]

/-- An error that tells that a capture is lost, and that is not fatal. -/
def GenericDeckRuntimeError.LosesCapture (error : GenericDeckRuntimeError) : Prop :=
  error.fatal = false ∧ error.code ∈ lostCaptureCodes

/-- What holds of an actor between its turns: its clock is valid, and a capture that holds the slot
is shown as one that runs. -/
structure RuntimeActor.Told (actor : RuntimeActor) : Prop where
  clock : actor.frameClock.Valid
  slot : ∀ capture, actor.activeCapture = some capture →
    actor.captureStatus.state = "capturing" ∨ actor.captureStatus.state = "finalizing"

variable {before : RuntimeActor}

theorem RuntimeActor.Told.of_same {after : RuntimeActor} (told : before.Told)
    (clock : after.frameClock = before.frameClock)
    (slot : after.activeCapture = before.activeCapture)
    (shown : after.captureStatus = before.captureStatus) : after.Told := by
  constructor
  · rw [clock]
    exact told.clock
  · rw [slot, shown]
    exact told.slot

theorem RuntimeActor.Told.of_none {after : RuntimeActor} (told : before.Told)
    (clock : after.frameClock = before.frameClock) (empty : after.activeCapture = none) :
    after.Told := by
  constructor
  · rw [clock]
    exact told.clock
  · intro capture active
    rw [empty] at active
    exact nomatch active

theorem FrameClock.Valid.restart {clock : FrameClock} (valid : clock.Valid) (now : Nat) :
    (clock.restart now).Valid :=
  ⟨valid.ticking, valid.numeratorFits, valid.denominatorFits, valid.apart, Nat.one_pos,
    Nat.one_lt_two_pow (by omega)⟩

theorem RuntimeActor.Told.restarted {actor : RuntimeActor} (told : actor.Told) (now : Nat) :
    (actor.restarted now).Told := ⟨told.clock.restart now, told.slot⟩

theorem RuntimeActor.abandoned_frees (actor : RuntimeActor) (state : CaptureState)
    (text detail : String) :
    (actor.abandoned state text detail).activeCapture = none ∧
      (actor.abandoned state text detail).frameClock = actor.frameClock := by
  unfold RuntimeActor.abandoned
  split
  case h_1 empty => exact ⟨empty, rfl⟩
  case h_2 => exact ⟨rfl, rfl⟩

/-- An error that may be raised and does not tell of a lost capture. -/
def Harmless (allowed : GenericDeckRuntimeError → Prop) (error : GenericDeckRuntimeError) : Prop :=
  allowed error ∧ ¬ error.LosesCapture

/-- Between turns an action keeps what is told; it raises allowed errors only, and behind one that
tells of a lost capture the slot is empty. -/
def Recovers {α : Type} (allowed : GenericDeckRuntimeError → Prop) (action : Act α) : Prop :=
  ∀ start : RuntimeActor, start.Told →
    Leads action start (fun _ actor => actor.Told) fun error actor =>
      actor.Told ∧ allowed error ∧ (error.LosesCapture → actor.activeCapture = none)

section Rules

variable {α β : Type} {allowed : GenericDeckRuntimeError → Prop} {error : GenericDeckRuntimeError}

theorem harmless_of_fatal (permits : ∀ error, error.fatal = true → allowed error)
    (fatal : error.fatal = true) : Harmless allowed error := by
  constructor
  · exact permits error fatal
  · intro lost
    have never := lost.1
    rw [fatal] at never
    exact Bool.noConfusion never

theorem Faults.harmless (permits : ∀ error, error.fatal = true → allowed error)
    {result : Except GenericDeckRuntimeError α} (faults : Faults result) :
    Raises (Harmless allowed) result :=
  .mono faults fun _ fatal => harmless_of_fatal permits fatal

theorem recovers_pure (value : α) : Recovers allowed (pure value) := fun _ told => told

theorem recovers_throw (harmless : Harmless allowed error) :
    Recovers allowed (throw error : Act α) :=
  fun _ told => ⟨told, harmless.1, fun lost => absurd lost harmless.2⟩

theorem Recovers.bind {action : Act β} {next : β → Act α} (first : Recovers allowed action)
    (rest : ∀ value, Recovers allowed (next value)) : Recovers allowed (action >>= next) := by
  intro start told
  rw [leads_bind]
  apply (first start told).mono
  · intro value state kept
    exact rest value state kept
  · intro error state failed
    exact failed

theorem Recovers.map {action : Act β} (change : β → α) (recovers : Recovers allowed action) :
    Recovers allowed (change <$> action) := by
  intro start told
  rw [leads_map]
  exact recovers start told

theorem Recovers.reading {look : RuntimeActor → β} {next : β → Act α}
    (rest : ∀ value, Recovers allowed (next value)) :
    Recovers allowed (Effect.reading (fun actor => .ok (look actor)) >>= next) := by
  intro start told
  rw [leads_bind, leads_reading]
  constructor
  · intro value _
    exact rest value start told
  · intro error never
    exact nomatch never

theorem Recovers.current {next : RuntimeActor → Act α}
    (rest : ∀ actor, Recovers allowed (next actor)) :
    Recovers allowed (Host.current >>= next) := .reading rest

theorem Recovers.check {result : Except GenericDeckRuntimeError β} {next : β → Act α}
    (raises : Raises (Harmless allowed) result)
    (rest : ∀ value, result = .ok value → Recovers allowed (next value)) :
    Recovers allowed (Host.check result >>= next) := by
  intro start told
  rw [leads_bind, Host.check, leads_reading]
  constructor
  · intro value passed
    exact rest value passed start told
  · intro error failed
    have harmless := raises error failed
    exact ⟨told, harmless.1, fun lost => absurd lost harmless.2⟩

variable {condition : Prop}

theorem Recovers.demand [Decidable condition] {next : Unit → Act α}
    (harmless : Harmless allowed error) (rest : condition → Recovers allowed (next ())) :
    Recovers allowed (Effect.demand condition error >>= next) := by
  intro start told
  rw [leads_bind, leads_demand]
  constructor
  · intro met
    exact rest met start told
  · intro _
    exact ⟨told, harmless.1, fun lost => absurd lost harmless.2⟩

theorem Recovers.modify {change : RuntimeActor → RuntimeActor} {next : PUnit → Act α}
    (kept : ∀ actor : RuntimeActor, actor.Told → (change actor).Told)
    (rest : Recovers allowed (next ⟨⟩)) : Recovers allowed (modify change >>= next) := by
  intro start told
  rw [leads_bind, leads_modify]
  exact rest (change start) (kept start told)

theorem Recovers.whenever [Decidable condition] {action : Act Unit} {next : Unit → Act α}
    (body : Recovers allowed action) (rest : Recovers allowed (next ())) :
    Recovers allowed (Effect.whenever condition action >>= next) := by
  apply Recovers.bind
  · by_cases met : condition
    · rw [Effect.whenever, if_pos met]
      exact body
    · rw [Effect.whenever, if_neg met]
      exact recovers_pure ()
  · intro _
    exact rest

theorem Recovers.ite [Decidable condition] {action other : Act α} (first : Recovers allowed action)
    (second : Recovers allowed other) : Recovers allowed (if condition then action else other) := by
  by_cases met : condition
  · rw [if_pos met]
    exact first
  · rw [if_neg met]
    exact second

theorem Recovers.last {action : Act α} (recovers : Recovers allowed (action >>= pure)) :
    Recovers allowed action := by
  rwa [bind_pure] at recovers

theorem Recovers.call {outside : Outside} {command : Command}
    {mapError : WorkerClientV2Error → GenericDeckRuntimeError} {next : Ack → Act α}
    (answers : ∀ error, outside.call command = .error error → Harmless allowed (mapError error))
    (rest : ∀ ack, Recovers allowed (next ack)) :
    Recovers allowed (Host.call outside command mapError >>= next) := by
  apply Recovers.bind
  · unfold Host.call
    apply Recovers.modify
    · intro actor told
      exact told.of_same rfl rfl rfl
    · apply Recovers.last
      apply Recovers.check
      · exact raises_mapError answers
      · intro value _
        exact recovers_pure value
  · exact rest

theorem Recovers.publishStatus {next : PUnit → Act α} (rest : Recovers allowed (next ⟨⟩)) :
    Recovers allowed (Host.publishStatus >>= next) :=
  .modify (fun _ told => told.of_same rfl rfl rfl) rest

end Rules

/-- A finalization whose errors are outside the import. -/
def Bounded {α : Type} (result : Except CaptureFinalizerError α) : Prop :=
  Raises (fun error => error.isWorkerTrustBoundary = true) result

/-- Control values are written, or refused before anything is imported. -/
theorem bounded_captureControls (context : CaptureFinalizationContext)
    (mode : Control.CaptureMode) (resetEvents : UInt32) :
    Bounded (captureControls context mode resetEvents) := by
  have value : ∀ control, Bounded (jsonControl control) := by
    intro control
    cases control with
    | boolean value => exact raises_ok _
    | integer value => exact raises_ok _
    | text value => exact raises_ok _
    | number value =>
      apply Raises.ite
      · exact raises_ok _
      · exact raises_error rfl
  have inserted : ∀ bindings controls, Bounded (insertControls bindings controls) := by
    intro bindings
    induction bindings with
    | nil => exact fun controls => raises_ok _
    | cons binding bindings ih =>
      intro controls
      apply Raises.bind
      · exact value binding.value
      intro written
      refine .refusing rfl fun _ => ?_
      exact ih _
  unfold captureControls
  apply Raises.bind
  · exact inserted _ _
  intro controls
  refine .refusing rfl fun _ => ?_
  exact raises_ok _

variable (decoder : Archive.ManifestDecoder)

theorem bounded_checkSources (sources : List CaptureSourceEvidence) :
    ∀ slots, Bounded (checkSources decoder slots sources) := by
  induction sources with
  | nil => exact fun slots => raises_ok _
  | cons source sources ih =>
    intro slots
    refine .refusing rfl fun _ => ?_
    exact ih _

/-- The carrier is found before anything is imported. -/
theorem bounded_carrierOf (context : CaptureFinalizationContext) (structuralCarrierRole : String) :
    Bounded (carrierOf context structuralCarrierRole) := by
  unfold carrierOf
  refine .refusing rfl fun _ => ?_
  refine .finding rfl fun carrierRole => ?_
  refine .finding rfl fun carrier => ?_
  refine .refusing rfl fun _ => ?_
  exact raises_ok _

/-- The parts of a manifest are computed before anything is imported. -/
theorem bounded_captureParts
    (context : CaptureFinalizationContext) (artifact : CaptureArtifactEvidence)
    (mode : Control.CaptureMode) (resetEvents : UInt32) (structuralCarrierRole : String) :
    Bounded (captureParts decoder context artifact mode resetEvents structuralCarrierRole) := by
  have payload : ∀ manifest, Bounded (carrierPayload manifest) := by
    intro manifest
    unfold carrierPayload
    split
    case h_1 => exact raises_ok _
    case h_2 => exact raises_error rfl
  unfold captureParts
  refine .refusing rfl fun _ => ?_
  apply Raises.bind
  · exact bounded_checkSources decoder _ _
  intro _
  apply Raises.bind
  · exact bounded_carrierOf context structuralCarrierRole
  intro carrier
  apply Raises.bind
  · exact payload _
  intro descriptor
  apply Raises.bind
  · unfold capturedVisual
    refine .finding rfl fun visual => ?_
    refine .refusing rfl fun _ => ?_
    exact raises_ok _
  intro visual
  apply Raises.bind
  · unfold capturedDuration
    refine .finding rfl fun numerator => ?_
    exact raises_orError rfl
  intro duration
  apply Raises.bind
  · exact bounded_captureControls context mode resetEvents
  intro controls
  exact raises_ok _

/-- A manifest is written before anything is imported. -/
theorem bounded_buildManifestRequest
    (context : CaptureFinalizationContext) (artifact : CaptureArtifactEvidence)
    (mode : Control.CaptureMode) (resetEvents : UInt32) (cartridgeId : Control.Uuid)
    (payload : BoundCapturePayload) (structuralCarrierRole : String) :
    Bounded (buildManifestRequest decoder context artifact mode resetEvents cartridgeId payload
      structuralCarrierRole) := by
  unfold buildManifestRequest
  apply Raises.bind
  · exact bounded_captureParts decoder context artifact mode resetEvents structuralCarrierRole
  intro parts
  apply Raises.bind
  · exact raises_mapError fun _ _ => rfl
  intro _
  exact raises_ok _

/-- The library takes every archive that it is given. -/
def FinalizerAnswers.Imports (answers : FinalizerAnswers) : Prop :=
  ∀ request bound archive, answers.pack request bound = some archive →
    answers.importGenerated = some archive

/-- Where the library takes what it is given, a finalization fails before the import. -/
theorem bounded_finalizeCaptureWithCarrier
    {answers : FinalizerAnswers} (imports : answers.Imports) (captureId : Control.Uuid)
    (artifact : CaptureArtifactEvidence) (mode : Control.CaptureMode) (resetEvents : UInt32)
    (context : CaptureFinalizationContext) (structuralCarrierRole : String)
    (maximumLatentSlots maximumVisualBytes maximumDecodedFramesPerSlot : UInt64) :
    Bounded (finalizeCaptureWithCarrier decoder answers captureId artifact mode resetEvents context
      structuralCarrierRole maximumLatentSlots maximumVisualBytes maximumDecodedFramesPerSlot) := by
  unfold finalizeCaptureWithCarrier
  apply Raises.bind
  · unfold checkArtifact
    refine .finding rfl fun maximumDecodedFrames => ?_
    exact raises_refuseWhen rfl
  intro _
  apply Raises.bind
  · apply raises_mapError
    intro error _
    cases error <;> rfl
  intro bound
  apply Raises.bind
  · exact bounded_buildManifestRequest decoder context artifact mode resetEvents _ bound
      structuralCarrierRole
  intro request
  cases packed : answers.pack request bound with
  | none => exact raises_error rfl
  | some archive =>
    have taken := imports request bound archive packed
    rw [taken]
    have same : ¬ (archive ≠ archive) := fun differ => differ rfl
    show Bounded (refuseWhen (archive ≠ archive) CaptureFinalizerError.importError >>= _)
    rw [refuseWhen, if_neg same]
    exact raises_ok _

/-- The commands that ask about the capture that runs. -/
def asksCapture : Command → Bool
  | .captureStop _ | .captureStatus _ => true
  | _ => false

/-- The codes of rejections behind which a capture goes on. -/
def keepsCapture : ErrorCode → Bool
  | .captureNotReady | .sessionOutputLeasePinned | .sessionOutputLeaseBusy => true
  | _ => false

/-- The codes of rejections by a worker that has lost its capture. -/
def tellsLoss : ErrorCode → Bool
  | .captureInvalidState | .captureLimitExceeded => true
  | _ => false

def startsCapture : Command → Bool
  | .captureStart _ => true
  | _ => false

/-- What a turn is answered when nothing recoverable goes wrong behind the commands: in a quiet turn
no error that is not fatal, and the library takes what was captured; in every turn the status tells
the failure of a capture, questions about it are answered, and no command but a start is rejected
because of it. -/
structure Outside.Forbears (outside : Outside) (quiet : Bool) : Prop where
  replies : quiet = true → ∀ command error, outside.call command = .error (.remote error) →
    error.fatal = true
  imports : quiet = true → outside.finalizer.Imports
  asked : ∀ command error, asksCapture command = true →
    outside.call command = .error (.remote error) →
      error.fatal = true ∨ keepsCapture error.code = true
  kept : ∀ command error, startsCapture command = false →
    outside.call command = .error (.remote error) →
      error.fatal = true ∨ tellsLoss error.code = false

/-- The errors that a turn may raise: a quiet one raises fatal errors only. -/
def Ends (quiet : Bool) (error : GenericDeckRuntimeError) : Prop :=
  quiet = true → error.fatal = true

theorem ends_of_fatal (quiet : Bool) : ∀ error, error.fatal = true → Ends quiet error :=
  fun _ fatal _ => fatal

theorem not_losesCapture_mapClientError (error : WorkerClientV2Error) :
    ¬ (mapClientError error).LosesCapture := by
  intro lost
  cases error with
  | remote error =>
    have named : "deck.worker_rejected" ∈ lostCaptureCodes := lost.2
    revert named
    decide
  | supervisor | commandTimeout | heartbeatTimeout | unexpectedReply | unexpectedAck =>
    exact Bool.noConfusion lost.1

theorem not_lost_of_keepsCapture {code : ErrorCode} (keeps : keepsCapture code = true) :
    captureRejectionCode code ∉ lostCaptureCodes := by
  cases code <;> first | exact Bool.noConfusion keeps | decide

section Answers

variable {outside : Outside} {quiet : Bool}

theorem Outside.Forbears.client (forbears : outside.Forbears quiet) {command : Command} :
    ∀ error, outside.call command = .error error →
      Harmless (Ends quiet) (mapClientError error) := by
  intro error answered
  constructor
  · intro silent
    cases error with
    | remote error => exact forbears.replies silent command error answered
    | supervisor | commandTimeout | heartbeatTimeout | unexpectedReply | unexpectedAck => rfl
  · exact not_losesCapture_mapClientError error

/-- A question about the capture is answered without harm. -/
theorem Outside.Forbears.capture (forbears : outside.Forbears quiet) {command : Command}
    (asks : asksCapture command = true) :
    ∀ error, outside.call command = .error error →
      Harmless (Ends quiet) (mapCaptureClientError error) := by
  intro error answered
  cases error with
  | supervisor | commandTimeout | heartbeatTimeout | unexpectedReply | unexpectedAck =>
    exact harmless_of_fatal (ends_of_fatal quiet) rfl
  | remote error =>
    constructor
    · intro silent
      exact forbears.replies silent command error answered
    · intro lost
      cases forbears.asked command error asks answered with
      | inl fatal =>
        have never : error.fatal = false := lost.1
        rw [fatal] at never
        exact Bool.noConfusion never
      | inr keeps => exact not_lost_of_keepsCapture keeps lost.2

end Answers

section Actions

variable {outside : Outside} {quiet : Bool} {α : Type}

theorem Recovers.fault {β : Type} {result : Except GenericDeckRuntimeError β} {next : β → Act α}
    (faults : Faults result)
    (rest : ∀ value, result = .ok value → Recovers (Ends quiet) (next value)) :
    Recovers (Ends quiet) (Host.check result >>= next) :=
  .check (faults.harmless (ends_of_fatal quiet)) rest

variable {error : GenericDeckRuntimeError}

theorem Recovers.expect {β : Type} {found : Option β} {next : β → Act α}
    (fatal : error.fatal = true) (rest : ∀ value, Recovers (Ends quiet) (next value)) :
    Recovers (Ends quiet) (Host.check (orError found error) >>= next) :=
  .fault (raises_orError fatal) fun value _ => rest value

theorem Recovers.insist {condition : Prop} [Decidable condition] {next : Unit → Act α}
    (fatal : error.fatal = true) (rest : Recovers (Ends quiet) (next ())) :
    Recovers (Ends quiet) (Effect.demand condition error >>= next) :=
  .demand (harmless_of_fatal (ends_of_fatal quiet) fatal) fun _ => rest

theorem recovers_fault (fatal : error.fatal = true) : Recovers (Ends quiet) (throw error : Act α) :=
  recovers_throw (harmless_of_fatal (ends_of_fatal quiet) fatal)

theorem recovers_presentOnce : Recovers (Ends quiet) (presentOnce outside) := by
  unfold presentOnce
  apply Recovers.current
  intro actor
  apply Recovers.expect rfl
  intro frame
  apply Recovers.modify
  · intro actor told
    exact told.of_same rfl rfl rfl
  apply Recovers.expect rfl
  intro rowStride
  apply Recovers.fault
  · exact faults_padTightRgba _ _ _ _
  intro padded _
  apply Recovers.last
  apply Recovers.insist rfl
  exact recovers_pure ()

theorem recovers_tellCapture {view : GenericCaptureView}
    (runs : view.state = "capturing" ∨ view.state = "finalizing") :
    Recovers (Ends quiet) (tellCapture view) := by
  unfold tellCapture publishCapture
  apply Recovers.modify
  · intro actor told
    exact ⟨told.clock, fun _ _ => runs⟩
  apply Recovers.publishStatus
  exact recovers_pure view

theorem recovers_freed (view : GenericCaptureView) :
    Recovers (Ends quiet) (do
      modify fun actor => { actor with activeCapture := none }
      tellCapture view) := by
  intro start told
  rw [leads_bind, leads_modify]
  unfold tellCapture publishCapture publishStatus
  rw [leads_bind, leads_modify, leads_bind, leads_modify, leads_pure]
  exact told.of_none rfl rfl

/-- The end of a finalization, behind a slot that is empty. -/
theorem leads_settleFinalized {status : CaptureStatusSnapshot}
    {result : Except CaptureFinalizerError FinalizedCapture}
    (bounded : quiet = true → Bounded result) {start : RuntimeActor} (told : start.Told)
    (empty : start.activeCapture = none) :
    Leads (settleFinalized status result) start (fun _ actor => actor.Told) fun error actor =>
      actor.Told ∧ Ends quiet error ∧ (error.LosesCapture → actor.activeCapture = none) := by
  cases result with
  | ok finalized =>
    unfold settleFinalized publishCapture publishStatus
    rw [leads_bind, leads_modify, leads_bind, leads_modify, leads_pure]
    exact told.of_none rfl empty
  | error error =>
    unfold settleFinalized publishCapture
    rw [leads_bind, leads_modify, leads_throw]
    have ends : Ends quiet (mapCaptureFinalizerError error) := by
      intro silent
      exact bounded silent error rfl
    exact ⟨told.of_none rfl empty, ends, fun _ => empty⟩

theorem recovers_finalizeCompletedCapture (forbears : outside.Forbears quiet)
    (status : CaptureStatusSnapshot) :
    Recovers (Ends quiet) (finalizeCompletedCapture outside status) := by
  unfold finalizeCompletedCapture
  apply Recovers.expect rfl
  intro artifact
  apply Recovers.fault
  · exact faults_validateCaptureArtifactBounds artifact
  intro _ _
  apply Recovers.insist rfl
  apply Recovers.current
  intro actor
  apply Recovers.expect rfl
  intro active start told
  -- From here on the slot is empty, however the finalization ends.
  have fatal := ends_of_fatal quiet GenericDeckRuntimeError.protocol rfl
  rw [leads_bind, leads_modify, leads_bind, leads_demand]
  constructor
  · intro bound
    unfold publishCapture
    rw [leads_bind, leads_modify]
    apply leads_settleFinalized
    · intro silent
      exact bounded_finalizeCaptureWithCarrier _ (forbears.imports silent) _ _ _ _ _ _ _ _ _
    · exact told.of_none rfl rfl
    · rfl
  · intro unbound
    exact ⟨told.of_none rfl rfl, fatal, fun _ => rfl⟩

theorem recovers_settleCaptureState (forbears : outside.Forbears quiet)
    (status : CaptureStatusSnapshot) :
    Recovers (Ends quiet) (settleCaptureState outside status) := by
  unfold settleCaptureState
  cases found : status.state with
  | completed => exact recovers_finalizeCompletedCapture forbears status
  | aborted => exact recovers_freed _
  | faulted => exact recovers_freed _
  | capturing =>
    apply recovers_tellCapture
    left
    simp only [captureView, found]
    rfl
  | finalizing =>
    apply recovers_tellCapture
    right
    simp only [captureView, found]
    rfl
  | idle | starting => exact recovers_fault rfl

theorem Recovers.failActiveCapture {detail : String} {next : PUnit → Act α}
    (rest : Recovers (Ends quiet) (next ⟨⟩)) :
    Recovers (Ends quiet) (Host.failActiveCapture detail >>= next) := by
  apply Recovers.modify
  · intro actor told
    have frees := actor.abandoned_frees .faulted "error" detail
    exact told.of_none frees.2 frees.1
  · exact rest

theorem recovers_applyCaptureStatus (forbears : outside.Forbears quiet)
    (status : CaptureStatusSnapshot) :
    Recovers (Ends quiet) (applyCaptureStatus outside status) := by
  unfold applyCaptureStatus
  apply Recovers.current
  intro actor
  apply Recovers.expect rfl
  intro active
  apply Recovers.whenever
  · apply Recovers.failActiveCapture
    exact recovers_fault rfl
  apply Recovers.modify
  · intro actor told
    constructor
    · exact told.clock
    · intro capture held
      have there : ∃ found, actor.activeCapture = some found := by
        cases found : actor.activeCapture with
        | none =>
          rw [found] at held
          exact nomatch held
        | some active => exact ⟨active, rfl⟩
      obtain ⟨found, there⟩ := there
      exact told.slot found there
  apply Recovers.modify
  · intro actor told
    exact told.of_same rfl rfl rfl
  exact recovers_settleCaptureState forbears status

theorem Recovers.expectCapture {detail : String} {found : Option CaptureStatusSnapshot}
    {next : CaptureStatusSnapshot → Act α} (rest : ∀ status, Recovers (Ends quiet) (next status)) :
    Recovers (Ends quiet) (Host.expectCapture detail found >>= next) := by
  apply Recovers.bind
  · cases found with
    | some status => exact recovers_pure status
    | none =>
      apply Recovers.failActiveCapture
      exact recovers_fault rfl
  · exact rest

section

variable (forbears : outside.Forbears quiet)

include forbears

theorem recovers_refreshCaptureStatus : Recovers (Ends quiet) (refreshCaptureStatus outside) := by
  unfold refreshCaptureStatus
  apply Recovers.current
  intro actor
  apply Recovers.expect rfl
  intro active
  apply Recovers.call
  · exact forbears.capture rfl
  intro ack
  apply Recovers.expectCapture
  intro status
  apply Recovers.fault
  · exact raises_refuseWhen rfl
  intro _ _
  exact recovers_applyCaptureStatus forbears status

theorem recovers_causalLoopReset : Recovers (Ends quiet) (causalLoopReset outside) := by
  unfold causalLoopReset
  apply Recovers.reading
  intro before
  apply Recovers.fault
  · exact faults_causalLoopResetRequest before
  intro request _
  apply Recovers.call
  · exact forbears.client
  intro ack
  apply Recovers.expect rfl
  intro status
  apply Recovers.reading
  intro slotCounts
  apply Recovers.fault
  · exact faults_validateResetStatus before status request.1 true slotCounts
  intro _ _
  apply Recovers.insist rfl
  apply Recovers.last
  apply Recovers.modify
  · intro actor told
    exact (told.restarted outside.now).of_same rfl rfl rfl
  exact recovers_pure _

theorem recovers_processOnce : Recovers (Ends quiet) (processOnce outside) := by
  unfold processOnce
  apply Recovers.current
  intro actor
  apply Recovers.call
  · exact forbears.client
  intro ack
  apply Recovers.expect rfl
  intro answer
  apply Recovers.fault
  · exact faults_validateProcessStatus _ answer.status _
  intro _ _
  apply Recovers.insist rfl
  apply Recovers.fault
  · exact faults_readBatch outside
  intro batch _
  apply Recovers.fault
  · exact raises_refuseWhen rfl
  intro _ _
  apply Recovers.fault
  · exact faults_splitBatch batch
  intro frames _
  apply Recovers.modify
  · intro actor told
    exact told.of_same rfl rfl rfl
  apply Recovers.fault
  · exact faults_loopedPhysicalSlots _ answer.status _
  intro looped _
  apply Recovers.modify
  · intro actor told
    exact told.of_same rfl rfl rfl
  apply Recovers.whenever
  · apply Recovers.bind
    · exact recovers_refreshCaptureStatus forbears
    · exact fun _ => recovers_pure ()
  apply Recovers.whenever
  · exact recovers_causalLoopReset forbears
  apply Recovers.last
  apply Recovers.publishStatus
  exact recovers_pure _

theorem recovers_tick : Recovers (Ends quiet) (tick outside) := by
  unfold tick
  apply Recovers.current
  intro actor
  apply Recovers.whenever
  · exact recovers_processOnce forbears
  · exact recovers_presentOnce

end

theorem recovers_frameDue : Recovers (Ends quiet) (frameDue outside) := by
  intro start told
  unfold frameDue
  rw [leads_bind, current, leads_reading]
  constructor
  · intro actor same
    cases same
    rw [leads_bind, check, leads_reading]
    constructor
    · intro clock advanced
      rw [leads_bind, leads_modify]
      have kept : ({ start with frameClock := clock } : RuntimeActor).Told :=
        ⟨valid_of_advancePast told.clock advanced, told.slot⟩
      exact recovers_presentOnce _ kept
    · intro error failed
      have fatal := faults_advancePast _ _ error failed
      have harmless := harmless_of_fatal (ends_of_fatal quiet) fatal
      exact ⟨told, harmless.1, fun lost => absurd lost harmless.2⟩
  · intro error never
    exact nomatch never

end Actions

section Commands

variable {outside : Outside}

theorem harmless_of_code {error : GenericDeckRuntimeError}
    (other : error.code ∉ lostCaptureCodes) : Harmless (Ends false) error :=
  ⟨fun silent => Bool.noConfusion silent, fun lost => other lost.2⟩

theorem harmless_input : Harmless (Ends false) .input := harmless_of_code (by decide)

theorem raises_prevalidateDynamicState (fresh : Control.Uuid) (actor : RuntimeActor)
    (roles : List Control.RoleBinding) (controls : List Control.ControlBinding) :
    Raises (Harmless (Ends false)) (prevalidateDynamicState fresh actor roles controls) := by
  unfold prevalidateDynamicState
  refine .refusing harmless_input fun _ => ?_
  apply Raises.bind
  · apply raises_mapM
    intro entry _
    unfold sourceOf
    refine .refusing harmless_input fun _ => ?_
    refine .finding harmless_input fun cartridgeId => ?_
    exact raises_ok _
  intro sources
  apply Raises.bind
  · exact raises_mapError fun _ _ => harmless_input
  intro _
  exact raises_ok _

section

variable (forbears : outside.Forbears false)

include forbears

theorem recovers_mutate (command : Command) (changed : Ack → Option DeckStatusSnapshot)
    {validate : DeckStatusSnapshot → Except GenericDeckRuntimeError Unit}
    (faults : ∀ status, Faults (validate status)) :
    Recovers (Ends false) (mutate outside command changed validate) := by
  unfold mutate
  apply Recovers.call
  · exact forbears.client
  intro ack
  apply Recovers.expect rfl
  intro status
  apply Recovers.fault
  · exact faults status
  intro _ _
  apply Recovers.modify
  · intro actor told
    exact told.of_same rfl rfl rfl
  apply Recovers.publishStatus
  apply Recovers.last
  apply Recovers.reading
  intro told
  exact recovers_pure told

theorem recovers_controlsSet (controls : List Control.ControlBinding) :
    Recovers (Ends false) (controlsSet outside controls) := by
  unfold controlsSet
  apply Recovers.current
  intro actor
  apply Recovers.check
  · exact raises_prevalidateDynamicState _ actor _ controls
  intro _ _
  apply Recovers.check
  · exact raises_orError harmless_input
  intro bound _
  apply recovers_mutate forbears
  intro status
  exact faults_validateExactMutationStatus _ status _

theorem recovers_rolesSet (roles : List Control.RoleBinding) :
    Recovers (Ends false) (rolesSet outside roles) := by
  unfold rolesSet
  apply Recovers.current
  intro actor
  apply Recovers.check
  · exact raises_prevalidateDynamicState _ actor roles _
  intro _ _
  apply Recovers.check
  · exact raises_orError harmless_input
  intro bound _
  apply recovers_mutate forbears
  intro status
  exact faults_validateExactMutationStatus _ status _

theorem recovers_transportSet (sources : List Control.SourceTransportBinding) :
    Recovers (Ends false) (transportSet outside sources) := by
  unfold transportSet
  apply Recovers.current
  intro actor
  apply Recovers.check
  · unfold validateTransport
    refine .refusing harmless_input fun _ => ?_
    exact raises_refuseWhen harmless_input
  intro _ _
  apply Recovers.check
  · exact raises_orError harmless_input
  intro bound _
  apply recovers_mutate forbears
  intro status
  exact faults_validateTransportMutationStatus _ status sources _

theorem recovers_seedSet (seed : UInt64) : Recovers (Ends false) (seedSet outside seed) := by
  unfold seedSet
  apply Recovers.current
  intro actor
  apply Recovers.demand harmless_input
  intro _
  apply recovers_mutate forbears
  intro status
  exact faults_validateExactMutationStatus _ status _

theorem recovers_reset (preservePlayheads : Bool) :
    Recovers (Ends false) (reset outside preservePlayheads) := by
  unfold reset
  apply Recovers.current
  intro actor
  apply Recovers.demand harmless_input
  intro _
  apply Recovers.expect rfl
  intro generation
  apply Recovers.call
  · exact forbears.client
  intro ack
  apply Recovers.expect rfl
  intro status
  apply Recovers.fault
  · exact faults_validateResetStatus _ status generation preservePlayheads _
  intro _ _
  apply Recovers.insist rfl
  apply Recovers.modify
  · intro actor told
    exact (told.restarted outside.now).of_same rfl rfl rfl
  apply Recovers.publishStatus
  apply Recovers.last
  apply Recovers.reading
  intro told
  exact recovers_pure told

end

theorem recovers_setForeground (foreground : Bool) :
    Recovers (Ends false) (setForeground outside foreground) := by
  unfold setForeground
  apply Recovers.current
  intro actor
  apply Recovers.insist rfl
  apply Recovers.insist rfl
  apply Recovers.last
  apply Recovers.modify
  · intro actor told
    exact told.of_same rfl rfl rfl
  exact recovers_pure _

theorem recovers_setViewport (viewport : EmbeddedViewport) :
    Recovers (Ends false) (setViewport outside viewport) := by
  unfold setViewport
  apply Recovers.current
  intro actor
  apply Recovers.ite
  · exact recovers_pure _
  apply Recovers.expect rfl
  intro outcome
  apply Recovers.modify
  · intro actor told
    exact told.of_same rfl rfl rfl
  apply Recovers.bind
  · unfold showOutput
    apply Recovers.insist rfl
    apply Recovers.last
    apply Recovers.modify
    · intro actor told
      exact told.of_same rfl rfl rfl
    exact recovers_pure _
  · intro _
    exact recovers_pure _

theorem recovers_configureSpout (name : Option String) (enabled : Option Bool) :
    Recovers (Ends false) (configureSpout outside name enabled) := by
  unfold configureSpout
  apply Recovers.bind
  · cases name with
    | none => exact recovers_pure ()
    | some name =>
      apply Recovers.last
      apply Recovers.insist rfl
      exact recovers_pure ()
  intro _
  apply Recovers.bind
  · cases enabled with
    | none => exact recovers_pure ()
    | some enabled =>
      show Recovers (Ends false) (configureSpoutEnabled outside enabled)
      unfold configureSpoutEnabled
      apply Recovers.current
      intro actor
      apply Recovers.demand
      · exact harmless_of_code (by decide)
      intro _
      apply Recovers.insist rfl
      apply Recovers.last
      apply Recovers.modify
      · intro actor told
        exact told.of_same rfl rfl rfl
      exact recovers_pure _
  intro _
  exact recovers_pure _

/-- Starting a capture: until it has the slot, the slot is empty. -/
theorem recovers_captureStart (mode : Control.CaptureMode) (output : String) :
    Recovers (Ends false) (captureStart outside mode output) := by
  intro start told
  have raised : ∀ {error : GenericDeckRuntimeError} {actor : RuntimeActor}, actor.Told →
      actor.activeCapture = none → actor.Told ∧ Ends false error ∧
        (error.LosesCapture → actor.activeCapture = none) :=
    fun kept empty => ⟨kept, fun silent => Bool.noConfusion silent, fun _ => empty⟩
  have harmless : ∀ {error : GenericDeckRuntimeError}, error.code ∉ lostCaptureCodes →
      start.Told ∧ Ends false error ∧ (error.LosesCapture → start.activeCapture = none) :=
    fun other => ⟨told, fun silent => Bool.noConfusion silent, fun lost => absurd lost.2 other⟩
  unfold captureStart
  rw [leads_bind, current, leads_reading]
  constructor
  · intro actor same
    cases same
    rw [leads_bind, check, leads_reading]
    constructor
    · intro _ available
      have empty : start.activeCapture = none := by
        rw [validateCaptureStartAvailability, check_eq_ok, refuseWhen_eq_ok,
          Bool.not_eq_true, Option.isSome_eq_false_iff, Option.isNone_iff_eq_none] at available
        exact available.1
      rw [leads_bind, check, leads_reading]
      constructor
      · intro binding _
        rw [leads_bind, check, leads_reading]
        constructor
        · intro stagingRoot _
          unfold call
          rw [leads_bind, leads_bind, leads_modify, check, leads_reading]
          have kept : ∀ sent, ({ start with sent := sent } : RuntimeActor).Told :=
            fun sent => told.of_same rfl rfl rfl
          constructor
          · intro ack _
            rw [leads_bind, check, leads_reading]
            constructor
            · intro status _
              rw [leads_bind, check, leads_reading]
              constructor
              · intro _ valid
                have capturing : status.state = .capturing := by
                  rw [validateCaptureStatus, refuseWhen_eq_ok] at valid
                  simp only [not_or, not_not, List.mem_singleton] at valid
                  exact valid.2.2.2.2.1
                rw [leads_bind, leads_demand]
                constructor
                · intro _
                  unfold tellCapture publishCapture publishStatus
                  rw [leads_bind, leads_modify, leads_bind, leads_modify, leads_bind,
                    leads_modify, leads_bind, leads_modify, leads_pure]
                  constructor
                  · exact told.clock
                  · intro _ _
                    left
                    simp only [captureView, capturing]
                    rfl
                · intro _
                  exact raised (kept _) empty
              · intro error _
                exact raised (kept _) empty
            · intro error _
              exact raised (kept _) empty
          · intro error _
            exact raised (kept _) empty
        · intro error _
          exact raised told empty
      · intro error _
        exact raised told empty
    · intro error refused
      have codes : Raises (fun error => error.code ∉ lostCaptureCodes)
          (validateCaptureStartAvailability start.activeCapture.isSome outside.recordingActive) := by
        unfold validateCaptureStartAvailability
        apply Raises.bind
        · exact raises_refuseWhen (by decide)
        intro _
        exact raises_refuseWhen (by decide)
      exact harmless (codes error refused)
  · intro error never
    exact nomatch never

theorem recovers_captureStop (forbears : outside.Forbears false) :
    Recovers (Ends false) (captureStop outside) := by
  unfold captureStop
  apply Recovers.current
  intro actor
  apply Recovers.check
  · exact raises_orError (harmless_of_code (by decide))
  intro active _
  apply Recovers.demand
  · exact harmless_of_code (by decide)
  intro _
  apply Recovers.call
  · exact forbears.capture rfl
  intro ack
  apply Recovers.expectCapture
  intro status
  apply Recovers.fault
  · exact raises_refuseWhen rfl
  intro _ _
  exact recovers_applyCaptureStatus forbears status

theorem recovers_captureStatus (forbears : outside.Forbears false) :
    Recovers (Ends false) (captureStatus outside) := by
  unfold captureStatus
  apply Recovers.current
  intro actor
  apply Recovers.ite
  · exact recovers_refreshCaptureStatus forbears
  · exact recovers_pure _

theorem recovers_recordingStart (output : String) :
    Recovers (Ends false) (recordingStart outside output) := by
  unfold recordingStart
  apply Recovers.current
  intro actor
  apply Recovers.demand
  · exact harmless_of_code (by decide)
  intro _
  apply Recovers.last
  apply Recovers.check
  · apply raises_mapError
    intro error _
    apply harmless_of_code
    cases error with
    | recorder error => cases error <;> decide
    | active | state => decide
  · intro status _
    exact recovers_pure status

theorem recovers_stop (reason : Control.ShutdownReason) :
    Recovers (Ends false) (stop outside reason) := by
  unfold stop
  apply Recovers.current
  intro actor
  apply Recovers.last
  apply Recovers.whenever
  · apply Recovers.modify
    · intro actor told
      exact told.of_same rfl rfl rfl
    apply Recovers.last
    apply Recovers.check
    · apply raises_mapError
      intro error _
      exact ⟨fun silent => Bool.noConfusion silent, not_losesCapture_mapClientError error⟩
    · intro _ _
      exact recovers_pure ()
  exact recovers_pure ()

theorem recovers_answer (forbears : outside.Forbears false) (command : RuntimeCommand) :
    Recovers (Ends false) (answer outside command) := by
  have told : Recovers (Ends false) (RuntimeReply.view <$> view) := by
    apply Recovers.map
    apply Recovers.last
    apply Recovers.reading
    intro shown
    exact recovers_pure shown
  cases command with
  | processOnce =>
    apply Recovers.bind
    · exact recovers_tick forbears
    · exact fun _ => told
  | controlsSet controls => exact (recovers_controlsSet forbears controls).map _
  | rolesSet roles => exact (recovers_rolesSet forbears roles).map _
  | transportSet sources => exact (recovers_transportSet forbears sources).map _
  | seedSet seed => exact (recovers_seedSet forbears seed).map _
  | reset preservePlayheads => exact (recovers_reset forbears preservePlayheads).map _
  | setForeground foreground =>
    apply Recovers.bind
    · exact recovers_setForeground foreground
    · exact fun _ => told
  | setViewport viewport => exact (recovers_setViewport viewport).map _
  | spoutStatus => exact recovers_pure _
  | replacementOutputState =>
    apply Recovers.last
    apply Recovers.reading
    intro state
    exact recovers_pure state
  | configureSpout name enabled => exact (recovers_configureSpout name enabled).map _
  | restoreReplacementOutput name spoutRequestedEnabled =>
    apply Recovers.map
    apply Recovers.modify
    · intro actor kept
      exact kept.of_same rfl rfl rfl
    exact recovers_pure _
  | captureStart mode output => exact (recovers_captureStart mode output).map _
  | captureStop => exact (recovers_captureStop forbears).map _
  | captureStatus => exact (recovers_captureStatus forbears).map _
  | recordingStart output => exact (recovers_recordingStart output).map _
  | diagnostics =>
    apply Recovers.bind
    · show Recovers (Ends false) (diagnostics outside)
      unfold diagnostics
      apply Recovers.call
      · exact forbears.client
      intro ack
      apply Recovers.last
      apply Recovers.insist rfl
      exact recovers_pure ()
    · exact fun _ => recovers_pure _
  | shutdown recordingPolicy =>
    apply Recovers.bind
    · exact recovers_stop .hostExit
    · exact fun _ => recovers_pure _

end Commands

end LatentDeck.Host
