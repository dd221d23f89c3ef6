import LatentDeck.Host.Recovery

/-!
# How sessions end

Over every run of an actor whose turns are answered without a recoverable failure behind the back of
the commands, the loop ends by a shutdown, a caller or a command channel that is gone, or a fatal
error. A rejection that is not fatal ends the session when it meets the loop's own work.
-/

namespace LatentDeck.Host

open Effect Fallible Run
open Control (DeckStatusSnapshot ErrorPayload)

def Arrival.isQuiet : Arrival → Bool
  | .quiet => true
  | .command _ _ | .disconnected => false

/-- The errors that a turn tells: to the caller of a command, or to `fail`. -/
def Turn.Raised (told : Turn) (error : GenericDeckRuntimeError) : Prop :=
  told.reply = some (.error error) ∨ told.fault = some error

/-- A turn in which a loop may end: a shutdown, a caller or a channel that is gone, or a fatal
error. -/
inductive EndsForCause (arrival : Arrival) (told : Turn) : Prop
  | shutdown (command : RuntimeCommand) (heard : Bool) (served : arrival = .command command heard)
      (asked : command.isShutdown = true)
  | unheard (command : RuntimeCommand) (served : arrival = .command command false)
  | disconnected (gone : arrival = .disconnected)
  | fault (error : GenericDeckRuntimeError) (raised : told.Raised error)
      (fatal : error.fatal = true)

/-- A command that shuts down, or whose caller is gone. -/
def Abandoned (arrival : Arrival) : Prop :=
  ∃ command heard, arrival = .command command heard ∧
    (heard = false ∨ command.isShutdown = true)

/-- What a turn does from a state that is told. -/
structure TurnRecovers (arrival : Arrival) (result : Turn × RuntimeActor) : Prop where
  kept : result.2.Told
  ends : result.1.breaks = true → EndsForCause arrival result.1
  serves : ∀ command heard, arrival = .command command heard →
    result.1.reply.isSome = true ∨ ∃ error, result.1.fault = some error ∧ error.fatal = true
  frees : ∀ error, result.1.Raised error → error.LosesCapture →
    result.2.activeCapture = none ∧ (result.1.breaks = true → Abandoned arrival)

variable {actor : RuntimeActor}

theorem Recovers.ends {α : Type} {allowed : GenericDeckRuntimeError → Prop} {action : Act α}
    (recovers : Recovers allowed action) (told : actor.Told) :
    (ending action actor).2.Told ∧ ∀ error, (ending action actor).1 = .error error →
      allowed error ∧ (error.LosesCapture → (ending action actor).2.activeCapture = none) := by
  have leads := recovers actor told
  unfold Leads at leads
  unfold ending
  cases ran : action actor with
  | ok value after =>
    rw [ran] at leads
    exact ⟨leads, fun error never => nomatch never⟩
  | error error after =>
    rw [ran] at leads
    refine ⟨leads.1, fun other same => ?_⟩
    cases same
    exact leads.2

theorem RuntimeActor.Told.resumed (told : actor.Told) (wasProcessing : Bool) (now : Nat) :
    (actor.restartClockOnResume wasProcessing now).Told := by
  unfold RuntimeActor.restartClockOnResume
  split
  · exact told.restarted now
  · exact told

theorem RuntimeActor.resumed_activeCapture (actor : RuntimeActor) (wasProcessing : Bool)
    (now : Nat) :
    (actor.restartClockOnResume wasProcessing now).activeCapture = actor.activeCapture := by
  unfold RuntimeActor.restartClockOnResume
  split <;> rfl

variable {command : RuntimeCommand}

theorem endsForCause_of_finish {heard : Bool} {result : Except GenericDeckRuntimeError RuntimeReply}
    (quits : (command.isShutdown || finish result heard) = true) :
    EndsForCause (.command command heard) ⟨true, some result, none⟩ := by
  cases asked : command.isShutdown with
  | true => exact .shutdown command heard rfl asked
  | false =>
    rw [asked, Bool.false_or] at quits
    unfold finish at quits
    rw [Bool.or_eq_true] at quits
    cases quits with
    | inl fatal =>
      cases result with
      | ok value => exact Bool.noConfusion fatal
      | error error => exact .fault error (.inl rfl) fatal
    | inr unheard =>
      cases heard with
      | true => exact Bool.noConfusion unheard
      | false => exact .unheard command rfl

variable {error : GenericDeckRuntimeError}

/-- Behind a reply with an error that is not fatal the loop ends when the caller is gone, or when it
was asked to. -/
theorem abandoned_of_finish {heard : Bool} (lost : error.fatal = false)
    (quits : (command.isShutdown || finish (.error error) heard) = true) :
    Abandoned (.command command heard) := by
  unfold finish at quits
  dsimp only at quits
  rw [lost, Bool.false_or, Bool.or_eq_true] at quits
  cases quits with
  | inl asked => exact ⟨command, heard, rfl, .inr asked⟩
  | inr unheard =>
    cases heard with
    | true => exact Bool.noConfusion unheard
    | false => exact ⟨command, false, rfl, .inl rfl⟩

section Turns

variable {outside : Outside} {actor : RuntimeActor}

theorem turnRecovers_serve (forbears : outside.Forbears false) (command : RuntimeCommand)
    (heard : Bool) (told : actor.Told) :
    TurnRecovers (.command command heard) (serve outside command heard actor) := by
  have ended := (recovers_answer forbears command).ends told
  unfold serve
  generalize ending (answer outside command) actor = outcome at ended ⊢
  obtain ⟨result, after⟩ := outcome
  have kept : after.Told := ended.1
  have frees : ∀ error, some result = some (Except.error error) → error.LosesCapture →
      after.activeCapture = none := by
    intro error same lost
    exact (ended.2 error (Option.some.inj same)).2 lost
  dsimp only
  split
  case isTrue quits =>
    constructor
    · exact kept
    · exact fun _ => endsForCause_of_finish quits
    · exact fun _ _ _ => .inl rfl
    · intro error raised lost
      cases raised with
      | inl replied =>
        have free := frees error replied lost
        cases replied
        exact ⟨free, fun _ => abandoned_of_finish lost.1 quits⟩
      | inr faulted => exact nomatch faulted
  case isFalse =>
    constructor
    · exact kept.resumed _ _
    · exact fun never => Bool.noConfusion never
    · exact fun _ _ _ => .inl rfl
    · intro error raised lost
      cases raised with
      | inl replied =>
        rw [after.resumed_activeCapture]
        exact ⟨frees error replied lost, fun never => Bool.noConfusion never⟩
      | inr faulted => exact nomatch faulted

theorem turnRecovers_failed (arrival : Arrival) (fatal : error.fatal = true) (told : actor.Told) :
    TurnRecovers arrival (failed error actor) := by
  constructor
  · exact told.of_same rfl rfl rfl
  · exact fun _ => .fault error (.inr rfl) fatal
  · exact fun _ _ _ => .inr ⟨error, rfl, fatal⟩
  · intro other raised lost
    cases raised with
    | inl replied => exact nomatch replied
    | inr faulted =>
      cases faulted
      have never := lost.1
      rw [fatal] at never
      exact Bool.noConfusion never

theorem turnRecovers_work {action : Act Unit} (recovers : Recovers (Ends true) action)
    (told : actor.Told) : TurnRecovers .quiet (work action actor) := by
  have ended := recovers.ends told
  unfold work
  generalize ending action actor = outcome at ended ⊢
  obtain ⟨result, after⟩ := outcome
  have kept : after.Told := ended.1
  cases result with
  | error error => exact turnRecovers_failed .quiet ((ended.2 error rfl).1 rfl) kept
  | ok value =>
    constructor
    · exact kept
    · exact fun never => Bool.noConfusion never
    · exact nofun
    · intro error raised
      cases raised with
      | inl replied => exact nomatch replied
      | inr faulted => exact nomatch faulted

theorem turnRecovers_leave (told : actor.Told) :
    TurnRecovers .disconnected (leave outside actor) := by
  constructor
  · exact ((recovers_stop .hostExit).ends told).1
  · exact fun _ => .disconnected rfl
  · exact nofun
  · intro error raised
    cases raised with
    | inl replied => exact nomatch replied
    | inr faulted => exact nomatch faulted

theorem turnRecovers_idle (told : actor.Told) : TurnRecovers .quiet (.idle, actor) := by
  constructor
  · exact told
  · exact fun never => Bool.noConfusion never
  · exact nofun
  · intro error raised
    cases raised with
    | inl replied => exact nomatch replied
    | inr faulted => exact nomatch faulted

/-- Every turn: what arrives first is looked at when a batch is due, when a frame is due, and when
nothing plays. -/
theorem turnRecovers_turn {arrival : Arrival} (forbears : outside.Forbears arrival.isQuiet)
    (told : actor.Told) : TurnRecovers arrival (turn outside arrival actor) := by
  unfold turn
  by_cases due : actor.processingActive = true ∧ actor.pendingFrames = []
  · rw [if_pos due]
    cases arrival with
    | command command heard => exact turnRecovers_serve forbears command heard told
    | disconnected => exact turnRecovers_leave told
    | quiet => exact turnRecovers_work (recovers_processOnce forbears) told
  · rw [if_neg due]
    by_cases active : actor.processingActive = true
    · rw [if_pos active]
      cases deadline : actor.frameClock.nextDeadline outside.latest with
      | error error =>
        have fatal := faults_nextDeadline told.clock outside.latest error deadline
        exact turnRecovers_failed arrival fatal told
      | ok instant =>
        cases arrival with
        | command command heard => exact turnRecovers_serve forbears command heard told
        | disconnected => exact turnRecovers_leave told
        | quiet => exact turnRecovers_work recovers_frameDue told
    · rw [if_neg active]
      cases arrival with
      | command command heard => exact turnRecovers_serve forbears command heard told
      | disconnected => exact turnRecovers_leave told
      | quiet => exact turnRecovers_idle told

theorem told_cleanUp (told : actor.Told) : (cleanUp outside actor).Told := by
  have recovers : Recovers (Ends false) (stop outside .protocolFault) :=
    recovers_stop .protocolFault
  have stopped := (recovers.ends told).1
  have frees := (ending (stop outside .protocolFault) actor).2.abandoned_frees .aborted "aborted"
    "Capture ended because the Deck runtime stopped."
  exact stopped.of_none frees.2 frees.1

end Turns

/-- An error tells that a capture is lost: by its own code, or as the rejection of a command that
starts none by a worker that has lost it. -/
def Outside.TellsLoss (outside : Outside) (error : GenericDeckRuntimeError) : Prop :=
  error.LosesCapture ∨ ∃ command rejection, startsCapture command = false ∧
    outside.call command = .error (.remote rejection) ∧ rejection.fatal = false ∧
      tellsLoss rejection.code = true ∧ error = mapClientError (.remote rejection)

theorem Outside.Forbears.losesCapture {outside : Outside} {quiet : Bool}
    (forbears : outside.Forbears quiet) (tells : outside.TellsLoss error) : error.LosesCapture := by
  rcases tells with lost | ⟨command, rejection, other, answered, survivable, lost, -⟩
  · exact lost
  · rcases forbears.kept command rejection other answered with fatal | kept
    · rw [survivable] at fatal
      exact nomatch fatal
    · rw [lost] at kept
      exact nomatch kept

/-- One step of a session whose loop runs recovers from every error that is not fatal. -/
structure StepRecovers (step : Step RuntimeTask (Outside × Arrival) Turn) : Prop where
  ends : step.after.running = false → EndsForCause step.input.2 step.output
  serves : ∀ command heard, step.input.2 = .command command heard →
    step.output.reply.isSome = true ∨
      ∃ error, step.output.fault = some error ∧ error.fatal = true
  /-- Behind the error of a lost capture the slot is free, and the loop runs unless its caller is
  gone. -/
  frees : ∀ error, step.output.Raised error → step.input.1.TellsLoss error →
    step.after.actor.activeCapture = none ∧
      (step.after.running = true ∨ Abandoned step.input.2)
  slot : step.after.actor.captureStatus.state ≠ "capturing" →
    step.after.actor.captureStatus.state ≠ "finalizing" →
      step.after.actor.activeCapture = none

theorem RuntimeActor.Told.empty (told : actor.Told)
    (capturing : actor.captureStatus.state ≠ "capturing")
    (finalizing : actor.captureStatus.state ≠ "finalizing") : actor.activeCapture = none := by
  cases found : actor.activeCapture with
  | none => rfl
  | some capture =>
    cases told.slot capture found with
    | inl shown => exact absurd shown capturing
    | inr shown => exact absurd shown finalizing

theorem next_recovers {task : RuntimeTask} (told : task.actor.Told) {input : Outside × Arrival}
    (forbears : task.running = true → input.1.Forbears input.2.isQuiet) :
    (task.next input).2.actor.Told ∧
      (task.running = true → StepRecovers (stepOf RuntimeTask.next task input)) := by
  unfold stepOf
  cases runs : task.running with
  | false =>
    have rests : task.next input = (.idle, task) := by
      rw [RuntimeTask.next, runs]
      rfl
    rw [rests]
    exact ⟨told, fun never => Bool.noConfusion never⟩
  | true =>
    have recovers := turnRecovers_turn (forbears runs) told
    have moves : task.next input =
        if (turn input.1 input.2 task.actor).1.breaks then ((turn input.1 input.2 task.actor).1,
          ⟨cleanUp input.1 (turn input.1 input.2 task.actor).2, false⟩)
        else ((turn input.1 input.2 task.actor).1,
          ⟨(turn input.1 input.2 task.actor).2, true⟩) := by
      rw [RuntimeTask.next, runs]
      rfl
    by_cases breaks : (turn input.1 input.2 task.actor).1.breaks = true
    · rw [if_pos breaks] at moves
      have cause := recovers.ends breaks
      have kept : (cleanUp input.1 (turn input.1 input.2 task.actor).2).Told :=
        told_cleanUp recovers.kept
      rw [moves]
      refine ⟨kept, fun _ => ⟨fun _ => cause, recovers.serves, fun error raised tells => ?_,
        kept.empty⟩⟩
      have lost := (forbears runs).losesCapture tells
      have freed := (ending (stop input.1 .protocolFault)
        (turn input.1 input.2 task.actor).2).2.abandoned_frees .aborted "aborted"
          "Capture ended because the Deck runtime stopped."
      exact ⟨freed.1, .inr ((recovers.frees error raised lost).2 breaks)⟩
    · rw [if_neg breaks] at moves
      rw [moves]
      refine ⟨recovers.kept, fun _ => ⟨fun never => Bool.noConfusion never, recovers.serves,
        fun error raised tells =>
          ⟨(recovers.frees error raised ((forbears runs).losesCapture tells)).1, .inl rfl⟩,
        recovers.kept.empty⟩⟩

/-- In every run of an actor in which no turn of the loop itself fails recoverably and the worker
rejects nothing but a start because of a lost capture, the loop ends for a cause only, commands are
served, and a capture that is over leaves its slot free. -/
theorem recoverable_failures_survived (first : RuntimeActor) (started : first.Started)
    (inputs : List (Outside × Arrival))
    (forbears : ∀ step ∈ steps RuntimeTask.next first.spawn inputs,
      step.before.running = true → step.input.1.Forbears step.input.2.isQuiet) :
    ∀ step ∈ steps RuntimeTask.next first.spawn inputs,
      step.before.running = true → StepRecovers step := by
  have told : first.spawn.actor.Told := by
    obtain ⟨numerator, denominator, now, made⟩ := started.clocked
    constructor
    · exact (new_eq_ok made).1
    · intro capture held
      have empty : first.activeCapture = none := started.uncaptured
      have held : first.activeCapture = some capture := held
      rw [empty] at held
      exact nomatch held
  have kept := invariant_under
    (fun step : Step RuntimeTask (Outside × Arrival) Turn =>
      step.before.running = true → step.input.1.Forbears step.input.2.isQuiet)
    (fun task => task.actor.Told) (fun task input told met => (next_recovers told met).1)
    inputs first.spawn told forbears
  intro step member running
  have around := (kept.2 step member).1
  have here := step_eq first.spawn inputs step member
  have met := forbears step member
  rw [here]
  exact (next_recovers around met).2 running

/-- A deck that plays one source, which loops. -/
def playingStatus : DeckStatusSnapshot where
  deckSessionId := 1
  state := .playing
  deckRevision := 1
  streamGeneration := 1
  streamSequence := 0
  playheads := ⟨[⟨1, 0, true, false⟩], by decide⟩
  roles := ⟨[⟨"carrier", 1⟩], by decide⟩
  controls := ⟨[], Nat.zero_le _⟩
  sourceTransport := ⟨[⟨1, true, true⟩], (by decide : 1 ≤ Control.maxSources)⟩
  seed := 0
  captureState := .idle

/-- An actor that was started with that deck. -/
def playingActor : RuntimeActor where
  status := playingStatus
  statusView := playingStatus
  faultCode := none
  outputVisible := false
  ringId := 2
  dimensions := (64, 64)
  slotCounts := [(1, 8)]
  frameClock := ⟨24, 1, 0, 1⟩
  captureStatus := .default
  captureSources := []
  operatorId := "com.example.operator"
  operatorVersion := "1.0.0"
  structuralCarrierRole := "carrier"
  deckRuntime := {
    operator := ⟨"1.0", "1.0", "com.example.deck", "1.0.0", "com.example.operator", "1.0.0",
      "example.main:create", 1, ["carrier"], []⟩
    binding := ⟨"com.example.deck", "1.0.0", "com.example.operator", "1.0.0", "/deck/python",
      "example.main:create", "", ""⟩ }
  cartridges := [(some 3, "")]
  activeCapture := none
  pendingFrames := []
  viewport := ⟨1, none, false⟩
  foreground := false
  spoutRequestedEnabled := false
  workerStopped := false
  sent := []

theorem playingActor_started : playingActor.Started where
  clocked := ⟨24, 1, 0, by decide +kernel⟩
  uncaptured := rfl
  waiting := rfl
  serving := rfl

/-- A world in which only the worker answers. -/
def answering (call : Control.Command → Except WorkerClientV2Error Control.Ack) : Outside where
  call := call
  requestShutdown _ := .ok ()
  tryRead := none
  adoptRingGeneration _ := true
  now := 1
  latest := 2 ^ 63
  newId := 5
  createStagingRoot := .ok (some "/staging")
  decoder := ⟨fun _ => (.null, none), fun _ => .error ⟨"", ""⟩, fun _ => none, fun _ => none,
    fun _ => "", fun _ => none⟩
  finalizer := ⟨fun _ _ => .error .invalidRoot, 6, fun _ _ => none, none⟩
  present _ := true
  setSpoutEnabled _ := true
  setSpoutName _ := true
  setVisible _ := true
  setBounds _ := none
  spoutStatus := ⟨false, false⟩
  recordingActive := false
  arm _ := .error .active
  diagnosed _ := false

/-- The worker starts every capture that it is asked for. -/
def startsCaptures : Control.Command → Except WorkerClientV2Error Control.Ack
  | .captureStart start => .ok (.captureStart ⟨start.deckSessionId, start.deckRevision,
      start.captureId, .capturing, start.mode, 0, 0, none⟩)
  | _ => .error .unexpectedReply

/-- The rejection of a batch whose capture writer failed, as the worker answers it. -/
def writerFailed : ErrorPayload where
  code := .captureInvalidState
  message := "capture writer rejected the post-operator latent slot"
  retryable := false
  fatal := false
  status := ⟨.ready, .ready, .empty, .playing, .faulted, 1, none, false⟩
  diagnosticId := 7
  details := ⟨[], by decide⟩

/-- A capture starts while the deck plays, and its writer fails on the next batch. -/
def failedTake : List (Outside × Arrival) :=
  [(answering startsCaptures, .command (.captureStart .liveCapture "take.lc") true),
    (answering fun _ => .error (.remote writerFailed), .quiet)]

/-- The worker rejects every start of a capture, and answers nothing else. -/
def rejectsStarts : Control.Command → Except WorkerClientV2Error Control.Ack
  | .captureStart _ => .error (.remote { writerFailed with message := "capture is already active" })
  | _ => .error .commandTimeout

theorem rejectsStarts_remote {command : Control.Command} {error : ErrorPayload}
    (answered : rejectsStarts command = .error (.remote error)) :
    ∃ start, command = .captureStart start := by
  unfold rejectsStarts at answered
  split at answered
  · exact ⟨_, rfl⟩
  · exact nomatch answered

/-- The start of a capture is rejected, and then the next command comes. -/
def rejectedTake : List (Outside × Arrival) :=
  [(answering rejectsStarts, .command (.captureStart .liveCapture "take.lc") true),
    (answering rejectsStarts, .command .spoutStatus true)]

/-- The caller of the start is told an error that is not fatal, and the next command is served. -/
theorem rejected_take_survived :
    (∀ step ∈ steps RuntimeTask.next playingActor.spawn rejectedTake,
      StepRecovers step ∧ step.after.running = true ∧ step.output.reply.isSome = true) ∧
    ∃ step ∈ steps RuntimeTask.next playingActor.spawn rejectedTake, ∃ error,
      step.output.Raised error ∧ step.input.1.TellsLoss error := by
  have forbears : (answering rejectsStarts).Forbears false := by
    refine ⟨nofun, nofun, ?_, ?_⟩
    · intro command error asks answered
      obtain ⟨start, rfl⟩ := rejectsStarts_remote answered
      exact nomatch asks
    · intro command error other answered
      obtain ⟨start, rfl⟩ := rejectsStarts_remote answered
      exact nomatch other
  have running : ∀ step ∈ steps RuntimeTask.next playingActor.spawn rejectedTake,
      step.before.running = true ∧ step.after.running = true ∧
        step.output.reply.isSome = true := by
    rw [rejectedTake, steps, List.forall_mem_cons, steps, List.forall_mem_cons]
    exact ⟨⟨rfl, rfl, rfl⟩, ⟨rfl, rfl, rfl⟩, List.forall_mem_nil _⟩
  have met : ∀ step ∈ steps RuntimeTask.next playingActor.spawn rejectedTake,
      step.before.running = true → step.input.1.Forbears step.input.2.isQuiet := by
    rw [rejectedTake, steps, List.forall_mem_cons, steps, List.forall_mem_cons]
    exact ⟨fun _ => forbears, fun _ => forbears, List.forall_mem_nil _⟩
  refine ⟨fun step member => ⟨?_, (running step member).2⟩, _, List.mem_cons_self, _, .inl rfl,
    .inl ⟨rfl, by decide⟩⟩
  exact recoverable_failures_survived playingActor playingActor_started rejectedTake met step member
    (running step member).1

/-- The loop of the failed take ends behind an error that is not fatal. -/
theorem failed_take_ends_session :
    playingActor.Started ∧ ∃ step ∈ steps RuntimeTask.next playingActor.spawn failedTake,
      step.before.running = true ∧ step.after.running = false ∧
        ¬ EndsForCause step.input.2 step.output := by
  have told : ∃ step ∈ steps RuntimeTask.next playingActor.spawn failedTake,
      step.before.running = true ∧ step.after.running = false ∧ step.input.2 = .quiet ∧
        step.output = ⟨true, none, some (mapClientError (.remote writerFailed))⟩ :=
    ⟨_, List.mem_cons_of_mem _ List.mem_cons_self, rfl, rfl, rfl, rfl⟩
  obtain ⟨step, member, before, after, quiet, output⟩ := told
  refine ⟨playingActor_started, step, member, before, after, fun cause => ?_⟩
  rw [quiet, output] at cause
  cases cause with
  | shutdown command heard served asked => exact nomatch served
  | unheard command served => exact nomatch served
  | disconnected gone => exact nomatch gone
  | fault error raised fatal =>
    cases raised with
    | inl replied => exact nomatch replied
    | inr faulted =>
      cases faulted
      exact Bool.noConfusion fatal

end LatentDeck.Host
