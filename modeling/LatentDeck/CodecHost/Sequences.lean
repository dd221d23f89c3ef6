import LatentDeck.CodecHost.Streams

/-!
# Sequences of acknowledged steps

A stream is one generation of a session. Only steps number it, and each other command either leaves
the position of the session alone or begins a stream, whose sequence starts at zero. So in a run of
clean commands the acknowledged steps of a stream carry the numbers from one on without gaps.
-/

namespace LatentDeck.CodecHost

open Effect Fallible Run
open Control (Uuid)

/-- The stream of the warm session: its id and its generation. -/
def Sessions.stream (sessions : Sessions) : Option (Uuid × Nat) :=
  sessions.position.map fun position => (position.sessionId, position.generation)

/-- Another stream begins, or there is no stream any more. -/
def BeginsStream (before after : Sessions) : Prop :=
  after.stream ≠ before.stream ∧
    ∀ position, after.position = some position → position.sequence = 0

/-- The position stays, or another stream begins. -/
def KeepsStream (before after : Sessions) : Prop :=
  after.position = before.position ∨ BeginsStream before after

theorem keepsStream_of_same {before after : Sessions} (same : after = before) :
    KeepsStream before after := by
  rw [same]
  exact Or.inl rfl

variable {before : Protocol2Worker}

theorem keepsStream_of_settingPart {after : Protocol2Worker}
    (changed : settingPart.allows before after) :
    KeepsStream before.toSessions after.toSessions := by
  have looked := Frame.seen (fun worker : Protocol2Worker => worker.toSessions.position) changed
  have unset : ∀ sessions : Sessions, ({ sessions with
      captureState := .idle, deck := sessions.deck.map DeckSession.unset } : Sessions).position =
        sessions.position := by
    intro sessions
    unfold Sessions.position
    cases sessions.deck <;> rfl
  exact Or.inl ((unset after.toSessions).symm.trans (looked.trans (unset before.toSessions)))

theorem begins_of_vacant {before after : Sessions} (vacant : before.position = none)
    {position : Position} (opened : after.position = some position)
    (fresh : position.sequence = 0) : BeginsStream before after := by
  refine ⟨?_, fun other found => ?_⟩
  · simp [Sessions.stream, vacant, opened]
  · cases opened.symm.trans found
    exact fresh

section Operations

variable (outside : Outside) {start : Protocol2Worker}

theorem keepsStream_of_seen {view : Protocol2Worker → Protocol2Worker}
    {after : Protocol2Worker} (changed : (Frame.keeping view).allows start after)
    (sees : ∀ worker, (view worker).toSessions = worker.toSessions) :
    KeepsStream start.toSessions after.toSessions :=
  keepsStream_of_same ((sees after).symm.trans
    ((Frame.seen Protocol2Worker.toSessions changed).trans (sees start)))

theorem keepsStream_of_handles {after : Protocol2Worker} (changed : handlePart.allows start after) :
    KeepsStream start.toSessions after.toSessions :=
  keepsStream_of_seen changed fun _ => rfl

/-- `player.open` begins a stream, or leaves the sessions alone. -/
theorem playerOpen_stream (payload : Control.PlayerOpen) :
    Leaves (playerOpen outside payload) start (KeepsStream start.toSessions ·.toSessions) := by
  rw [playerOpen]
  refine leads_read (fun _ _ => ?_) fun _ _ => keepsStream_of_same rfl
  refine leads_read (fun _ admitted => ?_) fun _ _ => keepsStream_of_same rfl
  refine leads_checked (fun source _ => ?_) fun _ _ => keepsStream_of_same rfl
  refine (openSource_within outside source .player start).bind (fun _ state changed => ?_)
    (fun _ state changed => keepsStream_of_handles changed)
  rw [leads_bind, leads_modify, leads_pure]
  have vacant := vacant_of_admitted admitted
  exact Or.inr (begins_of_vacant (by simp [Sessions.position, vacant.1, vacant.2]) rfl rfl)

/-- `deck.load` begins a stream, or leaves the sessions alone. -/
theorem deckLoad_stream (payload : DeckLoad) :
    Leaves (deckLoad outside payload) start (KeepsStream start.toSessions ·.toSessions) := by
  rw [deckLoad]
  refine leads_read (fun _ _ => ?_) fun _ _ => keepsStream_of_same rfl
  refine leads_read (fun _ admitted => ?_) fun _ _ => keepsStream_of_same rfl
  refine (loadDeckOperator_within outside payload start).bind (fun operator state changed => ?_)
    (fun _ state changed => keepsStream_of_handles changed)
  refine leads_checked (fun sources _ => ?_) fun _ _ => keepsStream_of_handles changed
  refine (Within.each (fun source => openSource_within outside source .realtime) sources state).bind
    (fun receipts after opened => ?_)
    (fun _ after opened => keepsStream_of_handles (handlePart.trans changed opened))
  have still := handlePart.trans changed opened
  refine leads_checked (fun _ _ => ?_) fun _ _ => keepsStream_of_handles still
  refine leads_checked (fun _ _ => ?_) fun _ _ => keepsStream_of_handles still
  refine leads_checked (fun controls _ => ?_) fun _ _ => keepsStream_of_handles still
  rw [leads_bind, leads_modify, leads_pure]
  have vacant := vacant_of_admitted admitted
  have noPlayer : after.player = none :=
    (Frame.seen (fun worker : Protocol2Worker => worker.player) still).trans vacant.1
  have begun : ({ after with deck := some (freshDeck payload operator sources controls) } :
      Protocol2Worker).position = some (freshDeck payload operator sources controls).position := by
    simp [Sessions.position, noPlayer]
  exact Or.inr (begins_of_vacant (by simp [Sessions.position, vacant.1, vacant.2]) begun rfl)

/-- `codec.unload` ends the stream, or leaves the sessions alone. -/
theorem codecUnload_stream (payload : Control.CodecUnload) :
    Leaves (codecUnload outside payload) start (KeepsStream start.toSessions ·.toSessions) := by
  rw [Leaves, codecUnload, leads_bind, leads_require]
  refine ⟨fun _ => ?_, fun _ => keepsStream_of_same rfl⟩
  refine (abortAllRawImports_within outside start).bind (fun _ state changed => ?_)
    (fun _ state changed => keepsStream_of_same (Frame.seen Protocol2Worker.toSessions changed))
  refine (closeHandles_within outside state).bind (fun _ after closed => ?_)
    (fun _ after closed => keepsStream_of_same ((Frame.seen Protocol2Worker.toSessions closed).trans
      (Frame.seen Protocol2Worker.toSessions changed)))
  rw [leads_modify]
  cases there : start.toSessions.position with
  | none => exact Or.inl there.symm
  | some position =>
    refine Or.inr ⟨fun same => ?_, by rintro _ ⟨⟩⟩
    have before : start.stream = some (position.sessionId, position.generation) := by
      rw [Sessions.stream, there]
      rfl
    rw [before] at same
    cases same

theorem shutdownWorker_stream :
    Leaves (shutdownWorker outside) start (KeepsStream start.toSessions ·.toSessions) := by
  have kept : Within (.keeping fun worker : Protocol2Worker => worker.toSessions.position)
      (shutdownWorker outside) := by
    have calls : ∀ call, Within
        (.keeping fun worker : Protocol2Worker => worker.toSessions.position)
        (perform outside call) := fun _ => within_perform (fun _ _ => rfl) outside
    refine .bind (.modify fun _ => rfl) fun _ => ?_
    refine .reads fun deck => ?_
    refine .bind (.whenSome fun capture => .whenever ?_) fun _ => ?_
    · refine .bind (.suppressing (calls _)) fun _ => .modify fun worker => ?_
      simp only [Frame.keeping, Sessions.position]
      cases worker.deck <;> rfl
    refine .bind ((abortAllRawImports_within outside).mono fun _ _ changed =>
      Frame.seen (fun worker : Protocol2Worker => worker.toSessions.position) changed) fun _ => ?_
    refine .bind ((closeHandles_within outside).mono fun _ _ changed =>
      Frame.seen (fun worker : Protocol2Worker => worker.toSessions.position) changed) fun _ => ?_
    refine .reads fun sources => ?_
    refine .bind (.each
      (fun bound : BoundCartridge => calls (.closeCartridge (some bound.access))) sources) fun _ => ?_
    refine .bind (.modify fun _ => rfl) fun _ => ?_
    refine .reads fun rings => ?_
    refine .bind (.each (fun ringId => calls (.releaseRing ringId)) rings) fun _ => ?_
    exact .modify fun _ => rfl
  exact (kept start).mono (fun _ _ same => Or.inl same) (fun _ _ same => Or.inl same)

theorem changePlayer_changes (change : PlayerSession → PlayerSession) :
    Leads (changePlayer change) start
      (fun player state => state.player = some player ∧ ∃ old, player = change old)
      (fun _ _ => True) := by
  cases there : start.player with
  | some player =>
    rw [leads_changePlayer _ there]
    exact ⟨rfl, player, rfl⟩
  | none =>
    rw [changePlayer, leads_bind, leads_modify, leads_reading, there]
    exact ⟨by rintro _ ⟨⟩, fun _ _ => trivial⟩

theorem changeDeck_fresh {change : DeckSession → DeckSession}
    (fresh : ∀ deck, (change deck).sequence = 0) :
    Leads (changeDeck change) start
      (fun _ state => ∃ deck, state.deck = some deck ∧ deck.sequence = 0)
      (fun _ _ => True) := by
  cases there : start.deck with
  | some deck =>
    rw [leads_changeDeck _ there]
    exact ⟨_, rfl, fresh deck⟩
  | none =>
    rw [changeDeck, leads_bind, leads_modify, leads_reading, there]
    exact ⟨fun _ never => (by cases never), fun _ _ => trivial⟩

/-- A player that was reset is at the start of its stream. -/
theorem playerReset_fresh (payload : Control.PlayerReset) :
    Leads (playerReset outside payload) start
      (fun _ state => ∃ player, state.player = some player ∧ player.sequence = 0)
      (fun _ _ => True) := by
  rw [playerReset]
  iterate 5 refine leads_last (fun _ _ => trivial) fun _ _ => ?_
  refine leads_last (fun _ _ => trivial) fun _ state => ?_
  refine (changePlayer_changes _).mono (fun player after changed => ?_) fun _ _ _ => trivial
  obtain ⟨there, old, same⟩ := changed
  exact ⟨player, there, congrArg (·.sequence) same⟩

/-- A deck that was reset is at the start of its stream. -/
theorem deckReset_fresh (payload : Control.DeckReset) :
    Leads (deckReset outside payload) start
      (fun _ state => ∃ deck, state.deck = some deck ∧ deck.sequence = 0)
      (fun _ _ => True) := by
  rw [deckReset]
  iterate 6 refine leads_last (fun _ _ => trivial) fun _ _ => ?_
  exact leads_last (fun _ _ => trivial) fun _ _ => changeDeck_fresh fun _ => rfl

/-- A deck that was restarted is at the start of its stream. -/
theorem deckRestart_fresh (payload : Control.DeckIdentity) :
    Leads (deckRestart outside payload) start
      (fun _ state => ∃ deck, state.deck = some deck ∧ deck.sequence = 0)
      (fun _ _ => True) := by
  rw [deckRestart]
  iterate 6 refine leads_last (fun _ _ => trivial) fun _ _ => ?_
  exact leads_last (fun _ _ => trivial) fun _ _ => changeDeck_fresh fun _ => rfl

end Operations

/-- The generation of a stream is the generation of its session. -/
theorem stream_of_generation {sessions : Sessions} (coherent : sessions.Coherent)
    {name : Control.CommandName} {generation : Nat}
    (found : sessions.generationFor name = some generation) :
    sessions.stream.map Prod.snd = some generation := by
  unfold Sessions.generationFor at found
  unfold Sessions.stream Sessions.position
  by_cases reset : name = .playerReset
  · rw [if_pos reset] at found
    cases open_ : sessions.player with
    | none => simp [open_] at found
    | some player =>
      rw [open_] at found
      exact found
  · rw [if_neg reset] at found
    cases loaded : sessions.deck with
    | none => simp [loaded] at found
    | some deck =>
      rw [loaded] at found
      rw [coherent.no_player loaded]
      exact found

theorem begins_of_later {before after : Sessions} {name : Control.CommandName}
    (earlier : before.Coherent) (later : after.Coherent) (moved : LaterGeneration name before after)
    (fresh : ∀ position, after.position = some position → position.sequence = 0) :
    BeginsStream before after := by
  refine ⟨fun same => ?_, fresh⟩
  obtain ⟨old, new, had, has, less⟩ := moved
  have first := stream_of_generation earlier had
  have second := stream_of_generation later has
  rw [same, first] at second
  have equal := Option.some.inj second
  omega

variable {worker : Protocol2Worker}

theorem fresh_of_player (there : ∃ player, worker.player = some player ∧ player.sequence = 0) :
    ∀ position, worker.position = some position → position.sequence = 0 := by
  intro position at_
  obtain ⟨player, open_, zero⟩ := there
  rw [Sessions.position, open_] at at_
  cases at_
  exact zero

theorem fresh_of_deck (coherent : worker.Coherent)
    (there : ∃ deck, worker.deck = some deck ∧ deck.sequence = 0) :
    ∀ position, worker.position = some position → position.sequence = 0 := by
  intro position at_
  obtain ⟨deck, loaded, zero⟩ := there
  rw [Sessions.position, coherent.sessions.no_player loaded, loaded] at at_
  cases at_
  exact zero

/-- The commands that take a step in a stream. -/
def stepsStream : Control.CommandName → Bool
  | .playerStep | .deckProcess => true
  | _ => false

variable {command : Command}

theorem operation_keepsStream (outside : Outside) {start : Protocol2Worker}
    (coherent : start.Coherent) (admissible : command.admissible outside.platform = true)
    (other : stepsStream command.name = false) (clean : ResetsCleanly outside start command) :
    Leaves (operation outside command) start (KeepsStream start.toSessions ·.toSessions) := by
  have kept := operation_coheres outside admissible start coherent
  have within := operation_within outside command start
  have of_frame : ∀ {frame : Frame Protocol2Worker}, command.part = frame →
      (∀ state, frame.allows start state → KeepsStream start.toSessions state.toSessions) →
        Leaves (operation outside command) start (KeepsStream start.toSessions ·.toSessions) := by
    intro frame part holds
    rw [part] at within
    exact within.mono (fun _ state changed => holds state changed)
      (fun _ state changed => holds state changed)
  have setting : ∀ state, settingPart.allows start state →
      KeepsStream start.toSessions state.toSessions := fun _ changed =>
    keepsStream_of_settingPart changed
  unfold Command.admissible at admissible
  unfold Leaves
  cases command with
  | playerStep _ | deckProcess _ => exact nomatch other
  | sessionConfigure _ | codecDescriptor _ | codecLoad _ | sourceOpen _ | sourceClose _
  | profileInspect _ | profileValidate _ | rawImportPreflight _ | rawImportStage _
  | rawImportAbort _ | ringConfigure _ | ringRelease _ =>
    exact of_frame rfl fun _ changed => keepsStream_of_seen changed fun _ => rfl
  | sessionShutdown _ =>
    rw [operation]
    exact (shutdownWorker_stream outside).bind (fun _ _ keeps => keeps) (fun _ _ keeps => keeps)
  | codecUnload request =>
    rw [operation]
    exact (codecUnload_stream outside request).bind (fun _ _ keeps => keeps)
      (fun _ _ keeps => keeps)
  | playerOpen request =>
    rw [operation, leads_map]
    exact playerOpen_stream outside request
  | deckLoad request =>
    rw [operation, leads_map]
    exact deckLoad_stream outside request
  | playerReset request =>
    simp only [Bool.and_eq_true, Bool.not_eq_true', bne_iff_ne, ne_eq] at admissible
    have settled := playerReset_clean outside coherent request admissible.2 clean
    have fresh : Leads (operation outside (.playerReset request)) start
        (fun _ state => ∃ player, state.player = some player ∧ player.sequence = 0)
        (fun _ _ => True) := by
      rw [operation, leads_map]
      exact playerReset_fresh outside request
    exact ((kept.and settled).and fresh).mono
      (fun _ state all => Or.inr (begins_of_later coherent.sessions all.1.1.sessions all.1.2.2
        (fresh_of_player all.2)))
      (fun _ state all => keepsStream_of_same all.1.2)
  | deckReset request =>
    simp only [Bool.and_eq_true, bne_iff_ne, ne_eq] at admissible
    have settled := deckReset_clean outside coherent request admissible.2 clean
    have fresh : Leads (operation outside (.deckReset request)) start
        (fun _ state => ∃ deck, state.deck = some deck ∧ deck.sequence = 0)
        (fun _ _ => True) := by
      rw [operation, leads_map]
      exact deckReset_fresh outside request
    exact ((kept.and settled).and fresh).mono
      (fun _ state all => Or.inr (begins_of_later coherent.sessions all.1.1.sessions all.1.2.2
        (fresh_of_deck all.1.1 all.2)))
      (fun _ state all => keepsStream_of_same all.1.2)
  | deckRestart request =>
    have settled := deckRestart_clean outside coherent request clean
    have fresh : Leads (operation outside (.deckRestart request)) start
        (fun _ state => ∃ deck, state.deck = some deck ∧ deck.sequence = 0)
        (fun _ _ => True) := by
      rw [operation, leads_map]
      exact deckRestart_fresh outside request
    exact ((kept.and settled).and fresh).mono
      (fun _ state all => Or.inr (begins_of_later coherent.sessions all.1.1.sessions all.1.2.2
        (fresh_of_deck all.1.1 all.2)))
      (fun _ state all => keepsStream_of_same all.1.2)
  | _ => exact of_frame rfl setting

/-- The number that an acknowledgement of a step carries. -/
def stepSequence : Ack → Option Nat
  | .playerStep status _ _ _ => some status.streamSequence
  | .deckProcess status _ _ _ => some status.streamSequence
  | _ => none

/-- The number that the reply to a step carries. -/
def carriedSequence : Except Raised Reply → Option Nat
  | .ok reply =>
      match reply.message with
      | .ack _ _ payload _ => stepSequence payload
      | .error _ _ _ => none
  | .error _ => none

theorem acknowledged_of_carried {answer : Except Raised Reply} {number : Nat}
    (carried : carriedSequence answer = some number) : Acknowledged answer := by
  cases answer with
  | error raised => exact nomatch carried
  | ok reply =>
    refine ⟨reply, rfl, ?_⟩
    unfold Reply.isAck
    cases message : reply.message with
    | ack replyTo name payload status => rfl
    | error replyTo name payload => simp [carriedSequence, message] at carried

/-- The acknowledgement of a step is numbered as the session is. -/
theorem stepSequence_of_built (coherent : worker.Coherent)
    {value : CommandValue} {payload : Ack} (built : worker.ackPayload value command = .ok payload)
    (stepping : stepsStream command.name = true) :
    ∃ position, worker.position = some position ∧
      stepSequence payload = some position.sequence := by
  cases command with
  | playerStep request =>
    have built : worker.stepAck value = .ok payload := built
    unfold Protocol2Worker.stepAck at built
    cases value with
    | process receipt =>
      obtain ⟨player, there, built⟩ := ok_of_bind built
      obtain ⟨status, told, made⟩ := ok_of_bind built
      cases open_ : worker.player with
      | none =>
        rw [open_] at there
        cases there
      | some other =>
        rw [open_] at there
        cases there
        cases made
        refine ⟨player.position, by rw [Sessions.position, open_]; rfl, ?_⟩
        unfold Protocol2Worker.playerStatusWire at told
        obtain ⟨held, -, told⟩ := ok_of_bind told
        obtain ⟨count, -, told⟩ := ok_of_bind told
        cases told
        rfl
    | _ => cases built
  | deckProcess request =>
    have built : worker.processAck value = .ok payload := built
    unfold Protocol2Worker.processAck at built
    cases value with
    | process receipt =>
      obtain ⟨deck, there, built⟩ := ok_of_bind built
      obtain ⟨status, told, built⟩ := ok_of_bind built
      obtain ⟨provenance, -, made⟩ := ok_of_bind built
      cases loaded : worker.deck with
      | none =>
        rw [loaded] at there
        cases there
      | some other =>
        rw [loaded] at there
        cases there
        cases made
        refine ⟨deck.position, ?_, ?_⟩
        · rw [Sessions.position, coherent.sessions.no_player loaded, loaded]
          rfl
        · unfold Protocol2Worker.deckStatusWire at told
          obtain ⟨playheads, -, told⟩ := ok_of_bind told
          cases told
          rfl
    | _ => cases built
  | _ => cases stepping

/-- The acknowledgement of another command carries no number. -/
theorem stepSequence_of_other {value : CommandValue} {payload : Ack}
    (built : worker.ackPayload value command = .ok payload)
    (other : stepsStream command.name = false) : stepSequence payload = none := by
  have mapped : ∀ {α : Type} {result : Except Raised α} {wrap : α → Ack},
      wrap <$> result = .ok payload → (∀ made, stepSequence (wrap made) = none) →
        stepSequence payload = none := by
    intro α result wrap told plain
    cases result with
    | error raised => exact nomatch told
    | ok made =>
      cases told
      exact plain made
  cases command with
  | playerStep _ | deckProcess _ => exact nomatch other
  | playerOpen _ | playerReset _ | playerStatus =>
    cases value with
    | player session => exact mapped built fun _ => rfl
    | _ => exact nomatch built
  | deckLoad _ | deckControlsSet _ | deckRolesSet _ | deckTransportSet _ | deckSeedSet _
  | deckReset _ | deckRestart _ | deckStatus =>
    cases value with
    | deck session => exact mapped built fun _ => rfl
    | _ => exact nomatch built
  | captureStart _ | captureStop _ | captureStatus _ =>
    cases value with
    | capture =>
      have built : worker.captureAck .capture = .ok payload := built
      unfold Protocol2Worker.captureAck at built
      obtain ⟨deck, -, built⟩ := ok_of_bind built
      obtain ⟨capture, -, built⟩ := ok_of_bind built
      cases built
      rfl
    | _ => exact nomatch built
  | profileValidate _ =>
    cases value with
    | receipt receipt => exact mapped built fun _ => rfl
    | _ => exact nomatch built
  | sessionConfigure _ | sessionStatus | sessionShutdown _ | codecUnload _ =>
    cases built
    rfl
  | _ =>
    cases value <;> cases built
    all_goals rfl

variable {envelope : Envelope} {outside : Outside}

/-- A turn that answers a step carries the number of the session; no other turn carries one. -/
theorem carriedSequence_turn {result : Except Raised Reply × Protocol2Worker}
    (spec : Turn outside envelope before result) (coherent : result.2.Coherent) {number : Nat}
    (carried : carriedSequence result.1 = some number) :
    ∃ command, envelope.message = .command command ∧ stepsStream command.name = true ∧
      ∃ position, result.2.position = some position ∧ position.sequence = number := by
  cases spec with
  | escaped refused => exact nomatch carried
  | acknowledged command carries value after ended payload built accepted =>
    have told : stepSequence payload = some number := carried
    have books : OnlyBooks (after.remember envelope.messageId command.name value)
        (after.remember envelope.messageId command.name value).sent := rfl
    have named : (after.remember envelope.messageId command.name value).Coherent :=
      coherent.of_same rfl rfl rfl
    refine ⟨command, carries.message, ?_⟩
    cases stepping : stepsStream command.name with
    | false =>
      rw [stepSequence_of_other built stepping] at told
      exact nomatch told
    | true =>
      obtain ⟨position, at_, same⟩ := stepSequence_of_built named built stepping
      refine ⟨rfl, position, at_, ?_⟩
      exact Option.some.inj (same.symm.trans told)
  | _ => exact absurd (acknowledged_of_carried carried) (not_acknowledged_failure _ _ _ _ _)

theorem carried_of_acknowledged {result : Except Raised Reply × Protocol2Worker}
    (spec : Turn outside envelope before result) (coherent : result.2.Coherent)
    (acknowledged : Acknowledged result.1) (message : envelope.message = .command command)
    (stepping : stepsStream command.name = true) : (carriedSequence result.1).isSome = true := by
  cases spec with
  | escaped refused =>
    obtain ⟨reply, never, -⟩ := acknowledged
    exact nomatch never
  | acknowledged answered carries value after ended payload built accepted =>
    have same : command = answered := by
      have both := message.symm.trans carries.message
      cases both
      rfl
    rw [same] at stepping
    have named : (after.remember envelope.messageId answered.name value).Coherent :=
      coherent.of_same rfl rfl rfl
    obtain ⟨position, -, same⟩ := stepSequence_of_built named built stepping
    exact Option.isSome_iff_exists.mpr ⟨_, same⟩
  | _ => exact absurd acknowledged (not_acknowledged_failure _ _ _ _ _)

/-- The step of a stream that a command takes is clean. -/
def StreamsCleanly (outside : Outside) (worker : Protocol2Worker) : Command → Prop
  | .playerStep request => StepsCleanly outside worker request
  | .deckProcess request => ProcessesCleanly outside worker request
  | _ => True

theorem Protocol2Worker.PlaysFrom.of_enter {request : Control.PlayerStep}
    {player : PlayerSession} {held : SourceHandle × ProfileReceipt} {slotCount : Int} {slot : Nat}
    (plays : (worker.enter envelope).PlaysFrom request player held slotCount slot) :
    worker.PlaysFrom request player held slotCount slot :=
  ⟨plays.ready, plays.required, plays.asked, plays.measured, plays.next⟩

/-- Entering a command does not matter for whether its step is clean. -/
theorem StreamsCleanly.enter (clean : StreamsCleanly outside worker command) (envelope : Envelope) :
    StreamsCleanly outside (worker.enter envelope) command := by
  cases command with
  | playerStep request =>
    intro player held slotCount slot plays
    have cleanly := clean player held slotCount slot plays.of_enter
    refine ⟨cleanly.1, fun tensor batch made => ?_⟩
    obtain ⟨place, completes⟩ := cleanly.2 tensor batch made
    exact ⟨place, completes.published, completes.numbered, completes.sequence, completes.playhead,
      completes.placed⟩
  | deckProcess request =>
    intro deck tensors receipt read
    obtain ⟨result, batch, place, operated, takes, finishes, completes, tells⟩ :=
      clean deck tensors receipt read
    exact ⟨result, batch, place, operated, takes, finishes, completes, tells.numbered,
      tells.sequence, tells.playheads, tells.placed, tells.controls, tells.provenance⟩
  | _ => exact trivial

/-- The step that a command takes in its stream, if it takes one, is clean. -/
def CleanStream (step : Step Protocol2Worker (Outside × Envelope) (Except Raised Reply)) : Prop :=
  ∀ command, step.input.2.message = .command command →
    StreamsCleanly step.input.1 step.before command

/-- A session that has stepped: one batch was published, for the playhead positions that it had,
and it moved on by one in its stream. -/
def Stepped (outside : Outside) (before after : Protocol2Worker) : Command → Prop
  | .playerStep request => PlayerStepped outside request before after
  | .deckProcess request => DeckStepped outside request before after
  | _ => True

theorem Stepped.of_enter {after : Protocol2Worker}
    (stepped : Stepped outside (before.enter envelope) after command) :
    Stepped outside before after command := by
  cases command with
  | playerStep request =>
    obtain ⟨player, held, slotCount, slot, tensor, batch, place, plays, rest⟩ := stepped
    exact ⟨player, held, slotCount, slot, tensor, batch, place, plays.of_enter, rest⟩
  | deckProcess request => exact stepped
  | _ => exact trivial

/-- A step of a stream that is answered with an error leaves the position as it was, and one that
is acknowledged has published one batch. -/
structure StepsTransactionally (step : Step Protocol2Worker (Outside × Envelope)
    (Except Raised Reply)) : Prop where
  unmoved : ∀ command, step.input.2.message = .command command →
    stepsStream command.name = true → ¬ Acknowledged step.output →
      step.after.position = step.before.position
  stepped : ∀ command, step.input.2.message = .command command →
    stepsStream command.name = true → Acknowledged step.output →
      Stepped step.input.1 step.before step.after command

/-- What a step does to the number of steps acknowledged since its stream began. -/
def tally (count : Nat) (step : Step Protocol2Worker (Outside × Envelope) (Except Raised Reply)) :
    Nat :=
  if step.after.stream ≠ step.before.stream then 0
  else if (carriedSequence step.output).isSome then count + 1
  else count

/-- The number of steps that were acknowledged since the last stream began. -/
def acknowledgedSteps
    (made : List (Step Protocol2Worker (Outside × Envelope) (Except Raised Reply))) : Nat :=
  made.foldl tally 0

/-- The session is numbered by its acknowledged steps. -/
structure Tallied (count : Nat) (worker : Protocol2Worker) : Prop where
  coherent : worker.Coherent
  numbered : ∀ position, worker.position = some position → position.sequence = count

/-- A clean step of a coherent worker is a transaction. -/
theorem turn_steps (before : Protocol2Worker) (input : Outside × Envelope)
    (coherent : before.Coherent) (clean : CleanStream (stepOf turn before input)) :
    StepsTransactionally (stepOf turn before input) := by
  have entered : (before.enter input.2).Coherent :=
    coherent.of_books (onlyBooks_enter before input.2)
  have ends : ∀ command, input.2.message = .command command →
      stepsStream command.name = true →
        (Acknowledged (turn before input).1 ∧
          Stepped input.1 before (turn before input).2 command) ∨
        (¬ Acknowledged (turn before input).1 ∧
          (turn before input).2.position = before.position) := by
    intro command message stepping
    have asked := (clean command message).enter input.2
    refine turn_ends message (fun state => Stepped input.1 before state command)
      (fun state => state.position = before.position) ?_ ?_ rfl fun _ => ?_
    · intro first second books stepped
      rw [books]
      cases command with
      | playerStep request => exact stepped
      | deckProcess request => exact stepped
      | _ => exact trivial
    · intro first second books same
      rw [books]
      exact same
    · cases command with
      | playerStep request =>
        refine (playerStep_clean entered request asked).mono (fun value state ended => ?_)
          (fun _ _ same => same)
        have stepped : Stepped input.1 (before.enter input.2) state (.playerStep request) := ended.2
        exact ⟨ended.1, stepped.of_enter⟩
      | deckProcess request =>
        refine (deckProcess_clean entered request asked).mono (fun value state ended => ?_)
          (fun _ _ same => same)
        have stepped : Stepped input.1 (before.enter input.2) state (.deckProcess request) :=
          ended.2
        exact ⟨ended.1, stepped.of_enter⟩
      | _ => exact nomatch stepping
  refine ⟨fun command message stepping failed => ?_,
    fun command message stepping acknowledged => ?_⟩
  · cases ends command message stepping with
    | inl accepted => exact absurd accepted.1 failed
    | inr left => exact left.2
  · cases ends command message stepping with
    | inl accepted => exact accepted.2
    | inr left => exact absurd acknowledged left.1

/-- The position after a step is the next one of the same stream. -/
theorem Stepped.position {after : Protocol2Worker} (stepped : Stepped outside before after command)
    (stepping : stepsStream command.name = true) (earlier : before.Coherent)
    (later : after.Coherent) :
    ∃ old new, before.position = some old ∧ after.position = some new ∧
      new.sessionId = old.sessionId ∧ new.generation = old.generation ∧
      new.sequence = old.sequence + 1 := by
  cases command with
  | playerStep request =>
    obtain ⟨player, held, slotCount, slot, tensor, batch, place, plays, -, -, moved⟩ := stepped
    refine ⟨player.position, ({ player with
      sequence := player.sequence + 1, playhead := slot + 1, state := .playing } :
        PlayerSession).position, ?_, ?_, rfl, rfl, rfl⟩
    · rw [Sessions.position, (player_of_require plays.required).1]
      rfl
    · rw [Sessions.position, moved]
      rfl
  | deckProcess request =>
    obtain ⟨deck, tensors, receipt, result, batch, place, moved, read, -, -, -, there, at_⟩ :=
      stepped
    have loaded := (deck_of_require (deckRead_eq_ok read).1).1
    refine ⟨deck.position, moved.position, ?_, ?_, ?_, ?_, ?_⟩
    · rw [Sessions.position, earlier.sessions.no_player loaded, loaded]
      rfl
    · rw [Sessions.position, later.sessions.no_player there, there]
      rfl
    · rw [at_]
      rfl
    · rw [at_]
      rfl
    · rw [at_]
      rfl
  | _ => cases stepping

/-- A turn without a step keeps the stream, if its reset is clean. -/
theorem turn_keepsStream (before : Protocol2Worker) (input : Outside × Envelope)
    (coherent : before.Coherent) (clean : CleanReset (stepOf turn before input))
    (other : ∀ command, input.2.message = .command command → stepsStream command.name = false) :
    KeepsStream before.toSessions (turn before input).2.toSessions := by
  refine @Turn.preserves _ _ _ _ (turn_spec input.1 input.2 before)
    (fun state => KeepsStream before.toSessions state.toSessions) ?_ (Or.inl rfl)
    fun command carried _ => ?_
  · intro first second books keeps
    rw [books]
    exact keeps
  · have entered : (before.enter input.2).Coherent :=
      coherent.of_books (onlyBooks_enter before input.2)
    exact operation_keepsStream input.1 entered carried.admissible
      (other command carried.message) ((clean command carried.message).enter input.2)

/-- A clean step keeps the tally, and the number that it carries is the next one. -/
theorem turn_tallies {count : Nat} {input : Outside × Envelope} (tallied : Tallied count before)
    (reset : CleanReset (stepOf turn before input))
    (clean : CleanStream (stepOf turn before input)) :
    Tallied (tally count (stepOf turn before input)) (turn before input).2 ∧
      ∀ number, carriedSequence (turn before input).1 = some number → number = count + 1 := by
  have later := turn_coheres before input tallied.coherent
  have spec := turn_spec input.1 input.2 before
  have transacts := turn_steps before input tallied.coherent clean
  cases carried : carriedSequence (turn before input).1 with
  | some number =>
    have acknowledged := acknowledged_of_carried carried
    obtain ⟨command, message, stepping, position, at_, same⟩ :=
      carriedSequence_turn spec later carried
    obtain ⟨old, new, was, is, named, generated, moved⟩ :=
      (transacts.stepped command message stepping acknowledged).position stepping tallied.coherent
        later
    have before_ := tallied.numbered old was
    have there : new = position := Option.some.inj (is.symm.trans at_)
    have stream : (turn before input).2.stream = before.stream := by
      have is : (turn before input).2.position = some new := is
      have was : before.position = some old := was
      unfold Sessions.stream
      rw [is, was]
      simp only [Option.map_some, named, generated]
    have tallies : tally count (stepOf turn before input) = count + 1 := by
      have here : carriedSequence (stepOf turn before input).output = some number := carried
      have kept : (stepOf turn before input).after.stream =
        (stepOf turn before input).before.stream := stream
      rw [tally, here, if_neg (fun differs => differs kept)]
      rfl
    refine ⟨⟨later, fun other found => ?_⟩, fun other equal => ?_⟩
    · have same : other = position := Option.some.inj (found.symm.trans at_)
      rw [tallies, same, ← there, moved, before_]
    · cases equal
      rw [← same, ← there, moved, before_]
  | none =>
    have keeps : KeepsStream before.toSessions (turn before input).2.toSessions := by
      by_cases stepping : ∃ command, input.2.message = .command command ∧
          stepsStream command.name = true
      · obtain ⟨command, message, stepping⟩ := stepping
        refine Or.inl (transacts.unmoved command message stepping fun acknowledged => ?_)
        have number := carried_of_acknowledged spec later acknowledged message stepping
        rw [carried] at number
        exact nomatch number
      · refine turn_keepsStream before input tallied.coherent reset fun command message => ?_
        cases decided : stepsStream command.name with
        | false => rfl
        | true => exact absurd ⟨command, message, decided⟩ stepping
    have silent : carriedSequence (stepOf turn before input).output = none := carried
    refine ⟨⟨later, fun position at_ => ?_⟩, nofun⟩
    rw [tally, silent]
    by_cases stream : (stepOf turn before input).after.stream ≠
        (stepOf turn before input).before.stream
    · rw [if_pos stream]
      cases keeps with
      | inl same =>
        refine absurd ?_ stream
        show Option.map _ (turn before input).2.position = Option.map _ before.position
        rw [same]
      | inr begins => exact begins.2 position at_
    · rw [if_neg stream]
      cases keeps with
      | inl same => exact tallied.numbered position (same ▸ at_)
      | inr begins => exact absurd begins.1 stream

section Created

variable {platform : Platform} {sessionId : Uuid} {codecs : List TrustedCodecEntrypoint}
  {decks : List TrustedDeckEntrypoint} {start : Protocol2Worker}
  (created : Protocol2Worker.create platform sessionId codecs decks = .ok start)

include created

theorem position_of_created : start.position = none := by
  obtain ⟨-, codecs, decks, rfl⟩ := fresh_of_created created
  rfl

/-- In every run a clean step is acknowledged with one batch for the position of its session, or
leaves the position as it was. After clean steps and resets the acknowledged steps of a stream are
numbered from one without gaps. -/
theorem clean_steps_are_transactional (inputs : List (Outside × Envelope)) :
    (∀ step ∈ steps turn start inputs, CleanStream step → StepsTransactionally step) ∧
      ∀ earlier input,
        (∀ step ∈ steps turn start (earlier ++ [input]), CleanReset step ∧ CleanStream step) →
          ∀ number, carriedSequence (turn (final turn start earlier) input).1 = some number →
            number = acknowledgedSteps (steps turn start earlier) + 1 := by
  refine ⟨fun step member cleanly => ?_, fun earlier input clean number carried => ?_⟩
  · have around := (run_coheres created inputs).2 step member
    rw [step_eq start inputs step member] at cleanly ⊢
    exact turn_steps _ _ around.1 cleanly
  · rw [steps_append] at clean
    have before : ∀ step ∈ steps turn start earlier, CleanReset step ∧ CleanStream step :=
      fun step member => clean step (List.mem_append_left _ member)
    have here := clean (stepOf turn (final turn start earlier) input)
      (List.mem_append_right _ List.mem_cons_self)
    have fresh : Tallied 0 start := by
      refine ⟨created_coheres created, fun position at_ => ?_⟩
      rw [position_of_created created] at at_
      exact nomatch at_
    have tallied := observed_under (fun step => CleanReset step ∧ CleanStream step) tally Tallied
      (fun count before input holds met => (turn_tallies holds met.1 met.2).1) earlier start 0 fresh
      before
    exact (turn_tallies tallied here.1 here.2).2 number carried

end Created

/-- A step of a player that is clean for a reason seen at once: its slot is decoded and published,
and the counters fit on the wire. -/
def readyToStep (outside : Outside) (worker : Protocol2Worker) : Incoming → Bool
  | .command (.deckProcess _) => false
  | .command (.playerStep request) =>
      fits worker.outgoingSequence 1 && worker.player.all fun player =>
        (worker.sessionSource player.source).toOption.all fun held =>
          held.1.slotCount.toOption.all fun slotCount =>
            (player.nextSlot slotCount).all fun slot =>
              (worker.slotDecoded outside player held slot
                request.maximumDecodedFrames.toNat).toOption.any fun made =>
                (worker.publishedAt outside player.sessionId player.streamGeneration
                  (player.sequence + 1) made.2).toOption.any fun place =>
                  player.sequence + 1 < 2 ^ 64 && slot + 1 < 2 ^ 64 && place.2 < 2 ^ 64
  | _ => true

/-- A player whose slot is decoded and published steps cleanly. -/
theorem clean_of_readyToStep (ready : readyToStep outside worker (.command command) = true) :
    StreamsCleanly outside worker command := by
  cases command with
  | playerStep request =>
    intro player held slotCount slot plays
    simp only [readyToStep, Bool.and_eq_true, (player_of_require plays.required).1,
      Option.all_some, plays.asked, plays.measured, plays.next, Except.toOption] at ready
    have numbered := ready.1
    cases made : worker.slotDecoded outside player held slot
        request.maximumDecodedFrames.toNat with
    | error raised =>
      have never := ready.2
      rw [made] at never
      cases never
    | ok decoded =>
      have published := ready.2
      rw [made] at published
      simp only [Option.any_some] at published
      refine ⟨fun _ => ⟨decoded.1, decoded.2, rfl⟩, fun tensor batch same => ?_⟩
      cases same
      cases there : worker.publishedAt outside player.sessionId player.streamGeneration
          (player.sequence + 1) batch with
      | error raised =>
        rw [there] at published
        cases published
      | ok place =>
        rw [there] at published
        simp only [Option.any_some, Bool.and_eq_true, decide_eq_true_eq] at published
        exact ⟨place, there, numbered, published.1.1, published.1.2, published.2⟩
  | deckProcess request => cases ready
  | _ => exact trivial

/-- The sample run in which a player steps through its loop, is reset and steps again. -/
def playedThroughLoop : List (Outside × Envelope) :=
  sampleInputs ((samplePlaying ++ [sampleRing, .playerStep ⟨9, 1, 1⟩, .playerStep ⟨9, 1, 1⟩,
    .playerStep ⟨9, 1, 1⟩, .playerReset ⟨9, 5⟩, .playerStep ⟨9, 5, 1⟩]).map (sampleOutside 7, ·))

/-- The steps of the sample run are transactions and are numbered in each stream. -/
theorem clean_steps_are_transactional_sample :
    (∀ step ∈ steps turn sampleWorker playedThroughLoop,
      CleanReset step ∧ StepsTransactionally step) ∧
      (steps turn sampleWorker playedThroughLoop).filterMap (carriedSequence ·.output) =
        [1, 2, 3, 1] := by
  refine ⟨fun step member => ?_, by decide +kernel⟩
  have all : (steps turn sampleWorker playedThroughLoop).all (fun step =>
      readyToReset step.before step.input.2.message &&
        readyToStep step.input.1 step.before step.input.2.message) = true := by decide +kernel
  have here := List.all_eq_true.mp all step member
  simp only [Bool.and_eq_true] at here
  refine ⟨fun command message => ?_, (clean_steps_are_transactional sampleWorker_created
    playedThroughLoop).1 step member fun command message => ?_⟩
  · rw [message] at here
    exact clean_of_readyToReset here.1
  · rw [message] at here
    exact clean_of_readyToStep here.2

/-- The sample run in which a deck is processed before its ring is configured, and once more
after. -/
def processedWithoutRing : List (Outside × Envelope) :=
  sampleInputs ((sampleDecked ++ [Command.deckProcess ⟨9, 1, 1⟩, sampleRing,
    .deckProcess ⟨9, 1, 1⟩]).map (sampleOutside 7, ·))

/-- A deck that is processed without a ring is answered with an error and counts the step, so the
first acknowledged step carries the number two. -/
theorem failed_process_is_counted :
    ¬ (∀ step ∈ steps turn sampleWorker processedWithoutRing, StepsTransactionally step) ∧
      (steps turn sampleWorker processedWithoutRing).filterMap (carriedSequence ·.output) =
        [2] := by
  refine ⟨fun transactional => ?_, by decide +kernel⟩
  let failing := (steps turn sampleWorker processedWithoutRing).dropLast.dropLast.getLast?
  have seen : failing.map (fun step => (step.before.deck.map (·.sequence),
      step.after.deck.map (·.sequence))) = some (some 0, some 1) := by decide +kernel
  have alone : failing.all (fun step => step.before.player.isNone && step.after.player.isNone) =
      true := by decide +kernel
  have asked : failing.map (fun step => step.input.2.message) =
      some (.command (.deckProcess ⟨9, 1, 1⟩)) := rfl
  have refused : failing.all (fun step => step.output.toOption.all (!·.isAck)) = true := by
    decide +kernel
  cases found : failing with
  | none =>
    rw [found] at seen
    cases seen
  | some step =>
    rw [found] at seen alone asked refused
    have member : step ∈ steps turn sampleWorker processedWithoutRing :=
      List.dropLast_subset _ (List.dropLast_subset _ (List.mem_of_getLast? found))
    have same := (transactional step member).unmoved _ (Option.some.inj asked) rfl ?_
    · have sequences := Option.some.inj seen
      have earlier := congrArg Prod.fst sequences
      have later := congrArg Prod.snd sequences
      have kept := congrArg (Option.map Position.sequence) same
      simp only [Option.all_some, Bool.and_eq_true, Option.isNone_iff_eq_none] at alone
      simp only [Sessions.position, alone.1, alone.2, Option.map_none, Option.none_or,
        Option.map_map] at kept
      exact absurd (later.symm.trans (Eq.trans kept earlier)) (by decide)
    · rintro ⟨reply, answered, acknowledged⟩
      simp [answered, Except.toOption, acknowledged] at refused

end LatentDeck.CodecHost
