import LatentDeck.CodecHost.Dispatch

/-!
# Turns of a worker

What one envelope can do to a worker, said once. A turn either leaves what the commands work on
alone, or it carries one operation out and adds to the books that are kept about messages.
-/

namespace LatentDeck.CodecHost

open Effect Run
open Control (Uuid CommandName)

/-- The books that `handle_envelope` keeps. -/
structure Books where
  sessionState : Control.SessionState
  incomingSequence : Nat
  outgoingSequence : Nat
  seenMessageIds : List Uuid
  commandResults : Dict Uuid CommandName
  metrics : Metrics

def Protocol2Worker.withBooks (worker : Protocol2Worker) (books : Books) : Protocol2Worker :=
  { worker with
    sessionState := books.sessionState
    incomingSequence := books.incomingSequence
    outgoingSequence := books.outgoingSequence
    seenMessageIds := books.seenMessageIds
    commandResults := books.commandResults
    metrics := books.metrics }

def Protocol2Worker.books (worker : Protocol2Worker) : Books :=
  ⟨worker.sessionState, worker.incomingSequence, worker.outgoingSequence, worker.seenMessageIds,
    worker.commandResults, worker.metrics⟩

def OnlyBooks (before after : Protocol2Worker) : Prop :=
  after = before.withBooks after.books

theorem OnlyBooks.trans {first second third : Protocol2Worker} (earlier : OnlyBooks first second)
    (later : OnlyBooks second third) : OnlyBooks first third := by
  unfold OnlyBooks at *
  rw [later, earlier]
  rfl

/-- The worker after an envelope was admitted. -/
def Protocol2Worker.accept (worker : Protocol2Worker) (envelope : Envelope) : Protocol2Worker :=
  { worker with
    seenMessageIds := envelope.messageId :: worker.seenMessageIds
    incomingSequence := worker.incomingSequence + 1 }

/-- The worker in which the operation of an admitted command starts. -/
def Protocol2Worker.enter (worker : Protocol2Worker) (envelope : Envelope) : Protocol2Worker :=
  { worker.accept envelope with metrics := { worker.metrics with
    commandsTotal := worker.metrics.commandsTotal + 1 } }

def Protocol2Worker.fail (worker : Protocol2Worker) (raised : Raised) : Protocol2Worker :=
  { worker with
    metrics := { worker.metrics with
      commandsFailedTotal := worker.metrics.commandsFailedTotal + 1 }
    sessionState := if raised.faults then .faulted else worker.sessionState }

/-- The worker after it took a sequence number for a reply. -/
def Protocol2Worker.sent (worker : Protocol2Worker) : Protocol2Worker :=
  { worker with outgoingSequence := worker.outgoingSequence + 1 }

def Protocol2Worker.makeReply (worker : Protocol2Worker) (outside : Outside) (replyId : FreshId)
    (message : ReplyMessage) : Reply :=
  ⟨worker.sessionId, worker.outgoingSequence, replyId.val, outside.uptimeNs.toNat, message⟩

theorem onlyBooks_enter (worker : Protocol2Worker) (envelope : Envelope) :
    OnlyBooks worker (worker.enter envelope) := rfl

theorem onlyBooks_remember (worker : Protocol2Worker) (messageId : Uuid) (name : CommandName)
    (value : CommandValue) : OnlyBooks worker (worker.remember messageId name value) := by
  cases value <;> rfl

/-- A reply is made and sent, or it is not admissible. -/
theorem ending_reply (outside : Outside) (replyId : FreshId) (message : ReplyMessage)
    (worker : Protocol2Worker) :
    ending (reply outside replyId message) worker =
      (if (worker.makeReply outside replyId message).admissible outside.platform then
          .ok (worker.makeReply outside replyId message)
        else .error .other, worker.sent) := by
  refine (leads_ending fun ended => ended = _).mp ?_
  rw [reply]
  refine leads_read (fun made same => ?_) nofun
  cases same
  rw [leads_bind, leads_modify, leads_bind, leads_demand]
  by_cases admissible :
      (worker.makeReply outside replyId message).admissible outside.platform = true
  · rw [if_pos admissible]
    exact ⟨fun _ => rfl, fun refused => absurd admissible refused⟩
  · rw [if_neg admissible]
    exact ⟨fun accepted => absurd accepted admissible, fun _ => rfl⟩

def Protocol2Worker.failureReply (worker : Protocol2Worker) (outside : Outside) (replyTo : Uuid)
    (name : CommandName) (raised : Raised) : Reply :=
  (worker.fail raised).makeReply outside outside.errorReplyId (.error replyTo name
    ⟨answeredError name raised, (worker.fail raised).status, outside.diagnosticId.val⟩)

/-- A failure is counted and reported, unless the report is not admissible. -/
theorem ending_answerFailure (outside : Outside) (replyTo : Uuid) (name : CommandName)
    (raised : Raised) (worker : Protocol2Worker) :
    ending (answerFailure outside replyTo name raised) worker =
      (if (worker.failureReply outside replyTo name raised).admissible outside.platform then
          .ok (worker.failureReply outside replyTo name raised)
        else .error .other, (worker.fail raised).sent) := by
  have counted : ending (answerFailure outside replyTo name raised) worker =
      ending (errorReply outside replyTo name (answeredError name raised))
        (worker.fail raised) := by
    unfold answerFailure Protocol2Worker.fail
    by_cases faults : raised.faults = true
    · simp only [whenever, faults, if_true]
      rfl
    · simp only [whenever, faults]
      rfl
  rw [counted]
  exact ending_reply outside outside.errorReplyId _ (worker.fail raised)

def Acknowledged (answer : Except Raised Reply) : Prop :=
  ∃ reply, answer = .ok reply ∧ reply.isAck = true

theorem not_acknowledged_failure (outside : Outside) (replyTo : Uuid) (name : CommandName)
    (raised : Raised) (worker : Protocol2Worker) :
    ¬ Acknowledged (ending (answerFailure outside replyTo name raised) worker).1 := by
  rw [ending_answerFailure]
  intro ⟨made, same, acknowledged⟩
  by_cases admissible :
      (worker.failureReply outside replyTo name raised).admissible outside.platform = true
  · rw [if_pos admissible] at same
    cases same
    exact nomatch acknowledged
  · rw [if_neg admissible] at same
    exact nomatch same

/-- One turn: the answer to an envelope and the worker after it. An exception that escapes leaves
the worker as it is by then. -/
def turn (worker : Protocol2Worker) (input : Outside × Envelope) :
    Except Raised Reply × Protocol2Worker :=
  ending (handleEnvelope input.1 input.2) worker

/-- A command passes the gates of `_dispatch`. -/
structure Protocol2Worker.Carries (worker : Protocol2Worker) (outside : Outside)
    (envelope : Envelope) (command : Command) : Prop where
  message : envelope.message = .command command
  admissible : command.admissible outside.platform = true
  running : worker.shutdown = false
  configured : command.name = .sessionConfigure ∨ worker.sessionState ≠ .unconfigured
  sequence : envelope.sequence.toNat = worker.incomingSequence

/-- The acknowledgement that the worker makes of what an operation returned. -/
def Protocol2Worker.acknowledgement (worker : Protocol2Worker) (outside : Outside)
    (envelope : Envelope) (command : Command) (value : CommandValue) (payload : Ack) : Reply :=
  let remembered := worker.remember envelope.messageId command.name value
  remembered.makeReply outside outside.replyId
    (.ack envelope.messageId command.name payload remembered.status)

/-- The errors of an envelope whose operation does not start. -/
def gateErrors : List WorkerRuntimeError :=
  [(.protocolInvalidMessage, "command belongs to another session"),
    (.protocolInvalidMessage, "command sequence is not contiguous"),
    (.protocolInvalidMessage, "message ID was already consumed"),
    (.protocolInvalidMessage, "worker accepts command envelopes only"),
    (.stateBusy, "worker is stopped"),
    (.sessionNotConfigured, "session.configure must run first")].map
    fun entry => ⟨entry.1, boundedErrorText entry.2, false, false, []⟩

inductive Turn (outside : Outside) (envelope : Envelope) (before : Protocol2Worker) :
    Except Raised Reply × Protocol2Worker → Prop
  | escaped (refused : ¬ envelope.admissible outside.platform = true) :
      Turn outside envelope before (.error .other, before)
  | refused (entered : Protocol2Worker) (books : OnlyBooks before entered)
      (state : entered.sessionState = before.sessionState) (name : CommandName)
      (error : WorkerRuntimeError) (gate : error ∈ gateErrors) :
      Turn outside envelope before
        (ending (answerFailure outside envelope.messageId name (.runtime error)) entered)
  | raised (command : Command) (carried : before.Carries outside envelope command)
      (raised : Raised) (after : Protocol2Worker)
      (ended : operation outside command (before.enter envelope) = .error raised after) :
      Turn outside envelope before
        (ending (answerFailure outside envelope.messageId command.name raised) after)
  | unbuilt (command : Command) (carried : before.Carries outside envelope command)
      (value : CommandValue) (after : Protocol2Worker)
      (ended : operation outside command (before.enter envelope) = .ok value after)
      (raised : Raised)
      (missing : (after.remember envelope.messageId command.name value).ackPayload value command =
        .error raised) :
      Turn outside envelope before
        (ending (answerFailure outside envelope.messageId command.name raised)
          (after.remember envelope.messageId command.name value))
  | unsent (command : Command) (carried : before.Carries outside envelope command)
      (value : CommandValue) (after : Protocol2Worker)
      (ended : operation outside command (before.enter envelope) = .ok value after)
      (payload : Ack)
      (built : (after.remember envelope.messageId command.name value).ackPayload value command =
        .ok payload)
      (refused : ¬ (after.acknowledgement outside envelope command value payload).admissible
        outside.platform = true) :
      Turn outside envelope before
        (ending (answerFailure outside envelope.messageId command.name .other)
          (after.remember envelope.messageId command.name value).sent)
  | acknowledged (command : Command) (carried : before.Carries outside envelope command)
      (value : CommandValue) (after : Protocol2Worker)
      (ended : operation outside command (before.enter envelope) = .ok value after)
      (payload : Ack)
      (built : (after.remember envelope.messageId command.name value).ackPayload value command =
        .ok payload)
      (accepted : (after.acknowledgement outside envelope command value payload).admissible
        outside.platform = true) :
      Turn outside envelope before
        (.ok (after.acknowledgement outside envelope command value payload),
          (after.remember envelope.messageId command.name value).sent)

variable {outside : Outside} {envelope : Envelope} {before : Protocol2Worker}

/-- The reply to an operation that returned is sent, or reported as a failure. -/
theorem leads_acknowledgement {command : Command}
    (carried : before.Carries outside envelope command) {value : CommandValue}
    {after : Protocol2Worker}
    (ended : operation outside command (before.enter envelope) = .ok value after) {payload : Ack}
    (built : (after.remember envelope.messageId command.name value).ackPayload value command =
      .ok payload) :
    Leads (reply outside outside.replyId (.ack envelope.messageId command.name payload
        (after.remember envelope.messageId command.name value).status))
      (after.remember envelope.messageId command.name value)
      (fun made state => Turn outside envelope before (.ok made, state))
      (fun raised state => Leads (answerFailure outside envelope.messageId command.name raised)
        state (fun made state => Turn outside envelope before (.ok made, state))
        (fun raised state => Turn outside envelope before (.error raised, state))) := by
  have sent := ending_reply outside outside.replyId (.ack envelope.messageId command.name payload
    (after.remember envelope.messageId command.name value).status)
    (after.remember envelope.messageId command.name value)
  by_cases accepted :
      (after.acknowledgement outside envelope command value payload).admissible
        outside.platform = true
  · rw [if_pos (by exact accepted)] at sent
    exact leads_of_returned sent
      (.acknowledged command carried value after ended payload built accepted)
  · rw [if_neg (by exact accepted)] at sent
    exact leads_of_raised sent ((leads_ending _).mpr
      (.unsent command carried value after ended payload built accepted))

theorem leads_answerCommand {command : Command} (message : envelope.message = .command command)
    (admissible : command.admissible outside.platform = true)
    (sequence : envelope.sequence.toNat = before.incomingSequence) :
    Turn outside envelope before
      (ending (answerCommand outside envelope.messageId (.ok command))
        (before.accept envelope)) := by
  refine (leads_ending (Turn outside envelope before)).mp ?_
  rw [answerCommand, leads_catching, acknowledge, leads_bind, leads_modify,
    leads_bind, dispatch, leads_bind, leads_require]
  refine ⟨fun running => ?_, fun stopped => (leads_ending _).mpr
    (.refused _ (onlyBooks_enter before envelope) rfl command.name _ (by simp [gateErrors]))⟩
  rw [leads_bind, leads_require]
  refine ⟨fun configured => ?_, fun unconfigured => (leads_ending _).mpr
    (.refused _ (onlyBooks_enter before envelope) rfl command.name _ (by simp [gateErrors]))⟩
  have carried : before.Carries outside envelope command := by
    refine ⟨message, admissible, by simpa [Protocol2Worker.accept] using running, ?_, sequence⟩
    simpa [Protocol2Worker.accept] using configured
  rw [leads_iff]
  refine ⟨fun value after ended => ?_, fun raised after ended =>
    (leads_ending _).mpr (.raised command carried raised after ended)⟩
  rw [leads_bind, leads_modify]
  refine leads_read (fun payload built => ?_) fun raised missing =>
    (leads_ending _).mpr (.unbuilt command carried value after ended raised missing)
  refine leads_read (fun status same => ?_) nofun
  cases same
  exact leads_acknowledgement carried ended built

/-- Admission reads the command of an envelope that is next in its session. -/
theorem leads_admitCommand {returned : Except Raised Command → Protocol2Worker → Prop}
    {raised : Raised → Protocol2Worker → Prop}
    (accepted : ∀ command, envelope.message = .command command →
      envelope.sequence.toNat = before.incomingSequence →
        returned (.ok command) (before.accept envelope))
    (refused : ∀ error entered, error ∈ gateErrors → OnlyBooks before entered →
      entered.sessionState = before.sessionState → returned (.error (.runtime error)) entered) :
    Leads (admitCommand envelope) before returned raised := by
  rw [admitCommand, leads_catching, leads_bind, validateIncoming, leads_bind, leads_require]
  refine ⟨fun _ => ?_, fun _ => refused _ before (by simp [gateErrors]) rfl rfl⟩
  rw [leads_bind, leads_require]
  refine ⟨fun sequence => ?_, fun _ => refused _ before (by simp [gateErrors]) rfl rfl⟩
  rw [leads_bind, leads_require]
  refine ⟨fun _ => ?_, fun _ => refused _ before (by simp [gateErrors]) rfl rfl⟩
  rw [leads_modify, leads_bind, leads_check]
  cases message : envelope.message with
  | command command =>
    refine ⟨fun found same => ?_, nofun⟩
    cases same
    exact accepted command message (by simpa using sequence)
  | other =>
    refine ⟨nofun, fun error same => ?_⟩
    cases same
    exact refused _ (before.accept envelope) (by simp [gateErrors]) rfl rfl

theorem turn_spec (outside : Outside) (envelope : Envelope) (before : Protocol2Worker) :
    Turn outside envelope before (turn before (outside, envelope)) := by
  refine (leads_ending (Turn outside envelope before)).mp ?_
  rw [handleEnvelope]
  refine leads_demanded (fun admissible => ?_) fun refused => .escaped refused
  rw [leads_bind]
  apply leads_admitCommand
  · intro command message sequence
    have wellFormed : command.admissible outside.platform = true := by
      unfold Envelope.admissible at admissible
      rw [message] at admissible
      simp only [Bool.and_eq_true] at admissible
      exact admissible.2
    exact (leads_ending _).mpr (leads_answerCommand message wellFormed sequence)
  · intro error entered gate books state
    exact (leads_ending _).mpr (.refused entered books state .sessionStatus error gate)

theorem onlyBooks_failure (outside : Outside) (replyTo : Uuid) (name : CommandName)
    (raised : Raised) (worker : Protocol2Worker) :
    OnlyBooks worker (ending (answerFailure outside replyTo name raised) worker).2 := by
  rw [ending_answerFailure]
  rfl

variable {result : Except Raised Reply × Protocol2Worker}

/-- What does not depend on the books is preserved by a turn when the operation preserves it. -/
theorem Turn.preserves
    (spec : Turn outside envelope before result) {invariant : Protocol2Worker → Prop}
    (books : ∀ first second, OnlyBooks first second → invariant first → invariant second)
    (holds : invariant before) (operates : ∀ command, before.Carries outside envelope command →
      invariant (before.enter envelope) →
      Leaves (operation outside command) (before.enter envelope) invariant) :
    invariant result.2 := by
  have entered := books _ _ (onlyBooks_enter before envelope) holds
  cases spec with
  | escaped refused => exact holds
  | refused middle changed state name error gate =>
    exact books _ _ (onlyBooks_failure _ _ _ _ _) (books _ _ changed holds)
  | raised command carried raised after ended =>
    exact books _ _ (onlyBooks_failure _ _ _ _ _)
      ((operates command carried entered).of_error ended)
  | unbuilt command carried value after ended raised missing =>
    exact books _ _ ((onlyBooks_remember after _ _ value).trans (onlyBooks_failure _ _ _ _ _))
      ((operates command carried entered).of_ok ended)
  | unsent command carried value after ended payload built refused =>
    have sent : OnlyBooks after (after.remember envelope.messageId command.name value).sent :=
      (onlyBooks_remember after _ _ value).trans rfl
    exact books _ _ (sent.trans (onlyBooks_failure _ _ _ _ _))
      ((operates command carried entered).of_ok ended)
  | acknowledged command carried value after ended payload built accepted =>
    have sent : OnlyBooks after (after.remember envelope.messageId command.name value).sent :=
      (onlyBooks_remember after _ _ value).trans rfl
    exact books _ _ sent ((operates command carried entered).of_ok ended)

theorem Turn.of_acknowledged
    (spec : Turn outside envelope before result) (acknowledged : Acknowledged result.1) :
    ∃ command value after, before.Carries outside envelope command ∧
      operation outside command (before.enter envelope) = .ok value after ∧
      OnlyBooks after result.2 := by
  cases spec with
  | escaped refused =>
    obtain ⟨reply, never, -⟩ := acknowledged
    exact nomatch never
  | acknowledged command carried value after ended payload built accepted =>
    exact ⟨command, value, after, carried, ended, (onlyBooks_remember after _ _ value).trans rfl⟩
  | _ => exact absurd acknowledged (not_acknowledged_failure _ _ _ _ _)

def reported : Except Raised Reply → Option Raised
  | .ok reply =>
      match reply.message with
      | .error _ _ payload => some (.runtime payload.error)
      | .ack .. => none
  | .error _ => none

theorem reported_failure {replyTo : Uuid} {name : CommandName} {raised : Raised}
    {worker : Protocol2Worker} {error : Raised}
    (reports : reported (ending (answerFailure outside replyTo name raised) worker).1 =
      some error) : error = .runtime (answeredError name raised) := by
  rw [ending_answerFailure] at reports
  by_cases admissible :
      (worker.failureReply outside replyTo name raised).admissible outside.platform = true
  · rw [if_pos admissible] at reports
    exact (Option.some.inj reports).symm
  · rw [if_neg admissible] at reports
    exact nomatch reports

/-- Where the exception comes from that a reply reports: the gates, the operation of the command or
its acknowledgement. -/
theorem Turn.of_reported (spec : Turn outside envelope before result) {error : Raised}
    (reports : reported result.1 = some error) :
    (∃ gate ∈ gateErrors, error = .runtime gate) ∨
      ∃ command raised, before.Carries outside envelope command ∧
        error = .runtime (answeredError command.name raised) ∧
        (raised = .other ∨
          (∃ after, operation outside command (before.enter envelope) = .error raised after) ∨
          ∃ value after, operation outside command (before.enter envelope) = .ok value after ∧
            (after.remember envelope.messageId command.name value).ackPayload value command =
              .error raised) := by
  cases spec with
  | escaped refused => exact nomatch reports
  | refused entered books state name error gate =>
    exact Or.inl ⟨error, gate, reported_failure reports⟩
  | raised command carried raised after ended =>
    exact Or.inr ⟨command, raised, carried, reported_failure reports,
      Or.inr (Or.inl ⟨after, ended⟩)⟩
  | unbuilt command carried value after ended raised missing =>
    exact Or.inr ⟨command, raised, carried, reported_failure reports,
      Or.inr (Or.inr ⟨value, after, ended, missing⟩)⟩
  | unsent command carried value after ended payload built refused =>
    exact Or.inr ⟨command, .other, carried, reported_failure reports, Or.inl rfl⟩
  | acknowledged command carried value after ended payload built accepted =>
    exact nomatch reports

/-- A platform that takes every text for what it is asked to be. -/
def samplePlatform : Platform := ⟨fun _ => true, fun _ => true, fun _ => true, some "2.0"⟩

def sampleSha256 : String := "0000000000000000000000000000000000000000000000000000000000000000"

def sampleProfile : ProfileKey := ⟨"codec", "profile", "1"⟩

def sampleDescriptor : CodecDescriptor :=
  ⟨"pack", "1", "adapter", "1", "2.0", Control.Capability.requiredCodecV2 ++ [.rawImport],
    [sampleProfile]⟩

/-- One latent value a slot and one pixel a frame. -/
def sampleGeometry : SignalGeometry := ⟨1, 1, 1, 1, 1, 1, 1, "timing", "1"⟩

def sampleReceipt (receiptId : Uuid) : ProfileReceipt where
  receiptId := receiptId
  cartridgeId := 5
  archiveSha256 := sampleSha256
  payloadSha256 := sampleSha256
  packId := "pack"
  packVersion := "1"
  adapterId := "adapter"
  adapterVersion := "1"
  profileKey := sampleProfile
  signalGeometry := sampleGeometry
  tensorAbi := ⟨"3.13", "2.0", "float32", [1, 1, 1, 1, 1], "cpu", true⟩
  decodedAbi := ⟨"rgba8", 1⟩
  capabilities := [.player, .realtime]
  estimatedHostBytes := 0
  estimatedDeviceBytes := 0

def sampleTensor : Tensor := ⟨true, [1, 1, 1, 1, 1], "float32", ("cpu", none), true, true, [0]⟩

/-- The pixel that the latent slot decodes to. -/
def sampleBatch : DecodedBatch := ⟨[0, 0, 0, 0], true, true, 1, 1, 1⟩

/-- A world in which every call succeeds; the adapter issues receipts with one id. -/
def sampleOutside (receiptId : Uuid) : Outside where
  platform := samplePlatform
  answer := fun
    | .openCartridge _ => .ok (some ⟨0, 5, sampleSha256, true⟩)
    | .importEntrypoint entrypoint =>
        .ok (some (if entrypoint = "deck:operate" then .callable else .adapter ⟨true⟩))
    | .construct _ | .importFromRoot _ _ => .ok .callable
    | .resolveRuntimeRoot _ | .stagingRoot _ => .ok ⟨false, some "/root", true⟩
    | .descriptor => .ok sampleDescriptor
    | .inspect _ => .ok ⟨5, sampleSha256, sampleSha256, sampleProfile, sampleGeometry⟩
    | .validateProfile _ _ => .ok (sampleReceipt receiptId)
    | .openSource _ _ sourceId => .ok (some ⟨1, some (sourceId, 2)⟩)
    | .readSlot _ _ _ => .ok sampleTensor
    | .decodeSlot _ _ => .ok sampleBatch
    | .createCaptureWriter _ => .ok ⟨2, true⟩
    | .finishCapture _ => .error (.sdk "capture.not_ready")
    | .preflightRawImport _ => .ok none
    | .stageRawImport _ => .ok none
    | .stagedFile _ _ => .error .other
    | .operate _ _ _ _ => .ok (some ⟨sampleTensor, .object []⟩)
    | .publish _ _ _ _ _ => .ok (some 1)
    | .closeCartridge _ | .load _ | .closeHandle _ _ | .resetDecoder _ | .appendSlot _ _ _
    | .abortCapture _ | .abortRawImport _ | .unlinkStaged _ | .configureRing _ | .discardRing _
    | .releaseRing _ | .setGeneration _ _ => .ok ()
  uptimeNs := 0
  replyId := ⟨1, rfl⟩
  errorReplyId := ⟨2, rfl⟩
  diagnosticId := ⟨3, rfl⟩

def sampleCodecs : List TrustedCodecEntrypoint := [⟨"pack", "1", "adapter", "1", "codec:adapter"⟩]

def sampleDecks : List TrustedDeckEntrypoint := [⟨"deck", "1", "operator", "1", "deck:operate"⟩]

/-- A worker that trusts the sample codec and a deck. -/
def sampleWorker : Protocol2Worker :=
  ((Protocol2Worker.create samplePlatform 1 sampleCodecs sampleDecks).toOption).getD
    (.fresh 1 .empty .empty)

theorem sampleWorker_created :
    Protocol2Worker.create samplePlatform 1 sampleCodecs sampleDecks = .ok sampleWorker := by
  have made : (Protocol2Worker.create samplePlatform 1 sampleCodecs
      sampleDecks).toOption.isSome = true := by decide +kernel
  unfold sampleWorker
  cases created : Protocol2Worker.create samplePlatform 1 sampleCodecs sampleDecks with
  | ok start => rfl
  | error raised =>
    rw [created] at made
    exact nomatch made

/-- The inputs of a run of commands, as a host numbers them. -/
def sampleInputs (commands : List (Outside × Command)) : List (Outside × Envelope) :=
  commands.zipIdx.map fun entry =>
    (entry.1.1, ⟨1, (entry.2 + 1).toUInt64, (100 + entry.2 : Nat), 0, .command entry.1.2⟩)

/-- The commands that bring the sample worker to a validated cartridge. -/
def sampleValidated : List Command :=
  [.sessionConfigure ⟨2, "1", 250, 750, 262144, 1, ⟨[.player], by decide⟩⟩,
    .codecDescriptor ⟨"pack", "1", "adapter"⟩,
    .sourceOpen ⟨4, 5, sampleSha256, 1, 1, "\x7b\x7d"⟩,
    .profileInspect ⟨4, 5, sampleSha256⟩,
    .profileValidate ⟨4, ⟨"codec", "profile", "1"⟩, ⟨[], by decide⟩⟩]

/-- The commands that bring the sample worker to a loaded codec. -/
def sampleLoaded : List Command :=
  sampleValidated ++ [.codecLoad ⟨"pack", "1", "adapter", "1", .cpu, 0, ⟨[], by decide⟩⟩]

/-- The sample cartridge as a source of a session. -/
def sampleSource (receiptId : Uuid) (loopEnabled : Bool) : Control.SourceBinding :=
  ⟨1, 4, 5, sampleSha256, receiptId, loopEnabled⟩

def sampleRing : Command := .ringConfigure ⟨6, .decodedRgba, 1, 1, 1, 2, 64⟩

/-- The commands that load a deck on the sample cartridge. -/
def sampleDecked : List Command :=
  sampleLoaded ++ [.deckLoad ⟨9, "deck", "1", "operator", "1", none, [sampleSource 7 true], [], [],
    0, 1⟩]

/-- The commands that open a player on the sample cartridge. -/
def samplePlaying : List Command := sampleLoaded ++ [.playerOpen ⟨9, sampleSource 7 true, 1⟩]

end LatentDeck.CodecHost
