import LatentDeck.CodecHost.Acceptance

/-!
# The life of a worker

Messages are taken and answered in order, every reply tells the sessions that it leaves, and a
worker that was aborted has let go of everything and carries nothing out any more.
-/

namespace LatentDeck.CodecHost

open Effect Run
open Control (Uuid)

variable {outside : Outside}

/-- What a worker has counted of its messages. -/
def Protocol2Worker.counts (worker : Protocol2Worker) : Uuid × Nat × Nat × List Uuid :=
  (worker.sessionId, worker.incomingSequence, worker.outgoingSequence, worker.seenMessageIds)

def countPart : Frame Protocol2Worker := .keeping Protocol2Worker.counts

theorem within_countPart {frame : Frame Protocol2Worker} {α : Type} {action : Act α}
    (within : Within frame action) {view : Protocol2Worker → Protocol2Worker}
    (part : frame = .keeping view) (same : ∀ worker, (view worker).counts = worker.counts) :
    Within countPart action := by
  subst part
  exact within.mono fun before after kept => (same after).symm.trans
    ((Frame.seen Protocol2Worker.counts kept).trans (same before))

theorem shutdownWorker_counts : Within countPart (shutdownWorker outside) := by
  have calls (call : Call) : Within countPart (perform outside call) :=
    within_perform (fun _ _ => rfl) outside
  refine .bind (.modify fun _ => rfl) fun _ => ?_
  refine .reads fun _ => ?_
  refine .bind (.whenSome fun capture => .whenever ?_) fun _ => ?_
  · exact .bind (.suppressing (calls _)) fun _ => .modify fun _ => rfl
  refine .bind (within_countPart (abortAllRawImports_within outside) rfl fun _ => rfl) fun _ => ?_
  refine .bind (within_countPart (closeHandles_within outside) rfl fun _ => rfl) fun _ => ?_
  refine .reads fun sources => ?_
  refine .bind (.each (fun bound : BoundCartridge =>
    calls (.closeCartridge (some bound.access))) sources) fun _ => ?_
  refine .bind (.modify fun _ => rfl) fun _ => ?_
  refine .reads fun rings => ?_
  exact .bind (.each (fun ringId => calls (.releaseRing ringId)) rings) fun _ =>
    .modify fun _ => rfl

theorem operation_counts (command : Command) : Within countPart (operation outside command) := by
  have within := operation_within outside command
  cases command with
  | sessionShutdown _ => exact .bind shutdownWorker_counts fun _ => .pure _
  | codecUnload request =>
    refine .bind (.reads fun _ => ?_) fun _ => .pure _
    refine .bind (within_countPart (abortAllRawImports_within outside) rfl fun _ => rfl) fun _ => ?_
    exact .bind (within_countPart (closeHandles_within outside) rfl fun _ => rfl) fun _ =>
      .modify fun _ => rfl
  | _ => exact within_countPart within rfl fun _ => rfl

/-- Changes that may number replies, but take no envelope. -/
def sendingPart : Frame Protocol2Worker where
  allows before after := after.sessionId = before.sessionId ∧
    after.incomingSequence = before.incomingSequence ∧
    after.seenMessageIds = before.seenMessageIds ∧ before.outgoingSequence ≤ after.outgoingSequence
  refl _ := ⟨rfl, rfl, rfl, le_refl _⟩
  trans earlier later := ⟨later.1.trans earlier.1, later.2.1.trans earlier.2.1,
    later.2.2.1.trans earlier.2.2.1, earlier.2.2.2.trans later.2.2.2⟩

/-- A reply takes a number of its own. -/
structure Sends (before after : Protocol2Worker) (told : ReplyMessage → Prop) (reply : Reply) :
    Prop where
  part : sendingPart.allows before after
  session : reply.sessionId = before.sessionId
  number : before.outgoingSequence ≤ reply.sequence ∧ reply.sequence < after.outgoingSequence
  told : told reply.message

section Answers

variable {start middle : Protocol2Worker} {told : ReplyMessage → Prop} {messageId : Uuid}

theorem leads_reply {replyId : FreshId} {message : ReplyMessage}
    (earlier : sendingPart.allows start middle) (tells : told message) :
    Leads (reply outside replyId message) middle (fun made after => Sends start after told made)
      (fun _ after => sendingPart.allows start after) := by
  have sent : sendingPart.allows start middle.sent :=
    sendingPart.trans earlier ⟨rfl, rfl, rfl, Nat.le_succ _⟩
  rw [reply]
  refine leads_read (fun made same => ?_) (by rintro _ ⟨⟩)
  cases same
  rw [leads_bind, leads_modify, leads_bind, leads_demand]
  exact ⟨fun _ => ⟨sent, earlier.1, ⟨earlier.2.2.2, Nat.lt_succ_self _⟩, tells⟩, fun _ => sent⟩

theorem leads_answerFailure {name : Control.CommandName} {raised : Raised}
    (earlier : sendingPart.allows start middle)
    (tells : ∀ payload, told (.error messageId name payload)) :
    Leads (answerFailure outside messageId name raised) middle
      (fun made after => Sends start after told made)
      (fun _ after => sendingPart.allows start after) := by
  rw [answerFailure, leads_bind, leads_modify, leads_bind, leads_whenever]
  exact ⟨fun _ => leads_read (fun _ _ => leads_reply earlier (tells _)) (by rintro _ ⟨⟩),
    fun _ => leads_read (fun _ _ => leads_reply earlier (tells _)) (by rintro _ ⟨⟩)⟩

theorem leads_answerCarried {command : Command} (earlier : sendingPart.allows start middle)
    (tells : ∀ payload status, told (.ack messageId command.name payload status))
    (fails : ∀ payload, told (.error messageId command.name payload)) :
    Leads (answerCommand outside messageId (.ok command)) middle
      (fun made after => Sends start after told made)
      (fun _ after => sendingPart.allows start after) := by
  have dispatched : Within sendingPart (dispatch outside command) :=
    .reads fun _ => .reads fun _ =>
      (operation_counts command).mono fun before after kept =>
        ⟨congrArg Prod.fst kept, congrArg (·.2.1) kept, congrArg (·.2.2.2) kept,
          ge_of_eq (congrArg (·.2.2.1) kept)⟩
  rw [answerCommand, leads_catching, acknowledge, leads_bind, leads_modify]
  refine (dispatched _).bind (fun value state kept => ?_) fun _ state kept =>
    leads_answerFailure (sendingPart.trans earlier kept) fails
  have remembered : sendingPart.allows start (state.remember messageId command.name value) := by
    refine sendingPart.trans (sendingPart.trans earlier kept) ?_
    cases value <;> exact ⟨rfl, rfl, rfl, le_refl _⟩
  rw [leads_bind, leads_modify]
  refine leads_read (fun payload _ => leads_read (fun status _ => ?_) (by rintro _ ⟨⟩))
    fun _ _ => leads_answerFailure remembered fails
  exact (leads_reply remembered (tells _ _)).mono (fun _ _ => id) fun _ _ failed =>
    leads_answerFailure failed fails

end Answers

def ReplyMessage.replyTo : ReplyMessage → Uuid
  | .ack replyTo _ _ _ => replyTo
  | .error replyTo _ _ => replyTo

/-- A turn takes the envelope that is next in its session, whose message is new. -/
structure Takes (before after : Protocol2Worker) (envelope : Envelope) : Prop where
  session : envelope.sessionId = before.sessionId
  sequence : envelope.sequence.toNat = before.incomingSequence
  fresh : envelope.messageId ∉ before.seenMessageIds
  counted : after.incomingSequence = before.incomingSequence + 1
  noted : after.seenMessageIds = envelope.messageId :: before.seenMessageIds

/-- What one turn exchanges: an envelope is taken or nothing is acknowledged, and a reply answers
this envelope under a number that was not used. -/
structure Exchanges (step : Step Protocol2Worker (Outside × Envelope) (Except Raised Reply)) :
    Prop where
  session : step.after.sessionId = step.before.sessionId
  incoming : Takes step.before step.after step.input.2 ∨
    (¬ Acknowledged step.output ∧ step.after.incomingSequence = step.before.incomingSequence ∧
      step.after.seenMessageIds = step.before.seenMessageIds)
  outgoing : step.before.outgoingSequence ≤ step.after.outgoingSequence
  answers : ∀ reply, step.output = .ok reply → reply.sessionId = step.before.sessionId ∧
    step.before.outgoingSequence ≤ reply.sequence ∧
    reply.sequence < step.after.outgoingSequence ∧ reply.message.replyTo = step.input.2.messageId

theorem turn_exchanges (before : Protocol2Worker) (input : Outside × Envelope) :
    Exchanges (stepOf turn before input) := by
  let exchanged : Except Raised Reply × Protocol2Worker → Prop := fun ended =>
    Exchanges ⟨before, input, ended.1, ended.2⟩
  have idle {after : Protocol2Worker} {raised : Raised} (part : sendingPart.allows before after) :
      exchanged (.error raised, after) := by
    refine ⟨part.1, Or.inr ⟨?_, part.2.1, part.2.2.1⟩, part.2.2.2, fun reply same => by cases same⟩
    rintro ⟨reply, same, acknowledged⟩
    cases same
  have refuses (raised : Raised) : Leads (answerCommand input.1 input.2.messageId (.error raised))
      before (fun made after => exchanged (.ok made, after))
      (fun raised after => exchanged (.error raised, after)) := by
    let told : ReplyMessage → Prop := fun message => message.replyTo = input.2.messageId ∧
      ∀ reply : Reply, reply.message = message → reply.isAck = false
    have tells (payload : ErrorPayload) :
        told (.error input.2.messageId .sessionStatus payload) :=
      ⟨rfl, fun reply same => by rw [Reply.isAck, same]⟩
    refine (leads_answerFailure (sendingPart.refl before) tells).mono
      (fun made after sends => ?_) fun _ _ part => idle part
    have unacknowledged := sends.told.2 made rfl
    refine ⟨sends.part.1, Or.inr ⟨?_, sends.part.2.1, sends.part.2.2.1⟩, sends.part.2.2.2, ?_⟩
    · rintro ⟨reply, same, acknowledged⟩
      cases same
      cases acknowledged.symm.trans unacknowledged
    · intro reply same
      cases same
      exact ⟨sends.session, sends.number.1, sends.number.2, sends.told.1⟩
  refine (leads_ending exchanged).mp ?_
  rw [handleEnvelope]
  refine leads_demanded (fun _ => ?_) fun _ => idle (sendingPart.refl before)
  rw [leads_bind, admitCommand, leads_catching, leads_bind, validateIncoming, leads_bind,
    leads_require]
  refine ⟨fun session => ?_, fun _ => refuses _⟩
  rw [leads_bind, leads_require]
  refine ⟨fun sequence => ?_, fun _ => refuses _⟩
  rw [leads_bind, leads_require]
  refine ⟨fun fresh => ?_, fun _ => refuses _⟩
  rw [leads_modify, leads_bind, leads_check]
  have takes {after : Protocol2Worker}
      (part : sendingPart.allows (before.accept input.2) after) :
      Takes before after input.2 :=
    ⟨by simpa using session, by simpa using sequence, by simpa using fresh, part.2.1, part.2.2.1⟩
  have answered {result : Except Raised Command}
      (leads : Leads (answerCommand input.1 input.2.messageId result) (before.accept input.2)
        (fun made after => Sends (before.accept input.2) after (·.replyTo = input.2.messageId) made)
        (fun _ after => sendingPart.allows (before.accept input.2) after)) :
      Leads (answerCommand input.1 input.2.messageId result) (before.accept input.2)
        (fun made after => exchanged (.ok made, after))
        (fun raised after => exchanged (.error raised, after)) := by
    refine leads.mono (fun made after sends => ?_) fun raised after part => ?_
    · refine ⟨sends.part.1, Or.inl (takes sends.part), sends.part.2.2.2, ?_⟩
      intro reply same
      cases same
      exact ⟨sends.session, sends.number.1, sends.number.2, sends.told⟩
    · exact ⟨part.1, Or.inl (takes part), part.2.2.2, fun reply same => by cases same⟩
  cases input.2.message.requireCommand with
  | ok command =>
    refine ⟨fun found same => ?_, fun error same => by cases same⟩
    cases same
    exact answered (leads_answerCarried (sendingPart.refl _) (fun _ _ => rfl) fun _ => rfl)
  | error raised =>
    refine ⟨fun found same => (by cases same), fun error same => ?_⟩
    cases same
    exact answered (leads_answerFailure (sendingPart.refl _) fun _ => rfl)

/-- Counting on: nothing that was counted is forgotten. -/
structure CountsOn (before after : Protocol2Worker) : Prop where
  outgoing : before.outgoingSequence ≤ after.outgoingSequence
  incoming : before.incomingSequence ≤ after.incomingSequence
  seen : before.seenMessageIds ⊆ after.seenMessageIds

theorem turn_countsOn (before : Protocol2Worker) (input : Outside × Envelope) :
    CountsOn before (turn before input).2 := by
  have exchanges := turn_exchanges before input
  rcases exchanges.incoming with takes | ⟨_, same, seen⟩
  · exact ⟨exchanges.outgoing, takes.counted ▸ Nat.le_succ _,
      takes.noted ▸ List.subset_cons_self _ _⟩
  · exact ⟨exchanges.outgoing, ge_of_eq same, fun _ member => seen ▸ member⟩

/-- Two steps of a run: replies are numbered upwards, and acknowledged commands have different
identifiers and were numbered upwards. -/
structure InOrder
    (earlier later : Step Protocol2Worker (Outside × Envelope) (Except Raised Reply)) : Prop where
  replies : ∀ first second, earlier.output = .ok first → later.output = .ok second →
    first.sequence < second.sequence
  sequences : Acknowledged earlier.output → Acknowledged later.output →
    earlier.input.2.sequence < later.input.2.sequence
  identifiers : Acknowledged earlier.output → Acknowledged later.output →
    earlier.input.2.messageId ≠ later.input.2.messageId

/-- The law of messages of a worker, whatever arrives and whatever foreign code answers. -/
theorem messages_in_order (start : Protocol2Worker) (inputs : List (Outside × Envelope)) :
    (∀ step ∈ steps turn start inputs, Exchanges step) ∧
      (steps turn start inputs).Pairwise InOrder := by
  have exchanges : ∀ step ∈ steps turn start inputs, Exchanges step := fun step member => by
    rw [step_eq start inputs step member]
    exact turn_exchanges _ _
  have apart := @pairwise_steps _ _ _ turn (fun _ => True) (fun _ _ _ => trivial) CountsOn
    (fun worker => ⟨le_refl _, le_refl _, List.Subset.refl _⟩)
    (fun earlier later => ⟨earlier.outgoing.trans later.outgoing,
      earlier.incoming.trans later.incoming, List.Subset.trans earlier.seen later.seen⟩)
    (fun before input _ => turn_countsOn before input) inputs start trivial
  refine ⟨exchanges, apart.imp_of_mem fun {earlier later} first second between => ?_⟩
  have sooner := exchanges earlier first
  have afterwards := exchanges later second
  have taken (one : Acknowledged earlier.output) (two : Acknowledged later.output) :
      Takes earlier.before earlier.after earlier.input.2 ∧
        Takes later.before later.after later.input.2 :=
    ⟨sooner.incoming.resolve_right fun idle => idle.1 one,
      afterwards.incoming.resolve_right fun idle => idle.1 two⟩
  refine ⟨fun first second one two => ?_, fun one two => ?_, fun one two same => ?_⟩
  · have told := (sooner.answers first one).2.2.1
    have telling := (afterwards.answers second two).2.1
    have counted := between.outgoing
    omega
  · have takes := taken one two
    rw [UInt64.lt_iff_toNat_lt, takes.1.sequence, takes.2.sequence]
    have counted := between.incoming
    have next := takes.1.counted
    omega
  · have takes := taken one two
    refine takes.2.fresh (between.seen ?_)
    rw [takes.1.noted, same]
    exact List.mem_cons_self

def ReplyMessage.status : ReplyMessage → Status
  | .ack _ _ _ status => status
  | .error _ _ payload => payload.status

/-- A turn that answers tells the sessions it leaves, which are coherent and pass on the wire. -/
structure TellsSessions (step : Step Protocol2Worker (Outside × Envelope) (Except Raised Reply)) :
    Prop where
  coherent : step.after.Coherent
  admissible : step.after.status.admissible = true
  told : ∀ reply, step.output = .ok reply → reply.message.status = step.after.status

theorem failure_tells {replyTo : Uuid} {name : Control.CommandName} {raised : Raised}
    {worker : Protocol2Worker} {reply : Reply}
    (answered : (ending (answerFailure outside replyTo name raised) worker).1 = .ok reply) :
    reply.message.status =
      (ending (answerFailure outside replyTo name raised) worker).2.status := by
  rw [ending_answerFailure] at answered ⊢
  by_cases admissible :
      (worker.failureReply outside replyTo name raised).admissible outside.platform = true
  · rw [if_pos admissible] at answered
    cases answered
    rfl
  · rw [if_neg admissible] at answered
    cases answered

theorem turn_tells (before : Protocol2Worker) (input : Outside × Envelope) {reply : Reply}
    (answered : (turn before input).1 = .ok reply) :
    reply.message.status = (turn before input).2.status := by
  have spec := turn_spec input.1 input.2 before
  generalize turn before (input.1, input.2) = result at spec answered ⊢
  cases spec with
  | escaped refused => cases answered
  | acknowledged command carried value after ended payload built accepted =>
    cases answered
    rfl
  | _ => exact failure_tells answered

/-- Whatever foreign code answers, in every run each reply tells the sessions as they are. -/
theorem replies_tell_sessions {platform : Platform} {sessionId : Uuid}
    {codecs : List TrustedCodecEntrypoint} {decks : List TrustedDeckEntrypoint}
    {start : Protocol2Worker}
    (created : Protocol2Worker.create platform sessionId codecs decks = .ok start)
    (inputs : List (Outside × Envelope)) :
    ∀ step ∈ steps turn start inputs, TellsSessions step := by
  intro step member
  have coherent := ((run_coheres created inputs).2 step member).2
  refine ⟨coherent, status_admissible coherent, fun reply answered => ?_⟩
  rw [step_eq start inputs step member] at answered ⊢
  exact turn_tells _ _ answered

theorem replies_tell_sessions_sample :
    (∀ step ∈ steps turn sampleWorker (sampleInputs (samplePlaying.map (sampleOutside 7, ·))),
      TellsSessions step) ∧
      (final turn sampleWorker (sampleInputs (samplePlaying.map (sampleOutside 7, ·)))).status.player
        = .ready :=
  ⟨replies_tell_sessions sampleWorker_created _, by decide +kernel⟩

def Protocol2Worker.CaptureOver (worker : Protocol2Worker) : Prop :=
  ∀ capture, worker.deck.bind (·.capture) = some capture →
    capture.state ∈ [.completed, .aborted]

/-- A worker that has let go of what it held. -/
structure Protocol2Worker.Released (worker : Protocol2Worker) : Prop where
  stopped : worker.shutdown = true ∧ worker.sessionState = .stopped
  bound : worker.bound = .empty
  rings : worker.rings = .empty
  imports : worker.rawImports = .empty
  capture : worker.CaptureOver

/-- A call keeps what does not look at the history, whatever it raises. -/
theorem perform_maintains {invariant : Protocol2Worker → Prop} {call : Call}
    (blind : ∀ worker answer, invariant worker → invariant (worker.record call answer)) :
    Maintains invariant (fun _ => True) (perform outside call) := fun _ holds =>
  (leads_perform outside call).mpr
    ⟨fun _ _ => blind _ _ holds, fun _ _ => ⟨blind _ _ holds, trivial⟩⟩

theorem leads_abortAllRawImports (outside : Outside) {start : Protocol2Worker}
    (finished : start.CaptureOver) :
    Leads (abortAllRawImports outside) start
      (fun _ after => after.CaptureOver ∧ after.rawImports = .empty) (fun _ _ => False) := by
  have calls (call : Call) : Maintains Protocol2Worker.CaptureOver (fun _ => True)
      (perform outside call) := perform_maintains fun _ _ finished => finished
  rw [abortAllRawImports]
  refine leads_read (fun adapter _ => leads_read (fun imports _ => ?_) (by rintro _ ⟨⟩))
    (by rintro _ ⟨⟩)
  refine (Maintains.each imports (fun importId _ => ?_) start finished).bind
    (fun _ _ finished => ⟨finished, rfl⟩) (fun _ _ failed => failed.2)
  refine Maintains.bind (Maintains.whenever (Maintains.suppressing (calls _))) fun _ => ?_
  refine Maintains.bind (Maintains.reading fun _ _ => Fallible.raises_ok _) fun admitted => ?_
  refine Maintains.bind (Maintains.modify fun _ finished => finished) fun _ => ?_
  refine Maintains.whenSome fun _ => Maintains.suppressing (Maintains.bind (calls _) fun _ => ?_)
  exact Maintains.bind (Maintains.reading fun _ _ _ _ => trivial) fun _ => calls _

/-- Sources are closed and rings released without an error, whatever the calls raise. -/
theorem leads_abandonLinks (outside : Outside) {start : Protocol2Worker}
    (cleared : start.CaptureOver ∧ start.rawImports = .empty) :
    Leads (do
      let sources ← reading fun worker => .ok worker.bound.entries
      let _ ← each (abandonSource outside) sources
      modify fun worker => { worker with bound := .empty }
      let rings ← reading fun worker => .ok worker.rings.keys
      let _ ← each (fun ringId => suppressing (perform outside (.releaseRing ringId))) rings
      modify fun worker => { worker with
        rings := .empty
        shutdown := true
        sessionState := .stopped }) start (fun _ after => after.Released) (fun _ _ => False) := by
  have closing (sources : List (Uuid × BoundCartridge)) :
      Maintains (fun worker => worker.CaptureOver ∧ worker.rawImports = .empty) (fun _ => False)
        (each (abandonSource outside) sources) := by
    refine Maintains.each sources fun source _ => ?_
    refine Maintains.bind (Maintains.whenSome fun handle => ?_) fun _ =>
      Maintains.suppressing (perform_maintains fun _ _ held => held)
    exact Maintains.bind (Maintains.suppressing (perform_maintains fun _ _ held => held)) fun _ =>
      Maintains.modify fun _ held => held
  have releasing (rings : List Uuid) :
      Maintains (fun worker => worker.bound = .empty ∧ worker.CaptureOver ∧
        worker.rawImports = .empty) (fun _ => False)
        (each (fun ringId => suppressing (perform outside (.releaseRing ringId))) rings) :=
    Maintains.each rings fun ringId _ =>
      Maintains.suppressing (perform_maintains fun _ _ held => held)
  refine leads_read (fun sources _ => ?_) (by rintro _ ⟨⟩)
  refine (closing sources start cleared).bind (fun _ state cleared => ?_) fun _ _ failed => failed.2
  rw [leads_bind, leads_modify]
  refine leads_read (fun rings _ => ?_) (by rintro _ ⟨⟩)
  have emptied : ({ state with bound := .empty } : Protocol2Worker).CaptureOver ∧
      state.rawImports = .empty := cleared
  refine (releasing rings _ ⟨rfl, emptied⟩).bind (fun _ state held => ?_) fun _ _ failed => failed.2
  exact leads_modify _ |>.mpr ⟨⟨rfl, rfl⟩, held.1, rfl, held.2.2, held.2.1⟩

theorem leads_abandon (outside : Outside) (start : Protocol2Worker) :
    Leads (abandon outside) start (fun _ after => after.Released) (fun _ _ => False) := by
  have rest (state : Protocol2Worker) (finished : state.CaptureOver) :=
    (leads_abortAllRawImports outside finished).bind
      (fun _ _ cleared => leads_abandonLinks outside cleared) fun _ _ => id
  rw [abandon]
  refine leads_read (fun deck same => ?_) (by rintro _ ⟨⟩)
  cases same
  rw [leads_bind, leads_whenSome]
  refine ⟨fun none => rest start fun capture same => ?_, fun capture held => ?_⟩
  · cases none.symm.trans same
  rw [leads_whenever]
  refine ⟨fun _ => ?_, fun finished => rest start fun other same => ?_⟩
  · rw [leads_bind, leads_suppressed_call, leads_modify]
    refine rest _ fun other same => ?_
    obtain ⟨deck, changed, holds⟩ := Option.bind_eq_some_iff.mp same
    obtain ⟨deck, loaded, rfl⟩ := Option.map_eq_some_iff.mp changed
    obtain ⟨capture, held, rfl⟩ := Option.map_eq_some_iff.mp holds
    exact List.mem_cons_of_mem _ (List.mem_singleton_self _)
  · cases held.symm.trans same
    exact not_not.mp finished

theorem leads_abortTransport (outside : Outside) (worker : Protocol2Worker) :
    Leads (abortTransport outside) worker (fun _ after =>
      worker.shutdown = true ∧ after = worker ∨ worker.shutdown = false ∧ after.Released)
      (fun _ _ => False) := by
  rw [abortTransport]
  refine leads_read (fun stopped same => ?_) (by rintro _ ⟨⟩)
  cases same
  rw [leads_whenever]
  refine ⟨fun running => (leads_abandon outside worker).mono
    (fun _ _ released => Or.inr ⟨running, released⟩) fun _ _ => id, fun stopped => ?_⟩
  exact Or.inl ⟨eq_true_of_ne_false stopped, rfl⟩

/-- A worker that shut down carries no command, so all that its turns write are its books. -/
theorem stopped_turn {worker : Protocol2Worker} (stopped : worker.shutdown = true)
    (input : Outside × Envelope) :
    OnlyBooks worker (turn worker input).2 ∧ ¬ Acknowledged (turn worker input).1 := by
  have spec := turn_spec input.1 input.2 worker
  generalize turn worker (input.1, input.2) = result at spec ⊢
  cases spec with
  | escaped refused =>
    refine ⟨rfl, ?_⟩
    rintro ⟨reply, same, acknowledged⟩
    cases same
  | refused entered books state name error gate =>
    exact ⟨books.trans (onlyBooks_failure _ _ _ _ _), not_acknowledged_failure _ _ _ _ _⟩
  | raised _ carried | unbuilt _ carried | unsent _ carried | acknowledged _ carried =>
    cases stopped.symm.trans carried.running

/-- The end of a worker: `abort_transport` never fails and leaves nothing of the session open, and
whatever arrives afterwards is only ever refused, without one more call or change outside the
books. -/
theorem aborted_worker_is_gone (outside : Outside) (worker : Protocol2Worker)
    (inputs : List (Outside × Envelope)) :
    ∃ after, abortTransport outside worker = .ok () after ∧
      (worker.shutdown = true ∧ after = worker ∨ worker.shutdown = false ∧ after.Released) ∧
      ∀ step ∈ steps turn after inputs,
        OnlyBooks after step.after ∧ ¬ Acknowledged step.output := by
  obtain ⟨_, after, ended, reached⟩ | ⟨_, _, _, impossible⟩ :=
    (leads_abortTransport outside worker).ends
  · have stopped : after.shutdown = true := by
      rcases reached with ⟨stopped, rfl⟩ | ⟨running, released⟩
      · exact stopped
      · exact released.stopped.1
    have preserved (before : Protocol2Worker) (input : Outside × Envelope)
        (same : OnlyBooks after before) : OnlyBooks after (turn before input).2 :=
      same.trans (stopped_turn (by rw [same]; exact stopped) input).1
    have books := (invariant_always _ preserved inputs after rfl).2
    refine ⟨after, ended, reached, fun step member => ⟨(books step member).2, ?_⟩⟩
    have running : step.before.shutdown = true := by
      rw [(books step member).1]
      exact stopped
    rw [step_eq after inputs step member]
    exact (stopped_turn running step.input).2
  · cases impossible

end LatentDeck.CodecHost
