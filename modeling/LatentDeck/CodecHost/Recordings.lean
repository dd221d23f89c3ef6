import LatentDeck.CodecHost.Sequences

/-!
# What a capture records

A `deck.process` appends the output of its operator to the capture of the deck before the output is
decoded and published. No other command appends. So in a run of commands that complete once their
output is appended, a capture records the outputs of the acknowledged commands, in order.
-/

namespace LatentDeck.CodecHost

open Effect Fallible Run
open Control (Uuid)

/-- Changes that append nothing to a capture. -/
def recordPart : Frame Protocol2Worker := .keeping Protocol2Worker.appended

theorem appended_of_marked {before after : Protocol2Worker}
    (same : markedEvents after.history = markedEvents before.history) :
    recordPart.allows before after := by
  have marked : ∀ history : List Event,
      (markedEvents history).filterMap Event.appended = history.filterMap Event.appended := by
    intro history
    unfold markedEvents
    rw [List.filterMap_filter]
    refine List.filterMap_congr fun event _ => ?_
    by_cases marks : event.call.marks = true
    · rw [if_pos marks]
    · rw [if_neg marks]
      exact (unmarked_event (Bool.eq_false_iff.mpr marks) event.answer).1.symm
  show after.history.filterMap Event.appended = before.history.filterMap Event.appended
  rw [← marked after.history, ← marked before.history, same]

section Parts

variable {outside : Outside}

theorem recordPart_perform {call : Call} (silent : ∀ answer, Event.appended ⟨call, answer⟩ = none) :
    Within recordPart (perform outside call) := by
  refine within_perform (fun worker answer => ?_) outside
  simp only [Protocol2Worker.appended, Protocol2Worker.record, List.filterMap_append,
    List.filterMap_cons, List.filterMap_nil, silent, List.append_nil]

theorem recordPart_changePlayer (change : PlayerSession → PlayerSession) :
    Within recordPart (changePlayer change) :=
  .bind (.modify fun _ => rfl) fun _ => .reading _

theorem recordPart_changeDeck (change : DeckSession → DeckSession) :
    Within recordPart (changeDeck change) :=
  .bind (.modify fun _ => rfl) fun _ => .reading _

theorem recordPart_changeCapture (change : CaptureSession → CaptureSession) :
    Within recordPart (changeCapture change) :=
  .bind (recordPart_changeDeck _) fun _ => within_check _

theorem recordPart_of_importPart (before after : Protocol2Worker)
    (changed : importPart.allows before after) : recordPart.allows before after :=
  appended_of_marked (Frame.seen (fun worker : Protocol2Worker => worker.history) changed)

theorem recordPart_of_handlePart (before after : Protocol2Worker)
    (changed : handlePart.allows before after) : recordPart.allows before after :=
  appended_of_marked (Frame.seen (fun worker : Protocol2Worker => worker.history) changed)

end Parts

section Commands

variable (outside : Outside)

theorem publish_records (sessionId : Uuid) (generation sequence : Nat) (batch : DecodedBatch) :
    Within recordPart (publish outside sessionId generation sequence batch) := by
  refine .reads fun ring => .reads fun _ => ?_
  refine .bind (recordPart_perform fun _ => rfl) fun answer => ?_
  exact .reads fun _ => .pure _

theorem playerStep_records (payload : Control.PlayerStep) :
    Within recordPart (playerStep outside payload) := by
  have placed : ∀ player slotCount, Within recordPart (playerAtSlot player slotCount) :=
    fun player slotCount => .ite (.pure _)
      (.ite (recordPart_changePlayer _)
        (.bind (recordPart_changePlayer _) fun _ => .throw _))
  refine .reads fun _ => .reads fun player => ?_
  refine .reads fun held => .reads fun slots => ?_
  refine .bind (placed _ _) fun player => ?_
  refine .bind (recordPart_perform fun _ => rfl) fun tensor => ?_
  refine .reads fun _ => .reads fun _ => ?_
  refine .bind (recordPart_perform fun _ => rfl) fun batch => ?_
  refine .reads fun _ => .bind (recordPart_changePlayer _) fun _ => ?_
  refine .bind (publish_records outside _ _ _ _) fun _ => ?_
  refine .bind (recordPart_changePlayer _) fun _ => ?_
  exact .bind (.modify fun _ => rfl) fun _ => .pure _

theorem playerReset_records (payload : Control.PlayerReset) :
    Within recordPart (playerReset outside payload) := by
  refine .reads fun _ => .reads fun player => ?_
  refine .reads fun _ => .reads fun ring => ?_
  refine .bind (recordPart_perform fun _ => rfl) fun _ => ?_
  refine .bind (recordPart_perform fun _ => rfl) fun _ => ?_
  exact recordPart_changePlayer _

theorem deckReset_records (payload : Control.DeckReset) :
    Within recordPart (deckReset outside payload) := by
  refine .reads fun _ => .reads fun deck => ?_
  refine .reads fun _ => ?_
  refine .bind (.whenSome fun capture => ?_) fun _ => ?_
  · refine .ite ?_ (.ite (.modify fun _ => rfl) (.throw _))
    refine .reads fun _ => ?_
    exact .bind (recordPart_changeCapture _) fun _ => .pure _
  refine .reads fun ring => ?_
  refine .bind (recordPart_perform fun _ => rfl) fun _ => ?_
  refine .bind (recordPart_perform fun _ => rfl) fun _ => ?_
  exact recordPart_changeDeck _

theorem deckRestart_records (payload : Control.DeckIdentity) :
    Within recordPart (deckRestart outside payload) := by
  refine .reads fun deck => .reads fun _ => ?_
  refine .reads fun _ => .bind (recordPart_changeDeck _) fun _ => ?_
  refine .reads fun ring => ?_
  refine .bind (recordPart_perform fun _ => rfl) fun _ => ?_
  refine .bind (recordPart_perform fun _ => rfl) fun _ => ?_
  exact recordPart_changeDeck _

theorem codecUnload_records (payload : Control.CodecUnload) :
    Within recordPart (codecUnload outside payload) := by
  refine .reads fun _ => ?_
  refine .bind ((abortAllRawImports_within outside).mono recordPart_of_importPart) fun _ => ?_
  refine .bind ((closeHandles_within outside).mono recordPart_of_handlePart) fun _ => ?_
  exact .modify fun _ => rfl

theorem shutdownWorker_records : Within recordPart (shutdownWorker outside) := by
  refine .bind (.modify fun _ => rfl) fun _ => ?_
  refine .reads fun deck => ?_
  refine .bind (.whenSome fun capture => .whenever ?_) fun _ => ?_
  · exact .bind (.suppressing (recordPart_perform fun _ => rfl)) fun _ => .modify fun _ => rfl
  refine .bind ((abortAllRawImports_within outside).mono recordPart_of_importPart) fun _ => ?_
  refine .bind ((closeHandles_within outside).mono recordPart_of_handlePart) fun _ => ?_
  refine .reads fun sources => ?_
  have closes : ∀ bound : BoundCartridge,
      Within recordPart (perform outside (.closeCartridge (some bound.access))) :=
    fun _ => recordPart_perform fun _ => rfl
  have releases : ∀ ringId, Within recordPart (perform outside (.releaseRing ringId)) :=
    fun _ => recordPart_perform fun _ => rfl
  refine .bind (.each closes sources) fun _ => ?_
  refine .bind (.modify fun _ => rfl) fun _ => ?_
  refine .reads fun rings => ?_
  refine .bind (.each releases rings) fun _ => ?_
  exact .modify fun _ => rfl

end Commands

/-- Whether a message asks for a step of a deck. -/
def Incoming.processes : Incoming → Bool
  | .command (.deckProcess _) => true
  | _ => false

variable {command : Command}

/-- Every command but `deck.process` appends nothing. -/
theorem operation_records (outside : Outside)
    (other : (Incoming.command command).processes = false) :
    Within recordPart (operation outside command) := by
  have within := operation_within outside command
  have marked : ∀ {frame : Frame Protocol2Worker}, command.part = frame →
      (∀ before after, frame.allows before after →
        markedEvents after.history = markedEvents before.history) →
        Within recordPart (operation outside command) := by
    intro frame part keeps
    rw [part] at within
    exact within.mono fun before after changed => appended_of_marked (keeps before after changed)
  have seen : ∀ {view : Protocol2Worker → Protocol2Worker} {before after : Protocol2Worker},
      (Frame.keeping view).allows before after → (view after).history = (view before).history :=
    fun changed => Frame.seen (fun worker : Protocol2Worker => worker.history) changed
  cases command with
  | deckProcess _ => exact nomatch other
  | playerStep request => exact .map _ (playerStep_records outside request)
  | playerReset request => exact .map _ (playerReset_records outside request)
  | deckReset request => exact .map _ (deckReset_records outside request)
  | deckRestart request => exact .map _ (deckRestart_records outside request)
  | codecUnload request =>
    exact .bind (codecUnload_records outside request) fun _ => .pure _
  | sessionShutdown _ =>
    exact .bind (shutdownWorker_records outside) fun _ => .pure _
  | _ => exact marked rfl fun _ _ changed => seen changed

/-- A `deck.process` whose output was appended to a capture is carried out and acknowledged. -/
def RecordsCleanly (outside : Outside) (worker : Protocol2Worker) : Command → Prop
  | .deckProcess request =>
      ∀ deck tensors receipt result, worker.deckRead outside request = .ok (deck, tensors, receipt) →
        worker.operatedOn outside deck.next tensors receipt = .ok result →
        deck.recording.isSome = true → deck.Takes outside result.output →
          deck.Finishes outside ∧ ∃ batch place,
            worker.Completes outside deck receipt result.output batch place ∧
              worker.TellsProcess deck result place
  | _ => True

/-- The outputs that a deck records of those that its operator put out. -/
def Sessions.recordedOf (sessions : Sessions) (outputs : List Tensor) :
    List (CaptureWriter × Tensor) :=
  (sessions.deck.bind (·.recording)).elim [] fun capture => outputs.map (capture.writer, ·)

/-- A step that processed a deck: its operator put out one output, and the capture of the deck, if
it records, took that output. -/
def DeckRecorded (before after : Protocol2Worker) : Prop :=
  ∃ output, after.operated = before.operated ++ [output] ∧
    after.appended = before.appended ++ before.recordedOf [output]

theorem recordedOf_single {sessions : Sessions} {deck : DeckSession}
    (loaded : sessions.deck = some deck) (output : Tensor) :
    sessions.recordedOf [output] = deck.recorded output := by
  unfold Sessions.recordedOf DeckSession.recorded
  rw [loaded]
  cases recording : deck.recording with
  | none => simp [recording]
  | some capture => simp [recording]

section Processing

variable {outside : Outside} {start : Protocol2Worker}

/-- A `deck.process` that returns recorded one output. -/
theorem deckProcess_recorded (coherent : start.Coherent) (request : Control.DeckProcess) :
    Leads (operation outside (.deckProcess request)) start
      (fun _ state => DeckRecorded start state)
      (fun _ state => start.deck.all (fun deck => deck.recording.isNone) = true →
        state.appended = start.appended) := by
  have spec : DeckProcessed outside request start (ending (deckProcess outside request) start) :=
    deckProcess_spec request coherent
  rw [operation, leads_map, leads_iff]
  refine ⟨fun value state ended => ?_, fun error state ended idle => ?_⟩
  · have same : ending (deckProcess outside request) start = (.ok value, state) := by
      unfold ending
      rw [ended]
    rw [same] at spec
    cases spec with
    | processed deck tensors receipt read result _ _ _ _ _ _ _ _ _ _ appended _ operated =>
      have loaded := (deck_of_require (deckRead_eq_ok read).1).1
      exact ⟨result.output, operated, by rw [recordedOf_single loaded]; exact appended⟩
  · have same : ending (deckProcess outside request) start = (.error error, state) := by
      unfold ending
      rw [ended]
    have silent : ∀ {deck : DeckSession} {tensors : List Tensor} {receipt : ProfileReceipt},
        start.deckRead outside request = .ok (deck, tensors, receipt) → deck.recording = none := by
      intro deck tensors receipt read
      rw [(deck_of_require (deckRead_eq_ok read).1).1] at idle
      exact Option.isNone_iff_eq_none.mp idle
    rw [same] at spec
    cases spec with
    | unread _ _ _ calls => exact congrArg Prod.fst calls.marks
    | unoperated _ _ _ _ _ _ _ appended => exact appended
    | untaken _ _ _ _ _ _ _ _ _ appended => exact appended
    | unfinished deck _ _ read _ _ _ _ _ failed =>
      refine absurd (fun capture recording => ?_) failed
      rw [silent read] at recording
      cases recording
    | incomplete deck _ _ read _ _ _ _ _ _ _ appended =>
      rw [appended, DeckSession.recorded, silent read]
      exact List.append_nil _

/-- A clean `deck.process` with a capture is acknowledged with one output recorded, or records
nothing. -/
theorem deckProcess_records (coherent : start.Coherent) (request : Control.DeckProcess)
    (records : start.deck.any (fun deck => deck.recording.isSome) = true)
    (clean : RecordsCleanly outside start (.deckProcess request)) :
    Leads (operation outside (.deckProcess request)) start
      (fun value state => Accepts outside (.deckProcess request) value state ∧
        DeckRecorded start state)
      (fun _ state => state.appended = start.appended) := by
  have kept := deckProcess_coheres outside request start coherent
  have frame := deckProcess_within outside request start
  have spec : DeckProcessed outside request start (ending (deckProcess outside request) start) :=
    deckProcess_spec request coherent
  have recording : ∀ {deck : DeckSession} {tensors : List Tensor} {receipt : ProfileReceipt},
      start.deckRead outside request = .ok (deck, tensors, receipt) →
        deck.recording.isSome = true := by
    intro deck tensors receipt read
    rw [(deck_of_require (deckRead_eq_ok read).1).1] at records
    exact records
  rw [operation, leads_map, leads_iff]
  refine ⟨fun value state ended => ?_, fun error state ended => ?_⟩
  · have same : ending (deckProcess outside request) start = (.ok value, state) := by
      unfold ending
      rw [ended]
    have still := kept.of_ok ended
    have changed := frame.of_ok ended
    rw [same] at spec
    cases spec with
    | processed deck tensors receipt read result operates takes finishes batch place completes
        captured _ recorded loaded appended published operated =>
      obtain ⟨-, batch', place', completes', tells⟩ :=
        clean deck tensors receipt result read operates (recording read) takes
      cases completes.1.symm.trans completes'.1
      cases completes.2.symm.trans completes'.2
      have there := (deck_of_require (deckRead_eq_ok read).1).1
      refine ⟨accepts_processed coherent still changed read recorded loaded completes tells, ?_⟩
      exact ⟨result.output, operated, by rw [recordedOf_single there]; exact appended⟩
  · have same : ending (deckProcess outside request) start = (.error error, state) := by
      unfold ending
      rw [ended]
    rw [same] at spec
    cases spec with
    | unread _ _ _ calls => exact congrArg Prod.fst calls.marks
    | unoperated _ _ _ _ _ _ _ appended => exact appended
    | untaken _ _ _ _ _ _ _ _ _ appended => exact appended
    | unfinished deck tensors receipt read result operates _ _ takes failed =>
      exact absurd (clean deck tensors receipt result read operates (recording read) takes).1 failed
    | incomplete deck tensors receipt read result operates _ _ takes _ failed _ =>
      obtain ⟨-, batch, place, completes, -⟩ :=
        clean deck tensors receipt result read operates (recording read) takes
      exact absurd completes (failed batch place)

end Processing

theorem RecordsCleanly.enter {outside : Outside} {worker : Protocol2Worker}
    (clean : RecordsCleanly outside worker command) (envelope : Envelope) :
    RecordsCleanly outside (worker.enter envelope) command := by
  cases command with
  | deckProcess request =>
    intro deck tensors receipt result read operates recording takes
    obtain ⟨finishes, batch, place, completes, tells⟩ :=
      clean deck tensors receipt result read operates recording takes
    exact ⟨finishes, batch, place, completes, tells.numbered, tells.sequence, tells.playheads,
      tells.placed, tells.controls, tells.provenance⟩
  | _ => exact trivial

/-- The recording of a step, if its command records, is clean. -/
def CleanRecording (step : Step Protocol2Worker (Outside × Envelope) (Except Raised Reply)) :
    Prop :=
  ∀ command, step.input.2.message = .command command →
    RecordsCleanly step.input.1 step.before command

/-- A step that acknowledges a `deck.process` records the one output of its operator, and every
other step records nothing. -/
structure RecordsExactly (step : Step Protocol2Worker (Outside × Envelope)
    (Except Raised Reply)) : Prop where
  recorded : step.input.2.message.processes = true → Acknowledged step.output →
    DeckRecorded step.before step.after
  silent : ¬ (step.input.2.message.processes = true ∧ Acknowledged step.output) →
    step.after.appended = step.before.appended

variable (before : Protocol2Worker)

/-- A step without `deck.process` records nothing. -/
theorem turn_silent (input : Outside × Envelope) (other : input.2.message.processes = false) :
    (turn before input).2.appended = before.appended := by
  refine @Turn.preserves _ _ _ _ (turn_spec input.1 input.2 before)
    (fun state => state.appended = before.appended) ?_ rfl fun command carried _ => ?_
  · intro first second books same
    rw [books]
    exact same
  · have plain : (Incoming.command command).processes = false := by
      rw [← carried.message]
      exact other
    exact (operation_records input.1 plain (before.enter input.2)).mono
      (fun _ _ kept => kept) (fun _ _ kept => kept)

/-- What the acknowledgement of a `deck.process` tells, with or without a capture. -/
theorem recorded_of_acknowledged (input : Outside × Envelope) (coherent : before.Coherent)
    (processes : input.2.message.processes = true)
    (acknowledged : Acknowledged (turn before input).1) :
    DeckRecorded before (turn before input).2 := by
  have entered : (before.enter input.2).Coherent :=
    coherent.of_books (onlyBooks_enter before input.2)
  obtain ⟨command, value, after, carried, ended, books⟩ :=
    (turn_spec input.1 input.2 before).of_acknowledged acknowledged
  rw [carried.message] at processes
  cases command with
  | deckProcess request =>
    have recorded : DeckRecorded (before.enter input.2) after :=
      (deckProcess_recorded entered request).of_ok ended
    have told : DeckRecorded before after := recorded
    rw [books]
    exact told
  | _ => exact nomatch processes

/-- A clean step of a coherent worker records exactly what it acknowledges. -/
theorem turn_records (input : Outside × Envelope) (coherent : before.Coherent)
    (clean : CleanRecording (stepOf turn before input)) :
    RecordsExactly (stepOf turn before input) := by
  refine ⟨recorded_of_acknowledged before input coherent, fun silent => ?_⟩
  have entered : (before.enter input.2).Coherent :=
    coherent.of_books (onlyBooks_enter before input.2)
  have silent : ¬ (input.2.message.processes = true ∧ Acknowledged (turn before input).1) := silent
  show (turn before input).2.appended = before.appended
  by_cases processes : input.2.message.processes = true
  · have refused : ¬ Acknowledged (turn before input).1 := fun acknowledged =>
      silent ⟨processes, acknowledged⟩
    have forgets : ∀ first second : Protocol2Worker, OnlyBooks first second →
        first.appended = before.appended → second.appended = before.appended := by
      intro first second books same
      rw [books]
      exact same
    cases message : input.2.message with
    | other =>
      rw [message] at processes
      exact nomatch processes
    | command command =>
      rw [message] at processes
      cases command with
      | deckProcess request =>
        by_cases records : before.deck.any (fun deck => deck.recording.isSome) = true
        · have asked := (clean _ message).enter input.2
          have ends := turn_ends message (fun _ => True)
            (fun state => state.appended = before.appended) (fun _ _ _ _ => trivial) forgets rfl
            fun _ => (deckProcess_records entered request records asked).mono
              (fun _ _ ended => ⟨ended.1, trivial⟩) (fun _ _ same => same)
          cases ends with
          | inl accepted => exact absurd accepted.1 refused
          | inr left => exact left.2
        · have idle : before.deck.all (fun deck => deck.recording.isNone) = true := by
            cases loaded : before.deck with
            | none => rfl
            | some deck => simpa [loaded] using records
          have nothing : ∀ outputs, before.recordedOf outputs = [] := by
            intro outputs
            unfold Sessions.recordedOf
            cases loaded : before.deck with
            | none => rfl
            | some deck =>
              have vacant : deck.recording = none := by simpa [loaded] using idle
              simp [vacant]
          refine @Turn.preserves _ _ _ _ (turn_spec input.1 input.2 before)
            (fun state => state.appended = before.appended) forgets rfl fun answered carried _ => ?_
          have same : answered = .deckProcess request := by
            have both := carried.message.symm.trans message
            cases both
            rfl
          rw [same]
          refine (deckProcess_recorded entered request).mono (fun _ state recorded => ?_)
            (fun _ _ kept => kept idle)
          obtain ⟨output, -, appended⟩ := recorded
          have appended : state.appended = before.appended ++ before.recordedOf [output] := appended
          rw [appended, nothing, List.append_nil]
      | _ => exact nomatch processes
  · exact turn_silent before input (Bool.eq_false_iff.mpr processes)

/-- What a step records: the outputs of the operator in a `deck.process` that is acknowledged while
the deck has a capture that records. -/
def recordedOutputs (step : Step Protocol2Worker (Outside × Envelope) (Except Raised Reply)) :
    List (CaptureWriter × Tensor) :=
  if step.input.2.message.processes && step.output.toOption.any (·.isAck) then
    step.before.recordedOf (step.after.operated.drop step.before.operated.length)
  else []

theorem acknowledged_iff (answer : Except Raised Reply) :
    Acknowledged answer ↔ answer.toOption.any (·.isAck) = true := by
  cases answer with
  | error raised => exact ⟨fun ⟨_, never, _⟩ => (nomatch never), nofun⟩
  | ok reply =>
    refine ⟨fun ⟨other, same, acknowledged⟩ => ?_, fun acknowledged => ⟨reply, rfl, acknowledged⟩⟩
    cases same
    exact acknowledged

/-- A step that records exactly adds what it records. -/
theorem appended_of_exactly {step : Step Protocol2Worker (Outside × Envelope) (Except Raised Reply)}
    (exactly : RecordsExactly step) :
    step.after.appended = step.before.appended ++ recordedOutputs step := by
  have told := acknowledged_iff step.output
  unfold recordedOutputs
  by_cases processes : step.input.2.message.processes = true
  · by_cases acknowledged : Acknowledged step.output
    · obtain ⟨output, operated, appended⟩ := exactly.recorded processes acknowledged
      rw [processes, told.mp acknowledged, Bool.and_self, if_pos rfl, appended, operated,
        List.drop_left]
    · have refused := exactly.silent fun both => acknowledged both.2
      have silent : step.output.toOption.any (·.isAck) = false :=
        Bool.eq_false_iff.mpr fun answered => acknowledged (told.mpr answered)
      rw [processes, silent, refused]
      simp
  · have other := exactly.silent fun both => processes both.1
    rw [Bool.eq_false_iff.mpr processes, other]
    simp

section Created

variable {platform : Platform} {sessionId : Uuid} {codecs : List TrustedCodecEntrypoint}
  {decks : List TrustedDeckEntrypoint} {start : Protocol2Worker}
  (created : Protocol2Worker.create platform sessionId codecs decks = .ok start)

include created

theorem appended_of_created : start.appended = [] := by
  obtain ⟨-, codecs, decks, rfl⟩ := fresh_of_created created
  rfl

/-- In a run whose recordings are clean, what was appended to capture writers is, in order, what the
operators put out in the acknowledged `deck.process` commands while a capture recorded. -/
theorem clean_captures_record_outputs (inputs : List (Outside × Envelope))
    (clean : ∀ step ∈ steps turn start inputs, CleanRecording step) :
    (final turn start inputs).appended = (steps turn start inputs).flatMap recordedOutputs ∧
      ∀ step ∈ steps turn start inputs, RecordsExactly step := by
  have exactly : ∀ step ∈ steps turn start inputs, RecordsExactly step := by
    intro step member
    have around := (run_coheres created inputs).2 step member
    have cleanly := clean step member
    rw [step_eq start inputs step member] at cleanly ⊢
    exact turn_records _ _ around.1 cleanly
  refine ⟨?_, exactly⟩
  have log := logged Protocol2Worker.appended recordedOutputs inputs start fun step member =>
    appended_of_exactly (exactly step member)
  rw [log, appended_of_created created, List.nil_append]

end Created

/-- A `deck.process` that records cleanly for a reason seen at once: its capture does not finish,
its output is published, and the reply can be told. -/
def readyToRecord (outside : Outside) (worker : Protocol2Worker) : Incoming → Bool
  | .command (.deckProcess request) =>
      (worker.deckRead outside request).toOption.all fun read =>
        (worker.operatedOn outside read.1.next read.2.1 read.2.2).toOption.all fun result =>
          read.1.recording.all (fun capture =>
            !(capture.mode == .snapshot) && !(capture.state == .finalizing)) &&
          (decoded outside result.output read.2.2.decodedAbi.maximumBatch).toOption.any fun batch =>
            (worker.publishedAt outside read.1.sessionId read.1.streamGeneration
              read.1.next.sequence batch).toOption.any fun place =>
              fits worker.outgoingSequence 1 && read.1.next.sequence < 2 ^ 64 &&
              (worker.moved read.1 read.1.sources.zipIdx).playheads.all (· < 2 ^ 64) &&
              place.2 < 2 ^ 64 && read.1.controls.entries.isEmpty &&
              (provenanceWire result.provenance.fields).toOption.any admissibleControls
  | _ => true

/-- A deck that is ready to record records cleanly. -/
theorem clean_of_readyToRecord {outside : Outside} {worker : Protocol2Worker}
    (ready : readyToRecord outside worker (.command command) = true) :
    RecordsCleanly outside worker command := by
  cases command with
  | deckProcess request =>
    intro deck tensors receipt result read operates recording takes
    simp only [readyToRecord, read, operates, Except.toOption, Option.all_some,
      Bool.and_eq_true] at ready
    obtain ⟨open_, published⟩ := ready
    refine ⟨fun capture records closes => ?_, ?_⟩
    · simp only [records, Option.all_some, Bool.and_eq_true, Bool.not_eq_true',
        beq_eq_false_iff_ne] at open_
      cases closes with
      | inl snapshot => exact absurd snapshot open_.1
      | inr finalizing => exact absurd finalizing open_.2
    · cases made : decoded outside result.output receipt.decodedAbi.maximumBatch with
      | error raised =>
        rw [made] at published
        cases published
      | ok batch =>
        rw [made] at published
        simp only [Option.any_some] at published
        cases gone : worker.publishedAt outside deck.sessionId deck.streamGeneration
            deck.next.sequence batch with
        | error raised =>
          rw [gone] at published
          cases published
        | ok place =>
          rw [gone] at published
          simp only [Option.any_some, Bool.and_eq_true, decide_eq_true_eq, List.all_eq_true,
            List.isEmpty_iff] at published
          obtain ⟨⟨⟨⟨⟨numbered, sequence⟩, playheads⟩, placed⟩, empty⟩, provenance⟩ := published
          refine ⟨batch, place, ⟨made, gone⟩, numbered, sequence, playheads, placed, ?_, ?_⟩
          · intro control member
            rw [empty] at member
            exact absurd member List.not_mem_nil
          · cases told : provenanceWire result.provenance.fields with
            | error raised =>
              rw [told] at provenance
              cases provenance
            | ok controls =>
              rw [told] at provenance
              exact ⟨controls, rfl, provenance⟩
  | _ => exact trivial

def sampleCapture : Command := .captureStart ⟨9, 1, 8, .liveCapture, "/staging", 4, 64, 1⟩

/-- The sample run in which a deck is processed once before its capture starts and twice after. -/
def capturedTwice : List (Outside × Envelope) :=
  sampleInputs ((sampleDecked ++ [sampleRing, Command.deckProcess ⟨9, 1, 1⟩, sampleCapture,
    .deckProcess ⟨9, 1, 1⟩, .deckProcess ⟨9, 1, 1⟩]).map (sampleOutside 7, ·))

/-- The capture of the sample run records the outputs of the two commands that were acknowledged
while it recorded. -/
theorem clean_captures_record_outputs_sample :
    (final turn sampleWorker capturedTwice).appended =
        (steps turn sampleWorker capturedTwice).flatMap recordedOutputs ∧
      (final turn sampleWorker capturedTwice).appended.length = 2 ∧
        (final turn sampleWorker capturedTwice).operated.length = 3 := by
  refine ⟨?_, by decide +kernel, by decide +kernel⟩
  refine (clean_captures_record_outputs sampleWorker_created capturedTwice
    fun step member command message => ?_).1
  have all : (steps turn sampleWorker capturedTwice).all (fun step =>
      readyToRecord step.input.1 step.before step.input.2.message) = true := by decide +kernel
  have here := List.all_eq_true.mp all step member
  rw [message] at here
  exact clean_of_readyToRecord here

/-- The sample run in which a deck with a capture is processed before its ring is configured, and
once more after. -/
def capturedWithoutRing : List (Outside × Envelope) :=
  sampleInputs ((sampleDecked ++ [sampleCapture, Command.deckProcess ⟨9, 1, 1⟩, sampleRing,
    .deckProcess ⟨9, 1, 1⟩]).map (sampleOutside 7, ·))

/-- A `deck.process` that cannot publish is answered with an error after it recorded, and its retry
records the playhead once more. -/
theorem failed_process_is_recorded :
    ¬ ((final turn sampleWorker capturedWithoutRing).appended =
        (steps turn sampleWorker capturedWithoutRing).flatMap recordedOutputs) ∧
      ((steps turn sampleWorker capturedWithoutRing).map fun step =>
        (step.before.deck.map (·.playheads), step.after.appended.length)).drop 8 =
          [(some [0], 1), (some [0], 1), (some [0], 2)] := by
  refine ⟨fun exactly => ?_, by decide +kernel⟩
  have twice : (final turn sampleWorker capturedWithoutRing).appended.length = 2 := by
    decide +kernel
  have once : ((steps turn sampleWorker capturedWithoutRing).flatMap recordedOutputs).length =
      1 := by decide +kernel
  rw [exactly] at twice
  omega

end LatentDeck.CodecHost
