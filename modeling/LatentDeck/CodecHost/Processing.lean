import LatentDeck.CodecHost.Resets

/-!
# What a step of a stream does

`player.step` and `deck.process` read slots, decode and publish. The parts of them that only ask
foreign code compute a value that the world and the worker determine; what is appended to a capture
and what is published leave marks in the history.
-/

namespace LatentDeck.CodecHost

open Effect Fallible
open Control (Uuid)

/-- A batch that was handed to the ring transport. -/
structure Publication where
  ringId : Uuid
  sessionId : Uuid
  generation : Nat
  sequence : Nat
  batch : DecodedBatch

/-- What an event appended, and to which capture writer. -/
def Event.appended : Event → Option (CaptureWriter × Tensor)
  | ⟨.appendSlot writer tensor _, .ok _⟩ => some (writer, tensor)
  | _ => none

def Event.published : Event → Option Publication
  | ⟨.publish ringId sessionId generation sequence batch, _⟩ =>
      some ⟨ringId, sessionId, generation, sequence, batch⟩
  | _ => none

def Event.operated : Event → Option Tensor
  | ⟨.operate _ _ _ _, .ok (some result)⟩ => some result.output
  | _ => none

/-- What a worker appended to capture writers so far. -/
def Protocol2Worker.appended (worker : Protocol2Worker) : List (CaptureWriter × Tensor) :=
  worker.history.filterMap Event.appended

def Protocol2Worker.published (worker : Protocol2Worker) : List Publication :=
  worker.history.filterMap Event.published

/-- What the operators of a worker put out so far. -/
def Protocol2Worker.operated (worker : Protocol2Worker) : List Tensor :=
  worker.history.filterMap Event.operated

def Protocol2Worker.marks (worker : Protocol2Worker) :
    List (CaptureWriter × Tensor) × List Publication × List Tensor :=
  (worker.appended, worker.published, worker.operated)

theorem unmarked_event {call : Call} (plain : call.marks = false)
    (answer : Except Raised call.Answer) :
    Event.appended ⟨call, answer⟩ = none ∧ Event.published ⟨call, answer⟩ = none ∧
      Event.operated ⟨call, answer⟩ = none := by
  cases call with
  | appendSlot _ _ _ | publish _ _ _ _ _ | operate _ _ _ _ => exact nomatch plain
  | _ => exact ⟨rfl, rfl, rfl⟩

theorem marks_record {call : Call} (plain : call.marks = false) (worker : Protocol2Worker)
    (answer : Except Raised call.Answer) : (worker.record call answer).marks = worker.marks := by
  obtain ⟨appended, published, operated⟩ := unmarked_event plain answer
  simp only [Protocol2Worker.marks, Protocol2Worker.appended, Protocol2Worker.published,
    Protocol2Worker.operated, Protocol2Worker.record, List.filterMap_append, List.filterMap_cons,
    List.filterMap_nil, appended, published, operated, List.append_nil]

structure Unmarked (before after : Protocol2Worker) : Prop where
  calls : OnlyCalls before after
  marks : after.marks = before.marks

theorem Unmarked.refl (worker : Protocol2Worker) : Unmarked worker worker := ⟨rfl, rfl⟩

variable {first second : Protocol2Worker}

theorem Unmarked.trans {third : Protocol2Worker} (earlier : Unmarked first second)
    (later : Unmarked second third) : Unmarked first third := by
  refine ⟨?_, later.marks.trans earlier.marks⟩
  have calls := later.calls
  rw [earlier.calls] at calls
  exact calls

/-- From a state an action computes a value or an error, with calls without marks alone. -/
def Computes {α : Type} (action : Act α) (start : Protocol2Worker) (result : Except Raised α) :
    Prop :=
  Leads action start (fun value state => result = .ok value ∧ Unmarked start state)
    (fun error state => result = .error error ∧ Unmarked start state)

section Computations

variable {α β : Type} {start : Protocol2Worker}

theorem computes_pure (value : α) : Computes (pure value) start (.ok value) :=
  ⟨rfl, .refl start⟩

theorem computes_reading (look : Protocol2Worker → Except Raised α) :
    Computes (reading look) start (look start) := by
  rw [Computes, leads_reading]
  exact ⟨fun _ seen => ⟨seen, .refl start⟩, fun _ failed => ⟨failed, .refl start⟩⟩

theorem computes_check (result : Except Raised α) : Computes (check result) start result :=
  computes_reading _

theorem computes_demand (condition : Prop) [Decidable condition] (error : Raised) :
    Computes (demand condition error) start (refuseWhen (¬ condition) error) := by
  have same : refuseWhen (¬ condition) error = if condition then .ok () else .error error := by
    by_cases met : condition <;> simp [refuseWhen, met]
  rw [same]
  exact computes_reading _

theorem computes_perform (outside : Outside) {call : Call} (plain : call.marks = false) :
    Computes (perform outside call) start (outside.answer call) := by
  rw [Computes, leads_perform]
  exact ⟨fun value answered => ⟨answered, rfl, marks_record plain start _⟩,
    fun error failed => ⟨failed, rfl, marks_record plain start _⟩⟩

theorem Computes.bind {action : Act α} {next : α → Act β} {result : Except Raised α}
    {rest : α → Except Raised β} (first : Computes action start result)
    (second : ∀ value state, result = .ok value → Unmarked start state →
      Computes (next value) state (rest value)) :
    Computes (action >>= next) start (result >>= rest) := by
  rw [Computes, leads_bind]
  refine Leads.mono first (fun value middle computed => ?_) (fun error state failed => ?_)
  · rw [computed.1]
    exact Leads.mono (second value middle computed.1 computed.2)
      (fun _ _ ended => ⟨ended.1, computed.2.trans ended.2⟩)
      (fun _ _ ended => ⟨ended.1, computed.2.trans ended.2⟩)
  · rw [failed.1]
    exact ⟨rfl, failed.2⟩

/-- A loop computes what its body does for each element. -/
theorem computes_each {action : α → Act β} {result : α → Except Raised β} (values : List α) :
    ∀ {start : Protocol2Worker}, (∀ value ∈ values, ∀ state, Unmarked start state →
      Computes (action value) state (result value)) →
        Computes (each action values) start (values.mapM result) := by
  induction values with
  | nil => exact fun _ => computes_pure []
  | cons value values ih =>
    intro start body
    rw [each, List.mapM_cons]
    refine (body value List.mem_cons_self start (.refl start)).bind fun made middle _ calls => ?_
    refine Computes.bind (ih fun other member state later =>
      body other (List.mem_cons_of_mem _ member) state (calls.trans later)) fun _ _ _ _ => ?_
    exact computes_pure _

end Computations

/-- What a source of a deck gives to the operator. -/
def Protocol2Worker.sourceRead (worker : Protocol2Worker) (outside : Outside) (deck : DeckSession)
    (entry : SourceBinding × Nat) : Except Raised (Tensor × ProfileReceipt) := do
  let held ← worker.sessionSource entry.1
  let slotCount ← held.1.slotCount
  let playhead ← deck.playheads[entry.2]?.elim (.error .other) .ok
  refuseWhen (¬ (playhead : Int) < slotCount)
    (runtimeError .sourceNotLoaded "a Deck source playhead is outside its handle")
  let tensor ← outside.answer (.readSlot entry.1.physicalSlot held.1 playhead)
  let loadRequest ← worker.loadedCodecRequest
  validateTensor outside.platform tensor held.2 loadRequest false
  .ok (tensor, held.2)

/-- The deck of `deck.process`, what its sources give, and the receipt of the last one. -/
def Protocol2Worker.deckRead (worker : Protocol2Worker) (outside : Outside)
    (payload : Control.DeckProcess) :
    Except Raised (DeckSession × List Tensor × ProfileReceipt) := do
  let _ ← worker.readyCodec
  let deck ← worker.requireDeck payload.deckSessionId payload.deckRevision
    (some payload.streamGeneration.toNat)
  let read ← deck.sources.zipIdx.mapM (worker.sourceRead outside deck)
  let receipt ← (read.map Prod.snd).getLast?.elim (.error .other) .ok
  .ok (deck, read.map Prod.fst, receipt)

/-- What the operator of a deck makes of its sources. -/
def Protocol2Worker.operatedOn (worker : Protocol2Worker) (outside : Outside) (deck : DeckSession)
    (tensors : List Tensor) (receipt : ProfileReceipt) : Except Raised DeckOperatorResult := do
  validateProcessCall outside.platform tensors deck.controls (operatorContext deck receipt)
  let answer ← outside.answer
    (.operate deck.operator tensors deck.controls (operatorContext deck receipt))
  let result ← validateProcessResult outside.platform answer tensors
  let loadRequest ← worker.loadedCodecRequest
  validateTensor outside.platform result.output receipt loadRequest false
  .ok result

def decoded (outside : Outside) (tensor : Tensor) (maximumFrames : Int) :
    Except Raised DecodedBatch := do
  let batch ← outside.answer (.decodeSlot tensor maximumFrames)
  batch.validate
  .ok batch

def Protocol2Worker.publishedAt (worker : Protocol2Worker) (outside : Outside) (sessionId : Uuid)
    (streamGeneration sequence : Nat) (batch : DecodedBatch) : Except Raised (Uuid × Int) := do
  let ring ← worker.requireDecodedRing
  refuseWhen (¬ batch.pixels.length ≤ ring.slotBytes)
    (runtimeError .protocolBoundExceeded "decoded output exceeds the shared ring slot")
  let answer ← outside.answer (.publish ring.ringId sessionId streamGeneration sequence batch)
  let slotSequence ← (answer.filter (0 < ·)).elim
    (.error (runtimeError .workerInternal "shared ring returned an invalid slot sequence")) .ok
  .ok (ring.ringId, slotSequence)

/-- A result that is accepted is what the operator answered. -/
theorem answer_of_processResult {platform : Platform} {answer : Option DeckOperatorResult}
    {sources : List Tensor} {result : DeckOperatorResult}
    (valid : validateProcessResult platform answer sources = .ok result) :
    answer = some result := by
  unfold validateProcessResult at valid
  cases answer with
  | none => exact nomatch valid
  | some found =>
    cases sources with
    | nil => exact nomatch valid
    | cons reference others =>
      iterate 4 rw [check_eq_ok] at valid
      cases shape : found.provenance with
      | object fields =>
        rw [shape, bind_eq_ok] at valid
        obtain ⟨_, _, _, _, _, _, same⟩ := valid
        rw [Except.ok.inj same]
      | _ =>
        rw [shape] at valid
        exact nomatch valid.2.2.2.2

section Rules

variable {outside : Outside} {start : Protocol2Worker} {α : Type}
  {returned : α → Protocol2Worker → Prop} {raised : Raised → Protocol2Worker → Prop}

theorem Computes.leads {β : Type} {action : Act β} {next : β → Act α} {result : Except Raised β}
    (computes : Computes action start result)
    (made : ∀ value state, result = .ok value → Unmarked start state →
      Leads (next value) state returned raised)
    (failed : ∀ error state, result = .error error → Unmarked start state → raised error state) :
    Leads (action >>= next) start returned raised := by
  rw [leads_bind]
  exact Leads.mono computes (fun value state ended => made value state ended.1 ended.2)
    (fun error state ended => failed error state ended.1 ended.2)

/-- The read of a source asks foreign code alone. -/
theorem computes_readSource (deck : DeckSession) (entry : SourceBinding × Nat) :
    Computes (readSource outside deck entry.1 entry.2) start
      (start.sourceRead outside deck entry) := by
  refine (computes_reading _).bind fun held _ _ first => ?_
  refine (computes_check _).bind fun slotCount _ _ second => ?_
  refine (computes_check _).bind fun playhead _ _ third => ?_
  refine (computes_demand _ _).bind fun _ _ _ fourth => ?_
  refine (computes_perform outside rfl).bind fun tensor state _ fifth => ?_
  have calls := first.trans (second.trans (third.trans (fourth.trans fifth)))
  have same : state.loadedCodecRequest = start.loadedCodecRequest := by
    rw [calls.calls]
    rfl
  rw [← same]
  refine (computes_reading _).bind fun loadRequest _ _ _ => ?_
  exact (computes_check _).bind fun _ _ _ _ => computes_pure _

theorem computes_readSources (deck : DeckSession) :
    Computes (each (fun entry : SourceBinding × Nat => readSource outside deck entry.1 entry.2)
      deck.sources.zipIdx) start (deck.sources.zipIdx.mapM (start.sourceRead outside deck)) := by
  refine computes_each _ fun entry _ state calls => ?_
  have same : state.sourceRead outside deck entry = start.sourceRead outside deck entry := by
    rw [calls.calls]
    rfl
  rw [← same]
  exact computes_readSource deck entry

theorem leads_decoded {tensor : Tensor} {maximumFrames : Int} {next : DecodedBatch → Act α}
    (made : ∀ batch state, decoded outside tensor maximumFrames = .ok batch →
      Unmarked start state → Leads (next batch) state returned raised)
    (failed : ∀ error state, decoded outside tensor maximumFrames = .error error →
      Unmarked start state → raised error state) :
    Leads (do
      let batch ← perform outside (.decodeSlot tensor maximumFrames)
      check batch.validate
      next batch) start returned raised := by
  unfold decoded at made failed
  refine (computes_perform outside rfl).leads (fun batch state answered first => ?_)
    (fun error state failure calls => failed error state (by rw [failure]; rfl) calls)
  rw [answered] at made failed
  refine (computes_check _).leads (fun _ state valid second => ?_)
    (fun error state failure calls => failed error state ?_ (first.trans calls))
  · exact made batch state (by simp [bind, Except.bind, valid]) (first.trans second)
  · simp [bind, Except.bind, failure]

theorem leads_publish {sessionId : Uuid} {generation sequence : Nat} {batch : DecodedBatch}
    {next : Uuid × Int → Act α} (made : ∀ place state,
      start.publishedAt outside sessionId generation sequence batch = .ok place →
      OnlyCalls start state → state.appended = start.appended →
      state.operated = start.operated →
      state.published = start.published ++ [⟨place.1, sessionId, generation, sequence, batch⟩] →
        Leads (next place) state returned raised) (failed : ∀ error state,
      start.publishedAt outside sessionId generation sequence batch = .error error →
      OnlyCalls start state → state.appended = start.appended →
      state.operated = start.operated → raised error state) :
    Leads (publish outside sessionId generation sequence batch >>= next) start returned raised := by
  unfold Protocol2Worker.publishedAt at made failed
  rw [leads_bind, publish]
  refine leads_read (fun ring there => ?_) fun error missing => ?_
  · rw [there] at made failed
    refine leads_demanded (fun fits => ?_) fun large => ?_
    · have within : refuseWhen (¬ batch.pixels.length ≤ ring.slotBytes)
          (runtimeError .protocolBoundExceeded "decoded output exceeds the shared ring slot") =
            .ok () := by
        rw [refuseWhen_eq_ok, not_not]
        exact fits
      rw [leads_bind, leads_perform]
      refine ⟨fun answer answered => ?_, fun error failure => ?_⟩
      · rw [leads_bind, leads_check]
        simp only [bind, Except.bind, within, answered] at made failed
        have published : (start.record (.publish ring.ringId sessionId generation sequence batch)
            (.ok answer)).published =
            start.published ++ [⟨ring.ringId, sessionId, generation, sequence, batch⟩] := by
          simp [Protocol2Worker.published, Protocol2Worker.record, Event.published]
        have appended : (start.record (.publish ring.ringId sessionId generation sequence batch)
            (.ok answer)).appended = start.appended := by
          simp [Protocol2Worker.appended, Protocol2Worker.record, Event.appended]
        have operated : (start.record (.publish ring.ringId sessionId generation sequence batch)
            (.ok answer)).operated = start.operated := by
          simp [Protocol2Worker.operated, Protocol2Worker.record, Event.operated]
        refine ⟨fun slotSequence positive => ?_, fun error invalid => ?_⟩
        · rw [leads_pure]
          rw [positive] at made
          exact made _ _ rfl rfl appended operated published
        · rw [invalid] at failed
          exact failed _ _ rfl rfl appended operated
      · simp only [bind, Except.bind, within, failure] at failed
        refine failed _ _ rfl rfl ?_ ?_
        · simp [Protocol2Worker.appended, Protocol2Worker.record, Event.appended]
        · simp [Protocol2Worker.operated, Protocol2Worker.record, Event.operated]
    · have refused : refuseWhen (¬ batch.pixels.length ≤ ring.slotBytes)
          (runtimeError .protocolBoundExceeded "decoded output exceeds the shared ring slot") =
            .error (runtimeError .protocolBoundExceeded
              "decoded output exceeds the shared ring slot") := by
        rw [refuseWhen, if_pos large]
      simp only [bind, Except.bind, refused] at failed
      exact failed _ _ rfl rfl rfl rfl
  · rw [missing] at failed
    exact failed _ _ rfl rfl rfl rfl

variable {tensors : List Tensor} {deck : DeckSession}

/-- An operator is called once with what the sources of its deck gave. -/
theorem leads_operatedOn {receipt : ProfileReceipt} {next : DeckOperatorResult → Act α}
    (made : ∀ result state, start.operatedOn outside deck tensors receipt = .ok result →
      OnlyCalls start state → state.appended = start.appended →
      state.published = start.published → state.operated = start.operated ++ [result.output] →
        Leads (next result) state returned raised)
    (failed : ∀ error state, start.operatedOn outside deck tensors receipt = .error error →
      OnlyCalls start state → state.appended = start.appended →
      state.published = start.published → raised error state) :
    Leads (do
      let result ← processSourcesChecked outside deck.operator tensors deck.controls
        (operatorContext deck receipt)
      let loadRequest ← reading (·.loadedCodecRequest)
      check (validateTensor outside.platform result.output receipt loadRequest false)
      next result) start returned raised := by
  unfold Protocol2Worker.operatedOn at made failed
  rw [leads_bind, processSourcesChecked]
  refine leads_checked (fun _ called => ?_) fun error refused => ?_
  · simp only [bind, Except.bind, called] at made failed
    rw [leads_bind, leads_perform]
    refine ⟨fun answer answered => ?_, fun error failure => ?_⟩
    · simp only [answered] at made failed
      have published : (start.record (.operate deck.operator tensors deck.controls
          (operatorContext deck receipt)) (.ok answer)).published = start.published := by
        simp [Protocol2Worker.published, Protocol2Worker.record, Event.published]
      have appended : (start.record (.operate deck.operator tensors deck.controls
          (operatorContext deck receipt)) (.ok answer)).appended = start.appended := by
        simp [Protocol2Worker.appended, Protocol2Worker.record, Event.appended]
      rw [leads_check]
      refine ⟨fun result valid => ?_, fun error invalid => ?_⟩
      · have same := answer_of_processResult valid
        have operated : (start.record (.operate deck.operator tensors deck.controls
            (operatorContext deck receipt)) (.ok answer)).operated =
              start.operated ++ [result.output] := by
          simp [Protocol2Worker.operated, Protocol2Worker.record, Event.operated, same]
        simp only [valid] at made failed
        refine leads_read (fun loadRequest loaded => ?_) fun error unloaded => ?_
        · have loaded : start.loadedCodecRequest = .ok loadRequest := loaded
          simp only [loaded] at made failed
          refine leads_checked (fun _ exact_ => ?_) fun error wrong => ?_
          · rw [exact_] at made
            exact made _ _ rfl rfl appended published operated
          · rw [wrong] at failed
            exact failed _ _ rfl rfl appended published
        · have unloaded : start.loadedCodecRequest = .error error := unloaded
          rw [unloaded] at failed
          exact failed _ _ rfl rfl appended published
      · rw [invalid] at failed
        exact failed _ _ rfl rfl appended published
    · rw [failure] at failed
      refine failed _ _ rfl rfl ?_ ?_
      · simp [Protocol2Worker.appended, Protocol2Worker.record, Event.appended]
      · simp [Protocol2Worker.published, Protocol2Worker.record, Event.published]
  · rw [refused] at failed
    exact failed _ _ rfl rfl rfl rfl

end Rules

/-- The capture of a deck, if it records, takes a slot. -/
def DeckSession.Takes (deck : DeckSession) (outside : Outside) (tensor : Tensor) : Prop :=
  ∀ capture, deck.recording = some capture →
    capture.latentSlots < capture.maximumLatentSlots ∧
      outside.answer (.appendSlot capture.writer tensor capture.pendingResetEvent) = .ok ()

/-- The capture of a deck, if it closes with its next slot, finishes or is not ready to. -/
def DeckSession.Finishes (deck : DeckSession) (outside : Outside) : Prop :=
  ∀ capture, deck.recording = some capture → capture.closes →
    (∃ payload, finishedBy outside capture.appended = .ok payload) ∨
      finishedBy outside capture.appended = .error (.sdk "capture.not_ready")

/-- What the capture of a deck records of a slot. -/
def DeckSession.recorded (deck : DeckSession) (tensor : Tensor) : List (CaptureWriter × Tensor) :=
  (deck.recording.map fun capture => (capture.writer, tensor)).toList

/-- A deck and the worker after a slot was recorded: only the capture and the state of the deck
changed. -/
structure Recorded (deck : DeckSession) (tensor : Tensor) (start state : Protocol2Worker)
    (captured : DeckSession) : Prop where
  loaded : state.deck = some captured
  bound : state.bound = start.bound
  rings : state.rings = start.rings
  same : captured = { deck with capture := captured.capture, state := captured.state }
  appended : state.appended = start.appended ++ deck.recorded tensor
  published : state.published = start.published
  operated : state.operated = start.operated

theorem marks_captureFaulted (worker : Protocol2Worker) (outside : Outside) (deck : DeckSession)
    (capture : CaptureSession) :
    (worker.captureFaulted outside deck capture).marks = worker.marks :=
  marks_record rfl worker (outside.answer (.abortCapture capture.writer))

section Recording

variable {outside : Outside} {start : Protocol2Worker} {deck : DeckSession}
  (loaded : start.deck = some deck) (tensor : Tensor)
include loaded

/-- A slot is recorded, or the capture does not take it, or it takes it and does not finish. -/
theorem leads_recorded :
    Leads (captureAppend outside tensor) start
      (fun _ state => deck.Takes outside tensor ∧ deck.Finishes outside ∧
        ∃ captured, Recorded deck tensor start state captured)
      (fun _ state => state.published = start.published ∧
        ((¬ deck.Takes outside tensor ∧ state.appended = start.appended) ∨
          (deck.Takes outside tensor ∧ ¬ deck.Finishes outside))) := by
  cases recording : deck.recording with
  | none =>
    rw [leads_captureAppend_idle loaded recording]
    refine ⟨fun _ never => ?_, fun _ never => ?_, deck, loaded, rfl, rfl, rfl, ?_, rfl,
      rfl⟩
    · rw [recording] at never
      cases never
    · rw [recording] at never
      cases never
    · simp [DeckSession.recorded, recording]
  | some capture =>
    have only : ∀ other, deck.recording = some other → other = capture := fun other found =>
      Option.some.inj (found.symm.trans recording)
    have held := (DeckSession.capture_of_recording recording).1
    have faulted : ∀ worker : Protocol2Worker,
        (worker.captureFaulted outside deck capture).appended = worker.appended ∧
          (worker.captureFaulted outside deck capture).published = worker.published := by
      intro worker
      have same := marks_captureFaulted worker outside deck capture
      exact ⟨congrArg Prod.fst same, congrArg (·.2.1) same⟩
    rw [leads_captureAppend loaded recording]
    refine ⟨fun reached => ?_, fun below => ⟨fun error failed => ?_, fun answered => ?_⟩⟩
    · refine ⟨(faulted start).2, Or.inl ⟨fun takes => ?_, (faulted start).1⟩⟩
      have below := (takes capture recording).1
      omega
    · have marks := faulted (start.record
        (.appendSlot capture.writer tensor capture.pendingResetEvent) (.error error))
      refine ⟨marks.2.trans ?_, Or.inl ⟨fun takes => ?_, marks.1.trans ?_⟩⟩
      · simp [Protocol2Worker.published, Protocol2Worker.record, Event.published]
      · have taken := (takes capture recording).2
        rw [failed] at taken
        cases taken
      · simp [Protocol2Worker.appended, Protocol2Worker.record, Event.appended]
    · have takes : deck.Takes outside tensor := by
        intro other found
        rw [only other found]
        exact ⟨below, answered⟩
      have appended : (start.slotAppended deck capture tensor).appended =
          start.appended ++ deck.recorded tensor := by
        simp [Protocol2Worker.appended, Protocol2Worker.slotAppended, Protocol2Worker.record,
          Event.appended, DeckSession.recorded, recording]
      have published : (start.slotAppended deck capture tensor).published = start.published := by
        simp [Protocol2Worker.published, Protocol2Worker.slotAppended, Protocol2Worker.record,
          Event.published]
      have operated : (start.slotAppended deck capture tensor).operated = start.operated := by
        simp [Protocol2Worker.operated, Protocol2Worker.slotAppended, Protocol2Worker.record,
          Event.operated]
      refine ⟨fun open_ => ?_, fun closes => ?_⟩
      · refine ⟨takes, fun other found closes => ?_, _, rfl, rfl, rfl, rfl, appended, published,
          operated⟩
        rw [only other found] at closes
        exact absurd closes open_
      · have there : (start.slotAppended deck capture tensor).deck =
            some (deck.changeCapture .appended) := rfl
        have taken : (deck.changeCapture .appended).capture = some capture.appended := by
          simp [DeckSession.changeCapture, held]
        have plain : (Call.finishCapture capture.appended.writer).marks = false := rfl
        have asked := marks_record plain (start.slotAppended deck capture tensor)
          (outside.answer (.finishCapture capture.appended.writer))
        have askedAppended := (congrArg Prod.fst asked).trans appended
        have askedPublished := (congrArg (·.2.1) asked).trans published
        have askedOperated := (congrArg (·.2.2) asked).trans operated
        rw [leads_captureTryFinish there taken]
        refine ⟨fun payload finished => ?_, fun waiting => ?_, fun error failed refused => ?_⟩
        · refine ⟨takes, fun other found _ => ?_, _, rfl, rfl, rfl, rfl, askedAppended,
            askedPublished, askedOperated⟩
          rw [only other found]
          exact Or.inl ⟨payload, finished⟩
        · refine ⟨takes, fun other found _ => ?_, _, rfl, rfl, rfl, rfl, askedAppended,
            askedPublished, askedOperated⟩
          rw [only other found]
          exact Or.inr waiting
        · have marks := marks_captureFaulted ((start.slotAppended deck capture tensor).askedToFinish
            outside capture.appended) outside (deck.changeCapture .appended) capture.appended
          refine ⟨(congrArg (·.2.1) marks).trans askedPublished, Or.inr ⟨takes, fun finishes => ?_⟩⟩
          cases finishes capture recording closes with
          | inl done =>
            rw [failed] at done
            cases done.choose_spec
          | inr waiting =>
            rw [failed] at waiting
            exact refused (Except.error.inj waiting)

end Recording

/-- The deck after one of its sources moved, if that one plays. -/
def Protocol2Worker.movedOne (worker : Protocol2Worker) (deck : DeckSession)
    (entry : SourceBinding × Nat) : DeckSession :=
  match deck.sourceTransport[entry.2]?, worker.sessionSource entry.1 with
  | some transport, .ok held =>
      if transport.playing then
        match held.1.slotCount with
        | .ok slotCount => deck.advanced entry.2 transport slotCount
        | .error _ => deck
      else deck
  | _, _ => deck

/-- The deck after some of its sources moved. -/
def Protocol2Worker.moved (worker : Protocol2Worker) (deck : DeckSession)
    (entries : List (SourceBinding × Nat)) : DeckSession :=
  entries.foldl worker.movedOne deck

/-- A move changes the playheads and the transport, which keeps its length. -/
theorem movedOne_same (worker : Protocol2Worker) (deck : DeckSession)
    (entry : SourceBinding × Nat) :
    worker.movedOne deck entry = { deck with
        playheads := (worker.movedOne deck entry).playheads
        sourceTransport := (worker.movedOne deck entry).sourceTransport } ∧
      (worker.movedOne deck entry).sourceTransport.length = deck.sourceTransport.length := by
  unfold Protocol2Worker.movedOne
  cases deck.sourceTransport[entry.2]? with
  | none => exact ⟨rfl, rfl⟩
  | some transport =>
    cases worker.sessionSource entry.1 with
    | error error => exact ⟨rfl, rfl⟩
    | ok held =>
      by_cases playing : transport.playing = true
      · simp only [playing, if_true]
        cases held.1.slotCount with
        | error error => exact ⟨rfl, rfl⟩
        | ok slotCount =>
          dsimp only
          cases deck.advanced_cases entry.2 transport slotCount with
          | inl moved =>
            obtain ⟨next, -, same⟩ := moved
            rw [same]
            exact ⟨rfl, rfl⟩
          | inr stopped =>
            rw [stopped]
            exact ⟨rfl, List.length_set⟩
      · simp only [playing]
        exact ⟨rfl, rfl⟩

theorem moved_congr (same : ∀ source, first.sessionSource source = second.sessionSource source)
    (deck : DeckSession) (entries : List (SourceBinding × Nat)) :
    first.moved deck entries = second.moved deck entries := by
  have one : first.movedOne = second.movedOne := by
    funext deck entry
    unfold Protocol2Worker.movedOne
    rw [same]
  unfold Protocol2Worker.moved
  rw [one]

/-- A source that moves when it plays can be asked for its length. -/
def Protocol2Worker.Asks (worker : Protocol2Worker) (source : SourceBinding) : Prop :=
  ∃ held, worker.sessionSource source = .ok held ∧ held.1.Measured

section Moving

variable {start : Protocol2Worker} {raised : Raised → Protocol2Worker → Prop}

/-- The move of one source that can be asked for its length. -/
theorem leads_advanceSource (loaded : start.deck = some deck)
    {entry : SourceBinding × Nat} (asks : start.Asks entry.1)
    (inside : entry.2 < deck.sourceTransport.length) {returned : Unit → Protocol2Worker → Prop}
    (moved : returned () { start with deck := some (start.movedOne deck entry) }) :
    Leads (advanceSource entry.1 entry.2) start returned raised := by
  obtain ⟨held, asked, slotCount, measured⟩ := asks
  have there := List.getElem?_eq_getElem inside
  unfold Protocol2Worker.movedOne at moved
  rw [there, asked] at moved
  rw [advanceSource, leads_bind, leads_reading]
  simp only [loaded, Option.bind_some, there, Option.elim_some]
  refine ⟨fun transport same => ?_, by rintro _ ⟨⟩⟩
  cases same
  rw [leads_whenever]
  refine ⟨fun playing => ?_, fun paused => ?_⟩
  · simp only [playing, if_true, measured] at moved
    rw [leads_bind, leads_reading, asked]
    refine ⟨fun other same => ?_, by rintro _ ⟨⟩⟩
    cases same
    rw [leads_bind, leads_check, measured]
    refine ⟨fun other same => ?_, by rintro _ ⟨⟩⟩
    cases same
    rw [leads_bind, leads_changeDeck _ loaded, leads_pure]
    exact moved
  · simp only [paused] at moved
    have unchanged : start = { start with deck := some deck } := by rw [← loaded]
    rw [unchanged]
    exact moved

/-- The sources of a deck move, one after the other. -/
theorem leads_advanceSources (entries : List (SourceBinding × Nat)) :
    ∀ {start : Protocol2Worker} {deck : DeckSession}, start.deck = some deck →
      (∀ entry ∈ entries, start.Asks entry.1 ∧ entry.2 < deck.sourceTransport.length) →
        Leads (each (fun entry : SourceBinding × Nat => advanceSource entry.1 entry.2) entries)
          start (fun _ state => state = { start with deck := some (start.moved deck entries) })
          raised := by
  induction entries with
  | nil =>
    intro start deck loaded _
    show start = { start with deck := some deck }
    rw [← loaded]
  | cons entry entries ih =>
    intro start deck loaded asks
    rw [each, leads_bind]
    have first := asks entry List.mem_cons_self
    refine leads_advanceSource loaded first.1 first.2 ?_
    refine (ih rfl fun other member => ?_).bind (fun _ state same => ?_) (fun _ _ failed => failed)
    · have rest := asks other (List.mem_cons_of_mem _ member)
      refine ⟨rest.1, ?_⟩
      rw [(movedOne_same start deck entry).2]
      exact rest.2
    · rw [leads_pure, same]
      rfl

/-- The end of `deck.process`: the sources are remembered and move. -/
theorem leads_advanceDeck {deck moving : DeckSession} (loaded : start.deck = some moving)
    (asks : ∀ entry ∈ deck.sources.zipIdx, start.Asks entry.1 ∧
      entry.2 < moving.sourceTransport.length) :
    Leads (advanceDeck deck tensors) start (fun _ state =>
      state = { start with deck := some (start.moved
        { moving with previousSources := tensors.map some } deck.sources.zipIdx).afterProcess })
      raised := by
  rw [advanceDeck, leads_bind, leads_changeDeck _ loaded, leads_bind]
  refine Leads.mono (leads_advanceSources deck.sources.zipIdx rfl fun entry member => ?_)
    (fun _ state same => ?_) (fun _ _ failed => failed)
  · exact asks entry member
  rw [leads_bind, leads_changeDeck _ (by rw [same]), leads_pure, same]
  rfl

end Moving

def DeckSession.next (deck : DeckSession) : DeckSession :=
  { deck with sequence := deck.sequence + 1 }

/-- The output of the operator is decoded and published. -/
def Protocol2Worker.Completes (worker : Protocol2Worker) (outside : Outside) (deck : DeckSession)
    (receipt : ProfileReceipt) (output : Tensor) (batch : DecodedBatch) (place : Uuid × Int) :
    Prop :=
  decoded outside output receipt.decodedAbi.maximumBatch = .ok batch ∧
    worker.publishedAt outside deck.sessionId deck.streamGeneration deck.next.sequence batch =
      .ok place

/-- What `deck.process` comes to. -/
inductive DeckProcessed (outside : Outside) (payload : Control.DeckProcess)
    (start : Protocol2Worker) : Except Raised ProcessReceipt × Protocol2Worker → Prop
  | unread (error : Raised) (after : Protocol2Worker)
      (failed : start.deckRead outside payload = .error error) (calls : Unmarked start after) :
      DeckProcessed outside payload start (.error error, after)
  | unoperated (deck : DeckSession) (tensors : List Tensor) (receipt : ProfileReceipt)
      (read : start.deckRead outside payload = .ok (deck, tensors, receipt)) (error : Raised)
      (after : Protocol2Worker)
      (failed : start.operatedOn outside deck.next tensors receipt = .error error)
      (appended : after.appended = start.appended) :
      DeckProcessed outside payload start (.error error, after)
  | untaken (deck : DeckSession) (tensors : List Tensor) (receipt : ProfileReceipt)
      (read : start.deckRead outside payload = .ok (deck, tensors, receipt))
      (result : DeckOperatorResult)
      (operated : start.operatedOn outside deck.next tensors receipt = .ok result) (error : Raised)
      (after : Protocol2Worker) (failed : ¬ deck.Takes outside result.output)
      (appended : after.appended = start.appended) :
      DeckProcessed outside payload start (.error error, after)
  | unfinished (deck : DeckSession) (tensors : List Tensor) (receipt : ProfileReceipt)
      (read : start.deckRead outside payload = .ok (deck, tensors, receipt))
      (result : DeckOperatorResult)
      (operated : start.operatedOn outside deck.next tensors receipt = .ok result) (error : Raised)
      (after : Protocol2Worker) (takes : deck.Takes outside result.output)
      (failed : ¬ deck.Finishes outside) :
      DeckProcessed outside payload start (.error error, after)
  | incomplete (deck : DeckSession) (tensors : List Tensor) (receipt : ProfileReceipt)
      (read : start.deckRead outside payload = .ok (deck, tensors, receipt))
      (result : DeckOperatorResult)
      (operated : start.operatedOn outside deck.next tensors receipt = .ok result) (error : Raised)
      (after : Protocol2Worker) (takes : deck.Takes outside result.output)
      (finishes : deck.Finishes outside)
      (failed : ∀ batch place, ¬ start.Completes outside deck receipt result.output batch place)
      (appended : after.appended = start.appended ++ deck.recorded result.output) :
      DeckProcessed outside payload start (.error error, after)
  | processed (deck : DeckSession) (tensors : List Tensor) (receipt : ProfileReceipt)
      (read : start.deckRead outside payload = .ok (deck, tensors, receipt))
      (result : DeckOperatorResult)
      (operates : start.operatedOn outside deck.next tensors receipt = .ok result)
      (takes : deck.Takes outside result.output) (finishes : deck.Finishes outside)
      (batch : DecodedBatch) (place : Uuid × Int)
      (completes : start.Completes outside deck receipt result.output batch place)
      (captured : DeckSession) (after : Protocol2Worker)
      (same : captured = { deck.next with capture := captured.capture, state := captured.state })
      (loaded : after.deck = some (start.moved
        { captured with previousSources := tensors.map some } deck.sources.zipIdx).afterProcess)
      (appended : after.appended = start.appended ++ deck.recorded result.output)
      (published : after.published = start.published ++
        [⟨place.1, deck.sessionId, deck.streamGeneration, deck.next.sequence, batch⟩])
      (operated : after.operated = start.operated ++ [result.output]) :
      DeckProcessed outside payload start (.ok (processReceipt deck.sessionId
        deck.streamGeneration deck.next.sequence place result.output batch
        result.provenance.fields), after)

variable {receipt : ProfileReceipt}

/-- What was read of a deck: it is the deck that was asked for, its codec is ready and each source
gave what it gives. -/
theorem deckRead_eq_ok {worker : Protocol2Worker} {outside : Outside}
    {payload : Control.DeckProcess}
    (read : worker.deckRead outside payload = .ok (deck, tensors, receipt)) :
    worker.requireDeck payload.deckSessionId payload.deckRevision
        (some payload.streamGeneration.toNat) = .ok deck ∧
      ∃ results, deck.sources.zipIdx.mapM (worker.sourceRead outside deck) = .ok results ∧
        tensors = results.map Prod.fst := by
  unfold Protocol2Worker.deckRead at read
  obtain ⟨selected, -, read⟩ := ok_of_bind read
  obtain ⟨found, required, read⟩ := ok_of_bind read
  obtain ⟨results, mapped, read⟩ := ok_of_bind read
  obtain ⟨last, -, same⟩ := ok_of_bind read
  cases same
  exact ⟨required, results, mapped, rfl⟩

/-- Each source of a deck that was read can be asked for its length. -/
theorem asks_of_deckRead {worker : Protocol2Worker} {outside : Outside}
    {payload : Control.DeckProcess}
    (read : worker.deckRead outside payload = .ok (deck, tensors, receipt)) :
    ∀ entry ∈ deck.sources.zipIdx, worker.Asks entry.1 := by
  intro entry member
  obtain ⟨-, results, mapped, -⟩ := deckRead_eq_ok read
  obtain ⟨result, -, given⟩ := exists_of_forall₂ (mapM_eq_ok.mp mapped) entry member
  unfold Protocol2Worker.sourceRead at given
  obtain ⟨held, asked, given⟩ := ok_of_bind given
  obtain ⟨slotCount, measured, -⟩ := ok_of_bind given
  exact ⟨held, asked, slotCount, measured⟩

section Whole

variable {outside : Outside} {payload : Control.DeckProcess} {start : Protocol2Worker}

theorem leads_completion (read : start.deckRead outside payload = .ok (deck, tensors, receipt))
    (placed : deck.sourceTransport.length = deck.sources.length) {result : DeckOperatorResult}
    (operates : start.operatedOn outside deck.next tensors receipt = .ok result)
    (takes : deck.Takes outside result.output) (finishes : deck.Finishes outside)
    {middle state : Protocol2Worker} {captured : DeckSession} (bound : middle.bound = start.bound)
    (rings : middle.rings = start.rings) (appended : middle.appended = start.appended)
    (published : middle.published = start.published)
    (operated : middle.operated = start.operated ++ [result.output])
    (recorded : Recorded deck.next result.output middle state captured) :
    Leads (do
      let batch ← perform outside (.decodeSlot result.output receipt.decodedAbi.maximumBatch)
      check batch.validate
      let published ← publish outside deck.next.sessionId deck.next.streamGeneration
        deck.next.sequence batch
      advanceDeck deck.next tensors
      modify fun worker => { worker with metrics := { worker.metrics with
        deckProcessTotal := worker.metrics.deckProcessTotal + 1
        decodedFramesTotal := worker.metrics.decodedFramesTotal + batch.batch } }
      pure (processReceipt deck.next.sessionId deck.next.streamGeneration deck.next.sequence
        published result.output batch result.provenance.fields)) state
      (fun value after => DeckProcessed outside payload start (.ok value, after))
      (fun error after => DeckProcessed outside payload start (.error error, after)) := by
  have recordedAll : state.appended = start.appended ++ deck.recorded result.output := by
    rw [recorded.appended, appended]
    rfl
  apply leads_decoded
  · intro batch decodedState made calls
    have place : ∀ sessionId generation sequence,
        decodedState.publishedAt outside sessionId generation sequence batch =
          start.publishedAt outside sessionId generation sequence batch := by
      intro sessionId generation sequence
      have same : decodedState.rings = start.rings := by
        rw [calls.calls]
        exact recorded.rings.trans rings
      unfold Protocol2Worker.publishedAt Protocol2Worker.requireDecodedRing
        Protocol2Worker.decodedRing
      rw [same]
    apply leads_publish
    · intro at_ publishedState gone later appendedThere operatedThere publishedThere
      rw [place] at gone
      have marks := calls.marks
      have there : publishedState.deck = some captured := by
        rw [later, calls.calls]
        exact recorded.loaded
      have sources : publishedState.bound = start.bound := by
        rw [later, calls.calls]
        exact recorded.bound.trans bound
      have asked : ∀ source, publishedState.sessionSource source = start.sessionSource source := by
        intro source
        unfold Protocol2Worker.sessionSource Protocol2Worker.requireBound
        rw [sources]
      have moved : Leads (advanceDeck deck.next tensors) publishedState (fun _ after =>
          after = { publishedState with deck := some (publishedState.moved
            { captured with previousSources := tensors.map some }
            deck.sources.zipIdx).afterProcess }) (fun _ _ => False) := by
        refine leads_advanceDeck there fun entry member => ⟨?_, ?_⟩
        · have asks := asks_of_deckRead read entry member
          unfold Protocol2Worker.Asks at asks ⊢
          rw [asked]
          exact asks
        · rw [recorded.same]
          show entry.2 < deck.sourceTransport.length
          rw [placed]
          exact List.snd_lt_of_mem_zipIdx member
      rw [leads_bind]
      refine moved.mono (fun _ after same => ?_) (fun _ _ never => never.elim)
      rw [leads_bind, leads_modify, leads_pure]
      refine .processed deck tensors receipt read result operates takes finishes batch at_
        ⟨made, gone⟩ captured _ recorded.same ?_ ?_ ?_ ?_
      · rw [same, moved_congr asked]
      · rw [same]
        exact appendedThere.trans ((congrArg Prod.fst marks).trans recordedAll)
      · rw [same]
        have earlier := (congrArg (·.2.1) marks).trans (recorded.published.trans published)
        exact publishedThere.trans (congrArg (· ++ _) earlier)
      · rw [same]
        have earlier := (congrArg (·.2.2) marks).trans (recorded.operated.trans operated)
        exact operatedThere.trans earlier
    · intro error failedState failed later appendedThere _
      rw [place] at failed
      refine .incomplete deck tensors receipt read result operates error _ takes finishes ?_ ?_
      · intro other at_ completes
        have same := Except.ok.inj (completes.1.symm.trans made)
        have gone := completes.2
        rw [same] at gone
        exact nomatch failed.symm.trans gone
      · exact appendedThere.trans ((congrArg Prod.fst calls.marks).trans recordedAll)
  · intro error after failed calls
    refine .incomplete deck tensors receipt read result operates error _ takes finishes ?_ ?_
    · intro batch place completes
      have never := completes.1
      rw [failed] at never
      exact nomatch never
    · have marks := congrArg Prod.fst calls.marks
      exact marks.trans recordedAll

/-- The sources of a deck are read by calls alone. -/
theorem leads_deckRead {α : Type}
    {next : DeckSession → List (Tensor × ProfileReceipt) → ProfileReceipt → Act α}
    {returned : α → Protocol2Worker → Prop} {raised : Raised → Protocol2Worker → Prop}
    (made : ∀ deck read receipt state,
      start.deckRead outside payload = .ok (deck, read.map Prod.fst, receipt) →
        Unmarked start state → Leads (next deck read receipt) state returned raised)
    (failed : ∀ error state, start.deckRead outside payload = .error error →
      Unmarked start state → raised error state) :
    Leads (do
      let _ ← reading (·.readyCodec)
      let deck ← reading (·.requireDeck payload.deckSessionId payload.deckRevision
        (some payload.streamGeneration.toNat))
      let read ← each (fun entry : SourceBinding × Nat => readSource outside deck entry.1 entry.2)
        deck.sources.zipIdx
      let receipt ← check ((read.map Prod.snd).getLast?.elim (.error .other) .ok)
      next deck read receipt) start returned raised := by
  unfold Protocol2Worker.deckRead at made failed
  refine leads_read (fun selected ready => ?_) fun error failure => ?_
  · have ready : start.readyCodec = .ok selected := ready
    rw [ready] at made failed
    refine leads_read (fun deck required => ?_) fun error failure => ?_
    · have required : start.requireDeck payload.deckSessionId payload.deckRevision
          (some payload.streamGeneration.toNat) = .ok deck := required
      simp only [bind, Except.bind, required] at made failed
      refine (computes_readSources deck).leads (fun read state mapped calls => ?_)
        (fun error state failure calls => failed error state ?_ calls)
      · simp only [mapped] at made failed
        refine leads_checked (fun receipt last => ?_) fun error failure => ?_
        · simp only [last] at made
          exact made deck read receipt state rfl calls
        · simp only [failure] at failed
          exact failed error state rfl calls
      · simp only [failure]
    · have failure : start.requireDeck payload.deckSessionId payload.deckRevision
          (some payload.streamGeneration.toNat) = .error error := failure
      simp only [bind, Except.bind, failure] at failed
      exact failed error start rfl (.refl start)
  · have failure : start.readyCodec = .error error := failure
    rw [failure] at failed
    exact failed error start rfl (.refl start)

/-- Every `deck.process` is one of the kinds of `DeckProcessed`. -/
theorem deckProcess_spec (payload : Control.DeckProcess) (coherent : start.Coherent) :
    DeckProcessed outside payload start (ending (deckProcess outside payload) start) := by
  refine (leads_ending (DeckProcessed outside payload start)).mp ?_
  rw [deckProcess]
  refine leads_deckRead ?_ fun error after failed calls => .unread error after failed calls
  · intro deck results receipt state read calls
    have required := (deck_of_require (deckRead_eq_ok read).1).1
    have sound := coherent.sessions.deck deck required
    have placed : deck.sourceTransport.length = deck.sources.length := by
      have same := congrArg List.length sound.transport
      rwa [List.length_map, List.length_map] at same
    have loaded : state.deck = some deck := by
      rw [calls.calls]
      exact required
    rw [leads_bind, leads_changeDeck _ loaded]
    have operates : ({ state with deck := some deck.next } : Protocol2Worker).operatedOn outside
        deck.next (results.map Prod.fst) receipt =
          start.operatedOn outside deck.next (results.map Prod.fst) receipt := by
      rw [calls.calls]
      rfl
    have marks := calls.marks
    refine leads_operatedOn ?_ ?_
    · intro result after made later appended published operated
      have made := operates.symm.trans made
      have appended := appended.trans (congrArg Prod.fst marks)
      have published := published.trans (congrArg (·.2.1) marks)
      have operated := operated.trans (congrArg (· ++ _) (congrArg (·.2.2) marks))
      have there : after.deck = some deck.next := by
        rw [later]
        rfl
      refine (leads_recorded there result.output).bind (fun _ recording recorded => ?_)
        (fun error recording refused => ?_)
      · obtain ⟨takes, finishes, captured, recorded⟩ := recorded
        refine leads_completion read placed made takes finishes ?_ ?_ appended published operated
          recorded
        · rw [later, calls.calls]
        · rw [later, calls.calls]
      · cases refused.2 with
        | inl untaken =>
          exact .untaken deck _ receipt read result made error recording untaken.1
            (untaken.2.trans appended)
        | inr unfinished =>
          exact .unfinished deck _ receipt read result made error recording unfinished.1
            unfinished.2
    · intro error after failed later appended published
      exact .unoperated deck _ receipt read error after (operates.symm.trans failed)
        (appended.trans (congrArg Prod.fst marks))

end Whole

end LatentDeck.CodecHost
