import LatentDeck.CodecHost.Processing

/-!
# Positions in a stream

`player.step` and `deck.process` move a session through its sources. Its counters change at
different points around calls that can fail, so a command that fails can leave a part of a move
behind. A step is clean when nothing fails after its first change; then it is a transaction, and the
acknowledged steps of a generation are numbered without gaps.
-/

namespace LatentDeck.CodecHost

open Effect Fallible Run
open Control (Uuid)

structure Position where
  sessionId : Uuid
  generation : Nat
  sequence : Nat
  playheads : List Nat
  previousSources : List (Option Tensor)

def PlayerSession.position (player : PlayerSession) : Position :=
  ⟨player.sessionId, player.streamGeneration, player.sequence, [player.playhead], []⟩

def DeckSession.position (deck : DeckSession) : Position :=
  ⟨deck.sessionId, deck.streamGeneration, deck.sequence, deck.playheads, deck.previousSources⟩

def Sessions.position (sessions : Sessions) : Option Position :=
  (sessions.player.map (·.position)).or (sessions.deck.map (·.position))

/-- The slot that a player reads next, if it is not at its end. -/
def PlayerSession.nextSlot (player : PlayerSession) (slotCount : Int) : Option Nat :=
  if (player.playhead : Int) < slotCount then some player.playhead
  else if player.source.loopEnabled then some 0
  else none

/-- The batch that a player decodes from a slot. -/
def Protocol2Worker.slotDecoded (worker : Protocol2Worker) (outside : Outside)
    (player : PlayerSession) (held : SourceHandle × ProfileReceipt) (slot : Nat)
    (maximumFrames : Int) : Except Raised (Tensor × DecodedBatch) := do
  let tensor ← outside.answer (.readSlot player.source.physicalSlot held.1 slot)
  let loadRequest ← worker.loadedCodecRequest
  validateTensor outside.platform tensor held.2 loadRequest true
  let batch ← decoded outside tensor maximumFrames
  .ok (tensor, batch)

/-- What `player.step` needs to start. -/
structure Protocol2Worker.PlaysFrom (worker : Protocol2Worker) (payload : Control.PlayerStep)
    (player : PlayerSession) (held : SourceHandle × ProfileReceipt) (slotCount : Int)
    (slot : Nat) : Prop where
  ready : ∃ selected, worker.readyCodec = .ok selected
  required : worker.requirePlayer payload.playerSessionId payload.streamGeneration.toNat =
    .ok player
  asked : worker.sessionSource player.source = .ok held
  measured : held.1.slotCount = .ok slotCount
  next : player.nextSlot slotCount = some slot

/-- A decoded step of a player is published and acknowledged. -/
structure Protocol2Worker.StepCompletes (worker : Protocol2Worker) (outside : Outside)
    (player : PlayerSession) (slot : Nat) (batch : DecodedBatch) (place : Uuid × Int) : Prop where
  published : worker.publishedAt outside player.sessionId player.streamGeneration
    (player.sequence + 1) batch = .ok place
  numbered : worker.Numbered
  sequence : player.sequence + 1 < 2 ^ 64
  playhead : slot + 1 < 2 ^ 64
  placed : place.2 < 2 ^ 64

/-- A `player.step` that wraps reads its slot, and one whose slot is decoded is completed. -/
def StepsCleanly (outside : Outside) (worker : Protocol2Worker) (payload : Control.PlayerStep) :
    Prop :=
  ∀ player held slotCount slot, worker.PlaysFrom payload player held slotCount slot →
    (slot ≠ player.playhead → ∃ tensor batch, worker.slotDecoded outside player held slot
      payload.maximumDecodedFrames.toNat = .ok (tensor, batch)) ∧
    ∀ tensor batch, worker.slotDecoded outside player held slot
      payload.maximumDecodedFrames.toNat = .ok (tensor, batch) →
        ∃ place, worker.StepCompletes outside player slot batch place

/-- A player that has stepped: one batch was published, of the slot that it read. -/
def PlayerStepped (outside : Outside) (payload : Control.PlayerStep)
    (before after : Protocol2Worker) : Prop :=
  ∃ player held slotCount slot tensor batch place,
    before.PlaysFrom payload player held slotCount slot ∧
    before.slotDecoded outside player held slot payload.maximumDecodedFrames.toNat =
      .ok (tensor, batch) ∧
    after.published = before.published ++
      [⟨place, player.sessionId, player.streamGeneration, player.sequence + 1, batch⟩] ∧
    after.player = some { player with
      sequence := player.sequence + 1, playhead := slot + 1, state := .playing }

section Players

variable {outside : Outside} {start : Protocol2Worker}
  {player : PlayerSession} {held : SourceHandle × ProfileReceipt} {slot : Nat}
    {maximumFrames : Int}

/-- A slot of a player is read and decoded by calls alone. -/
theorem leads_slotDecoded {α : Type} {next : Tensor → DecodedBatch → Act α}
    {returned : α → Protocol2Worker → Prop} {raised : Raised → Protocol2Worker → Prop}
    (made : ∀ tensor batch state,
      start.slotDecoded outside player held slot maximumFrames = .ok (tensor, batch) →
        Unmarked start state → Leads (next tensor batch) state returned raised)
    (failed : ∀ error state,
      start.slotDecoded outside player held slot maximumFrames = .error error →
        Unmarked start state → raised error state) :
    Leads (do
      let tensor ← perform outside (.readSlot player.source.physicalSlot held.1 slot)
      let loadRequest ← reading (·.loadedCodecRequest)
      check (validateTensor outside.platform tensor held.2 loadRequest true)
      let batch ← perform outside (.decodeSlot tensor maximumFrames)
      check batch.validate
      next tensor batch) start returned raised := by
  unfold Protocol2Worker.slotDecoded at made failed
  refine (computes_perform outside rfl).leads (fun tensor first read calls => ?_)
    (fun error state failure calls => failed error state (by rw [failure]; rfl) calls)
  have same : first.loadedCodecRequest = start.loadedCodecRequest := by
    rw [calls.calls]
    rfl
  simp only [bind, Except.bind, read] at made failed
  refine leads_read (fun loadRequest loaded => ?_) fun error failure => ?_
  · have loaded := same.symm.trans loaded
    simp only [loaded] at made failed
    refine leads_checked (fun _ valid => ?_) fun error failure => ?_
    · simp only [valid] at made failed
      apply leads_decoded
      · intro batch state gone later
        simp only [gone] at made
        exact made tensor batch state rfl (calls.trans later)
      · intro error state failure later
        simp only [failure] at failed
        exact failed error state rfl (calls.trans later)
    · simp only [failure] at failed
      exact failed error first rfl calls
  · have failure := same.symm.trans failure
    simp only [failure] at failed
    exact failed error first rfl calls

variable {request : Control.PlayerStep}

/-- The status of a player that has stepped can be acknowledged. -/
theorem accepts_playerStep {worker : Protocol2Worker} {receipt : ProcessReceipt}
    (coherent : worker.Coherent) (numbered : worker.Numbered) (open_ : worker.player = some player)
    (asks : worker.AsksSource player.source) (counts : player.Counts)
    (ring : receipt.outputRingId.isNil = false) (slot : fits receipt.outputSlotSequence 0 = true)
    (frames : 0 ≤ receipt.decodedShape.headD 0 ∧ receipt.decodedShape.headD 0 ≤ 24) :
    Accepts outside (.playerStep request) (.process receipt) worker := by
  refine ⟨coherent, numbered, fun other books => ?_⟩
  have asked : other.AsksSource player.source := by
    rw [books]
    exact asks
  have there : other.player = some player := by
    rw [books]
    exact open_
  obtain ⟨status, told, admissible, -⟩ := playerStatus_accepted (coherent.of_books books)
    (coherent.sessions.player player open_) asked counts
  refine ⟨.playerStep status receipt.outputRingId receipt.outputSlotSequence
    (receipt.decodedShape.headD 0), ?_, ?_⟩
  · show other.stepAck (.process receipt) = _
    unfold Protocol2Worker.stepAck
    simp only [there, Option.elim_some, bind, Except.bind, told]
  · show (status.admissible && !receipt.outputRingId.isNil && fits receipt.outputSlotSequence 0 &&
      decide (0 ≤ receipt.decodedShape.headD 0) && decide (receipt.decodedShape.headD 0 ≤ 24)) =
      true
    simp only [admissible, ring, slot, frames.1, frames.2, decide_true, Bool.not_false,
      Bool.and_self]

variable {batch : DecodedBatch}

/-- A place that is published at names a ring of the worker, with a positive slot sequence. -/
theorem place_of_publishedAt {worker : Protocol2Worker} {sessionId : Uuid}
    {generation sequence : Nat} {place : Uuid × Int}
    (published : worker.publishedAt outside sessionId generation sequence batch = .ok place)
    (coherent : worker.Coherent) : place.1.isNil = false ∧ 0 < place.2 := by
  unfold Protocol2Worker.publishedAt at published
  obtain ⟨ring, required, published⟩ := ok_of_bind published
  rw [check_eq_ok, bind_eq_ok] at published
  obtain ⟨-, answer, -, published⟩ := published
  obtain ⟨slotSequence, positive, same⟩ := ok_of_bind published
  cases same
  have named := decodedRing_named coherent
  have there := decodedRing_of_require required
  refine ⟨by simpa [there] using named, ?_⟩
  cases kept : answer.filter (0 < ·) with
  | none =>
    rw [kept] at positive
    exact nomatch positive
  | some found =>
    rw [kept] at positive
    have same := Except.ok.inj positive
    have above := (Option.filter_eq_some_iff.mp kept).2
    rw [← same]
    exact of_decide_eq_true above

/-- A decoded batch has between one and 24 frames. -/
theorem frames_of_decoded {tensor : Tensor}
    (made : decoded outside tensor maximumFrames = .ok batch) :
    1 ≤ batch.batch ∧ batch.batch ≤ 24 := by
  unfold decoded at made
  obtain ⟨found, -, made⟩ := ok_of_bind made
  rw [check_eq_ok] at made
  have valid := made.1
  cases made.2
  unfold DecodedBatch.validate sdkPositiveUpTo sdkPositive at valid
  iterate 4 rw [check_eq_ok] at valid
  have positive := valid.2.2.1.1
  have bounded := valid.2.2.1.2
  simp only [sdkRefuse, guarded_eq_ok] at positive bounded
  omega

/-- What a slot of a player decodes to is decoded. -/
theorem batch_of_slotDecoded {tensor : Tensor}
    (made : start.slotDecoded outside player held slot maximumFrames = .ok (tensor, batch)) :
    decoded outside tensor maximumFrames = .ok batch := by
  unfold Protocol2Worker.slotDecoded at made
  obtain ⟨found, -, made⟩ := ok_of_bind made
  obtain ⟨loadRequest, -, made⟩ := ok_of_bind made
  rw [check_eq_ok, bind_eq_ok] at made
  obtain ⟨-, other, gone, same⟩ := made
  cases same
  exact gone

/-- A step of a player from the slot that it reads. -/
theorem leads_stepFrom (coherent : start.Coherent) {slotCount : Int}
    (plays : start.PlaysFrom request player held slotCount slot)
    (clean : StepsCleanly outside start request) :
    Leads (do
      let tensor ← perform outside (.readSlot player.source.physicalSlot held.1 slot)
      let loadRequest ← reading (·.loadedCodecRequest)
      check (validateTensor outside.platform tensor held.2 loadRequest true)
      let batch ← perform outside (.decodeSlot tensor request.maximumDecodedFrames.toNat)
      check batch.validate
      let player ← changePlayer fun player => { player with sequence := player.sequence + 1 }
      let published ← publish outside player.sessionId player.streamGeneration player.sequence
        batch
      let player ← changePlayer fun player =>
        { player with playhead := player.playhead + 1, state := .playing }
      modify fun worker => { worker with metrics := { worker.metrics with
        playerStepsTotal := worker.metrics.playerStepsTotal + 1
        decodedFramesTotal := worker.metrics.decodedFramesTotal + batch.batch } }
      pure (processReceipt player.sessionId player.streamGeneration player.sequence published
        tensor batch [])) { start with player := some { player with playhead := slot } }
      (fun receipt state => state.Coherent →
        Accepts outside (.playerStep request) (.process receipt) state ∧
          PlayerStepped outside request start state)
      (fun _ state => state.position = start.position) := by
  have open_ := (player_of_require plays.required).1
  have cleanly := clean player held slotCount slot plays
  apply leads_slotDecoded
  · intro tensor batch state made calls
    have made : start.slotDecoded outside player held slot request.maximumDecodedFrames.toNat =
        .ok (tensor, batch) := made
    obtain ⟨place, completes⟩ := cleanly.2 tensor batch made
    have there : state.player = some { player with playhead := slot } := by rw [calls.calls]
    rw [leads_bind, leads_changePlayer _ there]
    have place_same : ({ state with player := some { player with
        playhead := slot, sequence := player.sequence + 1 } } : Protocol2Worker).publishedAt outside
          player.sessionId player.streamGeneration (player.sequence + 1) batch = .ok place := by
      rw [calls.calls]
      exact completes.published
    apply leads_publish
    · intro at_ after gone later appended operated published
      have same := Except.ok.inj (gone.symm.trans place_same)
      have now : after.player = some { player with
          playhead := slot, sequence := player.sequence + 1 } := by rw [later]
      rw [leads_bind, leads_changePlayer _ now, leads_bind, leads_modify, leads_pure]
      intro still
      have frames := frames_of_decoded (batch_of_slotDecoded made)
      have placed := place_of_publishedAt completes.published coherent
      have asks : after.AsksSource player.source := by
        refine ⟨held, ?_, slotCount, plays.measured⟩
        rw [later, calls.calls]
        exact plays.asked
      have numbered : after.Numbered := by
        rw [later, calls.calls]
        exact completes.numbered
      have generation : player.streamGeneration < 2 ^ 64 := by
        rw [← (player_of_require plays.required).2.2 _ rfl]
        exact request.streamGeneration.toNat_lt
      rw [same]
      refine ⟨accepts_playerStep still numbered rfl asks
        ⟨generation, completes.sequence, completes.playhead⟩ placed.1 ?_ ⟨?_, ?_⟩, ?_⟩
      · have small := completes.placed
        have positive := placed.2
        show fits place.2 0 = true
        simp only [fits, Bool.and_eq_true, decide_eq_true_eq]
        omega
      · show 0 ≤ batch.batch
        omega
      · exact frames.2
      · refine ⟨player, held, slotCount, slot, tensor, batch, place.1, plays, made, ?_, rfl⟩
        have marks := congrArg (·.2.1) calls.marks
        rw [← same]
        exact published.trans (congrArg (· ++ _) marks)
    · intro error after failed
      rw [failed] at place_same
      cases place_same
  · intro error state failed calls
    by_cases same : slot = player.playhead
    · rw [calls.calls]
      simp [Sessions.position, open_, PlayerSession.position, same]
    · obtain ⟨tensor, batch, made⟩ := cleanly.1 same
      have failed : start.slotDecoded outside player held slot
          request.maximumDecodedFrames.toNat = .error error := failed
      rw [made] at failed
      cases failed

/-- A clean `player.step` is acknowledged as one step, or moves nothing. -/
theorem playerStep_clean (coherent : start.Coherent) (request : Control.PlayerStep)
    (clean : StepsCleanly outside start request) :
    Leads (operation outside (.playerStep request)) start
      (fun value state => Accepts outside (.playerStep request) value state ∧
        PlayerStepped outside request start state)
      (fun _ state => state.position = start.position) := by
  have kept := playerStep_coheres outside request start coherent
  have stepsFrom : Leads (playerStep outside request) start
      (fun receipt state => state.Coherent →
        Accepts outside (.playerStep request) (.process receipt) state ∧
          PlayerStepped outside request start state)
      (fun _ state => state.position = start.position) := by
    rw [playerStep]
    refine leads_read (fun selected ready => ?_) fun _ _ => rfl
    refine leads_read (fun player required => ?_) fun _ _ => rfl
    have open_ := (player_of_require required).1
    refine leads_read (fun held asked => ?_) fun _ _ => rfl
    refine leads_checked (fun slotCount measured => ?_) fun _ _ => rfl
    have plays : ∀ slot, player.nextSlot slotCount = some slot →
        start.PlaysFrom request player held slotCount slot :=
      fun slot next => ⟨⟨selected, ready⟩, required, asked, measured, next⟩
    rw [leads_bind, playerAtSlot, leads_ite]
    refine ⟨fun within => ?_, fun ended => ?_⟩
    · have next : player.nextSlot slotCount = some player.playhead := by
        rw [PlayerSession.nextSlot, if_pos within]
      have same : start = { start with player := some { player with
          playhead := player.playhead } } := by rw [← open_]
      have rest := leads_stepFrom coherent (plays _ next) clean
      rw [← same] at rest
      rw [leads_pure]
      exact rest
    · rw [leads_ite]
      refine ⟨fun loops => ?_, fun stops => ?_⟩
      · have next : player.nextSlot slotCount = some 0 := by
          rw [PlayerSession.nextSlot, if_neg ended, if_pos loops]
        have rest := leads_stepFrom coherent (plays _ next) clean
        rw [leads_changePlayer _ open_]
        exact rest
      · rw [leads_bind, leads_changePlayer _ open_, leads_throw]
        simp [Sessions.position, open_, PlayerSession.position]
  rw [operation, leads_map]
  exact (kept.and stepsFrom).mono (fun _ _ both => both.2 both.1) (fun _ _ both => both.2)

end Players

/-- What is processed can be acknowledged: the counters of the deck, the slot of the ring and the
controls fit on the wire, and the provenance can be told. -/
structure Protocol2Worker.TellsProcess (worker : Protocol2Worker) (deck : DeckSession)
    (result : DeckOperatorResult) (place : Uuid × Int) : Prop where
  numbered : worker.Numbered
  sequence : deck.next.sequence < 2 ^ 64
  playheads : ∀ playhead ∈ (worker.moved deck deck.sources.zipIdx).playheads, playhead < 2 ^ 64
  placed : place.2 < 2 ^ 64
  controls : ∀ control ∈ deck.controls.entries, ∀ value, control.2 = .integer value →
    value < 2 ^ 63
  provenance : ∃ told, provenanceWire result.provenance.fields = .ok told ∧
    admissibleControls told = true

/-- A `deck.process` whose sources are read is operated, recorded, published and acknowledged. -/
def ProcessesCleanly (outside : Outside) (worker : Protocol2Worker)
    (payload : Control.DeckProcess) : Prop :=
  ∀ deck tensors receipt, worker.deckRead outside payload = .ok (deck, tensors, receipt) →
    ∃ result batch place,
      worker.operatedOn outside deck.next tensors receipt = .ok result ∧
      deck.Takes outside result.output ∧ deck.Finishes outside ∧
      worker.Completes outside deck receipt result.output batch place ∧
      worker.TellsProcess deck result place

/-- A deck that has processed once more: one batch was published, of what the operator made of the
slots at its playheads. -/
def DeckStepped (outside : Outside) (payload : Control.DeckProcess)
    (before after : Protocol2Worker) : Prop :=
  ∃ deck tensors receipt result batch place moved,
    before.deckRead outside payload = .ok (deck, tensors, receipt) ∧
    before.operatedOn outside deck.next tensors receipt = .ok result ∧
    decoded outside result.output receipt.decodedAbi.maximumBatch = .ok batch ∧
    after.published = before.published ++
      [⟨place, deck.sessionId, deck.streamGeneration, deck.next.sequence, batch⟩] ∧
    after.deck = some moved ∧
    moved.position = ⟨deck.sessionId, deck.streamGeneration, deck.next.sequence,
      (before.moved deck deck.sources.zipIdx).playheads, tensors.map some⟩

/-- Moves change the playheads and the transport. -/
theorem moved_same (worker : Protocol2Worker) (entries : List (SourceBinding × Nat)) :
    ∀ deck, worker.moved deck entries = { deck with
      playheads := (worker.moved deck entries).playheads
      sourceTransport := (worker.moved deck entries).sourceTransport } := by
  induction entries with
  | nil => exact fun _ => rfl
  | cons entry entries ih =>
    intro deck
    have one := (movedOne_same worker deck entry).1
    have base : ∀ playheads transport,
        ({ worker.movedOne deck entry with
          playheads := playheads, sourceTransport := transport } : DeckSession) =
        { deck with playheads := playheads, sourceTransport := transport } := by
      intro playheads transport
      rw [one]
    exact (ih (worker.movedOne deck entry)).trans (base _ _)

/-- Moves of two decks with the same playheads and transport lead to the same ones. -/
theorem moved_positions (worker : Protocol2Worker) (entries : List (SourceBinding × Nat)) :
    ∀ {first second : DeckSession}, first.playheads = second.playheads →
      first.sourceTransport = second.sourceTransport →
        (worker.moved first entries).playheads = (worker.moved second entries).playheads ∧
          (worker.moved first entries).sourceTransport =
            (worker.moved second entries).sourceTransport := by
  induction entries with
  | nil => exact fun playheads transport => ⟨playheads, transport⟩
  | cons entry entries ih =>
    intro first second playheads transport
    have one : (worker.movedOne first entry).playheads = (worker.movedOne second entry).playheads ∧
        (worker.movedOne first entry).sourceTransport =
          (worker.movedOne second entry).sourceTransport := by
      unfold Protocol2Worker.movedOne
      rw [transport]
      cases second.sourceTransport[entry.2]? with
      | none => exact ⟨playheads, transport⟩
      | some found =>
        cases worker.sessionSource entry.1 with
        | error error => exact ⟨playheads, transport⟩
        | ok held =>
          dsimp only
          by_cases playing : found.playing = true
          · rw [if_pos playing, if_pos playing]
            cases held.1.slotCount with
            | error error => exact ⟨playheads, transport⟩
            | ok slotCount =>
              dsimp only
              unfold DeckSession.advanced
              rw [playheads, transport]
              by_cases below : ((second.playheads.getD entry.2 0 + 1 : Nat) : Int) < slotCount
              · simp only [below, if_true, and_self]
              · by_cases loops : found.loopEnabled = true
                · simp only [below, loops, if_true, if_false, and_self]
                · simp only [below, loops, if_false, Bool.false_eq_true, and_self]
          · rw [if_neg playing, if_neg playing]
            exact ⟨playheads, transport⟩
    exact ih one.1 one.2

section Decks

variable {outside : Outside} {start : Protocol2Worker}

theorem afterProcess_same (deck : DeckSession) :
    deck.afterProcess = { deck with state := deck.afterProcess.state } := by
  unfold DeckSession.afterProcess
  by_cases settled : deck.capture.all (·.state == .completed) = true
  · rw [if_pos settled]
  · rw [if_neg settled]

/-- The deck that a step leaves, in terms of the deck that it found. -/
structure DeckSession.SteppedTo (deck : DeckSession) (playheads : List Nat)
    (tensors : List Tensor) (after : DeckSession) : Prop where
  sessionId : after.sessionId = deck.sessionId
  revision : after.deckRevision = deck.deckRevision
  generation : after.streamGeneration = deck.streamGeneration
  sequence : after.sequence = deck.next.sequence
  playheads : after.playheads = playheads
  previous : after.previousSources = tensors.map some
  sources : after.sources = deck.sources
  controls : after.controls = deck.controls

variable {deck : DeckSession} {captured : DeckSession}

theorem steppedTo_of_recorded (worker : Protocol2Worker)
    (same : captured = { deck.next with capture := captured.capture, state := captured.state })
    (tensors : List Tensor) :
    deck.SteppedTo (worker.moved deck deck.sources.zipIdx).playheads tensors
      (worker.moved { captured with previousSources := tensors.map some }
        deck.sources.zipIdx).afterProcess := by
  let moving : DeckSession := { captured with previousSources := tensors.map some }
  have ended := afterProcess_same (worker.moved moving deck.sources.zipIdx)
  have moved := moved_same worker deck.sources.zipIdx moving
  have seen : ∀ {α : Type} (look : DeckSession → α),
      (∀ deck state, look { deck with state := state } = look deck) →
      (∀ deck playheads transport, look { deck with
        playheads := playheads, sourceTransport := transport } = look deck) →
        look (worker.moved moving deck.sources.zipIdx).afterProcess = look moving := by
    intro α look blindToState blindToMoves
    rw [ended, blindToState, moved, blindToMoves]
  have field : ∀ {α : Type} (look : DeckSession → α),
      (∀ capture state, look { deck.next with capture := capture, state := state } =
        look deck.next) → look captured = look deck.next := by
    intro α look blind
    rw [same, blind]
  have positions := moved_positions worker deck.sources.zipIdx
    (show moving.playheads = deck.playheads from field (·.playheads) fun _ _ => rfl)
    (show moving.sourceTransport = deck.sourceTransport from
      field (·.sourceTransport) fun _ _ => rfl)
  exact {
    sessionId := (seen (·.sessionId) (fun _ _ => rfl) fun _ _ _ => rfl).trans
      (field (·.sessionId) fun _ _ => rfl)
    revision := (seen (·.deckRevision) (fun _ _ => rfl) fun _ _ _ => rfl).trans
      (field (·.deckRevision) fun _ _ => rfl)
    generation := (seen (·.streamGeneration) (fun _ _ => rfl) fun _ _ _ => rfl).trans
      (field (·.streamGeneration) fun _ _ => rfl)
    sequence := (seen (·.sequence) (fun _ _ => rfl) fun _ _ _ => rfl).trans
      (field (·.sequence) fun _ _ => rfl)
    playheads := (congrArg (·.playheads) ended).trans positions.1
    previous := seen (·.previousSources) (fun _ _ => rfl) fun _ _ _ => rfl
    sources := (seen (·.sources) (fun _ _ => rfl) fun _ _ _ => rfl).trans
      (field (·.sources) fun _ _ => rfl)
    controls := (seen (·.controls) (fun _ _ => rfl) fun _ _ _ => rfl).trans
      (field (·.controls) fun _ _ => rfl) }

variable {request : Control.DeckProcess}

/-- The status of a deck that has processed can be acknowledged. -/
theorem accepts_deckProcess {worker : Protocol2Worker} {receipt : ProcessReceipt}
    (coherent : worker.Coherent) (numbered : worker.Numbered) (loaded : worker.deck = some deck)
    (tells : worker.Tells deck) (counts : deck.Counts) (ring : receipt.outputRingId.isNil = false)
    (slot : fits receipt.outputSlotSequence 1 = true) {told : List ControlWire}
    (provenance : provenanceWire receipt.provenance = .ok told)
    (admissible : admissibleControls told = true) :
    Accepts outside (.deckProcess request) (.process receipt) worker := by
  refine ⟨coherent, numbered, fun other books => ?_⟩
  have asked : other.Tells deck := tells.of_same (by rw [books]; rfl) rfl rfl rfl
  have there : other.deck = some deck := by
    rw [books]
    exact loaded
  obtain ⟨status, made, accepted, -⟩ := deckStatus_accepted (coherent.sessions.deck deck loaded)
    asked counts
  refine ⟨.deckProcess status receipt.outputRingId receipt.outputSlotSequence told, ?_, ?_⟩
  · show other.processAck (.process receipt) = _
    unfold Protocol2Worker.processAck
    simp only [there, Option.elim_some, bind, Except.bind, made, provenance]
  · show (status.admissible && !receipt.outputRingId.isNil && fits receipt.outputSlotSequence 1 &&
      admissibleControls told) = true
    simp only [accepted, ring, slot, admissible, Bool.not_false, Bool.and_self]

/-- A `deck.process` that was carried out and can be told is acknowledged. -/
theorem accepts_processed (coherent : start.Coherent) {tensors : List Tensor}
    {receipt : ProfileReceipt} {result : DeckOperatorResult} {batch : DecodedBatch}
    {place : Uuid × Int} {state : Protocol2Worker} (still : state.Coherent)
    (changed : sessionPart.allows start state)
    (read : start.deckRead outside request = .ok (deck, tensors, receipt))
    (recorded : captured = { deck.next with
      capture := captured.capture, state := captured.state })
    (loaded : state.deck = some (start.moved
      { captured with previousSources := tensors.map some } deck.sources.zipIdx).afterProcess)
    (completes : start.Completes outside deck receipt result.output batch place)
    (tells : start.TellsProcess deck result place) :
    Accepts outside (.deckProcess request) (.process (processReceipt deck.sessionId
      deck.streamGeneration deck.next.sequence place result.output batch
      result.provenance.fields)) state := by
  have bound : state.bound = start.bound :=
    Frame.seen (fun worker : Protocol2Worker => worker.bound) changed
  have same : state.outgoingSequence = start.outgoingSequence :=
    Frame.seen (fun worker : Protocol2Worker => worker.outgoingSequence) changed
  have stepped := steppedTo_of_recorded start recorded tensors
  have required := deck_of_require (deckRead_eq_ok read).1
  have placed := place_of_publishedAt completes.2 coherent
  have told : state.Tells (start.moved { captured with previousSources := tensors.map some }
      deck.sources.zipIdx).afterProcess := by
    refine ⟨fun index source transport found _ => ?_, ?_⟩
    · rw [stepped.sources] at found
      have member : (source, index) ∈ deck.sources.zipIdx :=
        List.mem_zipIdx_iff_getElem?.mpr found
      obtain ⟨held, asked, measured⟩ := asks_of_deckRead read _ member
      refine ⟨held, ?_, fun _ => measured⟩
      unfold Protocol2Worker.sessionSource Protocol2Worker.requireBound at asked ⊢
      rw [bound]
      exact asked
    · rw [stepped.controls]
      exact tells.controls
  have counts : (start.moved { captured with previousSources := tensors.map some }
      deck.sources.zipIdx).afterProcess.Counts := by
    refine ⟨?_, ?_, ?_, ?_⟩
    · rw [stepped.revision, ← required.2.2.1]
      exact request.deckRevision.toNat_lt
    · rw [stepped.generation, ← required.2.2.2 _ rfl]
      exact request.streamGeneration.toNat_lt
    · rw [stepped.sequence]
      exact tells.sequence
    · rw [stepped.playheads]
      exact tells.playheads
  have numbered : state.Numbered := by
    rw [Protocol2Worker.Numbered, same]
    exact tells.numbered
  have slot : fits place.2 1 = true := by
    have small := tells.placed
    have positive := placed.2
    simp only [fits, Bool.and_eq_true, decide_eq_true_eq]
    omega
  obtain ⟨controls, provenance, admissible⟩ := tells.provenance
  exact accepts_deckProcess still numbered loaded told counts placed.1 slot provenance admissible

/-- A clean `deck.process` is acknowledged as one step, or moves nothing. -/
theorem deckProcess_clean (coherent : start.Coherent) (request : Control.DeckProcess)
    (clean : ProcessesCleanly outside start request) :
    Leads (operation outside (.deckProcess request)) start
      (fun value state => Accepts outside (.deckProcess request) value state ∧
        DeckStepped outside request start state)
      (fun _ state => state.position = start.position) := by
  have kept := deckProcess_coheres outside request start coherent
  have frame := deckProcess_within outside request start
  have spec : DeckProcessed outside request start (ending (deckProcess outside request) start) :=
    deckProcess_spec request coherent
  rw [operation, leads_map, leads_iff]
  refine ⟨fun value state ended => ?_, fun error state ended => ?_⟩
  · have same : ending (deckProcess outside request) start = (.ok value, state) := by
      unfold ending
      rw [ended]
    have still := kept.of_ok ended
    have changed := frame.of_ok ended
    rw [same] at spec
    cases spec with
    | processed deck tensors receipt read result operates takes finishes batch place completes
        captured _ recorded loaded appended published operated =>
      obtain ⟨other, batch', place', operated', -, -, completes', tells⟩ :=
        clean deck tensors receipt read
      cases operates.symm.trans operated'
      cases completes.1.symm.trans completes'.1
      cases completes.2.symm.trans completes'.2
      have stepped := steppedTo_of_recorded start recorded tensors
      refine ⟨accepts_processed coherent still changed read recorded loaded completes tells, ?_⟩
      refine ⟨deck, tensors, receipt, result, batch, place.1, _, read, operates, completes.1,
        published, loaded, ?_⟩
      simp only [DeckSession.position, stepped.sessionId, stepped.generation, stepped.sequence,
        stepped.playheads, stepped.previous]
  · have same : ending (deckProcess outside request) start = (.error error, state) := by
      unfold ending
      rw [ended]
    rw [same] at spec
    cases spec with
    | unread _ _ failed calls =>
      rw [calls.calls]
    | unoperated deck tensors receipt read _ _ failed _ =>
      obtain ⟨result, batch, place, operated, -⟩ := clean deck tensors receipt read
      rw [failed] at operated
      cases operated
    | untaken deck tensors receipt read result operated _ _ failed _ =>
      obtain ⟨other, batch, place, operated', takes, -⟩ := clean deck tensors receipt read
      cases operated.symm.trans operated'
      exact absurd takes failed
    | unfinished deck tensors receipt read result operated _ _ _ failed =>
      obtain ⟨other, batch, place, operated', takes, finishes, -⟩ := clean deck tensors receipt read
      exact absurd finishes failed
    | incomplete deck tensors receipt read result operated _ _ _ _ failed _ =>
      obtain ⟨other, batch, place, operated', -, -, completes, -⟩ :=
        clean deck tensors receipt read
      cases operated.symm.trans operated'
      exact absurd completes (failed batch place)

end Decks

end LatentDeck.CodecHost
