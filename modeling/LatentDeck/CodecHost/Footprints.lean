import LatentDeck.CodecHost.Turns

/-!
# Footprints of the commands

Which part of a worker a command can change, whichever way it ends: a command stays within the
frame of its part, so everything outside of that part is as it was.
-/

namespace LatentDeck.CodecHost

open Effect

/-- The part of a player that `player.open` fixes. -/
def PlayerSession.identity (player : PlayerSession) : PlayerSession :=
  { player with streamGeneration := 0, playhead := 0, sequence := 0, state := .empty }

/-- The part of a deck that `deck.load` fixes. -/
def DeckSession.identity (deck : DeckSession) : DeckSession :=
  { deck with
    roles := [], controls := .empty, seed := 0, streamGeneration := 0, deckRevision := 0,
    sequence := 0, playheads := [], previousSources := [], sourceTransport := [], state := .empty,
    capture := none }

/-- A deck without what can be set or recorded between two steps. -/
def DeckSession.unset (deck : DeckSession) : DeckSession :=
  { deck with
    roles := [], controls := .empty, seed := 0, sourceTransport := [], state := .empty,
    capture := none }

/-- The part of a source that `source.open` and the profile commands fix. -/
def BoundCartridge.identity (bound : BoundCartridge) : BoundCartridge :=
  { bound with handle := none }

/-- A call that leaves a mark: it appends to a capture, publishes or asks an operator. -/
def Call.marks : Call → Bool
  | .appendSlot _ _ _ | .publish _ _ _ _ _ | .operate _ _ _ _ => true
  | _ => false

/-- The events whose calls leave a mark. -/
def markedEvents (history : List Event) : List Event :=
  history.filter fun event => event.call.marks

/-- Changes of the session state and the codec. -/
def codecPart : Frame Protocol2Worker := .keeping fun worker => { worker with
  history := markedEvents worker.history, sessionState := .unconfigured, acceptedCapabilities := [],
  adapter := none,
  descriptor := none, codecState := .unloaded, codecLoadRequest := none }

/-- Changes of the raw imports. -/
def importPart : Frame Protocol2Worker := .keeping fun worker => { worker with
  history := markedEvents worker.history, rawImports := .empty, rawImportArtifacts := .empty }

/-- Changes of the rings. -/
def ringPart : Frame Protocol2Worker := .keeping fun worker => { worker with
  history := markedEvents worker.history, rings := .empty }

/-- Changes of the open sources and their receipts. -/
def sourcePart : Frame Protocol2Worker := .keeping fun worker => { worker with
  history := markedEvents worker.history, bound := .empty, receiptSources := .empty }

/-- Changes of the warm session and its capture, but not of which session it is. -/
def sessionPart : Frame Protocol2Worker := .keeping fun worker => { worker with
  history := [], metrics := ⟨0, 0, 0, 0, 0, 0⟩, captureState := .idle
  player := worker.player.map PlayerSession.identity
  deck := worker.deck.map DeckSession.identity }

/-- Changes of what can be set or recorded between two steps of the deck. -/
def settingPart : Frame Protocol2Worker := .keeping fun worker => { worker with
  history := markedEvents worker.history, metrics := ⟨0, 0, 0, 0, 0, 0⟩, captureState := .idle
  deck := worker.deck.map DeckSession.unset }

/-- Changes of the handles of the open sources. -/
def handlePart : Frame Protocol2Worker := .keeping fun worker => { worker with
  history := markedEvents worker.history, bound := worker.bound.mapValues BoundCartridge.identity }

/-- A session that opens, and the handles of its sources. -/
def openPart : Frame Protocol2Worker := .keeping fun worker => { worker with
  history := markedEvents worker.history, player := none, deck := none
  bound := worker.bound.mapValues BoundCartridge.identity }

/-- Any change. -/
def anyPart : Frame Protocol2Worker where
  allows _ _ := True
  refl _ := trivial
  trans _ _ := trivial

section Parts

variable {frame : Frame Protocol2Worker} {α : Type}

/-- A check changes nothing. -/
theorem within_check (result : Except Raised α) : Within frame (check result) := Within.reading _

variable {call : Call}

/-- A call changes nothing that is blind to the history. -/
theorem within_perform {δ : Type} {view : Protocol2Worker → δ}
    (blind : ∀ worker answer, view (worker.record call answer) = view worker)
    (outside : Outside) : Within (.keeping view) (perform outside call) :=
  .bind (.modify fun worker => blind worker _) fun _ => .reading _

/-- A call without a mark is not among the marked events. -/
theorem markedEvents_append (plain : call.marks = false) (history : List Event)
    (answer : Except Raised call.Answer) :
    markedEvents (history ++ [⟨call, answer⟩]) = markedEvents history := by
  simp [markedEvents, List.filter_append, plain]

/-- A change of the player that keeps which player it is. -/
theorem within_changePlayer {change : PlayerSession → PlayerSession}
    (same : ∀ player, (change player).identity = player.identity) :
    Within sessionPart (changePlayer change) := by
  refine .bind (.modify fun worker => ?_) fun _ => .reading _
  cases open_ : worker.player with
  | none => simp [sessionPart, Frame.keeping, open_]
  | some player => simp [sessionPart, Frame.keeping, open_, same]

variable {change : DeckSession → DeckSession}

/-- A change of the deck that keeps which deck it is. -/
theorem within_changeDeck (same : ∀ deck, (change deck).identity = deck.identity) :
    Within sessionPart (changeDeck change) := by
  refine .bind (.modify fun worker => ?_) fun _ => .reading _
  cases loaded : worker.deck with
  | none => simp [sessionPart, Frame.keeping, loaded]
  | some deck => simp [sessionPart, Frame.keeping, loaded, same]

/-- A change of what can be set of a deck. -/
theorem within_setDeck (same : ∀ deck, (change deck).unset = deck.unset) :
    Within settingPart (changeDeck change) := by
  refine .bind (.modify fun worker => ?_) fun _ => .reading _
  cases loaded : worker.deck with
  | none => simp [settingPart, Frame.keeping, loaded]
  | some deck => simp [settingPart, Frame.keeping, loaded, same]

/-- What is set between two steps is part of the session. -/
theorem sessionPart_of_settingPart (before after : Protocol2Worker)
    (changed : settingPart.allows before after) : sessionPart.allows before after := by
  have seen : ∀ worker : Protocol2Worker,
      ({ worker with
        history := [], metrics := ⟨0, 0, 0, 0, 0, 0⟩, captureState := .idle
        player := worker.player.map PlayerSession.identity
        deck := (worker.deck.map DeckSession.unset).map DeckSession.identity } : Protocol2Worker) =
      { worker with
        history := [], metrics := ⟨0, 0, 0, 0, 0, 0⟩, captureState := .idle
        player := worker.player.map PlayerSession.identity
        deck := worker.deck.map DeckSession.identity } := by
    intro worker
    rw [Option.map_map]
    rfl
  have looked := Frame.seen (fun worker : Protocol2Worker => { worker with
    history := []
    player := worker.player.map PlayerSession.identity
    deck := worker.deck.map DeckSession.identity }) changed
  exact (seen after).symm.trans (looked.trans (seen before))

end Parts

variable (outside : Outside)

/-- `session.configure` changes the session state and the accepted capabilities. -/
theorem configure_within (request : Control.SessionConfigure) :
    Within codecPart (configure request) :=
  .reads fun _ => .reads fun _ => .modify fun _ => rfl

/-- A call without a mark changes at most the codec. -/
theorem codecPart_perform (plain : call.marks = false) :
    Within codecPart (perform outside call) := by
  refine within_perform (fun worker answer => ?_) outside
  simp only [Protocol2Worker.record, markedEvents_append plain]

/-- Loading an adapter only calls. -/
theorem loadAdapter_within (entry : TrustedCodecEntrypoint) :
    Within codecPart (loadAdapter outside entry) := by
  refine .bind (.bind (codecPart_perform outside rfl) fun _ => within_check _) fun value => ?_
  exact .bind (.ite (codecPart_perform outside rfl) (.pure _)) fun _ => within_check _

/-- `codec.descriptor` keeps the adapter and its descriptor. -/
theorem codecDescriptor_within (request : Control.CodecDescriptorRequest) :
    Within codecPart (codecDescriptor outside request) := by
  refine .reads fun selected => ?_
  cases selected with
  | some descriptor => exact .reads fun _ => .pure _
  | none =>
    refine .reads fun trusted => ?_
    refine .bind (loadAdapter_within outside trusted) fun adapter => ?_
    refine .bind (codecPart_perform outside rfl) fun descriptor => ?_
    refine .reads fun _ => .reads fun _ => ?_
    exact .bind (.modify fun _ => rfl) fun _ => .pure _

/-- `codec.load` moves the state of the codec. -/
theorem codecLoad_within (request : Control.CodecLoad) :
    Within codecPart (codecLoad outside request) := by
  refine .reads fun selected => ?_
  refine .reads fun _ => .reads fun _ => ?_
  refine .reads fun _ => .reads fun _ => ?_
  refine .reads fun _ => .bind ?_ fun _ => .pure _
  refine .bind (.modify fun _ => rfl) fun _ => ?_
  refine .bind (.catching (codecPart_perform outside rfl) fun raised => ?_)
    fun _ => .modify fun _ => rfl
  exact .bind (.modify fun _ => rfl) fun _ => .throw raised

/-- A call without a mark changes at most the raw imports. -/
theorem importPart_perform (plain : call.marks = false) :
    Within importPart (perform outside call) := by
  refine within_perform (fun worker answer => ?_) outside
  simp only [Protocol2Worker.record, markedEvents_append plain]

/-- An artifact is removed from the disk, whatever is raised. -/
theorem cleanupRawImport_within (artifact : RawImportArtifact) (stagingRoot : String) :
    Within importPart (cleanupRawImport outside artifact stagingRoot) :=
  .suppressing (.bind (importPart_perform outside rfl) fun _ =>
    .reads fun _ => importPart_perform outside rfl)

/-- An artifact is removed from the table and from the disk. -/
theorem discardArtifact_within (importId : Control.Uuid) :
    Within importPart (discardArtifact outside importId) := by
  refine .reads fun admitted => ?_
  refine .bind (.modify fun _ => rfl) fun _ => ?_
  exact .whenSome fun admitted => cleanupRawImport_within outside _ _

/-- Every import is aborted. -/
theorem abortAllRawImports_within : Within importPart (abortAllRawImports outside) := by
  refine .reads fun adapter => ?_
  refine .reads fun imports => ?_
  refine .bind (.each (fun importId => ?_) imports) fun _ => .modify fun _ => rfl
  exact .bind (.whenever (.suppressing (importPart_perform outside rfl)))
    fun _ => discardArtifact_within outside importId

/-- `raw_import.preflight` keeps the import it issues. -/
theorem rawImportPreflight_within (payload : Control.RawImportPreflightRequest) :
    Within importPart (rawImportPreflight outside payload) := by
  have abort : ∀ raised : Raised,
      Within importPart (abortAndRaise outside payload.importId raised : Act Unit) := fun raised =>
    .bind (.suppressing (importPart_perform outside rfl)) fun _ => .throw raised
  refine .reads fun descriptor => ?_
  refine .reads fun _ => .reads fun _ => ?_
  refine .bind (importPart_perform outside rfl) fun answer => ?_
  refine .reads fun preflight => .reads fun _ => ?_
  refine .bind (.whenever (abort _)) fun _ => ?_
  refine .reads fun issued => ?_
  refine .bind (.whenever (abort _)) fun _ => ?_
  exact .bind (.modify fun _ => rfl) fun _ => .pure _

/-- A staging that fails is given up. -/
theorem abandonStaging_within (importId : Control.Uuid) (artifact : Option RawImportArtifact)
    (stagingRoot : String) (raised : Raised) :
    Within importPart (abandonStaging outside importId artifact stagingRoot raised :
      Act RawImportArtifact) := by
  refine .bind (.suppressing (importPart_perform outside rfl)) fun _ => ?_
  refine .bind (.whenSome fun artifact => cleanupRawImport_within outside _ _) fun _ => ?_
  exact .bind (.modify fun _ => rfl) fun _ => .throw raised

/-- `raw_import.stage` keeps the artifact, or gives the import up. -/
theorem rawImportStage_within (payload : Control.RawImportStage) :
    Within importPart (rawImportStage outside payload) := by
  refine .reads fun _ => .reads fun preflight => ?_
  refine .reads fun _ => ?_
  refine .bind (importPart_perform outside rfl) fun root => ?_
  refine .reads fun stagingRoot => .reads fun _ => ?_
  refine .bind (.catching (importPart_perform outside rfl) fun raised =>
    .bind (.suppressing (importPart_perform outside rfl)) fun _ =>
      .bind (.pure _) fun _ => .bind (.modify fun _ => rfl) fun _ => .throw raised) fun answer => ?_
  cases answer with
  | none => exact abandonStaging_within outside _ _ _ _
  | some artifact =>
    refine .catching ?_ fun raised => abandonStaging_within outside _ _ _ _
    refine .reads fun _ => .reads fun _ => ?_
    refine .bind (importPart_perform outside rfl) fun facts => ?_
    refine .reads fun _ => ?_
    refine .bind (.modify fun _ => rfl) fun _ => ?_
    exact .reads fun _ => .pure _

/-- `raw_import.abort` forgets the import. -/
theorem rawImportAbort_within (payload : Control.RawImportAbort) :
    Within importPart (rawImportAbort outside payload) := by
  refine .reads fun _ => .reads fun _ => ?_
  refine .bind (.suppressing (importPart_perform outside rfl)) fun _ => ?_
  refine .bind (discardArtifact_within outside _) fun _ => ?_
  exact .bind (.modify fun _ => rfl) fun _ => .pure _

/-- A call without a mark changes at most the rings. -/
theorem ringPart_perform (plain : call.marks = false) : Within ringPart (perform outside call) := by
  refine within_perform (fun worker answer => ?_) outside
  simp only [Protocol2Worker.record, markedEvents_append plain]

/-- `ring.configure` keeps the ring it attaches. -/
theorem ringConfigure_within (payload : Control.RingConfigure) :
    Within ringPart (ringConfigure outside payload) := by
  have admitted : Within ringPart (admitRing payload) :=
    .reads fun _ => .reads fun _ => .pure _
  refine .bind (.catching admitted fun raised =>
    .bind (ringPart_perform outside rfl) fun _ => .throw raised) fun binding => ?_
  refine .bind (ringPart_perform outside rfl) fun _ => ?_
  exact .bind (.modify fun _ => rfl) fun _ => .pure _

/-- `ring.release` forgets the ring. -/
theorem ringRelease_within (payload : Control.RingRelease) :
    Within ringPart (ringRelease outside payload) := by
  refine .reads fun _ => ?_
  refine .bind (.modify fun _ => rfl) fun _ => ?_
  exact .bind (ringPart_perform outside rfl) fun _ => .pure _

/-- A call without a mark changes at most the sources. -/
theorem sourcePart_perform (plain : call.marks = false) :
    Within sourcePart (perform outside call) := by
  refine within_perform (fun worker answer => ?_) outside
  simp only [Protocol2Worker.record, markedEvents_append plain]

/-- `source.open` registers a source, or closes what it opened. -/
theorem sourceOpen_within (payload : Control.SourceOpen) :
    Within sourcePart (sourceOpen outside payload) := by
  refine .bind (sourcePart_perform outside rfl) fun access => ?_
  refine .catching ?_ fun raised => .bind (sourcePart_perform outside rfl) fun _ => .throw raised
  refine .reads fun _ => .reads fun access => ?_
  refine .reads fun _ => .reads fun _ => ?_
  exact .bind (.modify fun _ => rfl) fun _ => .pure _

/-- `source.close` takes the source and its receipt away. -/
theorem sourceClose_within (payload : Control.SourceClose) :
    Within sourcePart (sourceClose outside payload) := by
  refine .reads fun _ => .reads fun bound => ?_
  refine .bind (.modify fun _ => rfl) fun _ => ?_
  refine .bind (.whenSome fun handle => sourcePart_perform outside rfl) fun _ => ?_
  refine .bind (.whenSome fun receipt => .modify fun _ => rfl) fun _ => ?_
  exact .bind (sourcePart_perform outside rfl) fun _ => .pure _

/-- `profile.inspect` keeps an inspection with its source. -/
theorem profileInspect_within (payload : Control.ProfileInspect) :
    Within sourcePart (profileInspect outside payload) := by
  refine .reads fun _ => .reads fun bound => ?_
  refine .reads fun _ => ?_
  refine .bind (sourcePart_perform outside rfl) fun inspection => ?_
  refine .reads fun _ => .reads fun _ => ?_
  exact .bind (.modify fun _ => rfl) fun _ => .pure _

/-- `profile.validate` keeps a receipt with its source. -/
theorem profileValidate_within (payload : Control.ProfileValidate) :
    Within sourcePart (profileValidate outside payload) := by
  refine .reads fun selected => ?_
  refine .reads fun bound => ?_
  refine .reads fun inspection => .reads fun _ => ?_
  refine .reads fun _ => ?_
  refine .bind (sourcePart_perform outside rfl) fun receipt => ?_
  refine .reads fun _ => ?_
  refine .bind (.modify fun _ => rfl) fun _ => ?_
  exact .bind (.modify fun _ => rfl) fun _ => .pure _

/-- A call changes at most the session. -/
theorem sessionPart_perform (call : Call) : Within sessionPart (perform outside call) :=
  within_perform (fun _ _ => rfl) outside

/-- Publishing a batch leaves a mark only. -/
theorem publish_within (sessionId : Control.Uuid) (streamGeneration sequence : Nat)
    (batch : DecodedBatch) :
    Within sessionPart (publish outside sessionId streamGeneration sequence batch) := by
  refine .reads fun ring => .reads fun _ => ?_
  refine .bind (sessionPart_perform outside _) fun answer => ?_
  exact .reads fun _ => .pure _

/-- A player wraps, or comes to the end. -/
theorem playerAtSlot_within (player : PlayerSession) (slotCount : Int) :
    Within sessionPart (playerAtSlot player slotCount) := by
  refine .ite (.pure _) (.ite (within_changePlayer fun _ => rfl) ?_)
  exact .bind (within_changePlayer fun _ => rfl) fun _ => .throw _

/-- `player.step` moves the player by a slot. -/
theorem playerStep_within (payload : Control.PlayerStep) :
    Within sessionPart (playerStep outside payload) := by
  refine .reads fun _ => .reads fun player => ?_
  refine .reads fun held => .reads fun slotCount => ?_
  refine .bind (playerAtSlot_within _ _) fun player => ?_
  refine .bind (sessionPart_perform outside _) fun tensor => ?_
  refine .reads fun _ => .reads fun _ => ?_
  refine .bind (sessionPart_perform outside _) fun batch => ?_
  refine .reads fun _ => ?_
  refine .bind (within_changePlayer fun _ => rfl) fun player => ?_
  refine .bind (publish_within outside _ _ _ _) fun published => ?_
  refine .bind (within_changePlayer fun _ => rfl) fun player => ?_
  exact .bind (.modify fun _ => rfl) fun _ => .pure _

/-- `player.reset` moves the player to a new generation. -/
theorem playerReset_within (payload : Control.PlayerReset) :
    Within sessionPart (playerReset outside payload) := by
  refine .reads fun _ => .reads fun player => ?_
  refine .reads fun _ => .reads fun ring => ?_
  refine .bind (sessionPart_perform outside _) fun _ => ?_
  refine .bind (sessionPart_perform outside _) fun _ => ?_
  exact within_changePlayer fun _ => rfl

/-- A call without a mark changes at most the settings. -/
theorem settingPart_perform (plain : call.marks = false) :
    Within settingPart (perform outside call) := by
  refine within_perform (fun worker answer => ?_) outside
  simp only [Protocol2Worker.record, markedEvents_append plain]

/-- A change of the capture. -/
theorem within_changeCapture (change : CaptureSession → CaptureSession) :
    Within settingPart (changeCapture change) :=
  .bind (within_setDeck fun _ => rfl) fun _ => within_check _

/-- A capture that faults is aborted. -/
theorem captureFault_within (capture : CaptureSession) :
    Within settingPart (captureFault outside capture) := by
  refine .bind (.suppressing (settingPart_perform outside rfl)) fun _ => ?_
  refine .bind (within_changeCapture _) fun _ => ?_
  refine .bind (.modify fun _ => rfl) fun _ => ?_
  exact .bind (within_setDeck fun _ => rfl) fun _ => .pure _

/-- A capture faults, and the error is raised. -/
theorem faultAndRaise_within {α : Type} (capture : CaptureSession) (raised : Raised) :
    Within settingPart (faultAndRaise outside capture raised : Act α) :=
  .bind (captureFault_within outside capture) fun _ => .throw raised

/-- A capture finishes, or faults when its writer raises. -/
theorem captureTryFinish_within (capture : CaptureSession) :
    Within settingPart (captureTryFinish outside capture) := by
  have finished : Within settingPart (finishedPayload outside capture) := by
    refine .bind (settingPart_perform outside rfl) fun answer => ?_
    refine .reads fun completed => .reads fun _ => ?_
    exact .reads fun _ => .pure _
  have completes : ∀ payload, Within settingPart (completeCapture payload) := by
    intro payload
    refine .bind (within_changeCapture _) fun _ => ?_
    refine .bind (.modify fun _ => rfl) fun _ => ?_
    exact .bind (within_setDeck fun _ => rfl) fun _ => .pure _
  refine .bind (.catching (.map _ finished) fun raised => ?_) fun completed => ?_
  · exact .ite (.pure _) (faultAndRaise_within outside _ _)
  · exact .whenSome completes

/-- A step appends to the capture of its deck. -/
theorem captureAppend_within (tensor : Tensor) :
    Within sessionPart (captureAppend outside tensor) := by
  have faults : ∀ (capture : CaptureSession) (raised : Raised),
      Within sessionPart (faultAndRaise outside capture raised : Act Unit) := fun capture raised =>
    (faultAndRaise_within outside capture raised).mono sessionPart_of_settingPart
  refine .reads fun deck => .whenSome fun capture => ?_
  refine .bind (.whenever (faults _ _)) fun _ => ?_
  refine .bind (.catching (sessionPart_perform outside _) fun raised => faults _ _) fun _ => ?_
  refine .bind ((within_changeCapture _).mono sessionPart_of_settingPart) fun capture => ?_
  refine .bind (.modify fun _ => rfl) fun _ => ?_
  exact .whenever ((captureTryFinish_within outside capture).mono sessionPart_of_settingPart)

/-- `capture.start` gives the deck a capture. -/
theorem captureStart_within (payload : Control.CaptureStart) :
    Within settingPart (captureStart outside payload) := by
  refine .reads fun _ => .reads fun deck => ?_
  refine .reads fun _ => .reads fun _ => ?_
  refine .bind (settingPart_perform outside rfl) fun writer => ?_
  refine .bind (within_setDeck fun _ => rfl) fun _ => ?_
  exact .bind (.modify fun _ => rfl) fun _ => .pure _

/-- `capture.stop` finishes the capture. -/
theorem captureStop_within (payload : Control.CaptureIdentity) :
    Within settingPart (captureStop outside payload) := by
  refine .reads fun found => .whenever ?_
  refine .reads fun _ => .reads fun _ => ?_
  refine .bind (within_changeCapture _) fun capture => ?_
  refine .bind (.modify fun _ => rfl) fun _ => ?_
  exact .whenever (captureTryFinish_within outside capture)

variable (deck : DeckSession)

/-- A deck that moves to its next slot either moves a playhead, at most to the last slot, or stops
a source. -/
theorem DeckSession.advanced_cases (index : Nat) (transport : SourceTransport) (slotCount : Int) :
    (∃ next : Nat, ((next : Int) < slotCount ∨ next = 0) ∧
        deck.advanced index transport slotCount =
          { deck with playheads := deck.playheads.set index next }) ∨
      deck.advanced index transport slotCount =
        { deck with
          sourceTransport := deck.sourceTransport.set index { transport with playing := false } } := by
  unfold DeckSession.advanced
  by_cases further : ((deck.playheads.getD index 0 + 1 : Nat) : Int) < slotCount
  · exact Or.inl ⟨_, Or.inl further, if_pos further⟩
  · by_cases loops : transport.loopEnabled = true
    · exact Or.inl ⟨0, Or.inr rfl, (if_neg further).trans (if_pos loops)⟩
    · exact Or.inr ((if_neg further).trans (if_neg loops))

/-- A source that advances leaves which deck it is. -/
theorem DeckSession.advanced_identity (index : Nat) (transport : SourceTransport)
    (slotCount : Int) : (deck.advanced index transport slotCount).identity = deck.identity := by
  cases deck.advanced_cases index transport slotCount with
  | inl moved =>
    obtain ⟨next, -, same⟩ := moved
    rw [same]
    rfl
  | inr stopped =>
    rw [stopped]
    rfl

/-- So does the end of a step. -/
theorem DeckSession.afterProcess_identity : deck.afterProcess.identity = deck.identity := by
  unfold DeckSession.afterProcess
  by_cases settled : deck.capture.all (·.state == .completed) = true
  · rw [if_pos settled]
    rfl
  · rw [if_neg settled]

/-- A source moves on or stops. -/
theorem advanceSource_within (source : SourceBinding) (index : Nat) :
    Within sessionPart (advanceSource source index) := by
  refine .reads fun transport => .whenever ?_
  refine .reads fun held => .reads fun slotCount => ?_
  exact .bind (within_changeDeck fun deck => deck.advanced_identity _ _ _) fun _ => .pure _

/-- `deck.process` moves the deck by a step. -/
theorem deckProcess_within (payload : Control.DeckProcess) :
    Within sessionPart (deckProcess outside payload) := by
  refine .reads fun _ => .reads fun deck => ?_
  refine .bind (.each (fun entry => ?_) _) fun read => ?_
  · refine .reads fun held => .reads fun _ => ?_
    refine .reads fun _ => .reads fun _ => ?_
    refine .bind (sessionPart_perform outside _) fun tensor => ?_
    exact .reads fun _ => .reads fun _ => .pure _
  refine .reads fun receipt => ?_
  refine .bind (within_changeDeck fun _ => rfl) fun deck => ?_
  refine .bind (.reads fun _ =>
    .bind (sessionPart_perform outside _) fun _ => within_check _) fun result => ?_
  refine .reads fun _ => .reads fun _ => ?_
  refine .bind (captureAppend_within outside _) fun _ => ?_
  refine .bind (sessionPart_perform outside _) fun batch => ?_
  refine .reads fun _ => ?_
  refine .bind (publish_within outside _ _ _ _) fun published => ?_
  refine .bind ?_ fun _ => .bind (.modify fun _ => rfl) fun _ => .pure _
  refine .bind (within_changeDeck fun _ => rfl) fun _ => ?_
  refine .bind (.each (fun entry => advanceSource_within _ _) _) fun _ => ?_
  exact .bind (within_changeDeck fun deck => deck.afterProcess_identity) fun _ => .pure _

/-- `deck.controls.set` sets controls. -/
theorem deckControlsSet_within (payload : DeckControlsSet) :
    Within settingPart (deckControlsSet payload) :=
  .reads fun _ => .reads fun _ =>
    within_setDeck fun _ => rfl

/-- `deck.roles.set` sets the roles. -/
theorem deckRolesSet_within (payload : Control.DeckRolesSet) :
    Within settingPart (deckRolesSet payload) :=
  .reads fun _ => .reads fun _ =>
    within_setDeck fun _ => rfl

/-- `deck.transport.set` sets how a source runs. -/
theorem deckTransportSet_within (payload : Control.DeckTransportSet) :
    Within settingPart (deckTransportSet payload) :=
  .reads fun _ => .reads fun _ => .reads fun _ => within_setDeck fun _ => rfl

/-- `deck.seed.set` sets the seed. -/
theorem deckSeedSet_within (payload : Control.DeckSeedSet) :
    Within settingPart (deckSeedSet payload) :=
  .reads fun _ => within_setDeck fun _ => rfl

/-- A reset is counted by a capture that records, and forgets one that has ended. -/
theorem resetCapture_within (generation : Nat) (capture : CaptureSession) :
    Within sessionPart (resetCapture deck generation capture) := by
  refine .ite ?_ (.ite (.modify fun worker => ?_) (.throw _))
  · refine .reads fun _ => ?_
    exact .bind ((within_changeCapture _).mono sessionPart_of_settingPart) fun _ => .pure _
  · cases loaded : worker.deck with
    | none => simp [sessionPart, Frame.keeping, loaded]
    | some deck =>
      simp only [sessionPart, Frame.keeping, loaded, Option.map_some]
      rfl

/-- `deck.reset` moves the deck to a new generation. -/
theorem deckReset_within (payload : Control.DeckReset) :
    Within sessionPart (deckReset outside payload) := by
  refine .reads fun _ => .reads fun deck => ?_
  refine .reads fun _ => ?_
  refine .bind (.whenSome fun capture => resetCapture_within _ _ _) fun _ => ?_
  refine .reads fun ring => ?_
  refine .bind (sessionPart_perform outside _) fun _ => ?_
  refine .bind (sessionPart_perform outside _) fun _ => ?_
  exact within_changeDeck fun _ => rfl

/-- `deck.restart` moves the deck to a new revision and generation. -/
theorem deckRestart_within (payload : Control.DeckIdentity) :
    Within sessionPart (deckRestart outside payload) := by
  refine .reads fun deck => .reads fun _ => ?_
  refine .reads fun _ => ?_
  refine .bind (within_changeDeck fun _ => rfl) fun deck => ?_
  refine .reads fun ring => ?_
  refine .bind (sessionPart_perform outside _) fun _ => ?_
  refine .bind (sessionPart_perform outside _) fun _ => ?_
  exact within_changeDeck fun _ => rfl

/-- A call without a mark changes at most the handles. -/
theorem handlePart_perform (plain : call.marks = false) :
    Within handlePart (perform outside call) := by
  refine within_perform (fun worker answer => ?_) outside
  simp only [Protocol2Worker.record, markedEvents_append plain]

/-- A source takes or gives up its handle. -/
theorem within_changeHandle (sourceId : Control.Uuid) (handle : Option SourceHandle) :
    Within handlePart (changeBound sourceId fun bound => { bound with handle := handle }) := by
  refine .modify fun worker => ?_
  have blind : (worker.bound.update sourceId fun bound =>
      { bound with handle := handle }).mapValues BoundCartridge.identity =
        worker.bound.mapValues BoundCartridge.identity := by
    apply Dict.mapValues_update
    exact fun _ => rfl
  simp only [handlePart, Frame.keeping, blind]

/-- A source is opened for a session once. -/
theorem openSource_within (source : SourceBinding) (capability : Control.Capability) :
    Within handlePart (openSource outside source capability) := by
  refine .reads fun _ => .reads fun bound => ?_
  refine .reads fun receipt => ?_
  refine .bind (.whenever ?_) fun _ => .pure _
  refine .bind (handlePart_perform outside rfl) fun handle => ?_
  exact .bind (within_changeHandle _ _) fun _ => within_check _

/-- The handles of all sources are closed. -/
theorem closeHandles_within : Within handlePart (closeHandles outside) := by
  refine .reads fun sources => ?_
  refine .bind (.each (fun sourceId => ?_) sources) fun _ => .pure _
  refine .reads fun bound => .whenSome fun handle => ?_
  exact .finallyDo (handlePart_perform outside rfl) (within_changeHandle _ _)

/-- Loading an operator only calls. -/
theorem loadDeckOperator_within (payload : DeckLoad) :
    Within handlePart (loadDeckOperator outside payload) := by
  unfold loadDeckOperator
  cases payload.runtime with
  | none =>
    refine .reads fun trusted => ?_
    refine .bind (.bind (handlePart_perform outside rfl) fun _ => within_check _) fun value => ?_
    exact within_check _
  | some runtime =>
    refine .reads fun _ => ?_
    refine .bind (handlePart_perform outside rfl) fun root => ?_
    refine .reads fun pythonRoot => ?_
    exact .bind (handlePart_perform outside rfl) fun value => within_check _

/-- Handles are part of a session that opens. -/
theorem openPart_of_handlePart (before after : Protocol2Worker)
    (changed : handlePart.allows before after) : openPart.allows before after := by
  have closed := Frame.seen (fun worker : Protocol2Worker =>
    ({ worker with player := none, deck := none } : Protocol2Worker)) changed
  exact closed

/-- `player.open` opens a player and its source. -/
theorem playerOpen_within (payload : Control.PlayerOpen) :
    Within openPart (playerOpen outside payload) := by
  refine .reads fun _ => .reads fun _ => ?_
  refine .reads fun source => ?_
  refine .bind ((openSource_within outside _ _).mono openPart_of_handlePart) fun _ => ?_
  exact .bind (.modify fun _ => rfl) fun _ => .pure _

/-- `deck.load` opens a deck and its sources. -/
theorem deckLoad_within (payload : DeckLoad) : Within openPart (deckLoad outside payload) := by
  refine .reads fun _ => .reads fun _ => ?_
  refine .bind ((loadDeckOperator_within outside _).mono openPart_of_handlePart) fun operator => ?_
  refine .reads fun sources => ?_
  refine .bind (.each (fun _ =>
    (openSource_within outside _ _).mono openPart_of_handlePart) _) fun receipts => ?_
  refine .reads fun _ => .reads fun _ => ?_
  refine .reads fun controls => ?_
  exact .bind (.modify fun _ => rfl) fun _ => .pure _

/-- The part of a worker that a command can change. -/
def Command.part : Command → Frame Protocol2Worker
  | .sessionConfigure _ | .codecDescriptor _ | .codecLoad _ => codecPart
  | .rawImportPreflight _ | .rawImportStage _ | .rawImportAbort _ => importPart
  | .ringConfigure _ | .ringRelease _ => ringPart
  | .sourceOpen _ | .sourceClose _ | .profileInspect _ | .profileValidate _ => sourcePart
  | .playerOpen _ | .deckLoad _ => openPart
  | .sessionShutdown _ | .codecUnload _ => anyPart
  | .playerStep _ | .playerReset _ | .deckProcess _ | .deckReset _ | .deckRestart _ => sessionPart
  | _ => settingPart

/-- Every operation stays within the part of its command. -/
theorem operation_within (command : Command) : Within command.part (operation outside command) := by
  have any : ∀ {α : Type} (action : Act α), Within anyPart action := fun action start =>
    leads_iff.mpr ⟨fun _ _ _ => trivial, fun _ _ _ => trivial⟩
  cases command with
  | sessionConfigure request => exact .bind (configure_within _) fun _ => .pure _
  | sessionStatus => exact .pure _
  | sessionShutdown request => exact any _
  | codecDescriptor request => exact .map _ (codecDescriptor_within outside _)
  | codecLoad request => exact .map _ (codecLoad_within outside _)
  | codecUnload request => exact any _
  | sourceOpen request => exact .map _ (sourceOpen_within outside _)
  | sourceClose request => exact .map _ (sourceClose_within outside _)
  | ringConfigure request => exact .map _ (ringConfigure_within outside _)
  | ringRelease request => exact .map _ (ringRelease_within outside _)
  | profileInspect request => exact .map _ (profileInspect_within outside _)
  | profileValidate request => exact .map _ (profileValidate_within outside _)
  | rawImportPreflight request => exact .map _ (rawImportPreflight_within outside _)
  | rawImportStage request => exact .map _ (rawImportStage_within outside _)
  | rawImportAbort request => exact .map _ (rawImportAbort_within outside _)
  | playerOpen request => exact .map _ (playerOpen_within outside _)
  | playerStep request => exact .map _ (playerStep_within outside _)
  | playerReset request => exact .map _ (playerReset_within outside _)
  | playerStatus =>
    unfold operation
    exact .reading _
  | deckLoad request => exact .map _ (deckLoad_within outside _)
  | deckProcess request => exact .map _ (deckProcess_within outside _)
  | deckControlsSet request => exact .map _ (deckControlsSet_within _)
  | deckRolesSet request => exact .map _ (deckRolesSet_within _)
  | deckTransportSet request => exact .map _ (deckTransportSet_within _)
  | deckSeedSet request => exact .map _ (deckSeedSet_within _)
  | deckReset request => exact .map _ (deckReset_within outside _)
  | deckRestart request => exact .map _ (deckRestart_within outside _)
  | deckStatus =>
    unfold operation
    exact .reading _
  | captureStart request =>
    exact .bind (captureStart_within outside _) fun _ => .pure _
  | captureStop request => exact .bind (captureStop_within outside _) fun _ => .pure _
  | captureStatus request =>
    exact .bind (.reads fun _ => .pure _) fun _ => .pure _
  | metricsGet =>
    unfold operation
    exact .reading _

end LatentDeck.CodecHost
