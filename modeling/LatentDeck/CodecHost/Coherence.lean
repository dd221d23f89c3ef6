import LatentDeck.CodecHost.Captures
import LatentDeck.CodecHost.ReceiptIndex

/-!
# Coherence of the warm session

What holds of the session of a worker after any commands, whatever foreign code does: there is at
most one session, it is well formed, and the published capture state is the state of its capture.
-/

namespace LatentDeck.CodecHost

open Effect Fallible Run
open Control (Uuid CaptureState)

/-- A capture stays within its bounds, and has an artifact exactly when it is complete. -/
structure CaptureSession.Sound (capture : CaptureSession) : Prop where
  named : capture.captureId.isNil = false
  slots : capture.latentSlots ≤ capture.maximumLatentSlots
  events : capture.resetEvents ≤ capture.maximumResetEvents
  slotBound : capture.maximumLatentSlots ≤ 1048576
  eventBound : capture.maximumResetEvents ≤ 32
  begun : capture.state ≠ .idle ∧ capture.state ≠ .starting
  artifact : capture.payload.isSome = true ↔ capture.state = .completed

structure PlayerSession.Sound (player : PlayerSession) : Prop where
  named : player.sessionId.isNil = false
  generated : player.streamGeneration ≠ 0
  opened : player.state ≠ .empty

def SoundControl (control : String × Scalar) : Prop :=
  isIdentifier control.1 = true ∧
    match control.2 with
    | .boolean _ => True
    | .integer value => -(2 ^ 63) ≤ value
    | .float value => value.isFinite = true
    | .text value => isText value 4096 = true

structure ControlsSound (controls : Dict String Scalar) : Prop where
  count : controls.entries.length ≤ 64
  each : ∀ control ∈ controls.entries, SoundControl control

/-- A deck has an id, a revision and a generation, its parts fit its sources, and its capture is
sound. -/
structure DeckSession.Sound (deck : DeckSession) : Prop where
  named : deck.sessionId.isNil = false
  revised : deck.deckRevision ≠ 0
  generated : deck.streamGeneration ≠ 0
  opened : deck.state ≠ .empty
  nonempty : 1 ≤ deck.sources.length
  few : deck.sources.length ≤ 16
  slots : deck.sources.map (·.physicalSlot) = List.range' 1 deck.sources.length
  playheads : deck.playheads.length = deck.sources.length
  transport : deck.sourceTransport.map (·.physicalSlot) = deck.sources.map (·.physicalSlot)
  roles : admissibleRoles deck.roles = true
  controls : ControlsSound deck.controls
  seed : deck.seed < 2 ^ 64
  capture : ∀ capture, deck.capture = some capture → capture.Sound

def Sessions.captureStateOf (sessions : Sessions) : CaptureState :=
  (sessions.deck.bind (·.capture)).elim .idle (·.state)

/-- There is at most one session, and it is sound. -/
structure Sessions.Coherent (sessions : Sessions) : Prop where
  exclusive : sessions.player = none ∨ sessions.deck = none
  player : ∀ player, sessions.player = some player → player.Sound
  deck : ∀ deck, sessions.deck = some deck → deck.Sound
  capture : sessions.captureState = sessions.captureStateOf

/-- The sessions are coherent, and what is named on the wire has a name. -/
structure Protocol2Worker.Coherent (worker : Protocol2Worker) : Prop where
  named : worker.sessionId.isNil = false
  sessions : worker.toSessions.Coherent
  rings : ∀ ring ∈ worker.rings.values, ring.ringId.isNil = false

theorem Protocol2Worker.Coherent.of_same {before after : Protocol2Worker}
    (coherent : before.Coherent) (named : after.sessionId = before.sessionId)
    (sessions : after.toSessions = before.toSessions) (rings : after.rings = before.rings) :
    after.Coherent :=
  ⟨named ▸ coherent.named, sessions ▸ coherent.sessions, rings ▸ coherent.rings⟩

variable {sessions : Sessions}

theorem Sessions.coherent_empty (player : sessions.player = none) (deck : sessions.deck = none)
    (idle : sessions.captureState = .idle) : sessions.Coherent where
  exclusive := Or.inl player
  player _ open_ := by
    rw [player] at open_
    exact nomatch open_
  deck _ loaded := by
    rw [deck] at loaded
    exact nomatch loaded
  capture := by
    rw [idle, captureStateOf, deck]
    rfl

theorem Sessions.Coherent.with_player (coherent : sessions.Coherent) {player : PlayerSession}
    (vacant : sessions.deck = none) (sound : player.Sound) :
    ({ sessions with player := some player } : Sessions).Coherent where
  exclusive := Or.inr vacant
  player other open_ := by
    cases open_
    exact sound
  deck := coherent.deck
  capture := coherent.capture

theorem Sessions.Coherent.with_deck (vacant : sessions.player = none) {deck : DeckSession}
    {state : CaptureState} (sound : deck.Sound) (same : state = deck.capture.elim .idle (·.state)) :
    ({ sessions with deck := some deck, captureState := state } : Sessions).Coherent where
  exclusive := Or.inl vacant
  player _ open_ := by
    rw [vacant] at open_
    exact nomatch open_
  deck other loaded := by
    cases loaded
    exact sound
  capture := same

/-- An action keeps the worker coherent, whichever way it ends. -/
abbrev Coheres {α : Type} (action : Act α) : Prop :=
  Maintains Protocol2Worker.Coherent (fun _ => True) action

section Steps

variable {α : Type} (outside : Outside)

theorem coheres_of_within {frame : Frame Protocol2Worker} {action : Act α}
    (within : Within frame action)
    (same : ∀ before after, frame.allows before after → before.Coherent → after.Coherent) :
    Coheres action :=
  fun start coherent => (within start).mono (fun _ _ changed => same _ _ changed coherent)
    (fun _ _ changed => ⟨same _ _ changed coherent, trivial⟩)

theorem coheres_perform (call : Call) : Coheres (perform outside call) := by
  intro start coherent
  rw [leads_perform]
  exact ⟨fun _ _ => coherent.of_same rfl rfl rfl,
    fun _ _ => ⟨coherent.of_same rfl rfl rfl, trivial⟩⟩

theorem coheres_reading (look : Protocol2Worker → Except Raised α) : Coheres (reading look) :=
  .reading fun _ _ _ _ => trivial

theorem coheres_reads {β : Type} {look : Protocol2Worker → Except Raised β} {next : β → Act α}
    (rest : ∀ value, Coheres (next value)) : Coheres (reading look >>= next) :=
  .bind (coheres_reading look) rest

theorem coheres_check (result : Except Raised α) : Coheres (check result) := coheres_reading _

theorem coheres_modify {change : Protocol2Worker → Protocol2Worker}
    (named : ∀ worker, (change worker).sessionId = worker.sessionId)
    (sessions : ∀ worker, (change worker).toSessions = worker.toSessions)
    (rings : ∀ worker, (change worker).rings = worker.rings) : Coheres (modify change) :=
  .modify fun worker coherent =>
    coherent.of_same (named worker) (sessions worker) (rings worker)

theorem Sessions.Coherent.no_deck (coherent : sessions.Coherent) {player : PlayerSession}
    (open_ : sessions.player = some player) : sessions.deck = none := by
  cases coherent.exclusive with
  | inl vacant =>
    rw [open_] at vacant
    exact nomatch vacant
  | inr vacant => exact vacant

theorem Sessions.Coherent.no_player (coherent : sessions.Coherent) {deck : DeckSession}
    (loaded : sessions.deck = some deck) : sessions.player = none := by
  cases coherent.exclusive with
  | inl vacant => exact vacant
  | inr vacant =>
    rw [loaded] at vacant
    exact nomatch vacant

theorem coheres_changePlayer {change : PlayerSession → PlayerSession}
    (sound : ∀ player, player.Sound → (change player).Sound) : Coheres (changePlayer change) := by
  refine .bind (.modify fun worker coherent => ?_) fun _ => coheres_reading _
  cases open_ : worker.player with
  | none =>
    exact coherent.of_same rfl
      (congrArg (fun player => { worker.toSessions with player := player }) open_.symm) rfl
  | some player =>
    have vacant := coherent.sessions.no_deck open_
    have kept := coherent.sessions.with_player vacant
      (sound player (coherent.sessions.player player open_))
    exact ⟨coherent.named, kept, coherent.rings⟩

/-- A sound change of the deck that leaves its capture alone keeps the worker coherent. -/
theorem coheres_changeDeck {change : DeckSession → DeckSession}
    (capture : ∀ deck, (change deck).capture = deck.capture)
    (sound : ∀ deck, deck.Sound → (change deck).Sound) : Coheres (changeDeck change) := by
  refine .bind (.modify fun worker coherent => ?_) fun _ => coheres_reading _
  cases loaded : worker.deck with
  | none =>
    exact coherent.of_same rfl
      (congrArg (fun deck => { worker.toSessions with deck := deck }) loaded.symm) rfl
  | some deck =>
    have vacant := coherent.sessions.no_player loaded
    have state : worker.captureState = (change deck).capture.elim .idle (·.state) := by
      have agrees := coherent.sessions.capture
      simpa [Sessions.captureStateOf, loaded, capture deck] using agrees
    have kept := Sessions.Coherent.with_deck vacant
      (sound deck (coherent.sessions.deck deck loaded)) state
    exact ⟨coherent.named, kept, coherent.rings⟩

end Steps

section Handlers

variable (outside : Outside)

theorem handlePart_coherent (before after : Protocol2Worker)
    (changed : handlePart.allows before after) (coherent : before.Coherent) : after.Coherent :=
  coherent.of_same (Frame.seen Protocol2Worker.sessionId changed)
    (Frame.seen Protocol2Worker.toSessions changed) (Frame.seen Protocol2Worker.rings changed)

/-- `player.open` opens a sound player where no session is. -/
theorem playerOpen_coheres (payload : Control.PlayerOpen)
    (named : payload.playerSessionId.isNil = false) (generated : payload.streamGeneration ≠ 0) :
    Coheres (playerOpen outside payload) := by
  intro start coherent
  rw [playerOpen]
  refine leads_read (fun _ _ => ?_) fun _ _ => ⟨coherent, trivial⟩
  refine leads_read (fun _ admitted => ?_) fun _ _ => ⟨coherent, trivial⟩
  refine leads_checked (fun source _ => ?_) fun _ _ => ⟨coherent, trivial⟩
  refine (openSource_within outside source .player start).bind (fun _ state changed => ?_)
    (fun _ _ changed => ⟨handlePart_coherent _ _ changed coherent, trivial⟩)
  rw [leads_bind, leads_modify, leads_pure]
  have still := handlePart_coherent _ _ changed coherent
  have vacant : state.deck = none :=
    (Frame.seen (fun worker : Protocol2Worker => worker.deck) changed).trans
      (vacant_of_admitted admitted).2
  have sound : PlayerSession.Sound ⟨payload.playerSessionId, source,
      payload.streamGeneration.toNat, 0, 0, .ready⟩ := by
    refine ⟨named, fun zero => generated ?_, by simp⟩
    exact UInt64.toNat_inj.mp zero
  exact ⟨still.named, still.sessions.with_player vacant sound, still.rings⟩

theorem publish_coheres (sessionId : Uuid) (streamGeneration sequence : Nat)
    (batch : DecodedBatch) : Coheres (publish outside sessionId streamGeneration sequence batch) :=
  coheres_reads fun _ => coheres_reads fun _ =>
    .bind (coheres_perform outside _) fun _ => coheres_reads fun _ => .pure _

theorem playerStep_coheres (payload : Control.PlayerStep) :
    Coheres (playerStep outside payload) := by
  refine coheres_reads fun _ => ?_
  refine coheres_reads fun player => ?_
  refine coheres_reads fun held => ?_
  refine coheres_reads fun slotCount => ?_
  refine .bind ?_ fun player => ?_
  · refine .ite (.pure _) (.ite ?_ (.bind ?_ fun _ => ?_))
    · exact coheres_changePlayer fun _ sound => ⟨sound.named, sound.generated, sound.opened⟩
    · exact coheres_changePlayer fun _ sound => ⟨sound.named, sound.generated, by simp⟩
    · exact .throw trivial
  refine .bind (coheres_perform outside _) fun tensor => ?_
  refine coheres_reads fun _ => coheres_reads fun _ => ?_
  refine .bind (coheres_perform outside _) fun batch => ?_
  refine coheres_reads fun _ => ?_
  refine .bind (coheres_changePlayer fun _ sound => ⟨sound.named, sound.generated,
    sound.opened⟩) fun player => ?_
  refine .bind (publish_coheres outside _ _ _ _) fun published => ?_
  refine .bind (coheres_changePlayer fun _ sound => ⟨sound.named, sound.generated,
    by simp⟩) fun player => ?_
  exact .bind (coheres_modify (fun _ => rfl) (fun _ => rfl) fun _ => rfl) fun _ => .pure _

theorem playerReset_coheres (payload : Control.PlayerReset)
    (generated : payload.newStreamGeneration ≠ 0) : Coheres (playerReset outside payload) := by
  refine coheres_reads fun _ => coheres_reads fun _ => ?_
  refine coheres_reads fun _ => coheres_reads fun _ => ?_
  refine .bind (coheres_perform outside _) fun _ => ?_
  refine .bind (coheres_perform outside _) fun _ => ?_
  refine coheres_changePlayer fun _ sound => ⟨sound.named, fun zero => generated ?_, by simp⟩
  exact UInt64.toNat_inj.mp zero

theorem transportState_ne_empty (transport : List SourceTransport) :
    transportState transport ≠ .empty := by
  unfold transportState
  by_cases playing : transport.any (·.playing) = true <;> simp [playing]

variable {deck : DeckSession}

theorem DeckSession.Sound.with_capture (sound : deck.Sound) {capture : Option CaptureSession}
    {state : Control.DeckState} (opened : state ≠ .empty)
    (held : ∀ found, capture = some found → found.Sound) :
    ({ deck with capture := capture, state := state } : DeckSession).Sound :=
  { sound with opened := opened, capture := held }

variable {capture : CaptureSession}

/-- A capture that settles keeps the worker coherent. -/
theorem Protocol2Worker.Coherent.settled {worker : Protocol2Worker} (coherent : worker.Coherent)
    (loaded : worker.deck = some deck)
    (held : deck.capture = some capture) {change : CaptureSession → CaptureSession}
    (sound : (change capture).Sound) {state : CaptureState}
    (same : (change capture).state = state) : (worker.settled deck change state).Coherent := by
  have vacant := coherent.sessions.no_player loaded
  have deckSound := coherent.sessions.deck deck loaded
  have changed : ({ deck.changeCapture change with
      state := transportState deck.sourceTransport } : DeckSession).Sound := by
    refine deckSound.with_capture (transportState_ne_empty _) fun found taken => ?_
    have same : change capture = found := by simpa [DeckSession.changeCapture, held] using taken
    rw [← same]
    exact sound
  have agrees : state = (deck.changeCapture change).capture.elim .idle (·.state) := by
    simp [DeckSession.changeCapture, held, same]
  exact ⟨coherent.named, Sessions.Coherent.with_deck vacant changed agrees, coherent.rings⟩

theorem CaptureSession.Sound.faulted (sound : capture.Sound) : capture.faulted.Sound :=
  { sound with begun := by simp [CaptureSession.faulted], artifact := by simp [CaptureSession.faulted] }

theorem CaptureSession.Sound.completed (sound : capture.Sound)
    (payload : CapturePayload) : (capture.completed payload).Sound :=
  { sound with
    begun := by simp [CaptureSession.completed], artifact := by simp [CaptureSession.completed] }

theorem Protocol2Worker.Coherent.captureFaulted {worker : Protocol2Worker}
    (coherent : worker.Coherent) (loaded : worker.deck = some deck)
    (held : deck.capture = some capture) :
    (worker.captureFaulted outside deck capture).Coherent := by
  have sound := (coherent.sessions.deck deck loaded).capture capture held
  have recorded : (worker.record (.abortCapture capture.writer)
      (outside.answer (.abortCapture capture.writer))).Coherent := coherent.of_same rfl rfl rfl
  exact recorded.settled loaded held sound.faulted rfl

variable {start : Protocol2Worker}

theorem captureTryFinish_coherent (coherent : start.Coherent) (loaded : start.deck = some deck)
    (held : deck.capture = some capture) :
    Leads (captureTryFinish outside capture) start (fun _ state => state.Coherent)
      (fun _ state => state.Coherent ∧ True) := by
  have asked : (start.askedToFinish outside capture).Coherent := coherent.of_same rfl rfl rfl
  have sound := (coherent.sessions.deck deck loaded).capture capture held
  rw [leads_captureTryFinish loaded held]
  refine ⟨fun payload _ => ?_, fun _ => asked, fun error _ _ => ⟨?_, trivial⟩⟩
  · exact asked.settled loaded held (sound.completed payload) rfl
  · exact asked.captureFaulted outside loaded held

/-- A capture that records a slot keeps the worker coherent. -/
theorem captureAppend_coheres (tensor : Tensor) : Coheres (captureAppend outside tensor) := by
  intro start coherent
  cases loaded : start.deck with
  | none =>
    rw [captureAppend, leads_bind, leads_reading, loaded]
    exact ⟨fun _ never => (by cases never), fun _ _ => ⟨coherent, trivial⟩⟩
  | some deck =>
    cases recording : deck.recording with
    | none =>
      rw [leads_captureAppend_idle loaded recording]
      exact coherent
    | some capture =>
      have held := (DeckSession.capture_of_recording recording).1
      have sound := (coherent.sessions.deck deck loaded).capture capture held
      rw [leads_captureAppend loaded recording]
      refine ⟨fun _ => ⟨coherent.captureFaulted outside loaded held, trivial⟩, fun below => ?_⟩
      refine ⟨fun error _ => ⟨?_, trivial⟩, fun _ => ?_⟩
      · have recorded : (start.record (.appendSlot capture.writer tensor capture.pendingResetEvent)
            (.error error)).Coherent := coherent.of_same rfl rfl rfl
        exact recorded.captureFaulted outside loaded held
      · have appended : (start.slotAppended deck capture tensor).Coherent := by
          have vacant := coherent.sessions.no_player loaded
          have deckSound := coherent.sessions.deck deck loaded
          have changed : (deck.changeCapture .appended).Sound := by
            refine deckSound.with_capture deckSound.opened fun found taken => ?_
            have same : capture.appended = found := by
              simpa [DeckSession.changeCapture, held] using taken
            rw [← same]
            exact { sound with slots := below }
          have agrees : start.captureState =
              (deck.changeCapture .appended).capture.elim .idle (·.state) := by
            have state := coherent.sessions.capture
            simpa [Sessions.captureStateOf, loaded, held, DeckSession.changeCapture,
              CaptureSession.appended] using state
          exact ⟨coherent.named, Sessions.Coherent.with_deck vacant changed agrees, coherent.rings⟩
        refine ⟨fun _ => appended, fun _ => ?_⟩
        refine captureTryFinish_coherent outside appended rfl ?_
        simp [DeckSession.changeCapture, held]

theorem captureStart_coheres (payload : Control.CaptureStart)
    (named : payload.captureId.isNil = false)
    (slotBound : payload.maximumLatentSlots.toNat ≤ 1048576)
    (eventBound : payload.maximumResetEvents.toNat ≤ 32) :
    Coheres (captureStart outside payload) := by
  intro start coherent
  rw [captureStart]
  refine leads_read (fun _ _ => ?_) fun _ _ => ⟨coherent, trivial⟩
  refine leads_read (fun deck required => ?_) fun _ _ => ⟨coherent, trivial⟩
  have loaded := (deck_of_require required).1
  refine leads_demanded (fun _ => ?_) fun _ => ⟨coherent, trivial⟩
  refine leads_checked (fun _ _ => ?_) fun _ _ => ⟨coherent, trivial⟩
  rw [leads_bind, leads_perform]
  refine ⟨fun writer _ => ?_, fun _ _ => ⟨coherent.of_same rfl rfl rfl, trivial⟩⟩
  rw [leads_bind, leads_changeDeck _ (by exact loaded), leads_bind, leads_modify, leads_pure]
  have vacant := coherent.sessions.no_player loaded
  have deckSound := coherent.sessions.deck deck loaded
  refine ⟨coherent.named, Sessions.Coherent.with_deck vacant ?_ rfl, coherent.rings⟩
  refine deckSound.with_capture (by simp) fun found taken => ?_
  rw [← Option.some.inj taken]
  exact ⟨named, Nat.zero_le _, Nat.zero_le _, slotBound, eventBound, by simp, by simp⟩

theorem captureStop_coheres (payload : Control.CaptureIdentity) :
    Coheres (captureStop outside payload) := by
  intro start coherent
  rw [captureStop]
  refine leads_read (fun found required => ?_) fun _ _ => ⟨coherent, trivial⟩
  have here := capture_of_require required
  rw [leads_whenever]
  refine ⟨fun unfinished => ?_, fun _ => coherent⟩
  rw [stopRecording]
  refine leads_demanded (fun _ => ?_) fun _ => ⟨coherent, trivial⟩
  refine leads_demanded (fun recording => ?_) fun _ => ⟨coherent, trivial⟩
  rw [leads_bind, leads_changeCapture here.1 _ here.2, leads_bind, leads_modify, leads_whenever]
  have deckSound := coherent.sessions.deck _ here.1
  have sound := deckSound.capture _ here.2
  have vacant := coherent.sessions.no_player here.1
  have finalizing : CaptureSession.Sound { found.2 with state := .finalizing } :=
    { sound with begun := by simp, artifact := by simp [unfinished] }
  have changed : (found.1.changeCapture fun capture => { capture with
      state := .finalizing }).Sound := by
    refine deckSound.with_capture deckSound.opened fun other taken => ?_
    have same : { found.2 with state := .finalizing } = other := by
      simpa [DeckSession.changeCapture, here.2] using taken
    rw [← same]
    exact finalizing
  have agrees : CaptureState.finalizing = (found.1.changeCapture fun capture => { capture with
      state := .finalizing }).capture.elim .idle (·.state) := by
    simp [DeckSession.changeCapture, here.2]
  have still : ({ start with
      deck := some (found.1.changeCapture fun capture => { capture with state := .finalizing })
      captureState := .finalizing } : Protocol2Worker).Coherent :=
    ⟨coherent.named, Sessions.Coherent.with_deck vacant changed agrees, coherent.rings⟩
  refine ⟨fun _ => ?_, fun _ => still⟩
  refine captureTryFinish_coherent outside still rfl ?_
  simp [DeckSession.changeCapture, here.2]

/-- A control that is admissible in a command is sound. -/
theorem soundControl_of_admissible {control : ControlWire}
    (admissible : isIdentifier control.name = true ∧ control.admissibleValue = true) :
    SoundControl (control.name, control.value) := by
  refine ⟨admissible.1, ?_⟩
  have value := admissible.2
  unfold ControlWire.admissibleValue at value
  cases shape : control.value with
  | boolean flag => trivial
  | integer number =>
    rw [shape] at value
    cases kind : control.kind with
    | integer =>
      simp only [kind, Bool.and_eq_true, decide_eq_true_eq] at value
      exact value.1
    | number =>
      simp only [kind, Bool.and_eq_true, decide_eq_true_eq] at value
      exact value.1
    | boolean => simp [kind] at value
    | text => simp [kind] at value
  | float number =>
    rw [shape] at value
    cases kind : control.kind with
    | number => simpa [kind] using value
    | _ => simp [kind] at value
  | text string =>
    rw [shape] at value
    cases kind : control.kind with
    | text => simpa [kind] using value
    | _ => simp [kind] at value

variable {controls : List ControlWire}

/-- Admissible controls stay sound in the dictionary that the deck keeps. -/
theorem sound_controlDict :
    ∀ {kept made : Dict String Scalar},
      (∀ control ∈ controls, isIdentifier control.name = true ∧ control.admissibleValue = true) →
      (∀ control ∈ kept.entries, SoundControl control) → controlDict controls kept = .ok made →
      made.entries.length ≤ kept.entries.length + controls.length ∧
        ∀ control ∈ made.entries, SoundControl control := by
  induction controls with
  | nil =>
    intro kept made _ sound built
    cases built
    exact ⟨Nat.le_refl _, sound⟩
  | cons control controls ih =>
    intro kept made admissible sound built
    have first := soundControl_of_admissible (admissible control List.mem_cons_self)
    have later := fun other member => admissible other (List.mem_cons_of_mem control member)
    have built' : controlDict controls (kept.insert control.name control.value) = .ok made := by
      have named := first.1
      have finite := first.2
      unfold controlDict at built
      rw [if_neg (by simp [named])] at built
      cases shape : control.value with
      | float number =>
        rw [shape] at finite
        simp only [shape, show number.isFinite = true from finite, if_true] at built
        exact built
      | _ => simpa only [shape] using built
    have next := ih later (fun other member => ?_) built'
    · have grown := Dict.length_assign_le control.name control.value kept.entries
      refine ⟨Nat.le_trans next.1 ?_, next.2⟩
      show (Dict.assign control.name control.value kept.entries).length + _ ≤ _
      rw [List.length_cons]
      omega
    · cases Dict.mem_assign member with
      | inl same => exact same ▸ first
      | inr before => exact sound other before

theorem sound_controlsOf (admissible : admissibleControls controls = true)
    {made : Dict String Scalar} (built : controlsOf controls = .ok made) : ControlsSound made := by
  unfold admissibleControls at admissible
  simp only [Bool.and_eq_true, decide_eq_true_eq, List.all_eq_true] at admissible
  unfold controlsOf at built
  rw [guarded_eq_ok] at built
  have sound := sound_controlDict admissible.1.2
    (fun _ never => absurd never List.not_mem_nil) built.2
  refine ⟨Nat.le_trans sound.1 ?_, sound.2⟩
  have count := admissible.1.1
  simpa [Dict.empty] using count

/-- The sources of a deck are as many as the payload brought, in the slots `1..N`. -/
theorem deckSources_ok {payloads : List Control.SourceBinding} {sources : List SourceBinding}
    (ordered : deckSources payloads = .ok sources) :
    sources.length = payloads.length ∧
      sources.map (·.physicalSlot) = List.range' 1 sources.length := by
  unfold deckSources at ordered
  obtain ⟨bindings, mapped, ordered⟩ := ok_of_bind ordered
  have count := length_of_mapM mapped
  by_cases exact_ : (bindings.insertionSort (·.physicalSlot ≤ ·.physicalSlot)).map
      (·.physicalSlot) = List.range' 1
        (bindings.insertionSort (·.physicalSlot ≤ ·.physicalSlot)).length
  · simp only [exact_, if_true] at ordered
    cases ordered
    refine ⟨?_, exact_⟩
    rw [List.length_insertionSort, count]
  · simp only [exact_, if_false] at ordered
    exact nomatch ordered

theorem freshDeck_sound {platform : Platform} {payload : DeckLoad}
    (admissible : payload.admissible platform = true) {operator : Operator}
    {sources : List SourceBinding} {controls : Dict String Scalar}
    (shape : sources.length = payload.sources.length ∧
      sources.map (·.physicalSlot) = List.range' 1 sources.length)
    (built : controlsOf payload.controls = .ok controls) :
    (freshDeck payload operator sources controls).Sound := by
  unfold DeckLoad.admissible at admissible
  simp only [Bool.and_eq_true, Bool.not_eq_true', decide_eq_true_eq, bne_iff_ne, ne_eq]
    at admissible
  obtain ⟨⟨⟨⟨⟨⟨⟨⟨named, nonempty⟩, few⟩, -⟩, -⟩, roles⟩, -⟩, bound⟩, generated⟩ := admissible
  exact {
    named := named.1.1.1.1.1
    revised := Nat.one_ne_zero
    generated := fun zero => generated (UInt64.toNat_inj.mp zero)
    opened := by simp [freshDeck]
    nonempty := shape.1 ▸ nonempty
    few := shape.1 ▸ few
    slots := shape.2
    playheads := List.length_map _
    transport := by simp [freshDeck]
    roles := roles
    controls := sound_controlsOf bound built
    seed := payload.seed.toNat_lt
    capture := nofun }

/-- `deck.load` loads a sound deck where no session is. -/
theorem deckLoad_coheres (payload : DeckLoad)
    (admissible : payload.admissible outside.platform = true) :
    Coheres (deckLoad outside payload) := by
  intro start coherent
  rw [deckLoad]
  refine leads_read (fun _ _ => ?_) fun _ _ => ⟨coherent, trivial⟩
  refine leads_read (fun _ admitted => ?_) fun _ _ => ⟨coherent, trivial⟩
  refine (loadDeckOperator_within outside payload start).bind (fun operator state changed => ?_)
    (fun _ _ changed => ⟨handlePart_coherent _ _ changed coherent, trivial⟩)
  have loaded := handlePart_coherent _ _ changed coherent
  refine leads_checked (fun sources ordered => ?_) fun _ _ => ⟨loaded, trivial⟩
  refine (Within.each (fun source => openSource_within outside source .realtime) sources state).bind
    (fun receipts state opened => ?_)
    (fun _ _ opened => ⟨handlePart_coherent _ _ opened loaded, trivial⟩)
  have still := handlePart_coherent _ _ opened loaded
  refine leads_checked (fun _ _ => ?_) fun _ _ => ⟨still, trivial⟩
  refine leads_checked (fun _ _ => ?_) fun _ _ => ⟨still, trivial⟩
  refine leads_checked (fun controls built => ?_) fun _ _ => ⟨still, trivial⟩
  rw [leads_bind, leads_modify, leads_pure]
  have vacant : state.player = none :=
    (Frame.seen (fun worker : Protocol2Worker => worker.player) opened).trans
      ((Frame.seen (fun worker : Protocol2Worker => worker.player) changed).trans
        (vacant_of_admitted admitted).1)
  have noDeck : state.deck = none :=
    (Frame.seen (fun worker : Protocol2Worker => worker.deck) opened).trans
      ((Frame.seen (fun worker : Protocol2Worker => worker.deck) changed).trans
        (vacant_of_admitted admitted).2)
  have shape := deckSources_ok ordered
  have idle : state.captureState = .idle := by
    have agrees := still.sessions.capture
    rw [Sessions.captureStateOf, noDeck] at agrees
    exact agrees
  refine ⟨still.named, ?_, still.rings⟩
  refine Sessions.Coherent.with_deck vacant
    (?_ : (freshDeck payload operator sources controls).Sound) idle
  exact freshDeck_sound admissible shape built

/-- A deck that moves to its next slot stays sound. -/
theorem DeckSession.Sound.advanced (sound : deck.Sound) (index : Nat) {transport : SourceTransport}
    (current : deck.sourceTransport[index]? = some transport) (slotCount : Int) :
    (deck.advanced index transport slotCount).Sound := by
  cases deck.advanced_cases index transport slotCount with
  | inl moved =>
    obtain ⟨next, -, same⟩ := moved
    rw [same]
    exact { sound with playheads := by simpa using sound.playheads }
  | inr stopped =>
    rw [stopped]
    refine { sound with transport := ?_ }
    show (deck.sourceTransport.set index _).map _ = deck.sources.map _
    rw [← sound.transport, List.map_set]
    apply List.ext_getElem?
    intro other
    rw [List.getElem?_set]
    by_cases here : index = other
    · rw [← here, List.getElem?_map, current]
      have inside := List.getElem?_eq_some_iff.mp current
      simp [inside.choose]
    · simp [here]

/-- The move of one source keeps the worker coherent. -/
theorem advanceSource_coheres (source : SourceBinding) (index : Nat) :
    Coheres (advanceSource source index) := by
  intro start coherent
  rw [advanceSource]
  refine leads_read (fun transport current => ?_) fun _ _ => ⟨coherent, trivial⟩
  rw [leads_whenever]
  refine ⟨fun _ => ?_, fun _ => coherent⟩
  refine leads_read (fun held _ => ?_) fun _ _ => ⟨coherent, trivial⟩
  refine leads_checked (fun slotCount _ => ?_) fun _ _ => ⟨coherent, trivial⟩
  cases loaded : start.deck with
  | none =>
    rw [loaded] at current
    exact nomatch current
  | some deck =>
    rw [leads_bind, leads_changeDeck _ loaded, leads_pure]
    have there : deck.sourceTransport[index]? = some transport := by
      rw [loaded] at current
      cases found : deck.sourceTransport[index]? with
      | none => simp [found] at current
      | some other =>
        simp only [Option.bind_some, found, Option.elim_some, Except.ok.injEq] at current
        rw [current]
    have vacant := coherent.sessions.no_player loaded
    have sound := (coherent.sessions.deck deck loaded).advanced index there slotCount
    have same : (deck.advanced index transport slotCount).capture = deck.capture := by
      cases deck.advanced_cases index transport slotCount with
      | inl moved =>
        obtain ⟨next, -, same⟩ := moved
        rw [same]
      | inr stopped => rw [stopped]
    have agrees : start.captureState =
        (deck.advanced index transport slotCount).capture.elim .idle (·.state) := by
      have state := coherent.sessions.capture
      simpa [Sessions.captureStateOf, loaded, same] using state
    exact ⟨coherent.named, Sessions.Coherent.with_deck vacant sound agrees, coherent.rings⟩

theorem DeckSession.Sound.afterProcess (sound : deck.Sound) : deck.afterProcess.Sound := by
  unfold DeckSession.afterProcess
  by_cases settled : deck.capture.all (·.state == .completed) = true
  · rw [if_pos settled]
    exact { sound with opened := transportState_ne_empty _ }
  · rw [if_neg settled]
    exact sound

theorem deckProcess_coheres (payload : Control.DeckProcess) :
    Coheres (deckProcess outside payload) := by
  refine coheres_reads fun _ => coheres_reads fun _ => ?_
  refine .bind (.each _ fun entry _ => ?_) fun read => ?_
  · refine coheres_reads fun held => ?_
    refine coheres_reads fun _ => coheres_reads fun _ => ?_
    refine coheres_reads fun _ => ?_
    refine .bind (coheres_perform outside _) fun _ => ?_
    exact coheres_reads fun _ => coheres_reads fun _ => .pure _
  refine coheres_reads fun receipt => ?_
  refine .bind (coheres_changeDeck (fun _ => rfl) fun _ sound => { sound with }) fun deck => ?_
  refine .bind (coheres_reads fun _ =>
    .bind (coheres_perform outside _) fun _ => coheres_check _) fun result => ?_
  refine coheres_reads fun _ => coheres_reads fun _ => ?_
  refine .bind (captureAppend_coheres outside _) fun _ => ?_
  refine .bind (coheres_perform outside _) fun batch => ?_
  refine coheres_reads fun _ => ?_
  refine .bind (publish_coheres outside _ _ _ _) fun published => ?_
  refine .bind ?_ fun _ => .bind
    (coheres_modify (fun _ => rfl) (fun _ => rfl) fun _ => rfl) fun _ => .pure _
  refine .bind (coheres_changeDeck (fun _ => rfl) fun _ sound => { sound with }) fun _ => ?_
  refine .bind (.each _ fun entry _ => advanceSource_coheres entry.1 entry.2) fun _ => ?_
  refine .bind (coheres_changeDeck (fun deck => ?_) fun _ sound => sound.afterProcess)
    fun _ => .pure ()
  unfold DeckSession.afterProcess
  by_cases settled : deck.capture.all (·.state == .completed) = true
  · rw [if_pos settled]
  · rw [if_neg settled]

theorem deckControlsSet_coheres (payload : DeckControlsSet)
    (admissible : admissibleControls payload.controls = true) :
    Coheres (deckControlsSet payload) := by
  refine coheres_reads fun _ => ?_
  refine .bind_with (fun start coherent => ?_) fun controls sound =>
    coheres_changeDeck (fun _ => rfl) fun _ before => { before with controls := sound }
  rw [leads_check]
  exact ⟨fun controls built => ⟨coherent, sound_controlsOf admissible built⟩,
    fun _ _ => ⟨coherent, trivial⟩⟩

theorem deckRolesSet_coheres (payload : Control.DeckRolesSet)
    (admissible : admissibleRoles (roleBindings payload.roles.asSlice) = true) :
    Coheres (deckRolesSet payload) := by
  refine coheres_reads fun _ => coheres_reads fun _ => ?_
  exact coheres_changeDeck (fun _ => rfl) fun _ sound => { sound with roles := admissible }

theorem deckTransportSet_coheres (payload : Control.DeckTransportSet) :
    Coheres (deckTransportSet payload) := by
  intro start coherent
  rw [deckTransportSet]
  refine leads_read (fun deck required => ?_) fun _ _ => ⟨coherent, trivial⟩
  have loaded := (deck_of_require required).1
  refine leads_checked (fun _ _ => ?_) fun _ _ => ⟨coherent, trivial⟩
  refine leads_demanded (fun exact_ => ?_) fun _ => ⟨coherent, trivial⟩
  rw [leads_changeDeck _ loaded]
  have vacant := coherent.sessions.no_player loaded
  have sound := coherent.sessions.deck deck loaded
  have agrees : start.captureState = deck.capture.elim .idle (·.state) := by
    have state := coherent.sessions.capture
    simpa [Sessions.captureStateOf, loaded] using state
  refine ⟨coherent.named, Sessions.Coherent.with_deck vacant ?_ agrees, coherent.rings⟩
  exact { sound with transport := exact_, opened := transportState_ne_empty _ }

theorem deckSeedSet_coheres (payload : Control.DeckSeedSet) : Coheres (deckSeedSet payload) :=
  coheres_reads fun _ => coheres_changeDeck (fun _ => rfl) fun _ sound =>
    { sound with seed := payload.seed.toNat_lt }

theorem DeckSession.Sound.afterReset (sound : deck.Sound) {generation : Nat}
    (generated : generation ≠ 0) (preserve : Bool) : (deck.afterReset generation preserve).Sound :=
  { sound with
    generated := generated
    opened := by
      unfold DeckSession.afterReset
      by_cases recording : deck.recording.isSome = true <;> simp [recording]
    playheads := by
      unfold DeckSession.afterReset
      cases preserve with
      | true => exact sound.playheads
      | false => exact List.length_map _ }

/-- The capture bookkeeping of a reset keeps the worker coherent. -/
theorem resetCapture_coherent (coherent : start.Coherent) (loaded : start.deck = some deck)
    (held : deck.capture = some capture) (generation : Nat) :
    Leads (resetCapture deck generation capture) start (fun _ state => state.Coherent)
      (fun _ state => state.Coherent ∧ True) := by
  have vacant := coherent.sessions.no_player loaded
  have deckSound := coherent.sessions.deck deck loaded
  have sound := deckSound.capture capture held
  rw [resetCapture, leads_ite]
  refine ⟨fun recording => ?_, fun _ => ?_⟩
  · refine leads_demanded (fun below => ?_) fun _ => ⟨coherent, trivial⟩
    rw [leads_bind, leads_changeCapture loaded _ held, leads_pure]
    have agrees := coherent.sessions.capture
    refine ⟨coherent.named, Sessions.Coherent.with_deck vacant
      (deckSound.with_capture deckSound.opened fun found taken => ?_) ?_, coherent.rings⟩
    · have same := Option.some.inj ((congrArg (Option.map _) held).symm.trans taken)
      rw [← same]
      exact { sound with events := below }
    · simpa [Sessions.captureStateOf, loaded, held, DeckSession.changeCapture] using agrees
  · rw [leads_ite]
    refine ⟨fun _ => ?_, fun _ => ⟨coherent, trivial⟩⟩
    rw [leads_modify, loaded]
    refine ⟨coherent.named, Sessions.Coherent.with_deck vacant
      (deckSound.with_capture deckSound.opened (by rintro _ ⟨⟩)) rfl, coherent.rings⟩

theorem deckReset_coheres (payload : Control.DeckReset)
    (generated : payload.newStreamGeneration ≠ 0) : Coheres (deckReset outside payload) := by
  intro start coherent
  rw [deckReset]
  refine leads_read (fun _ _ => ?_) fun _ _ => ⟨coherent, trivial⟩
  refine leads_read (fun deck required => ?_) fun _ _ => ⟨coherent, trivial⟩
  have loaded := (deck_of_require required).1
  refine leads_demanded (fun _ => ?_) fun _ => ⟨coherent, trivial⟩
  rw [leads_bind, leads_whenSome]
  have rest : Coheres (do
      let ring ← reading (·.requireDecodedRing)
      perform outside (.resetDecoder payload.newStreamGeneration.toNat)
      perform outside (.setGeneration ring.ringId payload.newStreamGeneration.toNat)
      changeDeck (·.afterReset payload.newStreamGeneration.toNat payload.preservePlayheads)) := by
    refine coheres_reads fun _ => ?_
    refine .bind (coheres_perform outside _) fun _ => ?_
    refine .bind (coheres_perform outside _) fun _ => ?_
    refine coheres_changeDeck (fun _ => rfl) fun _ sound => sound.afterReset (fun zero => ?_) _
    exact generated (UInt64.toNat_inj.mp zero)
  refine ⟨fun _ => rest start coherent, fun capture held => ?_⟩
  exact (resetCapture_coherent coherent loaded held _).mono (fun _ state still => rest state still)
    (fun _ _ failed => failed)

theorem deckRestart_coheres (payload : Control.DeckIdentity) :
    Coheres (deckRestart outside payload) := by
  refine coheres_reads fun _ => coheres_reads fun _ => ?_
  refine coheres_reads fun _ => ?_
  refine .bind (coheres_changeDeck (fun _ => rfl) fun _ sound =>
    { sound with revised := Nat.succ_ne_zero _, generated := Nat.succ_ne_zero _ }) fun deck => ?_
  refine coheres_reads fun _ => ?_
  refine .bind (coheres_perform outside _) fun _ => ?_
  refine .bind (coheres_perform outside _) fun _ => ?_
  exact coheres_changeDeck (fun _ => rfl) fun _ sound =>
    { sound with opened := by simp, playheads := List.length_map _ }

theorem importPart_coherent (before after : Protocol2Worker)
    (changed : importPart.allows before after) (coherent : before.Coherent) : after.Coherent :=
  coherent.of_same (Frame.seen Protocol2Worker.sessionId changed)
    (Frame.seen Protocol2Worker.toSessions changed) (Frame.seen Protocol2Worker.rings changed)

theorem codecUnload_coheres (payload : Control.CodecUnload) :
    Coheres (codecUnload outside payload) := by
  refine coheres_reads fun _ => ?_
  refine .bind (coheres_of_within (abortAllRawImports_within outside) importPart_coherent)
    fun _ => ?_
  refine .bind (coheres_of_within (closeHandles_within outside) handlePart_coherent) fun _ => ?_
  exact .modify fun worker coherent =>
    ⟨coherent.named, Sessions.coherent_empty rfl rfl rfl, coherent.rings⟩

theorem ringConfigure_coheres (payload : Control.RingConfigure)
    (named : payload.ringId.isNil = false) : Coheres (ringConfigure outside payload) := by
  have admitted : ∀ start : Protocol2Worker, start.Coherent →
      Leads (catching (admitRing payload) fun raised => do
        perform outside (.discardRing payload)
        throw raised) start
      (fun binding state => state.Coherent ∧ binding.ringId = payload.ringId)
      (fun _ state => state.Coherent ∧ True) := by
    intro start coherent
    rw [leads_catching, admitRing, leads_bind, leads_require]
    have discards : ∀ raised, Leads (do perform outside (.discardRing payload); throw raised :
        Act RingBinding) start
        (fun binding state => state.Coherent ∧ binding.ringId = payload.ringId)
        (fun _ state => state.Coherent ∧ True) := by
      intro raised
      rw [leads_bind, leads_perform]
      exact ⟨fun _ _ => ⟨coherent.of_same rfl rfl rfl, trivial⟩,
        fun _ _ => ⟨coherent.of_same rfl rfl rfl, trivial⟩⟩
    refine ⟨fun _ => ?_, fun _ => discards _⟩
    rw [leads_bind, leads_require]
    exact ⟨fun _ => ⟨coherent, rfl⟩, fun _ => discards _⟩
  refine .bind_with admitted fun binding same => ?_
  refine .bind (coheres_perform outside _) fun _ => ?_
  refine .bind (.modify fun worker coherent => ?_) fun _ => .pure _
  refine ⟨coherent.named, coherent.sessions, fun ring member => ?_⟩
  obtain ⟨key, found⟩ := (Dict.mem_values _ ring).mp member
  rw [Dict.lookup_insert] at found
  by_cases here : key = payload.ringId
  · rw [if_pos here] at found
    rw [← Option.some.inj found, same]
    exact named
  · rw [if_neg here] at found
    exact coherent.rings ring ((Dict.mem_values _ ring).mpr ⟨key, found⟩)

theorem Protocol2Worker.Coherent.erase_ring {worker : Protocol2Worker} (coherent : worker.Coherent)
    (ringId : Uuid) : ({ worker with rings := worker.rings.erase ringId } :
      Protocol2Worker).Coherent := by
  refine ⟨coherent.named, coherent.sessions, fun ring member => ?_⟩
  obtain ⟨key, found⟩ := (Dict.mem_values _ ring).mp member
  rw [Dict.lookup_erase] at found
  by_cases here : key = ringId
  · rw [if_pos here] at found
    exact nomatch found
  · rw [if_neg here] at found
    exact coherent.rings ring ((Dict.mem_values _ ring).mpr ⟨key, found⟩)

theorem ringRelease_coheres (payload : Control.RingRelease) :
    Coheres (ringRelease outside payload) := by
  refine coheres_reads fun _ => ?_
  refine .bind (.modify fun worker coherent => coherent.erase_ring _) fun _ => ?_
  exact .bind (coheres_perform outside _) fun _ => .pure _

/-- `session.shutdown` aborts a capture that is not over, and keeps the worker coherent. -/
theorem shutdownWorker_coheres : Coheres (shutdownWorker outside) := by
  refine .bind (coheres_modify (fun _ => rfl) (fun _ => rfl) fun _ => rfl) fun _ => ?_
  have rest : Coheres (do
      abortAllRawImports outside
      closeHandles outside
      let sources ← reading fun worker => .ok worker.bound.values
      let _ ← each (fun bound : BoundCartridge =>
        perform outside (.closeCartridge (some bound.access))) sources
      modify fun worker => { worker with bound := .empty }
      let rings ← reading fun worker => .ok worker.rings.keys
      let _ ← each (fun ringId => perform outside (.releaseRing ringId)) rings
      modify fun worker => { worker with
        rings := .empty
        shutdown := true
        sessionState := .stopped }) := by
    refine .bind (coheres_of_within (abortAllRawImports_within outside)
      importPart_coherent) fun _ => ?_
    refine .bind (coheres_of_within (closeHandles_within outside) handlePart_coherent) fun _ => ?_
    refine coheres_reads fun sources => ?_
    refine .bind (.each _ fun bound _ => coheres_perform outside _) fun _ => ?_
    refine .bind (coheres_modify (fun _ => rfl) (fun _ => rfl) fun _ => rfl) fun _ => ?_
    refine coheres_reads fun rings => ?_
    refine .bind (.each _ fun ringId _ => coheres_perform outside _) fun _ => ?_
    exact .modify fun worker coherent =>
      ⟨coherent.named, coherent.sessions, fun _ never => absurd never List.not_mem_nil⟩
  intro start coherent
  refine leads_read (fun deck same => ?_) nofun
  cases same
  rw [leads_bind, leads_whenSome]
  refine ⟨fun _ => rest start coherent, fun capture found => ?_⟩
  rw [leads_whenever]
  refine ⟨fun going => ?_, fun _ => rest start coherent⟩
  rw [leads_bind, leads_suppressed_call, leads_modify]
  cases loaded : start.deck with
  | none =>
    rw [loaded] at found
    exact nomatch found
  | some deck =>
    rw [loaded] at found
    have held : deck.capture = some capture := found
    have vacant := coherent.sessions.no_player loaded
    have deckSound := coherent.sessions.deck deck loaded
    have sound := deckSound.capture capture held
    have unfinished : capture.payload.isSome = false := by
      rw [Bool.eq_false_iff]
      intro finished
      exact going (by simp [sound.artifact.mp finished])
    have there : (start.record (.abortCapture capture.writer)
        (outside.answer (.abortCapture capture.writer))).deck = some deck := loaded
    rw [there]
    refine rest _ ⟨coherent.named, Sessions.Coherent.with_deck vacant
      (deckSound.with_capture deckSound.opened fun other taken => ?_) ?_, coherent.rings⟩
    · have same := Option.some.inj ((congrArg (Option.map _) held).symm.trans taken)
      rw [← same]
      exact { sound with begun := by simp, artifact := by simp [unfinished] }
    · simp [DeckSession.changeCapture, held]

end Handlers

theorem Protocol2Worker.Coherent.of_books {first second : Protocol2Worker}
    (books : OnlyBooks first second) (coherent : first.Coherent) : second.Coherent := by
  rw [books]
  exact coherent.of_same rfl rfl rfl

theorem operation_coheres (outside : Outside) {command : Command}
    (admissible : command.admissible outside.platform = true) :
    Coheres (operation outside command) := by
  have codec : ∀ before after : Protocol2Worker, codecPart.allows before after →
      before.Coherent → after.Coherent := fun _ _ changed coherent =>
    coherent.of_same (Frame.seen Protocol2Worker.sessionId changed)
      (Frame.seen Protocol2Worker.toSessions changed) (Frame.seen Protocol2Worker.rings changed)
  have source : ∀ before after : Protocol2Worker, sourcePart.allows before after →
      before.Coherent → after.Coherent := fun _ _ changed coherent =>
    coherent.of_same (Frame.seen Protocol2Worker.sessionId changed)
      (Frame.seen Protocol2Worker.toSessions changed) (Frame.seen Protocol2Worker.rings changed)
  have within := operation_within outside command
  unfold Command.admissible at admissible
  cases command with
  | sessionShutdown _ =>
    exact .bind (shutdownWorker_coheres outside) fun _ => .pure _
  | codecUnload request =>
    exact .bind (codecUnload_coheres outside request) fun _ => .pure _
  | sessionConfigure _ | codecDescriptor _ | codecLoad _ => exact coheres_of_within within codec
  | sourceOpen _ | sourceClose _ | profileInspect _ | profileValidate _ =>
    exact coheres_of_within within source
  | rawImportPreflight _ | rawImportStage _ | rawImportAbort _ =>
    exact coheres_of_within within importPart_coherent
  | ringConfigure request =>
    simp only [Bool.and_eq_true, Bool.not_eq_true'] at admissible
    exact .map _ (ringConfigure_coheres outside request admissible.1.1.1.1.1.1)
  | ringRelease request => exact .map _ (ringRelease_coheres outside request)
  | playerOpen request =>
    simp only [Bool.and_eq_true, Bool.not_eq_true', bne_iff_ne, ne_eq] at admissible
    exact .map _ (playerOpen_coheres outside request admissible.1.1 admissible.2)
  | playerStep request => exact .map _ (playerStep_coheres outside request)
  | playerReset request =>
    simp only [Bool.and_eq_true, Bool.not_eq_true', bne_iff_ne, ne_eq] at admissible
    exact .map _ (playerReset_coheres outside request admissible.2)
  | deckLoad request => exact .map _ (deckLoad_coheres outside request admissible)
  | deckProcess request => exact .map _ (deckProcess_coheres outside request)
  | deckControlsSet request =>
    simp only [Bool.and_eq_true] at admissible
    exact .map _ (deckControlsSet_coheres request admissible.2)
  | deckRolesSet request =>
    simp only [Bool.and_eq_true] at admissible
    exact .map _ (deckRolesSet_coheres request admissible.2)
  | deckTransportSet request => exact .map _ (deckTransportSet_coheres request)
  | deckSeedSet request => exact .map _ (deckSeedSet_coheres request)
  | deckReset request =>
    simp only [Bool.and_eq_true, bne_iff_ne, ne_eq] at admissible
    exact .map _ (deckReset_coheres outside request admissible.2)
  | deckRestart request => exact .map _ (deckRestart_coheres outside request)
  | captureStart request =>
    simp only [Bool.and_eq_true, Bool.not_eq_true', decide_eq_true_eq] at admissible
    have slots : request.maximumLatentSlots.toNat ≤ 1048576 := admissible.1.1.1.1.2
    have events : request.maximumResetEvents.toNat ≤ 32 := admissible.2
    exact .bind (captureStart_coheres outside request admissible.1.1.1.1.1.1.1.2 slots
      events) fun _ => .pure _
  | captureStop request =>
    exact .bind (captureStop_coheres outside request) fun _ => .pure _
  | captureStatus request =>
    exact .bind (coheres_reads fun _ => .pure _) fun _ => .pure _
  | sessionStatus => exact .pure _
  | playerStatus | deckStatus | metricsGet =>
    unfold operation
    exact coheres_reading _

theorem turn_coheres (before : Protocol2Worker) (input : Outside × Envelope)
    (coherent : before.Coherent) : (turn before input).2.Coherent := by
  refine (turn_spec input.1 input.2 before).preserves (fun _ _ => .of_books) coherent
    fun command carried entered => ?_
  exact (operation_coheres input.1 carried.admissible _ entered).mono (fun _ _ still => still)
    (fun _ _ failed => failed.1)

variable {platform : Platform} {sessionId : Uuid} {codecs : List TrustedCodecEntrypoint}
  {decks : List TrustedDeckEntrypoint}
  (created : Protocol2Worker.create platform sessionId codecs decks = .ok start)

include created

theorem created_coheres : start.Coherent := by
  obtain ⟨there, codecs, decks, rfl⟩ := fresh_of_created created
  exact ⟨there, Sessions.coherent_empty rfl rfl rfl, fun _ never => absurd never List.not_mem_nil⟩

theorem run_coheres (inputs : List (Outside × Envelope)) :
    (final turn start inputs).Coherent ∧
      ∀ step ∈ steps turn start inputs, step.before.Coherent ∧ step.after.Coherent :=
  invariant_always Protocol2Worker.Coherent turn_coheres inputs start (created_coheres created)

end LatentDeck.CodecHost
