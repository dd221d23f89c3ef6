import LatentDeck.CodecHost.Acceptance

/-!
# Resets and restarts

`player.reset`, `deck.reset` and `deck.restart` start a new generation. Each changes its session in
several steps around checks and calls, so a command that fails can leave a part of the change
behind. A reset is clean when nothing fails after its first change.
-/

namespace LatentDeck.CodecHost

open Effect Fallible Run

/-- The decoder and the decoded ring take a new generation. -/
def Protocol2Worker.Regenerates (worker : Protocol2Worker) (outside : Outside) (generation : Nat) :
    Prop :=
  ∃ ring, worker.decodedRing = some ring ∧
    outside.answer (.resetDecoder generation) = .ok () ∧
    outside.answer (.setGeneration ring.ringId generation) = .ok ()

def OnlyCalls (before after : Protocol2Worker) : Prop :=
  after = { before with history := after.history }

variable {worker : Protocol2Worker}

theorem decodedRing_of_require {ring : RingBinding}
    (required : worker.requireDecodedRing = .ok ring) : worker.decodedRing = some ring := by
  unfold Protocol2Worker.requireDecodedRing at required
  cases found : worker.decodedRing with
  | none =>
    rw [found] at required
    exact nomatch required
  | some other =>
    rw [found] at required
    exact congrArg some (Except.ok.inj required)

variable {outside : Outside}

/-- A new generation starts with calls alone, and starts only when it is taken. -/
theorem leads_regeneration {α : Type} {generation : Nat} {next : Act α} {start : Protocol2Worker}
    {returned : α → Protocol2Worker → Prop} {raised : Raised → Protocol2Worker → Prop}
    (taken : start.Regenerates outside generation → ∀ state, OnlyCalls start state →
      Leads next state returned raised)
    (refused : ¬ start.Regenerates outside generation → ∀ error state, OnlyCalls start state →
      raised error state) :
    Leads (do
      let ring ← reading (·.requireDecodedRing)
      perform outside (.resetDecoder generation)
      perform outside (.setGeneration ring.ringId generation)
      next) start returned raised := by
  refine leads_read (fun ring found => ?_) fun error missing => refused ?_ error start rfl
  · have there := decodedRing_of_require found
    rw [leads_bind, leads_perform]
    refine ⟨fun _ reset => ?_, fun error failed => refused ?_ error _ rfl⟩
    · rw [leads_bind, leads_perform]
      refine ⟨fun _ set => taken ⟨ring, there, reset, set⟩ _ rfl,
        fun error failed => refused ?_ error _ rfl⟩
      intro ⟨other, same, _, set⟩
      cases there.symm.trans same
      rw [failed] at set
      exact nomatch set
    · intro ⟨other, same, reset, _⟩
      rw [failed] at reset
      exact nomatch reset
  · intro ⟨ring, there, _⟩
    unfold Protocol2Worker.requireDecodedRing at missing
    rw [there] at missing
    exact nomatch missing

theorem Protocol2Worker.Tells.of_same {before after : Protocol2Worker} {deck changed : DeckSession}
    (tells : before.Tells deck) (bound : after.bound = before.bound)
    (sources : changed.sources = deck.sources)
    (transport : changed.sourceTransport = deck.sourceTransport)
    (controls : changed.controls = deck.controls) : after.Tells changed where
  sources index source moved found at_ := by
    have told := tells.sources index source moved (sources ▸ found) (transport ▸ at_)
    unfold Protocol2Worker.sessionSource Protocol2Worker.requireBound at told ⊢
    rw [bound]
    exact told
  controls := controls ▸ tells.controls

def CaptureSession.AllowsReset (capture : CaptureSession) : Prop :=
  if isRecording capture.state then capture.resetEvents < capture.maximumResetEvents
  else capture.state ∈ [.completed, .aborted, .faulted]

/-- A reset that passes its checks is carried out and acknowledged. For a deck whose capture
changes first, and for a restart, the new generation has to be taken. -/
def ResetsCleanly (outside : Outside) (worker : Protocol2Worker) : Command → Prop
  | .playerReset request =>
      ∀ selected player, worker.readyCodec = .ok selected →
        worker.requirePlayer request.playerSessionId none = .ok player →
        player.streamGeneration < request.newStreamGeneration.toNat →
        worker.Regenerates outside request.newStreamGeneration.toNat →
          worker.AsksSource player.source ∧ worker.Numbered
  | .deckReset request =>
      ∀ selected deck, worker.readyCodec = .ok selected →
        worker.requireDeck request.deckSessionId request.deckRevision none = .ok deck →
        deck.streamGeneration < request.newStreamGeneration.toNat →
        (∀ capture, deck.capture = some capture → capture.AllowsReset) →
          (deck.capture.isSome = true →
            worker.Regenerates outside request.newStreamGeneration.toNat) ∧
          (worker.Regenerates outside request.newStreamGeneration.toNat →
            worker.Tells deck ∧ worker.Numbered ∧
              (request.preservePlayheads = true →
                ∀ playhead ∈ deck.playheads, playhead < 2 ^ 64))
  | .deckRestart request =>
      ∀ selected deck, worker.readyCodec = .ok selected →
        worker.requireDeck request.deckSessionId request.deckRevision none = .ok deck →
        deck.recording = none →
          worker.Regenerates outside (deck.streamGeneration + 1) ∧ worker.Tells deck ∧
            worker.Numbered ∧ deck.deckRevision + 1 < 2 ^ 64 ∧ deck.streamGeneration + 1 < 2 ^ 64
  | _ => True

variable {command : Command}

/-- Entering a command does not matter for whether it resets cleanly. -/
theorem ResetsCleanly.enter (clean : ResetsCleanly outside worker command) (envelope : Envelope) :
    ResetsCleanly outside (worker.enter envelope) command := by
  cases command with
  | deckReset request =>
    intro selected deck ready required later allows
    have told := clean selected deck ready required later allows
    refine ⟨told.1, fun taken => ?_⟩
    have left := told.2 taken
    exact ⟨left.1.of_same rfl rfl rfl rfl, left.2⟩
  | deckRestart request =>
    intro selected deck ready required idle
    have left := clean selected deck ready required idle
    exact ⟨left.1, left.2.1.of_same rfl rfl rfl rfl, left.2.2⟩
  | _ => exact clean

/-- The commands that start a new generation. -/
def startsGeneration : Control.CommandName → Bool
  | .playerReset | .deckReset | .deckRestart => true
  | _ => false

/-- The stream generation of the session that a command starts a generation of. -/
def Sessions.generationFor (sessions : Sessions) (name : Control.CommandName) : Option Nat :=
  if name = .playerReset then sessions.player.map (·.streamGeneration)
  else sessions.deck.map (·.streamGeneration)

/-- A new generation is later than the last one. -/
def LaterGeneration (name : Control.CommandName) (before after : Sessions) : Prop :=
  ∃ earlier later, before.generationFor name = some earlier ∧
    after.generationFor name = some later ∧ earlier < later

theorem accepts_player {player : PlayerSession}
    (answers : ∀ (other : Protocol2Worker) (value : CommandValue),
      other.ackPayload value command = other.playerAck value) (coherent : worker.Coherent)
    (numbered : worker.Numbered) (open_ : worker.player = some player)
    (asks : worker.AsksSource player.source) (counts : player.Counts) :
    Accepts outside command (.player player) worker := by
  refine ⟨coherent, numbered, fun other books => ?_⟩
  have asks' : other.AsksSource player.source := by
    rw [books]
    exact asks
  obtain ⟨status, told, admissible, -⟩ := playerStatus_accepted (coherent.of_books books)
    (coherent.sessions.player player open_) asks' counts
  refine ⟨.playerStatus status, ?_, admissible⟩
  rw [answers, Protocol2Worker.playerAck, told]
  rfl

theorem accepts_deck {deck : DeckSession}
    (answers : ∀ (other : Protocol2Worker) (value : CommandValue),
      other.ackPayload value command = other.deckAck value) (coherent : worker.Coherent)
    (numbered : worker.Numbered) (loaded : worker.deck = some deck) (tells : worker.Tells deck)
    (counts : deck.Counts) : Accepts outside command (.deck deck) worker := by
  refine ⟨coherent, numbered, fun other books => ?_⟩
  have tells' : other.Tells deck := tells.of_same (by rw [books]; rfl) rfl rfl rfl
  obtain ⟨status, told, admissible, -⟩ := deckStatus_accepted
    (coherent.sessions.deck deck loaded) tells' counts
  refine ⟨.deckStatus status, ?_, admissible⟩
  rw [answers, Protocol2Worker.deckAck, told]
  rfl

section Handlers

variable (outside : Outside) {start : Protocol2Worker} (coherent : start.Coherent)
include coherent

/-- A clean `player.reset` is acknowledged with a later generation, or changes no session. -/
theorem playerReset_clean (request : Control.PlayerReset)
    (generated : request.newStreamGeneration ≠ 0)
    (clean : ResetsCleanly outside start (.playerReset request)) :
    Leads (operation outside (.playerReset request)) start
      (fun value state => Accepts outside (.playerReset request) value state ∧
        LaterGeneration .playerReset start.toSessions state.toSessions)
      (fun _ state => state.toSessions = start.toSessions) := by
  have kept := playerReset_coheres outside request generated start coherent
  have resets : Leads (playerReset outside request) start
      (fun player state => state.Coherent →
        Accepts outside (.playerReset request) (.player player) state ∧
          LaterGeneration .playerReset start.toSessions state.toSessions)
      (fun _ state => state.toSessions = start.toSessions) := by
    rw [playerReset]
    refine leads_read (fun selected ready => ?_) fun _ _ => rfl
    refine leads_read (fun player required => ?_) fun _ _ => rfl
    have open_ := (player_of_require required).1
    refine leads_demanded (fun later => ?_) fun _ => rfl
    apply leads_regeneration
    · intro taken state calls
      have told := clean selected player ready required later taken
      have there : state.player = some player := by
        rw [calls]
        exact open_
      rw [leads_changePlayer _ there]
      intro still
      have asks : ({ state with player := some { player with
          streamGeneration := request.newStreamGeneration.toNat, playhead := 0, sequence := 0,
          state := .ready } } : Protocol2Worker).AsksSource player.source := by
        rw [calls]
        exact told.1
      have numbered : state.Numbered := by
        rw [calls]
        exact told.2
      refine ⟨accepts_player (fun _ _ => rfl) still numbered rfl asks
        ⟨request.newStreamGeneration.toNat_lt, by simp, by simp⟩, ?_⟩
      exact ⟨_, _, by simp [Sessions.generationFor, open_], rfl, later⟩
    · intro _ error state calls
      rw [calls]
  rw [operation, leads_map]
  exact (kept.and resets).mono (fun _ _ both => both.2 both.1) (fun _ _ both => both.2)

omit coherent in
/-- The worker after the capture bookkeeping of a reset: the new generation is all that is left. -/
theorem deckReset_settled (request : Control.DeckReset) {selected : Adapter × CodecDescriptor}
    {deck current : DeckSession} (ready : start.readyCodec = .ok selected)
    (required : start.requireDeck request.deckSessionId request.deckRevision none = .ok deck)
    (later : deck.streamGeneration < request.newStreamGeneration.toNat)
    (allows : ∀ capture, deck.capture = some capture → capture.AllowsReset)
    (clean : ResetsCleanly outside start (.deckReset request)) {state : Protocol2Worker}
    (held : state.deck = some current) (same : current = { deck with capture := current.capture })
    (others : state = { start with deck := state.deck, captureState := state.captureState })
    (unchanged : deck.capture = none → state = start) :
    Leads (do
      let ring ← reading (·.requireDecodedRing)
      perform outside (.resetDecoder request.newStreamGeneration.toNat)
      perform outside (.setGeneration ring.ringId request.newStreamGeneration.toNat)
      changeDeck (·.afterReset request.newStreamGeneration.toNat request.preservePlayheads)) state
      (fun deck state => state.Coherent →
        Accepts outside (.deckReset request) (.deck deck) state ∧
          LaterGeneration .deckReset start.toSessions state.toSessions)
      (fun _ state => state.toSessions = start.toSessions) := by
  have told := clean selected deck ready required later allows
  have loaded := (deck_of_require required).1
  have revision := (deck_of_require required).2.2.1
  apply leads_regeneration
  · intro taken after calls
    have regenerates : start.Regenerates outside request.newStreamGeneration.toNat := by
      rw [others] at taken
      exact taken
    obtain ⟨tells, numbered, playheads⟩ := told.2 regenerates
    have there : after.deck = some current := by
      rw [calls]
      exact held
    rw [leads_changeDeck _ there]
    intro still
    have numbered : after.Numbered := by
      rw [calls, others]
      exact numbered
    have tells' : ({ after with deck := some (current.afterReset
        request.newStreamGeneration.toNat request.preservePlayheads) } : Protocol2Worker).Tells
        (current.afterReset request.newStreamGeneration.toNat request.preservePlayheads) := by
      refine tells.of_same ?_ ?_ ?_ ?_
      · rw [calls, others]
      · rw [same]
        rfl
      · rw [same]
        rfl
      · rw [same]
        rfl
    refine ⟨accepts_deck (fun _ _ => rfl) still numbered rfl tells' ?_, ?_⟩
    · refine ⟨?_, request.newStreamGeneration.toNat_lt, by simp [DeckSession.afterReset], ?_⟩
      · rw [same]
        show deck.deckRevision < 2 ^ 64
        rw [← revision]
        exact request.deckRevision.toNat_lt
      · rw [same]
        unfold DeckSession.afterReset
        cases preserve : request.preservePlayheads with
        | true => exact playheads preserve
        | false => simp
    · exact ⟨_, _, by simp [Sessions.generationFor, loaded], rfl, later⟩
  · intro refused error after calls
    have vacant : deck.capture = none := by
      by_contra held
      have taken := told.1 (Option.isSome_iff_ne_none.mpr held)
      rw [others] at refused
      exact refused taken
    rw [calls, unchanged vacant]

/-- A clean `deck.reset` is acknowledged with a later generation, or changes no session. -/
theorem deckReset_clean (request : Control.DeckReset) (generated : request.newStreamGeneration ≠ 0)
    (clean : ResetsCleanly outside start (.deckReset request)) :
    Leads (operation outside (.deckReset request)) start
      (fun value state => Accepts outside (.deckReset request) value state ∧
        LaterGeneration .deckReset start.toSessions state.toSessions)
      (fun _ state => state.toSessions = start.toSessions) := by
  have kept := deckReset_coheres outside request generated start coherent
  have resets : Leads (deckReset outside request) start
      (fun deck state => state.Coherent →
        Accepts outside (.deckReset request) (.deck deck) state ∧
          LaterGeneration .deckReset start.toSessions state.toSessions)
      (fun _ state => state.toSessions = start.toSessions) := by
    rw [deckReset]
    refine leads_read (fun selected ready => ?_) fun _ _ => rfl
    refine leads_read (fun deck required => ?_) fun _ _ => rfl
    have loaded := (deck_of_require required).1
    refine leads_demanded (fun later => ?_) fun _ => rfl
    rw [leads_bind, leads_whenSome]
    refine ⟨fun vacant => ?_, fun capture held => ?_⟩
    · exact deckReset_settled outside request ready required later
        (fun capture held => by rw [vacant] at held; cases held) clean loaded rfl rfl
        fun _ => rfl
    · rw [resetCapture, leads_ite]
      refine ⟨fun recording => ?_, fun finished => ?_⟩
      · refine leads_demanded (fun below => ?_) fun _ => rfl
        rw [leads_bind, leads_changeCapture loaded _ held, leads_pure]
        refine deckReset_settled outside request ready required later (fun other found => ?_) clean
          rfl rfl rfl fun vacant => absurd (held.symm.trans vacant) (by simp)
        cases held.symm.trans found
        rw [CaptureSession.AllowsReset, if_pos recording]
        exact below
      · rw [leads_ite]
        refine ⟨fun terminal => ?_, fun _ => rfl⟩
        rw [leads_modify, loaded]
        refine deckReset_settled outside request ready required later (fun other found => ?_) clean
          rfl rfl rfl fun vacant => absurd (held.symm.trans vacant) (by simp)
        cases held.symm.trans found
        rw [CaptureSession.AllowsReset, if_neg finished]
        exact terminal
  rw [operation, leads_map]
  exact (kept.and resets).mono (fun _ _ both => both.2 both.1) (fun _ _ both => both.2)

/-- A clean `deck.restart` is acknowledged with a later generation, or changes no session. -/
theorem deckRestart_clean (request : Control.DeckIdentity)
    (clean : ResetsCleanly outside start (.deckRestart request)) :
    Leads (operation outside (.deckRestart request)) start
      (fun value state => Accepts outside (.deckRestart request) value state ∧
        LaterGeneration .deckRestart start.toSessions state.toSessions)
      (fun _ state => state.toSessions = start.toSessions) := by
  have kept := deckRestart_coheres outside request start coherent
  have restarts : Leads (deckRestart outside request) start
      (fun deck state => state.Coherent →
        Accepts outside (.deckRestart request) (.deck deck) state ∧
          LaterGeneration .deckRestart start.toSessions state.toSessions)
      (fun _ state => state.toSessions = start.toSessions) := by
    rw [deckRestart]
    refine leads_read (fun deck required => ?_) fun _ _ => rfl
    have loaded := (deck_of_require required).1
    refine leads_demanded (fun idle => ?_) fun _ => rfl
    refine leads_read (fun selected ready => ?_) fun _ _ => rfl
    obtain ⟨regenerates, tells, numbered, revision, generation⟩ :=
      clean selected deck ready required idle
    rw [leads_bind, leads_changeDeck _ loaded]
    apply leads_regeneration
    · intro _ after calls
      have there : after.deck = some { deck with
          deckRevision := deck.deckRevision + 1
          streamGeneration := deck.streamGeneration + 1 } := by
        rw [calls]
      rw [leads_changeDeck _ there]
      intro still
      have numbered : after.Numbered := by
        rw [calls]
        exact numbered
      refine ⟨accepts_deck (fun _ _ => rfl) still numbered rfl (tells.of_same ?_ rfl rfl rfl)
        ⟨revision, generation, by simp, by simp⟩, ?_⟩
      · rw [calls]
      · exact ⟨_, _, by simp [Sessions.generationFor, loaded], rfl, Nat.lt_succ_self _⟩
    · intro refused
      exact absurd regenerates refused
  rw [operation, leads_map]
  exact (kept.and restarts).mono (fun _ _ both => both.2 both.1) (fun _ _ both => both.2)

end Handlers

/-- A reset or restart that is answered with an error leaves the sessions as they were, and one
that is acknowledged starts a later generation. -/
structure ResetsAtomically (step : Step Protocol2Worker (Outside × Envelope)
    (Except Raised Reply)) : Prop where
  unchanged : ∀ command, step.input.2.message = .command command →
    startsGeneration command.name = true → ¬ Acknowledged step.output →
      step.after.toSessions = step.before.toSessions
  later : ∀ command, step.input.2.message = .command command →
    startsGeneration command.name = true → Acknowledged step.output →
      LaterGeneration command.name step.before.toSessions step.after.toSessions

/-- The reset of a step, if its command is one, is clean. -/
def CleanReset (step : Step Protocol2Worker (Outside × Envelope) (Except Raised Reply)) : Prop :=
  ∀ command, step.input.2.message = .command command →
    ResetsCleanly step.input.1 step.before command

/-- A clean reset of a coherent worker is atomic. -/
theorem turn_resets (before : Protocol2Worker) (input : Outside × Envelope)
    (coherent : before.Coherent) (clean : CleanReset (stepOf turn before input)) :
    ResetsAtomically (stepOf turn before input) := by
  have entered : (before.enter input.2).Coherent :=
    coherent.of_books (onlyBooks_enter before input.2)
  have ends : ∀ command, input.2.message = .command command →
      startsGeneration command.name = true →
        (Acknowledged (turn before input).1 ∧
          LaterGeneration command.name before.toSessions (turn before input).2.toSessions) ∨
        (¬ Acknowledged (turn before input).1 ∧
          (turn before input).2.toSessions = before.toSessions) := by
    intro command message starts
    have asked := (clean command message).enter input.2
    refine turn_ends message
      (fun state => LaterGeneration command.name before.toSessions state.toSessions)
      (fun state => state.toSessions = before.toSessions) ?_ ?_ rfl fun carried => ?_
    · intro first second books later
      rw [books]
      exact later
    · intro first second books same
      rw [books]
      exact same
    · have admissible := carried.admissible
      unfold Command.admissible at admissible
      cases command with
      | playerReset request =>
        simp only [Bool.and_eq_true, Bool.not_eq_true', bne_iff_ne, ne_eq] at admissible
        exact playerReset_clean input.1 entered request admissible.2 asked
      | deckReset request =>
        simp only [Bool.and_eq_true, bne_iff_ne, ne_eq] at admissible
        exact deckReset_clean input.1 entered request admissible.2 asked
      | deckRestart request => exact deckRestart_clean input.1 entered request asked
      | _ => exact nomatch starts
  refine ⟨fun command message starts failed => ?_, fun command message starts acknowledged => ?_⟩
  · cases ends command message starts with
    | inl accepted => exact absurd accepted.1 failed
    | inr left => exact left.2
  · cases ends command message starts with
    | inl accepted => exact accepted.2
    | inr left => exact absurd acknowledged left.1

/-- In every run each clean reset or restart is atomic. -/
theorem clean_resets_are_atomic {platform : Platform} {sessionId : Control.Uuid}
    {codecs : List TrustedCodecEntrypoint} {decks : List TrustedDeckEntrypoint}
    {start : Protocol2Worker}
    (created : Protocol2Worker.create platform sessionId codecs decks = .ok start)
    (inputs : List (Outside × Envelope)) :
    ∀ step ∈ steps turn start inputs, CleanReset step → ResetsAtomically step := by
  intro step member clean
  have around := (run_coheres created inputs).2 step member
  rw [step_eq start inputs step member] at clean ⊢
  exact turn_resets _ _ around.1 clean

/-- A command that is clean for a reason that can be seen at once: it resets nothing, or it resets
a player that can be told. -/
def readyToReset (worker : Protocol2Worker) : Incoming → Bool
  | .command (.deckReset _) | .command (.deckRestart _) => false
  | .command (.playerReset _) =>
      fits worker.outgoingSequence 1 && worker.player.all fun player =>
        (worker.sessionSource player.source).toOption.any (·.1.attributes.isSome)
  | _ => true

theorem clean_of_readyToReset (ready : readyToReset worker (.command command) = true) :
    ResetsCleanly outside worker command := by
  cases command with
  | playerReset request =>
    intro _ player _ required _ _
    simp only [readyToReset, Bool.and_eq_true, (player_of_require required).1, Option.all_some]
      at ready
    refine ⟨?_, ready.1⟩
    cases asked : worker.sessionSource player.source with
    | error error =>
      have never := ready.2
      rw [asked] at never
      exact nomatch never
    | ok held =>
      have measured := ready.2
      simp only [asked, Except.toOption, Option.any_some, Option.isSome_iff_exists] at measured
      obtain ⟨⟨owner, count⟩, known⟩ := measured
      exact ⟨held, asked, count, by rw [SourceHandle.slotCount, known]⟩
  | deckReset request | deckRestart request => exact nomatch ready
  | _ => exact trivial

/-- The sample run in which a player steps once and is reset. -/
def playedAndReset : List (Outside × Envelope) :=
  sampleInputs ((samplePlaying ++ [sampleRing, .playerStep ⟨9, 1, 1⟩, .playerReset ⟨9, 5⟩]).map
    (sampleOutside 7, ·))

/-- The player of the sample run is reset atomically. -/
theorem clean_resets_are_atomic_sample :
    (∀ step ∈ steps turn sampleWorker playedAndReset, ResetsAtomically step) ∧
      (final turn sampleWorker playedAndReset).player.map (·.streamGeneration) = some 5 := by
  refine ⟨fun step member => ?_, by decide +kernel⟩
  refine clean_resets_are_atomic sampleWorker_created _ step member fun command message => ?_
  have all : (steps turn sampleWorker playedAndReset).all
      (fun step => readyToReset step.before step.input.2.message) = true := by decide +kernel
  have here := List.all_eq_true.mp all step member
  rw [message] at here
  exact clean_of_readyToReset here

/-- The sample run in which a deck is restarted before a ring is configured. -/
def restartedWithoutRing : List (Outside × Envelope) :=
  sampleInputs ((sampleDecked ++ [Command.deckRestart ⟨9, 1⟩]).map (sampleOutside 7, ·))

/-- A restart without a decoded ring is answered with an error, and leaves the deck with a revision
and a generation that its host does not know. -/
theorem failed_restart_is_kept :
    ¬ (∀ step ∈ steps turn sampleWorker restartedWithoutRing, ResetsAtomically step) ∧
      (final turn sampleWorker restartedWithoutRing).deck.map
        (fun deck => (deck.deckRevision, deck.streamGeneration)) = some (2, 2) := by
  refine ⟨fun atomically => ?_, by decide +kernel⟩
  let last := (steps turn sampleWorker restartedWithoutRing).getLast?
  have seen : last.map (fun step => (step.before.deck.map (·.deckRevision),
      step.after.deck.map (·.deckRevision))) = some (some 1, some 2) := by decide +kernel
  have asked : last.map (fun step => step.input.2.message) =
      some (.command (.deckRestart ⟨9, 1⟩)) := rfl
  have refused : last.all (fun step => step.output.toOption.all (!·.isAck)) = true := by
    decide +kernel
  cases found : last with
  | none =>
    rw [found] at seen
    exact nomatch seen
  | some step =>
    rw [found] at seen asked refused
    have member : step ∈ steps turn sampleWorker restartedWithoutRing :=
      List.mem_of_getLast? found
    have same := (atomically step member).unchanged _ (Option.some.inj asked) rfl ?_
    · have revisions := Option.some.inj seen
      have kept := congrArg (fun sessions : Sessions => sessions.deck.map (·.deckRevision)) same
      have earlier := congrArg Prod.fst revisions
      have later := congrArg Prod.snd revisions
      exact absurd (later.symm.trans (kept.trans earlier)) (by decide)
    · intro ⟨reply, answered, acknowledged⟩
      simp [answered, Except.toOption, acknowledged] at refused

end LatentDeck.CodecHost
