import LatentDeck.CodecHost.Coherence

/-!
# When a status is accepted

A worker checks its own replies. For a coherent worker the status of a player or of a deck passes
these checks as soon as its sources can be asked, its counters fit in 64 bits and no integer
control is too large for the wire.
-/

namespace LatentDeck.CodecHost

open Effect Fallible Run
open Control (Uuid)

theorem fits_of_lt {value : Nat} (small : value < 2 ^ 64) : fits value 0 = true := by
  simp only [fits, Bool.and_eq_true, decide_eq_true_eq]
  omega

/-- The next reply of a worker has a number that its peer accepts. -/
def Protocol2Worker.Numbered (worker : Protocol2Worker) : Prop :=
  fits worker.outgoingSequence 1 = true

variable {worker : Protocol2Worker}

/-- The status of a coherent worker is admissible. -/
theorem status_admissible (coherent : worker.Coherent) : worker.status.admissible = true := by
  have sessions := coherent.sessions
  have state := sessions.capture
  unfold Status.admissible Protocol2Worker.status
  cases player : worker.player with
  | some found =>
    have vacant := sessions.no_deck player
    have named := (sessions.player found player).named
    have idle : worker.captureState = .idle := by
      rw [Sessions.captureStateOf, vacant] at state
      exact state
    simp [vacant, named, idle]
  | none =>
    cases deck : worker.deck with
    | some found =>
      have named := (sessions.deck found deck).named
      simp [named]
    | none =>
      have idle : worker.captureState = .idle := by
        rw [Sessions.captureStateOf, deck] at state
        exact state
      simp [idle]

variable {outside : Outside} {envelope : Envelope}

/-- An acknowledgement with an admissible payload is admissible. -/
theorem acknowledgement_admissible (wellFormed : envelope.admissible outside.platform = true)
    {after : Protocol2Worker} (coherent : after.Coherent) (numbered : after.Numbered)
    (command : Command) (value : CommandValue) {payload : Ack}
    (accepted : payload.admissible outside.platform = true) :
    (after.acknowledgement outside envelope command value payload).admissible outside.platform =
      true := by
  have books := onlyBooks_remember after envelope.messageId command.name value
  have still := coherent.of_books books
  have replyTo : envelope.messageId.isNil = false := by
    unfold Envelope.admissible at wellFormed
    simp only [Bool.and_eq_true, Bool.not_eq_true'] at wellFormed
    exact wellFormed.1.2
  have sequence : (after.remember envelope.messageId command.name value).outgoingSequence =
      after.outgoingSequence := by cases value <;> rfl
  have uptime := fits_of_lt outside.uptimeNs.toNat_lt
  unfold Protocol2Worker.acknowledgement Protocol2Worker.makeReply Reply.admissible
    ReplyMessage.admissible
  simp only [still.named, sequence, show fits after.outgoingSequence 1 = true from numbered,
    outside.replyId.property, uptime, replyTo, accepted, status_admissible still, Bool.not_false,
    Bool.and_self]

def SourceHandle.Measured (handle : SourceHandle) : Prop :=
  ∃ count, handle.slotCount = .ok count

def Protocol2Worker.AsksSource (worker : Protocol2Worker) (source : SourceBinding) : Prop :=
  ∃ held, worker.sessionSource source = .ok held ∧ held.1.Measured

/-- The counters of a player fit on the wire. -/
structure PlayerSession.Counts (player : PlayerSession) : Prop where
  generation : player.streamGeneration < 2 ^ 64
  sequence : player.sequence < 2 ^ 64
  playhead : player.playhead < 2 ^ 64

/-- The decoded ring of a coherent worker has a name. -/
theorem decodedRing_named (coherent : worker.Coherent) :
    (worker.decodedRing.map (·.ringId)).all (!·.isNil) = true := by
  unfold Protocol2Worker.decodedRing
  have only : ∀ ring ∈ worker.rings.values.filter (·.kind == .decodedRgba),
      ring.ringId.isNil = false := fun ring member =>
    coherent.rings ring (List.mem_of_mem_filter member)
  cases found : worker.rings.values.filter (·.kind == .decodedRgba) with
  | nil => rfl
  | cons ring rest =>
    cases rest with
    | nil =>
      have named := only ring (found ▸ List.mem_cons_self)
      simp [named]
    | cons second rest => rfl

theorem playerStatus_accepted (coherent : worker.Coherent)
    {player : PlayerSession} (sound : player.Sound) (asks : worker.AsksSource player.source)
    (counts : player.Counts) :
    ∃ status, worker.playerStatusWire player = .ok status ∧ status.admissible = true ∧
      status.streamGeneration = player.streamGeneration ∧
      status.streamSequence = player.sequence := by
  obtain ⟨held, asked, count, measured⟩ := asks
  unfold Protocol2Worker.playerStatusWire
  rw [asked]
  simp only [bind, Except.bind, measured]
  refine ⟨_, rfl, ?_, rfl, rfl⟩
  unfold PlayerStatus.admissible
  simp [sound.named, fits_of_lt counts.generation, sound.generated, fits_of_lt counts.sequence,
    fits_of_lt counts.playhead, decodedRing_named coherent]

/-- A deck can be told: each source can be asked, for its length too where it may be at its end,
and each integer control fits on the wire. -/
structure Protocol2Worker.Tells (worker : Protocol2Worker) (deck : DeckSession) : Prop where
  sources : ∀ (index : Nat) (source : SourceBinding) (transport : SourceTransport),
    deck.sources[index]? = some source →
      deck.sourceTransport[index]? = some transport → ∃ held, worker.sessionSource source = .ok held ∧
        ((transport.playing || transport.loopEnabled) = false → held.1.Measured)
  controls : ∀ control ∈ deck.controls.entries, ∀ value, control.2 = .integer value →
    value < 2 ^ 63

structure DeckSession.Counts (deck : DeckSession) : Prop where
  revision : deck.deckRevision < 2 ^ 64
  generation : deck.streamGeneration < 2 ^ 64
  sequence : deck.sequence < 2 ^ 64
  playheads : ∀ playhead ∈ deck.playheads, playhead < 2 ^ 64

/-- Sound controls without too large an integer are told as they are. -/
theorem controls_accepted {controls : Dict String Scalar} (sound : ControlsSound controls)
    (small : ∀ control ∈ controls.entries, ∀ value, control.2 = .integer value → value < 2 ^ 63) :
    admissibleControls (controls.entries.map fun entry => controlWire entry.1 entry.2) = true := by
  have names : (controls.entries.map fun entry => controlWire entry.1 entry.2).map (·.name) =
      controls.entries.map Prod.fst := by
    rw [List.map_map]
    refine List.map_congr_left fun entry _ => ?_
    cases shape : entry.2 <;> simp [controlWire, shape]
  unfold admissibleControls
  rw [names]
  simp only [List.length_map, Bool.and_eq_true, decide_eq_true_eq, List.all_eq_true]
  refine ⟨⟨sound.count, fun wire member => ?_⟩, controls.distinct⟩
  obtain ⟨entry, inside, made⟩ := List.mem_map.mp member
  have each := sound.each entry inside
  rw [← made]
  cases shape : entry.2 with
  | boolean flag => simp [controlWire, ControlWire.admissibleValue, each.1]
  | integer value =>
    have bounds := each.2
    rw [shape] at bounds
    have bound := small entry inside value shape
    have lower : -(2 ^ 63) ≤ value := bounds
    have upper : value ≤ 2 ^ 63 - 1 := by omega
    simp only [controlWire, ControlWire.admissibleValue, each.1, lower, upper, decide_true,
      Bool.and_self]
    exact ⟨trivial, trivial⟩
  | float value =>
    have finite := each.2
    rw [shape] at finite
    simp [controlWire, ControlWire.admissibleValue, each.1, show value.isFinite = true from finite]
  | text value =>
    have text := each.2
    rw [shape] at text
    simp [controlWire, ControlWire.admissibleValue, each.1, show isText value 4096 = true from text]

variable {deck : DeckSession}

/-- The playheads of a deck are told, each with its physical slot. -/
theorem playheads_told (sound : deck.Sound) (tells : worker.Tells deck) (counts : deck.Counts) :
    ∃ playheads, deck.sources.zipIdx.mapM (worker.playheadWire deck) = .ok playheads ∧
      playheads.map (·.physicalSlot) = deck.sources.map (·.physicalSlot) ∧
      ∀ playhead ∈ playheads, playhead.latentSlot < 2 ^ 64 := by
  have told : ∃ playheads, deck.sources.zipIdx.mapM (worker.playheadWire deck) = .ok playheads ∧
      playheads.map (·.physicalSlot) = deck.sources.zipIdx.map (·.1.physicalSlot) ∧
      ∀ playhead ∈ playheads, playhead.latentSlot < 2 ^ 64 := mapM_succeeds _ ?_
  · obtain ⟨playheads, mapped, slots, small⟩ := told
    refine ⟨playheads, mapped, slots.trans ?_, small⟩
    have firsts := congrArg (List.map (·.physicalSlot)) (List.zipIdx_map_fst 0 deck.sources)
    rw [List.map_map] at firsts
    exact firsts
  · intro entry member
    have position : entry.2 < deck.sources.length := List.snd_lt_of_mem_zipIdx member
    have source : deck.sources[entry.2]? = some entry.1 :=
      List.mem_zipIdx_iff_getElem?.mp member
    have at_ : entry.2 < deck.playheads.length := sound.playheads ▸ position
    have moved : entry.2 < deck.sourceTransport.length := by
      have same := congrArg List.length sound.transport
      rw [List.length_map, List.length_map] at same
      exact same ▸ position
    have small := counts.playheads _ (List.getElem_mem at_)
    obtain ⟨held, asked, measured⟩ :=
      tells.sources entry.2 entry.1 _ source (List.getElem?_eq_getElem moved)
    unfold Protocol2Worker.playheadWire atEnd
    rw [asked]
    simp only [bind, Except.bind, List.getElem?_eq_getElem at_, List.getElem?_eq_getElem moved,
      Option.elim_some]
    by_cases runs : (deck.sourceTransport[entry.2].playing ||
        deck.sourceTransport[entry.2].loopEnabled) = true
    · exact ⟨_, by rw [if_pos runs], rfl, small⟩
    · obtain ⟨count, known⟩ := measured (Bool.eq_false_iff.mpr runs)
      exact ⟨_, by rw [if_neg runs, known], rfl, small⟩

theorem slots_bounded (sound : deck.Sound) :
    ∀ slot ∈ deck.sources.map (·.physicalSlot), 1 ≤ slot ∧ slot ≤ 16 := by
  intro slot member
  rw [sound.slots, List.mem_range'_1] at member
  have few := sound.few
  omega

theorem deckStatus_accepted (sound : deck.Sound)
    (tells : worker.Tells deck) (counts : deck.Counts) :
    ∃ status, worker.deckStatusWire deck = .ok status ∧ status.admissible = true ∧
      status.streamGeneration = deck.streamGeneration ∧ status.streamSequence = deck.sequence := by
  obtain ⟨playheads, mapped, slots, small⟩ := playheads_told sound tells counts
  unfold Protocol2Worker.deckStatusWire
  rw [mapped]
  refine ⟨_, rfl, ?_, rfl, rfl⟩
  have bounded := slots_bounded sound
  have distinct : (deck.sources.map (·.physicalSlot)).Nodup := by
    rw [sound.slots]
    exact List.nodup_range'
  have count : playheads.length = deck.sources.length := by
    have same := congrArg List.length slots
    rwa [List.length_map, List.length_map] at same
  have transports : deck.sourceTransport.length = deck.sources.length := by
    have same := congrArg List.length sound.transport
    rwa [List.length_map, List.length_map] at same
  have told : ∀ playhead ∈ playheads, 1 ≤ playhead.physicalSlot ∧ playhead.physicalSlot ≤ 16 :=
    fun playhead member => bounded _ (slots ▸ List.mem_map_of_mem member)
  have moved : ∀ source ∈ deck.sourceTransport, 1 ≤ source.physicalSlot ∧
      source.physicalSlot ≤ 16 :=
    fun source member => bounded _ (sound.transport ▸ List.mem_map_of_mem member)
  have transport : admissibleTransport deck.sourceTransport false = true := by
    unfold admissibleTransport
    have few := sound.few
    have nonempty := sound.nonempty
    have filled : deck.sourceTransport ≠ [] := by
      intro nothing
      rw [nothing] at transports
      simp at transports
      omega
    simp only [sound.transport, distinct, decide_true, Bool.and_true, Bool.false_or,
      Bool.and_eq_true, decide_eq_true_eq, Bool.not_eq_true', List.isEmpty_eq_false_iff,
      List.all_eq_true]
    exact ⟨⟨by omega, filled⟩, moved⟩
  have opened : (deck.state == Control.DeckState.empty) = false := by
    have never := sound.opened
    simpa using never
  have toldSlots : playheads.map (·.physicalSlot) = deck.sourceTransport.map (·.physicalSlot) :=
    slots.trans sound.transport.symm
  have same : (deck.sourceTransport.map (·.physicalSlot)).all
      (deck.sourceTransport.map (·.physicalSlot)).contains = true :=
    List.all_eq_true.mpr fun slot member => List.contains_iff_mem.mpr member
  have seen : playheads.all (fun playhead => 1 ≤ playhead.physicalSlot &&
      playhead.physicalSlot ≤ 16 && fits playhead.latentSlot 0) = true := by
    refine List.all_eq_true.mpr fun playhead member => ?_
    have slot := told playhead member
    simp [slot.1, slot.2, fits_of_lt (small playhead member)]
  have few : playheads.length ≤ 16 := count ▸ sound.few
  unfold DeckStatus.admissible
  simp only [toldSlots, same, seen, transport, opened, sound.named, few,
    fits_of_lt counts.revision, fits_of_lt counts.generation, fits_of_lt counts.sequence,
    fits_of_lt sound.seed, sound.roles, controls_accepted sound.controls tells.controls,
    sound.transport ▸ distinct, decide_true, Bool.not_false, Bool.and_true, Bool.false_or,
    Bool.and_eq_true, bne_iff_ne]
  simp [sound.revised, sound.generated]

/-- What an operation returned can be acknowledged, whatever the books of the worker are. -/
structure Accepts (outside : Outside) (command : Command) (value : CommandValue)
    (worker : Protocol2Worker) : Prop where
  coherent : worker.Coherent
  numbered : worker.Numbered
  built : ∀ other, OnlyBooks worker other → ∃ payload,
    other.ackPayload value command = .ok payload ∧ payload.admissible outside.platform = true

theorem turn_malformed (malformed : ¬ envelope.admissible outside.platform = true)
    (before : Protocol2Worker) : turn before (outside, envelope) = (.error .other, before) := by
  refine (leads_ending fun ended => ended = _).mp ?_
  rw [handleEnvelope]
  exact leads_demanded (fun admissible => absurd admissible malformed) fun _ => rfl

/-- What an acknowledged turn and a failed one leave: the operation returns what can be acknowledged
or raises, and only the books change besides. -/
theorem turn_ends {before : Protocol2Worker} {command : Command}
    (message : envelope.message = .command command) (accepted failed : Protocol2Worker → Prop)
    (acceptedBooks : ∀ first second, OnlyBooks first second → accepted first → accepted second)
    (failedBooks : ∀ first second, OnlyBooks first second → failed first → failed second)
    (unchanged : failed before) (operates : before.Carries outside envelope command →
      Leads (operation outside command) (before.enter envelope)
        (fun value state => Accepts outside command value state ∧ accepted state)
        (fun _ state => failed state)) :
    (Acknowledged (turn before (outside, envelope)).1 ∧
        accepted (turn before (outside, envelope)).2) ∨
      (¬ Acknowledged (turn before (outside, envelope)).1 ∧
        failed (turn before (outside, envelope)).2) := by
  by_cases wellFormed : envelope.admissible outside.platform = true
  · have spec := turn_spec outside envelope before
    have same : ∀ carriedCommand, before.Carries outside envelope carriedCommand →
        carriedCommand = command := fun carriedCommand carried => by
      have both := carried.message.symm.trans message
      cases both
      rfl
    have reportsFailure : ∀ name raised worker, failed worker →
        ¬ Acknowledged (ending (answerFailure outside envelope.messageId name raised) worker).1 ∧
          failed (ending (answerFailure outside envelope.messageId name raised) worker).2 :=
      fun name raised worker holds => ⟨not_acknowledged_failure _ _ _ _ _,
        failedBooks _ _ (onlyBooks_failure _ _ _ _ _) holds⟩
    generalize turn before (outside, envelope) = result at spec
    cases spec with
    | escaped refused => exact absurd wellFormed refused
    | refused entered books state name error gate =>
      exact Or.inr (reportsFailure _ _ _ (failedBooks _ _ books unchanged))
    | raised carriedCommand carried raised after ended =>
      cases same carriedCommand carried
      exact Or.inr (reportsFailure _ _ _ ((operates carried).of_error ended))
    | unbuilt carriedCommand carried value after ended raised missing =>
      cases same carriedCommand carried
      have accepts := ((operates carried).of_ok ended).1
      obtain ⟨payload, built, -⟩ := accepts.built _ (onlyBooks_remember after _ _ value)
      rw [built] at missing
      exact nomatch missing
    | unsent carriedCommand carried value after ended payload built refused =>
      cases same carriedCommand carried
      have accepts := ((operates carried).of_ok ended).1
      obtain ⟨other, made, admissible⟩ := accepts.built _ (onlyBooks_remember after _ _ value)
      cases built.symm.trans made
      exact absurd (acknowledgement_admissible wellFormed accepts.coherent accepts.numbered command
        value admissible) refused
    | acknowledged carriedCommand carried value after ended payload built admissible =>
      cases same carriedCommand carried
      have holds := ((operates carried).of_ok ended).2
      have sent : OnlyBooks after
          (after.remember envelope.messageId command.name value).sent :=
        (onlyBooks_remember after _ _ value).trans rfl
      exact Or.inl ⟨⟨_, rfl, rfl⟩, acceptedBooks _ _ sent holds⟩
  · rw [turn_malformed wellFormed]
    exact Or.inr ⟨fun ⟨_, never, _⟩ => (nomatch never), unchanged⟩

end LatentDeck.CodecHost
