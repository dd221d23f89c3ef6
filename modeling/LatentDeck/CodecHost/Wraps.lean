import LatentDeck.CodecHost.Sequences

/-!
# Playheads that wrap

Where a `deck.process` that is acknowledged leaves the playheads of a deck: each source that plays
moves to its next slot, and one that loops starts again behind its last slot. The acknowledgement
tells the playheads as they are after the step, and says nothing of a wrap.
-/

namespace LatentDeck.CodecHost

open Effect Fallible Run
open Control (Uuid)

/-- Where a step leaves the playhead of a source. -/
def nextPlayhead (transport : SourceTransport) (playhead : Nat) (slotCount : Int) : Nat :=
  if transport.playing then
    if ((playhead + 1 : Nat) : Int) < slotCount then playhead + 1
    else if transport.loopEnabled then 0 else playhead
  else playhead

/-- The move of a source leaves the other playheads and transports alone. -/
theorem movedOne_elsewhere (worker : Protocol2Worker) (deck : DeckSession)
    (entry : SourceBinding × Nat) {index : Nat} (other : entry.2 ≠ index) :
    (worker.movedOne deck entry).playheads[index]? = deck.playheads[index]? ∧
      (worker.movedOne deck entry).sourceTransport[index]? = deck.sourceTransport[index]? := by
  unfold Protocol2Worker.movedOne
  cases deck.sourceTransport[entry.2]? with
  | none => exact ⟨rfl, rfl⟩
  | some transport =>
    cases worker.sessionSource entry.1 with
    | error error => exact ⟨rfl, rfl⟩
    | ok held =>
      by_cases playing : transport.playing = true
      · simp only [playing, if_true]
        cases held.1.slotCount with
        | error error => exact ⟨rfl, rfl⟩
        | ok slotCount =>
          dsimp only
          cases deck.advanced_cases entry.2 transport slotCount with
          | inl moved =>
            obtain ⟨next, -, same⟩ := moved
            rw [same]
            exact ⟨List.getElem?_set_ne other, rfl⟩
          | inr stopped =>
            rw [stopped]
            exact ⟨rfl, List.getElem?_set_ne other⟩
      · simp only [playing]
        exact ⟨rfl, rfl⟩

variable {deck : DeckSession} {entry : SourceBinding × Nat} {transport : SourceTransport}
    {playhead : Nat} {held : SourceHandle × ProfileReceipt} {worker : Protocol2Worker}

/-- The move of a source leaves its playhead at the next one. -/
theorem movedOne_here (placed : deck.sourceTransport[entry.2]? = some transport)
    (stands : deck.playheads[entry.2]? = some playhead)
    (asked : worker.sessionSource entry.1 = .ok held) {slotCount : Int}
    (measured : held.1.slotCount = .ok slotCount) :
    (worker.movedOne deck entry).playheads[entry.2]? =
      some (nextPlayhead transport playhead slotCount) := by
  have inside : entry.2 < deck.playheads.length := (List.getElem?_eq_some_iff.mp stands).1
  have here : deck.playheads.getD entry.2 0 = playhead := by
    rw [List.getD_eq_getElem?_getD, stands]
    rfl
  unfold Protocol2Worker.movedOne nextPlayhead
  rw [placed, asked]
  by_cases playing : transport.playing = true
  · simp only [playing, if_true, measured]
    unfold DeckSession.advanced
    simp only [here]
    by_cases further : ((playhead + 1 : Nat) : Int) < slotCount
    · rw [if_pos further, if_pos further]
      exact List.getElem?_set_self inside
    · rw [if_neg further, if_neg further]
      by_cases loops : transport.loopEnabled = true
      · rw [if_pos loops, if_pos loops]
        exact List.getElem?_set_self inside
      · rw [if_neg loops, if_neg loops]
        exact stands
  · simp only [playing]
    exact stands

theorem moved_elsewhere (worker : Protocol2Worker) (entries : List (SourceBinding × Nat))
    {index : Nat} (other : index ∉ entries.map Prod.snd) :
    ∀ deck : DeckSession, (worker.moved deck entries).playheads[index]? = deck.playheads[index]? ∧
      (worker.moved deck entries).sourceTransport[index]? = deck.sourceTransport[index]? := by
  induction entries with
  | nil => exact fun deck => ⟨rfl, rfl⟩
  | cons entry entries ih =>
    intro deck
    rw [List.map_cons, List.mem_cons, not_or] at other
    have first := movedOne_elsewhere worker deck entry (Ne.symm other.1)
    have rest := ih other.2 (worker.movedOne deck entry)
    exact ⟨rest.1.trans first.1, rest.2.trans first.2⟩

/-- Each of the sources that move, each once, is left where its own move leaves it. -/
theorem moved_playhead (asked : worker.sessionSource entry.1 = .ok held)
    {slotCount : Int} (measured : held.1.slotCount = .ok slotCount)
    (entries : List (SourceBinding × Nat)) (distinct : (entries.map Prod.snd).Nodup)
    (member : entry ∈ entries) :
    ∀ deck : DeckSession, deck.sourceTransport[entry.2]? = some transport →
      deck.playheads[entry.2]? = some playhead →
        (worker.moved deck entries).playheads[entry.2]? =
          some (nextPlayhead transport playhead slotCount) := by
  induction entries with
  | nil => exact absurd member List.not_mem_nil
  | cons first entries ih =>
    intro deck placed stands
    rw [List.map_cons, List.nodup_cons] at distinct
    rw [List.mem_cons] at member
    cases member with
    | inl same =>
      rw [← same] at distinct ⊢
      have rest := moved_elsewhere worker entries distinct.1 (worker.movedOne deck entry)
      exact rest.1.trans (movedOne_here placed stands asked measured)
    | inr later =>
      have other : first.2 ≠ entry.2 := fun same =>
        distinct.1 (same ▸ List.mem_map_of_mem later)
      have kept := movedOne_elsewhere worker deck first other
      exact ih distinct.2 later (worker.movedOne deck first) (kept.2.trans placed)
        (kept.1.trans stands)

theorem moved_sources (worker : Protocol2Worker) (entries : List (SourceBinding × Nat)) :
    ∀ deck : DeckSession, (worker.moved deck entries).sources = deck.sources := by
  induction entries with
  | nil => exact fun deck => rfl
  | cons entry entries ih =>
    intro deck
    have first : (worker.movedOne deck entry).sources = deck.sources :=
      congrArg (·.sources) (movedOne_same worker deck entry).1
    exact (ih (worker.movedOne deck entry)).trans first

theorem entries_distinct (sources : List SourceBinding) : (sources.zipIdx.map Prod.snd).Nodup := by
  rw [List.zipIdx_map_snd]
  exact List.nodup_range'

/-- A source of a deck is known by its physical slot. -/
theorem entry_of_slot {sources : List SourceBinding}
    (distinct : (sources.map (·.physicalSlot)).Nodup) {first second : SourceBinding × Nat}
    (one : first ∈ sources.zipIdx) (other : second ∈ sources.zipIdx)
    (same : first.1.physicalSlot = second.1.physicalSlot) : first = second := by
  rw [List.mem_zipIdx_iff_getElem?] at one other
  obtain ⟨left, here⟩ := List.getElem?_eq_some_iff.mp one
  obtain ⟨right, there⟩ := List.getElem?_eq_some_iff.mp other
  have leftSlot : first.2 < (sources.map (·.physicalSlot)).length := by simpa using left
  have rightSlot : second.2 < (sources.map (·.physicalSlot)).length := by simpa using right
  have keys : (sources.map (·.physicalSlot))[first.2] =
      (sources.map (·.physicalSlot))[second.2] := by
    rw [List.getElem_map, List.getElem_map, here, there, same]
  have index : first.2 = second.2 := distinct.getElem_inj_iff.mp keys
  have source : first.1 = second.1 := by
    rw [index, other] at one
    exact (Option.some.inj one).symm
  exact Prod.ext source index

structure SourceMoves (before : Protocol2Worker) (deck moved : DeckSession)
    (entry : SourceBinding × Nat) (transport : SourceTransport) (playhead : Nat)
    (slotCount : Int) : Prop where
  placed : deck.sourceTransport[entry.2]? = some transport
  stands : deck.playheads[entry.2]? = some playhead
  measured : ∃ held, before.sessionSource entry.1 = .ok held ∧ held.1.slotCount = .ok slotCount
  inside : (playhead : Int) < slotCount
  moves : moved.playheads[entry.2]? = some (nextPlayhead transport playhead slotCount)

structure DeckMoves (before : Protocol2Worker) (deck moved : DeckSession) : Prop where
  sound : deck.Sound
  sources : moved.sources = deck.sources
  each : ∀ entry ∈ deck.sources.zipIdx, ∃ transport playhead slotCount,
    SourceMoves before deck moved entry transport playhead slotCount

theorem DeckMoves.of_same {first second : Protocol2Worker} {moved : DeckSession}
    (moves : DeckMoves first deck moved)
    (same : ∀ source, first.sessionSource source = second.sessionSource source) :
    DeckMoves second deck moved := by
  refine ⟨moves.sound, moves.sources, fun entry member => ?_⟩
  obtain ⟨transport, playhead, slotCount, one⟩ := moves.each entry member
  obtain ⟨held, asked, measured⟩ := one.measured
  rw [same] at asked
  exact ⟨transport, playhead, slotCount, one.placed, one.stands, ⟨held, asked, measured⟩,
    one.inside, one.moves⟩

variable {outside : Outside}

/-- Each source of a deck that was read stands at a slot of its own. -/
theorem stands_of_deckRead {payload : Control.DeckProcess}
    {tensors : List Tensor} {receipt : ProfileReceipt}
    (read : worker.deckRead outside payload = .ok (deck, tensors, receipt)) :
    ∀ entry ∈ deck.sources.zipIdx, ∃ held slotCount playhead,
      worker.sessionSource entry.1 = .ok held ∧ held.1.slotCount = .ok slotCount ∧
        deck.playheads[entry.2]? = some playhead ∧ (playhead : Int) < slotCount := by
  intro entry member
  obtain ⟨-, results, mapped, -⟩ := deckRead_eq_ok read
  obtain ⟨result, -, given⟩ := exists_of_forall₂ (mapM_eq_ok.mp mapped) entry member
  unfold Protocol2Worker.sourceRead at given
  obtain ⟨held, asked, given⟩ := ok_of_bind given
  obtain ⟨slotCount, measured, given⟩ := ok_of_bind given
  obtain ⟨playhead, stands, given⟩ := ok_of_bind given
  rw [check_eq_ok, refuseWhen_eq_ok, not_not] at given
  cases there : deck.playheads[entry.2]? with
  | none =>
    rw [there] at stands
    exact nomatch stands
  | some found =>
    rw [there] at stands
    cases stands
    exact ⟨held, slotCount, playhead, asked, measured, rfl, given.1⟩

/-- A `deck.process` that returns moves every source of the deck. -/
theorem deckMoves_of_returned {payload : Control.DeckProcess} {start after : Protocol2Worker}
    (coherent : start.Coherent) {receipt : ProcessReceipt}
    (ended : ending (deckProcess outside payload) start = (.ok receipt, after)) :
    ∃ deck moved, start.deck = some deck ∧ after.deck = some moved ∧
      DeckMoves start deck moved := by
  have spec : DeckProcessed outside payload start (ending (deckProcess outside payload) start) :=
    deckProcess_spec payload coherent
  rw [ended] at spec
  cases spec with
  | processed deck tensors receipt read result _ _ _ _ _ _ captured _ same loaded _ _ _ =>
    have required := (deck_of_require (deckRead_eq_ok read).1).1
    have sound := coherent.sessions.deck deck required
    have playheads : captured.playheads = deck.playheads := congrArg (·.playheads) same
    have transports : captured.sourceTransport = deck.sourceTransport :=
      congrArg (·.sourceTransport) same
    have sources : captured.sources = deck.sources := congrArg (·.sources) same
    have processed : ∀ session : DeckSession, session.afterProcess.playheads = session.playheads ∧
        session.afterProcess.sources = session.sources := by
      intro session
      unfold DeckSession.afterProcess
      by_cases settled : session.capture.all (·.state == .completed) = true
      · rw [if_pos settled]
        exact ⟨rfl, rfl⟩
      · rw [if_neg settled]
        exact ⟨rfl, rfl⟩
    refine ⟨deck, _, required, loaded, sound, ?_, fun entry member => ?_⟩
    · have kept := moved_sources start deck.sources.zipIdx
        { captured with previousSources := tensors.map some }
      exact (processed _).2.trans (kept.trans sources)
    · obtain ⟨held, slotCount, playhead, asked, measured, stands, inside⟩ :=
        stands_of_deckRead read entry member
      have placed : entry.2 < deck.sourceTransport.length := by
        have lengths := congrArg List.length sound.transport
        rw [List.length_map, List.length_map] at lengths
        rw [lengths]
        exact List.snd_lt_of_mem_zipIdx member
      obtain ⟨transport, there⟩ : ∃ transport, deck.sourceTransport[entry.2]? = some transport :=
        ⟨_, List.getElem?_eq_getElem placed⟩
      have moves := moved_playhead asked measured deck.sources.zipIdx
        (entries_distinct deck.sources) member
        { captured with previousSources := tensors.map some } (transports ▸ there)
        (playheads ▸ stands)
      refine ⟨transport, playhead, slotCount, there, stands, ⟨held, asked, measured⟩, inside, ?_⟩
      rw [(processed _).1]
      exact moves

/-- The operation of a `deck.process` that returns moves every source of the deck. -/
theorem operation_moves {start : Protocol2Worker} (coherent : start.Coherent)
    (payload : Control.DeckProcess) :
    Leads (operation outside (.deckProcess payload)) start
      (fun value after => (∃ receipt, value = .process receipt) ∧ ∃ deck moved,
        start.deck = some deck ∧ after.deck = some moved ∧ DeckMoves start deck moved)
      (fun _ _ => True) := by
  rw [operation, leads_map, leads_iff]
  refine ⟨fun receipt after ended => ⟨⟨receipt, rfl⟩, ?_⟩, fun _ _ _ => trivial⟩
  have ended : ending (deckProcess outside payload) start = (.ok receipt, after) := by
    unfold ending
    rw [ended]
  exact deckMoves_of_returned coherent ended

/-- A source that plays and loops goes from its last slot back to the first. -/
structure WrapsAt (before : Protocol2Worker) (deck moved : DeckSession)
    (entry : SourceBinding × Nat) : Prop where
  loops : ∃ transport, deck.sourceTransport[entry.2]? = some transport ∧
    transport.playing = true ∧ transport.loopEnabled = true
  last : ∃ held slotCount playhead, before.sessionSource entry.1 = .ok held ∧
    held.1.slotCount = .ok slotCount ∧ deck.playheads[entry.2]? = some playhead ∧
      (playhead : Int) + 1 = slotCount
  first : moved.playheads[entry.2]? = some 0

def Wraps (before after : Protocol2Worker) (slot : Nat) : Prop :=
  ∃ deck moved, before.deck = some deck ∧ after.deck = some moved ∧
    ∃ entry ∈ deck.sources.zipIdx, entry.1.physicalSlot = slot ∧ WrapsAt before deck moved entry

variable {before : Protocol2Worker}

/-- A source wraps when it plays and loops and stands at its last slot. -/
theorem wrapsAt_iff {moved : DeckSession} {slotCount : Int}
    (moves : SourceMoves before deck moved entry transport playhead slotCount) :
    WrapsAt before deck moved entry ↔ transport.playing = true ∧ transport.loopEnabled = true ∧
      (playhead : Int) + 1 = slotCount := by
  constructor
  · intro wraps
    obtain ⟨other, placed, playing, loops⟩ := wraps.loops
    obtain ⟨held, count, stood, asked, measured, stands, last⟩ := wraps.last
    obtain ⟨found, askedHere, measuredHere⟩ := moves.measured
    rw [moves.placed] at placed
    rw [moves.stands] at stands
    rw [askedHere] at asked
    cases placed
    cases stands
    cases asked
    rw [measuredHere] at measured
    cases measured
    exact ⟨playing, loops, last⟩
  · rintro ⟨playing, loops, last⟩
    obtain ⟨held, asked, measured⟩ := moves.measured
    refine ⟨⟨transport, moves.placed, playing, loops⟩,
      ⟨held, slotCount, playhead, asked, measured, moves.stands, last⟩, ?_⟩
    have reached : ¬ ((playhead + 1 : Nat) : Int) < slotCount := by omega
    have next := moves.moves
    unfold nextPlayhead at next
    rw [if_pos playing, if_neg reached, if_pos loops] at next
    exact next

/-- The status in the acknowledgement of a `deck.process`. -/
def ReplyMessage.processed? : ReplyMessage → Option DeckStatus
  | .ack _ _ (.deckProcess status _ _ _) _ => some status
  | _ => none

/-- A status tells where the playheads of a deck are, and its transport. -/
structure TellsDeck (deck : DeckSession) (status : DeckStatus) : Prop where
  playheads : List.Forall₂ (fun entry told => told.physicalSlot = entry.1.physicalSlot ∧
    deck.playheads[entry.2]? = some told.latentSlot) deck.sources.zipIdx status.playheads
  transport : status.sourceTransport = deck.sourceTransport

theorem tells_of_wire {status : DeckStatus}
    (told : worker.deckStatusWire deck = .ok status) : TellsDeck deck status := by
  unfold Protocol2Worker.deckStatusWire at told
  obtain ⟨playheads, mapped, told⟩ := ok_of_bind told
  cases told
  refine ⟨(mapM_eq_ok.mp mapped).imp fun entry made given => ?_, rfl⟩
  unfold Protocol2Worker.playheadWire at given
  obtain ⟨held, -, given⟩ := ok_of_bind given
  obtain ⟨playhead, stands, given⟩ := ok_of_bind given
  obtain ⟨transport, -, given⟩ := ok_of_bind given
  obtain ⟨ended, -, given⟩ := ok_of_bind given
  cases given
  cases there : deck.playheads[entry.2]? with
  | none =>
    rw [there] at stands
    exact nomatch stands
  | some found =>
    rw [there] at stands
    cases stands
    exact ⟨rfl, rfl⟩

/-- A turn in which `deck.process` is acknowledged moves the deck, and the acknowledgement tells
where it moved. -/
theorem turn_moves {envelope : Envelope} (coherent : before.Coherent)
    {request : Control.DeckProcess} (message : envelope.message = .command (.deckProcess request))
    {reply : Reply} (answered : (turn before (outside, envelope)).1 = .ok reply)
    {status : DeckStatus} (told : reply.message.processed? = some status) :
    ∃ deck moved, before.deck = some deck ∧
      (turn before (outside, envelope)).2.deck = some moved ∧ DeckMoves before deck moved ∧
        TellsDeck moved status := by
  have spec := turn_spec outside envelope before
  have acknowledges : Acknowledged (turn before (outside, envelope)).1 := by
    refine ⟨reply, answered, ?_⟩
    unfold ReplyMessage.processed? at told
    unfold Reply.isAck
    split at told
    · next same => rw [same]
    · exact nomatch told
  generalize turn before (outside, envelope) = result at spec answered acknowledges
  cases spec with
  | escaped refused => exact nomatch answered
  | acknowledged command carried value after ended payload built accepted =>
    have same : command = .deckProcess request := by
      have both := carried.message.symm.trans message
      cases both
      rfl
    rw [same] at ended built
    have entered : (before.enter envelope).Coherent := coherent.of_same rfl rfl rfl
    obtain ⟨⟨receipt, returned⟩, deck, moved, loaded, stays, moves⟩ :=
      (operation_moves entered request).of_ok ended
    rw [returned] at built
    have built : (after.remember envelope.messageId command.name (.process receipt)).processAck
        (.process receipt) = .ok payload := by
      rw [same]
      exact built
    unfold Protocol2Worker.processAck at built
    obtain ⟨there, found, built⟩ := ok_of_bind built
    obtain ⟨wire, made, built⟩ := ok_of_bind built
    obtain ⟨provenance, -, built⟩ := ok_of_bind built
    cases built
    cases answered
    cases told
    have stays : (after.remember envelope.messageId command.name (.process receipt)).deck =
        some moved := stays
    rw [stays] at found
    cases found
    rw [returned]
    exact ⟨deck, moved, loaded, stays, moves.of_same fun source => rfl, tells_of_wire made⟩
  | _ => exact absurd acknowledges (not_acknowledged_failure _ _ _ _ _)

end LatentDeck.CodecHost
