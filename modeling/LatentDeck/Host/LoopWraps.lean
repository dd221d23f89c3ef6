import LatentDeck.CodecHost.Wraps
import LatentDeck.Host.RuntimeActor
import Mathlib.Data.List.ReduceOption

/-!
# Wraps that the host infers

The host sees a wrap of a playhead in two statuses of the worker, and resets the decoder behind it.
A source of one slot stands at its last slot and at its first one at once, so the two statuses are
the same there.
-/

namespace LatentDeck.Host

open Effect Fallible Run
open Control (Uuid Command DeckStatusSnapshot PlayheadSnapshot SourceTransportBinding)
open CodecHost (Protocol2Worker DeckSession SourceBinding SourceTransport SourceMoves DeckMoves
  TellsDeck Wraps WrapsAt nextPlayhead)

/-- A status of the worker as the host receives it, as far as wraps depend on it. -/
structure Received (told : CodecHost.DeckStatus) (heard : DeckStatusSnapshot) : Prop where
  playheads : List.Forall₂ (fun told heard => heard.physicalSlot.toNat = told.physicalSlot ∧
    heard.latentSlot.toNat = told.latentSlot) told.playheads heard.playheads.asSlice
  transport : List.Forall₂ (fun told heard => heard.physicalSlot.toNat = told.physicalSlot ∧
    heard.playing = told.playing ∧ heard.loopEnabled = told.loopEnabled)
      told.sourceTransport heard.sourceTransport.asSlice

/-- Where a key occurs once, looking for it finds its element. -/
theorem find_of_nodup {α κ : Type} [DecidableEq κ] (key : α → κ) (values : List α)
    (distinct : (values.map key).Nodup) {value : α} (member : value ∈ values) :
    values.find? (fun other => key other == key value) = some value := by
  induction values with
  | nil => exact absurd member List.not_mem_nil
  | cons first values ih =>
    rw [List.map_cons, List.nodup_cons] at distinct
    rw [List.mem_cons] at member
    by_cases same : key first = key value
    · rw [List.find?_cons_of_pos (by simpa using same)]
      cases member with
      | inl here => rw [here]
      | inr later => exact absurd (same ▸ List.mem_map_of_mem later) distinct.1
    · rw [List.find?_cons_of_neg (by simpa using same)]
      cases member with
      | inl here => exact absurd (congrArg key here).symm same
      | inr later => exact ih distinct.2 later

theorem keys_of_forall₂ {α β κ : Type} {fact : α → β → Prop} {first : α → κ} {second : β → κ}
    (same : ∀ value result, fact value result → first value = second result) {values : List α}
    {results : List β} (related : List.Forall₂ fact values results) :
    values.map first = results.map second := by
  rw [← List.forall₂_eq_eq_eq, List.forall₂_map_left_iff, List.forall₂_map_right_iff]
  exact related.imp same

variable {deck : DeckSession}

theorem slots_distinct (sound : deck.Sound) : (deck.sources.map (·.physicalSlot)).Nodup := by
  rw [sound.slots]
  exact List.nodup_range'

variable {told : CodecHost.DeckStatus} {heard : DeckStatusSnapshot}

/-- Each source of a deck has a playhead of its own in the status that is received. -/
theorem playheadOf_received (distinct : (deck.sources.map (·.physicalSlot)).Nodup)
    (tells : TellsDeck deck told) (received : Received told heard) {entry : SourceBinding × Nat}
    (member : entry ∈ deck.sources.zipIdx) {slot : UInt8}
    (named : slot.toNat = entry.1.physicalSlot) :
    ∃ playhead, playheadOf heard slot = some playhead ∧
      deck.playheads[entry.2]? = some playhead.latentSlot.toNat := by
  obtain ⟨one, inside, same, stands⟩ := exists_of_forall₂ tells.playheads entry member
  obtain ⟨playhead, here, slotHere, latent⟩ := exists_of_forall₂ received.playheads one inside
  have toldKeys : deck.sources.zipIdx.map (fun entry => entry.1.physicalSlot) =
      told.playheads.map (·.physicalSlot) :=
    keys_of_forall₂ (fun _ _ fact => fact.1.symm) tells.playheads
  have heardKeys : told.playheads.map (·.physicalSlot) =
      heard.playheads.asSlice.map (·.physicalSlot.toNat) :=
    keys_of_forall₂ (fun _ _ fact => fact.1.symm) received.playheads
  have sourceKeys : deck.sources.zipIdx.map (fun entry => entry.1.physicalSlot) =
      deck.sources.map (·.physicalSlot) := by
    have firsts : deck.sources.zipIdx.map Prod.fst = deck.sources := List.zipIdx_map_fst 0 _
    conv_rhs => rw [← firsts]
    rw [List.map_map]
    rfl
  have apart : (heard.playheads.asSlice.map (·.physicalSlot)).Nodup := by
    have numbers : ((heard.playheads.asSlice.map (·.physicalSlot)).map UInt8.toNat).Nodup := by
      rw [List.map_map]
      show (heard.playheads.asSlice.map (·.physicalSlot.toNat)).Nodup
      rw [← heardKeys, ← toldKeys, sourceKeys]
      exact distinct
    exact numbers.of_map
  have slots : playhead.physicalSlot = slot := by
    apply UInt8.toNat_inj.mp
    rw [slotHere, same, named]
  have found := find_of_nodup (·.physicalSlot) heard.playheads.asSlice apart here
  rw [slots] at found
  refine ⟨playhead, found, ?_⟩
  rw [latent]
  exact stands

/-- Each source of a deck has a transport of its own in the status that is received. -/
theorem transport_received (sound : deck.Sound) (tells : TellsDeck deck told)
    (received : Received told heard) :
    List.Forall₂ (fun (entry : SourceBinding × Nat) (heard : SourceTransportBinding) =>
      heard.physicalSlot.toNat = entry.1.physicalSlot ∧
        ∃ transport, deck.sourceTransport[entry.2]? = some transport ∧
          heard.playing = transport.playing ∧ heard.loopEnabled = transport.loopEnabled)
      deck.sources.zipIdx heard.sourceTransport.asSlice := by
  have related := received.transport
  rw [tells.transport] at related
  have placed : deck.sourceTransport.length = deck.sources.length := by
    have lengths := congrArg List.length sound.transport
    rwa [List.length_map, List.length_map] at lengths
  rw [List.forall₂_iff_get] at related ⊢
  refine ⟨by rw [List.length_zipIdx, ← placed, related.1], fun index inside there => ?_⟩
  have inside : index < deck.sourceTransport.length := by
    rw [List.length_zipIdx] at inside
    omega
  have one := related.2 index inside there
  have slots : deck.sourceTransport[index].physicalSlot =
      deck.sources[index].physicalSlot := by
    have keys := congrArg (·[index]?) sound.transport
    simpa [inside, placed ▸ inside] using keys
  simp only [List.get_eq_getElem, List.getElem_zipIdx, Nat.zero_add] at one ⊢
  exact ⟨one.1.trans slots, _, List.getElem?_eq_getElem inside, one.2⟩

/-- The host holds the status that was told before a step and the one that acknowledges it, and the
slot counts of the sources. -/
structure Watched (before : Protocol2Worker) (deck moved : DeckSession)
    (previous current : DeckStatusSnapshot) (slotCounts : List (UInt8 × UInt64)) : Prop where
  moves : DeckMoves before deck moved
  previous : ∃ told, TellsDeck deck told ∧ Received told previous
  current : ∃ told, TellsDeck moved told ∧ Received told current
  counts : ∀ source ∈ deck.sources, ∀ slot : UInt8, slot.toNat = source.physicalSlot →
    ∃ count held, slotCountOf slotCounts slot = some count ∧
      before.sessionSource source = .ok held ∧ held.1.slotCount = .ok (count.toNat : Int)

section Looped

variable {before : Protocol2Worker} {deck moved : DeckSession}
  {previous current : DeckStatusSnapshot} {slotCounts : List (UInt8 × UInt64)}
  {entry : SourceBinding × Nat}

section

variable (watched : Watched before deck moved previous current slotCounts)

include watched

/-- What the host finds about one source: it is looped when it wraps and has more than one slot. -/
theorem loopedSlot_watched (member : entry ∈ deck.sources.zipIdx) {heard : SourceTransportBinding}
    (named : heard.physicalSlot.toNat = entry.1.physicalSlot) {transport : SourceTransport}
    {playhead : Nat} {slotCount : Int}
    (moves : SourceMoves before deck moved entry transport playhead slotCount)
    (playing : heard.playing = transport.playing)
    (loops : heard.loopEnabled = transport.loopEnabled) :
    ∃ found, loopedSlot previous current slotCounts heard = .ok found ∧
      (found = some heard.physicalSlot ↔ WrapsAt before deck moved entry ∧ slotCount ≠ 1) ∧
        (found ≠ none → found = some heard.physicalSlot) := by
  rw [CodecHost.wrapsAt_iff moves, ← playing, ← loops]
  unfold loopedSlot
  by_cases idle : heard.playing = false ∨ heard.loopEnabled = false
  · rw [if_pos idle]
    refine ⟨none, rfl, ?_, fun never => absurd rfl never⟩
    constructor
    · exact nofun
    · rintro ⟨⟨plays, loops, -⟩, -⟩
      rw [plays, loops] at idle
      simp at idle
  · rw [if_neg idle]
    rw [not_or, Bool.not_eq_false, Bool.not_eq_false] at idle
    have distinct := slots_distinct watched.moves.sound
    obtain ⟨told, tells, received⟩ := watched.previous
    obtain ⟨first, there, stood⟩ := playheadOf_received distinct tells received member named
    obtain ⟨toldNow, tellsNow, receivedNow⟩ := watched.current
    have sources := watched.moves.sources
    obtain ⟨second, thereNow, standsNow⟩ := playheadOf_received (sources ▸ distinct) tellsNow
      receivedNow (sources ▸ member) named
    obtain ⟨count, held, counted, asked, measured⟩ := watched.counts entry.1
      (List.fst_mem_of_mem_zipIdx member) heard.physicalSlot named
    obtain ⟨found, askedHere, measuredHere⟩ := moves.measured
    rw [asked] at askedHere
    cases askedHere
    rw [measured] at measuredHere
    have sameCount : (count.toNat : Int) = slotCount := Except.ok.inj measuredHere
    rw [moves.stands] at stood
    rw [moves.moves] at standsNow
    have left : playhead = first.latentSlot.toNat := Option.some.inj stood
    have reached := Option.some.inj standsNow
    unfold nextPlayhead at reached
    rw [← playing, ← loops, if_pos idle.1, if_pos idle.2] at reached
    have inside := moves.inside
    have within : ¬ (count = 0 ∨ count ≤ first.latentSlot ∨ count ≤ second.latentSlot) := by
      rw [← UInt64.toNat_inj, UInt64.le_iff_toNat_le, UInt64.le_iff_toNat_le, UInt64.toNat_zero]
      split at reached <;> omega
    have passes : refuseWhen (count = 0 ∨ count ≤ first.latentSlot ∨ count ≤ second.latentSlot)
        GenericDeckRuntimeError.protocol = .ok () := (refuseWhen_eq_ok _ _).mpr within
    rw [there, thereNow, counted]
    simp only [orError, bind, Except.bind, passes]
    refine ⟨_, rfl, ?_, ?_⟩
    · by_cases back : second.latentSlot < first.latentSlot
      · rw [if_pos back]
        rw [UInt64.lt_iff_toNat_lt] at back
        refine ⟨fun _ => ⟨⟨idle.1, idle.2, ?_⟩, ?_⟩, fun _ => rfl⟩
        · split at reached <;> omega
        · omega
      · rw [if_neg back]
        rw [UInt64.lt_iff_toNat_lt] at back
        refine ⟨nofun, ?_⟩
        rintro ⟨⟨-, -, last⟩, several⟩
        split at reached <;> omega
    · by_cases back : second.latentSlot < first.latentSlot
      · rw [if_pos back]
        exact fun _ => rfl
      · rw [if_neg back]
        exact fun never => absurd rfl never

def OneSlot (before : Protocol2Worker) (source : SourceBinding) : Prop :=
  ∃ held, before.sessionSource source = .ok held ∧ held.1.slotCount = .ok 1

theorem loopedSlot_heard (member : entry ∈ deck.sources.zipIdx) {heard : SourceTransportBinding}
    (named : heard.physicalSlot.toNat = entry.1.physicalSlot)
    (placed : ∃ transport, deck.sourceTransport[entry.2]? = some transport ∧
      heard.playing = transport.playing ∧ heard.loopEnabled = transport.loopEnabled) :
    ∃ found, loopedSlot previous current slotCounts heard = .ok found ∧
      ∀ slot, found = some slot ↔ slot = heard.physicalSlot ∧
        WrapsAt before deck moved entry ∧ ¬ OneSlot before entry.1 := by
  obtain ⟨transport, there, playing, loops⟩ := placed
  obtain ⟨other, playhead, slotCount, moves⟩ := watched.moves.each entry member
  have placed := moves.placed
  rw [there] at placed
  cases placed
  obtain ⟨found, told, wraps, only⟩ := loopedSlot_watched watched member named moves playing loops
  have single : OneSlot before entry.1 ↔ slotCount = 1 := by
    obtain ⟨held, asked, measured⟩ := moves.measured
    constructor
    · rintro ⟨same, askedHere, one⟩
      rw [asked] at askedHere
      cases askedHere
      rw [measured] at one
      exact Except.ok.inj one
    · intro one
      exact ⟨held, asked, one ▸ measured⟩
  refine ⟨found, told, fun slot => ?_⟩
  rw [single]
  constructor
  · intro here
    have same : found = some heard.physicalSlot := only (by simp [here])
    rw [here] at same
    exact ⟨Option.some.inj same, wraps.mp (here.trans same)⟩
  · rintro ⟨same, both⟩
    rw [same]
    exact wraps.mpr both

/-- The host finds the sources that wrap and have more than one slot. -/
theorem loopedPhysicalSlots_watched :
    ∃ looped, loopedPhysicalSlots previous current slotCounts = .ok looped ∧
      ∀ slot, slot ∈ looped ↔ ∃ entry ∈ deck.sources.zipIdx,
        entry.1.physicalSlot = slot.toNat ∧ WrapsAt before deck moved entry ∧
          ¬ OneSlot before entry.1 := by
  obtain ⟨told, tells, received⟩ := watched.previous
  have placed := transport_received watched.moves.sound tells received
  have answers : ∀ heard ∈ previous.sourceTransport.asSlice, ∃ found,
      loopedSlot previous current slotCounts heard = .ok found ∧ () = () ∧ True := by
    intro heard member
    obtain ⟨entry, inside, named, transport⟩ := exists_of_forall₂ placed.flip heard member
    obtain ⟨found, told, -⟩ := loopedSlot_heard watched inside named transport
    exact ⟨found, told, rfl, trivial⟩
  obtain ⟨results, mapped, -⟩ := mapM_succeeds previous.sourceTransport.asSlice answers
  have related := mapM_eq_ok.mp mapped
  refine ⟨results.reduceOption, ?_, fun slot => ?_⟩
  · unfold loopedPhysicalSlots
    rw [mapped]
    rfl
  rw [List.reduceOption_mem_iff]
  constructor
  · intro found
    obtain ⟨heard, member, looked⟩ := exists_of_forall₂ related.flip (some slot) found
    obtain ⟨entry, inside, named, transport⟩ := exists_of_forall₂ placed.flip heard member
    obtain ⟨here, told, wraps⟩ := loopedSlot_heard watched inside named transport
    have same : here = some slot := Except.ok.inj (told.symm.trans looked)
    obtain ⟨slots, both⟩ := (wraps slot).mp same
    exact ⟨entry, inside, by rw [slots, named], both⟩
  · rintro ⟨entry, inside, named, both⟩
    obtain ⟨heard, member, slots, transport⟩ := exists_of_forall₂ placed entry inside
    obtain ⟨found, told, wraps⟩ := loopedSlot_heard watched inside slots transport
    have same : slot = heard.physicalSlot := by
      apply UInt8.toNat_inj.mp
      rw [slots, named]
    obtain ⟨here, listed, looked⟩ := exists_of_forall₂ related heard member
    have equal : here = found := Except.ok.inj (looked.symm.trans told)
    rw [equal, (wraps slot).mpr ⟨same, both⟩] at listed
    exact listed

end

end Looped

/-- Whether a command resets the decoder of a deck. -/
def isDeckReset : Command → Bool
  | .deckReset _ => true
  | _ => false

def RuntimeActor.resets (actor : RuntimeActor) : List Command := actor.sent.filter isDeckReset

/-- What a reset refers to, and the resets that were sent. -/
def RuntimeActor.resetPart (actor : RuntimeActor) : Uuid × UInt64 × UInt64 × List Command :=
  (actor.status.deckSessionId, actor.status.deckRevision, actor.status.streamGeneration,
    actor.resets)

theorem causalLoopResetRequest_congr {first second : DeckStatusSnapshot}
    (session : first.deckSessionId = second.deckSessionId)
    (revision : first.deckRevision = second.deckRevision)
    (generation : first.streamGeneration = second.streamGeneration) :
    causalLoopResetRequest first = causalLoopResetRequest second := by
  unfold causalLoopResetRequest
  rw [session, revision, generation]

section Resets

variable {outside : Outside}

theorem check_within {α : Type} {frame : Frame RuntimeActor}
    (result : Except GenericDeckRuntimeError α) : Within frame (check result) :=
  .reading _

theorem call_resets {command : Command} (other : isDeckReset command = false)
    (mapError : WorkerClientV2Error → GenericDeckRuntimeError) :
    Within (.keeping RuntimeActor.resetPart) (call outside command mapError) := by
  refine .bind (.modify fun actor => ?_) fun _ => check_within _
  show RuntimeActor.resetPart _ = RuntimeActor.resetPart _
  unfold RuntimeActor.resetPart RuntimeActor.resets
  rw [List.filter_append, List.filter_cons_of_neg (by simp [other]), List.filter_nil,
    List.append_nil]

theorem abandoned_resets (actor : RuntimeActor) (state : Control.CaptureState)
    (text detail : String) : (actor.abandoned state text detail).resetPart = actor.resetPart := by
  unfold RuntimeActor.abandoned
  cases actor.activeCapture <;> rfl

theorem publishCapture_resets (view : GenericCaptureView) :
    Within (.keeping RuntimeActor.resetPart) (publishCapture view) :=
  .modify fun _ => rfl

theorem publishStatus_resets : Within (.keeping RuntimeActor.resetPart) publishStatus :=
  .modify fun _ => rfl

theorem tellCapture_resets (view : GenericCaptureView) :
    Within (.keeping RuntimeActor.resetPart) (tellCapture view) :=
  .bind (publishCapture_resets view) fun _ => .bind publishStatus_resets fun _ => .pure _

/-- Finalizing a capture leaves the resets alone. -/
theorem finalizeCompletedCapture_resets (status : Control.CaptureStatusSnapshot) :
    Within (.keeping RuntimeActor.resetPart) (finalizeCompletedCapture outside status) := by
  unfold finalizeCompletedCapture
  refine .bind (check_within _) fun artifact => .bind (check_within _) fun _ => ?_
  refine .reads fun _ => .reads fun actor => ?_
  refine .bind (check_within _) fun active => ?_
  refine .bind (.modify fun _ => rfl) fun _ => ?_
  refine .reads fun _ => ?_
  refine .bind (publishCapture_resets _) fun _ => ?_
  unfold settleFinalized
  split
  · exact .bind (publishCapture_resets _) fun _ => .bind publishStatus_resets fun _ => .pure _
  · exact .bind (publishCapture_resets _) fun _ => .throw _

theorem settleCaptureState_resets (status : Control.CaptureStatusSnapshot) :
    Within (.keeping RuntimeActor.resetPart) (settleCaptureState outside status) := by
  unfold settleCaptureState
  split
  · exact finalizeCompletedCapture_resets status
  · exact .bind (.modify fun _ => rfl) fun _ => tellCapture_resets _
  · exact .bind (.modify fun _ => rfl) fun _ => tellCapture_resets _
  · exact tellCapture_resets _
  · exact tellCapture_resets _
  · exact .throw _
  · exact .throw _

/-- Asking for the status of a capture leaves the resets alone. -/
theorem refreshCaptureStatus_resets :
    Within (.keeping RuntimeActor.resetPart) (refreshCaptureStatus outside) := by
  unfold refreshCaptureStatus
  refine .reads fun actor => .bind (check_within _) fun active => ?_
  refine .bind (call_resets rfl _) fun ack => .bind ?_ fun status => ?_
  · cases captureTold ack with
    | some status => exact .pure _
    | none =>
      refine .bind (.modify fun actor => ?_) fun _ => .throw _
      exact abandoned_resets _ _ _ _
  refine .bind (check_within _) fun _ => ?_
  unfold applyCaptureStatus
  refine .reads fun actor => .bind (check_within _) fun active => ?_
  refine .bind (.whenever (.bind (.modify fun actor => ?_) fun _ => .throw _)) fun _ => ?_
  · exact abandoned_resets _ _ _ _
  refine .bind (.modify fun _ => rfl) fun _ => ?_
  exact .bind (.modify fun _ => rfl) fun _ => settleCaptureState_resets status

/-- The reset behind a wrap: a new generation of the same stream, with its playheads. -/
def IsCausalReset (status : DeckStatusSnapshot) (reset : Control.DeckReset) : Prop :=
  ∃ generation, causalLoopResetRequest status = .ok (generation, reset)

def SendsReset (status : DeckStatusSnapshot) (before after : RuntimeActor) : Prop :=
  ∃ reset, IsCausalReset status reset ∧ after.resets = before.resets ++ [.deckReset reset]

/-- A causal reset is sent once, unless it cannot be asked for. -/
theorem leads_causalLoopReset (actor : RuntimeActor) :
    Leads (causalLoopReset outside) actor (fun _ after => SendsReset actor.status actor after)
      (fun _ after => after.resets = actor.resets ∨ SendsReset actor.status actor after) := by
  unfold causalLoopReset
  refine leads_read (fun before same => ?_) nofun
  cases same
  rw [leads_bind, check, leads_reading]
  refine ⟨fun request made => ?_, fun _ _ => Or.inl rfl⟩
  obtain ⟨generation, reset⟩ := request
  dsimp only
  rw [call, leads_bind, leads_bind, leads_modify, check, leads_reading]
  have sends : ∀ after : RuntimeActor, after.sent = actor.sent ++ [.deckReset reset] →
      SendsReset actor.status actor after := by
    intro after logged
    refine ⟨reset, ⟨generation, made⟩, ?_⟩
    unfold RuntimeActor.resets
    rw [logged, List.filter_append]
    rfl
  refine ⟨fun ack _ => ?_, fun _ _ => Or.inr (sends _ rfl)⟩
  rw [leads_bind, check, leads_reading]
  refine ⟨fun status _ => ?_, fun _ _ => Or.inr (sends _ rfl)⟩
  refine leads_read (fun slotCounts _ => ?_) nofun
  rw [leads_bind, check, leads_reading]
  refine ⟨fun _ _ => ?_, fun _ _ => Or.inr (sends _ rfl)⟩
  refine leads_demanded (fun _ => ?_) fun _ => Or.inr (sends _ rfl)
  rw [leads_modify]
  exact sends _ rfl

/-- What follows a batch: the capture is asked for, and a loop is reset. -/
theorem leads_afterBatch {middle : RuntimeActor} {resets : List Command} {captures : Prop}
    [Decidable captures] (status : DeckStatusSnapshot) (looped : List UInt8)
    (session : middle.status.deckSessionId = status.deckSessionId)
    (revision : middle.status.deckRevision = status.deckRevision)
    (generation : middle.status.streamGeneration = status.streamGeneration)
    (logged : middle.resets = resets) :
    Leads (do
        whenever captures do
          let _ ← refreshCaptureStatus outside
          pure ()
        whenever (looped ≠ []) (causalLoopReset outside)
        publishStatus) middle
      (fun _ after => if looped = [] then after.resets = resets
        else ∃ reset, IsCausalReset status reset ∧ after.resets = resets ++ [.deckReset reset])
      (fun _ after => after.resets = resets ∨ (looped ≠ [] ∧
        ∃ reset, IsCausalReset status reset ∧ after.resets = resets ++ [.deckReset reset])) := by
  rw [leads_bind]
  have refreshed : Within (.keeping RuntimeActor.resetPart) (whenever captures do
      let _ ← refreshCaptureStatus outside
      pure ()) :=
    .whenever (.bind refreshCaptureStatus_resets fun _ => .pure _)
  refine (refreshed middle).mono (fun _ after kept => ?_) (fun _ after kept => Or.inl ?_)
  · have kept : after.resetPart = middle.resetPart := kept
    have fields := Prod.mk.inj kept
    have more := Prod.mk.inj fields.2
    have last := Prod.mk.inj more.2
    have same : causalLoopResetRequest after.status = causalLoopResetRequest status :=
      causalLoopResetRequest_congr (fields.1.trans session) (more.1.trans revision)
        (last.1.trans generation)
    have still : after.resets = resets := last.2.trans logged
    have sends : ∀ last, SendsReset after.status after last → ∃ reset,
        IsCausalReset status reset ∧ last.resets = resets ++ [.deckReset reset] := by
      rintro last ⟨reset, ⟨number, made⟩, sent⟩
      exact ⟨reset, ⟨number, same.symm.trans made⟩, still ▸ sent⟩
    rw [leads_bind, leads_whenever]
    refine ⟨fun some_ => ?_, fun nothing => ?_⟩
    · refine (leads_causalLoopReset after).mono (fun _ last reset => ?_) (fun _ last reset => ?_)
      · rw [publishStatus, leads_modify, if_neg some_]
        exact sends last reset
      · cases reset with
        | inl none_ => exact Or.inl (none_.trans still)
        | inr one => exact Or.inr ⟨some_, sends last one⟩
    · rw [not_not] at nothing
      rw [publishStatus, leads_modify, if_pos nothing]
      exact still
  · have kept : after.resetPart = middle.resetPart := kept
    exact (Prod.mk.inj (Prod.mk.inj (Prod.mk.inj kept).2).2).2.trans logged

/-- A batch is followed by one reset when a source was looped, and by none otherwise. -/
theorem leads_processOnce {actor : RuntimeActor} {ack : Control.DeckProcessAck}
    (answered : outside.call (.deckProcess ⟨actor.status.deckSessionId, actor.status.deckRevision,
      actor.status.streamGeneration⟩) = .ok (.deckProcess ack)) {looped : List UInt8}
    (detected : loopedPhysicalSlots actor.status ack.status actor.slotCounts = .ok looped) :
    Leads (processOnce outside) actor
      (fun _ after => if looped = [] then after.resets = actor.resets
        else SendsReset ack.status actor after)
      (fun _ after => after.resets = actor.resets ∨
        (looped ≠ [] ∧ SendsReset ack.status actor after)) := by
  have logged : (actor.sent ++ [Command.deckProcess ⟨actor.status.deckSessionId,
      actor.status.deckRevision, actor.status.streamGeneration⟩]).filter isDeckReset =
        actor.resets := by
    rw [List.filter_append]
    exact List.append_nil _
  unfold processOnce
  rw [leads_bind, current, leads_reading]
  refine ⟨fun _ same => ?_, nofun⟩
  cases same
  rw [leads_bind, call, leads_bind, leads_modify, check, leads_reading, answered]
  refine ⟨fun _ same => ?_, nofun⟩
  cases same
  rw [leads_bind, check, leads_reading]
  refine ⟨fun _ same => ?_, nofun⟩
  cases same
  rw [leads_bind, check, leads_reading]
  refine ⟨fun _ _ => ?_, fun _ _ => Or.inl logged⟩
  refine leads_demanded (fun _ => ?_) fun _ => Or.inl logged
  rw [leads_bind, check, leads_reading]
  refine ⟨fun batch _ => ?_, fun _ _ => Or.inl logged⟩
  rw [leads_bind, check, leads_reading]
  refine ⟨fun _ _ => ?_, fun _ _ => Or.inl logged⟩
  rw [leads_bind, check, leads_reading]
  refine ⟨fun frames _ => ?_, fun _ _ => Or.inl logged⟩
  rw [leads_bind, leads_modify, leads_bind, check, leads_reading, detected]
  refine ⟨fun _ same => ?_, nofun⟩
  cases same
  rw [leads_bind, leads_modify]
  exact leads_afterBatch ack.status looped rfl rfl rfl logged

end Resets

/-- The host watches an acknowledged `deck.process` of the worker: it has the status before, the one
of the acknowledgement, and the slot counts of the sources. -/
structure Observes
    (step : Step Protocol2Worker (CodecHost.Outside × CodecHost.Envelope)
      (Except CodecHost.Raised CodecHost.Reply))
    (previous current : DeckStatusSnapshot) (slotCounts : List (UInt8 × UInt64)) : Prop where
  request : ∃ request, step.input.2.message = .command (.deckProcess request)
  previous : ∃ deck told, step.before.deck = some deck ∧
    step.before.deckStatusWire deck = .ok told ∧ Received told previous
  current : ∃ reply told, step.output = .ok reply ∧ reply.message.processed? = some told ∧
    Received told current
  counts : ∀ deck, step.before.deck = some deck → ∀ source ∈ deck.sources, ∀ slot : UInt8,
    slot.toNat = source.physicalSlot → ∃ count held, slotCountOf slotCounts slot = some count ∧
      step.before.sessionSource source = .ok held ∧ held.1.slotCount = .ok (count.toNat : Int)

/-- Wraps are detected: the looped slots are those whose playheads wrap, and a batch that is done is
followed by one reset when there is one and by none otherwise. -/
structure DetectsWraps
    (step : Step Protocol2Worker (CodecHost.Outside × CodecHost.Envelope)
      (Except CodecHost.Raised CodecHost.Reply))
    (previous current : DeckStatusSnapshot) (slotCounts : List (UInt8 × UInt64)) : Prop where
  looped : ∃ looped, loopedPhysicalSlots previous current slotCounts = .ok looped ∧
    ∀ slot : UInt8, slot ∈ looped ↔ Wraps step.before step.after slot.toNat
  resets : ∀ (outside : Outside) (actor after : RuntimeActor) (ack : Control.DeckProcessAck),
    actor.status = previous → actor.slotCounts = slotCounts → ack.status = current →
      outside.call (.deckProcess ⟨previous.deckSessionId, previous.deckRevision,
        previous.streamGeneration⟩) = .ok (.deckProcess ack) →
          ending (processOnce outside) actor = (.ok (), after) →
            (∃ slot : UInt8, Wraps step.before step.after slot.toNat) →
              SendsReset current actor after
  silent : ∀ (outside : Outside) (actor : RuntimeActor) (ack : Control.DeckProcessAck),
    actor.status = previous → actor.slotCounts = slotCounts → ack.status = current →
      outside.call (.deckProcess ⟨previous.deckSessionId, previous.deckRevision,
        previous.streamGeneration⟩) = .ok (.deckProcess ack) →
          ¬ (∃ slot : UInt8, Wraps step.before step.after slot.toNat) →
            (ending (processOnce outside) actor).2.resets = actor.resets

/-- No source that plays and loops has one slot. -/
def LoopsSeveral (worker : Protocol2Worker) : Prop :=
  ∀ deck, worker.deck = some deck → ∀ entry ∈ deck.sources.zipIdx, ∀ transport,
    deck.sourceTransport[entry.2]? = some transport → transport.playing = true →
      transport.loopEnabled = true → ¬ OneSlot worker entry.1

variable {previous : DeckStatusSnapshot} {slotCounts : List (UInt8 × UInt64)}

theorem watched_of_observes {step : Step Protocol2Worker (CodecHost.Outside × CodecHost.Envelope)
      (Except CodecHost.Raised CodecHost.Reply)}
    (here : step = stepOf CodecHost.turn step.before step.input) (coherent : step.before.Coherent)
    {current : DeckStatusSnapshot} (observed : Observes step previous current slotCounts) :
    ∃ deck moved, step.before.deck = some deck ∧ step.after.deck = some moved ∧
      Watched step.before deck moved previous current slotCounts := by
  obtain ⟨request, message⟩ := observed.request
  obtain ⟨reply, told, answered, processed, received⟩ := observed.current
  have output : (CodecHost.turn step.before (step.input.1, step.input.2)).1 = .ok reply := by
    have same := congrArg Step.output here
    exact same.symm.trans answered
  obtain ⟨deck, moved, loaded, stays, moves, tells⟩ :=
    CodecHost.turn_moves coherent message output processed
  have after : step.after.deck = some moved := by
    have same := congrArg Step.after here
    rw [same]
    exact stays
  obtain ⟨other, first, there, wire, receivedFirst⟩ := observed.previous
  rw [loaded] at there
  cases there
  exact ⟨deck, moved, loaded, after, moves, ⟨first, CodecHost.tells_of_wire wire, receivedFirst⟩,
    ⟨told, tells, received⟩, observed.counts deck loaded⟩

/-- In every run of a worker, the host detects the wraps of a batch that it observes exactly when no
source that plays and loops has one slot. -/
theorem loop_wraps_detected_iff {platform : CodecHost.Platform} {sessionId : Uuid}
    {codecs : List CodecHost.TrustedCodecEntrypoint} {decks : List CodecHost.TrustedDeckEntrypoint}
    {start : Protocol2Worker}
    (created : Protocol2Worker.create platform sessionId codecs decks = .ok start)
    (inputs : List (CodecHost.Outside × CodecHost.Envelope)) :
    ∀ step ∈ steps CodecHost.turn start inputs, ∀ previous current slotCounts,
      Observes step previous current slotCounts →
        (DetectsWraps step previous current slotCounts ↔ LoopsSeveral step.before) := by
  intro step member previous current slotCounts observed
  have coherent := ((CodecHost.run_coheres created inputs).2 step member).1
  have here := step_eq start inputs step member
  obtain ⟨deck, moved, loaded, stays, watched⟩ := watched_of_observes here coherent observed
  obtain ⟨looped, found, exactly⟩ := loopedPhysicalSlots_watched watched
  have wraps : ∀ slot, Wraps step.before step.after slot ↔ ∃ entry ∈ deck.sources.zipIdx,
      entry.1.physicalSlot = slot ∧ WrapsAt step.before deck moved entry := by
    intro slot
    constructor
    · rintro ⟨one, two, first, second, wrapped⟩
      rw [loaded] at first
      rw [stays] at second
      cases first
      cases second
      exact wrapped
    · exact fun wrapped => ⟨deck, moved, loaded, stays, wrapped⟩
  constructor
  · intro detects other there entry inside transport placed playing loops single
    rw [loaded] at there
    cases there
    obtain ⟨seen, same, detected⟩ := detects.looped
    rw [found] at same
    cases same
    obtain ⟨moving, playhead, slotCount, moves⟩ := watched.moves.each entry inside
    have one : moving = transport := Option.some.inj (moves.placed.symm.trans placed)
    have counted : slotCount = 1 := by
      obtain ⟨held, asked, measured⟩ := moves.measured
      obtain ⟨again, askedAgain, isOne⟩ := single
      rw [asked] at askedAgain
      cases askedAgain
      rw [measured] at isOne
      exact Except.ok.inj isOne
    have standing := moves.inside
    have wrapped : WrapsAt step.before deck moved entry := by
      rw [CodecHost.wrapsAt_iff moves, one]
      exact ⟨playing, loops, by omega⟩
    have bounded := CodecHost.slots_bounded watched.moves.sound entry.1.physicalSlot
      (List.mem_map_of_mem (List.fst_mem_of_mem_zipIdx inside))
    have named : (UInt8.ofNat entry.1.physicalSlot).toNat = entry.1.physicalSlot := by
      rw [UInt8.toNat_ofNat']
      omega
    have missed := (detected (UInt8.ofNat entry.1.physicalSlot)).mpr
      ((wraps _).mpr ⟨entry, inside, named.symm, wrapped⟩)
    obtain ⟨loud, listed, slots, -, several⟩ := (exactly _).mp missed
    have equal : loud = entry := by
      have distinct := slots_distinct watched.moves.sound
      have firsts := CodecHost.entry_of_slot distinct listed inside (slots.trans named)
      exact firsts
    rw [equal] at several
    exact several single
  · intro several
    have exactlyWraps : ∀ slot : UInt8, slot ∈ looped ↔ Wraps step.before step.after slot.toNat := by
      intro slot
      rw [exactly, wraps]
      constructor
      · rintro ⟨entry, inside, slots, wrapped, -⟩
        exact ⟨entry, inside, slots, wrapped⟩
      · rintro ⟨entry, inside, slots, wrapped⟩
        obtain ⟨transport, placed, playing, loops⟩ := wrapped.loops
        exact ⟨entry, inside, slots, wrapped,
          several deck loaded entry inside transport placed playing loops⟩
    have some_ : looped = [] ↔ ¬ ∃ slot : UInt8, Wraps step.before step.after slot.toNat := by
      rw [List.eq_nil_iff_forall_not_mem, not_exists]
      exact forall_congr' fun slot => not_congr (exactlyWraps slot)
    refine ⟨⟨looped, found, exactlyWraps⟩, ?_, ?_⟩
    · intro outside actor after ack status counts acked answered ended wrapped
      rw [← status, ← counts, ← acked] at found
      rw [← status] at answered
      have spec := leads_processOnce answered found
      have ends := leads_iff.mp spec
      cases ran : processOnce outside actor with
      | ok value state =>
        have told := ends.1 value state ran
        have same : state = after := by
          unfold ending at ended
          rw [ran] at ended
          exact (Prod.mk.inj ended).2
        rw [if_neg fun nothing => some_.mp nothing wrapped, same, acked] at told
        exact told
      | error error state =>
        unfold ending at ended
        rw [ran] at ended
        exact nomatch (Prod.mk.inj ended).1
    · intro outside actor ack status counts acked answered still
      rw [← status, ← counts, ← acked] at found
      rw [← status] at answered
      have nothing : looped = [] := some_.mpr still
      have spec := leads_processOnce answered found
      refine (leads_ending fun ended : Except GenericDeckRuntimeError Unit × RuntimeActor =>
        ended.2.resets = actor.resets).mp ?_
      refine spec.mono (fun _ after told => ?_) (fun _ after told => ?_)
      · rw [if_pos nothing] at told
        exact told
      · cases told with
        | inl same => exact same
        | inr one => exact absurd nothing one.1

def heardAs (told : CodecHost.DeckStatus) (heard : DeckStatusSnapshot) : Bool :=
  told.playheads.map (fun playhead => (playhead.physicalSlot, playhead.latentSlot)) ==
      heard.playheads.asSlice.map (fun playhead =>
        (playhead.physicalSlot.toNat, playhead.latentSlot.toNat)) &&
    told.sourceTransport.map (fun source =>
        (source.physicalSlot, source.playing, source.loopEnabled)) ==
      heard.sourceTransport.asSlice.map (fun source =>
        (source.physicalSlot.toNat, source.playing, source.loopEnabled))

theorem received_of_heardAs (same : heardAs told heard = true) : Received told heard := by
  unfold heardAs at same
  rw [Bool.and_eq_true, beq_iff_eq, beq_iff_eq, ← List.forall₂_eq_eq_eq, ← List.forall₂_eq_eq_eq,
    List.forall₂_map_left_iff, List.forall₂_map_right_iff, List.forall₂_map_left_iff,
    List.forall₂_map_right_iff] at same
  constructor
  · refine same.1.imp fun one other equal => ?_
    obtain ⟨slots, latents⟩ := Prod.mk.inj equal
    exact ⟨slots.symm, latents.symm⟩
  · refine same.2.imp fun one other equal => ?_
    obtain ⟨slots, rest⟩ := Prod.mk.inj equal
    obtain ⟨playing, loops⟩ := Prod.mk.inj rest
    exact ⟨slots.symm, playing.symm, loops.symm⟩

/-- What is checked of a step that is observed. -/
def observedAs
    (step : Step Protocol2Worker (CodecHost.Outside × CodecHost.Envelope)
      (Except CodecHost.Raised CodecHost.Reply))
    (previous current : DeckStatusSnapshot) (slotCounts : List (UInt8 × UInt64)) : Bool :=
  (match step.input.2.message with
    | .command (.deckProcess _) => true
    | _ => false) &&
  ((step.before.deck.bind fun deck => (step.before.deckStatusWire deck).toOption).any
    fun told => heardAs told previous) &&
  ((step.output.toOption.bind fun reply => reply.message.processed?).any
    fun told => heardAs told current) &&
  step.before.deck.all fun deck => deck.sources.all fun source =>
    (slotCountOf slotCounts (.ofNat source.physicalSlot)).any fun count =>
      (step.before.sessionSource source).toOption.any fun held =>
        held.1.slotCount.toOption == some (count.toNat : Int)

theorem observes_of_observedAs {step : Step Protocol2Worker (CodecHost.Outside × CodecHost.Envelope)
      (Except CodecHost.Raised CodecHost.Reply)} {current : DeckStatusSnapshot}
    (checked : observedAs step previous current slotCounts = true) :
    Observes step previous current slotCounts := by
  unfold observedAs at checked
  rw [Bool.and_eq_true, Bool.and_eq_true, Bool.and_eq_true, Option.any_eq_true,
    Option.any_eq_true] at checked
  obtain ⟨⟨⟨asked, told, toldSome, heardFirst⟩, now, nowSome, heardNow⟩, counts⟩ := checked
  constructor
  · split at asked
    · next request message => exact ⟨request, message⟩
    · exact nomatch asked
  · obtain ⟨deck, loaded, wire⟩ := Option.bind_eq_some_iff.mp toldSome
    exact ⟨deck, told, loaded, eq_ok_of_toOption wire, received_of_heardAs heardFirst⟩
  · obtain ⟨reply, answered, processed⟩ := Option.bind_eq_some_iff.mp nowSome
    exact ⟨reply, now, eq_ok_of_toOption answered, processed, received_of_heardAs heardNow⟩
  · intro deck loaded source member slot named
    rw [loaded, Option.all_some, List.all_eq_true] at counts
    have one := counts source member
    rw [← named, UInt8.ofNat_toNat, Option.any_eq_true] at one
    obtain ⟨count, counted, one⟩ := one
    rw [Option.any_eq_true] at one
    obtain ⟨held, asked, measured⟩ := one
    exact ⟨count, held, counted, eq_ok_of_toOption asked, eq_ok_of_toOption (beq_iff_eq.mp measured)⟩

/-- The status of a deck with one source, which plays and loops, at a slot. -/
def oneSource (sequence latentSlot : UInt64) : DeckStatusSnapshot where
  deckSessionId := 9
  state := .playing
  deckRevision := 1
  streamGeneration := 1
  streamSequence := sequence
  playheads := ⟨[⟨1, latentSlot, true, false⟩], by simp [Control.maxSources]⟩
  roles := ⟨[], by decide⟩
  controls := ⟨[], by decide⟩
  sourceTransport := ⟨[⟨1, true, true⟩], by decide⟩
  seed := 0
  captureState := .idle

/-- The sample world, with sources of some slots. -/
def clipOutside (slots : Int) : CodecHost.Outside :=
  { CodecHost.sampleOutside 7 with
    answer := fun call => match call with
      | .openSource _ _ sourceId => .ok (some ⟨1, some (sourceId, slots)⟩)
      | other => (CodecHost.sampleOutside 7).answer other }

/-- A run that loads a deck with a clip of some slots and processes it. -/
def clipRun (slots : Int) (times : Nat) : List (CodecHost.Outside × CodecHost.Envelope) :=
  CodecHost.sampleInputs ((CodecHost.sampleDecked ++ [CodecHost.sampleRing] ++
    List.replicate times (CodecHost.Command.deckProcess ⟨9, 1, 1⟩)).map (clipOutside slots, ·))

def lastOfClip (slots : Int) (times : Nat) :
    Option (Step Protocol2Worker (CodecHost.Outside × CodecHost.Envelope)
      (Except CodecHost.Raised CodecHost.Reply)) :=
  (steps CodecHost.turn CodecHost.sampleWorker (clipRun slots times)).getLast?

def slotCountsOf (worker : Protocol2Worker) : Option (List (Option Int)) :=
  worker.deck.map fun deck => deck.sources.map fun source =>
    (worker.sessionSource source).toOption.bind fun held => held.1.slotCount.toOption

/-- A clip of two slots that loops wraps in its second batch, which is detected. -/
theorem loop_of_two_detected :
    ∃ step ∈ steps CodecHost.turn CodecHost.sampleWorker (clipRun 2 2),
      Observes step (oneSource 1 1) (oneSource 2 0) [(1, 2)] ∧
        DetectsWraps step (oneSource 1 1) (oneSource 2 0) [(1, 2)] ∧
          Wraps step.before step.after 1 := by
  have told : (lastOfClip 2 2).any (fun step =>
      observedAs step (oneSource 1 1) (oneSource 2 0) [(1, 2)] &&
        slotCountsOf step.before == some [some 2]) = true := by decide +kernel
  rw [Option.any_eq_true] at told
  obtain ⟨step, last, told⟩ := told
  rw [Bool.and_eq_true, beq_iff_eq] at told
  have member := List.mem_of_getLast? last
  have observed := observes_of_observedAs told.1
  have several : LoopsSeveral step.before := by
    intro deck loaded entry inside transport _ _ _ single
    obtain ⟨held, asked, one⟩ := single
    have counts := told.2
    unfold slotCountsOf at counts
    rw [loaded] at counts
    have counts := Option.some.inj counts
    have listed : some (1 : Int) ∈ [some (2 : Int)] := by
      rw [← counts]
      refine List.mem_map.mpr ⟨entry.1, List.fst_mem_of_mem_zipIdx inside, ?_⟩
      rw [asked]
      show held.1.slotCount.toOption = some 1
      rw [one]
      rfl
    simp at listed
  have detects := (loop_wraps_detected_iff CodecHost.sampleWorker_created (clipRun 2 2) step member
    _ _ _ observed).mpr several
  refine ⟨step, member, observed, detects, ?_⟩
  obtain ⟨looped, found, exactly⟩ := detects.looped
  have here : loopedPhysicalSlots (oneSource 1 1) (oneSource 2 0) [(1, 2)] = .ok [1] := rfl
  rw [here] at found
  cases found
  exact (exactly 1).mp List.mem_cons_self

/-- A clip of one slot that loops wraps in every batch, and no batch is followed by a reset. -/
theorem loop_of_one_missed :
    ∃ step ∈ steps CodecHost.turn CodecHost.sampleWorker (clipRun 1 1),
      Observes step (oneSource 0 0) (oneSource 1 0) [(1, 1)] ∧
        Wraps step.before step.after 1 ∧
          loopedPhysicalSlots (oneSource 0 0) (oneSource 1 0) [(1, 1)] = .ok [] ∧
            ¬ DetectsWraps step (oneSource 0 0) (oneSource 1 0) [(1, 1)] := by
  have told : (lastOfClip 1 1).any (fun step =>
      observedAs step (oneSource 0 0) (oneSource 1 0) [(1, 1)] &&
        slotCountsOf step.before == some [some 1] &&
          (step.before.deck.map fun deck => (deck.sources.map (·.physicalSlot),
            deck.sourceTransport, deck.playheads)) == some ([1], [⟨1, true, true⟩], [0])) =
      true := by decide +kernel
  rw [Option.any_eq_true] at told
  obtain ⟨step, last, told⟩ := told
  rw [Bool.and_eq_true, Bool.and_eq_true, beq_iff_eq, beq_iff_eq] at told
  obtain ⟨⟨checked, counts⟩, shape⟩ := told
  have member := List.mem_of_getLast? last
  have observed := observes_of_observedAs checked
  have coherent := ((CodecHost.run_coheres CodecHost.sampleWorker_created (clipRun 1 1)).2 step
    member).1
  have here := step_eq CodecHost.sampleWorker (clipRun 1 1) step member
  obtain ⟨deck, moved, loaded, stays, watched⟩ := watched_of_observes here coherent observed
  rw [loaded] at shape
  obtain ⟨slots, rest⟩ := Prod.mk.inj (Option.some.inj shape)
  obtain ⟨transports, playheads⟩ := Prod.mk.inj rest
  obtain ⟨source, only, named⟩ := List.map_eq_singleton_iff.mp slots
  have wraps : Wraps step.before step.after 1 := by
    have inside : (source, 0) ∈ deck.sources.zipIdx := by
      rw [only]
      exact List.mem_cons_self
    obtain ⟨transport, playhead, slotCount, moves⟩ := watched.moves.each _ inside
    have placed := moves.placed
    have stands := moves.stands
    rw [transports] at placed
    rw [playheads] at stands
    cases placed
    cases stands
    have single : slotCount = 1 := by
      obtain ⟨held, asked, measured⟩ := moves.measured
      unfold slotCountsOf at counts
      rw [loaded] at counts
      have counts := Option.some.inj counts
      simp only [only, List.map_cons, List.map_nil, asked, Except.toOption, Option.bind_some,
        measured] at counts
      exact Option.some.inj (List.cons.inj counts).1
    refine ⟨deck, moved, loaded, stays, (source, 0), inside, named, ?_⟩
    rw [CodecHost.wrapsAt_iff moves, single]
    exact ⟨rfl, rfl, rfl⟩
  have missed : loopedPhysicalSlots (oneSource 0 0) (oneSource 1 0) [(1, 1)] = .ok [] := rfl
  refine ⟨step, member, observed, wraps, missed, fun detects => ?_⟩
  obtain ⟨looped, found, exactly⟩ := detects.looped
  rw [missed] at found
  cases found
  exact List.not_mem_nil ((exactly 1).mpr wraps)

end LatentDeck.Host
