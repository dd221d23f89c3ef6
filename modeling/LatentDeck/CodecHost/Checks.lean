import LatentDeck.CodecHost.Sources

/-!
# What the checks let through and what they raise

A requirement that is met hands over what it looked for. The checks of the Codec SDK and of the
Deck SDK raise coded errors, and the checks of the worker raise runtime errors, so that a statement
about the errors of a command needs to look only at what is permitted and at what foreign code
raises.
-/

namespace LatentDeck.CodecHost

open Effect Fallible
open Control (Uuid)

variable {worker : Protocol2Worker}

theorem lookup_of_requireBound {sourceId : Uuid}
    {bound : BoundCartridge} (required : worker.requireBound sourceId = .ok bound) :
    worker.bound.lookup sourceId = some bound := by
  unfold Protocol2Worker.requireBound at required
  cases looked : worker.bound.lookup sourceId with
  | none =>
    rw [looked] at required
    exact nomatch required
  | some found =>
    rw [looked] at required
    exact congrArg some (Except.ok.inj required)

variable {generation : Option Nat}

/-- A player that is required is open, has the id and is of the generation that was asked for. -/
theorem player_of_require {sessionId : Uuid} {player : PlayerSession}
    (required : worker.requirePlayer sessionId generation = .ok player) :
    worker.player = some player ∧ player.sessionId = sessionId ∧
      ∀ asked, generation = some asked → asked = player.streamGeneration := by
  unfold Protocol2Worker.requirePlayer at required
  cases open_ : worker.player with
  | none =>
    rw [open_] at required
    exact nomatch required
  | some found =>
    rw [open_] at required
    simp only [guarded_eq_ok, not_not] at required
    have same := Except.ok.inj required.2.2
    rw [← same]
    refine ⟨rfl, required.1, fun asked given => ?_⟩
    have current := required.2.1
    rw [given] at current
    simpa using current

/-- A deck that is required is loaded, has the id and is of the revision and the generation that
were asked for. -/
theorem deck_of_require {sessionId : Uuid} {revision : UInt64}
    {deck : DeckSession} (required : worker.requireDeck sessionId revision generation = .ok deck) :
    worker.deck = some deck ∧ deck.sessionId = sessionId ∧
      revision.toNat = deck.deckRevision ∧
      ∀ asked, generation = some asked → asked = deck.streamGeneration := by
  unfold Protocol2Worker.requireDeck at required
  cases loaded : worker.deck with
  | none =>
    rw [loaded] at required
    exact nomatch required
  | some found =>
    rw [loaded] at required
    simp only [guarded_eq_ok, not_not] at required
    have same := Except.ok.inj required.2.2.2
    rw [← same]
    refine ⟨rfl, required.1, required.2.1, fun asked given => ?_⟩
    have current := required.2.2.1
    rw [given] at current
    simpa using current

/-- A capture that is required is the capture of the deck that is loaded. -/
theorem capture_of_require {request : Control.CaptureIdentity}
    {found : DeckSession × CaptureSession} (required : worker.requireCapture request = .ok found) :
    worker.deck = some found.1 ∧ found.1.capture = some found.2 := by
  unfold Protocol2Worker.requireCapture at required
  obtain ⟨deck, loaded, held⟩ := ok_of_bind required
  cases captured : deck.capture with
  | none =>
    rw [captured] at held
    exact nomatch held
  | some capture =>
    simp only [captured] at held
    by_cases same : capture.captureId = request.captureId
    · rw [if_pos same] at held
      cases held
      exact ⟨(deck_of_require loaded).1, captured⟩
    · rw [if_neg same] at held
      exact nomatch held

/-- The receipt of a source is not the one that a session was opened with. -/
def receiptChanged : Raised := runtimeError .sourceInvalid "source receipt changed"

/-- A set of errors with everything that a check raises, apart from a changed receipt. -/
structure Permits (allowed : Raised → Prop) : Prop where
  sdk : ∀ code, allowed (.sdk code)
  deckContract : ∀ code, allowed (.deckContract code)
  runtime : ∀ code detail, runtimeError code detail ≠ receiptChanged →
    allowed (runtimeError code detail)
  extension : ∀ code detail extensionCode,
    allowed (.runtime (extensionError code detail extensionCode))

variable {allowed : Raised → Prop}

section Values

variable (permits : Permits allowed)
include permits

theorem raises_sdkRefuse (condition : Prop) [Decidable condition] (code : String) :
    Raises allowed (sdkRefuse condition code) :=
  (raises_error (permits.sdk code)).ite (raises_ok ())

theorem raises_sdkPositive (value : Int) : Raises allowed (sdkPositive value) :=
  raises_sdkRefuse permits _ _

theorem raises_sdkPositiveUpTo (value maximum : Int) :
    Raises allowed (sdkPositiveUpTo value maximum) :=
  (raises_sdkPositive permits value).bind fun _ => raises_sdkRefuse permits _ _

/-- `DecodedBatch.validate` raises codes of the Codec SDK. -/
theorem raises_decodedBatch (batch : DecodedBatch) : Raises allowed batch.validate := by
  unfold DecodedBatch.validate
  refine (raises_sdkRefuse permits _ _).bind fun _ => ?_
  refine (raises_sdkRefuse permits _ _).bind fun _ => ?_
  refine (raises_sdkPositiveUpTo permits _ _).bind fun _ => ?_
  refine (raises_sdkPositive permits _).bind fun _ => ?_
  exact (raises_sdkPositive permits _).bind fun _ => raises_sdkRefuse permits _ _

theorem raises_deckRefuse (condition : Prop) [Decidable condition] (code : String) :
    Raises allowed (deckRefuse condition code) :=
  (raises_error (permits.deckContract code)).ite (raises_ok ())

/-- `RoleBinding.validate` raises codes of the Deck SDK. -/
theorem raises_roleBinding (binding : RoleBinding) (sourceCount : Nat) :
    Raises allowed (binding.validate sourceCount) :=
  (raises_deckRefuse permits _ _).bind fun _ => raises_deckRefuse permits _ _

theorem raises_contextRoles (sourceCount : Nat) (bindings : List RoleBinding) :
    ∀ names, Raises allowed (validateContextRoles sourceCount names bindings) := by
  induction bindings with
  | nil => exact fun _ => raises_ok ()
  | cons binding bindings ih =>
    intro names
    refine (raises_roleBinding permits binding sourceCount).bind fun _ => ?_
    exact (raises_deckRefuse permits _ _).bind fun _ => ih _

/-- `DeckOperatorContext.validate` raises codes of the Deck SDK. -/
theorem raises_operatorContext (context : DeckOperatorContext) (sourceCount : Nat) :
    Raises allowed (context.validate sourceCount) := by
  unfold DeckOperatorContext.validate
  refine (raises_checkEach (fun _ => raises_deckRefuse permits _ _) _).bind fun _ => ?_
  iterate 7 refine (raises_deckRefuse permits _ _).bind fun _ => ?_
  refine (raises_checkEach (fun _ => raises_deckRefuse permits _ _) _).bind fun _ => ?_
  exact raises_contextRoles permits _ _ _

/-- `_validate_tensor` of the Deck SDK raises its codes. -/
theorem raises_tensorAbi (tensor : Tensor) : Raises allowed tensor.validateAbi := by
  unfold Tensor.validateAbi
  iterate 4 refine (raises_deckRefuse permits _ _).bind fun _ => ?_
  exact raises_deckRefuse permits _ _

/-- `_validate_controls` of the Deck SDK raises its codes. -/
theorem raises_validateControls (controls : Dict String Scalar) :
    Raises allowed (validateControls controls) := by
  refine (raises_deckRefuse permits _ _).bind fun _ => raises_checkEach (fun entry => ?_) _
  unfold validateControl
  refine (raises_deckRefuse permits _ _).bind fun _ => ?_
  cases entry.2 with
  | boolean _ => exact raises_ok ()
  | integer _ => exact raises_ok ()
  | float value => exact raises_deckRefuse permits _ _
  | text value => exact raises_deckRefuse permits _ _

/-- `validate_process_call` raises codes of the Deck SDK. -/
theorem raises_processCall (platform : Platform) (sources : List Tensor)
    (controls : Dict String Scalar) (context : DeckOperatorContext) :
    Raises allowed (validateProcessCall platform sources controls context) := by
  unfold validateProcessCall
  cases sources with
  | nil => exact raises_error (permits.deckContract _)
  | cons reference others =>
    refine (raises_deckRefuse permits _ _).bind fun _ => ?_
    refine (raises_deckRefuse permits _ _).bind fun _ => ?_
    refine (raises_operatorContext permits _ _).bind fun _ => ?_
    refine (raises_checkEach (fun tensor => raises_tensorAbi permits tensor) _).bind fun _ => ?_
    refine (raises_deckRefuse permits _ _).bind fun _ => ?_
    refine (raises_checkEach (fun tensor => ?_) _).bind fun _ => ?_
    · exact (raises_tensorAbi permits tensor).bind fun _ => raises_deckRefuse permits _ _
    · exact (raises_deckRefuse permits _ _).bind fun _ => raises_validateControls permits _

theorem raises_provenanceBounds (depth nodes : Nat) :
    Raises allowed (provenanceBounds depth nodes) :=
  (raises_deckRefuse permits _ _).bind fun _ => raises_deckRefuse permits _ _

end Values

mutual

theorem raises_visit (permits : Permits allowed) (depth nodes : Nat) :
    ∀ provenance : Provenance, Raises allowed (provenance.visit depth nodes)
  | .null => (raises_provenanceBounds permits _ _).bind fun _ => raises_ok _
  | .scalar (.boolean _) => (raises_provenanceBounds permits _ _).bind fun _ => raises_ok _
  | .scalar (.integer _) => (raises_provenanceBounds permits _ _).bind fun _ => raises_ok _
  | .scalar (.float _) => (raises_provenanceBounds permits _ _).bind fun _ =>
      (raises_deckRefuse permits _ _).bind fun _ => raises_ok _
  | .scalar (.text _) => (raises_provenanceBounds permits _ _).bind fun _ =>
      (raises_deckRefuse permits _ _).bind fun _ => raises_ok _
  | .object fields => (raises_provenanceBounds permits _ _).bind fun _ =>
      (raises_deckRefuse permits _ _).bind fun _ => raises_visitFields permits depth _ fields
  | .array items => (raises_provenanceBounds permits _ _).bind fun _ =>
      (raises_deckRefuse permits _ _).bind fun _ => raises_visitItems permits depth _ items
  | .foreign => (raises_provenanceBounds permits _ _).bind fun _ =>
      raises_error (permits.deckContract _)

theorem raises_visitFields (permits : Permits allowed) (depth nodes : Nat) :
    ∀ fields, Raises allowed (visitFields depth nodes fields)
  | [] => raises_ok _
  | (_, child) :: fields => (raises_deckRefuse permits _ _).bind fun _ =>
      (raises_visit permits (depth + 1) nodes child).bind fun nodes =>
        raises_visitFields permits depth nodes fields

theorem raises_visitItems (permits : Permits allowed) (depth nodes : Nat) :
    ∀ items, Raises allowed (visitItems depth nodes items)
  | [] => raises_ok _
  | child :: items => (raises_visit permits (depth + 1) nodes child).bind fun nodes =>
      raises_visitItems permits depth nodes items

end

section Requirements

variable (permits : Permits allowed)
include permits

/-- `validate_process_result` raises codes of the Deck SDK. -/
theorem raises_processResult (platform : Platform) (answer : Option DeckOperatorResult)
    (sources : List Tensor) : Raises allowed (validateProcessResult platform answer sources) := by
  unfold validateProcessResult
  cases answer with
  | none => exact raises_error (permits.deckContract _)
  | some result =>
    cases sources with
    | nil => exact raises_error (permits.deckContract _)
    | cons reference others =>
      refine (raises_deckRefuse permits _ _).bind fun _ => ?_
      refine (raises_tensorAbi permits _).bind fun _ => ?_
      refine (raises_deckRefuse permits _ _).bind fun _ => ?_
      refine (raises_deckRefuse permits _ _).bind fun _ => ?_
      cases visited : result.provenance with
      | object fields => exact (raises_visit permits 0 0 _).bind fun _ => raises_ok _
      | null => exact raises_error (permits.deckContract _)
      | scalar value => exact raises_error (permits.deckContract _)
      | array items => exact raises_error (permits.deckContract _)
      | foreign => exact raises_error (permits.deckContract _)

variable (worker : Protocol2Worker)

theorem raises_readyCodec : Raises allowed worker.readyCodec := by
  unfold Protocol2Worker.readyCodec Protocol2Worker.selectedCodec
  refine Raises.bind ?_ fun _ =>
    (raises_ok _).ite (raises_error (permits.runtime _ _ (by decide)))
  cases worker.adapter with
  | none => exact raises_error (permits.runtime _ _ (by decide))
  | some adapter =>
    cases worker.descriptor with
    | none => exact raises_error (permits.runtime _ _ (by decide))
    | some descriptor => exact raises_ok _

theorem raises_loadedCodecRequest : Raises allowed worker.loadedCodecRequest := by
  unfold Protocol2Worker.loadedCodecRequest
  cases worker.codecLoadRequest with
  | none => exact raises_error (permits.runtime _ _ (by decide))
  | some request => exact (raises_ok _).ite (raises_error (permits.runtime _ _ (by decide)))

theorem raises_requirePlayer (sessionId : Uuid)
    (generation : Option Nat) : Raises allowed (worker.requirePlayer sessionId generation) := by
  unfold Protocol2Worker.requirePlayer
  cases worker.player with
  | none => exact raises_error (permits.runtime _ _ (by decide))
  | some player =>
    refine (raises_error ?_).ite ((raises_error ?_).ite (raises_ok _))
    · exact permits.runtime _ _ (by decide)
    · exact permits.runtime _ _ (by decide)

theorem raises_requireDeck (sessionId : Uuid) (revision : UInt64) (generation : Option Nat) :
    Raises allowed (worker.requireDeck sessionId revision generation) := by
  unfold Protocol2Worker.requireDeck
  cases worker.deck with
  | none => exact raises_error (permits.runtime _ _ (by decide))
  | some deck =>
    refine (raises_error ?_).ite ((raises_error ?_).ite ((raises_error ?_).ite (raises_ok _)))
    · exact permits.runtime _ _ (by decide)
    · exact permits.runtime _ _ (by decide)
    · exact permits.runtime _ _ (by decide)

theorem raises_requireDecodedRing : Raises allowed worker.requireDecodedRing := by
  unfold Protocol2Worker.requireDecodedRing
  cases worker.decodedRing with
  | none => exact raises_error (permits.runtime _ _ (by decide))
  | some ring => exact raises_ok ring

end Requirements

end LatentDeck.CodecHost
