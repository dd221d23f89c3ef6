import LatentDeck.CodecHost.ReceiptIndex

/-!
# What the receipts are good for

As long as the receipts are kept, a codec is loaded only for a source with a receipt for the
requested device, and a session never finds that a receipt of its sources changed.
-/

namespace LatentDeck.CodecHost

open Effect Fallible Run
open Control (Uuid)

/-- A changed receipt is reported only if foreign code does so. -/
def Innocent (outside : Outside) (error : Raised) : Prop :=
  error = receiptChanged → ∃ call, outside.answer call = .error receiptChanged

theorem innocent_permits (outside : Outside) : Permits (Innocent outside) where
  sdk _ same := nomatch same
  deckContract _ same := nomatch same
  runtime _ _ other same := absurd same other
  extension code detail extensionCode same := by
    have details := congrArg WorkerRuntimeError.details (Raised.runtime.inj same)
    have named : isIdentifier "extension_code" = true := by decide
    simp [extensionError, boundedDetails, Control.maxErrorDetails, named] at details

theorem reported_innocent {outside : Outside} {name : Control.CommandName} {raised : Raised}
    (innocent : Innocent outside raised)
    (same : receiptChanged = .runtime (answeredError name raised)) :
    ∃ call, outside.answer call = .error receiptChanged := by
  cases raised with
  | runtime error => exact innocent same.symm
  | sdk code => exact (innocent_permits outside).extension _ _ _ same.symm
  | deckContract code => exact (innocent_permits outside).extension _ _ _ same.symm
  | other => exact nomatch same

/-- What a worker keeps while its session runs: the receipts and the sources of the session. -/
def SessionKept (sources : List SourceBinding) (worker : Protocol2Worker) : Prop :=
  worker.ReceiptsKept ∧ worker.toSessions.sources = sources

theorem SessionKept.of_allowed {sources : List SourceBinding} {before after : Protocol2Worker}
    (kept : SessionKept sources before) (changed : sessionPart.allows before after) :
    SessionKept sources after := by
  refine ⟨sessionPart_keeps _ _ changed kept.1, ?_⟩
  have same := Frame.seen (fun worker : Protocol2Worker => worker.toSessions.sources) changed
  calc after.toSessions.sources
      = _ := (sources_identity after.toSessions).symm
    _ = _ := same
    _ = before.toSessions.sources := sources_identity before.toSessions
    _ = sources := kept.2

/-- A source of a session whose receipts are kept does not report a changed receipt. -/
theorem raises_sessionSource {allowed : Raised → Prop} (permits : Permits allowed)
    {worker : Protocol2Worker} {source : SourceBinding} (kept : worker.ReceiptsKept)
    (member : source ∈ worker.toSessions.sources) : Raises allowed (worker.sessionSource source) := by
  have holds := kept.held source member
  unfold Protocol2Worker.sessionSource Protocol2Worker.requireBound
  unfold SourceTable.receiptIdOf at holds
  cases found : worker.bound.lookup source.sourceId with
  | none => exact raises_error (permits.runtime _ _ (by decide))
  | some bound =>
    show Raises allowed (bound.handleAndReceipt source)
    rw [found] at holds
    unfold BoundCartridge.handleAndReceipt
    cases handle : bound.handle with
    | none => exact raises_error (permits.runtime _ _ (by decide))
    | some opened =>
      cases receipt : bound.receipt with
      | none => exact raises_error (permits.runtime _ _ (by decide))
      | some validated =>
        have same : validated.receiptId = source.profileReceiptId := by
          simpa [receipt] using holds
        show Raises allowed (if _ then _ else _)
        rw [if_pos same]
        exact raises_ok _

section Handlers

variable {allowed : Raised → Prop} {sources : List SourceBinding} {outside : Outside} {α : Type}

theorem maintains_of_within {action : Act α} (within : Within sessionPart action)
    (raises : ∀ start, Leads action start (fun _ _ => True) (fun error _ => allowed error)) :
    Maintains (SessionKept sources) allowed action := by
  intro start kept
  refine ((within start).and (raises start)).mono (fun _ _ ended => kept.of_allowed ended.1)
    (fun _ _ ended => ⟨kept.of_allowed ended.1, ended.2⟩)

theorem maintains_perform (foreign : ∀ call error, outside.answer call = .error error →
    allowed error) (call : Call) :
    Maintains (SessionKept sources) allowed (perform outside call) := by
  refine maintains_of_within (sessionPart_perform outside call) fun start => ?_
  rw [leads_perform]
  exact ⟨fun _ _ => trivial, fun error failed => foreign call error failed⟩

theorem maintains_check {result : Except Raised α} (raises : Raises allowed result) :
    Maintains (SessionKept sources) allowed (check result) :=
  .reading fun _ _ => raises

theorem maintains_changePlayer (other : allowed .other) {change : PlayerSession → PlayerSession}
    (same : ∀ player, (change player).identity = player.identity) :
    Maintains (SessionKept sources) allowed (changePlayer change) := by
  refine maintains_of_within (within_changePlayer same) fun start => ?_
  rw [changePlayer, leads_bind, leads_modify, leads_reading]
  exact ⟨fun _ _ => trivial, fun error failed => raises_elim other error failed⟩

variable {change : DeckSession → DeckSession}

theorem maintains_changeDeck (other : allowed .other)
    (same : ∀ deck, (change deck).identity = deck.identity) :
    Maintains (SessionKept sources) allowed (changeDeck change) := by
  refine maintains_of_within (within_changeDeck same) fun start => ?_
  rw [changeDeck, leads_bind, leads_modify, leads_reading]
  exact ⟨fun _ _ => trivial, fun error failed => raises_elim other error failed⟩

/-- A changed deck has the sources of the session. -/
theorem session_changeDeck (other : allowed .other)
    (same : ∀ deck, (change deck).identity = deck.identity) (start : Protocol2Worker)
    (kept : SessionKept sources start) :
    Leads (changeDeck change) start
      (fun deck state => SessionKept sources state ∧ ∀ source ∈ deck.sources, source ∈ sources)
      (fun error state => SessionKept sources state ∧ allowed error) := by
  refine ((maintains_changeDeck other same start kept).and (?_ : Leads (changeDeck change) start
    (fun deck _ => ∀ source ∈ deck.sources, source ∈ sources) fun _ _ => True)).mono
    (fun _ _ ended => ⟨ended.1, ended.2⟩) (fun _ _ ended => ended.1)
  rw [changeDeck, leads_bind, leads_modify, leads_reading]
  refine ⟨fun deck found source member => ?_, fun _ _ => trivial⟩
  cases loaded : start.deck with
  | none =>
    rw [loaded] at found
    cases found
  | some held =>
    rw [loaded] at found
    have changed : change held = deck := Except.ok.inj found
    have own : source ∈ held.sources := by
      have identity := congrArg DeckSession.sources (same held)
      rw [← changed] at member
      exact identity ▸ member
    rw [← kept.2]
    simp [Sessions.sources, loaded, own]

theorem maintains_changeCapture (other : allowed .other) (change : CaptureSession → CaptureSession) :
    Maintains (SessionKept sources) allowed (changeCapture change) :=
  .bind (maintains_changeDeck other fun _ => rfl) fun _ =>
    maintains_check (raises_elim other)

theorem maintains_modify {change : Protocol2Worker → Protocol2Worker}
    (small : ∀ worker, sessionPart.allows worker (change worker)) :
    Maintains (SessionKept sources) allowed (modify change) :=
  .modify fun worker kept => kept.of_allowed (small worker)

theorem raises_slotCount (other : allowed .other) (handle : SourceHandle) :
    Raises allowed handle.slotCount := by
  unfold SourceHandle.slotCount
  cases handle.attributes with
  | none => exact raises_error other
  | some found => exact raises_ok _

variable (permits : Permits allowed) (other : allowed .other)
  (foreign : ∀ call error, outside.answer call = .error error → allowed error)

include permits in
theorem raises_validateTensor (platform : Platform) (tensor : Tensor) (receipt : ProfileReceipt)
    (loadRequest : CodecLoadRequest) (checkFinite : Bool) :
    Raises allowed (validateTensor platform tensor receipt loadRequest checkFinite) := by
  unfold validateTensor
  cases platform.torch with
  | none => exact raises_error (permits.runtime _ _ (by decide))
  | some version =>
    refine (raises_error ?_).ite ((raises_error ?_).ite ((raises_error ?_).ite (raises_ok _)))
    · exact permits.runtime _ _ (by decide)
    · exact permits.runtime _ _ (by decide)
    · exact permits.runtime _ _ (by decide)

include permits foreign in
/-- `_publish` raises runtime errors and what the transport raises. -/
theorem maintains_publish (sessionId : Uuid) (streamGeneration sequence : Nat)
    (batch : DecodedBatch) :
    Maintains (SessionKept sources) allowed
      (publish outside sessionId streamGeneration sequence batch) := by
  refine .bind (.reading fun worker _ => raises_requireDecodedRing permits worker) fun ring => ?_
  refine .bind (.demand (permits.runtime _ _ (by decide))) fun _ => ?_
  refine .bind (maintains_perform foreign _) fun answer => ?_
  refine .bind (maintains_check (raises_elim ?_)) fun _ => .pure _
  exact permits.runtime _ _ (by decide)

include permits other in
theorem maintains_playerAtSlot (player : PlayerSession) (slotCount : Int) :
    Maintains (SessionKept sources) allowed (playerAtSlot player slotCount) := by
  refine .ite (.pure _)
    (.ite (maintains_changePlayer other fun _ => rfl) ?_)
  refine .bind (maintains_changePlayer other fun _ => rfl) fun _ => ?_
  exact .throw (permits.runtime _ _ (by decide))

include permits other foreign in
theorem playerStep_raises (payload : Control.PlayerStep) {start : Protocol2Worker}
    (kept : start.ReceiptsKept) :
    Leads (playerStep outside payload) start (fun _ _ => True) (fun error _ => allowed error) := by
  have session : SessionKept start.toSessions.sources start := ⟨kept, rfl⟩
  rw [playerStep]
  refine leads_read (fun _ _ => ?_) fun error failed => raises_readyCodec permits start error failed
  refine leads_read (fun player required => ?_)
    fun error failed => raises_requirePlayer permits start _ _ error failed
  have member : player.source ∈ start.toSessions.sources := by
    simp [Sessions.sources, (player_of_require required).1]
  refine leads_read (fun held _ => ?_)
    fun error failed => raises_sessionSource permits kept member error failed
  refine leads_checked (fun slotCount _ => ?_)
    fun error failed => raises_slotCount other held.1 error failed
  refine Maintains.raises (?_ : Maintains (SessionKept start.toSessions.sources) allowed _)
    ⟨kept, rfl⟩
  refine Maintains.bind (maintains_playerAtSlot permits other player slotCount) fun player => ?_
  refine .bind (maintains_perform foreign _) fun tensor => ?_
  refine .bind (.reading fun worker _ => raises_loadedCodecRequest permits worker)
    fun loadRequest => ?_
  refine .bind (maintains_check (raises_validateTensor permits _ _ _ _ _)) fun _ => ?_
  refine .bind (maintains_perform foreign _) fun batch => ?_
  refine .bind (maintains_check (raises_decodedBatch permits batch)) fun _ => ?_
  refine .bind (maintains_changePlayer other fun _ => rfl) fun player => ?_
  refine .bind (maintains_publish permits foreign _ _ _ _) fun published => ?_
  refine .bind (maintains_changePlayer other fun _ => rfl) fun player => ?_
  exact .bind (maintains_modify fun _ => rfl) fun _ => .pure _

include other foreign in
theorem maintains_captureFault (capture : CaptureSession) :
    Maintains (SessionKept sources) allowed (captureFault outside capture) := by
  refine .bind (.suppressing (maintains_perform foreign _)) fun _ => ?_
  refine .bind (maintains_changeCapture other _) fun _ => ?_
  refine .bind (maintains_modify fun _ => rfl) fun _ => ?_
  exact .bind (maintains_changeDeck other fun _ => rfl) fun _ => .pure ()

include other foreign in
theorem maintains_faultAndRaise (capture : CaptureSession) {raised : Raised}
    (permitted : allowed raised) :
    Maintains (SessionKept sources) allowed
      (faultAndRaise outside capture raised : Act α) :=
  .bind (maintains_captureFault other foreign capture) fun _ => .throw permitted

include permits in
/-- What finishing a capture raises for an exception of the writer. -/
theorem allowed_finishError {raised : Raised} (permitted : allowed raised) :
    allowed (finishError raised) := by
  cases raised with
  | runtime error => exact permitted
  | sdk code => exact permits.extension _ _ _
  | deckContract code => exact permits.runtime _ _ (by decide)
  | other => exact permits.runtime _ _ (by decide)

include permits in
/-- What appending to a capture raises for an exception of the writer. -/
theorem allowed_appendError (raised : Raised) : allowed (appendError raised) := by
  cases raised with
  | runtime error => exact permits.runtime _ _ (by decide)
  | sdk code => exact permits.extension _ _ _
  | deckContract code => exact permits.runtime _ _ (by decide)
  | other => exact permits.runtime _ _ (by decide)

include permits in
/-- A payload of a capture is checked by the Codec SDK and by the worker. -/
theorem raises_capturePayload (platform : Platform) (capture : CaptureSession)
    (payload : CapturePayload) :
    Raises allowed (payload.validate platform) ∧
      Raises allowed (validateCapturePayload capture payload) := by
  constructor
  · unfold CapturePayload.validate
    iterate 3 refine (raises_sdkRefuse permits _ _).bind fun _ => ?_
    refine (raises_sdkPositive permits _).bind fun _ => ?_
    exact (raises_sdkPositive permits _).bind fun _ => raises_sdkPositive permits _
  · exact (raises_error (permits.runtime _ _ (by decide))).ite (raises_ok ())

include permits other foreign in
/-- A capture that may be finished raises what its writer raises. -/
theorem maintains_captureTryFinish (capture : CaptureSession) :
    Maintains (SessionKept sources) allowed (captureTryFinish outside capture) := by
  refine .bind (.catching (.map _ ?_ : Maintains _ allowed _)
    fun raised permitted => ?_) fun completed => .whenSome fun payload => ?_
  · refine .bind (maintains_perform foreign _) fun answer => ?_
    refine .bind (maintains_check (raises_elim (permits.sdk _))) fun completed => ?_
    have checks := raises_capturePayload permits outside.platform capture completed
    exact .bind (maintains_check checks.1) fun _ =>
      .bind (maintains_check checks.2) fun _ => .pure _
  · exact .ite (.pure none)
      (maintains_faultAndRaise other foreign capture (allowed_finishError permits permitted))
  · refine .bind (maintains_changeCapture other _) fun _ => ?_
    refine .bind (maintains_modify fun _ => rfl) fun _ => ?_
    exact .bind (maintains_changeDeck other fun _ => rfl) fun _ => .pure ()

include permits other foreign in
/-- A capture that records a slot raises what its writer raises. -/
theorem maintains_captureAppend (tensor : Tensor) :
    Maintains (SessionKept sources) allowed (captureAppend outside tensor) := by
  refine .bind (.reading fun worker _ => raises_elim other) fun deck => ?_
  refine .whenSome fun capture => ?_
  refine .bind (.whenever (maintains_faultAndRaise other foreign capture
    (permits.runtime _ _ (by decide)))) fun _ => ?_
  refine .bind (.catching (maintains_perform foreign _) fun raised _ =>
    maintains_faultAndRaise other foreign capture (allowed_appendError permits raised))
    fun _ => ?_
  refine .bind (maintains_changeCapture other _) fun capture => ?_
  refine .bind (maintains_modify fun _ => rfl) fun _ => ?_
  exact .whenever (maintains_captureTryFinish permits other foreign capture)

variable {source : SourceBinding}

include permits other foreign in
theorem maintains_readSource (deck : DeckSession) (index : Nat) (member : source ∈ sources) :
    Maintains (SessionKept sources) allowed (readSource outside deck source index) := by
  refine .bind (.reading fun worker kept =>
    raises_sessionSource permits kept.1 (kept.2 ▸ member)) fun held => ?_
  refine .bind (maintains_check (raises_slotCount other held.1)) fun slotCount => ?_
  refine .bind (maintains_check (raises_elim other)) fun playhead => ?_
  refine .bind (.demand (permits.runtime _ _ (by decide))) fun _ => ?_
  refine .bind (maintains_perform foreign _) fun tensor => ?_
  refine .bind (.reading fun worker _ => raises_loadedCodecRequest permits worker)
    fun loadRequest => ?_
  exact .bind (maintains_check (raises_validateTensor permits _ _ _ _ _)) fun _ => .pure _

include permits other in
theorem maintains_advanceSource (index : Nat) (member : source ∈ sources) :
    Maintains (SessionKept sources) allowed (advanceSource source index) := by
  refine .bind (.reading fun _ _ => raises_elim other) fun transport => ?_
  refine .whenever (.bind (.reading fun worker kept =>
    raises_sessionSource permits kept.1 (kept.2 ▸ member)) fun held => ?_)
  refine .bind (maintains_check (raises_slotCount other held.1)) fun slotCount => ?_
  exact .bind (maintains_changeDeck other fun deck => deck.advanced_identity _ _ _)
    fun _ => .pure ()

include permits other foreign in
/-- `deck.process` does not report a changed receipt. -/
theorem deckProcess_raises (payload : Control.DeckProcess) {start : Protocol2Worker}
    (kept : start.ReceiptsKept) :
    Leads (deckProcess outside payload) start (fun _ _ => True)
      (fun error _ => allowed error) := by
  rw [deckProcess]
  refine leads_read (fun _ _ => ?_) fun error failed => raises_readyCodec permits start error failed
  refine leads_read (fun deck required => ?_)
    fun error failed => raises_requireDeck permits start _ _ _ error failed
  have member : ∀ entry ∈ deck.sources.zipIdx, entry.1 ∈ start.toSessions.sources := by
    intro entry member
    have source := List.fst_mem_of_mem_zipIdx member
    simp [Sessions.sources, (deck_of_require required).1, source]
  refine Maintains.raises (?_ : Maintains (SessionKept start.toSessions.sources) allowed _)
    ⟨kept, rfl⟩
  refine Maintains.bind (Maintains.each _ fun entry inside =>
    maintains_readSource permits other foreign deck entry.2 (member entry inside)) fun read => ?_
  refine .bind (maintains_check (raises_elim other)) fun receipt => ?_
  refine .bind_with (session_changeDeck other fun _ => rfl) fun moved own => ?_
  refine .bind ?_ fun result => ?_
  · refine .bind (maintains_check (raises_processCall permits _ _ _ _)) fun _ => ?_
    exact .bind (maintains_perform foreign _) fun answer =>
      maintains_check (raises_processResult permits _ _ _)
  refine .bind (.reading fun worker _ => raises_loadedCodecRequest permits worker)
    fun loadRequest => ?_
  refine .bind (maintains_check (raises_validateTensor permits _ _ _ _ _)) fun _ => ?_
  refine .bind (maintains_captureAppend permits other foreign _) fun _ => ?_
  refine .bind (maintains_perform foreign _) fun batch => ?_
  refine .bind (maintains_check (raises_decodedBatch permits batch)) fun _ => ?_
  refine .bind (maintains_publish permits foreign _ _ _ _) fun published => ?_
  refine .bind ?_ fun _ => .bind (maintains_modify fun _ => rfl) fun _ => .pure _
  refine .bind (maintains_changeDeck other fun _ => rfl) fun _ => ?_
  refine .bind (.each _ fun entry inside => maintains_advanceSource permits other
    entry.2 (own _ (List.fst_mem_of_mem_zipIdx inside))) fun _ => ?_
  exact .bind (maintains_changeDeck other fun deck => deck.afterProcess_identity) fun _ => .pure ()

end Handlers

section Acknowledgements

variable {allowed : Raised → Prop} (permits : Permits allowed) (other : allowed .other)
  {worker : Protocol2Worker} (kept : worker.ReceiptsKept)
include permits other kept

theorem raises_playerStatusWire {player : PlayerSession} (open_ : worker.player = some player) :
    Raises allowed (worker.playerStatusWire player) := by
  have member : player.source ∈ worker.toSessions.sources := by simp [Sessions.sources, open_]
  unfold Protocol2Worker.playerStatusWire
  refine (raises_sessionSource permits kept member).bind fun held => ?_
  exact (raises_slotCount other held.1).bind fun _ => raises_ok _

theorem raises_deckStatusWire {deck : DeckSession} (loaded : worker.deck = some deck) :
    Raises allowed (worker.deckStatusWire deck) := by
  unfold Protocol2Worker.deckStatusWire
  refine (raises_mapM _ fun entry inside => ?_).bind fun _ => raises_ok _
  have source := List.fst_mem_of_mem_zipIdx inside
  have member : entry.1 ∈ worker.toSessions.sources := by simp [Sessions.sources, loaded, source]
  unfold Protocol2Worker.playheadWire
  refine (raises_sessionSource permits kept member).bind fun held => ?_
  refine (raises_elim other).bind fun playhead => (raises_elim other).bind fun transport => ?_
  refine Raises.bind ?_ fun _ => raises_ok _
  unfold atEnd
  exact (raises_ok false).ite ((raises_slotCount other held.1).bind fun _ => raises_ok _)

/-- The acknowledgement of `player.step` does not report a changed receipt. -/
theorem raises_stepAck (value : CommandValue) : Raises allowed (worker.stepAck value) := by
  unfold Protocol2Worker.stepAck
  cases value with
  | process receipt =>
    cases open_ : worker.player with
    | none => exact raises_error other
    | some player =>
      exact (raises_playerStatusWire permits other kept open_).bind fun _ => raises_ok _
  | _ => exact raises_error other

/-- The acknowledgement of `deck.process` does not report a changed receipt. -/
theorem raises_processAck (value : CommandValue) : Raises allowed (worker.processAck value) := by
  unfold Protocol2Worker.processAck
  cases value with
  | process receipt =>
    cases loaded : worker.deck with
    | none => exact raises_error other
    | some deck =>
      refine (raises_deckStatusWire permits other kept loaded).bind fun _ => ?_
      refine Raises.bind (raises_mapM _ fun entry _ => ?_) fun _ => raises_ok _
      exact (raises_ok _).ite (raises_error other)
  | _ => exact raises_error other

end Acknowledgements

/-- The status and step commands of a session. -/
def asksSession : Control.CommandName → Bool
  | .playerStep | .playerStatus | .deckProcess | .deckStatus => true
  | _ => false

/-- A status or step command raises no changed receipt, nor does its acknowledgement. -/
theorem session_innocent (outside : Outside) {command : Command}
    (asks : asksSession command.name = true) {start : Protocol2Worker} (kept : start.ReceiptsKept) :
    Leads (operation outside command) start
      (fun value state => ∀ worker, OnlyBooks state worker → worker.ReceiptsKept →
        Raises (Innocent outside) (worker.ackPayload value command))
      (fun error _ => Innocent outside error) := by
  have permits := innocent_permits outside
  have other : Innocent outside .other := by rintro ⟨⟩
  have foreign : ∀ call error, outside.answer call = .error error → Innocent outside error := by
    intro call error failed same
    rw [same] at failed
    exact ⟨call, failed⟩
  cases command with
  | playerStep request =>
    rw [operation, leads_map]
    exact (playerStep_raises permits other foreign request kept).mono
      (fun receipt _ _ worker _ still => raises_stepAck permits other still (.process receipt))
      (fun _ _ failed => failed)
  | deckProcess request =>
    rw [operation, leads_map]
    exact (deckProcess_raises permits other foreign request kept).mono
      (fun receipt _ _ worker _ still => raises_processAck permits other still (.process receipt))
      (fun _ _ failed => failed)
  | playerStatus =>
    rw [operation, leads_reading]
    refine ⟨fun value same worker books still => ?_, by rintro _ ⟨⟩⟩
    have player : worker.player = start.player := by rw [books]; rfl
    show Raises _ (worker.playerAck value)
    cases open_ : start.player with
    | none =>
      simp only [open_, Option.elim_none, Except.ok.injEq] at same
      rw [← same]
      exact raises_error other
    | some found =>
      simp only [open_, Option.elim_some, Except.ok.injEq] at same
      rw [← same]
      refine Raises.bind (raises_playerStatusWire permits other still (player.trans open_))
        fun _ => raises_ok _
  | deckStatus =>
    rw [operation, leads_reading]
    refine ⟨fun value same worker books still => ?_, by rintro _ ⟨⟩⟩
    have deck : worker.deck = start.deck := by rw [books]; rfl
    show Raises _ (worker.deckAck value)
    cases loaded : start.deck with
    | none =>
      simp only [loaded, Option.elim_none, Except.ok.injEq] at same
      rw [← same]
      exact raises_error other
    | some found =>
      simp only [loaded, Option.elim_some, Except.ok.injEq] at same
      rw [← same]
      refine Raises.bind (raises_deckStatusWire permits other still (deck.trans loaded))
        fun _ => raises_ok _
  | _ => cases asks

/-- An open source holds a receipt for a device. -/
def SourceTable.HoldsReceiptFor (table : SourceTable) (device : String) : Prop :=
  ∃ sourceId bound receipt, table.bound.lookup sourceId = some bound ∧
    bound.receipt = some receipt ∧ receipt.tensorAbi.device = device

/-- A receipt table that is not empty names an open source with a receipt. -/
theorem exists_receipt {table : SourceTable} {sources : List SourceBinding}
    (kept : ReceiptsKept table sources) (some_ : table.receiptSources.isEmpty = false) :
    ∃ sourceId bound receipt, table.bound.lookup sourceId = some bound ∧
      bound.receipt = some receipt := by
  have filled : ¬ ∀ receiptId, table.receiptSources.lookup receiptId = none := by
    rw [← Dict.isEmpty_iff, some_]
    exact Bool.false_ne_true
  rw [not_forall] at filled
  cases named : table.receiptSources.lookup filled.choose with
  | none => exact absurd named filled.choose_spec
  | some sourceId =>
    have holds := (kept.indexed _ _).mp named
    unfold SourceTable.receiptIdOf at holds
    cases found : table.bound.lookup sourceId with
    | none => simp [found] at holds
    | some bound =>
      cases receipt : bound.receipt with
      | none => simp [found, receipt] at holds
      | some validated => exact ⟨sourceId, bound, validated, found, receipt⟩

/-- `codec.load` returns only for a device that an open source has a receipt for. -/
theorem codecLoad_justified (outside : Outside) (request : Control.CodecLoad)
    {start : Protocol2Worker} (kept : start.ReceiptsKept) :
    Leads (codecLoad outside request) start
      (fun _ _ => start.HoldsReceiptFor (deviceText request.device)) (fun _ _ => True) := by
  rw [codecLoad]
  refine leads_read (fun selected _ => ?_) fun _ _ => trivial
  refine leads_demanded (fun _ => ?_) fun _ => trivial
  rw [leads_bind, leads_require]
  refine ⟨fun filled => ?_, fun _ => trivial⟩
  refine leads_checked (fun _ _ => ?_) fun _ _ => trivial
  refine leads_demanded (fun _ => ?_) fun _ => trivial
  rw [leads_bind, leads_require]
  refine ⟨fun devices => ?_, fun _ => trivial⟩
  have found := exists_receipt kept (by simpa using filled)
  obtain ⟨sourceId, bound, receipt, looked, held⟩ := found
  have member : bound ∈ start.bound.values := (start.bound.mem_values bound).mpr ⟨sourceId, looked⟩
  have same : receipt.tensorAbi.device = deviceText request.device := by
    by_contra differs
    have all := devices
    simp only [Bool.not_eq_true', List.any_eq_false] at all
    exact all bound member (by simpa [held, codecLoadRequest] using differs)
  rw [leads_iff]
  exact ⟨fun _ _ _ => ⟨sourceId, bound, receipt, looked, held, same⟩, fun _ _ _ => trivial⟩

/-- What the receipts guarantee about a step of a worker. -/
structure ReceiptsUsed (step : Step Protocol2Worker (Outside × Envelope) (Except Raised Reply)) :
    Prop where
  kept : step.after.ReceiptsKept
  justified : ∀ request, step.input.2.message = .command (.codecLoad request) →
    Acknowledged step.output → step.before.HoldsReceiptFor (deviceText request.device)
  unchanged : ∀ command, step.input.2.message = .command command →
    asksSession command.name = true → reported step.output = some receiptChanged →
      ∃ call, step.input.1.answer call = .error receiptChanged

/-- The command of a step, if there is one, is orderly. -/
def OrderlyStep (step : Step Protocol2Worker (Outside × Envelope) (Except Raised Reply)) : Prop :=
  ∀ command, step.input.2.message = .command command → Orderly step.input.1 step.before command

theorem ReceiptsKept.of_books {first second : Protocol2Worker} (books : OnlyBooks first second)
    (kept : first.ReceiptsKept) : second.ReceiptsKept := by
  rw [books]
  exact kept

theorem turn_keeps (before : Protocol2Worker) (input : Outside × Envelope)
    (kept : before.ReceiptsKept) (orderly : OrderlyStep (stepOf turn before input)) :
    (turn before input).2.ReceiptsKept := by
  refine (turn_spec input.1 input.2 before).preserves (fun _ _ => ReceiptsKept.of_books) kept
    fun command carried entered => operation_keeps input.1 command entered ?_
  have asked := orderly command carried.message
  exact ⟨asked.running, asked.once, asked.closes⟩

/-- A turn from where the receipts are kept uses them as it should. -/
theorem turn_uses (before : Protocol2Worker) (input : Outside × Envelope)
    (kept : before.ReceiptsKept) (orderly : OrderlyStep (stepOf turn before input)) :
    ReceiptsUsed (stepOf turn before input) := by
  have spec := turn_spec input.1 input.2 before
  have entered : (before.enter input.2).ReceiptsKept := kept
  refine ⟨turn_keeps before input kept orderly, fun request message acknowledged => ?_,
    fun command message asks reports => ?_⟩
  · obtain ⟨command, value, after, carried, ended, -⟩ := spec.of_acknowledged acknowledged
    have same := carried.message.symm.trans message
    cases same
    have justified : Leads (operation input.1 (.codecLoad request)) (before.enter input.2)
        (fun _ _ => before.HoldsReceiptFor (deviceText request.device)) (fun _ _ => True) := by
      rw [operation, leads_map]
      exact codecLoad_justified input.1 request entered
    exact justified.of_ok ended
  · cases spec.of_reported reports with
    | inl gate =>
      obtain ⟨error, member, same⟩ := gate
      have others : ∀ error ∈ gateErrors, receiptChanged ≠ .runtime error := by decide
      exact absurd same (others error member)
    | inr source =>
      obtain ⟨carriedCommand, raised, carried, same, source⟩ := source
      have asked := carried.message.symm.trans message
      cases asked
      refine reported_innocent ?_ same
      have session := session_innocent input.1 asks entered
      rcases source with rfl | ⟨after, ended⟩ | ⟨value, after, ended, missing⟩
      · rintro ⟨⟩
      · exact session.of_error ended
      · have asked := orderly command message
        have kept := (operation_keeps input.1 command entered
          ⟨asked.running, asked.once, asked.closes⟩).of_ok ended
        have books := onlyBooks_remember after input.2.messageId command.name value
        exact session.of_ok ended _ books (kept.of_books books) raised missing

section Created

variable {platform : Platform} {sessionId : Uuid} {codecs : List TrustedCodecEntrypoint}
  {decks : List TrustedDeckEntrypoint} {start : Protocol2Worker}
  (created : Protocol2Worker.create platform sessionId codecs decks = .ok start)

include created

theorem created_keeps : start.ReceiptsKept := by
  obtain ⟨-, codecs, decks, rfl⟩ := fresh_of_created created
  exact ReceiptsKept.without_session (Dict.inverts_empty fun _ => rfl)

/-- In a run of orderly commands the table names exactly the receipts of the open sources, codecs
are loaded for devices that a receipt allows, and no session finds a changed one. -/
theorem orderly_run_uses_receipts (inputs : List (Outside × Envelope))
    (orderly : ∀ step ∈ steps turn start inputs, OrderlyStep step) :
    ∀ step ∈ steps turn start inputs, ReceiptsUsed step := by
  intro step member
  have around := (invariant_under OrderlyStep Protocol2Worker.ReceiptsKept turn_keeps inputs start
    (created_keeps created) orderly).2 step member
  have met := orderly step member
  rw [step_eq start inputs step member] at met ⊢
  exact turn_uses _ _ around.1 met

end Created

/-- A command that is orderly for a reason that can be seen at once: nothing is validated again,
and no handle has to be closed. -/
def quiet (worker : Protocol2Worker) : Incoming → Bool
  | .command (.sessionShutdown _) => false
  | .command (.profileValidate payload) =>
      (worker.bound.lookup payload.sourceId).all (·.receipt.isNone)
  | .command (.sourceClose payload) =>
      (worker.bound.lookup payload.sourceId).all (·.handle.isNone)
  | _ => true

theorem orderly_of_quiet {outside : Outside} {worker : Protocol2Worker} {command : Command}
    (calm : quiet worker (.command command) = true) : Orderly outside worker command where
  running shutdown := by
    cases command with
    | sessionShutdown request => cases calm
    | _ => simp [Command.name] at shutdown
  once payload same bound inspection selected receipt found validated := by
    rw [same] at calm
    simp only [quiet, found, Option.all_some, Option.isNone_iff_eq_none] at calm
    exact absurd calm validated
  closes payload same bound handle found opened := by
    rw [same] at calm
    simp only [quiet, found, Option.all_some, opened, Option.isNone_some] at calm
    cases calm

/-- The run of the sample worker up to a loaded codec uses its receipts. -/
theorem orderly_run_uses_receipts_sample :
    (∀ step ∈ steps turn sampleWorker (sampleInputs (sampleLoaded.map (sampleOutside 7, ·))),
      ReceiptsUsed step) ∧
      (final turn sampleWorker (sampleInputs (sampleLoaded.map (sampleOutside 7, ·)))).receiptIdOf
        4 = some 7 := by
  refine ⟨?_, by decide +kernel⟩
  refine orderly_run_uses_receipts sampleWorker_created _ fun step member command message => ?_
  have calm : (steps turn sampleWorker (sampleInputs (sampleLoaded.map (sampleOutside 7, ·)))).all
      (fun step => quiet step.before step.input.2.message) = true := by decide +kernel
  have here := List.all_eq_true.mp calm step member
  rw [message] at here
  exact orderly_of_quiet here

/-- The sample run in which the cartridge of an open player is validated again. -/
def revalidated : List (Outside × Envelope) :=
  sampleInputs (samplePlaying.map (sampleOutside 7, ·) ++
    [.profileValidate ⟨4, ⟨"codec", "profile", "1"⟩, ⟨[], Nat.zero_le _⟩⟩, .playerStatus].map
      (sampleOutside 8, ·))

/-- A source that is validated again leaves its first receipt in the table, and the player that was
opened with it fails. -/
theorem receipts_go_stale :
    ¬ (∀ step ∈ steps turn sampleWorker revalidated, ReceiptsUsed step) ∧
      (final turn sampleWorker revalidated).receiptSources.lookup 7 = some 4 ∧
      (final turn sampleWorker revalidated).receiptIdOf 4 = some 8 ∧
      ((steps turn sampleWorker revalidated).getLast?.bind (reported ·.output)) =
        some receiptChanged := by
  have stale : (final turn sampleWorker revalidated).receiptSources.lookup 7 = some 4 := by
    decide +kernel
  have held : (final turn sampleWorker revalidated).receiptIdOf 4 = some 8 := by decide +kernel
  refine ⟨fun uses => ?_, stale, held, by decide +kernel⟩
  have kept : (final turn sampleWorker revalidated).ReceiptsKept :=
    at_end _ _ (created_keeps sampleWorker_created) fun step member => (uses step member).kept
  have named := (kept.indexed 7 4).mp stale
  rw [held] at named
  exact absurd named (by decide)

end LatentDeck.CodecHost
