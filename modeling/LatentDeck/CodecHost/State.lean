import LatentDeck.Library.Effect
import LatentDeck.CodecHost.Wire

/-!
# The state of a worker

A `Protocol2Worker` and everything it holds, its calls on code outside of it, and the checks that
its commands start with. Adapters, capture writers, operators, accesses, the ring transport and the
file system answer a call with a value or raise, as an `Outside` says for one command. `history` is
not a field of the source: it records the calls and their answers, for properties to speak about.
-/

namespace LatentDeck.CodecHost

open Effect
open Control (Uuid Capability CommandName ErrorCode)

/-- `CartridgeAccess` — an object that the cartridge access factory returned. -/
structure CartridgeAccess where
  object : Nat
  cartridgeId : Uuid
  archiveSha256 : String
  manifestIsMapping : Bool

/-- `SourceHandle` — an object that `open_source` returned. -/
structure SourceHandle where
  object : Nat
  /-- `source_id` and `slot_count`, when the object has what the protocol demands. -/
  attributes : Option (Uuid × Int)

/-- `CaptureWriter` — an object that `create_capture_writer` returned. -/
structure CaptureWriter where
  object : Nat
  /-- It offers `append_validated`. -/
  appendsValidated : Bool

/-- `CodecAdapter`. -/
structure Adapter where
  /-- It is a `RawImportAdapter`, too. -/
  importsRaw : Bool
  deriving DecidableEq

inductive PythonObject where
  | adapter (value : Adapter)
  | callable
  | other
  deriving DecidableEq

/-- The callable that an entrypoint names, by where it was loaded from. -/
structure Operator where
  pythonRoot : Option String
  entrypoint : String

/-- What the file system says about a directory. -/
structure RootFacts where
  isLink : Bool
  /-- `resolve(strict=True)`, unless it fails. -/
  resolved : Option String
  isDirectory : Bool

/-- What the file system says about a staged payload. -/
structure StagedFacts where
  isLink : Bool
  /-- `resolve(strict=True)`, unless it fails. -/
  resolved : Option String
  parent : String
  isFile : Bool
  sizeBefore : Int
  measured : Int
  sha256 : String
  sizeAfter : Int
  unmodified : Bool
  isCanonical : Bool

/-- The reset event that goes with the next captured slot. -/
structure ResetEvent where
  generation : Nat
  sequence : Nat

inductive Call where
  /-- `cartridge_access_factory.open`. -/
  | openCartridge (request : Control.SourceOpen)
  /-- `cartridge_access_factory.close`. -/
  | closeCartridge (access : Option CartridgeAccess)
  /-- `importlib.import_module` and `getattr`. -/
  | importEntrypoint (entrypoint : String)
  | construct (entrypoint : String)
  /-- `Path(…).resolve(strict=True)` and `is_dir` of a deck's Python root. -/
  | resolveRuntimeRoot (root : String)
  /-- `_load_entrypoint_from_root`. -/
  | importFromRoot (root entrypoint : String)
  /-- `adapter.descriptor`. -/
  | descriptor
  /-- `adapter.inspect`. -/
  | inspect (access : CartridgeAccess)
  /-- `adapter.validate_profile`. -/
  | validateProfile (access : CartridgeAccess) (inspection : ProfileInspection)
  /-- `adapter.load`. -/
  | load (request : CodecLoadRequest)
  /-- `adapter.open_source`. -/
  | openSource (access : CartridgeAccess) (receipt : ProfileReceipt) (sourceId : Uuid)
  /-- `handle.close`. -/
  | closeHandle (sourceId : Uuid) (handle : SourceHandle)
  /-- `adapter.read_slot` for a physical slot. -/
  | readSlot (physicalSlot : Nat) (handle : SourceHandle) (slot : Nat)
  /-- `adapter.decode_slot`. -/
  | decodeSlot (tensor : Tensor) (maximumFrames : Int)
  /-- `adapter.reset_decoder`. -/
  | resetDecoder (generation : Nat)
  /-- `adapter.create_capture_writer`. -/
  | createCaptureWriter (request : CaptureRequest)
  /-- `writer.append_validated` or `writer.append`. -/
  | appendSlot (writer : CaptureWriter) (tensor : Tensor) (resetEvent : Option ResetEvent)
  /-- `writer.finish`. -/
  | finishCapture (writer : CaptureWriter)
  /-- `writer.abort`. -/
  | abortCapture (writer : CaptureWriter)
  /-- `adapter.preflight_raw_import`. -/
  | preflightRawImport (request : RawImportPreflightRequest)
  /-- `adapter.stage_raw_import`. -/
  | stageRawImport (request : RawImportStageRequest)
  /-- `adapter.abort_raw_import`. -/
  | abortRawImport (importId : Uuid)
  | stagingRoot (path : String)
  | stagedFile (path : String) (again : Bool)
  /-- `unlink` of a staged payload. -/
  | unlinkStaged (path : String)
  | operate (operator : Operator) (sources : List Tensor) (controls : Dict String Scalar)
      (context : DeckOperatorContext)
  /-- `ring_transport.configure`. -/
  | configureRing (request : Control.RingConfigure)
  /-- `ring_transport.discard_transferred_handles`. -/
  | discardRing (request : Control.RingConfigure)
  /-- `ring_transport.release`. -/
  | releaseRing (ringId : Uuid)
  /-- `ring_transport.set_generation`. -/
  | setGeneration (ringId : Uuid) (generation : Nat)
  /-- `ring_transport.publish`. -/
  | publish (ringId sessionId : Uuid) (generation sequence : Nat) (batch : DecodedBatch)

/-- What a call returns; an absent object is one of another kind. -/
@[reducible]
def Call.Answer : Call → Type
  | .openCartridge _ => Option CartridgeAccess
  | .importEntrypoint _ => Option PythonObject
  | .construct _ | .importFromRoot _ _ => PythonObject
  | .resolveRuntimeRoot _ | .stagingRoot _ => RootFacts
  | .descriptor => CodecDescriptor
  | .inspect _ => ProfileInspection
  | .validateProfile _ _ => ProfileReceipt
  | .openSource _ _ _ => Option SourceHandle
  | .readSlot _ _ _ => Tensor
  | .decodeSlot _ _ => DecodedBatch
  | .createCaptureWriter _ => CaptureWriter
  | .finishCapture _ => Option CapturePayload
  | .preflightRawImport _ => Option RawImportPreflight
  | .stageRawImport _ => Option RawImportArtifact
  | .stagedFile _ _ => StagedFacts
  | .operate _ _ _ _ => Option DeckOperatorResult
  | .publish _ _ _ _ _ => Option Int
  | .closeCartridge _ | .load _ | .closeHandle _ _ | .resetDecoder _ | .appendSlot _ _ _
  | .abortCapture _ | .abortRawImport _ | .unlinkStaged _ | .configureRing _ | .discardRing _
  | .releaseRing _ | .setGeneration _ _ => Unit

structure Event where
  call : Call
  answer : Except Raised call.Answer

/-- `uuid.uuid4()` — never nil. -/
abbrev FreshId := { id : Uuid // id.isNil = false }

/-- What the world outside of the worker does during one command. -/
structure Outside where
  platform : Platform
  answer : (call : Call) → Except Raised call.Answer
  uptimeNs : UInt64
  replyId : FreshId
  errorReplyId : FreshId
  diagnosticId : FreshId

structure TrustedCodecEntrypoint where
  packId : String
  packVersion : String
  adapterId : String
  adapterVersion : String
  entrypoint : String

structure TrustedDeckEntrypoint where
  deckId : String
  deckVersion : String
  operatorId : String
  operatorVersion : String
  entrypoint : String

structure BoundCartridge where
  sourceId : Uuid
  access : CartridgeAccess
  inspection : Option ProfileInspection
  receipt : Option ProfileReceipt
  handle : Option SourceHandle

structure SourceBinding where
  physicalSlot : Nat
  sourceId : Uuid
  cartridgeId : Uuid
  archiveSha256 : String
  profileReceiptId : Uuid
  loopEnabled : Bool

structure PlayerSession where
  sessionId : Uuid
  source : SourceBinding
  streamGeneration : Nat
  playhead : Nat
  sequence : Nat
  state : Control.PlayerState

structure CaptureSession where
  captureId : Uuid
  mode : Control.CaptureMode
  maximumLatentSlots : Nat
  maximumVisualBytes : Nat
  maximumResetEvents : Nat
  writer : CaptureWriter
  state : Control.CaptureState
  resetEvents : Nat
  latentSlots : Nat
  pendingResetEvent : Option ResetEvent
  payload : Option CapturePayload

structure DeckSession where
  sessionId : Uuid
  deckId : String
  deckVersion : String
  operatorId : String
  operatorVersion : String
  operator : Operator
  sources : List SourceBinding
  roles : List RoleBinding
  controls : Dict String Scalar
  seed : Nat
  streamGeneration : Nat
  deckRevision : Nat
  sequence : Nat
  playheads : List Nat
  previousSources : List (Option Tensor)
  sourceTransport : List SourceTransport
  state : Control.DeckState
  capture : Option CaptureSession

/-- The open sources and the sources of the receipts. -/
structure SourceTable where
  bound : Dict Uuid BoundCartridge
  receiptSources : Dict Uuid Uuid

/-- The warm session and the state of its capture. -/
structure Sessions where
  player : Option PlayerSession
  deck : Option DeckSession
  captureState : Control.CaptureState

structure Protocol2Worker extends SourceTable, Sessions where
  sessionId : Uuid
  codecRegistry : Dict (String × String × String) TrustedCodecEntrypoint
  deckRegistry : Dict (String × String × String × String) TrustedDeckEntrypoint
  adapter : Option Adapter
  descriptor : Option CodecDescriptor
  codecLoadRequest : Option CodecLoadRequest
  codecState : Control.CodecState
  sessionState : Control.SessionState
  rings : Dict Uuid RingBinding
  acceptedCapabilities : List Capability
  rawImports : Dict Uuid RawImportPreflight
  rawImportArtifacts : Dict Uuid (RawImportArtifact × String)
  incomingSequence : Nat
  outgoingSequence : Nat
  seenMessageIds : List Uuid
  /-- `_command_results`, by the names of their commands. -/
  commandResults : Dict Uuid CommandName
  shutdown : Bool
  metrics : Metrics
  history : List Event

/-- A command of the worker: it returns or raises, and what it changed stays changed. -/
abbrev Act := EStateM Raised Protocol2Worker

/-- `_entrypoint`. -/
def validateEntrypoint (platform : Platform) (value : String) : Except Raised Unit :=
  if isEntrypoint platform value then .ok () else .error .other

def TrustedCodecEntrypoint.validate (platform : Platform) (entry : TrustedCodecEntrypoint) :
    Except Raised Unit :=
  if isIdentifier entry.packId && isVersion entry.packVersion && isIdentifier entry.adapterId &&
      isVersion entry.adapterVersion then validateEntrypoint platform entry.entrypoint
  else .error .other

def TrustedDeckEntrypoint.validate (platform : Platform) (entry : TrustedDeckEntrypoint) :
    Except Raised Unit :=
  if isIdentifier entry.deckId && isVersion entry.deckVersion && isIdentifier entry.operatorId &&
      isVersion entry.operatorVersion then validateEntrypoint platform entry.entrypoint
  else .error .other

def codecRegistry (platform : Platform) : List TrustedCodecEntrypoint →
    Dict (String × String × String) TrustedCodecEntrypoint →
    Except Raised (Dict (String × String × String) TrustedCodecEntrypoint)
  | [], registry => .ok registry
  | entry :: entries, registry => do
      entry.validate platform
      let key := (entry.packId, entry.packVersion, entry.adapterId)
      if registry.contains key then .error .other
      else codecRegistry platform entries (registry.insert key entry)

def deckRegistry (platform : Platform) : List TrustedDeckEntrypoint →
    Dict (String × String × String × String) TrustedDeckEntrypoint →
    Except Raised (Dict (String × String × String × String) TrustedDeckEntrypoint)
  | [], registry => .ok registry
  | entry :: entries, registry => do
      entry.validate platform
      let key := (entry.deckId, entry.deckVersion, entry.operatorId, entry.operatorVersion)
      if registry.contains key then .error .other
      else deckRegistry platform entries (registry.insert key entry)

def Protocol2Worker.fresh (sessionId : Uuid)
    (codecs : Dict (String × String × String) TrustedCodecEntrypoint)
    (decks : Dict (String × String × String × String) TrustedDeckEntrypoint) : Protocol2Worker where
  bound := .empty
  receiptSources := .empty
  player := none
  deck := none
  captureState := .idle
  sessionId := sessionId
  codecRegistry := codecs
  deckRegistry := decks
  adapter := none
  descriptor := none
  codecLoadRequest := none
  codecState := .unloaded
  sessionState := .unconfigured
  rings := .empty
  acceptedCapabilities := []
  rawImports := .empty
  rawImportArtifacts := .empty
  incomingSequence := 1
  outgoingSequence := 1
  seenMessageIds := []
  commandResults := .empty
  shutdown := false
  metrics := ⟨0, 0, 0, 0, 0, 0⟩
  history := []

/-- `Protocol2Worker.__init__`. -/
def Protocol2Worker.create (platform : Platform) (sessionId : Uuid)
    (codecEntrypoints : List TrustedCodecEntrypoint)
    (deckEntrypoints : List TrustedDeckEntrypoint) : Except Raised Protocol2Worker := do
  if sessionId.isNil then .error .other
  else
    let codecs ← CodecHost.codecRegistry platform codecEntrypoints .empty
    let decks ← CodecHost.deckRegistry platform deckEntrypoints .empty
    .ok (.fresh sessionId codecs decks)

/-- A worker that was created has a session and nothing else. -/
theorem fresh_of_created {platform : Platform} {sessionId : Uuid}
    {codecs : List TrustedCodecEntrypoint} {decks : List TrustedDeckEntrypoint}
    {start : Protocol2Worker}
    (created : Protocol2Worker.create platform sessionId codecs decks = .ok start) :
    sessionId.isNil = false ∧ ∃ codecs decks, start = .fresh sessionId codecs decks := by
  unfold Protocol2Worker.create at created
  rw [Fallible.guarded_eq_ok, Fallible.bind_eq_ok] at created
  obtain ⟨named, codecs, -, created⟩ := created
  obtain ⟨decks, -, created⟩ := Fallible.ok_of_bind created
  cases created
  exact ⟨by simpa using named, codecs, decks, rfl⟩

def Protocol2Worker.status (worker : Protocol2Worker) : Status where
  session := worker.sessionState
  codec := worker.codecState
  player := worker.player.elim .empty (·.state)
  deck := worker.deck.elim .empty (·.state)
  capture := worker.captureState
  openSessionCount := worker.player.isSome.toNat + worker.deck.isSome.toNat
  foregroundOutputSession :=
    match worker.deck with
    | some deck => some deck.sessionId
    | none => worker.player.map (·.sessionId)
  outputLeasePinned := worker.captureState ∈ [.starting, .capturing, .finalizing]

def Protocol2Worker.record (worker : Protocol2Worker) (call : Call)
    (answer : Except Raised call.Answer) : Protocol2Worker :=
  { worker with history := worker.history ++ [⟨call, answer⟩] }

/-- Makes a call on code outside of the worker. -/
def perform (outside : Outside) (call : Call) : Act call.Answer := do
  modify fun worker => worker.record call (outside.answer call)
  reading fun _ => outside.answer call

@[simp]
theorem leads_perform (outside : Outside) (call : Call) {start : Protocol2Worker}
    {returned : call.Answer → Protocol2Worker → Prop} {raised : Raised → Protocol2Worker → Prop} :
    Leads (perform outside call) start returned raised ↔
      (∀ value, outside.answer call = .ok value →
          returned value (start.record call (.ok value))) ∧
        ∀ error, outside.answer call = .error error →
          raised error (start.record call (.error error)) := by
  rw [perform, leads_bind, leads_modify, leads_reading]
  cases answered : outside.answer call <;> simp

def changeBound (sourceId : Uuid) (change : BoundCartridge → BoundCartridge) : Act PUnit :=
  modify fun worker => { worker with bound := worker.bound.update sourceId change }

def changePlayer (change : PlayerSession → PlayerSession) : Act PlayerSession := do
  modify fun worker => { worker with player := worker.player.map change }
  reading fun worker => worker.player.elim (.error .other) .ok

def changeDeck (change : DeckSession → DeckSession) : Act DeckSession := do
  modify fun worker => { worker with deck := worker.deck.map change }
  reading fun worker => worker.deck.elim (.error .other) .ok

variable {raised : Raised → Protocol2Worker → Prop}

theorem leads_changePlayer (change : PlayerSession → PlayerSession) {start : Protocol2Worker}
    {player : PlayerSession} (open_ : start.player = some player)
    {returned : PlayerSession → Protocol2Worker → Prop} :
    Leads (changePlayer change) start returned raised ↔
      returned (change player) { start with player := some (change player) } := by
  rw [changePlayer, leads_bind, leads_modify, leads_reading, open_]
  simp

theorem leads_changeDeck (change : DeckSession → DeckSession) {start : Protocol2Worker}
    {deck : DeckSession} (loaded : start.deck = some deck)
    {returned : DeckSession → Protocol2Worker → Prop} :
    Leads (changeDeck change) start returned raised ↔
      returned (change deck) { start with deck := some (change deck) } := by
  rw [changeDeck, leads_bind, leads_modify, leads_reading, loaded]
  simp

def DeckSession.changeCapture (deck : DeckSession) (change : CaptureSession → CaptureSession) :
    DeckSession :=
  { deck with capture := deck.capture.map change }

def Protocol2Worker.requireBound (worker : Protocol2Worker) (sourceId : Uuid) :
    Except Raised BoundCartridge :=
  match worker.bound.lookup sourceId with
  | some bound => .ok bound
  | none => .error (runtimeError .sourceNotLoaded "source handle is not bound")

def Protocol2Worker.selectedCodec (worker : Protocol2Worker) :
    Except Raised (Adapter × CodecDescriptor) :=
  match worker.adapter, worker.descriptor with
  | some adapter, some descriptor => .ok (adapter, descriptor)
  | _, _ => .error (runtimeError .codecNotLoaded "codec descriptor is not selected")

def Protocol2Worker.readyCodec (worker : Protocol2Worker) :
    Except Raised (Adapter × CodecDescriptor) := do
  let selected ← worker.selectedCodec
  if worker.codecState = .ready then .ok selected
  else .error (runtimeError .codecNotLoaded "codec is not ready")

def Protocol2Worker.loadedCodecRequest (worker : Protocol2Worker) :
    Except Raised CodecLoadRequest :=
  match worker.codecLoadRequest with
  | some request =>
      if worker.codecState = .ready then .ok request
      else .error (runtimeError .codecNotLoaded "exact codec load binding is not retained")
  | none => .error (runtimeError .codecNotLoaded "exact codec load binding is not retained")

/-- `_require_player`; without a generation none is checked. -/
def Protocol2Worker.requirePlayer (worker : Protocol2Worker) (sessionId : Uuid)
    (generation : Option Nat) : Except Raised PlayerSession :=
  match worker.player with
  | some player =>
      if player.sessionId ≠ sessionId then
        .error (runtimeError .sourceNotLoaded "player session is not open")
      else if generation.any (· ≠ player.streamGeneration) then
        .error (runtimeError .sourceInvalid "player generation is stale")
      else .ok player
  | none => .error (runtimeError .sourceNotLoaded "player session is not open")

/-- `_require_deck`; without a generation none is checked. -/
def Protocol2Worker.requireDeck (worker : Protocol2Worker) (sessionId : Uuid) (revision : UInt64)
    (generation : Option Nat) : Except Raised DeckSession :=
  match worker.deck with
  | some deck =>
      if deck.sessionId ≠ sessionId then
        .error (runtimeError .deckInvalid "Deck session is not loaded")
      else if revision.toNat ≠ deck.deckRevision then
        .error (runtimeError .deckInvalid "Deck revision is stale")
      else if generation.any (· ≠ deck.streamGeneration) then
        .error (runtimeError .deckInvalid "Deck generation is stale")
      else .ok deck
  | none => .error (runtimeError .deckInvalid "Deck session is not loaded")

def Protocol2Worker.requireCapture (worker : Protocol2Worker) (request : Control.CaptureIdentity) :
    Except Raised (DeckSession × CaptureSession) := do
  let deck ← worker.requireDeck request.deckSessionId request.deckRevision none
  match deck.capture with
  | some capture =>
      if capture.captureId = request.captureId then .ok (deck, capture)
      else .error (runtimeError .captureInvalidState "capture identity is not active")
  | none => .error (runtimeError .captureInvalidState "capture identity is not active")

/-- `_source_handle_and_receipt`. -/
def BoundCartridge.handleAndReceipt (bound : BoundCartridge) (source : SourceBinding) :
    Except Raised (SourceHandle × ProfileReceipt) :=
  match bound.handle, bound.receipt with
  | some handle, some receipt =>
      if receipt.receiptId = source.profileReceiptId then .ok (handle, receipt)
      else .error (runtimeError .sourceInvalid "source receipt changed")
  | _, _ => .error (runtimeError .sourceNotLoaded "source handle is not open")

/-- The open handle and the receipt of a source of a session. -/
def Protocol2Worker.sessionSource (worker : Protocol2Worker) (source : SourceBinding) :
    Except Raised (SourceHandle × ProfileReceipt) := do
  let bound ← worker.requireBound source.sourceId
  bound.handleAndReceipt source

/-- `handle.slot_count`. -/
def SourceHandle.slotCount (handle : SourceHandle) : Except Raised Int :=
  match handle.attributes with
  | some (_, count) => .ok count
  | none => .error .other

def Protocol2Worker.admitWorkerSession (worker : Protocol2Worker) (sessionId : Uuid) :
    Except Raised Unit :=
  let sessions := (worker.player.map (·.sessionId)).toList ++
    (worker.deck.map (·.sessionId)).toList
  if sessionId ∈ sessions then
    .error (runtimeError .stateBusy "output session is already open")
  else if sessions.isEmpty then .ok ()
  else .error (runtimeError .stateBusy "isolated worker already owns one warm session")

def Protocol2Worker.sourceIsActive (worker : Protocol2Worker) (sourceId : Uuid) : Bool :=
  worker.player.any (·.source.sourceId == sourceId) ||
    worker.deck.any fun deck => deck.sources.any (·.sourceId == sourceId)

def Protocol2Worker.decodedRing (worker : Protocol2Worker) : Option RingBinding :=
  match worker.rings.values.filter (·.kind == .decodedRgba) with
  | [ring] => some ring
  | _ => none

def Protocol2Worker.requireDecodedRing (worker : Protocol2Worker) : Except Raised RingBinding :=
  match worker.decodedRing with
  | some ring => .ok ring
  | none => .error (runtimeError .stateBusy "exactly one decoded RGBA ring must be configured")

end LatentDeck.CodecHost
