import LatentDeck.CodecHost.State

/-!
# Codec, source, ring and import commands

The commands that select and load a codec, open and close sources, inspect and validate their
profiles, bind shared rings and stage raw imports.
-/

namespace LatentDeck.CodecHost

open Effect
open Control (Uuid Capability ErrorCode)

def check {α : Type} (result : Except Raised α) : Act α := reading fun _ => result

def require (condition : Protocol2Worker → Bool) (error : Raised) : Act Unit :=
  reading fun worker => if condition worker then .ok () else .error error

section Rules

variable {start : Protocol2Worker} {raised : Raised → Protocol2Worker → Prop}

@[simp]
theorem leads_check {α : Type} (result : Except Raised α) {returned : α → Protocol2Worker → Prop} :
    Leads (check result) start returned raised ↔
      (∀ value, result = .ok value → returned value start) ∧
        ∀ error, result = .error error → raised error start :=
  leads_reading _

theorem leads_checked {α β : Type} {result : Except Raised β} {next : β → Act α}
    {returned : α → Protocol2Worker → Prop}
    (rest : ∀ value, result = .ok value → Leads (next value) start returned raised)
    (failed : ∀ error, result = .error error → raised error start) :
    Leads (check result >>= next) start returned raised :=
  leads_read rest failed

@[simp]
theorem leads_require (condition : Protocol2Worker → Bool) (error : Raised)
    {returned : Unit → Protocol2Worker → Prop} :
    Leads (require condition error) start returned raised ↔
      (condition start = true → returned () start) ∧
        (condition start = false → raised error start) := by
  rw [require, leads_reading]
  cases met : condition start with
  | false => simp
  | true =>
    simp only [if_true, reduceCtorEq, false_imp_iff, implies_true, and_true, forall_true_left]
    exact ⟨fun returns => returns (), fun returns _ => returns⟩

end Rules

variable (outside : Outside)

def configure (request : Control.SessionConfigure) : Act Unit := do
  require (·.sessionState == .unconfigured)
    (runtimeError .stateBusy "session is already configured")
  demand (request.requestedCapabilities.asSlice ≠ [])
    (runtimeError .protocolInvalidMessage "at least one capability is required")
  modify fun worker => { worker with
    sessionState := .ready
    acceptedCapabilities := request.requestedCapabilities.asSlice.dedup }

def loadEntrypoint (entrypoint : String) (code : ErrorCode) : Act PythonObject := do
  let value ← perform outside (.importEntrypoint entrypoint)
  check (value.elim (.error (runtimeError code "trusted entrypoint cannot be loaded")) .ok)

/-- A callable that is no adapter is called for one. -/
def constructAdapter (entrypoint : String) (value : PythonObject) : Act PythonObject :=
  if value = .callable then perform outside (.construct entrypoint) else pure value

/-- The adapter that an entrypoint has to be. -/
def PythonObject.requireAdapter : PythonObject → Except Raised Adapter
  | .adapter value => .ok value
  | _ => .error (runtimeError .codecUntrusted "codec entrypoint is not an adapter")

def loadAdapter (entry : TrustedCodecEntrypoint) : Act Adapter := do
  let value ← loadEntrypoint outside entry.entrypoint .codecUntrusted
  let adapter ← constructAdapter outside entry.entrypoint value
  check adapter.requireAdapter

/-- The part of `_codec_descriptor` for a worker without a selected codec. -/
def selectCodec (request : Control.CodecDescriptorRequest) : Act CodecDescriptor := do
  let trusted ← reading fun worker =>
    (worker.codecRegistry.lookup (request.packId, request.packVersion, request.adapterId)).elim
      (.error (runtimeError .codecUntrusted "codec entrypoint is not trusted")) .ok
  let adapter ← loadAdapter outside trusted
  let descriptor ← perform outside .descriptor
  check descriptor.validate
  demand ((descriptor.packId, descriptor.packVersion, descriptor.adapterId,
      descriptor.adapterVersion) =
      (trusted.packId, trusted.packVersion, trusted.adapterId, trusted.adapterVersion))
    (runtimeError .codecUntrusted "codec descriptor does not match its trust receipt")
  modify fun worker => { worker with adapter := some adapter, descriptor := some descriptor }
  pure descriptor

/-- The part of `_codec_descriptor` for a worker with a selected codec. -/
def keepCodec (descriptor : CodecDescriptor) (request : Control.CodecDescriptorRequest) :
    Act CodecDescriptor := do
  demand ((descriptor.packId, descriptor.packVersion, descriptor.adapterId) =
      (request.packId, request.packVersion, request.adapterId))
    (runtimeError .stateBusy "another codec descriptor is already selected")
  pure descriptor

def codecDescriptor (request : Control.CodecDescriptorRequest) : Act CodecDescriptor := do
  let selected ← reading fun worker => .ok (worker.adapter.bind fun _ => worker.descriptor)
  selected.elim (selectCodec outside request) (keepCodec · request)

def deviceText : Control.DeviceKind → String
  | .cpu => "cpu"
  | .cuda => "cuda"

def codecLoadRequest (descriptor : CodecDescriptor) (request : Control.CodecLoad) :
    CodecLoadRequest where
  descriptor := descriptor
  assets := request.externalAssets.asSlice.map fun asset =>
    ⟨asset.assetId, asset.path, asset.sha256, asset.byteLength.toNat⟩
  device := deviceText request.device
  deviceOrdinal := request.deviceOrdinal.toNat

/-- `adapter.load`, after which the codec is ready or faulted. -/
def loadCodec (loadRequest : CodecLoadRequest) : Act Unit := do
  modify fun worker => { worker with codecState := .loading }
  catching (perform outside (.load loadRequest)) fun raised => do
    modify fun worker => { worker with codecLoadRequest := none, codecState := .faulted }
    throw raised
  modify fun worker => { worker with codecLoadRequest := some loadRequest, codecState := .ready }

def codecLoad (request : Control.CodecLoad) : Act CodecDescriptor := do
  let selected ← reading (·.selectedCodec)
  let descriptor := selected.2
  demand ((descriptor.packId, descriptor.packVersion, descriptor.adapterId,
      descriptor.adapterVersion) =
      (request.packId, request.packVersion, request.adapterId, request.adapterVersion))
    (runtimeError .codecUntrusted "codec identity is not exact")
  require (!·.receiptSources.isEmpty)
    (runtimeError .profileInvalid "codec load requires a cross-checked profile receipt")
  let loadRequest := codecLoadRequest descriptor request
  check loadRequest.validate
  demand (¬ (loadRequest.device = "cpu" ∧ loadRequest.deviceOrdinal ≠ 0))
    (runtimeError .profileInvalid "CPU codec loads require device ordinal zero")
  require (fun worker => !worker.bound.values.any fun bound =>
      bound.receipt.any (·.tensorAbi.device != loadRequest.device))
    (runtimeError .profileInvalid
      "codec load device does not match every validated profile receipt")
  loadCodec outside loadRequest
  pure descriptor

def admitStagedRawImportPath (facts : StagedFacts) (artifact : RawImportArtifact)
    (stagingRoot : String) : Except Raised String :=
  match facts.resolved with
  | some staged =>
      if facts.isLink ∨ facts.parent ≠ stagingRoot ∨ ¬ facts.isFile ∨
          facts.sizeBefore ≠ artifact.payloadByteLength ∨
          facts.measured ≠ artifact.payloadByteLength ∨
          facts.sha256 ≠ artifact.payloadSha256 ∨ facts.sizeBefore ≠ facts.sizeAfter ∨
          ¬ facts.unmodified then
        .error (runtimeError .sourceInvalid
          "staged raw import is outside the retained Core root")
      else .ok staged
  | none =>
      .error (runtimeError .sourceInvalid "staged raw import is outside the retained Core root")

/-- `_cleanup_admitted_raw_import_artifact`. -/
def cleanupRawImport (artifact : RawImportArtifact) (stagingRoot : String) : Act Unit :=
  suppressing do
    let facts ← perform outside (.stagedFile artifact.stagedPayloadPath true)
    let staged ← check (admitStagedRawImportPath facts artifact stagingRoot)
    perform outside (.unlinkStaged staged)

/-- The admitted artifact of an import, taken out of the table, is cleaned up. -/
def discardArtifact (importId : Uuid) : Act Unit := do
  let admitted ← reading fun worker => .ok (worker.rawImportArtifacts.lookup importId)
  modify fun worker => { worker with
    rawImportArtifacts := worker.rawImportArtifacts.erase importId }
  whenSome admitted fun admitted => cleanupRawImport outside admitted.1 admitted.2

def abortAllRawImports : Act Unit := do
  let adapter ← reading fun worker => .ok worker.adapter
  let imports ← reading fun worker => .ok worker.rawImports.keys
  let _ ← each (fun importId => do
    whenever (adapter.any (·.importsRaw) = true)
      (suppressing (perform outside (.abortRawImport importId)))
    discardArtifact outside importId) imports
  modify fun worker => { worker with rawImports := .empty }

def Protocol2Worker.rawImportAdapter (worker : Protocol2Worker) :
    Except Raised CodecDescriptor := do
  let (adapter, descriptor) ← worker.selectedCodec
  if Capability.rawImport ∉ worker.acceptedCapabilities ∨
      Capability.rawImport ∉ descriptor.capabilities then
    .error (runtimeError .codecCapabilityUnsupported "selected codec does not support raw import")
  else if ¬ adapter.importsRaw then
    .error (runtimeError .codecUntrusted
      "codec declares raw import without the optional adapter API")
  else if worker.codecState ≠ .unloaded ∨ worker.player.isSome ∨ worker.deck.isSome then
    .error (runtimeError .stateBusy "raw import requires an unloaded CPU-only codec session")
  else .ok descriptor

/-- Aborts an import, whatever the adapter says, and raises. -/
def abortAndRaise {α : Type} (importId : Uuid) (raised : Raised) : Act α := do
  suppressing (perform outside (.abortRawImport importId))
  throw raised

def rawImportPreflight (payload : Control.RawImportPreflightRequest) :
    Act RawImportPreflight := do
  let descriptor ← reading (·.rawImportAdapter)
  let request : RawImportPreflightRequest :=
    ⟨payload.importId, payload.sourcePath, payload.maximumSourceBytes.toNat⟩
  check (request.validate outside.platform)
  require (!·.rawImports.contains request.importId)
    (runtimeError .sourceInvalid "raw import ID is already active")
  let answer ← perform outside (.preflightRawImport request)
  let preflight ← check (answer.elim
    (.error (runtimeError .sourceInvalid "raw import adapter returned an invalid preflight")) .ok)
  check preflight.validate
  whenever (preflight.importId ≠ request.importId ∨
      request.maximumSourceBytes < preflight.sourceByteLength ∨
      (preflight.packId, preflight.packVersion, preflight.adapterId, preflight.adapterVersion) ≠
        (descriptor.packId, descriptor.packVersion, descriptor.adapterId,
          descriptor.adapterVersion))
    (abortAndRaise outside request.importId
      (runtimeError .sourceInvalid "raw import preflight identity is not exact"))
  let issued ← reading fun worker =>
    .ok (worker.rawImports.values.any (·.receiptId == preflight.receiptId))
  whenever (issued = true)
    (abortAndRaise outside request.importId
      (runtimeError .sourceInvalid "raw import receipt ID was already issued"))
  modify fun worker => { worker with
    rawImports := worker.rawImports.insert request.importId preflight }
  pure preflight

def Protocol2Worker.activeImport (worker : Protocol2Worker) (importId receiptId : Uuid) :
    Except Raised RawImportPreflight :=
  match worker.rawImports.lookup importId with
  | some preflight =>
      if preflight.receiptId = receiptId then .ok preflight
      else .error (runtimeError .sourceInvalid "raw import receipt is not active")
  | none => .error (runtimeError .sourceInvalid "raw import receipt is not active")

/-- The checks that `_raw_import_stage` makes on what the adapter staged. -/
def stagedArtifact (payload : Control.RawImportStage) (artifact : RawImportArtifact)
    (stagingRoot : String) : Act RawImportArtifact := do
  check (artifact.validate outside.platform)
  demand (artifact.importId = payload.importId ∧ artifact.receiptId = payload.receiptId)
    (runtimeError .sourceInvalid "staged raw import identity is not exact")
  let facts ← perform outside (.stagedFile artifact.stagedPayloadPath false)
  let _ ← check (admitStagedRawImportPath facts artifact stagingRoot)
  modify fun worker => { worker with
    rawImportArtifacts := worker.rawImportArtifacts.insert payload.importId
      (artifact, stagingRoot) }
  demand (facts.isCanonical = true)
    (runtimeError .sourceInvalid "staged raw import path is not canonical")
  pure artifact

/-- What `_raw_import_stage` does when staging raised. -/
def abandonStaging {α : Type} (importId : Uuid) (artifact : Option RawImportArtifact)
    (stagingRoot : String) (raised : Raised) : Act α := do
  suppressing (perform outside (.abortRawImport importId))
  whenSome artifact fun artifact => cleanupRawImport outside artifact stagingRoot
  modify fun worker => { worker with
    rawImportArtifacts := worker.rawImportArtifacts.erase importId }
  throw raised

/-- The staging root as the file system resolves it. -/
def RootFacts.requireRoot (root : RootFacts) : Except Raised String :=
  if root.isLink ∨ ¬ root.isDirectory then
    .error (runtimeError .sourceInvalid "Core staging root is not retained")
  else root.resolved.elim
    (.error (runtimeError .sourceInvalid "Core staging root is not retained")) .ok

def rawImportStage (payload : Control.RawImportStage) : Act RawImportArtifact := do
  let _ ← reading (·.rawImportAdapter)
  let preflight ← reading (·.activeImport payload.importId payload.receiptId)
  require (!·.rawImportArtifacts.contains payload.importId)
    (runtimeError .stateBusy "raw import is already staged")
  let root ← perform outside (.stagingRoot payload.stagingRoot)
  let stagingRoot ← check root.requireRoot
  let request : RawImportStageRequest := ⟨preflight, stagingRoot⟩
  check (request.validate outside.platform)
  let answer ← catching (perform outside (.stageRawImport request)) fun raised =>
    abandonStaging outside payload.importId none stagingRoot raised
  answer.elim
    (abandonStaging outside payload.importId none stagingRoot
      (runtimeError .sourceInvalid "raw import adapter returned an invalid artifact"))
    fun artifact => catching (stagedArtifact outside payload artifact stagingRoot) fun raised =>
      abandonStaging outside payload.importId (some artifact) stagingRoot raised

def rawImportAbort (payload : Control.RawImportAbort) : Act (Uuid × Uuid) := do
  let _ ← reading (·.rawImportAdapter)
  let _ ← reading (·.activeImport payload.importId payload.receiptId)
  suppressing (perform outside (.abortRawImport payload.importId))
  discardArtifact outside payload.importId
  modify fun worker => { worker with rawImports := worker.rawImports.erase payload.importId }
  pure (payload.importId, payload.receiptId)

/-- `_validate_cartridge_access`, with its exceptions as the caller reports them. -/
def validateCartridgeAccess (access : CartridgeAccess) : Except Raised Unit :=
  if access.cartridgeId.isNil ∨ ¬ isSha256 access.archiveSha256 ∨ ¬ access.manifestIsMapping then
    .error (runtimeError .sourceInvalid "retained handle access is invalid")
  else .ok ()

/-- The part of `_source_open` after which the access belongs to the worker. -/
def registerCartridge (payload : Control.SourceOpen) (answer : Option CartridgeAccess) :
    Act BoundCartridge := do
  require (!·.bound.contains payload.sourceId)
    (runtimeError .sourceInvalid "source ID is already open")
  let access ← check (answer.elim
    (.error (runtimeError .sourceInvalid "retained handle access is invalid")) .ok)
  check (validateCartridgeAccess access)
  demand (access.cartridgeId = payload.cartridgeId ∧
      access.archiveSha256 = payload.archiveSha256)
    (runtimeError .sourceInvalid "retained handle identity is not exact")
  let bound : BoundCartridge := ⟨payload.sourceId, access, none, none, none⟩
  modify fun worker => { worker with bound := worker.bound.insert payload.sourceId bound }
  pure bound

def sourceOpen (payload : Control.SourceOpen) : Act BoundCartridge := do
  let access ← perform outside (.openCartridge payload)
  catching (registerCartridge payload access) fun raised => do
    perform outside (.closeCartridge access)
    throw raised

def sourceClose (payload : Control.SourceClose) : Act Uuid := do
  require (!·.sourceIsActive payload.sourceId)
    (runtimeError .stateBusy "source belongs to an active session")
  let bound ← reading fun worker => (worker.bound.lookup payload.sourceId).elim
    (.error (runtimeError .sourceNotLoaded "source is not open")) .ok
  modify fun worker => { worker with bound := worker.bound.erase payload.sourceId }
  whenSome bound.handle fun handle => perform outside (.closeHandle payload.sourceId handle)
  whenSome bound.receipt fun receipt => modify fun worker => { worker with
    receiptSources := worker.receiptSources.erase receipt.receiptId }
  perform outside (.closeCartridge (some bound.access))
  pure payload.sourceId

/-- Closes the handle of a source and forgets it, whether or not closing raises. -/
def closeSourceHandle (sourceId : Uuid) : Act Unit := do
  let bound ← reading fun worker => .ok (worker.bound.lookup sourceId)
  whenSome (bound.bind (·.handle)) fun handle =>
    finallyDo (perform outside (.closeHandle sourceId handle))
      (changeBound sourceId fun bound => { bound with handle := none })

def closeHandles : Act Unit := do
  let sources ← reading fun worker => .ok worker.bound.keys
  let _ ← each (closeSourceHandle outside) sources

def codecUnload (request : Control.CodecUnload) : Act Unit := do
  require (·.descriptor.all fun descriptor =>
      request.packId == descriptor.packId && request.packVersion == descriptor.packVersion)
    (runtimeError .codecNotLoaded "codec identity is not loaded")
  abortAllRawImports outside
  closeHandles outside
  modify fun worker => { worker with
    player := none
    deck := none
    captureState := .idle
    adapter := none
    descriptor := none
    codecLoadRequest := none
    codecState := .unloaded
    receiptSources := .empty
    bound := worker.bound.mapValues fun bound =>
      { bound with inspection := none, receipt := none } }

def profileInspect (payload : Control.ProfileInspect) : Act ProfileInspection := do
  let _ ← reading (·.selectedCodec)
  let bound ← reading (·.requireBound payload.sourceId)
  demand (bound.access.cartridgeId = payload.cartridgeId ∧
      bound.access.archiveSha256 = payload.archiveSha256)
    (runtimeError .sourceInvalid "source identity is not exact")
  let inspection ← perform outside (.inspect bound.access)
  check inspection.validate
  demand (inspection.cartridgeId = bound.access.cartridgeId ∧
      inspection.archiveSha256 = bound.access.archiveSha256)
    (runtimeError .profileInvalid "profile inspection changed cartridge identity")
  changeBound payload.sourceId fun bound => { bound with inspection := some inspection }
  pure inspection

def crosscheckReceipt (receipt : ProfileReceipt) (inspection : ProfileInspection) :
    Except Raised Unit :=
  if receipt.cartridgeId ≠ inspection.cartridgeId ∨
      receipt.archiveSha256 ≠ inspection.archiveSha256 ∨
      receipt.payloadSha256 ≠ inspection.payloadSha256 ∨
      receipt.profileKey ≠ inspection.profileKey ∨
      receipt.signalGeometry ≠ inspection.signalGeometry then
    .error (runtimeError .profileInvalid "profile receipt does not bind the exact inspection")
  else .ok ()

/-- The checks of `_profile_validate` on the receipt that the adapter issued. -/
def Protocol2Worker.checkReceipt (worker : Protocol2Worker) (payload : Control.ProfileValidate)
    (descriptor : CodecDescriptor) (inspection : ProfileInspection) (receipt : ProfileReceipt) :
    Except Raised Unit := do
  validateProfileReceipt receipt descriptor
  crosscheckReceipt receipt inspection
  if ¬ payload.requiredCapabilities.asSlice ⊆ receipt.capabilities then
    .error (runtimeError .profileIncompatible "profile lacks a required capability")
  else if worker.receiptSources.contains receipt.receiptId then
    .error (runtimeError .profileInvalid "receipt ID was already issued")
  else .ok ()

/-- The inspection of a source, which must have been made. -/
def BoundCartridge.requireInspection (bound : BoundCartridge) :
    Except Raised ProfileInspection :=
  bound.inspection.elim (.error (runtimeError .profileInvalid "profile must be inspected first"))
    .ok

def profileValidate (payload : Control.ProfileValidate) : Act ProfileReceipt := do
  let selected ← reading (·.selectedCodec)
  let bound ← reading (·.requireBound payload.sourceId)
  let inspection ← check bound.requireInspection
  check (profileKey payload.expectedProfile).validate
  demand (inspection.profileKey = profileKey payload.expectedProfile)
    (runtimeError .profileIncompatible "profile identity does not match selection")
  let receipt ← perform outside (.validateProfile bound.access inspection)
  reading (·.checkReceipt payload selected.2 inspection receipt)
  changeBound payload.sourceId fun bound => { bound with receipt := some receipt }
  modify fun worker => { worker with
    receiptSources := worker.receiptSources.insert receipt.receiptId payload.sourceId }
  pure receipt

/-- The checks of `_ring_configure` before the transport takes the handles over. -/
def admitRing (payload : Control.RingConfigure) : Act RingBinding := do
  require (!·.rings.contains payload.ringId)
    (runtimeError .protocolInvalidMessage "ring ID is already bound")
  require (!·.rings.values.any (·.kind == payload.kind))
    (runtimeError .stateBusy "ring kind is already configured")
  pure ⟨payload.ringId, payload.kind, payload.slotCount.toNat, payload.slotBytes.toNat⟩

def ringConfigure (payload : Control.RingConfigure) : Act RingBinding := do
  let binding ← catching (admitRing payload) fun raised => do
    perform outside (.discardRing payload)
    throw raised
  perform outside (.configureRing payload)
  modify fun worker => { worker with rings := worker.rings.insert payload.ringId binding }
  pure binding

def ringRelease (payload : Control.RingRelease) : Act Uuid := do
  require (·.rings.contains payload.ringId)
    (runtimeError .protocolInvalidMessage "ring is not configured")
  modify fun worker => { worker with rings := worker.rings.erase payload.ringId }
  perform outside (.releaseRing payload.ringId)
  pure payload.ringId

def shutdownWorker : Act Unit := do
  modify fun worker => { worker with sessionState := .stopping }
  let deck ← reading fun worker => .ok worker.deck
  whenSome (deck.bind (·.capture)) fun capture =>
    whenever (capture.state ∉ [.completed, .aborted, .faulted]) do
      suppressing (perform outside (.abortCapture capture.writer))
      modify fun worker => { worker with
        deck := worker.deck.map (·.changeCapture fun capture => { capture with state := .aborted })
        captureState := .aborted }
  abortAllRawImports outside
  closeHandles outside
  let sources ← reading fun worker => .ok worker.bound.values
  let _ ← each (fun bound : BoundCartridge =>
    perform outside (.closeCartridge (some bound.access))) sources
  modify fun worker => { worker with bound := .empty }
  let rings ← reading fun worker => .ok worker.rings.keys
  let _ ← each (fun ringId => perform outside (.releaseRing ringId)) rings
  modify fun worker => { worker with
    rings := .empty
    shutdown := true
    sessionState := .stopped }

end LatentDeck.CodecHost
