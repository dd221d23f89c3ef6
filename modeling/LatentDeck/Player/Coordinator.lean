import LatentDeck.Archive.Receipts
import LatentDeck.Library.Run

/-!
# The coordinator of the player

The coordinator holds what the player shows: its phase, the loaded cartridge, the selected codec and
the last error. A client keeps the view of the highest revision it has seen, so that every change of
the view has to come with a revision of its own.
-/

namespace LatentDeck.Player

open Archive Checked

inductive PlayerPhase where
  | empty
  | loading
  | ready
  | playing
  | paused
  | error
  deriving DecidableEq

inductive CodecState where
  | missing
  | loading
  | ready
  | incompatible
  | error

structure CartridgeSummary where
  cartridgeId : String
  archiveSha256 : String
  fileName : String
  width : Nat
  height : Nat
  frameCount : Nat
  frameRateNumerator : Nat
  frameRateDenominator : Nat
  audioPresent : Bool

structure DecoderVariantSummary where
  variantId : String
  sha256 : String
  byteLength : Nat
  sourceUrl : String
  licenseLabel : String
  licenseUrl : String
  selected : Bool

structure CodecSummary where
  state : CodecState
  displayName : Option String
  detail : Option String
  packId : Option String
  packVersion : Option String
  publisherName : Option String
  publisherUrl : Option String
  packLicenseLabel : Option String
  decoderAssetId : Option String
  decoderDisplayName : Option String
  decoderVariants : List DecoderVariantSummary

structure PlayerErrorView where
  code : String
  message : String
  recoverable : Bool

structure PlayerView where
  revision : Nat
  phase : PlayerPhase
  cartridge : Option CartridgeSummary
  codec : CodecSummary
  positionFrame : Nat
  loopEnabled : Bool
  outputAvailable : Bool
  error : Option PlayerErrorView

structure PlayerCoordinatorError where
  code : String
  message : String

structure CodecPackError where
  code : String
  detail : String

/-- `PlayerCoordinatorError::from`. -/
def CodecPackError.toPlayer (error : CodecPackError) : PlayerCoordinatorError :=
  ⟨error.code, error.detail⟩

structure ExternalAssetVariant where
  variantId : String
  sha256 : String
  byteLength : Nat
  sourceUrl : String
  licenseLabel : String
  licenseUrl : String

/-- `ExternalAssetDescriptor`, as far as the player reads it. -/
structure ExternalAssetDescriptor where
  assetId : String
  displayName : String
  acceptedVariants : List ExternalAssetVariant

/-- `ValidatedCodecPack`: what the player reads of its manifest. -/
structure ValidatedCodecPack where
  packId : String
  packVersion : String
  displayName : String
  /-- `publisher.name`. -/
  publisherName : String
  /-- `publisher.url`. -/
  publisherUrl : Option String
  /-- `license.spdx_or_label`. -/
  licenseLabel : String
  externalAssets : List ExternalAssetDescriptor

structure ValidatedExternalAsset where
  assetId : String
  variantId : String
  path : String
  sha256 : String
  byteLength : Nat

/-- The path of a cartridge, with the name of its file where that is Unicode. -/
structure CartridgePath where
  path : String
  /-- `file_name().and_then(to_str)`. -/
  fileName : Option String

/-- What `open_integrity_validated` reports: `code()` and `detail`. -/
structure OpenFailure where
  code : String
  detail : String

structure LoadedCartridge where
  validated : IntegrityValidatedCartridge
  path : String
  summary : CartridgeSummary

def h3PackId : String := "org.latentdeck.h3"

def h3AssetId : String := "taeh3"

def codecSummaryWithoutPack (state : CodecState) (detail : Option String) : CodecSummary where
  state
  displayName := none
  detail
  packId := none
  packVersion := none
  publisherName := none
  publisherUrl := none
  packLicenseLabel := none
  decoderAssetId := none
  decoderDisplayName := none
  decoderVariants := []

/-- The summary of one accepted variant in `codec_summary_for_pack`. -/
def variantSummary (selected : Option ValidatedExternalAsset) (variant : ExternalAssetVariant) :
    DecoderVariantSummary where
  variantId := variant.variantId
  sha256 := variant.sha256
  byteLength := variant.byteLength
  sourceUrl := variant.sourceUrl
  licenseLabel := variant.licenseLabel
  licenseUrl := variant.licenseUrl
  selected := selected.any fun asset =>
    asset.assetId == h3AssetId && asset.variantId == variant.variantId &&
      asset.sha256 == variant.sha256 && asset.byteLength == variant.byteLength

def codecSummaryForPack (pack : ValidatedCodecPack) (state : CodecState) (detail : Option String)
    (selected : Option ValidatedExternalAsset) : CodecSummary :=
  let decoder := pack.externalAssets.find? fun asset => asset.assetId == h3AssetId
  { state
    displayName := some pack.displayName
    detail
    packId := some pack.packId
    packVersion := some pack.packVersion
    publisherName := some pack.publisherName
    publisherUrl := pack.publisherUrl
    packLicenseLabel := some pack.licenseLabel
    decoderAssetId := decoder.map (·.assetId)
    decoderDisplayName := decoder.map (·.displayName)
    decoderVariants :=
      (decoder.toList.flatMap (·.acceptedVariants)).map (variantSummary selected) }

structure PlayerCoordinator where
  revision : Nat
  phase : PlayerPhase
  packs : List ValidatedCodecPack
  selectedPack : Option Nat
  codecFault : Option CodecSummary
  protocol2Codec : Option CodecSummary
  decoderAsset : Option ValidatedExternalAsset
  cartridge : Option LoadedCartridge
  positionFrame : Nat
  loopEnabled : Bool
  outputAvailable : Bool
  error : Option PlayerErrorView

abbrev Reply : Type := Except PlayerCoordinatorError PlayerView

namespace PlayerCoordinator

def withValidatedPacks (packs : List ValidatedCodecPack) : PlayerCoordinator where
  revision := 0
  phase := .empty
  packs
  selectedPack := none
  codecFault := none
  protocol2Codec := none
  decoderAsset := none
  cartridge := none
  positionFrame := 0
  loopEnabled := false
  outputAvailable := false
  error := none

def withoutCodec : PlayerCoordinator := withValidatedPacks []

/-- `discover`, on what `discover_codec_packs` gives. -/
def discover (discovered : Except CodecPackError (List ValidatedCodecPack)) :
    Except PlayerCoordinatorError PlayerCoordinator :=
  (discovered.mapError CodecPackError.toPlayer).map withValidatedPacks

/-- `discover_visible`, on what `discover_codec_packs` gives. -/
def discoverVisible (discovered : Except CodecPackError (List ValidatedCodecPack)) :
    PlayerCoordinator :=
  match discover discovered with
  | .ok player => player
  | .error error =>
      let state := if error.code.startsWith "codec.pack_incompatible_" then .incompatible
        else .error
      { withoutCodec with
        codecFault := some (codecSummaryWithoutPack state (some error.message))
        error := some ⟨error.code, error.message, true⟩ }

variable (player : PlayerCoordinator)

def selectedCodecPack : Option ValidatedCodecPack :=
  player.selectedPack.bind fun index => player.packs[index]?

def installsH3 : Bool := player.packs.any fun pack => pack.packId == h3PackId

def codecSelectionError : PlayerCoordinatorError :=
  if player.installsH3 then
    ⟨"codec.selection_missing", "Select an exact compatible H3 Codec Pack version."⟩
  else
    ⟨"codec.pack_missing", "Install a compatible H3 Codec Pack before selecting it."⟩

def codecSummary : CodecSummary :=
  match player.protocol2Codec, player.codecFault, player.selectedCodecPack with
  | some summary, _, _ => summary
  | none, some fault, _ => fault
  | none, none, none =>
      codecSummaryWithoutPack .missing (some
        (if player.installsH3 then "Select an exact compatible H3 Codec Pack version."
        else "Install a compatible H3 Codec Pack."))
  | none, none, some pack =>
      if player.decoderAsset = none then
        codecSummaryForPack pack .missing (some "Select a compatible TAEH3 decoder weight.") none
      else codecSummaryForPack pack .ready none player.decoderAsset

def view : PlayerView where
  revision := player.revision
  phase := player.phase
  cartridge := player.cartridge.map (·.summary)
  codec := player.codecSummary
  positionFrame := player.positionFrame
  loopEnabled := player.loopEnabled
  outputAvailable := player.outputAvailable
  error := player.error

/-- `bump_revision`, which may leave what has been changed without a revision. -/
def bumpRevision : Except PlayerCoordinatorError PlayerCoordinator :=
  match checkedAdd player.revision 1 with
  | some revision => .ok { player with revision }
  | none => .error ⟨"player.revision_exhausted", "Player revision exhausted"⟩

/-- `self.bump_revision()?`, followed by a reply. -/
def bumped (reply : PlayerView → Reply) : Reply × PlayerCoordinator :=
  match player.bumpRevision with
  | .ok next => (reply next.view, next)
  | .error error => (.error error, player)

def selectCodecPackExact (packId packVersion : String) : Reply × PlayerCoordinator :=
  match player.packs.findIdx? fun pack =>
      pack.packId == h3PackId && pack.packId == packId && pack.packVersion == packVersion with
  | none =>
      (.error ⟨"codec.pack_missing",
        "The exact selected H3 Codec Pack version is unavailable."⟩, player)
  | some selected =>
      let changed := { player with
        decoderAsset := if player.selectedPack ≠ some selected then none else player.decoderAsset
        selectedPack := some selected
        protocol2Codec := none
        codecFault := none
        error := none }
      changed.bumped .ok

/-- `select_decoder_asset`, on what `validate_external_asset` says of the file. -/
def selectDecoderAsset
    (validate : ValidatedCodecPack → String → Except CodecPackError ValidatedExternalAsset) :
    Reply × PlayerCoordinator :=
  match player.selectedCodecPack with
  | none => (.error player.codecSelectionError, player)
  | some pack =>
      match validate pack h3AssetId with
      | .ok asset =>
          let changed := { player with
            decoderAsset := some asset
            codecFault := none
            error := none }
          changed.bumped .ok
      | .error error =>
          let failure := error.toPlayer
          let state := if failure.code == "codec.asset_incompatible" then .incompatible else .error
          let changed := { player with
            codecFault := some (codecSummaryForPack pack state (some failure.message) none)
            error := some ⟨failure.code, failure.message, true⟩ }
          changed.bumped fun _ => .error failure

/-- The summary that `open_cartridge` makes. -/
def summaryOf (path : CartridgePath) (validated : IntegrityValidatedCartridge) :
    CartridgeSummary :=
  let video := validated.manifest.timing.decodedVideo
  { cartridgeId := validated.manifest.cartridgeId
    archiveSha256 := validated.receipt.archiveSha256.display
    fileName := path.fileName.getD "cartridge.lc"
    width := video.width
    height := video.height
    frameCount := video.frameCount
    frameRateNumerator := video.frameRate.numerator
    frameRateDenominator := video.frameRate.denominator
    audioPresent := validated.manifest.audio ≠ .sourceAbsent }

/-- `open_cartridge`, on what `open_integrity_validated` gives. -/
def openCartridge (path : CartridgePath)
    (opened : Except OpenFailure IntegrityValidatedCartridge) : Reply × PlayerCoordinator :=
  match opened with
  | .error failure => (.error ⟨failure.code, failure.detail⟩, { player with phase := .error })
  | .ok validated =>
      let changed := { player with
        cartridge := some ⟨validated, path.path, summaryOf path validated⟩
        phase := .ready
        positionFrame := 0
        error := none }
      changed.bumped .ok

def launchInputs : Except PlayerCoordinatorError
    (ValidatedCodecPack × ValidatedExternalAsset × LoadedCartridge) :=
  match player.selectedCodecPack, player.decoderAsset, player.cartridge with
  | none, _, _ => .error player.codecSelectionError
  | some _, none, _ =>
      .error ⟨"codec.asset_missing", "No compatible TAEH3 decoder weight is selected"⟩
  | some _, some _, none => .error ⟨"slot.cartridge_missing", "No cartridge is loaded"⟩
  | some pack, some asset, some cartridge => .ok (pack, asset, cartridge)

def setProtocol2CodecSummary (summary : CodecSummary) : Reply × PlayerCoordinator :=
  let changed := { player with
    protocol2Codec := some summary
    codecFault := none
    error := none }
  changed.bumped .ok

def invalidTransition (message : String) : Reply × PlayerCoordinator :=
  (.error ⟨"state.invalid_transition", message⟩, player)

def entered (phase : PlayerPhase) : Reply × PlayerCoordinator :=
  let changed := { player with
    phase
    error := none }
  changed.bumped .ok

def setPlayingProtocol2 (playing : Bool) : Reply × PlayerCoordinator :=
  if player.cartridge.isNone then
    player.invalidTransition "Load a cartridge before controlling playback."
  else if playing then
    if player.phase = .ready ∨ player.phase = .paused then player.entered .playing
    else player.invalidTransition "Player is not ready to start."
  else if player.phase = .playing then player.entered .paused
  else if player.phase ≠ .paused then
    player.invalidTransition "Player is not currently playing."
  else player.entered player.phase

/-- The position and the phase after a reset. -/
def restarted : Reply × PlayerCoordinator :=
  let changed := { player with
    positionFrame := 0
    phase := .paused
    error := none }
  changed.bumped .ok

def resetToStartProtocol2 : Reply × PlayerCoordinator :=
  if player.cartridge.isNone then player.invalidTransition "No cartridge is loaded."
  else player.restarted

def setLoopEnabled (enabled : Bool) : Reply × PlayerCoordinator :=
  if player.cartridge.isNone then
    player.invalidTransition "Load a cartridge before changing Loop."
  else
    let changed := { player with loopEnabled := enabled }
    changed.bumped .ok

def setPlaying (playing : Bool) : Reply × PlayerCoordinator :=
  if playing then
    match player.launchInputs with
    | .error error => (.error error, player)
    | .ok _ =>
        if player.phase = .ready ∨ player.phase = .paused then player.entered .playing
        else player.invalidTransition "Player is not ready to start."
  else if player.phase = .playing then player.entered .paused
  else player.invalidTransition "Player is not currently playing."

def resetToStart : Reply × PlayerCoordinator :=
  match player.launchInputs with
  | .error error => (.error error, player)
  | .ok _ => player.restarted

def setPositionFrame (positionFrame : Nat) : Reply × PlayerCoordinator :=
  match player.cartridge with
  | none => player.invalidTransition "No cartridge is loaded."
  | some loaded =>
      if loaded.summary.frameCount ≤ positionFrame then
        (.error ⟨"player.position_invalid",
          "Presented frame is outside the cartridge duration."⟩, player)
      else
        let changed := { player with positionFrame }
        changed.bumped .ok

def setOutputAvailable (available : Bool) : Reply × PlayerCoordinator :=
  let changed := { player with outputAvailable := available }
  changed.bumped .ok

def setRuntimeError (code message : String) (recoverable : Bool) : Reply × PlayerCoordinator :=
  let changed := { player with
    phase := .error
    outputAvailable := false
    error := some ⟨code, message, recoverable⟩ }
  changed.bumped .ok

end PlayerCoordinator

/-- A call of the coordinator, with what the file system says when it is made. -/
inductive Operation where
  | selectCodecPackExact (packId packVersion : String)
  | selectDecoderAsset
      (validate : ValidatedCodecPack → String → Except CodecPackError ValidatedExternalAsset)
  | openCartridge (path : CartridgePath) (opened : Except OpenFailure IntegrityValidatedCartridge)
  | setProtocol2CodecSummary (summary : CodecSummary)
  | setPlayingProtocol2 (playing : Bool)
  | resetToStartProtocol2
  | setLoopEnabled (enabled : Bool)
  | setPlaying (playing : Bool)
  | resetToStart
  | setPositionFrame (positionFrame : Nat)
  | setOutputAvailable (available : Bool)
  | setRuntimeError (code message : String) (recoverable : Bool)
  | view

def apply (player : PlayerCoordinator) : Operation → Reply × PlayerCoordinator
  | .selectCodecPackExact packId packVersion => player.selectCodecPackExact packId packVersion
  | .selectDecoderAsset validate => player.selectDecoderAsset validate
  | .openCartridge path opened => player.openCartridge path opened
  | .setProtocol2CodecSummary summary => player.setProtocol2CodecSummary summary
  | .setPlayingProtocol2 playing => player.setPlayingProtocol2 playing
  | .resetToStartProtocol2 => player.resetToStartProtocol2
  | .setLoopEnabled enabled => player.setLoopEnabled enabled
  | .setPlaying playing => player.setPlaying playing
  | .resetToStart => player.resetToStart
  | .setPositionFrame positionFrame => player.setPositionFrame positionFrame
  | .setOutputAvailable available => player.setOutputAvailable available
  | .setRuntimeError code message recoverable => player.setRuntimeError code message recoverable
  | .view => (.ok player.view, player)

/-- The checks of a call that come before it changes anything refuse it. -/
def Refuses (player : PlayerCoordinator) : Operation → Prop
  | .selectCodecPackExact packId packVersion =>
      ∀ pack ∈ player.packs,
        ¬ (pack.packId = h3PackId ∧ pack.packId = packId ∧ pack.packVersion = packVersion)
  | .selectDecoderAsset _ => player.selectedCodecPack = none
  | .setPlayingProtocol2 true =>
      player.cartridge = none ∨ ¬ (player.phase = .ready ∨ player.phase = .paused)
  | .setPlayingProtocol2 false =>
      player.cartridge = none ∨ ¬ (player.phase = .playing ∨ player.phase = .paused)
  | .resetToStartProtocol2 | .setLoopEnabled _ => player.cartridge = none
  | .setPlaying true =>
      player.selectedCodecPack = none ∨ player.decoderAsset = none ∨ player.cartridge = none ∨
        ¬ (player.phase = .ready ∨ player.phase = .paused)
  | .setPlaying false => player.phase ≠ .playing
  | .resetToStart =>
      player.selectedCodecPack = none ∨ player.decoderAsset = none ∨ player.cartridge = none
  | .setPositionFrame positionFrame =>
      ∀ loaded ∈ player.cartridge, loaded.summary.frameCount ≤ positionFrame
  | .view => True
  | .openCartridge .. | .setProtocol2CodecSummary _ | .setOutputAvailable _
  | .setRuntimeError .. => False

/-- A call that opens a cartridge opens one, and the cartridge has a frame. -/
def Operation.Opens : Operation → Prop
  | .openCartridge _ opened =>
      ∃ validated, opened = .ok validated ∧ 0 < validated.manifest.timing.decodedVideo.frameCount
  | _ => True

/-- A call writes the error, whatever the phase. -/
def Operation.WritesError : Operation → Prop
  | .selectCodecPackExact .. | .selectDecoderAsset _ | .setProtocol2CodecSummary _ => True
  | _ => False

/-- The error that brings the player into its error phase. -/
def Operation.cause : Operation → Option PlayerCoordinatorError
  | .openCartridge _ (.error failure) => some ⟨failure.code, failure.detail⟩
  | .setRuntimeError code message _ => some ⟨code, message⟩
  | _ => none

/-- The phase is one of playback only while a cartridge is loaded. -/
def PlaysLoaded (player : PlayerCoordinator) : Prop :=
  player.phase = .playing ∨ player.phase = .paused → player.cartridge.isSome

/-- The position lies in the loaded cartridge, or at the start. -/
def Placed (player : PlayerCoordinator) : Prop :=
  player.cartridge.elim (player.positionFrame = 0)
    fun loaded => player.positionFrame < loaded.summary.frameCount

/-- The error phase comes with the error that caused it. -/
def Carries (player : PlayerCoordinator) (cause : Option PlayerCoordinatorError) : Prop :=
  player.phase = .error →
    ∃ error, player.error = some error ∧ cause = some ⟨error.code, error.message⟩

/-- What a call that opens no cartridge, or opens one, changes before it bumps the revision. -/
structure Changes (player : PlayerCoordinator) (operation : Operation)
    (changed : PlayerCoordinator) : Prop where
  revision : changed.revision = player.revision
  plays : PlaysLoaded player → PlaysLoaded changed
  placed : operation.Opens → Placed player → Placed changed
  /-- The error phase comes with its cause, or it stays with the error that it had. -/
  carries : changed.phase = .error →
    (∃ error, changed.error = some error ∧ operation.cause = some ⟨error.code, error.message⟩) ∨
    (player.phase = .error ∧ operation.cause = none ∧
      (operation.WritesError ∨ changed.error = player.error))

/-- What a call does: it is refused, it fails to open a cartridge, or it changes the player and
bumps the revision. -/
inductive Outcome (player : PlayerCoordinator) (operation : Operation) :
    Reply × PlayerCoordinator → Prop
  | refused (reply : Reply) (refuses : Refuses player operation)
      (causeless : operation.cause = none)
      (shows : ∀ view, reply = .ok view → view = player.view) :
      Outcome player operation (reply, player)
  | unopened (path : CartridgePath) (failure : OpenFailure)
      (isOpen : operation = .openCartridge path (.error failure)) :
      Outcome player operation
        (.error ⟨failure.code, failure.detail⟩, { player with phase := .error })
  | changes (changed : PlayerCoordinator) (reply : PlayerView → Reply)
      (accepts : ¬ Refuses player operation) (does : Changes player operation changed)
      (shows : ∀ view other, reply view = .ok other → other = view) :
      Outcome player operation (changed.bumped reply)

variable {player : PlayerCoordinator} {operation : Operation}

theorem Outcome.failed {error : PlayerCoordinatorError}
    (refuses : Refuses player operation) (causeless : operation.cause = none) :
    Outcome player operation (.error error, player) :=
  .refused _ refuses causeless fun _ never => nomatch never

theorem Outcome.published {changed : PlayerCoordinator}
    (accepts : ¬ Refuses player operation) (does : Changes player operation changed) :
    Outcome player operation (changed.bumped .ok) :=
  .changes _ _ accepts does fun _ _ same => (Except.ok.inj same).symm

/-- The launch inputs are there exactly if none of them is missing. -/
theorem launchInputs_cases (player : PlayerCoordinator) :
    (∃ error, player.launchInputs = .error error ∧
      (player.selectedCodecPack = none ∨ player.decoderAsset = none ∨ player.cartridge = none)) ∨
    (∃ inputs, player.launchInputs = .ok inputs ∧ player.cartridge.isSome ∧
      ¬ (player.selectedCodecPack = none ∨ player.decoderAsset = none ∨
        player.cartridge = none)) := by
  unfold PlayerCoordinator.launchInputs
  cases player.selectedCodecPack with
  | none => exact Or.inl ⟨_, rfl, Or.inl rfl⟩
  | some pack =>
    cases player.decoderAsset with
    | none => exact Or.inl ⟨_, rfl, Or.inr (Or.inl rfl)⟩
    | some asset =>
      cases player.cartridge with
      | none => exact Or.inl ⟨_, rfl, Or.inr (Or.inr rfl)⟩
      | some cartridge => exact Or.inr ⟨_, rfl, rfl, by simp⟩

theorem changes_entered {phase : PlayerPhase} (calm : phase ≠ .error)
    (loaded : PlaysLoaded player → player.cartridge.isSome) :
    Changes player operation
      { player with
        phase
        error := none } where
  revision := rfl
  plays := fun holds _ => loaded holds
  placed := fun _ holds => holds
  carries := fun failed => absurd failed calm

theorem changes_restarted (loaded : player.cartridge.isSome) :
    Changes player operation
      { player with
        positionFrame := 0
        phase := .paused
        error := none } where
  revision := rfl
  plays := fun _ _ => loaded
  placed := by
    intro _ holds
    obtain ⟨cartridge, there⟩ := Option.isSome_iff_exists.mp loaded
    unfold Placed at holds ⊢
    rw [there] at holds ⊢
    exact Nat.lt_of_le_of_lt (Nat.zero_le _) holds
  carries := nofun

/-- A change of the codec or of the error keeps phase, cartridge and position. -/
theorem changes_written {changed : PlayerCoordinator}
    (revision : changed.revision = player.revision) (phase : changed.phase = player.phase)
    (cartridge : changed.cartridge = player.cartridge)
    (position : changed.positionFrame = player.positionFrame) (causeless : operation.cause = none)
    (error : operation.WritesError ∨ changed.error = player.error) :
    Changes player operation changed where
  revision := revision
  plays := by
    intro holds playing
    rw [phase] at playing
    rw [cartridge]
    exact holds playing
  placed := by
    intro _ holds
    unfold Placed at holds ⊢
    rw [cartridge, position]
    exact holds
  carries := by
    intro failed
    rw [phase] at failed
    exact Or.inr ⟨failed, causeless, error⟩

/-- Choosing a codec pack. -/
theorem selectCodecPackExact_outcome (packId packVersion : String) :
    Outcome player (.selectCodecPackExact packId packVersion)
      (apply player (.selectCodecPackExact packId packVersion)) := by
  simp only [apply, PlayerCoordinator.selectCodecPackExact]
  split
  · rename_i missing
    refine .failed (fun pack among same => ?_) rfl
    have unmatched := List.findIdx?_eq_none_iff.mp missing pack among
    have matched : (pack.packId == h3PackId && pack.packId == packId &&
        pack.packVersion == packVersion) = true := by
      rw [Bool.and_eq_true, Bool.and_eq_true, beq_iff_eq, beq_iff_eq, beq_iff_eq]
      exact ⟨⟨same.1, same.2.1⟩, same.2.2⟩
    exact Bool.eq_false_iff.mp unmatched matched
  · rename_i selected found
    refine .published (fun refuses => ?_) (changes_written rfl rfl rfl rfl rfl (Or.inl trivial))
    obtain ⟨inside, matched, _⟩ := List.findIdx?_eq_some_iff_getElem.mp found
    simp only [Bool.and_eq_true, beq_iff_eq] at matched
    exact refuses _ (List.getElem_mem inside) ⟨matched.1.1, matched.1.2, matched.2⟩

/-- Choosing the decoder asset. -/
theorem selectDecoderAsset_outcome
    (validate : ValidatedCodecPack → String → Except CodecPackError ValidatedExternalAsset) :
    Outcome player (.selectDecoderAsset validate)
      (apply player (.selectDecoderAsset validate)) := by
  simp only [apply, PlayerCoordinator.selectDecoderAsset]
  split
  · rename_i missing
    exact .failed missing rfl
  · rename_i pack selected
    have accepts : ¬ Refuses player (.selectDecoderAsset validate) := by
      intro refuses
      rw [Refuses, selected] at refuses
      cases refuses
    split
    · exact .published accepts (changes_written rfl rfl rfl rfl rfl (Or.inl trivial))
    · exact .changes _ _ accepts (changes_written rfl rfl rfl rfl rfl (Or.inl trivial))
        fun _ _ never => by cases never

/-- Playing and pausing, which the worker of the codec does. -/
theorem setPlayingProtocol2_outcome (playing : Bool) :
    Outcome player (.setPlayingProtocol2 playing)
      (apply player (.setPlayingProtocol2 playing)) := by
  simp only [apply, PlayerCoordinator.setPlayingProtocol2]
  by_cases unloaded : player.cartridge.isNone
  · rw [if_pos unloaded]
    have missing := Option.isNone_iff_eq_none.mp unloaded
    exact .failed (by cases playing <;> exact Or.inl missing) rfl
  · rw [if_neg unloaded]
    have there : player.cartridge ≠ none := fun none => unloaded (by rw [none]; rfl)
    have loaded : player.cartridge.isSome := Option.isSome_iff_ne_none.mpr there
    cases playing with
    | true =>
      rw [if_pos rfl]
      by_cases startable : player.phase = .ready ∨ player.phase = .paused
      · rw [if_pos startable]
        exact .published (fun refuses => refuses.elim there (· startable))
          (changes_entered (by decide) fun _ => loaded)
      · rw [if_neg startable]
        exact .failed (Or.inr startable) rfl
    | false =>
      rw [if_neg (by decide)]
      by_cases playing : player.phase = .playing
      · rw [if_pos playing]
        exact .published (fun refuses => refuses.elim there (· (Or.inl playing)))
          (changes_entered (by decide) fun _ => loaded)
      · rw [if_neg playing]
        by_cases paused : player.phase = .paused
        · rw [if_neg (not_not.mpr paused)]
          refine .published (fun refuses => refuses.elim there (· (Or.inr paused)))
            (changes_entered ?_ fun _ => loaded)
          rw [paused]
          decide
        · rw [if_pos paused]
          exact .failed (Or.inr (not_or.mpr ⟨playing, paused⟩)) rfl

/-- Playing and pausing, which need every launch input. -/
theorem setPlaying_outcome (playing : Bool) :
    Outcome player (.setPlaying playing) (apply player (.setPlaying playing)) := by
  simp only [apply, PlayerCoordinator.setPlaying]
  cases playing with
  | true =>
    rw [if_pos rfl]
    rcases launchInputs_cases player with
      ⟨error, failed, missing⟩ | ⟨inputs, ready, loaded, whole⟩
    · rw [failed]
      refine .failed ?_ rfl
      rcases missing with first | second | third
      · exact Or.inl first
      · exact Or.inr (Or.inl second)
      · exact Or.inr (Or.inr (Or.inl third))
    · rw [ready]
      dsimp only
      by_cases startable : player.phase = .ready ∨ player.phase = .paused
      · rw [if_pos startable]
        refine .published (fun refuses => ?_) (changes_entered (by decide) fun _ => loaded)
        rcases refuses with first | second | third | fourth
        · exact whole (Or.inl first)
        · exact whole (Or.inr (Or.inl second))
        · exact whole (Or.inr (Or.inr third))
        · exact fourth startable
      · rw [if_neg startable]
        exact .failed (Or.inr (Or.inr (Or.inr startable))) rfl
  | false =>
    rw [if_neg (by decide)]
    by_cases playing : player.phase = .playing
    · rw [if_pos playing]
      exact .published (fun refuses => refuses playing)
        (changes_entered (by decide) fun holds => holds (Or.inl playing))
    · rw [if_neg playing]
      exact .failed playing rfl

/-- Moving the position. -/
theorem setPositionFrame_outcome (positionFrame : Nat) :
    Outcome player (.setPositionFrame positionFrame)
      (apply player (.setPositionFrame positionFrame)) := by
  simp only [apply, PlayerCoordinator.setPositionFrame]
  split
  · rename_i missing
    refine .failed (fun loaded among => ?_) rfl
    rw [missing] at among
    cases among
  · rename_i loaded there
    by_cases outside : loaded.summary.frameCount ≤ positionFrame
    · rw [if_pos outside]
      refine .failed (fun other among => ?_) rfl
      rw [there] at among
      rw [← Option.some.inj among]
      exact outside
    · rw [if_neg outside]
      refine .published (fun refuses => outside (refuses loaded there))
        { revision := rfl
          plays := fun holds => holds
          placed := ?_
          carries := fun failed => Or.inr ⟨failed, rfl, Or.inr rfl⟩ }
      intro _ _
      unfold Placed
      dsimp only
      rw [there]
      exact Nat.lt_of_not_le outside

theorem apply_outcome (player : PlayerCoordinator) (operation : Operation) :
    Outcome player operation (apply player operation) := by
  cases operation with
  | selectCodecPackExact packId packVersion => exact selectCodecPackExact_outcome packId packVersion
  | selectDecoderAsset validate => exact selectDecoderAsset_outcome validate
  | openCartridge path opened =>
    cases opened with
    | error failure => exact .unopened path failure rfl
    | ok validated =>
      refine .published id
        { revision := rfl
          plays := fun _ _ => rfl
          placed := ?_
          carries := by rintro ⟨⟩ }
      rintro ⟨same, opens, framed⟩ _
      cases opens
      exact framed
  | setProtocol2CodecSummary summary =>
    exact .published id (changes_written rfl rfl rfl rfl rfl (Or.inl trivial))
  | setPlayingProtocol2 playing => exact setPlayingProtocol2_outcome playing
  | resetToStartProtocol2 =>
    simp only [apply, PlayerCoordinator.resetToStartProtocol2]
    by_cases unloaded : player.cartridge.isNone
    · rw [if_pos unloaded]
      exact .failed (Option.isNone_iff_eq_none.mp unloaded) rfl
    · rw [if_neg unloaded]
      have loaded : player.cartridge.isSome := Option.isSome_iff_ne_none.mpr
        fun none => unloaded (Option.isNone_iff_eq_none.mpr none)
      exact .published (fun refuses => unloaded (Option.isNone_iff_eq_none.mpr refuses))
        (changes_restarted loaded)
  | setLoopEnabled enabled =>
    simp only [apply, PlayerCoordinator.setLoopEnabled]
    by_cases unloaded : player.cartridge.isNone
    · rw [if_pos unloaded]
      exact .failed (Option.isNone_iff_eq_none.mp unloaded) rfl
    · rw [if_neg unloaded]
      exact .published (fun refuses => unloaded (Option.isNone_iff_eq_none.mpr refuses))
        (changes_written rfl rfl rfl rfl rfl (Or.inr rfl))
  | setPlaying playing => exact setPlaying_outcome playing
  | resetToStart =>
    simp only [apply, PlayerCoordinator.resetToStart]
    rcases launchInputs_cases player with ⟨error, failed, missing⟩ | ⟨inputs, ready, loaded, whole⟩
    · rw [failed]
      exact .failed missing rfl
    · rw [ready]
      exact .published whole (changes_restarted loaded)
  | setPositionFrame positionFrame => exact setPositionFrame_outcome positionFrame
  | setOutputAvailable available =>
    exact .published id (changes_written rfl rfl rfl rfl rfl (Or.inr rfl))
  | setRuntimeError code message recoverable =>
    exact .published id
      { revision := rfl
        plays := fun _ playing => playing.elim (by cases ·) (by cases ·)
        placed := fun _ holds => holds
        carries := fun _ => Or.inl ⟨_, rfl, rfl⟩ }
  | view => exact .refused _ trivial rfl fun _ same => (Except.ok.inj same).symm

theorem bumped_cases (player : PlayerCoordinator) (reply : PlayerView → Reply) :
    (player.revision + 1 < 2 ^ 64 ∧
      (player.bumped reply).2 = { player with revision := player.revision + 1 }) ∨
    (¬ player.revision + 1 < 2 ^ 64 ∧ (player.bumped reply).2 = player) := by
  unfold PlayerCoordinator.bumped PlayerCoordinator.bumpRevision checkedAdd
  by_cases fits : player.revision + 1 < 2 ^ 64
  · rw [if_pos fits]
    exact Or.inl ⟨fits, rfl⟩
  · rw [if_neg fits]
    exact Or.inr ⟨fits, rfl⟩

theorem apply_plays (player : PlayerCoordinator) (operation : Operation)
    (holds : PlaysLoaded player) : PlaysLoaded (apply player operation).2 := by
  have outcome := apply_outcome player operation
  generalize apply player operation = result at outcome ⊢
  cases outcome with
  | refused _ _ _ _ => exact holds
  | unopened path failure _ => exact fun playing => playing.elim (nomatch ·) (nomatch ·)
  | changes changed reply _ does _ =>
    have kept := does.plays holds
    rcases bumped_cases changed reply with ⟨_, next⟩ | ⟨_, next⟩
    · rw [next]
      exact kept
    · rw [next]
      exact kept

/-- A call that goes wrong nowhere: it is refused, or a revision is left, a cartridge that it opens
has a frame, and it does not write the error in the error phase. -/
def Sound (player : PlayerCoordinator) (operation : Operation) : Prop :=
  Refuses player operation ∨
    (player.revision + 1 < 2 ^ 64 ∧ operation.Opens ∧
      (player.phase = .error → ¬ operation.WritesError))

/-- The cause of the error phase after a call. -/
def causeAfter (cause : Option PlayerCoordinatorError)
    (step : Run.Step PlayerCoordinator Operation Reply) : Option PlayerCoordinatorError :=
  step.input.cause.or cause

/-- A call that goes wrong nowhere leaves the player as it is or gives it a new revision, and keeps
the position in the cartridge and the error with its cause. -/
theorem apply_sound (sound : Sound player operation) :
    ((apply player operation).2 = player ∨
      player.revision < (apply player operation).2.revision) ∧
    (Placed player → Placed (apply player operation).2) ∧
    (∀ cause, Carries player cause →
      Carries (apply player operation).2 (operation.cause.or cause)) := by
  have outcome := apply_outcome player operation
  generalize apply player operation = result at outcome ⊢
  cases outcome with
  | refused _ _ causeless _ =>
    refine ⟨Or.inl rfl, id, fun cause holds => ?_⟩
    rw [causeless]
    exact holds
  | unopened path failure isOpen =>
    rw [isOpen] at sound
    rcases sound with refuses | ⟨_, ⟨validated, impossible, _⟩, _⟩
    · exact refuses.elim
    · exact nomatch impossible
  | changes changed reply accepts does _ =>
    rcases sound with refuses | ⟨left, opens, calm⟩
    · exact absurd refuses accepts
    have same := does.revision
    rcases bumped_cases changed reply with ⟨_, next⟩ | ⟨used, _⟩
    · rw [next]
      refine ⟨Or.inr (by dsimp only; omega), does.placed opens, fun cause holds failed => ?_⟩
      rcases does.carries failed with ⟨error, shown, caused⟩ | ⟨before, causeless, error⟩
      · exact ⟨error, shown, by rw [caused]; rfl⟩
      · have kept := error.resolve_left (calm before)
        rw [causeless]
        dsimp only
        rw [kept]
        exact holds before
    · exact absurd (by omega) used

def after (start : PlayerCoordinator) (operations : List Operation) : PlayerCoordinator :=
  Run.final apply start operations

/-- The cause of the error phase after some calls. -/
def causeOf (start : PlayerCoordinator) (operations : List Operation) :
    Option PlayerCoordinatorError :=
  (Run.steps apply start operations).foldl causeAfter none

/-- The revision identifies the view throughout some calls. -/
structure Identified (start : PlayerCoordinator) (operations : List Operation) : Prop where
  ascends : ∀ earlier later, earlier ++ later <+: operations →
    (after start earlier).view.revision ≤ (after start (earlier ++ later)).view.revision
  identifies : ∀ earlier later, earlier ++ later <+: operations →
    (after start earlier).view.revision = (after start (earlier ++ later)).view.revision →
    (after start earlier).view = (after start (earlier ++ later)).view
  plays : ∀ earlier, earlier <+: operations →
    (after start earlier).view.phase = .playing ∨ (after start earlier).view.phase = .paused →
    (after start earlier).view.cartridge.isSome
  placed : ∀ earlier, earlier <+: operations →
    (after start earlier).view.cartridge.elim ((after start earlier).view.positionFrame = 0)
      fun cartridge => (after start earlier).view.positionFrame < cartridge.frameCount
  carries : ∀ earlier, earlier <+: operations → (after start earlier).view.phase = .error →
    ∃ error, (after start earlier).view.error = some error ∧
      causeOf start earlier = some ⟨error.code, error.message⟩
  answers : ∀ step ∈ Run.steps apply start operations, ∀ view, step.output = .ok view →
    view = step.after.view

theorem apply_answers (player : PlayerCoordinator) (operation : Operation) (view : PlayerView)
    (answered : (apply player operation).1 = .ok view) :
    view = (apply player operation).2.view := by
  have outcome := apply_outcome player operation
  generalize apply player operation = result at outcome answered ⊢
  cases outcome with
  | refused reply _ _ shows => exact shows view answered
  | unopened path failure _ => exact nomatch answered
  | changes changed reply _ _ shows =>
    unfold PlayerCoordinator.bumped at answered ⊢
    cases bump : changed.bumpRevision with
    | error error =>
      rw [bump] at answered
      exact nomatch answered
    | ok next =>
      rw [bump] at answered
      exact shows _ _ answered

/-- Calls that go wrong nowhere leave the player as it is or give it a new revision. -/
theorem climbs (operations : List Operation) : ∀ start,
    (∀ step ∈ Run.steps apply start operations, Sound step.before step.input) →
    after start operations = start ∨ start.revision < (after start operations).revision := by
  induction operations with
  | nil => exact fun _ _ => Or.inl rfl
  | cons operation operations ih =>
    intro start sound
    rw [Run.steps, List.forall_mem_cons] at sound
    have first := (apply_sound sound.1).1
    have rest := ih _ sound.2
    unfold after at rest ⊢
    rw [Run.final]
    rcases first with same | higher
    · have same' : (apply start operation).2 = start := same
      rw [same'] at rest ⊢
      exact rest
    · have higher' : start.revision < (apply start operation).2.revision := higher
      rcases rest with same | further
      · rw [same]
        exact Or.inr higher'
      · exact Or.inr (Nat.lt_trans higher' further)

/-- In every run of the coordinator whose calls go wrong nowhere, the revision identifies the
view. -/
theorem revision_identifies_view
    (discovered : Except CodecPackError (List ValidatedCodecPack)) (operations : List Operation)
    (sound : ∀ step ∈ Run.steps apply (.discoverVisible discovered) operations,
      Sound step.before step.input) :
    Identified (.discoverVisible discovered) operations := by
  have empty : (PlayerCoordinator.discoverVisible discovered).phase = .empty ∧
      (PlayerCoordinator.discoverVisible discovered).cartridge = none ∧
      (PlayerCoordinator.discoverVisible discovered).positionFrame = 0 := by
    cases discovered <;> exact ⟨rfl, rfl, rfl⟩
  obtain ⟨phase, unloaded, first⟩ := empty
  generalize PlayerCoordinator.discoverVisible discovered = start at *
  have parts : ∀ earlier, earlier <+: operations →
      ∀ step ∈ Run.steps apply start earlier, Sound step.before step.input := by
    rintro earlier ⟨later, rfl⟩ step among
    refine sound step ?_
    rw [Run.steps_append]
    exact List.mem_append_left _ among
  have reached : ∀ earlier, earlier <+: operations →
      PlaysLoaded (after start earlier) ∧ Placed (after start earlier) ∧
      Carries (after start earlier) (causeOf start earlier) := by
    intro earlier within
    have wasSound := parts earlier within
    refine ⟨?_, ?_, ?_⟩
    · refine (Run.invariant_always PlaysLoaded apply_plays earlier start ?_).1
      intro playing
      rw [phase] at playing
      exact playing.elim (nomatch ·) (nomatch ·)
    · refine (Run.invariant_under (fun step => Sound step.before step.input) Placed
        (fun before operation holds met => (apply_sound met).2.1 holds) earlier start ?_ wasSound).1
      unfold Placed
      rw [unloaded]
      exact first
    · refine Run.observed_under (fun step => Sound step.before step.input) causeAfter
        (fun cause player => Carries player cause)
        (fun cause before operation holds met => (apply_sound met).2.2 cause holds)
        earlier start none ?_ wasSound
      intro failed
      rw [phase] at failed
      exact nomatch failed
  have onwards : ∀ earlier later, earlier ++ later <+: operations →
      after start (earlier ++ later) = after start earlier ∨
        (after start earlier).revision < (after start (earlier ++ later)).revision := by
    intro earlier later within
    have wasSound := parts _ within
    rw [Run.steps_append, List.forall_mem_append] at wasSound
    unfold after
    rw [Run.final_append]
    exact climbs later _ wasSound.2
  refine
    { ascends := ?_
      identifies := ?_
      plays := ?_
      placed := ?_
      carries := fun earlier within failed => (reached earlier within).2.2 failed
      answers := ?_ }
  · intro earlier later within
    rcases onwards earlier later within with same | higher
    · rw [same]
    · exact Nat.le_of_lt higher
  · intro earlier later within agree
    rcases onwards earlier later within with same | higher
    · rw [same]
    · exact absurd agree (Nat.ne_of_lt higher)
  · intro earlier within playing
    have loaded := (reached earlier within).1 playing
    show ((after start earlier).cartridge.map (·.summary)).isSome
    rw [Option.isSome_map]
    exact loaded
  · intro earlier within
    have holds := (reached earlier within).2.1
    unfold Placed at holds
    show ((after start earlier).cartridge.map (·.summary)).elim _ _
    cases there : (after start earlier).cartridge with
    | none =>
      rw [there] at holds
      exact holds
    | some loaded =>
      rw [there] at holds
      exact holds
  · intro step among view answered
    have made := Run.step_eq start operations step among
    rw [made] at answered ⊢
    exact apply_answers _ _ _ answered

/-- The H3 sample, opened. -/
def sampleCartridge : IntegrityValidatedCartridge :=
  let evidence := h3Sample.evidence
  evidence.cartridge h3Sample.archive.bytes evidence.described

/-- A player that opens the sample, plays it, moves and pauses, and then reports an error. -/
def sampleCalls : List Operation :=
  [.setOutputAvailable true, .setPlaying true,
    .openCartridge ⟨"sample.lc", some "sample.lc"⟩ (.ok sampleCartridge),
    .setPlayingProtocol2 true, .setPositionFrame 3, .setPositionFrame 5,
    .setPlayingProtocol2 false, .setRuntimeError "worker.lost" "The worker ended." true, .view]

/-- The calls go wrong nowhere, and the revision identifies the view. -/
theorem sampleCalls_identified : Identified (.discoverVisible (.ok [])) sampleCalls :=
  revision_identifies_view (.ok []) sampleCalls (by
    intro step among
    simp only [sampleCalls, Run.steps, List.mem_cons, List.not_mem_nil, or_false] at among
    rcases among with rfl | rfl | rfl | rfl | rfl | rfl | rfl | rfl | rfl
    · exact Or.inr ⟨by decide, trivial, fun _ => id⟩
    · exact Or.inl (Or.inl rfl)
    · exact Or.inr ⟨by decide, ⟨_, rfl, by decide⟩, fun _ => id⟩
    · exact Or.inr ⟨by decide, trivial, fun _ => id⟩
    · exact Or.inr ⟨by decide, trivial, fun _ => id⟩
    · exact Or.inl fun loaded there => (Option.some.inj there) ▸ Nat.le_refl 5
    · exact Or.inr ⟨by decide, trivial, fun _ => id⟩
    · exact Or.inr ⟨by decide, trivial, fun _ => id⟩
    · exact Or.inl trivial)

/-- A file that is no cartridge: the player shows its error phase without an error, and without a
new revision. -/
theorem unopened_keeps_revision :
    ¬ Identified (.discoverVisible (.ok []))
      [.openCartridge ⟨"broken.lc", some "broken.lc"⟩
        (.error ⟨"archive.invalid", "not an archive"⟩)] := by
  intro identified
  have same := identified.identifies [] [_] List.prefix_rfl rfl
  exact absurd (congrArg PlayerView.phase same) (by decide)

end LatentDeck.Player
