import LatentDeck.Library.Binary64
import LatentDeck.Library.Json
import LatentDeck.Packages.Schema

/-!
# The user interface contract of a deck package

`operator.json` and `faceplate.json` as the extension manager reads them, and the checks that it
makes of them against the manifest. Numbers are the bits of their binary64 value. Decoding the two
documents is left to their derived decoders; every error is a rejected manifest.
-/

namespace LatentDeck.DeckUi

open Fallible Packages

/-- `Value::as_f64` of a number. -/
def asF64 : Json.Number → UInt64
  | .posInt value => Binary64.ofInt value.toNat
  | .negInt value => Binary64.ofInt value
  | .float bits => bits

/-- `Value::as_i64` of a number. -/
def asI64 : Json.Number → Option Int64
  | .posInt value => if value.toNat < 2 ^ 63 then some (Int64.ofNat value.toNat) else none
  | .negInt value => some (Int64.ofInt value)
  | .float _ => none

def maxControls : Nat := 128
def maxSections : Nat := 16
def maxWidgets : Nat := 128
def maxVisibilityPredicates : Nat := 8
def maxVisibilityValues : Nat := 16
def maxJsSafeInteger : Int := 9007199254740991

/-- `ControlDescriptor`, less its identifier. -/
inductive ControlType where
  | number (default minimum maximum step : UInt64)
  | integer (default minimum maximum : Int64) (step : UInt64)
  | boolean (default : Bool)
  | enum (default : String) (options : List String)

structure ControlDescriptor where
  controlId : String
  valueType : ControlType

structure OperatorDescriptor where
  schemaVersion : String
  deckOperatorApi : String
  deckId : String
  deckVersion : String
  operatorId : String
  operatorVersion : String
  entrypoint : String
  sourceCount : Nat
  roleIds : List String
  controls : List ControlDescriptor

inductive SectionRegion where
  | output
  | actions
  | controls
  deriving DecidableEq

inductive VisibilityValue where
  | text (value : String)
  | boolean (value : Bool)
  deriving DecidableEq

structure VisibilityPredicate where
  controlId : String
  oneOf : List VisibilityValue

structure FaceplateOption where
  value : String
  label : String

inductive CaptureMode where
  | snapshot
  | liveCapture
  deriving DecidableEq

/-- `FaceplateWidget`, less what every widget has. -/
inductive WidgetKind where
  | sourcePicker (slotIndex : Nat)
  | slider (controlId : String) (minimum maximum step : UInt64)
  | number (controlId : String) (minimum maximum step : UInt64)
  | toggle (controlId : String)
  | select (controlId : String) (options : List FaceplateOption)
  | roleEditor (roleIds : List String)
  | barycentric3 (xControlId yControlId first second third : String)
  | transport (slotIndices : List Nat)
  | seed
  | capture (modes : List CaptureMode)
  | monitor

structure FaceplateWidget where
  id : String
  label : String
  visibleWhen : Option (List VisibilityPredicate)
  kind : WidgetKind

structure FaceplateSection where
  sectionId : String
  title : String
  region : Option SectionRegion
  columns : Option Nat
  widgets : List FaceplateWidget

structure FaceplateDescriptor where
  schemaVersion : Nat
  title : String
  sections : List FaceplateSection

/-- Whether a character separates the parts of an identifier. -/
def isSeparator (char : Char) : Bool := char == '.' || char == '_' || char == '-'

/-- Whether a part of an identifier is a lowercase letter followed by letters and digits. -/
def validPart (part : List Char) : Bool :=
  part.head?.any isLower && part.all fun char => isLower char || isDigit char

def validIdentifier (value : String) : Bool :=
  value != "" && decide (value.utf8ByteSize ≤ 128) && value.toList.all (·.toNat < 128) &&
    (value.toList.splitOnP isSeparator).all validPart

/-- `char::is_control`. -/
def isControl (char : Char) : Bool :=
  decide (char.toNat < 0x20) || decide (0x7f ≤ char.toNat ∧ char.toNat < 0xa0)

def validText (value : String) : Bool :=
  value != "" && decide (value.utf8ByteSize ≤ 256) && !value.toList.any isControl

/-- Whether two lists hold the same elements. -/
def SameElements {α : Type} (left right : List α) : Prop :=
  (∀ value ∈ left, value ∈ right) ∧ ∀ value ∈ right, value ∈ left

instance {α : Type} [DecidableEq α] (left right : List α) : Decidable (SameElements left right) :=
  inferInstanceAs (Decidable (_ ∧ _))

def validControl : ControlType → Bool
  | .number default minimum maximum step =>
      Binary64.isFinite default && Binary64.isFinite minimum && Binary64.isFinite maximum &&
        Binary64.isFinite step && Binary64.isLess minimum maximum && Binary64.isLess 0 step &&
        Binary64.isAtMost minimum default && Binary64.isAtMost default maximum
  | .integer default minimum maximum step =>
      decide (minimum.toInt < maximum.toInt ∧ 0 < step.toNat ∧ minimum.toInt ≤ default.toInt ∧
        default.toInt ≤ maximum.toInt ∧ -maxJsSafeInteger ≤ minimum.toInt ∧
        maximum.toInt ≤ maxJsSafeInteger ∧ -maxJsSafeInteger ≤ default.toInt ∧
        default.toInt ≤ maxJsSafeInteger ∧ (step.toNat : Int) ≤ maxJsSafeInteger)
  | .boolean _ => true
  | .enum default options =>
      decide (options ≠ [] ∧ options.length ≤ 64) && options.all validIdentifier &&
        decide options.Nodup && options.contains default

def validateOperator (crates : Crates) (manifest : DeckPackManifest)
    (operator : OperatorDescriptor) : Except ErrorCode Unit := do
  invalidWhen (operator.schemaVersion ≠ "0.2.0" ∨ operator.deckOperatorApi ≠ "0.2.0" ∨
    operator.deckId ≠ manifest.deckId ∨ operator.deckVersion ≠ manifest.deckVersion ∨
    operator.sourceCount ≠ manifest.signal.slots ∨
    operator.roleIds ≠ manifest.signal.roles.map DeckRoleDescriptor.roleId ∨
    operator.entrypoint ≠ manifest.runtime.entrypoint)
  crates.validateSemver operator.operatorVersion
  invalidWhen (¬ validIdentifier operator.operatorId ∨ operator.controls = [] ∨
    maxControls < operator.controls.length)
  checkEach (fun control => invalidWhen (¬ (validIdentifier control.controlId ∧
    validControl control.valueType))) operator.controls
  invalidWhen (¬ (operator.controls.map ControlDescriptor.controlId).Nodup)

/-- `controls.get`. -/
def OperatorDescriptor.control (operator : OperatorDescriptor) (controlId : String) :
    Option ControlType :=
  (operator.controls.find? (·.controlId == controlId)).map ControlDescriptor.valueType

/-- Whether the values of a predicate are values of a control. -/
def VisibilityPredicate.matchesControl (predicate : VisibilityPredicate) : ControlType → Bool
  | .enum _ options => predicate.oneOf.all fun value =>
      match value with
      | .text text => options.contains text
      | .boolean _ => false
  | .boolean _ => predicate.oneOf.all fun value =>
      match value with
      | .text _ => false
      | .boolean _ => true
  | .number .. | .integer .. => false

/-- Whether a value is spelled as a predicate may spell it. -/
def VisibilityValue.spelled : VisibilityValue → Bool
  | .text value => validIdentifier value
  | .boolean _ => true

def validateVisibility (operator : OperatorDescriptor) :
    Option (List VisibilityPredicate) → Except ErrorCode Unit
  | none => .ok ()
  | some predicates => do
      invalidWhen (predicates = [] ∨ maxVisibilityPredicates < predicates.length)
      checkEach (fun predicate => do
        invalidWhen (¬ validIdentifier predicate.controlId ∨ predicate.oneOf = [] ∨
          maxVisibilityValues < predicate.oneOf.length ∨ ¬ predicate.oneOf.Nodup ∨
          ¬ predicate.oneOf.all VisibilityValue.spelled)
        let control ← orError (operator.control predicate.controlId) .manifestInvalid
        invalidWhen (¬ predicate.matchesControl control)) predicates

/-- What the loops of `validate_faceplate` have counted. -/
structure FaceplateTally where
  sectionIds : List String := []
  widgetIds : List String := []
  sourceSlots : List Nat := []
  boundControls : List String := []
  roleEditorCount : Nat := 0
  transportCount : Nat := 0
  seedCount : Nat := 0
  captureCount : Nat := 0
  monitorCount : Nat := 0
  outputRegionCount : Nat := 0
  widgetCount : Nat := 0

/-- `bound_controls.insert`. -/
def FaceplateTally.bind (tally : FaceplateTally) (controlId : String) :
    Except ErrorCode FaceplateTally := do
  invalidWhen (controlId ∈ tally.boundControls)
  .ok { tally with boundControls := controlId :: tally.boundControls }

/-- Whether the bounds of a numeric widget are those of a control. -/
def numericMatches (minimum maximum step : UInt64) (numberWidget : Bool) : ControlType → Bool
  | .number _ declaredMinimum declaredMaximum declaredStep =>
      Binary64.isEqual minimum declaredMinimum && Binary64.isEqual maximum declaredMaximum &&
        Binary64.isEqual step declaredStep
  | .integer _ declaredMinimum declaredMaximum declaredStep =>
      numberWidget && Binary64.isEqual minimum (Binary64.ofInt declaredMinimum.toInt) &&
        Binary64.isEqual maximum (Binary64.ofInt declaredMaximum.toInt) &&
        Binary64.isEqual step (Binary64.ofInt declaredStep.toNat)
  | .boolean _ | .enum .. => false

def validateNumericWidget (operator : OperatorDescriptor) (tally : FaceplateTally)
    (controlId : String) (minimum maximum step : UInt64) (numberWidget : Bool) :
    Except ErrorCode FaceplateTally := do
  let control ← orError (operator.control controlId) .manifestInvalid
  invalidWhen (¬ numericMatches minimum maximum step numberWidget control)
  tally.bind controlId

/-- The default of a number control between zero and one. -/
def normalizedDefault : ControlType → Option UInt64
  | .number default minimum maximum _ =>
      if Binary64.isEqual minimum (Binary64.ofInt 0) && Binary64.isEqual maximum (Binary64.ofInt 1)
      then some default else none
  | .integer .. | .boolean _ | .enum .. => none

/-- Whether a point is outside the triangle that `barycentric3` draws:
`x < 0.5 * y - 1e-12 || x > 1.0 - 0.5 * y + 1e-12`. -/
def outsideTriangle (x y : UInt64) : Bool :=
  let half := Binary64.mul (Binary64.ofRatio 1 2) y
  let slack := Binary64.ofRatio 1 1000000000000
  Binary64.isLess x (Binary64.sub half slack) ||
    Binary64.isLess (Binary64.add (Binary64.sub (Binary64.ofInt 1) half) slack) x

/-- The capability that a capture mode needs. -/
def CaptureMode.capability : CaptureMode → CodecCapability
  | .snapshot => .snapshotCapture
  | .liveCapture => .liveCapture

/-- The arm of `validate_faceplate` for the kind of a widget. -/
def checkKind (manifest : DeckPackManifest) (operator : OperatorDescriptor)
    (tally : FaceplateTally) : WidgetKind → Except ErrorCode FaceplateTally
  | .sourcePicker slotIndex => do
      invalidWhen (manifest.signal.slots ≤ slotIndex ∨ slotIndex ∈ tally.sourceSlots)
      .ok { tally with sourceSlots := slotIndex :: tally.sourceSlots }
  | .slider controlId minimum maximum step =>
      validateNumericWidget operator tally controlId minimum maximum step false
  | .number controlId minimum maximum step =>
      validateNumericWidget operator tally controlId minimum maximum step true
  | .toggle controlId => do
      let control ← orError (operator.control controlId) .manifestInvalid
      match control with
      | .boolean _ => tally.bind controlId
      | .number .. | .integer .. | .enum .. => .error .manifestInvalid
  | .select controlId options => do
      let values := options.map FaceplateOption.value
      invalidWhen (options = [] ∨ 64 < options.length ∨ ¬ values.Nodup ∨
        ¬ options.all fun option => validIdentifier option.value && validText option.label)
      let control ← orError (operator.control controlId) .manifestInvalid
      match control with
      | .enum _ declared => do
          invalidWhen (¬ SameElements declared values)
          tally.bind controlId
      | .number .. | .integer .. | .boolean _ => .error .manifestInvalid
  | .roleEditor roleIds => do
      let roles := manifest.signal.roles.map DeckRoleDescriptor.roleId
      invalidWhen (roleIds.length ≠ roles.length ∨ ¬ SameElements roleIds roles)
      .ok { tally with roleEditorCount := tally.roleEditorCount + 1 }
  | .barycentric3 xControlId yControlId first second third => do
      let roles := manifest.signal.roles.map DeckRoleDescriptor.roleId
      invalidWhen (¬ [first, second, third].Nodup ∨ ∃ role ∈ [first, second, third], role ∉ roles)
      let x ← orError ((operator.control xControlId).bind normalizedDefault) .manifestInvalid
      let tally ← tally.bind xControlId
      let y ← orError ((operator.control yControlId).bind normalizedDefault) .manifestInvalid
      let tally ← tally.bind yControlId
      invalidWhen (outsideTriangle x y)
      .ok tally
  | .transport slotIndices => do
      let slots := List.range manifest.signal.slots
      invalidWhen (¬ SameElements slotIndices slots ∨ slotIndices.length ≠ slots.length)
      .ok { tally with transportCount := tally.transportCount + 1 }
  | .seed => .ok { tally with seedCount := tally.seedCount + 1 }
  | .capture modes => do
      invalidWhen (modes = [] ∨ 2 < modes.length ∨ ¬ modes.Nodup ∨
        ∃ mode ∈ modes, mode.capability ∉ manifest.signal.requiredCapabilities)
      .ok { tally with captureCount := tally.captureCount + 1 }
  | .monitor => .ok { tally with monitorCount := tally.monitorCount + 1 }

/-- The region that a kind of widget belongs in. -/
def WidgetKind.region : WidgetKind → SectionRegion
  | .monitor => .output
  | .capture _ => .actions
  | .sourcePicker _ | .slider .. | .number .. | .toggle _ | .select .. | .roleEditor _
  | .barycentric3 .. | .transport _ | .seed => .controls

/-- The body of the loop over the widgets of a section. -/
def checkWidget (manifest : DeckPackManifest) (operator : OperatorDescriptor)
    (schemaVersion : Nat) (region : Option SectionRegion) (tally : FaceplateTally)
    (widget : FaceplateWidget) : Except ErrorCode FaceplateTally := do
  if schemaVersion = 1 then
    invalidWhen widget.visibleWhen.isSome
  else do
    validateVisibility operator widget.visibleWhen
    invalidWhen (region ≠ some widget.kind.region)
  invalidWhen (¬ validIdentifier widget.id ∨ widget.id ∈ tally.widgetIds ∨ ¬ validText widget.label)
  checkKind manifest operator { tally with widgetIds := widget.id :: tally.widgetIds } widget.kind

/-- The layout checks of a section, with the output regions it adds. -/
def checkLayout (schemaVersion : Nat) (region : Option SectionRegion) (columns : Option Nat) :
    Except ErrorCode Nat :=
  if schemaVersion = 1 then do
    invalidWhen (region.isSome ∨ columns.isSome)
    .ok 0
  else do
    let region ← orError region .manifestInvalid
    let columns ← orError columns .manifestInvalid
    invalidWhen (columns < 1 ∨ 4 < columns)
    .ok (if region = .output then 1 else 0)

def checkSection (manifest : DeckPackManifest) (operator : OperatorDescriptor)
    (schemaVersion : Nat) (tally : FaceplateTally) (part : FaceplateSection) :
    Except ErrorCode FaceplateTally := do
  invalidWhen (¬ validIdentifier part.sectionId ∨ part.sectionId ∈ tally.sectionIds ∨
    ¬ validText part.title)
  let outputs ← checkLayout schemaVersion part.region part.columns
  let widgetCount := tally.widgetCount + part.widgets.length
  invalidWhen (maxWidgets < widgetCount)
  part.widgets.foldlM (checkWidget manifest operator schemaVersion part.region)
    { tally with
      sectionIds := part.sectionId :: tally.sectionIds
      outputRegionCount := tally.outputRegionCount + outputs
      widgetCount }

def validateFaceplate (manifest : DeckPackManifest) (operator : OperatorDescriptor)
    (faceplate : FaceplateDescriptor) : Except ErrorCode Unit := do
  invalidWhen (faceplate.schemaVersion ∉ [1, 2] ∨ ¬ validText faceplate.title ∨
    faceplate.sections = [] ∨ maxSections < faceplate.sections.length)
  let tally ← faceplate.sections.foldlM
    (checkSection manifest operator faceplate.schemaVersion) {}
  invalidWhen (¬ SameElements tally.sourceSlots (List.range manifest.signal.slots) ∨
    tally.boundControls.length ≠ operator.controls.length ∨
    (∃ controlId ∈ tally.boundControls, (operator.control controlId).isNone) ∨
    tally.roleEditorCount ≠ 1 ∨ tally.transportCount ≠ 1 ∨ tally.seedCount ≠ 1 ∨
    1 < tally.captureCount ∨ tally.monitorCount ≠ 1 ∨
    (faceplate.schemaVersion = 2 ∧ tally.outputRegionCount ≠ 1))

/-- `validate_deck_ui_contract`, after the two documents were decoded. -/
def validateDeckUiContract (crates : Crates) (manifest : DeckPackManifest)
    (operator : OperatorDescriptor) (faceplate : FaceplateDescriptor) :
    Except ErrorCode Unit := do
  validateOperator crates manifest operator
  validateFaceplate manifest operator faceplate

end LatentDeck.DeckUi
