import LatentDeck.Control.Payloads
import LatentDeck.DeckUi.Contract

/-!
# The operator descriptor at the deck runtime

The deck runtime reads `operator.json` again, with a decoder and checks of its own, before it binds
a session to the package. `OperatorDescriptor.SameFile` says that both decoders read one document.
-/

namespace LatentDeck.DeckUi

open Fallible Packages
open Control (ControlValue)

/-- `MAX_IDENTIFIER_BYTES` of the runtime. -/
def maxIdentifierBytes : Nat := 128
def maxControlTextBytes : Nat := 4096
def maxSources : Nat := 16
/-- `MAX_CONTROLS` of the runtime. -/
def maxRuntimeControls : Nat := 64
def maxEnumOptions : Nat := 256
def maxExactF64Integer : Int := 9007199254740992

inductive DeckOperatorControlKind where
  | boolean
  | integer
  | number
  | enum
  | text
  deriving DecidableEq

structure DeckOperatorControlDescriptor where
  controlId : String
  valueType : DeckOperatorControlKind
  default : Json.Value
  options : Option (List String)
  minimum : Option UInt64
  maximum : Option UInt64
  step : Option UInt64

structure DeckOperatorDescriptor where
  schemaVersion : String
  deckOperatorApi : String
  deckId : String
  deckVersion : String
  operatorId : String
  operatorVersion : String
  entrypoint : String
  sourceCount : Nat
  roleIds : List String
  controls : List DeckOperatorControlDescriptor

/-- The field that `ManifestOperatorMismatch` names. -/
inductive MismatchedField where
  | deckId
  | deckVersion
  | entrypoint
  | sourceCount
  | roleIds
  deriving DecidableEq

/-- `DeckRuntimeError`, as far as the checks of the descriptor raise it. -/
inductive DeckRuntimeError where
  | operatorDescriptorInvalid
  | manifestOperatorMismatch (field : MismatchedField)
  /-- `LoadRequestInvalid("controls")`. -/
  | controlsInvalid
  deriving DecidableEq

/-- A condition that `operator.json` must not meet. -/
def invalidOperatorWhen (condition : Prop) [Decidable condition] : Except DeckRuntimeError Unit :=
  refuseWhen condition .operatorDescriptorInvalid

def identifier (value : String) : Except DeckRuntimeError Unit :=
  invalidOperatorWhen (value = "" ∨ maxIdentifierBytes < value.utf8ByteSize ∨
    ¬ value.toList.all fun char =>
      isAlphanumeric char || char == '.' || char == '_' || char == ':' || char == '-')

def pythonIdentifier (value : List Char) : Bool :=
  match value with
  | [] => false
  | first :: rest =>
      (isLower first || isUpper first || first == '_') &&
        rest.all fun char => isAlphanumeric char || char == '_'

def pythonEntrypoint (value : String) : Except DeckRuntimeError Unit := do
  let (module, callable) ← orError (splitEntrypoint value) .operatorDescriptorInvalid
  invalidOperatorWhen (':' ∈ callable ∨ module = [] ∨ callable = [] ∨
    ¬ (module.splitOn '.').all pythonIdentifier ∨ ¬ pythonIdentifier callable)

def version (crates : Crates) (value : String) : Except DeckRuntimeError Unit :=
  invalidOperatorWhen ((crates.parseVersion value).isNone)

def boundedText (value : String) : Bool :=
  value != "" && decide (value.utf8ByteSize ≤ maxControlTextBytes) && !value.toList.contains '\x00'

def jsonInteger : Json.Value → Except DeckRuntimeError Int64
  | .number value => orError (asI64 value) .operatorDescriptorInvalid
  | .null | .bool _ | .string _ | .array _ | .object _ => .error .operatorDescriptorInvalid

def exactIntegerAsF64 (value : Int64) : Except DeckRuntimeError UInt64 := do
  invalidOperatorWhen (¬ (-maxExactF64Integer ≤ value.toInt ∧ value.toInt ≤ maxExactF64Integer))
  .ok (Binary64.ofInt value.toInt)

/-- Whether a bound, where there is one, fails a test. -/
def boundFails (test : UInt64 → Bool) (bound : Option UInt64) : Bool := bound.any fun value =>
  test value

namespace DeckOperatorControlDescriptor

variable (control : DeckOperatorControlDescriptor)

def hasRange : Bool := control.minimum.isSome || control.maximum.isSome || control.step.isSome

/-- Whether the minimum and the maximum are the wrong way around. -/
def crossed : Bool :=
  match control.minimum, control.maximum with
  | some minimum, some maximum => Binary64.isLess maximum minimum
  | none, _ | some _, none => false

def validateNumericBounds (default : UInt64) (integral : Bool) : Except DeckRuntimeError Unit :=
  invalidOperatorWhen (control.options.isSome ∨
    [control.minimum, control.maximum, control.step].any (boundFails fun value =>
      !Binary64.isFinite value || (integral && !Binary64.isIntegral value)) ∨
    boundFails (fun value => Binary64.isAtMost value 0) control.step ∨
    control.crossed ∨
    boundFails (fun minimum => Binary64.isLess default minimum) control.minimum ∨
    boundFails (fun maximum => Binary64.isLess maximum default) control.maximum)

/-- `default.as_f64`, if that is finite. -/
def finiteDefault : Option UInt64 :=
  match control.default with
  | .number value => if Binary64.isFinite (asF64 value) then some (asF64 value) else none
  | .null | .bool _ | .string _ | .array _ | .object _ => none

/-- `default.as_str`. -/
def textDefault : Option String :=
  match control.default with
  | .string text => some text
  | .null | .bool _ | .number _ | .array _ | .object _ => none

/-- `default.is_boolean`. -/
def hasBooleanDefault : Bool :=
  match control.default with
  | .bool _ => true
  | .null | .number _ | .string _ | .array _ | .object _ => false

def validateControlDescriptor : Except DeckRuntimeError Unit := do
  identifier control.controlId
  match control.valueType with
  | .boolean =>
      invalidOperatorWhen (¬ control.hasBooleanDefault ∨ control.options.isSome ∨ control.hasRange)
  | .integer => do
      let value ← jsonInteger control.default
      let default ← exactIntegerAsF64 value
      control.validateNumericBounds default true
  | .number => do
      let default ← orError control.finiteDefault .operatorDescriptorInvalid
      control.validateNumericBounds default false
  | .enum => do
      let default ← orError control.textDefault .operatorDescriptorInvalid
      let options ← orError control.options .operatorDescriptorInvalid
      invalidOperatorWhen (options = [] ∨ maxEnumOptions < options.length)
      invalidOperatorWhen (control.hasRange ∨ ¬ options.all boundedText ∨ default ∉ options)
      invalidOperatorWhen (¬ options.Nodup)
  | .text =>
      invalidOperatorWhen (¬ control.textDefault.any boundedText ∨ control.options.isSome ∨
        control.hasRange)

def numericValueInBounds (value : UInt64) : Bool :=
  !boundFails (fun minimum => !Binary64.isAtMost minimum value) control.minimum &&
    !boundFails (fun maximum => !Binary64.isAtMost value maximum) control.maximum

def accepts : ControlValue → Bool
  | .boolean _ => control.valueType == .boolean
  | .integer value => control.valueType == .integer &&
      match exactIntegerAsF64 value with
      | .ok value => control.numericValueInBounds value
      | .error _ => false
  | .number value => control.valueType == .number && Binary64.isFinite value &&
      control.numericValueInBounds value
  | .text value =>
      (control.valueType == .enum && control.options.any fun options => options.contains value) ||
        (control.valueType == .text && boundedText value)

def validateControlBinding (value : ControlValue) : Except DeckRuntimeError Unit :=
  refuseWhen (¬ control.accepts value) .controlsInvalid

/-- The value that binds a control to its declared default. -/
def defaultValue : Option ControlValue :=
  match control.valueType with
  | .boolean =>
      match control.default with
      | .bool value => some (.boolean value)
      | .null | .number _ | .string _ | .array _ | .object _ => none
  | .integer => (jsonInteger control.default).toOption.map .integer
  | .number => control.finiteDefault.map .number
  | .enum | .text => control.textDefault.map .text

end DeckOperatorControlDescriptor

/-- `validate_operator` of the runtime. -/
def validateRuntimeOperator (crates : Crates) (operator : DeckOperatorDescriptor) :
    Except DeckRuntimeError Unit := do
  invalidOperatorWhen (operator.schemaVersion ≠ "0.2.0" ∨ operator.deckOperatorApi ≠ "0.2.0" ∨
    operator.sourceCount = 0 ∨ maxSources < operator.sourceCount ∨
    operator.roleIds.length ≠ operator.sourceCount ∨
    maxRuntimeControls < operator.controls.length)
  identifier operator.deckId
  version crates operator.deckVersion
  identifier operator.operatorId
  version crates operator.operatorVersion
  pythonEntrypoint operator.entrypoint
  checkEach identifier operator.roleIds
  invalidOperatorWhen (¬ operator.roleIds.Nodup)
  checkEach DeckOperatorControlDescriptor.validateControlDescriptor operator.controls
  invalidOperatorWhen (¬ (operator.controls.map DeckOperatorControlDescriptor.controlId).Nodup)

def crosscheckOperator (manifest : DeckPackManifest) (operator : DeckOperatorDescriptor) :
    Except DeckRuntimeError Unit := do
  refuseWhen (operator.deckId ≠ manifest.deckId) (.manifestOperatorMismatch .deckId)
  refuseWhen (operator.deckVersion ≠ manifest.deckVersion) (.manifestOperatorMismatch .deckVersion)
  refuseWhen (operator.entrypoint ≠ manifest.runtime.entrypoint)
    (.manifestOperatorMismatch .entrypoint)
  refuseWhen (operator.sourceCount ≠ manifest.signal.slots) (.manifestOperatorMismatch .sourceCount)
  refuseWhen (operator.roleIds ≠ manifest.signal.roles.map DeckRoleDescriptor.roleId)
    (.manifestOperatorMismatch .roleIds)

/-- Both decoders read a control from the same object. -/
structure ControlDescriptor.SameFile (control : ControlDescriptor)
    (read : DeckOperatorControlDescriptor) : Prop where
  controlId : read.controlId = control.controlId
  fields : match control.valueType with
    | .number default minimum maximum step =>
        read.valueType = .number ∧ (∃ value, read.default = .number value ∧ asF64 value = default) ∧
          read.options = none ∧ read.minimum = some minimum ∧ read.maximum = some maximum ∧
          read.step = some step
    | .integer default minimum maximum step =>
        read.valueType = .integer ∧
          (∃ value, read.default = .number value ∧ asI64 value = some default) ∧
          read.options = none ∧ read.minimum = some (Binary64.ofInt minimum.toInt) ∧
          read.maximum = some (Binary64.ofInt maximum.toInt) ∧
          read.step = some (Binary64.ofInt step.toNat)
    | .boolean default =>
        read.valueType = .boolean ∧ read.default = .bool default ∧ read.options = none ∧
          read.minimum = none ∧ read.maximum = none ∧ read.step = none
    | .enum default options =>
        read.valueType = .enum ∧ read.default = .string default ∧ read.options = some options ∧
          read.minimum = none ∧ read.maximum = none ∧ read.step = none

/-- Both decoders read the same `operator.json`. -/
structure OperatorDescriptor.SameFile (operator : OperatorDescriptor)
    (read : DeckOperatorDescriptor) : Prop where
  schemaVersion : read.schemaVersion = operator.schemaVersion
  deckOperatorApi : read.deckOperatorApi = operator.deckOperatorApi
  deckId : read.deckId = operator.deckId
  deckVersion : read.deckVersion = operator.deckVersion
  operatorId : read.operatorId = operator.operatorId
  operatorVersion : read.operatorVersion = operator.operatorVersion
  entrypoint : read.entrypoint = operator.entrypoint
  sourceCount : read.sourceCount = operator.sourceCount
  roleIds : read.roleIds = operator.roleIds
  controls : List.Forall₂ ControlDescriptor.SameFile operator.controls read.controls

end LatentDeck.DeckUi
