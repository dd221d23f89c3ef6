import LatentDeck.Library.Dict
import LatentDeck.CodecHost.Contracts
import Mathlib.Data.List.Sort

/-!
# The deck operator boundary

A deck operator turns the current latent tensors of one to sixteen sources into one latent tensor.
The Deck SDK checks what goes into the operator and what comes out; the operator itself is foreign.
-/

namespace LatentDeck.CodecHost

open Text Fallible
open Control (Uuid Float64Bits)

/-- A scalar of the control plane: a Python `bool`, `int`, `float` or `str`. -/
inductive Scalar where
  | boolean (value : Bool)
  | integer (value : Int)
  | float (value : Float64Bits)
  | text (value : String)

/-- Data that an operator reports about its output. -/
inductive Provenance where
  | null
  | scalar (value : Scalar)
  | object (fields : List (String × Provenance))
  | array (items : List Provenance)
  | foreign

structure RoleBinding where
  role : String
  physicalSlot : Int

/-- Raises a contract code when a condition holds. -/
def deckRefuse (condition : Prop) [Decidable condition] (code : String) : SdkChecked :=
  if condition then .error (.deckContract code) else .ok ()

/-- `_identifier` of the Deck SDK. -/
def contextIdentifier (value : String) : SdkChecked :=
  deckRefuse (¬ isIdentifier value) "context.identity"

/-- `_integer` of the Deck SDK. -/
def contextInteger (value minimum maximum : Int) : SdkChecked :=
  deckRefuse (¬ (minimum ≤ value ∧ value ≤ maximum)) "context.integer"

def maxSafeSeed : Int := 9007199254740991

def RoleBinding.validate (binding : RoleBinding) (sourceCount : Nat) : SdkChecked := do
  contextIdentifier binding.role
  contextInteger binding.physicalSlot 1 sourceCount

structure DeckOperatorContext where
  codecFamily : String
  profile : String
  profileVersion : String
  timingContract : String
  timingContractVersion : String
  frameRateNumerator : Int
  frameRateDenominator : Int
  generation : Nat
  sequence : Nat
  seed : Nat
  playheads : List Nat
  physicalSlots : List Nat
  roles : List RoleBinding
  previousSources : List (Option Tensor)

/-- The role loop of `DeckOperatorContext.validate`. -/
def validateContextRoles (sourceCount : Nat) : List String → List RoleBinding → SdkChecked
  | _, [] => .ok ()
  | names, binding :: bindings => do
      binding.validate sourceCount
      deckRefuse (binding.role ∈ names) "context.role_duplicate"
      validateContextRoles sourceCount (binding.role :: names) bindings

def DeckOperatorContext.validate (context : DeckOperatorContext) (sourceCount : Nat) :
    SdkChecked := do
  checkEach contextIdentifier [context.codecFamily, context.profile, context.profileVersion,
    context.timingContract, context.timingContractVersion]
  contextInteger context.frameRateNumerator 1 (2 ^ 32 - 1)
  contextInteger context.frameRateDenominator 1 (2 ^ 32 - 1)
  contextInteger context.generation 1 (2 ^ 64 - 1)
  contextInteger context.sequence 1 (2 ^ 64 - 1)
  contextInteger context.seed 0 maxSafeSeed
  deckRefuse (¬ (context.playheads.length = sourceCount ∧
      context.physicalSlots.length = sourceCount ∧
      context.previousSources.length = sourceCount)) "context.source_count"
  deckRefuse (context.physicalSlots.insertionSort (· ≤ ·) ≠ List.range' 1 sourceCount)
    "context.physical_slots"
  checkEach (fun playhead : Nat => contextInteger playhead 0 maxSafeSeed) context.playheads
  validateContextRoles sourceCount [] context.roles

structure DeckOperatorResult where
  output : Tensor
  provenance : Provenance

/-- `_torch` — the codec runtime's Torch build must be there. -/
def requireTorch (platform : Platform) : SdkChecked :=
  deckRefuse platform.torch.isNone "tensor.torch_unavailable"

/-- `_validate_tensor` of the Deck SDK without its finite check. -/
def Tensor.validateAbi (tensor : Tensor) : SdkChecked := do
  deckRefuse (¬ tensor.isTensor) "tensor.type"
  deckRefuse (¬ isLatentShape tensor.shape) "tensor.shape"
  deckRefuse (tensor.dtype ∉ ["float16", "bfloat16", "float32"]) "tensor.dtype"
  deckRefuse (tensor.device.1 ∉ ["cpu", "cuda"]) "tensor.device"
  deckRefuse (¬ tensor.contiguous) "tensor.non_contiguous"

/-- Two tensors have one shape, dtype and device. -/
def Tensor.matches (tensor reference : Tensor) : Bool :=
  tensor.shape == reference.shape && tensor.dtype == reference.dtype &&
    tensor.device == reference.device

/-- `_validate_controls` of the Deck SDK for one control. -/
def validateControl (name : String) (value : Scalar) : SdkChecked := do
  contextIdentifier name
  match value with
  | .boolean _ | .integer _ => .ok ()
  | .float value => deckRefuse (¬ value.isFinite) "control.non_finite"
  | .text value =>
      deckRefuse (4096 < value.utf8ByteSize ∨ value.toList.contains '\x00') "control.text"

/-- `_validate_controls` of the Deck SDK. -/
def validateControls (controls : Dict String Scalar) : SdkChecked := do
  deckRefuse (64 < controls.entries.length) "control.count"
  checkEach (fun entry : String × Scalar => validateControl entry.1 entry.2) controls.entries

/-- The bounds that `visit` checks at every node. -/
def provenanceBounds (depth nodes : Nat) : SdkChecked := do
  deckRefuse (2048 < nodes + 1) "provenance.nodes"
  deckRefuse (8 < depth) "provenance.depth"

mutual

/-- `visit` of `_validate_provenance`: the nodes counted so far go in and come out. -/
def Provenance.visit (depth nodes : Nat) : Provenance → Except Raised Nat
  | .null | .scalar (.boolean _) | .scalar (.integer _) => do
      provenanceBounds depth nodes
      .ok (nodes + 1)
  | .scalar (.float value) => do
      provenanceBounds depth nodes
      deckRefuse (¬ value.isFinite) "provenance.non_finite"
      .ok (nodes + 1)
  | .scalar (.text value) => do
      provenanceBounds depth nodes
      deckRefuse (4096 < value.utf8ByteSize ∨ value.toList.contains '\x00') "provenance.text"
      .ok (nodes + 1)
  | .object fields => do
      provenanceBounds depth nodes
      deckRefuse (64 < fields.length) "provenance.fields"
      visitFields depth (nodes + 1) fields
  | .array items => do
      provenanceBounds depth nodes
      deckRefuse (256 < items.length) "provenance.items"
      visitItems depth (nodes + 1) items
  | .foreign => do
      provenanceBounds depth nodes
      .error (.deckContract "provenance.type")

/-- The loop of `visit` over the fields of an object. -/
def visitFields (depth nodes : Nat) : List (String × Provenance) → Except Raised Nat
  | [] => .ok nodes
  | (key, child) :: fields => do
      contextIdentifier key
      let nodes ← child.visit (depth + 1) nodes
      visitFields depth nodes fields

/-- The loop of `visit` over the items of an array. -/
def visitItems (depth nodes : Nat) : List Provenance → Except Raised Nat
  | [] => .ok nodes
  | child :: items => do
      let nodes ← child.visit (depth + 1) nodes
      visitItems depth nodes items

end

def validateProcessCall (platform : Platform) (sources : List Tensor)
    (controls : Dict String Scalar) (context : DeckOperatorContext) : SdkChecked := do
  match sources with
  | [] => .error (.deckContract "tensor.source_count")
  | reference :: others => do
      deckRefuse (16 < sources.length) "tensor.source_count"
      requireTorch platform
      context.validate sources.length
      checkEach Tensor.validateAbi sources
      deckRefuse (¬ others.all (·.matches reference)) "tensor.incompatible"
      let previous := context.previousSources.filterMap id
      checkEach (fun tensor : Tensor => do
          tensor.validateAbi
          deckRefuse (¬ tensor.matches reference) "tensor.previous_incompatible") previous
      deckRefuse (¬ (sources ++ previous).all (·.finite)) "tensor.non_finite"
      validateControls controls

def validateProcessResult (platform : Platform) (answer : Option DeckOperatorResult)
    (sources : List Tensor) : Except Raised DeckOperatorResult :=
  match answer, sources with
  | none, _ => .error (.deckContract "result.type")
  | some _, [] => .error (.deckContract "tensor.source_count")
  | some result, reference :: _ => do
      requireTorch platform
      result.output.validateAbi
      deckRefuse (¬ result.output.finite) "tensor.non_finite"
      deckRefuse (¬ result.output.matches reference) "result.tensor_abi"
      match result.provenance with
      | .object _ => do
          let _ ← result.provenance.visit 0 0
          .ok result
      | _ => .error (.deckContract "provenance.type")

end LatentDeck.CodecHost
