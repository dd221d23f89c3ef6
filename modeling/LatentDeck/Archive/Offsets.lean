import LatentDeck.Archive.Safetensors

/-!
# Names and offsets of tensors

The tensors of a Safetensors header come in the order of their names, and the offset check sorts them
by their starts. It accepts what can be ordered to tile the data area, unless an empty tensor has a
name behind that of another tensor with its start, or a tensor is refused for its rank, its dtype or
the size of a product of its axes.
-/

namespace LatentDeck.Archive

open Checked Fallible Tiling

/-- The range of a descriptor in the data area, as an offset and a length. -/
def RawTensorDescriptor.range (raw : RawTensorDescriptor) : Nat × Nat :=
  (raw.dataOffsets.1, raw.dataOffsets.2 - raw.dataOffsets.1)

/-- The width of a dtype; that of one which is no storage dtype is given from outside. -/
def dtypeWidth (foreign : String → Nat) (dtype : String) : Nat :=
  ((storageDType dtype).map SafetensorDType.byteWidth).getD (foreign dtype)

/-- The range is as long as the elements are, in numbers without a bound. -/
def RawTensorDescriptor.Exact (raw : RawTensorDescriptor) (foreign : String → Nat) : Prop :=
  raw.dataOffsets.2 = raw.dataOffsets.1 + raw.shape.prod * dtypeWidth foreign raw.dtype

/-- A product of the first axes, or the byte length, overflows. -/
def RawTensorDescriptor.Overflows (raw : RawTensorDescriptor) (foreign : String → Nat) : Prop :=
  (∃ count, 2 ^ 64 ≤ (raw.shape.take count).prod) ∨
    2 ^ 64 ≤ raw.shape.prod * dtypeWidth foreign raw.dtype

/-- What the common check refuses for another reason than the length of the range. -/
def RawTensorDescriptor.Refused (raw : RawTensorDescriptor) (limits : ValidationLimits)
    (foreign : String → Nat) : Prop :=
  (raw.shape = [] ∨ limits.tensorRank.val < raw.shape.length) ∨ storageDType raw.dtype = none ∨
    raw.Overflows foreign

/-- The common check accepts the exact tensors that it does not refuse for another reason. -/
theorem validateCommon_iff (name : String) (raw : RawTensorDescriptor) (limits : ValidationLimits)
    (foreign : String → Nat) : (∃ tensor, validateCommon name raw limits = .ok tensor) ↔
      raw.Exact foreign ∧ ¬ raw.Refused limits foreign := by
  unfold validateCommon RawTensorDescriptor.Refused RawTensorDescriptor.Exact
    RawTensorDescriptor.Overflows
  rw [not_or, not_or, not_or]
  cases stored : storageDType raw.dtype with
  | none =>
    refine iff_of_false ?_ fun accepted => accepted.2.2.1 rfl
    intro accepted
    obtain ⟨tensor, accepted⟩ := accepted
    exact nomatch ((check_eq_ok ..).mp accepted).2
  | some dtype =>
    have width : dtypeWidth foreign raw.dtype = dtype.byteWidth := by
      rw [dtypeWidth, stored]
      rfl
    rw [width]
    constructor
    · intro accepted
      obtain ⟨tensor, accepted⟩ := accepted
      rw [check_eq_ok, refuseWhen_eq_ok] at accepted
      obtain ⟨shaped, rest⟩ := accepted
      change (orError (checkedProduct raw.shape) _ >>= _) = _ at rest
      obtain ⟨elements, counted, rest⟩ := ok_of_bind rest
      obtain ⟨product, bounds⟩ := (checkedProduct_eq_some ..).mp ((orError_eq_ok ..).mp counted)
      obtain ⟨byteLength, multiplied, rest⟩ := ok_of_bind rest
      obtain ⟨total, bound⟩ := (checkedMul_eq_some ..).mp ((orError_eq_ok ..).mp multiplied)
      rw [check_eq_ok, refuseWhen_eq_ok, check_eq_ok, refuseWhen_eq_ok, not_not] at rest
      obtain ⟨ordered, described, _⟩ := rest
      rw [product] at total bound
      refine ⟨by omega, not_or.mp shaped, Option.some_ne_none dtype, ?_⟩
      rw [not_or, not_exists]
      exact ⟨fun count => Nat.not_le.mpr (bounds count), Nat.not_le.mpr bound⟩
    · intro accepted
      obtain ⟨exact, shaped, _, fits⟩ := accepted
      rw [not_or, not_exists] at fits
      have counted : checkedProduct raw.shape = some raw.shape.prod :=
        (checkedProduct_eq_some ..).mpr ⟨rfl, fun count => Nat.lt_of_not_le (fits.1 count)⟩
      have multiplied : checkedMul raw.shape.prod dtype.byteWidth =
          some (raw.shape.prod * dtype.byteWidth) :=
        (checkedMul_eq_some ..).mpr ⟨rfl, Nat.lt_of_not_le fits.2⟩
      refine ⟨⟨name, dtype, raw.shape, raw.dataOffsets, raw.shape.prod * dtype.byteWidth⟩, ?_⟩
      rw [check_eq_ok, refuseWhen_eq_ok, counted]
      refine ⟨not_or.mpr shaped, ?_⟩
      show (orError (checkedMul _ _) _ >>= _) = _
      rw [multiplied]
      show (refuseWhen _ _ >>= _) = _
      rw [check_eq_ok, refuseWhen_eq_ok, check_eq_ok, refuseWhen_eq_ok]
      exact ⟨by omega, by omega, rfl⟩

variable {limits : ValidationLimits}

/-- A checked descriptor has the range of the header. -/
theorem validateCommon_range {name : String} {raw : RawTensorDescriptor}
    {tensor : SafetensorTensorDescriptor} (accepted : validateCommon name raw limits = .ok tensor) :
    tensor.range = raw.range := by
  unfold validateCommon at accepted
  rw [check_eq_ok, bind_eq_ok] at accepted
  obtain ⟨_, dtype, _, rest⟩ := accepted
  obtain ⟨elements, _, rest⟩ := ok_of_bind rest
  obtain ⟨byteLength, _, rest⟩ := ok_of_bind rest
  rw [check_eq_ok, check_eq_ok, refuseWhen_eq_ok, refuseWhen_eq_ok, not_not] at rest
  obtain ⟨_, described, made⟩ := rest
  cases made
  rw [SafetensorTensorDescriptor.range, RawTensorDescriptor.range, described]

/-- The checks of the tensors in `preflight_safetensors`, by name and then by offset. -/
def checkTensors (raw : SortedMap String RawTensorDescriptor) (limits : ValidationLimits)
    (dataBytes : Nat) (entryName : String) : Except CartridgeError Unit := do
  let tensors ← raw.traverse fun name raw => validateCommon name raw limits
  validateGenericOffsets tensors.values dataBytes entryName

/-- The ranges of a header, in the order of the names. -/
def headerRanges (raw : SortedMap String RawTensorDescriptor) : List (Nat × Nat) :=
  raw.values.map RawTensorDescriptor.range

/-- The checks accept exact tensors of which none is refused and that cover the data area. -/
theorem checkTensors_eq_ok (raw : SortedMap String RawTensorDescriptor) (limits : ValidationLimits)
    (foreign : String → Nat) (dataBytes : Nat) (entryName : String) :
    checkTensors raw limits dataBytes entryName = .ok () ↔
      (∀ tensor ∈ raw.values, tensor.Exact foreign ∧ ¬ tensor.Refused limits foreign) ∧
        Covers 0 (headerRanges raw) dataBytes := by
  have each : (∀ entry ∈ raw.entries,
      ∃ tensor, validateCommon entry.1 entry.2 limits = .ok tensor) ↔
      ∀ tensor ∈ raw.values, tensor.Exact foreign ∧ ¬ tensor.Refused limits foreign := by
    rw [SortedMap.values, List.forall_mem_map]
    exact forall₂_congr fun entry _ => validateCommon_iff entry.1 entry.2 limits foreign
  have ranges : ∀ tensors : SortedMap String SafetensorTensorDescriptor,
      (raw.traverse fun name raw => validateCommon name raw limits) = .ok tensors →
        tensors.values.map SafetensorTensorDescriptor.range = headerRanges raw ∧
          ∀ tensor ∈ tensors.values,
            tensor.dataOffsets.2 = tensor.dataOffsets.1 + tensor.byteLength := by
    intro tensors traversed
    constructor
    · exact SortedMap.values_of_traverse raw _ _ traversed _ _
        fun _ _ _ accepted => validateCommon_range accepted
    · intro tensor member
      obtain ⟨entry, inside, rfl⟩ := List.mem_map.mp member
      exact ((traverse_validateCommon _ _ _ traversed).2 entry inside).2.stop
  rw [checkTensors, bind_eq_ok, ← each]
  constructor
  · intro accepted
    obtain ⟨tensors, traversed, offsets⟩ := accepted
    obtain ⟨same, described⟩ := ranges tensors traversed
    rw [validateGenericOffsets_eq_ok _ _ _ described, same] at offsets
    exact ⟨SortedMap.succeeds_of_traverse raw _ _ traversed, offsets⟩
  · intro accepted
    obtain ⟨tensors, traversed⟩ := SortedMap.traverse_succeeds raw
      (fun name raw => validateCommon name raw limits) accepted.1
    obtain ⟨same, described⟩ := ranges tensors traversed
    refine ⟨tensors, traversed, ?_⟩
    rw [validateGenericOffsets_eq_ok _ _ _ described, same]
    exact accepted.2

/-- The ranges of a header are as long as their elements are, and can be ordered to tile the data
area. -/
def WellTiled (raw : SortedMap String RawTensorDescriptor) (foreign : String → Nat)
    (dataBytes : Nat) : Prop :=
  (∀ tensor ∈ raw.values, tensor.Exact foreign) ∧ Tileable 0 (headerRanges raw) dataBytes

/-- An empty tensor has the start of one that is not empty, or a tensor is refused for its rank,
its dtype or the size of a product. -/
def Troubled (raw : SortedMap String RawTensorDescriptor) (limits : ValidationLimits)
    (foreign : String → Nat) : Prop :=
  Contested (headerRanges raw) ∨ ∃ tensor ∈ raw.values, tensor.Refused limits foreign

variable {raw : SortedMap String RawTensorDescriptor} {foreign : String → Nat}

theorem wellTiled_rename {renamed : SortedMap String RawTensorDescriptor}
    (same : renamed.values.Perm raw.values) (foreign : String → Nat) (dataBytes : Nat) :
    WellTiled renamed foreign dataBytes ↔ WellTiled raw foreign dataBytes := by
  have ranges : (headerRanges renamed).Perm (headerRanges raw) := same.map _
  unfold WellTiled
  simp only [same.mem_iff, tileable_perm ranges]

theorem troubled_rename {renamed : SortedMap String RawTensorDescriptor}
    (same : renamed.values.Perm raw.values) :
    Troubled renamed limits foreign ↔ Troubled raw limits foreign := by
  have ranges : (headerRanges renamed).Perm (headerRanges raw) := same.map _
  unfold Troubled
  simp only [same.mem_iff, contested_perm ranges]

theorem checkTensors_of_clear {dataBytes : Nat} (entryName : String)
    (tiled : WellTiled raw foreign dataBytes) (clear : ¬ Troubled raw limits foreign) :
    checkTensors raw limits dataBytes entryName = .ok () := by
  obtain ⟨uncontested, none⟩ := not_or.mp clear
  refine (checkTensors_eq_ok raw limits foreign dataBytes entryName).mpr ⟨?_, ?_⟩
  · exact fun tensor member =>
      ⟨tiled.1 tensor member, fun refused => none ⟨tensor, member, refused⟩⟩
  · exact covers_of_tileable tiled.2 uncontested

theorem wellTiled_of_checkTensors {dataBytes : Nat} {entryName : String} (foreign : String → Nat)
    (accepted : checkTensors raw limits dataBytes entryName = .ok ()) :
    WellTiled raw foreign dataBytes := by
  have checked := (checkTensors_eq_ok raw limits foreign dataBytes entryName).mp accepted
  exact ⟨fun tensor member => (checked.1 tensor member).1, ((covers_iff ..).mp checked.2).1⟩

/-- A header with its descriptors in the reverse order under the same names. -/
def reverseNames (raw : SortedMap String RawTensorDescriptor) :
    SortedMap String RawTensorDescriptor :=
  raw.withValues raw.values.reverse
    (by rw [List.length_reverse, SortedMap.values, List.length_map, SortedMap.length])

theorem headerRanges_reverseNames (raw : SortedMap String RawTensorDescriptor) :
    headerRanges (reverseNames raw) = (headerRanges raw).reverse := by
  rw [headerRanges, reverseNames, SortedMap.values_withValues, List.map_reverse, headerRanges]

/-- A header with a tensor of one element and an empty one behind it, both from the start. -/
def shadowedHeader : SortedMap String RawTensorDescriptor where
  entries := [("a", ⟨"F16", [1], (0, 2)⟩), ("z", ⟨"F16", [0], (0, 0)⟩)]
  sorted := by decide

/-- A header with an empty tensor behind that of one element, whose first axes overflow. -/
def overflowingHeader : SortedMap String RawTensorDescriptor where
  entries := [("a", ⟨"F16", [1], (0, 2)⟩), ("z", ⟨"F16", [2 ^ 32, 2 ^ 32, 0], (2, 2)⟩)]
  sorted := by decide

end LatentDeck.Archive
