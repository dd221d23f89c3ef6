import LatentDeck.Host.DeckRuntime
import LatentDeck.Packages.Activation

/-!
# Load commands on the wire

What the host checks of a load request, against what `DeckLoad::validate` asks.
-/

namespace LatentDeck.Host

open Fallible Packages
open DeckUi (DeckOperatorDescriptor DeckOperatorControlDescriptor SameElements)
open Control (Uuid Command ControlBinding ControlValue DeckLoad DeckRuntimeBinding LimitedVec
  RoleBinding SourceBinding refuseIf_eq_ok uniqueBy_eq_ok)

variable {char : Char}

theorem ascii_of_identifierChar
    (allowed : (isAlphanumeric char || char == '.' || char == '_' || char == ':' ||
      char == '-') = true) : char.toNat < 128 := by
  unfold isAlphanumeric isLower isUpper isDigit at allowed
  simp only [Bool.or_eq_true, Bool.and_eq_true, decide_eq_true_eq, beq_iff_eq, Char.le_def,
    UInt32.le_iff_toNat_le] at allowed
  rcases allowed with (((((lower | upper) | digit) | dot) | low) | colon) | hyphen
  · exact Nat.lt_of_le_of_lt lower.2 (by decide)
  · exact Nat.lt_of_le_of_lt upper.2 (by decide)
  · exact Nat.lt_of_le_of_lt digit.2 (by decide)
  · rw [dot]; decide
  · rw [low]; decide
  · rw [colon]; decide
  · rw [hyphen]; decide

theorem identifierChar_of_nameChar (allowed : (isAlphanumeric char || char == '_') = true) :
    (isAlphanumeric char || char == '.' || char == '_' || char == ':' || char == '-') = true := by
  simp only [Bool.or_eq_true] at allowed ⊢
  exact Or.inl (Or.inl (allowed.imp Or.inl id))

variable {value : String}

theorem boundedText_of {field : String} {maximum : Nat} (nonempty : value ≠ "")
    (bounded : value.utf8ByteSize ≤ maximum) (clean : '\x00' ∉ value.toList) :
    Control.boundedText value field maximum = .ok () := by
  unfold Control.boundedText
  rw [refuseIf_eq_ok]
  simp only [String.isEmpty_iff, List.contains_eq_mem, decide_eq_true_eq, not_or]
  exact ⟨nonempty, Nat.not_lt.mpr bounded, clean⟩

theorem identifier_admitted {field : String} (valid : DeckUi.identifier value = .ok ()) :
    Control.identifier value field = .ok () := by
  obtain ⟨nonempty, bounded, chars⟩ := (DeckUi.identifier_eq_ok value).mp valid
  have clean : '\x00' ∉ value.toList := fun zero => absurd (chars _ zero) (by decide)
  unfold Control.identifier
  rw [check_eq_ok, refuseIf_eq_ok, not_not]
  exact ⟨boundedText_of nonempty bounded clean,
    Text.all_bytes_of_chars (fun char => ascii_of_identifierChar) (by decide +kernel) chars⟩

theorem ascii_of_versionChar (allowed : SemVer.isVersionChar char = true) : char.toNat < 128 := by
  unfold SemVer.isVersionChar SemVer.isIdentifierChar Char.isAlphanum Char.isAlpha Char.isUpper
    Char.isLower Char.isDigit at allowed
  simp only [Bool.or_eq_true, Bool.and_eq_true, decide_eq_true_eq, beq_iff_eq,
    UInt32.le_iff_toNat_le, ge_iff_le] at allowed
  rcases allowed with ((((upper | lower) | digit) | hyphen) | dot) | plus
  · exact Nat.lt_of_le_of_lt upper.2 (by decide)
  · exact Nat.lt_of_le_of_lt lower.2 (by decide)
  · exact Nat.lt_of_le_of_lt digit.2 (by decide)
  · rw [hyphen]; decide
  · rw [dot]; decide
  · rw [plus]; decide

variable {crates : Crates}

/-- A semantic version passes on the wire within 64 bytes. -/
theorem version_admitted_iff (semver : Semver crates) (valid : DeckUi.version crates value = .ok ())
    (field : String) : Control.version value field = .ok () ↔ value.utf8ByteSize ≤ 64 := by
  unfold DeckUi.version DeckUi.invalidOperatorWhen at valid
  rw [refuseWhen_eq_ok, Option.isNone_iff_eq_none, ← ne_eq, ← Option.isSome_iff_ne_none,
    semver.parseVersion_isSome] at valid
  obtain ⟨parsed, read⟩ := Option.isSome_iff_exists.mp valid
  obtain ⟨nonempty, chars⟩ := SemVer.chars_of_parse read
  have clean : '\x00' ∉ value.toList := fun zero => absurd (chars _ zero) (by decide)
  have present : value ≠ "" := by
    intro empty
    rw [empty] at nonempty
    exact nonempty rfl
  unfold Control.version
  rw [check_eq_ok, refuseIf_eq_ok, not_not]
  constructor
  · rintro ⟨bounded, -⟩
    unfold Control.boundedText at bounded
    rw [refuseIf_eq_ok, not_or, not_or] at bounded
    exact Nat.not_lt.mp bounded.2.1
  · exact fun short => ⟨boundedText_of present short clean,
      Text.all_bytes_of_chars (fun char => ascii_of_versionChar) (by decide +kernel) chars⟩

theorem sha256_admitted (valid : isSha256 value = true) (field : String) :
    Control.sha256 value field = .ok () := by
  unfold isSha256 at valid
  rw [Bool.and_eq_true, beq_iff_eq, List.all_eq_true] at valid
  have ascii : ∀ char, Packages.isLowerHex char = true → char.toNat < 128 := by
    intro char allowed
    apply ascii_of_identifierChar
    unfold isAlphanumeric
    unfold Packages.isLowerHex at allowed
    unfold isLower
    simp only [Bool.or_eq_true, Bool.and_eq_true, decide_eq_true_eq] at allowed ⊢
    cases allowed with
    | inl digit => exact Or.inl (Or.inl (Or.inl (Or.inl (Or.inr digit))))
    | inr letter =>
      have below : char ≤ 'z' := Char.le_trans letter.2 (by decide)
      exact Or.inl (Or.inl (Or.inl (Or.inl (Or.inl (Or.inl ⟨letter.1, below⟩)))))
  unfold Control.sha256
  rw [refuseIf_eq_ok, not_or, not_not, not_not]
  exact ⟨valid.1, Text.all_bytes_of_chars ascii (by decide +kernel) valid.2⟩

theorem pythonIdentifier_admitted {name : List Char} (valid : DeckUi.pythonIdentifier name = true) :
    Control.pythonIdentifier (Text.asciiBytes name) = true ∧
      ∀ char ∈ name, (isAlphanumeric char || char == '_') = true := by
  have agree : ∀ code : Fin 128,
      ((isLower (Char.ofNat code.val) || isUpper (Char.ofNat code.val) ||
          Char.ofNat code.val == '_') = true →
        (Text.isAsciiAlphabetic (UInt8.ofNat code.val) || UInt8.ofNat code.val == 0x5F) = true) ∧
      ((isAlphanumeric (Char.ofNat code.val) || Char.ofNat code.val == '_') = true →
        (Text.isAsciiAlphanumeric (UInt8.ofNat code.val) || UInt8.ofNat code.val == 0x5F) = true) := by
    decide +kernel
  have ascii : ∀ char, (isAlphanumeric char || char == '_') = true → char.toNat < 128 :=
    fun char allowed => ascii_of_identifierChar (identifierChar_of_nameChar allowed)
  cases name with
  | nil => exact Bool.noConfusion valid
  | cons first rest =>
    unfold DeckUi.pythonIdentifier at valid
    dsimp only at valid
    rw [Bool.and_eq_true, List.all_eq_true] at valid
    have wide : (isAlphanumeric first || first == '_') = true := by
      have head := valid.1
      unfold isAlphanumeric
      simp only [Bool.or_eq_true] at head ⊢
      exact head.imp Or.inl id
    have chars : ∀ char ∈ first :: rest, (isAlphanumeric char || char == '_') = true :=
      List.forall_mem_cons.mpr ⟨wide, valid.2⟩
    have start := (agree ⟨first.toNat, ascii first wide⟩).1 (by
      rw [Char.ofNat_toNat]
      exact valid.1)
    have later : (Text.asciiBytes rest).all
        (fun byte => Text.isAsciiAlphanumeric byte || byte == 0x5F) = true :=
      Text.all_asciiBytes ascii (fun code => (agree code).2) valid.2
    exact ⟨Bool.and_eq_true_iff.mpr ⟨start, later⟩, chars⟩

/-- What the host takes for a finite number is one on the wire. -/
theorem isFinite_admitted (value : UInt64) :
    Control.Float64Bits.isFinite value = Binary64.isFinite value := by
  have low : (0x7ff : UInt64).toNat = 2 ^ 11 - 1 := by decide
  have field : ((value >>> 52) &&& 0x7ff).toNat = Binary64.exponent value := by
    rw [UInt64.toNat_and, UInt64.toNat_shiftRight, low, Nat.and_two_pow_sub_one_eq_mod,
      Nat.shiftRight_eq_div_pow]
    rfl
  unfold Control.Float64Bits.isFinite Binary64.isFinite
  rw [← field]
  by_cases full : (value >>> 52) &&& 0x7ff = 0x7ff
  · rw [full]
    decide
  · have apart : ((value >>> 52) &&& 0x7ff).toNat ≠ 2047 := fun same =>
      full (UInt64.toNat_inj.mp same)
    rw [bne_iff_ne.mpr full, bne_iff_ne.mpr apart]

theorem splitEntrypoint_parts {module callable : List Char}
    (parted : splitEntrypoint value = some (module, callable)) :
    value.toList = module ++ ':' :: callable ∧ ':' ∉ module := by
  unfold splitEntrypoint at parted
  by_cases marked : ':' ∈ value.toList
  · rw [if_pos marked, Option.some.injEq, Prod.mk.injEq] at parted
    rw [← parted.1, ← parted.2]
    exact ⟨Text.cut_at_mark marked, Text.mark_notMem_takeWhile ':' value.toList⟩
  · rw [if_neg marked] at parted
    exact nomatch parted

theorem asciiByte_mem (ascii : ∀ char ∈ value.toList, char.toNat < 128) {chars : List Char}
    (part : ∀ char ∈ chars, char ∈ value.toList) {mark : Char} (markAscii : mark.toNat < 128)
    (within : UInt8.ofNat mark.toNat ∈ Text.asciiBytes chars) : mark ∈ chars := by
  obtain ⟨char, among, same⟩ := List.mem_map.mp within
  exact (Text.asciiByte_inj (ascii char (part char among)) markAscii).mp same ▸ among

section Entrypoint

variable {value : String} {module callable : List Char}
  (shape : value.toList = module ++ ':' :: callable)
  (ascii : ∀ char ∈ value.toList, char.toNat < 128)
include shape ascii

theorem entrypoint_bytes :
    Text.utf8Bytes value = Text.asciiBytes module ++ 0x3A :: Text.asciiBytes callable := by
  rw [Text.utf8Bytes_of_ascii ascii, shape]
  exact List.map_append

/-- An entrypoint is cut at the same colon as a text and as bytes. -/
theorem entrypoint_cut (single : ':' ∉ module) :
    (Text.utf8Bytes value).takeWhile (· != 0x3A) = Text.asciiBytes module ∧
      ((Text.utf8Bytes value).dropWhile (· != 0x3A)).drop 1 = Text.asciiBytes callable := by
  have inside : ∀ char ∈ module, char ∈ value.toList := by
    intro char within
    rw [shape]
    exact List.mem_append_left _ within
  have kept : ∀ byte ∈ Text.asciiBytes module, (byte != 0x3A) = true := by
    intro byte within
    rw [bne_iff_ne]
    intro colon
    rw [colon] at within
    exact single (asciiByte_mem ascii inside (by decide) within)
  rw [entrypoint_bytes shape ascii, List.takeWhile_append_of_pos kept,
    List.dropWhile_append_of_pos kept]
  simp

end Entrypoint

/-- An entrypoint of the host passes on the wire within 512 bytes. -/
theorem pythonEntrypoint_admitted (valid : DeckUi.pythonEntrypoint value = .ok ())
    (bounded : value.utf8ByteSize ≤ 512) (field : String) :
    Control.pythonEntrypoint value field = .ok () := by
  unfold DeckUi.pythonEntrypoint DeckUi.invalidOperatorWhen at valid
  rw [bind_eq_ok] at valid
  obtain ⟨⟨module, callable⟩, parted, clean⟩ := valid
  rw [orError_eq_ok] at parted
  dsimp only at clean
  rw [refuseWhen_eq_ok] at clean
  simp only [not_or, not_not] at clean
  obtain ⟨single, moduleFull, callableFull, modules, called⟩ := clean
  obtain ⟨shape, leading⟩ := splitEntrypoint_parts parted
  have named := fun part isPart =>
    pythonIdentifier_admitted (List.all_eq_true.mp modules part isPart)
  have last := pythonIdentifier_admitted called
  have chars : ∀ char ∈ value.toList, (isAlphanumeric char || char == '.' || char == '_' ||
      char == ':' || char == '-') = true := by
    intro char within
    rw [shape, List.mem_append, List.mem_cons] at within
    rcases within with before | colon | after
    · cases Text.separates_or_mem_part (· == '.') before with
      | inl dot =>
        simp only [Bool.or_eq_true]
        exact Or.inl (Or.inl (Or.inl (Or.inr dot)))
      | inr inside =>
        obtain ⟨part, isPart, among⟩ := inside
        exact identifierChar_of_nameChar ((named part isPart).2 char among)
    · rw [colon]
      decide
    · exact identifierChar_of_nameChar (last.2 char after)
  have ascii : ∀ char ∈ value.toList, char.toNat < 128 := fun char within =>
    ascii_of_identifierChar (chars char within)
  have inModule : ∀ char ∈ module, char ∈ value.toList := by
    intro char within
    rw [shape]
    exact List.mem_append_left _ within
  have inCallable : ∀ char ∈ callable, char ∈ value.toList := by
    intro char within
    rw [shape]
    exact List.mem_append_right _ (List.mem_cons_of_mem _ within)
  have parts : (Text.asciiBytes module).splitOn 0x2E =
      (module.splitOn '.').map Text.asciiBytes := by
    rw [List.splitOn_eq_splitOnP, List.splitOn_eq_splitOnP]
    apply Text.splitOnP_map
    intro char within
    rw [Bool.eq_iff_iff, beq_iff_eq, beq_iff_eq]
    exact Text.asciiByte_inj (ascii char (inModule char within)) (show '.'.toNat < 128 by decide)
  have present : value ≠ "" := by
    intro empty
    rw [empty] at shape
    exact absurd shape (by simp)
  have noZero : '\x00' ∉ value.toList := fun zero => absurd (chars _ zero) (by decide)
  have cut := entrypoint_cut shape ascii leading
  unfold Control.pythonEntrypoint
  dsimp only
  rw [check_eq_ok, check_eq_ok, refuseIf_eq_ok, refuseIf_eq_ok, cut.1, cut.2, parts]
  have marked : (Text.utf8Bytes value).contains 0x3A = true := by
    rw [entrypoint_bytes shape ascii]
    simp
  have once : 0x3A ∉ Text.asciiBytes callable := fun colon =>
    single (asciiByte_mem ascii inCallable (by decide) colon)
  have admitted : ((module.splitOn '.').map Text.asciiBytes).all Control.pythonIdentifier = true := by
    rw [List.all_map, List.all_eq_true]
    exact fun part isPart => (named part isPart).1
  simp only [not_or, not_not, List.isEmpty_iff, List.contains_eq_mem, decide_eq_true_eq]
  exact ⟨boundedText_of present bounded noZero, by simpa using marked, once,
    fun empty => moduleFull (List.map_eq_nil_iff.mp empty),
    fun empty => callableFull (List.map_eq_nil_iff.mp empty), admitted, last.1⟩

variable {descriptor : DeckOperatorControlDescriptor}

/-- A value that a valid descriptor accepts passes on the wire. -/
theorem controlValue_admitted {value : ControlValue}
    (valid : descriptor.validateControlDescriptor = .ok ()) (accepts : descriptor.accepts value) :
    value.validate = .ok () := by
  have texts : ∀ text : String, DeckUi.boundedText text = true →
      Control.boundedText text "control.value" Control.maxTextBytes = .ok () := by
    intro text bounded
    unfold DeckUi.boundedText at bounded
    simp only [Bool.and_eq_true, bne_iff_ne, decide_eq_true_eq, Bool.not_eq_true',
      List.contains_eq_mem, decide_eq_false_iff_not] at bounded
    exact boundedText_of bounded.1.1 bounded.1.2 bounded.2
  cases value with
  | boolean value => rfl
  | integer value => rfl
  | number value =>
    unfold DeckOperatorControlDescriptor.accepts at accepts
    simp only [Bool.and_eq_true] at accepts
    show Control.refuseIf (¬ Control.Float64Bits.isFinite value) _ = .ok ()
    rw [refuseIf_eq_ok, isFinite_admitted, not_not]
    exact accepts.1.2
  | text value =>
    apply texts
    unfold DeckOperatorControlDescriptor.accepts at accepts
    rw [Bool.or_eq_true, Bool.and_eq_true, Bool.and_eq_true, beq_iff_eq, beq_iff_eq] at accepts
    rcases accepts with ⟨enumerated, listed⟩ | ⟨-, bounded⟩
    · unfold DeckOperatorControlDescriptor.validateControlDescriptor
        DeckUi.invalidOperatorWhen at valid
      rw [check_eq_ok, enumerated] at valid
      dsimp only at valid
      rw [bind_eq_ok] at valid
      obtain ⟨-, default, -, chosen⟩ := valid
      rw [bind_eq_ok] at chosen
      obtain ⟨options, declared, checks⟩ := chosen
      rw [orError_eq_ok] at declared
      rw [check_eq_ok, check_eq_ok, refuseWhen_eq_ok, refuseWhen_eq_ok] at checks
      simp only [not_or, not_not, List.all_eq_true] at checks
      rw [declared] at listed
      have among : value ∈ options := by simpa using listed
      exact checks.2.1.2.1 value among
    · exact bounded

variable {operator : DeckOperatorDescriptor}

theorem descriptorOf_eq_some {name : String}
    (found : descriptorOf operator name = some descriptor) :
    descriptor ∈ operator.controls ∧ descriptor.controlId = name := by
  have named := List.find?_some found
  have among := List.mem_of_find?_eq_some found
  exact ⟨List.mem_reverse.mp among, eq_of_beq named⟩

/-- Controls that the host takes pass on the wire, and their names are new and distinct. -/
theorem controls_admitted {seen : List String} {controls : List ControlBinding}
    (declared : ∀ descriptor ∈ operator.controls, descriptor.validateControlDescriptor = .ok ())
    (valid : checkControls operator seen controls = .ok ()) :
    (∀ control ∈ controls, control.validate = .ok () ∧ control.name ∉ seen) ∧
      (controls.map ControlBinding.name).Nodup := by
  induction controls generalizing seen with
  | nil => exact ⟨fun control within => absurd within List.not_mem_nil, List.nodup_nil⟩
  | cons control controls ih =>
    unfold checkControls at valid
    rw [check_eq_ok, refuseWhen_eq_ok, bind_eq_ok] at valid
    obtain ⟨fresh, descriptor, found, rest⟩ := valid
    rw [orError_eq_ok] at found
    rw [check_eq_ok] at rest
    obtain ⟨accepted, later⟩ := rest
    obtain ⟨among, named⟩ := descriptorOf_eq_some found
    obtain ⟨others, distinct⟩ := ih later
    have descriptorValid := declared descriptor among
    have accepts : descriptor.accepts control.value = true := by
      unfold described DeckOperatorControlDescriptor.validateControlBinding at accepted
      rw [mapError_eq_ok, refuseWhen_eq_ok, not_not] at accepted
      exact accepted
    have name : Control.identifier control.name "control.name" = .ok () := by
      unfold DeckOperatorControlDescriptor.validateControlDescriptor at descriptorValid
      rw [check_eq_ok] at descriptorValid
      exact identifier_admitted (named ▸ descriptorValid.1)
    have first : control.validate = .ok () := by
      unfold ControlBinding.validate
      rw [check_eq_ok]
      exact ⟨name, controlValue_admitted descriptorValid accepts⟩
    constructor
    · rw [List.forall_mem_cons]
      exact ⟨⟨first, fresh⟩, fun other within =>
        ⟨(others other within).1, fun old => (others other within).2 (List.mem_cons_of_mem _ old)⟩⟩
    · rw [List.map_cons, List.nodup_cons]
      refine ⟨fun again => ?_, distinct⟩
      obtain ⟨other, within, same⟩ := List.mem_map.mp again
      exact (others other within).2 (same ▸ List.mem_cons_self)

theorem nodup_of_sameElements {α : Type} {values distinct : List α} (nodup : distinct.Nodup)
    (same : SameElements values distinct) (count : values.length = distinct.length) :
    values.Nodup := by
  have within := List.subperm_of_subset nodup same.2
  have permuted := within.perm_of_length_le (Nat.le_of_eq count)
  exact permuted.nodup_iff.mp nodup

/-- The physical slots of the sources are the numbers from one on. -/
theorem slots_admitted {sources : List SourceBinding} {count : Nat}
    (slots : (sources.map fun source => source.physicalSlot.toNat).insertionSort (· ≤ ·) =
      List.range' 1 count) :
    (sources.map SourceBinding.physicalSlot).Nodup ∧
      ∀ slot : Nat, (∃ source ∈ sources, source.physicalSlot.toNat = slot) ↔
        1 ≤ slot ∧ slot ≤ count := by
  have permuted := List.perm_insertionSort (· ≤ ·)
    (sources.map fun source => source.physicalSlot.toNat)
  rw [slots] at permuted
  constructor
  · have counted : (List.range' 1 count).Nodup := List.nodup_range'
    have distinct := permuted.nodup_iff.mp counted
    have mapped : sources.map (fun source => source.physicalSlot.toNat) =
        (sources.map SourceBinding.physicalSlot).map UInt8.toNat := by
      rw [List.map_map]
      rfl
    rw [mapped] at distinct
    exact List.Nodup.of_map _ distinct
  · intro slot
    have member := permuted.mem_iff (a := slot)
    rw [List.mem_range'_1, List.mem_map] at member
    rw [← member]
    omega

/-- What `from_active_package` has checked of a runtime. -/
structure ActiveDeckRuntime.Admitted (crates : Crates) (isAbsolute : String → Bool)
    (runtime : ActiveDeckRuntime) : Prop where
  operator : DeckUi.validateRuntimeOperator crates runtime.operator = .ok ()
  deckId : runtime.binding.deckId = runtime.operator.deckId
  deckVersion : runtime.binding.deckVersion = runtime.operator.deckVersion
  operatorId : runtime.binding.operatorId = runtime.operator.operatorId
  operatorVersion : runtime.binding.operatorVersion = runtime.operator.operatorVersion
  entrypoint : runtime.binding.entrypoint = runtime.operator.entrypoint
  entrypointLength : runtime.binding.entrypoint.utf8ByteSize ≤ 512
  pythonRoot : Control.boundedText runtime.binding.pythonRoot "deck.runtime.python_root"
    Control.maxPathBytes = .ok ()
  absolute : isAbsolute runtime.binding.pythonRoot = true
  manifestSha256 : isSha256 runtime.binding.packageManifestSha256 = true
  catalogSha256 : isSha256 runtime.binding.integrityCatalogSha256 = true

theorem entrypoint_short {manifest : DeckPackManifest}
    (accepted : crates.validateDeckManifest manifest = .ok ()) :
    manifest.runtime.entrypoint.utf8ByteSize ≤ 200 := by
  have entrypoint := (DeckUi.described_of_validateDeckManifest accepted).entrypoint
  unfold validateEntrypoint invalidWhen at entrypoint
  rw [check_eq_ok, refuseWhen_eq_ok] at entrypoint
  exact Nat.not_lt.mp entrypoint.1

variable {tree : PackageTree}

/-- A canonical directory is named by a text without zero characters. -/
theorem boundedAbsolutePath_admitted {path canonical : tree.Path}
    {text : String} (found : tree.canonicalDirectory path = .ok canonical)
    (bounded : tree.boundedAbsolutePath canonical = .ok text) :
    Control.boundedText text "deck.runtime.python_root" Control.maxPathBytes = .ok () ∧
      tree.isAbsoluteText text = true := by
  unfold PackageTree.canonicalDirectory at found
  rw [bind_eq_ok] at found
  obtain ⟨resolved, canonicalized, checked⟩ := found
  rw [orError_eq_ok] at canonicalized
  rw [check_eq_ok, Except.ok.injEq] at checked
  unfold PackageTree.boundedAbsolutePath at bounded
  rw [bind_eq_ok] at bounded
  obtain ⟨spelled, named, limits⟩ := bounded
  rw [orError_eq_ok] at named
  rw [check_eq_ok, refuseWhen_eq_ok, Except.ok.injEq] at limits
  simp only [not_or, not_not, Nat.not_lt] at limits
  obtain ⟨⟨absolute, nonempty, short⟩, same⟩ := limits
  rw [checked.2] at canonicalized
  have clean := tree.canonical_text _ _ _ canonicalized named
  rw [← same]
  exact ⟨boundedText_of nonempty short clean, absolute⟩

variable {runtime : ActiveDeckRuntime}

/-- A runtime of an accepted manifest has passed the checks. -/
theorem ofDeckPackage_admitted {root : tree.Path} {manifest : DeckPackManifest}
    {receipt : TrustReceipt} (accepted : crates.validateDeckManifest manifest = .ok ())
    (made : ofDeckPackage crates tree root manifest receipt = .ok runtime) :
    runtime.Admitted crates tree.isAbsoluteText := by
  unfold ofDeckPackage at made
  rw [check_eq_ok, bind_eq_ok] at made
  obtain ⟨trusted, packageRoot, -, afterRoot⟩ := made
  rw [bind_eq_ok] at afterRoot
  obtain ⟨operator, -, afterOperator⟩ := afterRoot
  rw [check_eq_ok, check_eq_ok, bind_eq_ok] at afterOperator
  obtain ⟨valid, crosschecked, directory, found, afterDirectory⟩ := afterOperator
  rw [check_eq_ok, bind_eq_ok] at afterDirectory
  obtain ⟨-, pythonRoot, bounded, same⟩ := afterDirectory
  rw [Except.ok.injEq] at same
  unfold described at valid crosschecked
  rw [mapError_eq_ok] at valid crosschecked
  unfold DeckUi.crosscheckOperator at crosschecked
  rw [check_eq_ok, check_eq_ok, check_eq_ok, refuseWhen_eq_ok, refuseWhen_eq_ok,
    refuseWhen_eq_ok] at crosschecked
  simp only [ne_eq, not_not] at crosschecked
  obtain ⟨sameId, sameVersion, sameEntrypoint, -⟩ := crosschecked
  unfold receiptTrusted at trusted
  rw [refuseWhen_eq_ok] at trusted
  simp only [not_or, ne_eq, not_not] at trusted
  obtain ⟨-, -, -, -, manifestSha, catalogSha⟩ := trusted
  obtain ⟨rooted, absolute⟩ := boundedAbsolutePath_admitted found bounded
  have short : manifest.runtime.entrypoint.utf8ByteSize ≤ 512 :=
    (entrypoint_short accepted).trans (by decide)
  rw [← same]
  exact ⟨valid, sameId.symm, sameVersion.symm, rfl, rfl, sameEntrypoint.symm, short, rooted,
    absolute, manifestSha, catalogSha⟩

/-- The lease of a package that `resolve_active` returned. -/
def LeasedPackage.resolved {Path : Type} {store : Store} {package : PackageReference}
    (active : ActiveInstalledPackage) (root : Path)
    (resolves : Resolves crates store package active) : LeasedPackage crates Path where
  active
  root
  accepted manifest same := by
    obtain ⟨_, validated, -, pins, -, -, found, -⟩ := resolves
    exact pins.accepted crates (found.symm.trans same)

theorem fromActivePackage_admitted {leased : LeasedPackage crates tree.Path}
    (made : fromActivePackage crates tree leased = .ok runtime) :
    runtime.Admitted crates tree.isAbsoluteText := by
  unfold fromActivePackage at made
  cases package : leased.active.package.manifest with
  | codec manifest =>
    rw [package] at made
    exact nomatch made
  | deck manifest =>
    rw [package] at made
    exact ofDeckPackage_admitted (leased.accepted manifest package) made

/-- The binding of an admitted runtime passes on the wire when its versions are short. -/
theorem binding_admitted_iff (semver : Semver crates) {isAbsolute : String → Bool}
    (admitted : runtime.Admitted crates isAbsolute) :
    runtime.binding.validate isAbsolute = .ok () ↔
      runtime.binding.deckVersion.utf8ByteSize ≤ 64 ∧
        runtime.binding.operatorVersion.utf8ByteSize ≤ 64 := by
  have valid := admitted.operator
  unfold DeckUi.validateRuntimeOperator at valid
  iterate 6 rw [check_eq_ok] at valid
  obtain ⟨-, deckId, deckVersion, operatorId, operatorVersion, entrypoint, -⟩ := valid
  rw [← admitted.deckId] at deckId
  rw [← admitted.deckVersion] at deckVersion
  rw [← admitted.operatorId] at operatorId
  rw [← admitted.operatorVersion] at operatorVersion
  rw [← admitted.entrypoint] at entrypoint
  unfold DeckRuntimeBinding.validate
  iterate 8 rw [check_eq_ok]
  rw [version_admitted_iff semver deckVersion, version_admitted_iff semver operatorVersion,
    refuseIf_eq_ok, not_not]
  constructor
  · intro passes
    exact ⟨passes.2.1, passes.2.2.2.1⟩
  · intro short
    exact ⟨identifier_admitted deckId, short.1, identifier_admitted operatorId, short.2,
      admitted.pythonRoot, admitted.absolute,
      pythonEntrypoint_admitted entrypoint admitted.entrypointLength _,
      sha256_admitted admitted.manifestSha256 _, sha256_admitted admitted.catalogSha256 _⟩

/-- Whether the identifiers of a source and the digest of its archive are such. -/
def Identified (source : SourceBinding) : Prop :=
  source.sourceId.isNil = false ∧ source.cartridgeId.isNil = false ∧
    source.profileReceiptId.isNil = false ∧
    Control.sha256 source.archiveSha256 "source.archive_sha256" = .ok ()

variable {request : DeckLoadRequest}

/-- A payload of `build_load_command` holds the parts of an accepted request. -/
theorem buildLoad_eq_ok {load : DeckLoad} (built : runtime.buildLoad request = .ok load) :
    validateLoadRequest runtime.operator request = .ok () ∧
      load.deckSessionId = request.deckSessionId ∧ load.deckId = runtime.binding.deckId ∧
      load.deckVersion = runtime.binding.deckVersion ∧
      load.operatorId = runtime.binding.operatorId ∧
      load.operatorVersion = runtime.binding.operatorVersion ∧
      load.runtime = some runtime.binding ∧ load.sources.asSlice = request.sources ∧
      load.roles.asSlice = request.roles ∧ load.controls.asSlice = request.controls ∧
      load.streamGeneration = request.streamGeneration := by
  unfold ActiveDeckRuntime.buildLoad at built
  rw [check_eq_ok, bind_eq_ok] at built
  obtain ⟨valid, sources, sourcesMade, afterSources⟩ := built
  rw [bind_eq_ok] at afterSources
  obtain ⟨roles, rolesMade, afterRoles⟩ := afterSources
  rw [bind_eq_ok] at afterRoles
  obtain ⟨controls, controlsMade, same⟩ := afterRoles
  rw [Except.ok.injEq] at same
  rw [orError_eq_ok, LimitedVec.tryFromVec_eq_some] at sourcesMade rolesMade controlsMade
  rw [← same]
  exact ⟨valid, rfl, rfl, rfl, rfl, rfl, rfl, sourcesMade, rolesMade, controlsMade, rfl⟩

/-- A request that the host takes has its parts in order, whatever it says of its sources. -/
theorem request_admitted
    (operator : DeckUi.validateRuntimeOperator crates runtime.operator = .ok ())
    (valid : validateLoadRequest runtime.operator request = .ok ())
    (bounded : request.sources.length ≤ Control.maxSources) :
    request.deckSessionId.isNil = false ∧ request.streamGeneration ≠ 0 ∧ request.sources ≠ [] ∧
      (∀ source ∈ request.sources, Control.slotOutside source.physicalSlot = false) ∧
      (request.sources.map SourceBinding.physicalSlot).Nodup ∧
      (∀ role ∈ request.roles, role.validate = .ok () ∧
        request.sources.any (·.physicalSlot == role.physicalSlot) = true) ∧
      (request.roles.map RoleBinding.role).Nodup ∧
      (∀ control ∈ request.controls, control.validate = .ok ()) ∧
      (request.controls.map ControlBinding.name).Nodup := by
  unfold DeckUi.validateRuntimeOperator DeckUi.invalidOperatorWhen at operator
  iterate 9 rw [check_eq_ok] at operator
  rw [refuseWhen_eq_ok, refuseWhen_eq_ok, checkEach_eq_ok, checkEach_eq_ok] at operator
  obtain ⟨shape, -, -, -, -, -, roleIds, roleIdsDistinct, descriptors, -⟩ := operator
  simp only [not_or, not_not] at shape roleIdsDistinct
  unfold validateLoadRequest at valid
  rw [check_eq_ok] at valid
  dsimp only at valid
  rw [check_eq_ok, check_eq_ok, refuseWhen_eq_ok, refuseWhen_eq_ok, refuseWhen_eq_ok] at valid
  obtain ⟨counts, slots, roles, controls⟩ := valid
  simp only [not_or, ne_eq, not_not, Bool.not_eq_true, not_exists,
    not_and] at counts slots roles
  obtain ⟨session, generation, sourceCount, roleCount, -⟩ := counts
  obtain ⟨sameRoles, -, roleSlots⟩ := roles
  obtain ⟨distinctSlots, slotRange⟩ := slots_admitted slots
  obtain ⟨controlsValid, distinctControls⟩ := controls_admitted descriptors controls
  have inside : ∀ slot : UInt8, 1 ≤ slot.toNat → slot.toNat ≤ request.sources.length →
      Control.slotOutside slot = false := by
    intro slot positive within
    unfold Control.slotOutside
    rw [Bool.or_eq_false_iff, beq_eq_false_iff_ne, decide_eq_false_iff_not]
    refine ⟨fun zero => ?_, by omega⟩
    rw [zero] at positive
    exact absurd positive (by decide)
  have nonempty : request.sources ≠ [] := by
    intro empty
    rw [empty] at sourceCount
    exact shape.2.2.1 sourceCount.symm
  have sourcesInside : ∀ source ∈ request.sources,
      Control.slotOutside source.physicalSlot = false := by
    intro source within
    have range := (slotRange source.physicalSlot.toNat).mp ⟨source, within, rfl⟩
    exact inside _ range.1 (by omega)
  have rolesValid : ∀ role ∈ request.roles, role.validate = .ok () ∧
      request.sources.any (·.physicalSlot == role.physicalSlot) = true := by
    intro role within
    have named := roleIds role.role (sameRoles.1 _ (List.mem_map_of_mem within))
    obtain ⟨nonzero, upper⟩ := roleSlots role within
    have positive : 1 ≤ role.physicalSlot.toNat :=
      Nat.one_le_iff_ne_zero.mpr fun zero => nonzero (UInt8.toNat_inj.mp zero)
    obtain ⟨source, among, same⟩ := (slotRange role.physicalSlot.toNat).mpr
      ⟨positive, by omega⟩
    constructor
    · unfold RoleBinding.validate
      rw [check_eq_ok, refuseIf_eq_ok, inside _ positive (by omega)]
      exact ⟨identifier_admitted named, Bool.false_ne_true⟩
    · rw [List.any_eq_true]
      exact ⟨source, among, beq_iff_eq.mpr (UInt8.toNat_inj.mp same)⟩
  have distinctRoles : (request.roles.map RoleBinding.role).Nodup :=
    nodup_of_sameElements roleIdsDistinct sameRoles (by rw [List.length_map, roleCount])
  exact ⟨session, generation, nonempty, sourcesInside, distinctSlots, rolesValid, distinctRoles,
    fun control within => (controlsValid control within).1, distinctControls⟩

theorem source_admitted_iff {source : SourceBinding}
    (inside : Control.slotOutside source.physicalSlot = false) :
    source.validate = .ok () ↔ Identified source := by
  unfold SourceBinding.validate Control.nonNil Identified
  iterate 4 rw [check_eq_ok]
  rw [refuseIf_eq_ok, refuseIf_eq_ok, refuseIf_eq_ok, refuseIf_eq_ok, inside]
  simp only [Bool.not_eq_true]
  exact and_iff_right trivial

/-- A built load passes on the wire exactly when the versions of deck and operator have at most
64 bytes and every source is identified. -/
theorem buildLoad_valid_iff (semver : Semver crates) {isAbsolute : String → Bool} {load : DeckLoad}
    (admitted : runtime.Admitted crates isAbsolute) (built : runtime.buildLoad request = .ok load) :
    load.validate isAbsolute = .ok () ↔
      runtime.binding.deckVersion.utf8ByteSize ≤ 64 ∧
        runtime.binding.operatorVersion.utf8ByteSize ≤ 64 ∧
        ∀ source ∈ request.sources, Identified source := by
  obtain ⟨valid, session, deckId, deckVersion, operatorId, operatorVersion, bound, sources, roles,
    controls, generation⟩ := buildLoad_eq_ok built
  have bounded : request.sources.length ≤ Control.maxSources := sources ▸ load.sources.bounded
  obtain ⟨sessionGood, generationGood, nonempty, inside, distinctSlots, rolesGood, distinctRoles,
    controlsGood, distinctControls⟩ := request_admitted admitted.operator valid bounded
  have binding := binding_admitted_iff semver admitted
  have parts := admitted.operator
  unfold DeckUi.validateRuntimeOperator at parts
  iterate 5 rw [check_eq_ok] at parts
  obtain ⟨-, idGood, versionGood, operatorGood, operatorVersionGood, -⟩ := parts
  rw [← admitted.deckId] at idGood
  rw [← admitted.deckVersion] at versionGood
  rw [← admitted.operatorId] at operatorGood
  rw [← admitted.operatorVersion] at operatorVersionGood
  unfold DeckLoad.validate
  rw [session, deckId, deckVersion, operatorId, operatorVersion, bound, sources, roles, controls,
    generation]
  dsimp only
  iterate 14 rw [check_eq_ok]
  rw [version_admitted_iff semver versionGood, version_admitted_iff semver operatorVersionGood,
    binding, checkEach_eq_ok, checkEach_eq_ok, checkEach_eq_ok, uniqueBy_eq_ok, uniqueBy_eq_ok,
    uniqueBy_eq_ok]
  have sourcesGood : (∀ source ∈ request.sources, source.validate = .ok ()) ↔
      ∀ source ∈ request.sources, Identified source :=
    forall₂_congr fun source within => source_admitted_iff (inside source within)
  have castGood : ∀ role ∈ request.roles, (do
      role.validate
      Control.refuseIf (¬ request.sources.any (·.physicalSlot == role.physicalSlot))
        (.invalidField "deck.roles")) = .ok () := by
    intro role within
    rw [check_eq_ok, refuseIf_eq_ok, not_not]
    exact rolesGood role within
  rw [sourcesGood]
  constructor
  · intro passes
    obtain ⟨-, -, shortVersion, -, shortOperator, -, -, -, identified, -⟩ := passes
    exact ⟨shortVersion, shortOperator, identified⟩
  · intro condition
    obtain ⟨shortVersion, shortOperator, identified⟩ := condition
    unfold Control.nonNil Control.positive
    simp only [refuseIf_eq_ok, ne_eq, not_true_eq_false, or_self, not_false_eq_true, true_and,
      List.isEmpty_iff, sessionGood, Bool.false_eq_true]
    exact ⟨identifier_admitted idGood, shortVersion, identifier_admitted operatorGood,
      shortOperator, ⟨shortVersion, shortOperator⟩, nonempty, identified, distinctSlots, castGood,
      distinctRoles, controlsGood, distinctControls, generationGood⟩

/-- A load that the host admits passes on the wire exactly when the versions of deck and operator
have at most 64 bytes and every source is identified. -/
theorem admitted_load_valid_iff {crates : Crates} (semver : Semver crates)
    {leased : LeasedPackage crates tree.Path} {runtime : ActiveDeckRuntime}
    {request : DeckLoadRequest} {load : DeckLoad}
    (made : fromActivePackage crates tree leased = .ok runtime)
    (built : runtime.buildLoadCommand request = .ok (.deckLoad load)) :
    load.validate tree.isAbsoluteText = .ok () ↔
      runtime.binding.deckVersion.utf8ByteSize ≤ 64 ∧
        runtime.binding.operatorVersion.utf8ByteSize ≤ 64 ∧
        ∀ source ∈ request.sources, Identified source := by
  unfold ActiveDeckRuntime.buildLoadCommand at built
  rw [bind_eq_ok] at built
  obtain ⟨payload, payloadBuilt, wrapped⟩ := built
  have samePayload : payload = load := by
    have injected := Except.ok.inj wrapped
    exact Command.deckLoad.inj injected
  rw [samePayload] at payloadBuilt
  exact buildLoad_valid_iff semver (fromActivePackage_admitted made) payloadBuilt

def sampleOperator (operatorVersion : String) : DeckOperatorDescriptor where
  schemaVersion := "0.2.0"
  deckOperatorApi := "0.2.0"
  deckId := "com.example.deck"
  deckVersion := "1.0.0"
  operatorId := "com.example.operator"
  operatorVersion := operatorVersion
  entrypoint := "example.main:create"
  sourceCount := 1
  roleIds := ["source"]
  controls := []

/-- `operator.json` of an operator whose controls are toggles that start off. -/
def operatorBytes (operator : DeckOperatorDescriptor) : Bytes :=
  piecesBytes (["\x7b\"schema_version\":\"", operator.schemaVersion,
    "\",\"deck_operator_api\":\"", operator.deckOperatorApi,
    "\",\"deck_id\":\"", operator.deckId, "\",\"deck_version\":\"", operator.deckVersion,
    "\",\"operator_id\":\"", operator.operatorId,
    "\",\"operator_version\":\"", operator.operatorVersion,
    "\",\"entrypoint\":\"", operator.entrypoint,
    "\",\"source_count\":", toString operator.sourceCount,
    ",\"role_ids\":[\"", "\",\"".intercalate operator.roleIds, "\"],\"controls\":["] ++
    (operator.controls.map fun control =>
      ["\x7b\"control_id\":\"", control.controlId,
        "\",\"value_type\":\"boolean\",\"default\":false\x7d"]).flatten ++ ["]\x7d"])

/-- A package of which only `operator.json` is read. -/
def sampleTree (operator : DeckOperatorDescriptor) : PackageTree where
  Path := String
  join root name := root ++ "/" ++ name
  canonicalize path := if '\x00' ∈ path.toList then none else some path
  isAbsolute path := path.toList.head? == some '/'
  isDirectory path := path ∈ ["/packages/deck", "/packages/deck/python"]
  isFile path := path == "/packages/deck/operator.json"
  startsWith path root := root.toList.isPrefixOf path.toList
  length _ := some (operatorBytes operator).length
  read _ := some (operatorBytes operator)
  decodeOperator bytes := if bytes = operatorBytes operator then some operator else none
  toStr path := some path
  isAbsoluteText text := text.toList.head? == some '/'
  canonical_text path canonical text found named := by
    rw [Option.some.injEq] at named
    by_cases zero : '\x00' ∈ path.toList
    · rw [if_pos zero] at found
      exact nomatch found
    · rw [if_neg zero, Option.some.injEq] at found
      rw [← named, ← found]
      exact zero

def sampleReceipt : TrustReceipt where
  receiptVersion := "1.0.0"
  package := ⟨.deckPack, "com.example.deck", "1.0.0"⟩
  archiveSha256 := zeroSha256
  archiveByteLength := 1
  manifestSha256 := zeroSha256
  integrityCatalogSha256 := zeroSha256
  publisherName := "Example"
  publisherIdentityClaim := .selfDeclared
  installedAtUtc := "2026-01-01T00:00:00Z"
  enabled := true
  runtimeSealSha256 := none

def sampleLease :
    LeasedPackage (standardCrates (sampleDeck "3.13") (sampleCodec "3.13")) String where
  active := {
    package := ⟨⟨.deckPack, "com.example.deck", "1.0.0"⟩, .deck (sampleDeck "3.13"), sampleReceipt⟩
    expectedFiles := SortedMap.empty
    fullHashPasses := 0 }
  root := "/packages/deck"
  accepted manifest same := by
    rw [← PackageManifest.deck.inj same]
    decide +kernel

def sampleLoadRequest (sourceId : Uuid) : DeckLoadRequest where
  deckSessionId := 1
  sources := [⟨1, sourceId, 1, zeroSha256, 1, true⟩]
  roles := [⟨"source", 1⟩]
  controls := []
  seed := 0
  streamGeneration := 1

theorem sample_identified : ∀ source ∈ (sampleLoadRequest 1).sources, Identified source := by
  intro source within
  rw [List.mem_singleton.mp within]
  exact ⟨by decide, by decide, by decide, by decide +kernel⟩

def sampleRuntime (operatorVersion : String) : ActiveDeckRuntime where
  operator := sampleOperator operatorVersion
  binding := {
    deckId := "com.example.deck"
    deckVersion := "1.0.0"
    operatorId := "com.example.operator"
    operatorVersion := operatorVersion
    pythonRoot := "/packages/deck/python"
    entrypoint := "example.main:create"
    packageManifestSha256 := zeroSha256
    integrityCatalogSha256 := zeroSha256 }

def longVersion : String := "1.0.0+aaaaaaaaaaaaaaaaaaaaaaaaaaaaaaaaaaaaaaaaaaaaaaaaaaaaaaaaaaaa"

set_option maxRecDepth 4000 in
theorem sample_made : fromActivePackage _ (sampleTree (sampleOperator "1.0.0")) sampleLease =
    .ok (sampleRuntime "1.0.0") := rfl

/-- A request for an identified source passes on the wire. -/
theorem sample_load_valid :
    ∃ load, (sampleRuntime "1.0.0").buildLoadCommand (sampleLoadRequest 1) = .ok (.deckLoad load) ∧
      load.validate (sampleTree (sampleOperator "1.0.0")).isAbsoluteText = .ok () := by
  have built : ∃ load, (sampleRuntime "1.0.0").buildLoadCommand (sampleLoadRequest 1) =
      .ok (.deckLoad load) := ⟨_, rfl⟩
  obtain ⟨load, same⟩ := built
  exact ⟨load, same, (admitted_load_valid_iff (standardSemver _ _) sample_made same).mpr
    ⟨by decide +kernel, by decide +kernel, sample_identified⟩⟩

set_option maxRecDepth 4000 in
/-- A deck whose operator has a long version, and a request for a source without an identifier, are
admitted by the host and refused on the wire. -/
theorem admitted_loads_refused :
    (∃ load, fromActivePackage _ (sampleTree (sampleOperator longVersion)) sampleLease =
        .ok (sampleRuntime longVersion) ∧
      (sampleRuntime longVersion).buildLoadCommand (sampleLoadRequest 1) = .ok (.deckLoad load) ∧
      load.validate (sampleTree (sampleOperator longVersion)).isAbsoluteText =
        .error (.boundExceeded "deck.operator_version")) ∧
    ∃ load, fromActivePackage _ (sampleTree (sampleOperator "1.0.0")) sampleLease =
        .ok (sampleRuntime "1.0.0") ∧
      (sampleRuntime "1.0.0").buildLoadCommand (sampleLoadRequest 0) = .ok (.deckLoad load) ∧
      load.validate (sampleTree (sampleOperator "1.0.0")).isAbsoluteText =
        .error (.nilIdentifier "source.source_id") := by
  exact ⟨⟨_, rfl, rfl, by decide +kernel⟩, ⟨_, sample_made, rfl, by decide +kernel⟩⟩

end LatentDeck.Host
