import LatentDeck.DeckUi.Accepted
import LatentDeck.DeckUi.Runtime

/-!
# Packages that the deck runtime loads

What the checks of the extension manager leave open when the deck runtime checks the same operator
again: the number of controls, the length of the deck identifier and the names in the entrypoint.
-/

namespace LatentDeck.DeckUi

open Fallible Packages
open Control (ControlValue)

theorem identifier_eq_ok (value : String) :
    identifier value = .ok () ↔ value ≠ "" ∧ value.utf8ByteSize ≤ 128 ∧
      ∀ char ∈ value.toList,
        (isAlphanumeric char || char == '.' || char == '_' || char == ':' || char == '-') = true := by
  unfold identifier invalidOperatorWhen maxIdentifierBytes
  rw [refuseWhen_eq_ok, not_or, not_or, Nat.not_lt, not_not, List.all_eq_true]

variable {value : String}

/-- An identifier of the contract is one of the runtime. -/
theorem identifier_of_validIdentifier (valid : validIdentifier value = true) :
    identifier value = .ok () := by
  unfold validIdentifier at valid
  simp only [Bool.and_eq_true, bne_iff_ne, decide_eq_true_eq] at valid
  obtain ⟨⟨⟨nonempty, short⟩, -⟩, parts⟩ := valid
  refine (identifier_eq_ok value).mpr ⟨nonempty, short, fun char within => ?_⟩
  have spelled := Text.separates_or_mem_part isSeparator within
  cases spelled with
  | inl separates =>
    unfold isSeparator at separates
    simp only [Bool.or_eq_true] at separates ⊢
    tauto
  | inr inside =>
    obtain ⟨part, isPart, member⟩ := inside
    have named := List.all_eq_true.mp parts part isPart
    unfold validPart at named
    rw [Bool.and_eq_true, List.all_eq_true] at named
    have letter := named.2 char member
    unfold isAlphanumeric
    simp only [Bool.or_eq_true] at letter ⊢
    tauto

theorem identifier_of_local (valid : validateLocalId value = .ok ()) :
    identifier value = .ok () := by
  unfold validateLocalId invalidWhen at valid
  rw [refuseWhen_eq_ok, not_or, not_or, not_not, List.all_eq_true] at valid
  obtain ⟨nonempty, short, letters⟩ := valid
  refine (identifier_eq_ok value).mpr ⟨nonempty, by omega, fun char within => ?_⟩
  have letter := letters char within
  unfold isAlphanumeric
  simp only [Bool.or_eq_true] at letter ⊢
  tauto

/-- A reverse-DNS identifier is one of the runtime when it is short. -/
theorem identifier_of_reverseDns (valid : validateReverseDnsId value = .ok ()) :
    identifier value = .ok () ↔ value.utf8ByteSize ≤ 128 := by
  unfold validateReverseDnsId invalidWhen at valid
  rw [check_eq_ok, refuseWhen_eq_ok, refuseWhen_eq_ok, not_or, not_not] at valid
  obtain ⟨⟨-, dotted⟩, segments⟩ := valid
  rw [identifier_eq_ok]
  refine ⟨fun named => named.2.1, fun short => ⟨?_, short, fun char within => ?_⟩⟩
  · intro empty
    rw [empty] at dotted
    exact absurd dotted List.not_mem_nil
  · have spelled := Text.separates_or_mem_part (· == '.') within
    cases spelled with
    | inl separates =>
      simp only [Bool.or_eq_true]
      tauto
    | inr inside =>
      obtain ⟨part, isPart, member⟩ := inside
      have good : badSegment part = false := by
        by_contra bad
        refine segments (List.any_eq_true.mpr ⟨part, ?_, Bool.eq_true_of_not_eq_false bad⟩)
        rwa [partsOf, List.splitOn_eq_splitOnP]
      unfold badSegment at good
      simp only [Bool.or_eq_false_iff, Bool.not_eq_false'] at good
      have letter := List.all_eq_true.mp good.2 char member
      unfold isAlphanumeric
      simp only [Bool.or_eq_true] at letter ⊢
      tauto

/-- Whether a part of an entrypoint starts as a Python name does. -/
def startsName (part : List Char) : Bool := part.head?.any fun char => !isDigit char

/-- Whether every part of an entrypoint starts as a Python name does. -/
def hasPythonNames (entrypoint : String) : Bool :=
  match splitEntrypoint entrypoint with
  | none => false
  | some (module, callable) => (module.splitOn '.').all startsName && startsName callable

/-- A part of letters, digits and underscores is a Python name when it starts as one. -/
theorem pythonIdentifier_eq {part : List Char}
    (letters : ∀ char ∈ part, (isAlphanumeric char || char == '_') = true) :
    pythonIdentifier part = startsName part := by
  cases part with
  | nil => rfl
  | cons first rest =>
    have tail : rest.all (fun char => isAlphanumeric char || char == '_') = true :=
      List.all_eq_true.mpr fun char within => letters char (List.mem_cons_of_mem _ within)
    have head := letters first List.mem_cons_self
    show ((isLower first || isUpper first || first == '_') && rest.all _) = !isDigit first
    rw [tail, Bool.and_true]
    unfold isAlphanumeric at head
    by_cases digit : isDigit first = true
    · have plain : isLower first = false ∧ isUpper first = false ∧ (first == '_') = false := by
        unfold isDigit at digit
        unfold isLower isUpper
        simp only [Bool.and_eq_true, decide_eq_true_eq, Char.le_def] at digit
        simp only [Bool.and_eq_false_iff, decide_eq_false_iff_not, Char.le_def, beq_eq_false_iff_ne]
        refine ⟨Or.inl fun low => ?_, Or.inl fun low => ?_, fun same => ?_⟩
        · exact absurd (UInt32.le_trans low digit.2) (by decide)
        · exact absurd (UInt32.le_trans low digit.2) (by decide)
        · rw [same] at digit
          exact absurd digit.2 (by decide)
      rw [plain.1, plain.2.1, plain.2.2, digit]
      rfl
    · simp only [Bool.not_eq_true] at digit
      rw [digit] at head ⊢
      simpa using head

/-- The runtime takes an admitted entrypoint when its parts start as Python names do. -/
theorem pythonEntrypoint_iff {entrypoint : String}
    (admitted : validateEntrypoint entrypoint = .ok ()) :
    pythonEntrypoint entrypoint = .ok () ↔ hasPythonNames entrypoint = true := by
  unfold validateEntrypoint invalidWhen at admitted
  rw [check_eq_ok, bind_eq_ok] at admitted
  obtain ⟨-, ⟨module, callable⟩, parted, clean⟩ := admitted
  rw [orError_eq_ok] at parted
  simp only [refuseWhen_eq_ok, not_or, not_not, List.all_eq_true] at clean
  obtain ⟨moduleFull, callableFull, -, -, moduleLetters, callableLetters⟩ := clean
  have single : ':' ∉ callable := fun within => absurd (callableLetters _ within) (by decide)
  have segments : ∀ part ∈ module.splitOn '.', pythonIdentifier part = startsName part := by
    intro part isPart
    refine pythonIdentifier_eq fun char within => ?_
    rw [List.splitOn_eq_splitOnP] at isPart
    have found := Text.mem_of_mem_part isPart within
    have letter := moduleLetters char found.1
    rw [Bool.or_eq_true, found.2] at letter
    simpa using letter
  have all : (module.splitOn '.').all pythonIdentifier = (module.splitOn '.').all startsName := by
    rw [Bool.eq_iff_iff, List.all_eq_true, List.all_eq_true]
    exact forall₂_congr fun part isPart => by rw [segments part isPart]
  unfold pythonEntrypoint hasPythonNames invalidOperatorWhen
  rw [parted]
  show refuseWhen (':' ∈ callable ∨ module = [] ∨ callable = [] ∨ _ ∨ _) _ = .ok () ↔
    ((module.splitOn '.').all startsName && startsName callable) = true
  rw [refuseWhen_eq_ok, all, pythonIdentifier_eq callableLetters, Bool.and_eq_true]
  simp only [not_or, not_not]
  exact ⟨fun taken => taken.2.2.2, fun named => ⟨single, moduleFull, callableFull, named⟩⟩

@[simp]
theorem boundFails_some (test : UInt64 → Bool) (value : UInt64) :
    boundFails test (some value) = test value := rfl

@[simp]
theorem boundFails_none (test : UInt64 → Bool) : boundFails test none = false := rfl

theorem safe_bounded {value : Int} (low : -maxJsSafeInteger ≤ value)
    (high : value ≤ maxJsSafeInteger) : value.natAbs < 2 ^ 53 := by
  unfold maxJsSafeInteger at low high
  omega

theorem exactIntegerAsF64_safe {value : Int64} (low : -maxJsSafeInteger ≤ value.toInt)
    (high : value.toInt ≤ maxJsSafeInteger) :
    exactIntegerAsF64 value = .ok (Binary64.ofInt value.toInt) := by
  unfold maxJsSafeInteger at low high
  have exactly : -maxExactF64Integer ≤ value.toInt ∧ value.toInt ≤ maxExactF64Integer := by
    unfold maxExactF64Integer
    omega
  unfold exactIntegerAsF64 invalidOperatorWhen refuseWhen
  rw [if_neg (not_not_intro exactly)]
  rfl

section Control

variable {control : ControlDescriptor} {read : DeckOperatorControlDescriptor}

/-- The runtime takes a control that the contract takes, and takes its declared default for it. -/
structure Taken (read : DeckOperatorControlDescriptor) : Prop where
  descriptor : read.validateControlDescriptor = .ok ()
  binding : ∃ value, read.defaultValue = some value ∧ read.validateControlBinding value = .ok ()

variable {minimum maximum : UInt64}

/-- The bounds of a numeric control are taken when they are in order around the default. -/
theorem validateNumericBounds_of {default step : UInt64} {integral : Bool}
    (optionless : read.options = none) (low : read.minimum = some minimum)
    (high : read.maximum = some maximum) (grid : read.step = some step)
    (finite : ∀ value ∈ [minimum, maximum, step], Binary64.isFinite value = true ∧
      (integral = true → Binary64.isIntegral value = true))
    (positive : Binary64.isAtMost step 0 = false)
    (ordered : Binary64.isLess maximum minimum = false)
    (above : Binary64.isLess default minimum = false)
    (below : Binary64.isLess maximum default = false) :
    read.validateNumericBounds default integral = .ok () := by
  simp only [List.forall_mem_cons, List.not_mem_nil, IsEmpty.forall_iff, implies_true,
    and_true] at finite
  obtain ⟨⟨lowFinite, lowWhole⟩, ⟨highFinite, highWhole⟩, gridFinite, gridWhole⟩ := finite
  unfold DeckOperatorControlDescriptor.validateNumericBounds invalidOperatorWhen
    DeckOperatorControlDescriptor.crossed
  rw [refuseWhen_eq_ok, optionless, low, high, grid]
  cases integral with
  | false => simp [lowFinite, highFinite, gridFinite, positive, ordered, above, below]
  | true =>
    simp [lowFinite, highFinite, gridFinite, lowWhole rfl, highWhole rfl, gridWhole rfl, positive,
      ordered, above, below]

theorem numericValueInBounds_of {value : UInt64} (low : read.minimum = some minimum)
    (high : read.maximum = some maximum) (above : Binary64.isAtMost minimum value = true)
    (below : Binary64.isAtMost value maximum = true) : read.numericValueInBounds value = true := by
  unfold DeckOperatorControlDescriptor.numericValueInBounds
  rw [low, high]
  simp [above, below]

section

variable (named : identifier read.controlId = .ok ())

include named

theorem taken_number {default step : UInt64} {value : Json.Number}
    (valid : validControl (.number default minimum maximum step) = true)
    (kind : read.valueType = .number) (declared : read.default = .number value)
    (same : asF64 value = default) (optionless : read.options = none)
    (low : read.minimum = some minimum) (high : read.maximum = some maximum)
    (grid : read.step = some step) : Taken read := by
  unfold validControl at valid
  simp only [Bool.and_eq_true] at valid
  obtain ⟨⟨⟨⟨⟨⟨⟨finite, finiteLow⟩, finiteHigh⟩, finiteStep⟩, ordered⟩, positive⟩, above⟩, below⟩ :=
    valid
  have found : read.finiteDefault = some default := by
    unfold DeckOperatorControlDescriptor.finiteDefault
    rw [declared]
    show (if Binary64.isFinite (asF64 value) then _ else _) = _
    rw [same, if_pos finite]
  constructor
  · unfold DeckOperatorControlDescriptor.validateControlDescriptor
    rw [named, kind]
    show (orError read.finiteDefault _ >>= fun default => _) = _
    rw [found]
    show read.validateNumericBounds default false = .ok ()
    apply validateNumericBounds_of optionless low high grid
    · simp [finiteLow, finiteHigh, finiteStep]
    · exact Binary64.not_isAtMost_of_isLess positive
    · exact Binary64.isLess_asymm ordered
    · exact Binary64.not_isLess_of_isAtMost above
    · exact Binary64.not_isLess_of_isAtMost below
  · refine ⟨.number default, ?_, ?_⟩
    · unfold DeckOperatorControlDescriptor.defaultValue
      rw [kind]
      show read.finiteDefault.map ControlValue.number = _
      rw [found]
      rfl
    · have inside := numericValueInBounds_of low high above below
      unfold DeckOperatorControlDescriptor.validateControlBinding
        DeckOperatorControlDescriptor.accepts
      rw [refuseWhen_eq_ok, kind]
      simp [finite, inside]

theorem taken_integer {default minimum maximum : Int64} {step : UInt64} {value : Json.Number}
    (valid : validControl (.integer default minimum maximum step) = true)
    (kind : read.valueType = .integer) (declared : read.default = .number value)
    (same : asI64 value = some default) (optionless : read.options = none)
    (low : read.minimum = some (Binary64.ofInt minimum.toInt))
    (high : read.maximum = some (Binary64.ofInt maximum.toInt))
    (grid : read.step = some (Binary64.ofInt step.toNat)) : Taken read := by
  unfold validControl at valid
  rw [decide_eq_true_eq] at valid
  obtain ⟨ordered, positive, above, below, lowSafe, highSafe, defaultLow, defaultHigh, stepSafe⟩ :=
    valid
  have lowBits : minimum.toInt.natAbs < 2 ^ 53 :=
    safe_bounded lowSafe (ordered.le.trans highSafe)
  have highBits : maximum.toInt.natAbs < 2 ^ 53 :=
    safe_bounded (lowSafe.trans ordered.le) highSafe
  have defaultBits : default.toInt.natAbs < 2 ^ 53 := safe_bounded defaultLow defaultHigh
  have stepBits : (step.toNat : Int).natAbs < 2 ^ 53 := by
    exact safe_bounded (by unfold maxJsSafeInteger; omega) stepSafe
  have exactly := exactIntegerAsF64_safe defaultLow defaultHigh
  have found : jsonInteger read.default = .ok default := by
    rw [declared]
    show orError (asI64 value) _ = _
    rw [same]
    rfl
  constructor
  · unfold DeckOperatorControlDescriptor.validateControlDescriptor
    rw [named, kind]
    show (jsonInteger read.default >>= fun value => exactIntegerAsF64 value >>= fun default =>
      read.validateNumericBounds default true) = _
    rw [found]
    show (exactIntegerAsF64 default >>= fun default => read.validateNumericBounds default true) = _
    rw [exactly]
    show read.validateNumericBounds (Binary64.ofInt default.toInt) true = .ok ()
    apply validateNumericBounds_of optionless low high grid
    · simp only [List.forall_mem_cons, List.not_mem_nil, IsEmpty.forall_iff, implies_true, and_true]
      exact ⟨⟨Binary64.isFinite_ofInt lowBits, fun _ => Binary64.isIntegral_ofInt lowBits⟩,
        ⟨Binary64.isFinite_ofInt highBits, fun _ => Binary64.isIntegral_ofInt highBits⟩,
        Binary64.isFinite_ofInt stepBits, fun _ => Binary64.isIntegral_ofInt stepBits⟩
    · exact Binary64.not_isAtMost_zero stepBits (Int.natCast_pos.mpr positive)
    · rw [Binary64.isLess_ofInt highBits lowBits]
      exact decide_eq_false ordered.le.not_gt
    · rw [Binary64.isLess_ofInt defaultBits lowBits]
      exact decide_eq_false above.not_gt
    · rw [Binary64.isLess_ofInt highBits defaultBits]
      exact decide_eq_false below.not_gt
  · refine ⟨.integer default, ?_, ?_⟩
    · unfold DeckOperatorControlDescriptor.defaultValue
      rw [kind]
      show (jsonInteger read.default).toOption.map ControlValue.integer = _
      rw [found]
      rfl
    · have inside : read.numericValueInBounds (Binary64.ofInt default.toInt) = true := by
        apply numericValueInBounds_of low high
        · rw [Binary64.isAtMost_ofInt lowBits defaultBits]
          exact decide_eq_true above
        · rw [Binary64.isAtMost_ofInt defaultBits highBits]
          exact decide_eq_true below
      have accepted : read.accepts (.integer default) = true := by
        unfold DeckOperatorControlDescriptor.accepts
        dsimp only
        rw [kind, exactly]
        exact inside
      unfold DeckOperatorControlDescriptor.validateControlBinding
      rw [refuseWhen_eq_ok, accepted]
      exact not_not_intro rfl

theorem taken_boolean {default : Bool}
    (kind : read.valueType = .boolean) (declared : read.default = .bool default)
    (optionless : read.options = none) (low : read.minimum = none) (high : read.maximum = none)
    (grid : read.step = none) : Taken read := by
  constructor
  · unfold DeckOperatorControlDescriptor.validateControlDescriptor
    rw [named, kind]
    show invalidOperatorWhen _ = .ok ()
    unfold invalidOperatorWhen DeckOperatorControlDescriptor.hasBooleanDefault
      DeckOperatorControlDescriptor.hasRange
    rw [refuseWhen_eq_ok, declared, optionless, low, high, grid]
    simp
  · refine ⟨.boolean default, ?_, ?_⟩
    · unfold DeckOperatorControlDescriptor.defaultValue
      rw [kind, declared]
    · unfold DeckOperatorControlDescriptor.validateControlBinding
        DeckOperatorControlDescriptor.accepts
      rw [refuseWhen_eq_ok, kind]
      simp

end

theorem boundedText_of_validIdentifier (valid : validIdentifier value = true) :
    boundedText value = true := by
  have named := (identifier_eq_ok value).mp (identifier_of_validIdentifier valid)
  have clean : value.toList.contains '\x00' = false := by
    rw [List.contains_eq_mem, decide_eq_false_iff_not]
    exact fun within => absurd (named.2.2 _ within) (by decide)
  unfold boundedText maxControlTextBytes
  rw [clean, bne_iff_ne.mpr named.1, decide_eq_true (by omega)]
  rfl

theorem taken_enum {default : String} {options : List String}
    (named : identifier read.controlId = .ok ()) (valid : validControl (.enum default options) = true)
    (kind : read.valueType = .enum) (declared : read.default = .string default)
    (listed : read.options = some options) (low : read.minimum = none) (high : read.maximum = none)
    (grid : read.step = none) : Taken read := by
  unfold validControl at valid
  simp only [Bool.and_eq_true, decide_eq_true_eq, List.all_eq_true] at valid
  obtain ⟨⟨⟨⟨nonempty, few⟩, spelled⟩, distinct⟩, offered⟩ := valid
  have texts : options.all boundedText = true :=
    List.all_eq_true.mpr fun option within => boundedText_of_validIdentifier (spelled option within)
  have member : default ∈ options := List.elem_iff.mp offered
  have found : read.textDefault = some default := by
    unfold DeckOperatorControlDescriptor.textDefault
    rw [declared]
  constructor
  · unfold DeckOperatorControlDescriptor.validateControlDescriptor
    rw [named, kind]
    show (orError read.textDefault _ >>= fun default => orError read.options _ >>= fun options =>
      invalidOperatorWhen _ >>= fun _ => _) = _
    rw [found, listed]
    show (invalidOperatorWhen _ >>= fun _ => invalidOperatorWhen _ >>= fun _ =>
      invalidOperatorWhen _) = _
    unfold invalidOperatorWhen maxEnumOptions DeckOperatorControlDescriptor.hasRange
    rw [check_eq_ok, check_eq_ok, refuseWhen_eq_ok, refuseWhen_eq_ok, refuseWhen_eq_ok, low, high,
      grid]
    refine ⟨?_, ?_, not_not_intro distinct⟩
    · exact not_or.mpr ⟨nonempty, by omega⟩
    · simp [texts, member]
  · refine ⟨.text default, ?_, ?_⟩
    · unfold DeckOperatorControlDescriptor.defaultValue
      rw [kind]
      show read.textDefault.map ControlValue.text = _
      rw [found]
      rfl
    · unfold DeckOperatorControlDescriptor.validateControlBinding
        DeckOperatorControlDescriptor.accepts
      rw [refuseWhen_eq_ok, kind, listed]
      simp [member]

/-- A control that both decoders read from one object is taken when the contract takes it. -/
theorem taken_of_sameFile (same : control.SameFile read)
    (named : validIdentifier control.controlId = true)
    (valid : validControl control.valueType = true) : Taken read := by
  have identified : identifier read.controlId = .ok () := by
    rw [same.controlId]
    exact identifier_of_validIdentifier named
  have fields := same.fields
  cases form : control.valueType with
  | number default minimum maximum step =>
    rw [form] at fields valid
    obtain ⟨kind, ⟨value, declared, equal⟩, optionless, low, high, grid⟩ := fields
    exact taken_number identified valid kind declared equal optionless low high grid
  | integer default minimum maximum step =>
    rw [form] at fields valid
    obtain ⟨kind, ⟨value, declared, equal⟩, optionless, low, high, grid⟩ := fields
    exact taken_integer identified valid kind declared equal optionless low high grid
  | boolean default =>
    rw [form] at fields
    obtain ⟨kind, declared, optionless, low, high, grid⟩ := fields
    exact taken_boolean identified kind declared optionless low high grid
  | enum default options =>
    rw [form] at fields valid
    obtain ⟨kind, declared, listed, low, high, grid⟩ := fields
    exact taken_enum identified valid kind declared listed low high grid

variable {controls : List ControlDescriptor} {reads : List DeckOperatorControlDescriptor}

theorem taken_of_sameFiles (same : List.Forall₂ ControlDescriptor.SameFile controls reads)
    (valid : ∀ control ∈ controls, validIdentifier control.controlId = true ∧
      validControl control.valueType = true) : ∀ read ∈ reads, Taken read := by
  induction same with
  | nil => exact fun _ never => absurd never List.not_mem_nil
  | cons first rest ih =>
    rw [List.forall_mem_cons] at valid ⊢
    exact ⟨taken_of_sameFile first valid.1.1 valid.1.2, ih valid.2⟩

theorem controlIds_of_sameFiles (same : List.Forall₂ ControlDescriptor.SameFile controls reads) :
    reads.map DeckOperatorControlDescriptor.controlId =
      controls.map ControlDescriptor.controlId := by
  induction same with
  | nil => rfl
  | cons first _ ih => rw [List.map_cons, List.map_cons, first.controlId, ih]

end Control

section Operator

variable {crates : Crates} {manifest : DeckPackManifest} {operator : OperatorDescriptor}
  {faceplate : FaceplateDescriptor} {read : DeckOperatorDescriptor}

theorem version_of_semver (valid : crates.validateSemver value = .ok ()) :
    version crates value = .ok () := by
  unfold Crates.validateSemver at valid
  obtain ⟨parsed, found, -⟩ := ok_of_bind valid
  rw [orError_eq_ok] at found
  unfold version invalidOperatorWhen
  rw [refuseWhen_eq_ok, found]
  exact Bool.false_ne_true

/-- A described manifest has a deck identifier that the runtime takes when it is short. -/
theorem validateRuntimeOperator_iff (described : Described crates manifest)
    (signal : Cast manifest.signal) (contracted : Contracted crates manifest operator)
    (same : operator.SameFile read) :
    validateRuntimeOperator crates read = .ok () ↔
      operator.controls.length ≤ 64 ∧ manifest.deckId.utf8ByteSize ≤ 128 ∧
        hasPythonNames manifest.runtime.entrypoint = true := by
  have taken := taken_of_sameFiles same.controls contracted.valid
  have deckVersion : version crates read.deckVersion = .ok () := by
    have package := described.deckVersion
    unfold Crates.validatePackageVersion at package
    rw [check_eq_ok] at package
    rw [same.deckVersion, contracted.deckVersion]
    exact version_of_semver package.1
  have operatorVersion : version crates read.operatorVersion = .ok () := by
    rw [same.operatorVersion]
    exact version_of_semver contracted.version
  have operatorId : identifier read.operatorId = .ok () := by
    rw [same.operatorId]
    exact identifier_of_validIdentifier contracted.operatorId
  have roleIds : read.roleIds = manifest.signal.roles.map DeckRoleDescriptor.roleId := by
    rw [same.roleIds, contracted.roleIds]
  have sources : read.sourceCount = manifest.signal.slots := by
    rw [same.sourceCount, contracted.sourceCount]
  have roles : ∀ role ∈ read.roleIds, identifier role = .ok () := by
    rw [roleIds, List.forall_mem_map]
    exact fun role member => identifier_of_local (signal.each role member).1
  have counted : read.roleIds.length = read.sourceCount := by
    rw [roleIds, List.length_map, sources, signal.roles]
  have length : read.controls.length = operator.controls.length := same.controls.length_eq.symm
  have distinct : (read.controls.map DeckOperatorControlDescriptor.controlId).Nodup := by
    rw [controlIds_of_sameFiles same.controls]
    exact contracted.distinct
  have populated := signal.populated
  have bounded := signal.bounded
  have deckId : identifier read.deckId = .ok () ↔ manifest.deckId.utf8ByteSize ≤ 128 := by
    rw [same.deckId, contracted.deckId]
    exact identifier_of_reverseDns described.deckId
  have entrypoint : pythonEntrypoint read.entrypoint = .ok () ↔
      hasPythonNames manifest.runtime.entrypoint = true := by
    rw [same.entrypoint, contracted.entrypoint]
    exact pythonEntrypoint_iff described.entrypoint
  unfold validateRuntimeOperator invalidOperatorWhen
  iterate 9 rw [check_eq_ok]
  rw [refuseWhen_eq_ok, refuseWhen_eq_ok, refuseWhen_eq_ok, checkEach_eq_ok, checkEach_eq_ok,
    deckId, entrypoint]
  constructor
  · rintro ⟨shape, short, -, -, -, named, -⟩
    unfold maxRuntimeControls at shape
    rw [length] at shape
    exact ⟨by omega, short, named⟩
  · rintro ⟨few, short, named⟩
    refine ⟨?_, short, deckVersion, operatorId, operatorVersion, named, roles, ?_, ?_,
      not_not_intro distinct⟩
    · unfold maxRuntimeControls maxSources
      rw [same.schemaVersion, same.deckOperatorApi, contracted.schemaVersion,
        contracted.deckOperatorApi, length, counted, sources]
      simp only [ne_eq, not_true_eq_false, false_or]
      omega
    · rw [roleIds]
      exact not_not_intro signal.distinct
    · exact fun control member => (taken control member).descriptor

theorem crosscheckOperator_of (contracted : Contracted crates manifest operator)
    (same : operator.SameFile read) : crosscheckOperator manifest read = .ok () := by
  unfold crosscheckOperator
  iterate 4 rw [check_eq_ok]
  simp only [refuseWhen_eq_ok, not_not, ne_eq]
  exact ⟨same.deckId.trans contracted.deckId, same.deckVersion.trans contracted.deckVersion,
    same.entrypoint.trans contracted.entrypoint, same.sourceCount.trans contracted.sourceCount,
    same.roleIds.trans contracted.roleIds⟩

end Operator

/-- What the runtime reads of the operator of the small deck. -/
def exampleRead (deckId roleId : String) : DeckOperatorDescriptor where
  schemaVersion := "0.2.0"
  deckOperatorApi := "0.2.0"
  deckId := deckId
  deckVersion := "1.0.0"
  operatorId := "example.main"
  operatorVersion := "1.0.0"
  entrypoint := "example.main:create"
  sourceCount := 1
  roleIds := [roleId]
  controls := [⟨"bypass", .boolean, .bool false, none, none, none, none⟩]

theorem example_sameFile (deckId roleId : String) :
    (exampleOperator deckId roleId).SameFile (exampleRead deckId roleId) where
  schemaVersion := rfl
  deckOperatorApi := rfl
  deckId := rfl
  deckVersion := rfl
  operatorId := rfl
  operatorVersion := rfl
  entrypoint := rfl
  sourceCount := rfl
  roleIds := rfl
  controls := .cons ⟨rfl, rfl, rfl, rfl, rfl, rfl, rfl⟩ .nil

def longDeckId : String :=
  "com." ++ String.ofList (List.replicate 62 'a') ++ "." ++ String.ofList (List.replicate 62 'b')

end LatentDeck.DeckUi
