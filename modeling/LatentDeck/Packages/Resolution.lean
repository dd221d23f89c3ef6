import LatentDeck.Packages.Compatibility

/-!
# Which accepted packages resolve

Manifests are accepted under one grammar and converted under another. The parts of an accepted
manifest that always convert, the parts that convert within limits of their own, and what follows
for the answer about two ready packages.
-/

namespace LatentDeck.Packages

open Fallible

variable {crates : Crates}

theorem validateContractId_iff (value : String) :
    validateContractId value = .ok () ↔
      value ≠ "" ∧ value.utf8ByteSize ≤ 128 ∧ value ≠ "*" ∧ isIgnoringCase value "any" = false ∧
        (value.toList.all fun char => isAlphanumeric char || char == '.' || char == '_' ||
          char == ':' || char == '-') = true := by
  unfold validateContractId
  rw [check_eq_ok, check_eq_ok, check_eq_ok]
  iterate 4 rw [refuseWhen_eq_ok]
  simp only [not_or, Bool.not_eq_true, Bool.not_eq_false, maxContractIdBytes, Nat.not_lt, and_assoc,
    ne_eq]

theorem contractId_eq_some_iff (value : String) (id : ContractId) :
    contractId value = some id ↔ id.text = value := by
  have made : ∀ checked : validateContractId value = .ok (),
      ContractId.new value = .ok ⟨value, checked⟩ := by
    intro checked
    unfold ContractId.new
    split
    · rfl
    · rename_i error refused
      exact nomatch checked.symm.trans refused
  unfold contractId
  constructor
  · intro converted
    cases checked : validateContractId value with
    | ok done =>
      rw [made checked] at converted
      rw [← Option.some.inj converted]
    | error error =>
      have refused : ContractId.new value = .error error := by
        unfold ContractId.new
        split
        · rename_i accepted
          exact nomatch checked.symm.trans accepted
        · rename_i other refused
          exact congrArg _ (Except.error.inj (refused.symm.trans checked))
      rw [refused] at converted
      exact nomatch converted
  · intro same
    have checked : validateContractId value = .ok () := same ▸ id.valid
    rw [made checked]
    cases id
    cases same
    rfl

theorem contractId_isSome (value : String) :
    (contractId value).isSome = true ↔ validateContractId value = .ok () := by
  rw [Option.isSome_iff_exists]
  constructor
  · rintro ⟨id, converted⟩
    have same := (contractId_eq_some_iff value id).mp converted
    exact same ▸ id.valid
  · intro checked
    exact ⟨⟨value, checked⟩, (contractId_eq_some_iff value _).mpr rfl⟩

variable {value : String}

theorem contractName_converts (accepted : validateContractName value = .ok ()) :
    (contractId value).isSome = true := by
  rw [contractId_isSome, validateContractId_iff]
  unfold validateContractName invalidWhen at accepted
  simp only [refuseWhen_eq_ok, not_or, Bool.not_eq_true, Bool.not_eq_false, Nat.not_lt] at accepted
  obtain ⟨nonempty, bounded, wild, anything, chars⟩ := accepted
  exact ⟨nonempty, bounded, wild, anything, chars⟩

/-- A local identifier other than `any` is a contract identifier. -/
theorem localId_converts (accepted : validateLocalId value = .ok ())
    (definite : isIgnoringCase value "any" = false) : (contractId value).isSome = true := by
  rw [contractId_isSome, validateContractId_iff]
  unfold validateLocalId invalidWhen at accepted
  simp only [refuseWhen_eq_ok, not_or, not_not, Nat.not_lt] at accepted
  obtain ⟨nonempty, bounded, chars⟩ := accepted
  have wild : value ≠ "*" := by
    intro same
    rw [same] at chars
    exact absurd chars (by decide)
  have allowed : ∀ char ∈ value.toList,
      (isAlphanumeric char || char == '.' || char == '_' || char == ':' || char == '-') = true := by
    intro char within
    have each := List.all_eq_true.mp chars char within
    unfold isAlphanumeric
    simp only [Bool.or_eq_true] at each ⊢
    grind
  exact ⟨nonempty, by omega, wild, definite, List.all_eq_true.mpr allowed⟩

theorem reverseDnsId_chars (accepted : validateReverseDnsId value = .ok ()) :
    '.' ∈ value.toList ∧ ∀ char ∈ value.toList,
      (isLower char || isDigit char || char == '-' || char == '.') = true := by
  unfold validateReverseDnsId invalidWhen at accepted
  rw [check_eq_ok, refuseWhen_eq_ok, refuseWhen_eq_ok] at accepted
  obtain ⟨shape, segments⟩ := accepted
  have dotted : '.' ∈ value.toList := by
    by_contra missing
    exact shape (.inr missing)
  refine ⟨dotted, fun char within => ?_⟩
  cases Text.separates_or_mem_part (· == '.') within with
  | inl dot => rw [dot, Bool.or_true]
  | inr inside =>
    obtain ⟨segment, isPart, among⟩ := inside
    have good : badSegment segment = false := by
      by_contra bad
      exact segments (List.any_eq_true.mpr ⟨segment, isPart, by simpa using bad⟩)
    unfold badSegment at good
    rw [Bool.or_eq_false_iff, Bool.not_eq_false'] at good
    rw [List.all_eq_true.mp good.2 char among, Bool.true_or]

/-- A reverse-DNS identifier converts within 128 bytes. -/
theorem reverseDnsId_converts_iff (accepted : validateReverseDnsId value = .ok ()) :
    (contractId value).isSome = true ↔ value.utf8ByteSize ≤ 128 := by
  rw [contractId_isSome, validateContractId_iff]
  have chars := reverseDnsId_chars accepted
  constructor
  · exact fun checked => checked.2.1
  · intro bounded
    have nonempty : value ≠ "" := by
      intro same
      rw [same] at chars
      exact absurd chars.1 (by decide)
    have wild : value ≠ "*" := by
      intro same
      rw [same] at chars
      exact absurd chars.1 (by decide)
    have definite : isIgnoringCase value "any" = false := by
      rw [isIgnoringCase, beq_eq_false_iff_ne]
      intro same
      have mapped : value.toList.map asciiLower = "any".toList := by
        rw [← same, toAsciiLowercase, String.toList_ofList]
      have dot : asciiLower '.' ∈ value.toList.map asciiLower :=
        List.mem_map_of_mem chars.1
      rw [mapped] at dot
      exact absurd dot (by decide)
    refine ⟨nonempty, bounded, wild, definite, List.all_eq_true.mpr fun char within => ?_⟩
    have each := chars.2 char within
    unfold isAlphanumeric
    simp only [Bool.or_eq_true] at each ⊢
    grind

namespace Semver

theorem parseVersion_isSome (semver : Semver crates) (text : String) :
    (crates.parseVersion text).isSome = (SemVer.parse text.toList).isSome := by
  rw [← semver.parse_view, Option.isSome_map]

variable {value : String}

theorem parse_of_validateSemver (semver : Semver crates)
    (accepted : crates.validateSemver value = .ok ()) :
    ∃ version, crates.parseVersion value = some version ∧
      SemVer.parse value.toList = some (semver.view version) := by
  unfold Crates.validateSemver at accepted
  obtain ⟨version, parsed, -⟩ := ok_of_bind accepted
  rw [orError_eq_ok] at parsed
  refine ⟨version, parsed, ?_⟩
  rw [← semver.parse_view, parsed, Option.map_some]

theorem no_whitespace {text : List Char} {version : SemVer.Version}
    (read : SemVer.parse text = some version) : ∀ char ∈ text, Text.isWhitespace char = false := by
  intro char within
  have allowed := (SemVer.chars_of_parse read).2 char within
  unfold SemVer.isVersionChar SemVer.isIdentifierChar Char.isAlphanum Char.isAlpha Char.isUpper
    Char.isLower Char.isDigit at allowed
  have range : 0x2A < char.toNat ∧ char.toNat < 0x7B := by
    simp only [Bool.or_eq_true, Bool.and_eq_true, decide_eq_true_eq, beq_iff_eq,
      UInt32.le_iff_toNat_le, ge_iff_le] at allowed
    rcases allowed with ((((upper | lower) | digit) | hyphen) | dot) | plus
    · exact ⟨Nat.lt_of_lt_of_le (by decide) upper.1, Nat.lt_of_le_of_lt upper.2 (by decide)⟩
    · exact ⟨Nat.lt_of_lt_of_le (by decide) lower.1, Nat.lt_of_le_of_lt lower.2 (by decide)⟩
    · exact ⟨Nat.lt_of_lt_of_le (by decide) digit.1, Nat.lt_of_le_of_lt digit.2 (by decide)⟩
    · rw [hyphen]; decide
    · rw [dot]; decide
    · rw [plus]; decide
  simp only [Text.isWhitespace, Bool.or_eq_false_iff, Bool.and_eq_false_iff,
    decide_eq_false_iff_not, List.contains_eq_mem, List.mem_cons, List.not_mem_nil, or_false]
  omega

theorem trim_version {text : List Char} {version : SemVer.Version}
    (read : SemVer.parse text = some version) : Text.trim text = text :=
  Text.trim_of_ends
    (fun char first => no_whitespace read char (List.mem_of_head? first))
    (fun char last => no_whitespace read char (List.mem_of_getLast? last))

variable {minimum maximum : String}

theorem bounds_of_validateVersionRange (semver : Semver crates)
    (accepted : crates.validateVersionRange minimum maximum = .ok ()) :
    (∃ low, SemVer.parse minimum.toList = some low) ∧
      ∃ high, SemVer.parse maximum.toList = some high := by
  unfold Crates.validateVersionRange at accepted
  rw [check_eq_ok, check_eq_ok] at accepted
  obtain ⟨low, -, lowRead⟩ := semver.parse_of_validateSemver accepted.1
  obtain ⟨high, -, highRead⟩ := semver.parse_of_validateSemver accepted.2.1
  exact ⟨⟨_, lowRead⟩, ⟨_, highRead⟩⟩

variable {high : SemVer.Version}

/-- The text of a range is malformed when it is too long. -/
theorem malformed_range (highRead : SemVer.parse maximum.toList = some high) :
    malformedRequirement (">=" ++ minimum ++ ", <" ++ maximum) = true ↔
      251 < minimum.utf8ByteSize + maximum.utf8ByteSize := by
  have chars : (">=" ++ minimum ++ ", <" ++ maximum).toList =
      '>' :: ('=' :: minimum.toList ++ [',', ' ', '<']) ++ maximum.toList := by
    simp [String.toList_append]
  have size : (">=" ++ minimum ++ ", <" ++ maximum).utf8ByteSize =
      5 + (minimum.utf8ByteSize + maximum.utf8ByteSize) := by
    rw [String.utf8ByteSize_append, String.utf8ByteSize_append, String.utf8ByteSize_append]
    have low : (">=" : String).utf8ByteSize = 2 := rfl
    have middle : (", <" : String).utf8ByteSize = 3 := rfl
    omega
  have present : ((">=" ++ minimum ++ ", <" ++ maximum) == "") = false := by
    rw [beq_eq_false_iff_ne]
    intro same
    rw [same] at chars
    exact nomatch chars
  have trimmed : Text.trim (">=" ++ minimum ++ ", <" ++ maximum).toList =
      (">=" ++ minimum ++ ", <" ++ maximum).toList := by
    apply Text.trim_of_ends
    · intro char first
      rw [chars] at first
      cases first
      decide
    · intro char last
      rw [chars, List.getLast?_append_of_ne_nil _ (SemVer.chars_of_parse highRead).1] at last
      exact no_whitespace highRead char (List.mem_of_getLast? last)
  unfold malformedRequirement maxHostApiRequirementBytes
  rw [present, trimmed, size, bne_self_eq_false, Bool.false_or, Bool.or_false, decide_eq_true_eq]
  omega

/-- The requirement of an accepted range, when it is short enough. -/
theorem appRequirement_of_short (semver : Semver crates) {low : SemVer.Version}
    (lowRead : SemVer.parse minimum.toList = some low)
    (highRead : SemVer.parse maximum.toList = some high)
    (short : minimum.utf8ByteSize + maximum.utf8ByteSize ≤ 251) :
    ∃ requirement, semver.appRequirement minimum maximum = some requirement ∧
      ∀ version, semver.matchesReq requirement.requirement version =
        SemVer.admits low high (semver.view version) := by
  obtain ⟨requirement, parsed, operators, decides⟩ :=
    semver.parse_range minimum maximum low high lowRead highRead
  have formed : ¬ malformedRequirement (">=" ++ minimum ++ ", <" ++ maximum) = true := by
    rw [malformed_range highRead]
    omega
  have definite : ¬ isIgnoringCase (">=" ++ minimum ++ ", <" ++ maximum) "any" = true := by
    unfold isIgnoringCase toAsciiLowercase
    rw [beq_iff_eq, String.ext_iff, String.toList_ofList, String.toList_append,
      String.toList_append, String.toList_append]
    intro same
    exact absurd (congrArg List.head? same) (by simp [asciiLower, isUpper])
  have known : ¬ (semver.comparators requirement = [] ∨
      Op.wildcard ∈ semver.comparators requirement) := by
    rw [operators]
    decide
  have passes : semver.parseRequirement (">=" ++ minimum ++ ", <" ++ maximum) =
      .ok ⟨">=" ++ minimum ++ ", <" ++ maximum, requirement⟩ := by
    unfold parseRequirement
    rw [check_eq_ok, refuseWhen_eq_ok, check_eq_ok, refuseWhen_eq_ok, parsed, bind_eq_ok]
    refine ⟨formed, definite, requirement, rfl, ?_⟩
    rw [check_eq_ok, refuseWhen_eq_ok]
    exact ⟨known, rfl⟩
  have converted : semver.appRequirement minimum maximum =
      some ⟨">=" ++ minimum ++ ", <" ++ maximum, requirement⟩ := by
    unfold appRequirement
    rw [passes]
    rfl
  exact ⟨_, converted, decides⟩

theorem appRequirement_isSome (semver : Semver crates)
    (accepted : crates.validateVersionRange minimum maximum = .ok ()) :
    (semver.appRequirement minimum maximum).isSome = true ↔
      minimum.utf8ByteSize + maximum.utf8ByteSize ≤ 251 := by
  obtain ⟨⟨low, lowRead⟩, high, highRead⟩ := semver.bounds_of_validateVersionRange accepted
  constructor
  · intro converted
    by_contra long
    have malformed : malformedRequirement (">=" ++ minimum ++ ", <" ++ maximum) = true :=
      (malformed_range highRead).mpr (by omega)
    have refused : semver.appRequirement minimum maximum = none := by
      unfold appRequirement parseRequirement refuseWhen
      rw [if_pos malformed]
      rfl
    rw [refused] at converted
    exact nomatch converted
  · intro short
    obtain ⟨requirement, converted, -⟩ := semver.appRequirement_of_short lowRead highRead short
    rw [converted]
    rfl

theorem parts_of_validatePythonVersion (accepted : validatePythonVersion value = .ok ()) :
    (2 ≤ (partsOf '.' value).length ∧ (partsOf '.' value).length ≤ 3) ∧
      ∀ part ∈ partsOf '.' value, part ≠ [] ∧ ∀ char ∈ part, char.isDigit = true := by
  unfold validatePythonVersion invalidWhen at accepted
  rw [check_eq_ok, refuseWhen_eq_ok, not_or] at accepted
  obtain ⟨-, count, digits⟩ := accepted
  refine ⟨not_not.mp count, fun part isPart => ?_⟩
  have good : (part.isEmpty || !part.all isDigit) = false := by
    by_contra bad
    exact digits (List.any_eq_true.mpr ⟨part, isPart, Bool.not_eq_false _ ▸ bad⟩)
  rw [Bool.or_eq_false_iff, Bool.not_eq_false'] at good
  constructor
  · intro empty
    rw [empty] at good
    exact nomatch good.1
  · intro char within
    have digit := List.all_eq_true.mp good.2 char within
    unfold isDigit at digit
    unfold Char.isDigit
    rw [Bool.and_eq_true, decide_eq_true_eq, decide_eq_true_eq] at digit
    rw [Bool.and_eq_true, decide_eq_true_eq, decide_eq_true_eq]
    exact digit

/-- A text of digits between dots is a version when it has three parts and they are plain. -/
theorem parseVersion_digits (semver : Semver crates) {first second third : List Char}
    (parts : value.toList.splitOn '.' = [first, second, third])
    (digits : ∀ part ∈ value.toList.splitOn '.', part ≠ [] ∧ ∀ char ∈ part, char.isDigit = true) :
    (crates.parseVersion value).isSome = (SemVer.isPlainNumber first &&
      SemVer.isPlainNumber second && SemVer.isPlainNumber third) := by
  have plain : ∀ char ∈ value.toList, char.isDigit = true ∨ char = '.' := by
    intro char within
    cases Text.separates_or_mem_part (· == '.') within with
    | inl dot => exact Or.inr (eq_of_beq dot)
    | inr inside =>
      obtain ⟨part, isPart, among⟩ := inside
      exact Or.inl ((digits part isPart).2 char among)
  rw [parts] at digits
  have one := digits first (by simp)
  have two := digits second (by simp)
  have three := digits third (by simp)
  rw [semver.parseVersion_isSome, SemVer.parse_isSome_of_plain plain,
    SemVer.parseCore_isSome parts, SemVer.parseNumber_isSome one.1 one.2,
    SemVer.parseNumber_isSome two.1 two.2, SemVer.parseNumber_isSome three.1 three.2]

/-- A text of digits between dots with two parts is no version. -/
theorem parseVersion_pair (semver : Semver crates) {first second : List Char}
    (parts : value.toList.splitOn '.' = [first, second])
    (digits : ∀ part ∈ value.toList.splitOn '.', part ≠ [] ∧ ∀ char ∈ part, char.isDigit = true) :
    crates.parseVersion value = none := by
  have plain : ∀ char ∈ value.toList, char.isDigit = true ∨ char = '.' := by
    intro char within
    cases Text.separates_or_mem_part (· == '.') within with
    | inl dot => exact Or.inr (eq_of_beq dot)
    | inr inside =>
      obtain ⟨part, isPart, among⟩ := inside
      exact Or.inl ((digits part isPart).2 char among)
  rw [← Option.isNone_iff_eq_none, ← Option.not_isSome, semver.parseVersion_isSome,
    SemVer.parse_isSome_of_plain plain, SemVer.parseCore_eq_none (by rw [parts]; simp)]
  rfl

/-- An accepted Python version converts when its numbers are plain. -/
theorem normalizedPythonVersion_isSome (semver : Semver crates)
    (accepted : validatePythonVersion value = .ok ()) :
    (normalizedPythonVersion value : Option crates.Version).isSome = true ↔
      ∀ part ∈ partsOf '.' value, SemVer.isPlainNumber part = true := by
  obtain ⟨count, digits⟩ := parts_of_validatePythonVersion accepted
  unfold normalizedPythonVersion
  match parts : partsOf '.' value with
  | [] | [_] | _ :: _ :: _ :: _ :: _ =>
    rw [parts] at count
    exact absurd count (by simp)
  | [first, second] =>
    have one := digits first (by rw [parts]; simp)
    have two := digits second (by rw [parts]; simp)
    have spelled : (first ++ '.' :: second ++ ['.', '0']).splitOn '.' = [first, second, ['0']] := by
      have undotted : ∀ part ∈ [first, second, ['0']], '.' ∉ part := by
        intro part isPart within
        have digit : ('.' : Char).isDigit = true := by
          simp only [List.mem_cons, List.not_mem_nil, or_false] at isPart
          rcases isPart with same | same | same
          · exact one.2 '.' (same ▸ within)
          · exact two.2 '.' (same ▸ within)
          · rw [same] at within
            exact absurd within (by decide)
        exact absurd digit (by decide)
      have joined := List.splitOn_intercalate '.' undotted (List.cons_ne_nil _ _)
      rw [← joined]
      simp [List.intercalate]
    have grown : padded value = some (String.ofList (first ++ '.' :: second ++ ['.', '0'])) := by
      have digitsOf : ∀ {part : List Char}, (∀ char ∈ part, char.isDigit = true) →
          part.all isDigit = true := by
        intro part each
        apply List.all_eq_true.mpr
        intro char within
        have digit := each char within
        unfold Char.isDigit at digit
        unfold isDigit
        rw [Bool.and_eq_true, decide_eq_true_eq, decide_eq_true_eq] at digit ⊢
        exact digit
      unfold padded
      rw [parts]
      exact if_pos ⟨digitsOf one.2, digitsOf two.2⟩
    rw [semver.parseVersion_pair parts digits, grown]
    show (crates.parseVersion _).isSome = true ↔ _
    have three : (String.ofList (first ++ '.' :: second ++ ['.', '0'])).toList.splitOn '.' =
        [first, second, ['0']] := by
      rw [String.toList_ofList, spelled]
    have allDigits : ∀ part ∈ [first, second, ['0']],
        part ≠ [] ∧ ∀ char ∈ part, char.isDigit = true := by
      intro part isPart
      simp only [List.mem_cons, List.not_mem_nil, or_false] at isPart
      rcases isPart with same | same | same
      · exact same ▸ one
      · exact same ▸ two
      · rw [same]
        exact ⟨List.cons_ne_nil _ _, fun char within =>
          (congrArg Char.isDigit (List.mem_singleton.mp within)).trans rfl⟩
    have zero : SemVer.isPlainNumber ['0'] = true := by decide +kernel
    rw [semver.parseVersion_digits three (three ▸ allDigits), zero]
    simp
  | [first, second, third] =>
    have whole : ∀ read : Option crates.Version,
        (read.orElse fun () => (padded value).bind crates.parseVersion).isSome = read.isSome := by
      intro read
      have short : padded value = none := by
        unfold padded
        rw [parts]
      rw [short]
      cases read <;> rfl
    rw [whole, semver.parseVersion_digits parts digits]
    simp [and_assoc]

theorem packageIdentity_isSome {id version : String} (accepted : validateReverseDnsId id = .ok ())
    (versioned : crates.validatePackageVersion version = .ok ()) :
    (packageIdentity id version : Option (PackageIdentity crates.Version)).isSome = true ↔
      id.utf8ByteSize ≤ 128 := by
  unfold Crates.validatePackageVersion Crates.validateSemver at versioned
  rw [check_eq_ok, bind_eq_ok] at versioned
  obtain ⟨⟨parsed, read, -⟩, -⟩ := versioned
  rw [orError_eq_ok] at read
  rw [← reverseDnsId_converts_iff accepted]
  unfold packageIdentity
  rw [read]
  cases contractId id <;> rfl

variable {python : PythonConstraint}

/-- Accepted runtime constraints convert when the numbers of their Python version are plain. -/
theorem runtimeContract_isSome (semver : Semver crates) {tensorAbi torch : String}
    (accepted : crates.validateRuntimeConstraints tensorAbi python torch = .ok ()) :
    (runtimeContract tensorAbi python torch :
        Option (PackageRuntimeContract crates.Version)).isSome = true ↔
      ∀ part ∈ partsOf '.' python.version, SemVer.isPlainNumber part = true := by
  unfold Crates.validateRuntimeConstraints invalidWhen at accepted
  iterate 4 rw [check_eq_ok] at accepted
  rw [refuseWhen_eq_ok] at accepted
  obtain ⟨abi, version, platform, definite, -⟩ := accepted
  rw [← semver.normalizedPythonVersion_isSome version]
  have abiRead := contractName_converts abi
  have platformRead := localId_converts platform (Bool.not_eq_true _ ▸ definite)
  have implementation : (contractId (implementationName python.implementation)).isSome = true := by
    cases python.implementation
    decide +kernel
  rw [Option.isSome_iff_exists] at abiRead platformRead implementation
  obtain ⟨abiId, abiRead⟩ := abiRead
  obtain ⟨platformId, platformRead⟩ := platformRead
  obtain ⟨implementationId, implementation⟩ := implementation
  unfold runtimeContract
  rw [abiRead, implementation, platformRead]
  cases (normalizedPythonVersion python.version : Option crates.Version) <;> rfl

/-- A converted runtime is valid when its torch build is within 120 bytes. -/
theorem validRuntime_iff (semver : Semver crates) {tensorAbi torch : String}
    {runtime : PackageRuntimeContract crates.Version}
    (accepted : crates.validateRuntimeConstraints tensorAbi python torch = .ok ())
    (converted : runtimeContract tensorAbi python torch = some runtime) :
    validRuntime runtime = true ↔ torch.utf8ByteSize ≤ 120 := by
  unfold Crates.validateRuntimeConstraints at accepted
  iterate 4 rw [check_eq_ok] at accepted
  obtain ⟨-, -, -, -, build⟩ := accepted
  obtain ⟨version, parsed, read⟩ := semver.parse_of_validateSemver build
  have kept : runtime.torchExactBuild = torch := by
    unfold runtimeContract at converted
    simp only [Option.bind_eq_bind, Option.bind_eq_some_iff, Option.some.injEq] at converted
    obtain ⟨abi, -, implementation, -, python, -, platform, -, same⟩ := converted
    rw [← same]
  have present : (torch != "") = true := by
    rw [bne_iff_ne]
    intro empty
    rw [empty] at read
    exact (SemVer.chars_of_parse read).1 rfl
  unfold validRuntime
  rw [kept, present, trim_version read, parsed, beq_self_eq_true, Option.isSome_some,
    Bool.true_and, Bool.and_true, Bool.and_true, decide_eq_true_eq]

theorem mapM_isSome {α β : Type} {convert : α → Option β} {values : List α} :
    (values.mapM convert).isSome = true ↔ ∀ value ∈ values, (convert value).isSome = true := by
  induction values with
  | nil => exact ⟨fun _ value within => absurd within List.not_mem_nil, fun _ => rfl⟩
  | cons first rest ih =>
    rw [List.mapM_cons, List.forall_mem_cons, ← ih]
    cases convert first <;> cases rest.mapM convert <;> simp

theorem of_mapM_eq_some {α β : Type} {convert : α → Option β} {values : List α} {results : List β}
    (converted : values.mapM convert = some results) :
    results.length = values.length ∧
      ∀ result ∈ results, ∃ value ∈ values, convert value = some result := by
  induction values generalizing results with
  | nil =>
    rw [List.mapM_nil] at converted
    cases converted
    exact ⟨rfl, fun result within => absurd within List.not_mem_nil⟩
  | cons first rest ih =>
    rw [List.mapM_cons] at converted
    simp only [Option.bind_eq_bind, Option.bind_eq_some_iff, Option.pure_def,
      Option.some.injEq] at converted
    obtain ⟨head, headRead, tail, tailRead, same⟩ := converted
    have later := ih tailRead
    rw [← same]
    refine ⟨congrArg (· + 1) later.1, List.forall_mem_cons.mpr ⟨?_, fun result within => ?_⟩⟩
    · exact ⟨first, List.mem_cons_self, headRead⟩
    · obtain ⟨value, among, read⟩ := later.2 result within
      exact ⟨value, List.mem_cons_of_mem _ among, read⟩

theorem capabilityContracts_isSome (capabilities : List CodecCapability) :
    (capabilityContracts capabilities).isSome = true := by
  unfold capabilityContracts
  rw [mapM_isSome]
  intro capability _
  cases capability <;> decide +kernel

theorem profileContract_isSome {profile : ProfileKey}
    (accepted : crates.validateProfileKey profile = .ok ()) :
    (profileContract profile : Option (ProfileContract crates.Version)).isSome = true := by
  unfold Crates.validateProfileKey Crates.validateSemver invalidWhen at accepted
  rw [check_eq_ok, check_eq_ok, check_eq_ok, refuseWhen_eq_ok, bind_eq_ok, not_or] at accepted
  obtain ⟨family, name, ⟨familyDefinite, nameDefinite⟩, version, read, -⟩ := accepted
  rw [orError_eq_ok] at read
  have familyRead := localId_converts family (Bool.not_eq_true _ ▸ familyDefinite)
  have nameRead := localId_converts name (Bool.not_eq_true _ ▸ nameDefinite)
  rw [Option.isSome_iff_exists] at familyRead nameRead
  obtain ⟨familyId, familyRead⟩ := familyRead
  obtain ⟨nameId, nameRead⟩ := nameRead
  unfold profileContract
  rw [familyRead, nameRead, read]
  rfl

theorem geometryContract_isSome (geometry : SignalGeometry) :
    (geometryContract geometry).isSome = true := by
  have dtype : (dtypeContract geometry.dtype).isSome = true := by
    cases geometry.dtype <;> decide +kernel
  have device : (deviceContract geometry.device).isSome = true := by
    cases geometry.device <;> decide +kernel
  rw [Option.isSome_iff_exists] at dtype device
  obtain ⟨dtypeId, dtype⟩ := dtype
  obtain ⟨deviceId, device⟩ := device
  unfold geometryContract
  rw [dtype, device]
  rfl

theorem geometryContract_valid {geometry : SignalGeometry} {contract : TensorGeometryContract}
    (accepted : validateGeometry geometry = .ok ())
    (converted : geometryContract geometry = some contract) : contract.isValid = true := by
  unfold validateGeometry invalidWhen at accepted
  rw [refuseWhen_eq_ok] at accepted
  unfold geometryContract at converted
  simp only [Option.bind_eq_bind, Option.bind_eq_some_iff, Option.some.injEq] at converted
  obtain ⟨dtype, -, device, -, same⟩ := converted
  rw [← same]
  simp only [TensorGeometryContract.isValid, Bool.and_eq_true, bne_iff_ne]
  omega

/-- The host describes itself for every application version. -/
theorem hostRuntime_valid (semver : Semver crates) {app : String} {version : crates.Version}
    (read : crates.parseVersion app = some version) :
    ∃ host, hostRuntime app = some host ∧ host.appVersion = version ∧ host.validate = .ok () ∧
      host.protocolVersions = [2] ∧ host.deckHostApis = [1] ∧ host.deckOperatorApis = [1] ∧
        host.codecAdapterApis = [1] := by
  have set : ∀ values : List String, (contractSet values).isSome = true → values ≠ [] →
      ∃ ids, contractSet values = some ids ∧ ids ≠ [] := by
    intro values known nonempty
    obtain ⟨ids, converted⟩ := Option.isSome_iff_exists.mp known
    refine ⟨ids, converted, fun empty => nonempty ?_⟩
    have same := (of_mapM_eq_some converted).1
    rw [empty] at same
    exact List.eq_nil_of_length_eq_zero same.symm
  obtain ⟨abis, abisRead, someAbi⟩ := set ["latentdeck.tensor.v1"] (by decide +kernel) (by simp)
  obtain ⟨implementations, implementationsRead, someImplementation⟩ :=
    set ["cpython"] (by decide +kernel) (by simp)
  obtain ⟨platforms, platformsRead, somePlatform⟩ := set ["win_amd64"] (by decide +kernel) (by simp)
  obtain ⟨dtypes, dtypesRead, someDtype⟩ :=
    set ["float16", "float32"] (by decide +kernel) (by simp)
  obtain ⟨devices, devicesRead, someDevice⟩ := set ["cpu", "cuda"] (by decide +kernel) (by simp)
  obtain ⟨capabilities, capabilitiesRead⟩ := Option.isSome_iff_exists.mp
    (capabilityContracts_isSome
      [.player, .realtime, .resample, .snapshotCapture, .liveCapture, .rawImport])
  have known : ∀ text : String, (SemVer.parse text.toList).isSome = true →
      ∃ parsed, crates.parseVersion text = some parsed := by
    intro text parses
    rw [← semver.parseVersion_isSome] at parses
    exact Option.isSome_iff_exists.mp parses
  obtain ⟨python, pythonRead⟩ := known "3.13.0" (by decide +kernel)
  obtain ⟨lcSpec, lcSpecRead⟩ := known "0.1.0" (by decide +kernel)
  unfold hostRuntime
  rw [read, abisRead, implementationsRead, pythonRead, platformsRead, lcSpecRead, dtypesRead,
    devicesRead, capabilitiesRead]
  refine ⟨_, rfl, rfl, ?_, rfl, rfl, rfl, rfl⟩
  unfold PackageHostRuntime.validate
  rw [refuseWhen_eq_ok]
  simp [someAbi, someImplementation, somePlatform, someDtype, someDevice]

/-- Both contracts are valid. -/
def ValidPair (semver : Semver crates)
    (requires : DeckPackageRequirements crates.Version semver.VersionReq)
    (provides : CodecPackageProvides crates.Version semver.VersionReq) : Prop :=
  semver.validRequirements requires = true ∧ semver.validProvides provides = true

/-- The host speaks the worker protocol of both contracts. -/
def SpokenPair (semver : Semver crates) (host : PackageHostRuntime crates.Version)
    (requires : DeckPackageRequirements crates.Version semver.VersionReq)
    (provides : CodecPackageProvides crates.Version semver.VersionReq) : Prop :=
  requires.protocolVersion = provides.protocolVersion ∧
    requires.protocolVersion ∈ host.protocolVersions

/-- The host has the interfaces of both contracts, and its application is one that they take. -/
def ServedPair (semver : Semver crates) (host : PackageHostRuntime crates.Version)
    (requires : DeckPackageRequirements crates.Version semver.VersionReq)
    (provides : CodecPackageProvides crates.Version semver.VersionReq) : Prop :=
  semver.matchesReq requires.appHostApi.requirement host.appVersion = true ∧
    semver.matchesReq provides.appHostApi.requirement host.appVersion = true ∧
    requires.deckHostApi ∈ host.deckHostApis ∧ requires.deckOperatorApi ∈ host.deckOperatorApis ∧
    provides.codecAdapterApi ∈ host.codecAdapterApis

/-- Two ready packages are invalid when a contract is, and lack the host's interfaces when the host
speaks their protocol and does not serve them. -/
theorem resolvePackagePair_reason (semver : Semver crates)
    {host : PackageHostRuntime crates.Version}
    {deck : DeckPackageVersion crates.Version semver.VersionReq}
    {codec : CodecPackageVersion crates.Version semver.VersionReq}
    {requires : DeckPackageRequirements crates.Version semver.VersionReq}
    {provides : CodecPackageProvides crates.Version semver.VersionReq}
    (hosted : host.validate = .ok ()) (deckReady : deck.readiness = .ready)
    (codecReady : codec.readiness = .ready) (required : deck.requires = some requires)
    (provided : codec.provides = some provides) :
    ∃ decision, semver.resolvePackagePair host deck codec = .ok decision ∧
      (decision.reason ≠ .packageInvalid ↔ semver.ValidPair requires provides) ∧
      (decision.reason = .unsupportedHostApi ↔ semver.ValidPair requires provides ∧
        semver.SpokenPair host requires provides ∧ ¬ semver.ServedPair host requires provides) := by
  unfold resolvePackagePair
  rw [hosted, deckReady, codecReady, required, provided]
  dsimp only [bind, Except.bind]
  have trusted : ¬ (PackageReadiness.ready.trust = .untrusted ∨
      PackageReadiness.ready.trust = .untrusted) := by decide
  rw [if_neg trusted]
  split
  · rename_i stops
    have invalid : ¬ semver.ValidPair requires provides := by
      rintro ⟨deckValid, codecValid⟩
      rw [deckValid, codecValid] at stops
      exact absurd stops (by decide)
    exact ⟨_, rfl, iff_of_false (fun other => other rfl) invalid,
      iff_of_false nofun fun all => invalid all.1⟩
  · rename_i passes
    simp only [not_or, Bool.not_eq_false] at passes
    have valid : semver.ValidPair requires provides := passes.2.2
    split
    · rename_i foreign
      refine ⟨_, rfl, iff_of_true nofun valid, iff_of_false nofun fun all => ?_⟩
      exact foreign.elim (fun other => other all.2.1.1) fun other => other all.2.1.2
    · rename_i spoken
      rw [not_or, not_not, not_not] at spoken
      split
      · rename_i unserved
        refine ⟨_, rfl, iff_of_true nofun valid, iff_of_true rfl ⟨valid, spoken, ?_⟩⟩
        rintro ⟨deckMatches, codecMatches, hostApi, operatorApi, adapterApi⟩
        rw [deckMatches, codecMatches] at unserved
        simp [hostApi, operatorApi, adapterApi] at unserved
      · rename_i served
        simp only [not_or, Bool.not_eq_false, not_not] at served
        have later : ∀ decision : PackageCompatibilityDecision crates.Version,
            decision.reason ≠ .packageInvalid → decision.reason ≠ .unsupportedHostApi →
            (decision.reason ≠ .packageInvalid ↔ semver.ValidPair requires provides) ∧
            (decision.reason = .unsupportedHostApi ↔ semver.ValidPair requires provides ∧
              semver.SpokenPair host requires provides ∧
                ¬ semver.ServedPair host requires provides) := fun decision known other =>
          ⟨iff_of_true known valid, iff_of_false other fun all => all.2.2 served⟩
        split
        · exact ⟨_, rfl, later _ nofun nofun⟩
        · split
          · exact ⟨_, rfl, later _ nofun nofun⟩
          · split
            · exact ⟨_, rfl, later _ nofun nofun⟩
            · exact ⟨_, rfl, later _ nofun nofun⟩

end Semver

/-- The limits of the contract values that the manifest checks do not know: package identifier,
application range, Python version and torch build. -/
structure Convertible (packageId minimum maximum : String) (python : PythonConstraint)
    (torch : String) : Prop where
  identifier : packageId.utf8ByteSize ≤ 128
  range : minimum.utf8ByteSize + maximum.utf8ByteSize ≤ 251
  python : ∀ part ∈ partsOf '.' python.version, SemVer.isPlainNumber part = true
  torch : torch.utf8ByteSize ≤ 120

def DeckPackManifest.Convertible (manifest : DeckPackManifest) : Prop :=
  Packages.Convertible manifest.deckId manifest.compatibility.appMinInclusive
    manifest.compatibility.appMaxExclusive manifest.compatibility.python
    manifest.compatibility.torchExactBuild

def CodecPackManifest.Convertible (manifest : CodecPackManifest) : Prop :=
  Packages.Convertible manifest.packId manifest.compatibility.appMinInclusive
    manifest.compatibility.appMaxExclusive manifest.compatibility.python
    manifest.compatibility.torchExactBuild

namespace Semver

/-- The three conversions that a deck and a codec pack share. -/
theorem convertible_iff (semver : Semver crates) {id version minimum maximum tensorAbi torch : String}
    {python : PythonConstraint} (identified : validateReverseDnsId id = .ok ())
    (versioned : crates.validatePackageVersion version = .ok ())
    (ranged : crates.validateVersionRange minimum maximum = .ok ())
    (constrained : crates.validateRuntimeConstraints tensorAbi python torch = .ok ()) :
    Convertible id minimum maximum python torch ↔
      (packageIdentity id version : Option (PackageIdentity crates.Version)).isSome = true ∧
        (semver.appRequirement minimum maximum).isSome = true ∧
        ∃ runtime : PackageRuntimeContract crates.Version,
          runtimeContract tensorAbi python torch = some runtime ∧ validRuntime runtime = true := by
  rw [packageIdentity_isSome identified versioned, semver.appRequirement_isSome ranged]
  have build : ∀ runtime : PackageRuntimeContract crates.Version,
      runtimeContract tensorAbi python torch = some runtime →
        (validRuntime runtime = true ↔ torch.utf8ByteSize ≤ 120) := fun runtime converted =>
    semver.validRuntime_iff constrained converted
  have plain := semver.runtimeContract_isSome constrained
  constructor
  · intro convertible
    obtain ⟨runtime, converted⟩ := Option.isSome_iff_exists.mp (plain.mpr convertible.python)
    exact ⟨convertible.identifier, convertible.range, runtime, converted,
      (build runtime converted).mpr convertible.torch⟩
  · rintro ⟨identifier, range, runtime, converted, valid⟩
    exact ⟨identifier, range, plain.mp (Option.isSome_iff_exists.mpr ⟨runtime, converted⟩),
      (build runtime converted).mp valid⟩

def DeckReady (semver : Semver crates) (manifest : DeckPackManifest) : Prop :=
  ∃ deck requires, semver.deckVersion manifest .ready = some deck ∧ deck.readiness = .ready ∧
    deck.requires = some requires ∧ semver.validRequirements requires = true

/-- A codec contract that the resolver takes. -/
def CodecReady (semver : Semver crates) (manifest : CodecPackManifest) : Prop :=
  ∃ codec provides, semver.codecVersion manifest .ready = some codec ∧ codec.readiness = .ready ∧
    codec.provides = some provides ∧ semver.validProvides provides = true

/-- An accepted deck has a contract that the resolver takes when it keeps to the limits. -/
theorem deckReady_iff (semver : Semver crates) {manifest : DeckPackManifest}
    (accepted : crates.validateDeckManifest manifest = .ok ()) :
    semver.DeckReady manifest ↔ manifest.Convertible := by
  unfold Crates.validateDeckManifest Crates.validateDeckSignal invalidWhen at accepted
  simp only [check_eq_ok, checkEach_eq_ok] at accepted
  simp only [refuseWhen_eq_ok, not_or, not_not] at accepted
  obtain ⟨-, identified, versioned, -, ranged, ⟨hostApi, protocol, operatorApi⟩, constrained, -, -,
    -, ⟨⟨slots, -⟩, -, -, -, -, -, ⟨someGeometry, -⟩, geometries, -, timing, -, -, profiles⟩, -⟩ :=
    accepted
  unfold DeckPackManifest.Convertible
  rw [semver.convertible_iff identified versioned ranged constrained]
  obtain ⟨geometryContracts, geometriesRead⟩ := Option.isSome_iff_exists.mp
    (mapM_isSome.mpr fun geometry (_ : geometry ∈ manifest.signal.geometryAllowlist) =>
      geometryContract_isSome geometry)
  obtain ⟨capabilities, capabilitiesRead⟩ := Option.isSome_iff_exists.mp
    (capabilityContracts_isSome manifest.signal.requiredCapabilities)
  have geometriesValid : geometryContracts.isEmpty = false ∧
      geometryContracts.all TensorGeometryContract.isValid = true := by
    have made := of_mapM_eq_some geometriesRead
    constructor
    · cases geometryContracts with
      | nil => exact absurd (List.eq_nil_of_length_eq_zero made.1.symm) someGeometry
      | cons first rest => rfl
    · apply List.all_eq_true.mpr
      intro contract within
      obtain ⟨geometry, among, read⟩ := made.2 contract within
      exact geometryContract_valid (geometries geometry among) read
  have allowed : ∃ allowlist : Option (List (ProfileContract crates.Version)),
      allowedProfiles manifest.signal.profileAllowlist = some allowlist ∧
        (allowlist.all fun profiles => !profiles.isEmpty) = true := by
    cases listed : manifest.signal.profileAllowlist with
    | none => exact ⟨none, rfl, rfl⟩
    | some keys =>
      rw [listed] at profiles
      dsimp only at profiles
      rw [check_eq_ok, refuseWhen_eq_ok, not_or, check_eq_ok, checkEach_eq_ok] at profiles
      obtain ⟨⟨someKey, -⟩, each, -⟩ := profiles
      obtain ⟨contracts, read⟩ := Option.isSome_iff_exists.mp
        (mapM_isSome.mpr fun key within => profileContract_isSome (each key within))
      refine ⟨some contracts, ?_, ?_⟩
      · have converted : keys.mapM profileContract = some contracts := read
        show (keys.mapM profileContract).map some = some (some contracts)
        rw [converted]
        rfl
      · have same := (of_mapM_eq_some read).1
        cases contracts with
        | nil => exact absurd (List.eq_nil_of_length_eq_zero same.symm) someKey
        | cons first rest => rfl
  obtain ⟨allowlist, allowlistRead, allowlistValid⟩ := allowed
  have timed : DeckTimingContract.isValid ⟨manifest.signal.timing.framesPerSecondNumerator,
      manifest.signal.timing.framesPerSecondDenominator,
      manifest.signal.timing.samplesPerSlot⟩ = true := by
    unfold validateTiming invalidWhen at timing
    rw [refuseWhen_eq_ok] at timing
    simp only [DeckTimingContract.isValid, Bool.and_eq_true, bne_iff_ne]
    omega
  unfold DeckReady deckVersion
  rw [allowlistRead, geometriesRead, capabilitiesRead]
  constructor
  · rintro ⟨deck, requires, converted, -, required, valid⟩
    simp only [Option.bind_eq_bind, Option.bind_eq_some_iff, Option.some.injEq] at converted
    obtain ⟨identity, identityRead, requirement, requirementRead, runtime, runtimeRead, _, _, _, _,
      _, _, same⟩ := converted
    rw [← same] at required
    cases required
    simp only [validRequirements, Bool.and_eq_true] at valid
    exact ⟨Option.isSome_iff_exists.mpr ⟨_, identityRead⟩,
      Option.isSome_iff_exists.mpr ⟨_, requirementRead⟩, runtime, runtimeRead,
      valid.1.1.1.1.2⟩
  · rintro ⟨identityRead, requirementRead, runtime, runtimeRead, valid⟩
    obtain ⟨identity, identityRead⟩ := Option.isSome_iff_exists.mp identityRead
    obtain ⟨requirement, requirementRead⟩ := Option.isSome_iff_exists.mp requirementRead
    rw [identityRead, requirementRead, runtimeRead]
    refine ⟨_, _, rfl, rfl, rfl, ?_⟩
    simp only [validRequirements, Bool.and_eq_true, bne_iff_ne, decide_eq_true_eq]
    rw [geometriesValid.1]
    exact ⟨⟨⟨⟨⟨⟨⟨⟨slots, protocol⟩, hostApi⟩, operatorApi⟩, valid⟩, rfl⟩, geometriesValid.2⟩, timed⟩,
      allowlistValid⟩

/-- An accepted codec pack has a contract that the resolver takes when it keeps to the limits. -/
theorem codecReady_iff (semver : Semver crates) {manifest : CodecPackManifest}
    (accepted : crates.validateCodecManifest manifest = .ok ()) :
    semver.CodecReady manifest ↔ manifest.Convertible := by
  unfold Crates.validateCodecManifest invalidWhen at accepted
  simp only [check_eq_ok, checkEach_eq_ok] at accepted
  simp only [refuseWhen_eq_ok, not_or, not_not] at accepted
  obtain ⟨-, identified, versioned, -, ranged, ⟨protocol, adapterApi⟩, constrained,
    ⟨someVersion, -⟩, versions, -, ⟨someProfile, -⟩, profiles, -⟩ := accepted
  unfold CodecPackManifest.Convertible
  rw [semver.convertible_iff identified versioned ranged constrained]
  obtain ⟨capabilities, capabilitiesRead⟩ := Option.isSome_iff_exists.mp
    (capabilityContracts_isSome manifest.capabilities)
  obtain ⟨versionContracts, versionsRead⟩ := Option.isSome_iff_exists.mp
    (mapM_isSome.mpr fun version within => by
      obtain ⟨parsed, read, -⟩ := semver.parse_of_validateSemver (versions version within)
      exact Option.isSome_iff_exists.mpr ⟨parsed, read⟩)
  obtain ⟨profileContracts, profilesRead⟩ := Option.isSome_iff_exists.mp
    (mapM_isSome.mpr fun key within => profileContract_isSome (profiles key within))
  have populated : versionContracts.isEmpty = false ∧ profileContracts.isEmpty = false := by
    have versionsMade := (of_mapM_eq_some versionsRead).1
    have profilesMade := (of_mapM_eq_some profilesRead).1
    constructor
    · cases versionContracts with
      | nil => exact absurd (List.eq_nil_of_length_eq_zero versionsMade.symm) someVersion
      | cons first rest => rfl
    · cases profileContracts with
      | nil => exact absurd (List.eq_nil_of_length_eq_zero profilesMade.symm) someProfile
      | cons first rest => rfl
  unfold CodecReady codecVersion
  rw [versionsRead, profilesRead, capabilitiesRead]
  constructor
  · rintro ⟨codec, provides, converted, -, provided, valid⟩
    simp only [Option.bind_eq_bind, Option.bind_eq_some_iff, Option.some.injEq] at converted
    obtain ⟨identity, identityRead, requirement, requirementRead, runtime, runtimeRead, _, _, _, _,
      _, _, same⟩ := converted
    rw [← same] at provided
    cases provided
    simp only [validProvides, Bool.and_eq_true] at valid
    exact ⟨Option.isSome_iff_exists.mpr ⟨_, identityRead⟩,
      Option.isSome_iff_exists.mpr ⟨_, requirementRead⟩, runtime, runtimeRead, valid.1.1.2⟩
  · rintro ⟨identityRead, requirementRead, runtime, runtimeRead, valid⟩
    obtain ⟨identity, identityRead⟩ := Option.isSome_iff_exists.mp identityRead
    obtain ⟨requirement, requirementRead⟩ := Option.isSome_iff_exists.mp requirementRead
    rw [identityRead, requirementRead, runtimeRead]
    refine ⟨_, _, rfl, rfl, rfl, ?_⟩
    simp only [validProvides, Bool.and_eq_true, bne_iff_ne]
    rw [populated.1, populated.2]
    exact ⟨⟨⟨⟨protocol, adapterApi⟩, valid⟩, rfl⟩, rfl⟩

end Semver

/-- The worker protocol of the host is that of both packages. -/
def Spoken (deck : DeckPackManifest) (codec : CodecPackManifest) : Prop :=
  deck.compatibility.workerProtocol = 2 ∧ codec.compatibility.workerProtocol = 2

/-- The interfaces of the host are those of both packages. -/
def Served (deck : DeckPackManifest) (codec : CodecPackManifest) : Prop :=
  deck.compatibility.deckHostApi = 1 ∧ deck.compatibility.deckOperatorApi = 1 ∧
    codec.compatibility.codecAdapterApi = 1

namespace Semver

/-- The contract of a deck asks for what its manifest does. -/
theorem deckVersion_parts (semver : Semver crates) {manifest : DeckPackManifest}
    {deck : DeckPackageVersion crates.Version semver.VersionReq}
    (converted : semver.deckVersion manifest .ready = some deck) :
    deck.readiness = .ready ∧ ∃ requires, deck.requires = some requires ∧
      semver.appRequirement manifest.compatibility.appMinInclusive
        manifest.compatibility.appMaxExclusive = some requires.appHostApi ∧
      requires.protocolVersion = manifest.compatibility.workerProtocol ∧
      requires.deckHostApi = manifest.compatibility.deckHostApi ∧
      requires.deckOperatorApi = manifest.compatibility.deckOperatorApi := by
  unfold deckVersion at converted
  simp only [Option.bind_eq_bind, Option.bind_eq_some_iff, Option.some.injEq] at converted
  obtain ⟨_, -, requirement, requirementRead, _, -, _, -, _, -, _, -, same⟩ := converted
  rw [← same]
  exact ⟨rfl, _, rfl, requirementRead, rfl, rfl, rfl⟩

/-- The contract of a codec pack provides what its manifest does. -/
theorem codecVersion_parts (semver : Semver crates) {manifest : CodecPackManifest}
    {codec : CodecPackageVersion crates.Version semver.VersionReq}
    (converted : semver.codecVersion manifest .ready = some codec) :
    codec.readiness = .ready ∧ ∃ provides, codec.provides = some provides ∧
      semver.appRequirement manifest.compatibility.appMinInclusive
        manifest.compatibility.appMaxExclusive = some provides.appHostApi ∧
      provides.protocolVersion = manifest.compatibility.workerProtocol ∧
      provides.codecAdapterApi = manifest.compatibility.codecAdapterApi := by
  unfold codecVersion at converted
  simp only [Option.bind_eq_bind, Option.bind_eq_some_iff, Option.some.injEq] at converted
  obtain ⟨_, -, requirement, requirementRead, _, -, _, -, _, -, _, -, same⟩ := converted
  rw [← same]
  exact ⟨rfl, _, rfl, requirementRead, rfl, rfl⟩

/-- Two ready packages are not invalid when both contracts are taken. The answer is then that the
host's interfaces are unsupported when the host speaks the protocol of the packages and does not
serve them, or the requirement of one does not match the application. -/
theorem resolved_iff (semver : Semver crates) (deck : DeckPackManifest) (codec : CodecPackManifest)
    {app : String} {version : crates.Version} (read : crates.parseVersion app = some version) :
    ((semver.resolvePackageCompatibility deck codec app).reason ≠ .packageInvalid ↔
      semver.DeckReady deck ∧ semver.CodecReady codec) ∧
    (semver.DeckReady deck ∧ semver.CodecReady codec → ∃ required provided,
      semver.appRequirement deck.compatibility.appMinInclusive
        deck.compatibility.appMaxExclusive = some required ∧
      semver.appRequirement codec.compatibility.appMinInclusive
        codec.compatibility.appMaxExclusive = some provided ∧
      ((semver.resolvePackageCompatibility deck codec app).reason = .unsupportedHostApi ↔
        Spoken deck codec ∧ ¬ (Served deck codec ∧
          semver.matchesReq required.requirement version = true ∧
          semver.matchesReq provided.requirement version = true))) := by
  obtain ⟨host, hostRead, running, hosted, protocols, hostApis, operatorApis, adapterApis⟩ :=
    semver.hostRuntime_valid read
  unfold resolvePackageCompatibility
  rw [hostRead]
  cases deckRead : semver.deckVersion deck .ready with
  | none =>
    have unready : ¬ (semver.DeckReady deck ∧ semver.CodecReady codec) := by
      rintro ⟨⟨contract, -, converted, -⟩, -⟩
      exact nomatch deckRead.symm.trans converted
    exact ⟨iff_of_false (fun other => other rfl) unready, fun ready => absurd ready unready⟩
  | some deckContract =>
    cases codecRead : semver.codecVersion codec .ready with
    | none =>
      have unready : ¬ (semver.DeckReady deck ∧ semver.CodecReady codec) := by
        rintro ⟨-, contract, -, converted, -⟩
        exact nomatch codecRead.symm.trans converted
      exact ⟨iff_of_false (fun other => other rfl) unready, fun ready => absurd ready unready⟩
    | some codecContract =>
      obtain ⟨deckReady, requires, required, requirement, protocol, hostApi, operatorApi⟩ :=
        semver.deckVersion_parts deckRead
      obtain ⟨codecReady, provides, provided, codecRequirement, codecProtocol, adapterApi⟩ :=
        semver.codecVersion_parts codecRead
      obtain ⟨decision, resolved, valid, unsupported⟩ :=
        semver.resolvePackagePair_reason hosted deckReady codecReady required provided
      have ready : semver.ValidPair requires provides ↔
          semver.DeckReady deck ∧ semver.CodecReady codec := by
        constructor
        · intro valid
          exact ⟨⟨_, _, deckRead, deckReady, required, valid.1⟩,
            ⟨_, _, codecRead, codecReady, provided, valid.2⟩⟩
        · rintro ⟨⟨deck', requires', deckSame, -, required', deckValid⟩,
            codec', provides', codecSame, -, provided', codecValid⟩
          cases deckRead.symm.trans deckSame
          cases codecRead.symm.trans codecSame
          cases required.symm.trans required'
          cases provided.symm.trans provided'
          exact ⟨deckValid, codecValid⟩
      unfold resolveContracts
      dsimp only
      rw [resolved]
      dsimp only
      rw [ready] at valid
      refine ⟨valid, fun both => ⟨_, _, requirement, codecRequirement, ?_⟩⟩
      rw [unsupported, ready, and_iff_right both]
      unfold SpokenPair ServedPair Spoken Served
      rw [protocols, hostApis, operatorApis, adapterApis, protocol, codecProtocol, hostApi,
        operatorApi, adapterApi, running]
      simp only [List.mem_singleton]
      refine and_congr ?_ (not_congr ?_)
      · constructor
        · rintro ⟨same, two⟩
          exact ⟨two, same.symm.trans two⟩
        · rintro ⟨two, codecTwo⟩
          exact ⟨two.trans codecTwo.symm, two⟩
      · constructor
        · rintro ⟨deckMatches, codecMatches, interfaces⟩
          exact ⟨interfaces, deckMatches, codecMatches⟩
        · rintro ⟨interfaces, deckMatches, codecMatches⟩
          exact ⟨deckMatches, codecMatches, interfaces⟩

end Semver

/-- A relation holds of two bounds and an application, read as versions. -/
def OfVersions (relation : SemVer.Version → SemVer.Version → SemVer.Version → Bool)
    (minimum maximum app : String) : Prop :=
  ∃ low high version, SemVer.parse minimum.toList = some low ∧
    SemVer.parse maximum.toList = some high ∧ SemVer.parse app.toList = some version ∧
    relation low high version = true

/-- `minimum <= app < maximum` in the precedence of versions. -/
def InRange : String → String → String → Prop := OfVersions SemVer.inRange

/-- The application is in the ranges of both packages. -/
def InRanges (deck : DeckPackManifest) (codec : CodecPackManifest) (app : String) : Prop :=
  InRange deck.compatibility.appMinInclusive deck.compatibility.appMaxExclusive app ∧
    InRange codec.compatibility.appMinInclusive codec.compatibility.appMaxExclusive app

/-- Where the host serves both packages and is in their ranges, the application is a release, or in
each range a bound names the release that it precedes. -/
def PreReleaseCovered (deck : DeckPackManifest) (codec : CodecPackManifest) (app : String) : Prop :=
  Spoken deck codec → Served deck codec → InRanges deck codec app →
    OfVersions SemVer.preReleaseAllowed deck.compatibility.appMinInclusive
        deck.compatibility.appMaxExclusive app ∧
      OfVersions SemVer.preReleaseAllowed codec.compatibility.appMinInclusive
        codec.compatibility.appMaxExclusive app

namespace Semver

/-- The requirement of an accepted range matches the versions within the range, unless they are
pre-releases that no bound covers. -/
theorem matches_iff (semver : Semver crates) {minimum maximum app : String}
    {version : crates.Version} (ranged : crates.validateVersionRange minimum maximum = .ok ())
    (read : crates.parseVersion app = some version)
    {requirement : HostApiRequirement semver.VersionReq}
    (converted : semver.appRequirement minimum maximum = some requirement) :
    semver.matchesReq requirement.requirement version = true ↔
      InRange minimum maximum app ∧ OfVersions SemVer.preReleaseAllowed minimum maximum app := by
  obtain ⟨⟨low, lowRead⟩, high, highRead⟩ := semver.bounds_of_validateVersionRange ranged
  have short := (semver.appRequirement_isSome ranged).mp (converted ▸ rfl)
  obtain ⟨found, same, decides⟩ := semver.appRequirement_of_short lowRead highRead short
  cases converted.symm.trans same
  have viewed : SemVer.parse app.toList = some (semver.view version) := by
    rw [← semver.parse_view, read, Option.map_some]
  have holds : ∀ relation, OfVersions relation minimum maximum app ↔
      relation low high (semver.view version) = true := by
    intro relation
    constructor
    · rintro ⟨low', high', version', lowRead', highRead', read', related⟩
      cases lowRead.symm.trans lowRead'
      cases highRead.symm.trans highRead'
      cases viewed.symm.trans read'
      exact related
    · exact fun related => ⟨_, _, _, lowRead, highRead, viewed, related⟩
  rw [decides, SemVer.admits, Bool.and_eq_true, InRange, holds, holds]

/-- Two accepted packages are resolvable: the answer is not `package_invalid`, and of a host that
speaks their protocol it is `unsupported_host_api` exactly when the host does not have their
interfaces or the application is not in both ranges. -/
structure Resolvable (semver : Semver crates) (deck : DeckPackManifest) (codec : CodecPackManifest)
    (app : String) : Prop where
  resolved : (semver.resolvePackageCompatibility deck codec app).reason ≠ .packageInvalid
  hostApi : (semver.resolvePackageCompatibility deck codec app).reason = .unsupportedHostApi ↔
    Spoken deck codec ∧ ¬ (Served deck codec ∧ InRanges deck codec app)

/-- Two refusals agree where what only the first asks for follows from what both do. -/
theorem refusals_agree_iff {spoken served first second firstCovers secondCovers : Prop} :
    (spoken ∧ ¬ (served ∧ (first ∧ firstCovers) ∧ second ∧ secondCovers) ↔
      spoken ∧ ¬ (served ∧ first ∧ second)) ↔
    (spoken → served → first ∧ second → firstCovers ∧ secondCovers) := by
  tauto

/-- Two accepted packages are resolvable exactly when both keep to the limits of the contract values
and a bound covers a pre-release application within the ranges. -/
theorem accepted_packages_resolvable_iff (semver : Semver crates) {deckBytes codecBytes : Bytes}
    {deck : DeckPackManifest} {codec : CodecPackManifest} {app : String}
    (deckAccepted : crates.parseManifest .deckPack deckBytes = .ok (.deck deck))
    (codecAccepted : crates.parseManifest .codecPack codecBytes = .ok (.codec codec))
    (application : (SemVer.parse app.toList).isSome = true) :
    semver.Resolvable deck codec app ↔
      deck.Convertible ∧ codec.Convertible ∧ PreReleaseCovered deck codec app := by
  have deckChecked : crates.validateDeckManifest deck = .ok () := by
    unfold Crates.parseManifest at deckAccepted
    obtain ⟨manifest, -, checked⟩ := ok_of_bind deckAccepted
    rw [check_eq_ok] at checked
    cases checked.2
    exact checked.1
  have codecChecked : crates.validateCodecManifest codec = .ok () := by
    unfold Crates.parseManifest at codecAccepted
    obtain ⟨manifest, -, checked⟩ := ok_of_bind codecAccepted
    rw [check_eq_ok] at checked
    cases checked.2
    exact checked.1
  rw [← semver.parseVersion_isSome] at application
  obtain ⟨version, read⟩ := Option.isSome_iff_exists.mp application
  have deckRanged : crates.validateVersionRange deck.compatibility.appMinInclusive
      deck.compatibility.appMaxExclusive = .ok () := by
    unfold Crates.validateDeckManifest at deckChecked
    simp only [check_eq_ok] at deckChecked
    exact deckChecked.2.2.2.2.1
  have codecRanged : crates.validateVersionRange codec.compatibility.appMinInclusive
      codec.compatibility.appMaxExclusive = .ok () := by
    unfold Crates.validateCodecManifest at codecChecked
    simp only [check_eq_ok] at codecChecked
    exact codecChecked.2.2.2.2.1
  obtain ⟨resolved, answered⟩ := semver.resolved_iff deck codec read
  rw [semver.deckReady_iff deckChecked, semver.codecReady_iff codecChecked] at resolved answered
  have covers : deck.Convertible ∧ codec.Convertible →
      (((semver.resolvePackageCompatibility deck codec app).reason = .unsupportedHostApi ↔
        Spoken deck codec ∧ ¬ (Served deck codec ∧ InRanges deck codec app)) ↔
        PreReleaseCovered deck codec app) := by
    intro limits
    obtain ⟨required, provided, deckConverted, codecConverted, answer⟩ := answered limits
    rw [answer, semver.matches_iff deckRanged read deckConverted,
      semver.matches_iff codecRanged read codecConverted]
    exact refusals_agree_iff
  constructor
  · intro resolvable
    have limits := resolved.mp resolvable.resolved
    exact ⟨limits.1, limits.2, (covers limits).mp resolvable.hostApi⟩
  · rintro ⟨deckLimits, codecLimits, covered⟩
    have limits := And.intro deckLimits codecLimits
    exact ⟨resolved.mpr limits, (covers limits).mpr covered⟩

end Semver

/-- Crates that read versions as the standard does, and two manifests from all bytes. -/
def standardCrates (deck : DeckPackManifest) (codec : CodecPackManifest) : Crates where
  Version := String
  parseVersion text := if (SemVer.parse text.toList).isSome then some text else none
  renderVersion version := version
  before first second :=
    match SemVer.parse first.toList, SemVer.parse second.toList with
    | some first, some second => SemVer.precedence first second == .lt
    | _, _ => false
  sha256 _ := zeroSha256
  sha256_canonical _ := isSha256_zeros
  decodeDeckManifest _ := some deck
  decodeCodecManifest _ := some codec
  decodeIntegrityCatalog _ := none
  isStrictJson _ := false
  isRfc3339 _ := false

def standardView (text : String) : SemVer.Version :=
  (SemVer.parse text.toList).getD ⟨0, 0, 0, [], []⟩

/-- The two bounds that a requirement writes. -/
def writtenBounds (source : String) : List Char × List Char :=
  ((source.toList.drop 2).takeWhile (· ≠ ','), ((source.toList.drop 2).dropWhile (· ≠ ',')).drop 3)

/-- Requirements of two bounds, read as they are written. -/
def standardSemver (deck : DeckPackManifest) (codec : CodecPackManifest) :
    Semver (standardCrates deck codec) where
  sameVersion := inferInstanceAs (DecidableEq String)
  view := standardView
  VersionReq := SemVer.Version × SemVer.Version
  parseReq source :=
    match SemVer.parse (writtenBounds source).1, SemVer.parse (writtenBounds source).2 with
    | some low, some high => some (low, high)
    | _, _ => none
  comparators _ := [.greaterEq, .less]
  matchesReq requirement version :=
    SemVer.admits requirement.1 requirement.2 (standardView version)
  parse_view text := by
    show (if (SemVer.parse text.toList).isSome = true then some text else none).map standardView = _
    cases read : SemVer.parse text.toList with
    | none => rfl
    | some version =>
      have viewed : standardView text = version := by
        unfold standardView
        rw [read]
        rfl
      exact congrArg some viewed
  parse_range minimum maximum low high lowRead highRead := by
    have written : writtenBounds (">=" ++ minimum ++ ", <" ++ maximum) =
        (minimum.toList, maximum.toList) := by
      have uncut : ∀ char ∈ minimum.toList, (decide (char ≠ ',')) = true := by
        intro char within
        rw [decide_eq_true_eq]
        intro comma
        have allowed := (SemVer.chars_of_parse lowRead).2 char within
        rw [comma] at allowed
        exact absurd allowed (by decide)
      have chars : (">=" ++ minimum ++ ", <" ++ maximum).toList.drop 2 =
          minimum.toList ++ ',' :: ' ' :: '<' :: maximum.toList := by
        simp [String.toList_append]
      unfold writtenBounds
      rw [chars, List.takeWhile_append_of_pos uncut, List.dropWhile_append_of_pos uncut]
      simp
    refine ⟨(low, high), ?_, rfl, fun version => rfl⟩
    rw [written, lowRead, highRead]

def sampleDeck (pythonVersion : String) : DeckPackManifest where
  manifestVersion := "1.0.0"
  kind := .deckPack
  deckId := "com.example.deck"
  deckVersion := "1.0.0"
  displayName := "Example"
  summary := "Example"
  publisher := ⟨"Example", none, .selfDeclared⟩
  license := ⟨"MIT", "NOTICE.md"⟩
  compatibility := {
    appMinInclusive := "0.1.0"
    appMaxExclusive := "1.0.0"
    deckHostApi := 1
    workerProtocol := 2
    deckOperatorApi := 1
    tensorAbi := "latentdeck.tensor.v1"
    python := ⟨.cpython, pythonVersion, "win_amd64"⟩
    torchExactBuild := "2.9.0+cpu" }
  runtime := ⟨.pythonOperatorStreamV1, "operator.json", "python", "example.main:create"⟩
  signal := {
    slots := 1
    roles := [⟨"source", "Source"⟩]
    defaultPermutation := ["source"]
    structuralCarrierRole := "source"
    geometryAllowlist := [⟨.fp16, .cuda, 1, 24, 1, 8, 8⟩]
    timing := ⟨24, 1, 4⟩
    requiredCapabilities := [.realtime]
    profileAllowlist := none }
  faceplatePath := "faceplate.json"
  integrity := ⟨"integrity.json", zeroSha256⟩

def sampleCodec (pythonVersion : String) : CodecPackManifest where
  manifestVersion := "2.0.0"
  kind := .codecPack
  packId := "com.example.codec"
  packVersion := "1.0.0"
  displayName := "Example"
  summary := "Example"
  publisher := ⟨"Example", none, .selfDeclared⟩
  license := ⟨"MIT", "NOTICE.md"⟩
  platform := ⟨.windows, .x86_64⟩
  compatibility := {
    appMinInclusive := "0.1.0"
    appMaxExclusive := "1.0.0"
    workerProtocol := 2
    codecAdapterApi := 1
    tensorAbi := "latentdeck.tensor.v1"
    python := ⟨.cpython, pythonVersion, "win_amd64"⟩
    torchExactBuild := "2.9.0+cpu"
    lcSpecVersions := ["0.1.0"]
    profiles := [⟨"example", "main", "1.0.0"⟩] }
  adapter := ⟨"com.example.adapter", "1.0.0", "example.main:create"⟩
  worker := {
    executable := "python.exe"
    arguments := []
    workingDirectory := "python"
    startTimeoutMs := 1000
    heartbeatTimeoutMs := 1000 }
  capabilities := [.player, .realtime, .resample, .snapshotCapture, .liveCapture]
  externalAssets := []
  runtimeLock := ⟨"runtime.lock", zeroSha256⟩
  integrity := ⟨"integrity.json", zeroSha256⟩

/-- The sample packages are accepted, and resolvable for the application 0.1.0. -/
theorem sample_packages_resolvable :
    (standardSemver (sampleDeck "3.13") (sampleCodec "3.13")).Resolvable (sampleDeck "3.13")
      (sampleCodec "3.13") "0.1.0" := by
  have deckAccepted : (standardCrates (sampleDeck "3.13") (sampleCodec "3.13")).parseManifest
      .deckPack [0x7B] = .ok (.deck (sampleDeck "3.13")) := by decide +kernel
  have codecAccepted : (standardCrates (sampleDeck "3.13") (sampleCodec "3.13")).parseManifest
      .codecPack [0x7B] = .ok (.codec (sampleCodec "3.13")) := by decide +kernel
  have application : SemVer.parse "0.1.0".toList = some ⟨0, 1, 0, [], []⟩ := by decide +kernel
  have release : OfVersions SemVer.preReleaseAllowed "0.1.0" "1.0.0" "0.1.0" :=
    ⟨⟨0, 1, 0, [], []⟩, ⟨1, 0, 0, [], []⟩, _, by decide +kernel, by decide +kernel, application, rfl⟩
  exact (Semver.accepted_packages_resolvable_iff _ deckAccepted codecAccepted
    (by decide +kernel)).mpr ⟨⟨by decide +kernel, by decide +kernel, by decide +kernel,
      by decide +kernel⟩, ⟨by decide +kernel, by decide +kernel, by decide +kernel,
      by decide +kernel⟩, fun _ _ _ => ⟨release, release⟩⟩

/-- The manifests of packages for Python 3.013 are accepted and their pair is invalid; and a
pre-release application within the ranges of accepted packages is unsupported. -/
theorem accepted_packages_unresolvable :
    (standardCrates (sampleDeck "3.013") (sampleCodec "3.013")).parseManifest .deckPack [0x7B] =
        .ok (.deck (sampleDeck "3.013")) ∧
      (standardCrates (sampleDeck "3.013") (sampleCodec "3.013")).parseManifest .codecPack [0x7B] =
        .ok (.codec (sampleCodec "3.013")) ∧
      (SemVer.parse "0.1.0".toList).isSome = true ∧
      ((standardSemver (sampleDeck "3.013") (sampleCodec "3.013")).resolvePackageCompatibility
        (sampleDeck "3.013") (sampleCodec "3.013") "0.1.0").reason = .packageInvalid ∧
      InRange "0.1.0" "1.0.0" "0.5.0-beta.1" ∧
      ((standardSemver (sampleDeck "3.13") (sampleCodec "3.13")).resolvePackageCompatibility
        (sampleDeck "3.13") (sampleCodec "3.13") "0.5.0-beta.1").reason = .unsupportedHostApi := by
  have low : SemVer.parse "0.1.0".toList = some ⟨0, 1, 0, [], []⟩ := by decide +kernel
  have high : SemVer.parse "1.0.0".toList = some ⟨1, 0, 0, [], []⟩ := by decide +kernel
  have app : SemVer.parse "0.5.0-beta.1".toList =
      some ⟨0, 5, 0, [.alphanumeric "beta".toList, .numeric 1], []⟩ := by decide +kernel
  exact ⟨by decide +kernel, by decide +kernel, by decide +kernel, by decide +kernel,
    ⟨_, _, _, low, high, app, by decide +kernel⟩, by decide +kernel⟩

end LatentDeck.Packages
