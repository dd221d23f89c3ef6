import LatentDeck.Library.Volume
import LatentDeck.Packages.Archive

/-!
# Extraction of a planned archive

An archive that is planned has portable paths, and no two of them, nor two of their prefixes, differ
only in the case of their letters. Its extraction therefore meets no name that is taken, on volumes
that tell upper from lower case as on volumes that do not.
-/

namespace LatentDeck.Packages

open Fallible

theorem joined_partsOf (path : String) : joined (partsOf '/' path) = path := by
  unfold joined partsOf
  rw [List.intercalate_splitOn, String.ofList_toList]

theorem partsOf_injective {first second : String} (same : partsOf '/' first = partsOf '/' second) :
    first = second := by
  rw [← joined_partsOf first, same, joined_partsOf]

theorem partsOf_ne_nil (path : String) : partsOf '/' path ≠ [] :=
  List.splitOn_ne_nil '/' path.toList

variable {path : String}

theorem no_separator {part : List Char} (isPart : part ∈ partsOf '/' path) : '/' ∉ part := by
  intro within
  have separates := (Text.mem_of_mem_part isPart within).2
  exact absurd separates (by decide)

variable {components : List (List Char)}

theorem partsOf_joined (nonempty : components ≠ []) (clean : ∀ part ∈ components, '/' ∉ part) :
    partsOf '/' (joined components) = components := by
  unfold partsOf joined
  rw [String.toList_ofList, List.splitOn_intercalate '/' clean nonempty]

variable {parent : String}

/-- The parents of a path are what stands above its components. -/
theorem mem_parentsOf :
    parent ∈ parentsOf path ↔ partsOf '/' parent ∈ Volume.above (partsOf '/' path) := by
  have clean : ∀ count, ∀ part ∈ (partsOf '/' path).take count, '/' ∉ part :=
    fun count part among => no_separator (List.mem_of_mem_take among)
  unfold parentsOf
  rw [List.mem_map, Volume.mem_above]
  constructor
  · rintro ⟨count, inside, rfl⟩
    rw [List.mem_range'_1] at inside
    have long : ((partsOf '/' path).take count).length = count := by
      rw [List.length_take]
      omega
    have nonempty : (partsOf '/' path).take count ≠ [] := by
      intro empty
      rw [empty, List.length_nil] at long
      omega
    rw [partsOf_joined nonempty (clean count), long]
    exact ⟨List.take_prefix count _, nonempty, by omega⟩
  · rintro ⟨isPrefix, nonempty, shorter⟩
    have positive := List.length_pos_of_ne_nil nonempty
    refine ⟨(partsOf '/' parent).length, ?_, ?_⟩
    · rw [List.mem_range'_1]
      omega
    · rw [← List.prefix_iff_eq_take.mp isPrefix, joined_partsOf]

/-- The prefixes of a path are the prefixes of its components. -/
theorem mem_prefixesOf {start : String} :
    start ∈ prefixesOf path ↔ partsOf '/' start <+: partsOf '/' path := by
  unfold prefixesOf
  rw [List.mem_append, List.mem_singleton, mem_parentsOf, Volume.mem_above]
  constructor
  · rintro (⟨isPrefix, -, -⟩ | rfl)
    · exact isPrefix
    · exact List.prefix_rfl
  · intro isPrefix
    by_cases shorter : (partsOf '/' start).length < (partsOf '/' path).length
    · exact Or.inl ⟨isPrefix, partsOf_ne_nil start, shorter⟩
    · have short := isPrefix.length_le
      exact Or.inr (partsOf_injective (isPrefix.eq_of_length (by omega)))

theorem parentsOf_trans {grand : String} (parental : parent ∈ parentsOf path)
    (upward : grand ∈ parentsOf parent) : grand ∈ parentsOf path := by
  rw [mem_parentsOf, Volume.mem_above] at parental upward ⊢
  exact ⟨upward.1.trans parental.1, upward.2.1, by omega⟩

theorem asciiLower_separator (char : Char) : (asciiLower char == '/') = (char == '/') := by
  unfold asciiLower
  by_cases upper : isUpper char = true
  · rw [if_pos upper]
    have letters : ∀ code : Fin 128, isUpper (Char.ofNat code.val) = true →
        (Char.ofNat (code.val + 32) == '/') = (Char.ofNat code.val == '/') := by decide
    have bound : char.toNat < 128 := by
      have last : char ≤ 'Z' := by
        simp only [isUpper, Bool.and_eq_true, decide_eq_true_eq] at upper
        exact upper.2
      have code : char.toNat ≤ 'Z'.toNat := UInt32.le_iff_toNat_le.mp (Char.le_def.mp last)
      exact Nat.lt_of_le_of_lt code (by decide)
    have letter := letters ⟨char.toNat, bound⟩
    simp only [Char.ofNat_toNat] at letter
    exact letter upper
  · rw [if_neg upper]

theorem partsOf_lower (path : String) :
    partsOf '/' (toAsciiLowercase path) = (partsOf '/' path).map (List.map asciiLower) := by
  unfold partsOf toAsciiLowercase
  rw [String.toList_ofList]
  exact Text.splitOnP_map fun char _ => asciiLower_separator char

theorem lower_eq_iff {first second : String} :
    toAsciiLowercase first = toAsciiLowercase second ↔
      (partsOf '/' first).map (List.map asciiLower) =
        (partsOf '/' second).map (List.map asciiLower) := by
  rw [← partsOf_lower, ← partsOf_lower]
  exact ⟨fun same => congrArg (partsOf '/') same, partsOf_injective⟩

theorem lower_mem_parentsOf (parental : parent ∈ parentsOf path) :
    toAsciiLowercase parent ∈ parentsOf (toAsciiLowercase path) := by
  rw [mem_parentsOf, Volume.mem_above] at parental ⊢
  rw [partsOf_lower, partsOf_lower, List.length_map, List.length_map]
  exact ⟨parental.1.map _, by simpa using parental.2.1, parental.2.2⟩

/-- A component that every volume takes as a name. -/
structure Portable (component : List Char) : Prop where
  nonempty : component ≠ []
  short : textBytes component ≤ 120
  plain : component ≠ ['.'] ∧ component ≠ ['.', '.']
  ended : component.getLast? ≠ some '.' ∧ component.getLast? ≠ some ' '
  /-- It holds neither a separator nor a mark of a drive nor a control or special character. -/
  clean : ∀ char ∈ component, 0x20 ≤ char.toNat ∧ char.toNat < 0x7f ∧ char ≠ '/' ∧ char ≠ '\\' ∧
    char ∉ "<>:\"|?*".toList
  unreserved : isReservedDevice ((stemOf component).map asciiUpper) = false

/-- The components of an accepted path are portable. -/
theorem portable_of_validated {allowDirectory : Bool}
    (accepted : validatePortableRelativePath path allowDirectory = .ok ()) :
    ∀ part ∈ partsOf '/' path, Portable part := by
  unfold validatePortableRelativePath invalidWhen at accepted
  rw [check_eq_ok, refuseWhen_eq_ok, check_eq_ok, checkEach_eq_ok] at accepted
  obtain ⟨whole, components, -⟩ := accepted
  intro part isPart
  have component := components part isPart
  unfold validateWindowsComponent invalidWhen at component
  rw [check_eq_ok, refuseWhen_eq_ok, refuseWhen_eq_ok] at component
  obtain ⟨formed, unreserved⟩ := component
  simp only [not_or] at whole formed
  obtain ⟨nonempty, short, current, parent, dotted, blank, chars⟩ := formed
  exact {
    nonempty := nonempty
    short := not_lt.mp short
    plain := ⟨current, parent⟩
    ended := ⟨dotted, blank⟩
    clean := by
      intro char within
      have separator : char ≠ '/' := fun same => no_separator isPart (same ▸ within)
      have inside : char ∈ path.toList := (Text.mem_of_mem_part isPart within).1
      have backslash : char ≠ '\\' := by
        intro same
        apply whole.2.2.2.2
        exact List.any_eq_true.mpr ⟨char, inside, by simp [same]⟩
      have allowed := fun bad => chars (List.any_eq_true.mpr ⟨char, within, bad⟩)
      simp only [Bool.or_eq_true, decide_eq_true_eq] at allowed
      exact ⟨not_lt.mp fun low => allowed (Or.inl (Or.inl low)),
        not_le.mp fun high => allowed (Or.inl (Or.inr high)), separator, backslash,
        fun special => allowed (Or.inr (List.contains_iff_mem.mpr special))⟩
    unreserved := Bool.eq_false_iff.mpr unreserved }

structure PlannedEntry (planned : ArchiveEntryPlan) : Prop where
  accepted : validatePortableRelativePath planned.path planned.directory = .ok ()
  folded : planned.normalized = toAsciiLowercase planned.path

variable {plan : List ArchiveEntryPlan}

/-- The entries of a plan are accepted, and no two agree in lowercase. -/
theorem planFrom_spec {index : Nat} {normalizedPaths : List String} {extracted : Nat}
    {archive : ZipArchive} (planned : planFrom index normalizedPaths extracted archive = .ok plan) :
    (∀ entry ∈ plan, PlannedEntry entry ∧ entry.normalized ∉ normalizedPaths) ∧
      (plan.map ArchiveEntryPlan.normalized).Nodup := by
  induction archive generalizing index normalizedPaths extracted plan with
  | nil =>
    rw [← Except.ok.inj planned]
    exact ⟨nofun, List.nodup_nil⟩
  | cons entry entries ih =>
    unfold planFrom at planned
    obtain ⟨first, made, planned⟩ := ok_of_bind planned
    obtain ⟨rest, later, same⟩ := ok_of_bind planned
    rw [← Except.ok.inj same]
    obtain ⟨each, distinct⟩ := ih later
    unfold planEntry archiveInvalidWhen at made
    rw [check_eq_ok, check_eq_ok, bind_eq_ok] at made
    obtain ⟨-, -, path, -, made⟩ := made
    rw [check_eq_ok, check_eq_ok, refuseWhen_eq_ok, check_eq_ok, check_eq_ok, check_eq_ok,
      check_eq_ok] at made
    obtain ⟨validated, fresh, -, -, -, -, entryMade⟩ := made
    rw [mapError_eq_ok] at validated
    have first_eq := Except.ok.inj entryMade
    constructor
    · intro planned among
      rcases List.mem_cons.mp among with here | after
      · rw [here, ← first_eq]
        exact ⟨⟨validated, rfl⟩, fresh⟩
      · obtain ⟨passed, absent⟩ := each planned after
        exact ⟨passed, fun within => absent (List.mem_cons_of_mem _ within)⟩
    · rw [List.map_cons, List.nodup_cons]
      refine ⟨?_, distinct⟩
      intro repeated
      obtain ⟨other, after, same⟩ := List.mem_map.mp repeated
      exact (each other after).2 (same ▸ List.mem_cons_self)

/-- The spellings of the paths of a plan and of their prefixes. -/
def spellings (plan : List ArchiveEntryPlan) : List String :=
  plan.flatMap fun entry => prefixesOf entry.path

/-- A plan whose extraction meets no taken name. -/
structure Portably (plan : List ArchiveEntryPlan) : Prop where
  planned : ∀ entry ∈ plan, PlannedEntry entry
  distinct : (plan.map fun entry => toAsciiLowercase entry.path).Nodup
  spelled : ∀ first ∈ spellings plan, ∀ second ∈ spellings plan,
    toAsciiLowercase first = toAsciiLowercase second → first = second
  leaves : ∀ file ∈ plannedFiles plan, ∀ entry ∈ plan,
    toAsciiLowercase file.path ∉ parentsOf (toAsciiLowercase entry.path)
  implied : ∀ entry ∈ plan, entry.directory = true →
    ∃ file ∈ plannedFiles plan, entry.path ∈ parentsOf file.path

theorem portably_of_planned {archive : ZipArchive}
    (planned : planArchive archive = .ok plan) : Portably plan := by
  unfold planArchive archiveInvalidWhen at planned
  rw [check_eq_ok, bind_eq_ok] at planned
  obtain ⟨-, made, started, planned⟩ := planned
  rw [check_eq_ok] at planned
  obtain ⟨hierarchy, same⟩ := planned
  have plans : made = plan := Except.ok.inj same
  subst plans
  obtain ⟨each, distinct⟩ := planFrom_spec started
  have folded : made.map ArchiveEntryPlan.normalized =
      made.map fun entry => toAsciiLowercase entry.path :=
    List.map_congr_left fun entry among => (each entry among).1.folded
  unfold validateArchiveHierarchy archiveInvalidWhen at hierarchy
  dsimp only at hierarchy
  rw [check_eq_ok, refuseWhen_eq_ok, check_eq_ok, refuseWhen_eq_ok, refuseWhen_eq_ok] at hierarchy
  obtain ⟨spelled, leaves, implied⟩ := hierarchy
  have above : ∀ entry ∈ made, entry.directory = true →
      ∃ file ∈ plannedFiles made, entry.path ∈ parentsOf file.path := by
    intro entry among directory
    by_contra unimplied
    apply implied
    refine ⟨entry, among, directory, ?_⟩
    intro within
    unfold impliedDirectories at within
    rw [List.mem_toFinset, List.mem_flatMap] at within
    obtain ⟨path, isFile, parental⟩ := within
    obtain ⟨file, fileAmong, here⟩ := List.mem_map.mp isFile
    exact unimplied ⟨file, fileAmong, here ▸ parental⟩
  have separate : ∀ file ∈ plannedFiles made, ∀ other ∈ plannedFiles made,
      toAsciiLowercase file.path ∉ parentsOf (toAsciiLowercase other.path) := by
    intro file fileAmong other otherAmong parental
    apply leaves
    have normal : ∀ entry ∈ plannedFiles made,
        toAsciiLowercase entry.path ∈ (plannedFiles made).map ArchiveEntryPlan.normalized := by
      intro entry among
      rw [← (each entry (List.mem_of_mem_filter among)).1.folded]
      exact List.mem_map_of_mem among
    exact ⟨_, normal other otherAmong, _, parental, normal file fileAmong⟩
  exact {
    planned := fun entry among => (each entry among).1
    distinct := folded ▸ distinct
    spelled := by
      intro first firstAmong second secondAmong lower
      by_contra different
      exact spelled ⟨first, firstAmong, second, secondAmong, lower, different⟩
    leaves := by
      intro file fileAmong entry among parental
      by_cases directory : entry.directory = true
      · obtain ⟨other, otherAmong, upward⟩ := above entry among directory
        exact separate file fileAmong other otherAmong
          (parentsOf_trans (lower_mem_parentsOf upward) parental)
      · have isFile : entry ∈ plannedFiles made :=
          List.mem_filter.mpr ⟨among, by simpa using directory⟩
        exact separate file fileAmong entry isFile parental
    implied := above }

/-- One component on the way from a directory. -/
def stepInto (directory : List (List Char)) (component : List Char) : List (List Char) :=
  if component = [] ∨ component = ['.'] then directory
  else if component = ['.', '.'] then directory.dropLast
  else directory ++ [component]

/-- Whether a path starts at a root or at a drive of its own. -/
def isAnchored (path : String) : Bool :=
  path.toList.head? == some '/' || path.toList.head? == some '\\' ||
    (path.toList.drop 1).head? == some ':'

/-- Where a path leads from a root, for either separator. -/
def resolve (root : List (List Char)) (path : String) : List (List Char) :=
  (path.toList.splitOnP fun char => char == '/' || char == '\\').foldl stepInto
    (if isAnchored path then [] else root)

theorem foldl_stepInto (root : List (List Char)) (portable : ∀ part ∈ components, Portable part) :
    components.foldl stepInto root = root ++ components := by
  induction components generalizing root with
  | nil => rw [List.foldl_nil, List.append_nil]
  | cons part parts ih =>
    have name := portable part List.mem_cons_self
    have entered : stepInto root part = root ++ [part] := by
      unfold stepInto
      rw [if_neg (not_or.mpr ⟨name.nonempty, name.plain.1⟩), if_neg name.plain.2]
    have rest : ∀ other ∈ parts, Portable other :=
      fun other among => portable other (List.mem_cons_of_mem part among)
    rw [List.foldl_cons, entered, ih _ rest, List.append_assoc, List.singleton_append]

variable {planned : ArchiveEntryPlan}

theorem resolve_planned (entry : PlannedEntry planned) (root : List (List Char)) :
    resolve root planned.path = root ++ partsOf '/' planned.path := by
  have portable := portable_of_validated entry.accepted
  have chars : ∀ char ∈ planned.path.toList, char ≠ '\\' ∧ char ≠ ':' := by
    intro char within
    rcases Text.separates_or_mem_part (· == '/') within with separates | ⟨part, isPart, inside⟩
    · rw [beq_iff_eq.mp separates]
      decide
    · have clean := (portable part isPart).clean char inside
      refine ⟨clean.2.2.2.1, ?_⟩
      intro colon
      exact clean.2.2.2.2 (by rw [colon]; decide)
  have unanchored : isAnchored planned.path = false := by
    have accepted := entry.accepted
    unfold validatePortableRelativePath invalidWhen at accepted
    rw [check_eq_ok, refuseWhen_eq_ok] at accepted
    obtain ⟨whole, -⟩ := accepted
    simp only [not_or] at whole
    have backslash : planned.path.toList.head? ≠ some '\\' :=
      fun head => (chars _ (List.mem_of_head? head)).1 rfl
    have colon : planned.path.toList[1]? ≠ some ':' :=
      fun second => (chars _ (List.mem_of_getElem? second)).2 rfl
    simp [isAnchored, whole.2.2.1, backslash, colon]
  have cuts : (planned.path.toList.splitOnP fun char => char == '/' || char == '\\') =
      partsOf '/' planned.path := by
    have same : ((planned.path.toList.map id).splitOnP fun char => char == '/' || char == '\\') =
        (planned.path.toList.splitOnP (· == '/')).map (List.map id) :=
      Text.splitOnP_map fun char within => by simp [(chars char within).1]
    simpa [partsOf, List.splitOn] using same
  unfold resolve
  rw [unanchored, cuts]
  exact foldl_stepInto root portable

/-- Whether a volume tells names apart that differ in the case of their letters. -/
inductive CaseRule where
  | sensitive
  | insensitive

def CaseRule.key : CaseRule → List Char → List Char
  | .sensitive => id
  | .insensitive => List.map asciiLower

/-- The entries of a volume below the root of an extraction. -/
abbrev ExtractedEntries : Type := Volume.Entries (List Char) Bytes

/-- One planned entry of `extract_prepared`, given what copying an entry gives. A file is created
before it is copied. -/
def extractEntryOnto (rule : CaseRule) (copy : ArchiveEntryPlan → Except ErrorCode Bytes)
    (entries : ExtractedEntries) (planned : ArchiveEntryPlan) :
    Except ErrorCode ExtractedEntries := do
  let path := partsOf '/' planned.path
  if planned.directory then orError (Volume.createAll rule.key entries path) .io
  else do
    let housed ← orError (Volume.createAll rule.key entries path.dropLast) .io
    let _ ← orError (Volume.create rule.key housed path (.file [])) .io
    let bytes ← copy planned
    orError (Volume.create rule.key housed path (.file bytes)) .io

/-- The loop of `extract_prepared` on a volume. -/
def extractFromOnto (rule : CaseRule) (copy : ArchiveEntryPlan → Except ErrorCode Bytes) :
    ExtractedEntries → List ArchiveEntryPlan → Except ErrorCode ExtractedEntries
  | entries, [] => .ok entries
  | entries, planned :: plan => do
      let next ← extractEntryOnto rule copy entries planned
      extractFromOnto rule copy next plan

def itemOf (content : ArchiveEntryPlan → Bytes) (planned : ArchiveEntryPlan) :
    Volume.Item (List Char) Bytes where
  path := partsOf '/' planned.path
  content := if planned.directory then none else some (content planned)

/-- The paths of a plan can be written on either kind of volume. -/
theorem Portably.layout (portably : Portably plan) (rule : CaseRule)
    (content : ArchiveEntryPlan → Bytes) : Volume.Layout rule.key (plan.map (itemOf content)) := by
  have clean : ∀ (entry : ArchiveEntryPlan) start, start <+: partsOf '/' entry.path →
      ∀ part ∈ start, '/' ∉ part :=
    fun entry start isPrefix part among => no_separator (isPrefix.subset among)
  exact {
    nonempty := by
      intro item among
      obtain ⟨entry, -, rfl⟩ := List.mem_map.mp among
      exact partsOf_ne_nil entry.path
    spelled := by
      rintro first second ⟨firstNamed, one, oneAmong, onePrefix⟩
        ⟨secondNamed, other, otherAmong, otherPrefix⟩ same
      obtain ⟨left, leftAmong, rfl⟩ := List.mem_map.mp oneAmong
      obtain ⟨right, rightAmong, rfl⟩ := List.mem_map.mp otherAmong
      have firstParts := partsOf_joined firstNamed (clean left first onePrefix)
      have secondParts := partsOf_joined secondNamed (clean right second otherPrefix)
      cases rule with
      | sensitive => simpa [CaseRule.key] using same
      | insensitive =>
        have lower : toAsciiLowercase (joined first) = toAsciiLowercase (joined second) := by
          rw [lower_eq_iff, firstParts, secondParts]
          exact same
        have firstSpelled : joined first ∈ spellings plan :=
          List.mem_flatMap.mpr ⟨left, leftAmong, mem_prefixesOf.mpr (firstParts.symm ▸ onePrefix)⟩
        have secondSpelled : joined second ∈ spellings plan :=
          List.mem_flatMap.mpr
            ⟨right, rightAmong, mem_prefixesOf.mpr (secondParts.symm ▸ otherPrefix)⟩
        have texts := portably.spelled _ firstSpelled _ secondSpelled lower
        rw [← firstParts, ← secondParts, texts]
    distinct := by
      rw [List.map_map]
      have paths := portably.distinct
      apply List.Nodup.of_map (fun parts : List (List Char) => toAsciiLowercase (joined parts))
      rw [List.map_map]
      have same : ((fun parts : List (List Char) => toAsciiLowercase (joined parts)) ∘
          Volume.Item.path ∘ itemOf content) = fun entry => toAsciiLowercase entry.path := by
        funext entry
        exact congrArg toAsciiLowercase (joined_partsOf entry.path)
      rw [same]
      exact paths
    leaves := by
      intro file fileAmong bytes written item among upward
      obtain ⟨leaf, leafAmong, rfl⟩ := List.mem_map.mp fileAmong
      obtain ⟨entry, entryAmong, rfl⟩ := List.mem_map.mp among
      have isFile : leaf.directory = false := by
        by_contra directory
        rw [Bool.not_eq_false] at directory
        simp [itemOf, directory] at written
      have planned : leaf ∈ plannedFiles plan :=
        List.mem_filter.mpr ⟨leafAmong, by rw [isFile]; rfl⟩
      exact portably.leaves leaf planned entry entryAmong
        (lower_mem_parentsOf (mem_parentsOf.mpr upward)) }

variable {rule : CaseRule} {entries next : ExtractedEntries}

theorem create_other {path : List (List Char)}
    {node : Volume.Node Bytes} (created : Volume.create rule.key entries path node = some next)
    (other : Volume.Node Bytes) :
    Volume.create rule.key entries path other = some (entries ++ [(path, other)]) := by
  unfold Volume.create at created ⊢
  by_cases free : ((Volume.find rule.key entries path).isNone &&
      (Volume.above path).all (Volume.isDirectory rule.key entries)) = true
  · rw [if_pos free]
  · rw [if_neg free] at created
    exact nomatch created

variable {content : ArchiveEntryPlan → Bytes} {copy : ArchiveEntryPlan → Except ErrorCode Bytes}

/-- Extraction writes a planned entry that can be copied. -/
theorem extractEntryOnto_of_write
    (copied : planned.directory = false → copy planned = .ok (content planned))
    (written : Volume.write rule.key entries (itemOf content planned) = some next) :
    extractEntryOnto rule copy entries planned = .ok next := by
  unfold Volume.write itemOf at written
  unfold extractEntryOnto
  dsimp only at written ⊢
  by_cases directory : planned.directory = true
  · rw [if_pos directory] at written ⊢
    exact (orError_eq_ok ..).mpr written
  · rw [if_neg directory] at written ⊢
    dsimp only at written
    obtain ⟨housed, made, created⟩ := Option.bind_eq_some_iff.mp written
    rw [bind_eq_ok]
    refine ⟨housed, (orError_eq_ok ..).mpr made, ?_⟩
    rw [bind_eq_ok]
    refine ⟨_, (orError_eq_ok ..).mpr (create_other created (.file [])), ?_⟩
    rw [bind_eq_ok]
    exact ⟨content planned, copied (Bool.eq_false_iff.mpr directory),
      (orError_eq_ok ..).mpr created⟩

/-- Extraction writes a plan whose files can be copied. -/
theorem extractFromOnto_of_writeAll
    (copied : ∀ file ∈ plannedFiles plan, copy file = .ok (content file))
    (written : Volume.writeAll rule.key entries (plan.map (itemOf content)) = some next) :
    extractFromOnto rule copy entries plan = .ok next := by
  induction plan generalizing entries with
  | nil => exact congrArg Except.ok (Option.some.inj written)
  | cons planned plan ih =>
    rw [List.map_cons, Volume.writeAll] at written
    obtain ⟨between, first, rest⟩ := Option.bind_eq_some_iff.mp written
    have here : planned.directory = false → copy planned = .ok (content planned) := by
      intro isFile
      exact copied planned (List.mem_filter.mpr ⟨List.mem_cons_self, by rw [isFile]; rfl⟩)
    have later : ∀ file ∈ plannedFiles plan, copy file = .ok (content file) := by
      intro file among
      obtain ⟨within, isFile⟩ := List.mem_filter.mp among
      exact copied file (List.mem_filter.mpr ⟨List.mem_cons_of_mem planned within, isFile⟩)
    unfold extractFromOnto
    rw [bind_eq_ok]
    exact ⟨between, extractEntryOnto_of_write here first, ih later rest⟩

/-- The files of a volume that holds the items of a plan. -/
theorem holds_files {entries : ExtractedEntries}
    (holds : Volume.Holds (plan.map (itemOf content)) entries) (path : List (List Char))
    (bytes : Bytes) :
    (path, .file bytes) ∈ entries ↔
      ∃ file ∈ plannedFiles plan, partsOf '/' file.path = path ∧ content file = bytes := by
  rw [holds.files]
  constructor
  · rintro ⟨item, among, here, written⟩
    obtain ⟨file, within, rfl⟩ := List.mem_map.mp among
    by_cases directory : file.directory = true
    · simp [itemOf, directory] at written
    · have isFile : file ∈ plannedFiles plan :=
        List.mem_filter.mpr ⟨within, by simpa using directory⟩
      simp only [itemOf, if_neg directory] at written
      exact ⟨file, isFile, here, Option.some.inj written⟩
  · rintro ⟨file, among, here, rfl⟩
    obtain ⟨within, isFile⟩ := List.mem_filter.mp among
    have plain : file.directory = false := by simpa using isFile
    exact ⟨itemOf content file, List.mem_map_of_mem within, here, by simp [itemOf, plain]⟩

/-- The directories of a volume that holds the items of a plan are the parents of its files. -/
theorem holds_directories (portably : Portably plan)
    {entries : ExtractedEntries} (holds : Volume.Holds (plan.map (itemOf content)) entries)
    (path : List (List Char)) :
    (path, .directory) ∈ entries ↔
      ∃ file ∈ plannedFiles plan, path ∈ Volume.above (partsOf '/' file.path) := by
  rw [holds.directories]
  constructor
  · rintro ⟨item, among, needs⟩
    obtain ⟨entry, within, rfl⟩ := List.mem_map.mp among
    by_cases directory : entry.directory = true
    · obtain ⟨file, fileAmong, parental⟩ := portably.implied entry within directory
      rw [mem_parentsOf] at parental
      refine ⟨file, fileAmong, ?_⟩
      rcases needs with upward | ⟨rfl, -⟩
      · rw [Volume.mem_above] at upward parental ⊢
        exact ⟨upward.1.trans parental.1, upward.2.1, Nat.lt_trans upward.2.2 parental.2.2⟩
      · exact parental
    · have isFile : entry ∈ plannedFiles plan :=
        List.mem_filter.mpr ⟨within, by simpa using directory⟩
      rcases needs with upward | ⟨-, none⟩
      · exact ⟨entry, isFile, upward⟩
      · simp [itemOf, directory] at none
  · rintro ⟨file, among, upward⟩
    exact ⟨itemOf content file, List.mem_map_of_mem (List.mem_of_mem_filter among), Or.inl upward⟩

/-- The paths of an accepted archive are portable, and differ in lowercase with their prefixes.
Extraction into an empty root creates each file once and the directories above files, on both kinds
of volume, and after every part of the plan what that part names. -/
theorem plan_extracts {archive : ZipArchive} (accepted : planArchive archive = .ok plan) :
    (∀ entry ∈ plan, partsOf '/' entry.path ≠ [] ∧
        (∀ part ∈ partsOf '/' entry.path, Portable part) ∧
        ∀ root, resolve root entry.path = root ++ partsOf '/' entry.path) ∧
      (plan.map fun entry => toAsciiLowercase entry.path).Nodup ∧
      (∀ first ∈ spellings plan, ∀ second ∈ spellings plan,
        toAsciiLowercase first = toAsciiLowercase second → first = second) ∧
      (∀ file ∈ plannedFiles plan, ∀ entry ∈ plan,
        toAsciiLowercase file.path ∉ parentsOf (toAsciiLowercase entry.path)) ∧
      (∀ entry ∈ plan, entry.directory = true →
        ∃ file ∈ plannedFiles plan, entry.path ∈ parentsOf file.path) ∧
      (∀ rule copy (content : ArchiveEntryPlan → Bytes) part, part <+: plan →
        (∀ file ∈ plannedFiles part, copy file = .ok (content file)) →
        ∃ entries, extractFromOnto rule copy [] part = .ok entries ∧
          Volume.Holds (part.map (itemOf content)) entries) ∧
      ∀ rule copy (content : ArchiveEntryPlan → Bytes),
        (∀ file ∈ plannedFiles plan, copy file = .ok (content file)) →
        ∃ entries, extractFromOnto rule copy [] plan = .ok entries ∧
          (entries.map fun entry => entry.1.map rule.key).Nodup ∧
          (∀ path bytes, (path, .file bytes) ∈ entries ↔
            ∃ file ∈ plannedFiles plan, partsOf '/' file.path = path ∧ content file = bytes) ∧
          ∀ path, (path, .directory) ∈ entries ↔
            ∃ file ∈ plannedFiles plan, path ∈ Volume.above (partsOf '/' file.path) := by
  have portably := portably_of_planned accepted
  refine ⟨?_, portably.distinct, portably.spelled, portably.leaves, portably.implied, ?_, ?_⟩
  · intro entry among
    have planned := portably.planned entry among
    exact ⟨partsOf_ne_nil entry.path, portable_of_validated planned.accepted,
      resolve_planned planned⟩
  · intro rule copy content part isPrefix copied
    have layout := (portably.layout rule content).part (isPrefix.sublist.map (itemOf content))
    obtain ⟨entries, written, holds⟩ := Volume.writeAll_spec layout
    exact ⟨entries, extractFromOnto_of_writeAll copied written, holds⟩
  · intro rule copy content copied
    have layout := portably.layout rule content
    obtain ⟨entries, written, holds⟩ := Volume.writeAll_spec layout
    exact ⟨entries, extractFromOnto_of_writeAll copied written, holds.distinct_keys layout,
      holds_files holds, holds_directories portably holds⟩

/-- A file in a directory that has an entry of its own, and one beside it. -/
def nestedArchive : ZipArchive :=
  [⟨[0x64, 0x2f], false, .stored, none, 0, some []⟩,
    ⟨[0x64, 0x2f, 0x41], false, .deflated, none, 1, some [0x01]⟩,
    ⟨[0x42], false, .stored, none, 0, some []⟩]

def nestedPlan : List ArchiveEntryPlan :=
  [⟨0, "d", "d", true, 0⟩, ⟨1, "d/A", "d/a", false, 1⟩, ⟨2, "B", "b", false, 0⟩]

theorem nested_planned : planArchive nestedArchive = .ok nestedPlan := by decide +kernel

/-- On a volume that does not tell cases apart, the archive becomes its two files and the directory
above one of them. -/
theorem nested_extracts :
    ∃ entries, extractFromOnto .insensitive
        (fun planned => .ok (List.replicate planned.byteLength 1)) [] nestedPlan = .ok entries ∧
      ([['d'], ['A']], .file [1]) ∈ entries ∧ ([['B']], .file []) ∈ entries ∧
      ([['d']], .directory) ∈ entries := by
  obtain ⟨-, -, -, -, -, -, whole⟩ := plan_extracts nested_planned
  obtain ⟨entries, extracted, -, files, directories⟩ := whole .insensitive
    (fun planned => .ok (List.replicate planned.byteLength 1))
    (fun planned => List.replicate planned.byteLength 1) (fun _ _ => rfl)
  refine ⟨entries, extracted, ?_, ?_, ?_⟩
  · exact (files _ _).mpr ⟨⟨1, "d/A", "d/a", false, 1⟩, by decide, by decide +kernel, rfl⟩
  · exact (files _ _).mpr ⟨⟨2, "B", "b", false, 0⟩, by decide, by decide +kernel, rfl⟩
  · exact (directories _).mpr ⟨⟨1, "d/A", "d/a", false, 1⟩, by decide, by decide +kernel⟩

end LatentDeck.Packages
