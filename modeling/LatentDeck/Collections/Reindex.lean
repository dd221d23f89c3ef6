import LatentDeck.Archive.Signal
import LatentDeck.Library.Run
import Mathlib.Data.List.Nodup

/-!
# Registered paths

The library remembers for each path what a validation has found there, with the size and the time
of the file. Reindexing looks at size and time first and validates only what has changed.
-/

namespace LatentDeck.Collections

open Archive Fallible

structure RegularFile where
  content : List UInt8
  /-- The nanoseconds from the epoch to the modification, where the system tells them. -/
  modified : Option Nat
  readable : Bool
  fits : content.length < 2 ^ 63

/-- What `symlink_metadata` says of a path. -/
inductive Node where
  /-- `NotFound`. -/
  | missing
  | unavailable
  | special
  | regular (file : RegularFile)

structure Disk where
  /-- `symlink_metadata`. -/
  look : String → Node
  /-- `canonicalize`: an error, a path that is no Unicode, or a path. -/
  canonicalize : String → Option (Option String)
  same : ∀ path file canonical, look path = .regular file →
    canonicalize path = some (some canonical) → look canonical = .regular file

/-- What the library takes from the platform and from other crates. -/
structure Platform where
  decoder : CartridgeDecoder
  chunk : Nat → Nat
  hasLcExtension : String → Bool
  /-- `file_name().and_then(to_str)`. -/
  fileName : String → Option String
  toLowercase : String → String

/-- `ErrorCode`, as far as an import fails with it. -/
inductive ErrorCode where
  | filesystem
  | cartridgeRejected
  | invalidInput

def metadataModifiedNs (file : RegularFile) : Nat :=
  (file.modified.filter fun nanoseconds => nanoseconds < 2 ^ 63).getD 0

def maxPathTextBytes : Nat := 32768

abbrev CartridgeKey : Type := String

/-- `PreparedImport`, without the columns that are only shown. -/
structure PreparedImport where
  canonicalPath : String
  fileNameNormalized : String
  key : CartridgeKey
  /-- `archive_bytes`, `decoded_frame_count` and the numbers of the two rationals. -/
  numbers : List Nat
  fileSize : Nat
  modifiedNs : Nat

/-- The part of `prepare_file` that comes to the file: its canonical path, the name in it, and the
file. -/
def accessFile (platform : Platform) (disk : Disk) (path : String) :
    Except ErrorCode (String × String × RegularFile) := do
  refuseWhen (¬ platform.hasLcExtension path) .invalidInput
  match disk.look path with
  | .missing | .unavailable => .error .filesystem
  | .special => .error .invalidInput
  | .regular file =>
      let canonical ← orError (disk.canonicalize path) .filesystem
      let canonicalPath ← orError canonical .invalidInput
      refuseWhen (maxPathTextBytes < canonicalPath.utf8ByteSize) .invalidInput
      refuseWhen (¬ file.readable) .cartridgeRejected
      let fileName ← orError (platform.fileName canonicalPath) .invalidInput
      .ok (canonicalPath, fileName, file)

/-- The part of `prepare_file` that validates the content: the key and the numbers of the row. -/
def validateContent (platform : Platform) (content : List UInt8) :
    Except ErrorCode (CartridgeKey × List Nat) := do
  let validated ← (openIntegrityValidated platform.decoder ⟨content, platform.chunk⟩
    .specification).mapError fun _ => .cartridgeRejected
  let _ ← (validateCodecNeutralSignalGeometry platform.decoder.toManifestDecoder
    validated.manifest).mapError fun _ => .cartridgeRejected
  refuseWhen (content.length ≠ validated.receipt.archiveBytes) .filesystem
  let json ← (canonicalManifestBytes platform.decoder.toManifestDecoder
    validated.manifest).mapError fun _ => .cartridgeRejected
  refuseWhen ((fromUtf8 json).isNone) .cartridgeRejected
  let decoded := validated.manifest.timing.decodedVideo
  .ok (validated.receipt.archiveSha256.display,
    [validated.receipt.archiveBytes, decoded.frameCount, decoded.frameRate.numerator,
      decoded.frameRate.denominator, decoded.duration.numerator, decoded.duration.denominator])

/-- `prepare_file`. The name of the file is looked at before the content here. -/
def prepareFile (platform : Platform) (disk : Disk) (path : String) :
    Except ErrorCode PreparedImport := do
  let (canonicalPath, fileName, file) ← accessFile platform disk path
  let (key, numbers) ← validateContent platform file.content
  .ok
    { canonicalPath
      fileNameNormalized := platform.toLowercase fileName
      key
      numbers
      fileSize := file.content.length
      modifiedNs := metadataModifiedNs file }

inductive PathState where
  | present
  | missing
  | invalid
  | contentChanged

/-- A row of `cartridge_paths`. -/
structure PathRow where
  pathId : Nat
  pathText : String
  fileNameNormalized : String
  archiveSha256 : CartridgeKey
  fileSize : Nat
  modifiedNs : Nat
  state : PathState
  warningCode : Option String
  /-- `observed_archive_sha256`. -/
  observedKey : Option CartridgeKey

/-- The tables: the keys in `cartridges`, and the rows of `cartridge_paths` by `path_id`. -/
structure Index where
  cartridges : List CartridgeKey
  /-- `cartridge_paths`. -/
  paths : List PathRow

inductive ImportDisposition where
  | added
  | alreadyIndexed
  | acceptedReplacement

/-- `insert_cartridge_if_new`: a new row needs numbers that fit. -/
def insertCartridgeIfNew (cartridges : List CartridgeKey) (prepared : PreparedImport) :
    Except ErrorCode (List CartridgeKey) :=
  if prepared.key ∈ cartridges then .ok cartridges
  else do
    refuseWhen (¬ ∀ number ∈ prepared.numbers, number < 2 ^ 63) .invalidInput
    .ok (cartridges ++ [prepared.key])

/-- The row of a path that has just been validated. -/
def PathRow.refreshed (row : PathRow) (prepared : PreparedImport) : PathRow :=
  { row with
    fileNameNormalized := prepared.fileNameNormalized
    fileSize := prepared.fileSize
    modifiedNs := prepared.modifiedNs
    state := .present
    warningCode := none
    observedKey := none }

/-- `insert_path`: the next identifier is above all others. -/
def insertPath (paths : List PathRow) (prepared : PreparedImport) : List PathRow :=
  paths ++
    [{ pathId := (paths.map (·.pathId)).foldr max 0 + 1
       pathText := prepared.canonicalPath
       fileNameNormalized := prepared.fileNameNormalized
       archiveSha256 := prepared.key
       fileSize := prepared.fileSize
       modifiedNs := prepared.modifiedNs
       state := .present
       warningCode := none
       observedKey := none }]

def refreshPath (paths : List PathRow) (prepared : PreparedImport) : List PathRow :=
  paths.map fun row =>
    if row.pathText = prepared.canonicalPath then row.refreshed prepared else row

def replacePath (paths : List PathRow) (prepared : PreparedImport) : List PathRow :=
  paths.map fun row =>
    if row.pathText = prepared.canonicalPath then
      { row.refreshed prepared with archiveSha256 := prepared.key }
    else row

def upsertPath (paths : List PathRow) (prepared : PreparedImport) :
    ImportDisposition × Option CartridgeKey × List PathRow :=
  match paths.find? fun row => row.pathText = prepared.canonicalPath with
  | none => (.added, none, insertPath paths prepared)
  | some row =>
      if row.archiveSha256 = prepared.key then (.alreadyIndexed, none, refreshPath paths prepared)
      else (.acceptedReplacement, some row.archiveSha256, replacePath paths prepared)

structure ImportResult where
  disposition : ImportDisposition
  key : CartridgeKey
  previousKey : Option CartridgeKey
  path : String

def importFile (platform : Platform) (disk : Disk) (index : Index) (path : String) :
    Except ErrorCode (ImportResult × Index) := do
  let prepared ← prepareFile platform disk path
  let cartridges ← insertCartridgeIfNew index.cartridges prepared
  let (disposition, previousKey, paths) := upsertPath index.paths prepared
  .ok (⟨disposition, prepared.key, previousKey, prepared.canonicalPath⟩, ⟨cartridges, paths⟩)

inductive ReindexDisposition where
  | unchanged
  | present
  | missing
  | invalid
  | contentChanged
  deriving DecidableEq

structure ReindexPlan where
  pathId : Nat
  expectedKey : CartridgeKey
  observedKey : Option CartridgeKey
  disposition : ReindexDisposition
  pathState : PathState
  warningCode : Option String
  fileSize : Nat
  modifiedNs : Nat

/-- A plan for a row, with what has been found and the size and time to remember. -/
def PathRow.plan (row : PathRow) (disposition : ReindexDisposition) (pathState : PathState)
    (warningCode : Option String) (observedKey : Option CartridgeKey)
    (fileSize modifiedNs : Nat) : ReindexPlan where
  pathId := row.pathId
  expectedKey := row.archiveSha256
  observedKey
  disposition
  pathState
  warningCode
  fileSize
  modifiedNs

/-- `invalid_reindex_plan`: the size and the time stay those of the row. -/
def invalidReindexPlan (registered : PathRow) (warning : String) : ReindexPlan :=
  registered.plan .invalid .invalid (some warning) none registered.fileSize registered.modifiedNs

/-- The end of `plan_reindex`: the file is validated. -/
def validatedReindexPlan (platform : Platform) (disk : Disk) (registered : PathRow)
    (fileSize modifiedNs : Nat) : ReindexPlan :=
  match prepareFile platform disk registered.pathText with
  | .ok prepared =>
      if prepared.key = registered.archiveSha256 then
        registered.plan .present .present none none fileSize modifiedNs
      else
        registered.plan .contentChanged .contentChanged (some "content_changed")
          (some prepared.key) fileSize modifiedNs
  | .error _ =>
      registered.plan .invalid .invalid (some "cartridge_invalid") none fileSize modifiedNs

def planReindex (platform : Platform) (disk : Disk) (registered : PathRow) : ReindexPlan :=
  match disk.look registered.pathText with
  | .missing =>
      registered.plan .missing .missing (some "file_missing") none registered.fileSize
        registered.modifiedNs
  | .unavailable => invalidReindexPlan registered "filesystem_unavailable"
  | .special => invalidReindexPlan registered "path_not_regular_file"
  | .regular file =>
      let fileSize := file.content.length
      let modifiedNs := metadataModifiedNs file
      if registered.fileSize = fileSize ∧ registered.modifiedNs = modifiedNs then
        match registered.state with
        | .present => registered.plan .unchanged .present none none fileSize modifiedNs
        | .contentChanged =>
            registered.plan .contentChanged .contentChanged (some "content_changed")
              registered.observedKey fileSize modifiedNs
        | .invalid =>
            registered.plan .invalid .invalid (some "cartridge_invalid") none fileSize modifiedNs
        | .missing => validatedReindexPlan platform disk registered fileSize modifiedNs
      else validatedReindexPlan platform disk registered fileSize modifiedNs

def PathRow.replanned (row : PathRow) (plan : ReindexPlan) : PathRow :=
  { row with
    fileSize := plan.fileSize
    modifiedNs := plan.modifiedNs
    state := plan.pathState
    warningCode := plan.warningCode
    observedKey := plan.observedKey }

/-- `UPDATE cartridge_paths … WHERE path_id = …`, unless the path is unchanged. -/
def applyPlan (paths : List PathRow) (plan : ReindexPlan) : List PathRow :=
  if plan.disposition = .unchanged then paths
  else paths.map fun row => if row.pathId = plan.pathId then row.replanned plan else row

structure ReindexResult where
  pathId : Nat
  expectedKey : CartridgeKey
  observedKey : Option CartridgeKey
  disposition : ReindexDisposition

def reindexRegistered (platform : Platform) (disk : Disk) (index : Index) :
    List ReindexResult × Index :=
  let plans := index.paths.map (planReindex platform disk)
  (plans.map fun plan => ⟨plan.pathId, plan.expectedKey, plan.observedKey, plan.disposition⟩,
    { index with paths := plans.foldl applyPlan index.paths })

structure World where
  disk : Disk
  index : Index

inductive Event where
  | changes (disk : Disk)
  /-- `import_file`. -/
  | imports (path : String)
  /-- `reindex_registered`. -/
  | reindexes

inductive Reply where
  | quiet
  | imported (result : Except ErrorCode ImportResult)
  | reindexed (results : List ReindexResult)

def act (platform : Platform) (world : World) : Event → Reply × World
  | .changes disk => (.quiet, { world with disk })
  | .imports path =>
      match importFile platform world.disk world.index path with
      | .ok (result, index) => (.imported (.ok result), { world with index })
      | .error error => (.imported (.error error), world)
  | .reindexes =>
      let (results, index) := reindexRegistered platform world.disk world.index
      (.reindexed results, { world with index })

def emptyIndex : Index := ⟨[], []⟩

def after (platform : Platform) (disk : Disk) (events : List Event) : World :=
  Run.final (act platform) ⟨disk, emptyIndex⟩ events

def disksOf (disk : Disk) (events : List Event) : List Disk :=
  disk :: events.filterMap fun event =>
    match event with
    | .changes disk => some disk
    | .imports _ | .reindexes => none

/-- Size and modification time determine the content of a path. -/
def Determined (disks : List Disk) : Prop :=
  ∀ first ∈ disks, ∀ second ∈ disks, ∀ path before later,
    first.look path = .regular before → second.look path = .regular later →
    before.content.length = later.content.length →
    metadataModifiedNs before = metadataModifiedNs later → before.content = later.content

/-- What a full validation of a registered path gives: its state, and the key that is observed
instead of the registered one. -/
def verdict (platform : Platform) (disk : Disk) (row : PathRow) :
    PathState × Option CartridgeKey :=
  match disk.look row.pathText, prepareFile platform disk row.pathText with
  | .missing, _ => (.missing, none)
  | _, .error _ => (.invalid, none)
  | _, .ok prepared =>
      if prepared.key = row.archiveSha256 then (.present, none)
      else (.contentChanged, some prepared.key)

def ReindexDisposition.state : ReindexDisposition → PathState
  | .unchanged | .present => .present
  | .missing => .missing
  | .invalid => .invalid
  | .contentChanged => .contentChanged

/-- The result and the row that reindexing gives for a path are those of a full validation. -/
structure Agrees (result : ReindexResult) (stored : PathRow)
    (full : PathState × Option CartridgeKey) : Prop where
  disposition : result.disposition.state = full.1
  observed : result.observedKey = full.2
  state : stored.state = full.1
  storedKey : stored.observedKey = full.2

/-- The size and the time of a row are those of a file. -/
def Matches (row : PathRow) (file : RegularFile) : Prop :=
  row.fileSize = file.content.length ∧ row.modifiedNs = metadataModifiedNs file

/-- There is something at a path, and no file that `prepare_file` comes to: it is not regular, or it
cannot be canonicalized or read. -/
def Barred (platform : Platform) (disk : Disk) (path : String) : Prop :=
  disk.look path ≠ .missing ∧ ∀ found, accessFile platform disk path ≠ .ok found

/-- The paths that were barred when a reindexing last looked at them, from an import of the path or
a reindexing that misses it on. -/
def watch (platform : Platform) (barred : String → Prop) (step : Run.Step World Event Reply) :
    String → Prop :=
  match step.input, step.output with
  | .reindexes, _ => fun path =>
      Barred platform step.before.disk path ∨ (barred path ∧ step.before.disk.look path ≠ .missing)
  | .imports _, .imported (.ok result) => fun path => barred path ∧ path ≠ result.path
  | _, _ => barred

/-- A history has left a path barred. -/
def LeftBarred (platform : Platform) (start : Disk) (events : List Event) : String → Prop :=
  (Run.steps (act platform) ⟨start, emptyIndex⟩ events).foldl (watch platform) fun _ => False

/-- A regular file at a path can be come to, and the history has not left it barred. -/
def Undisturbed (platform : Platform) (start : Disk) (events : List Event) (path : String) : Prop :=
  ∀ file, (after platform start events).disk.look path = .regular file →
    (∃ found, accessFile platform (after platform start events).disk path = .ok found) ∧
      ¬ LeftBarred platform start events path

def ReindexPlan.result (plan : ReindexPlan) : ReindexResult :=
  ⟨plan.pathId, plan.expectedKey, plan.observedKey, plan.disposition⟩

def PathRow.settled (row : PathRow) (plan : ReindexPlan) : PathRow :=
  if plan.disposition = .unchanged then row else row.replanned plan

/-- What has been seen at a path with the size and the time of its row. -/
def Seen (disks : List Disk) (row : PathRow) (judged : List UInt8 → Prop) : Prop :=
  ∃ disk ∈ disks, ∃ file, disk.look row.pathText = .regular file ∧ Matches row file ∧
    judged file.content

/-- A content is valid and has a key. -/
def Keyed (platform : Platform) (key : CartridgeKey) (content : List UInt8) : Prop :=
  ∃ numbers, validateContent platform content = .ok (key, numbers)

def Refused (platform : Platform) (content : List UInt8) : Prop :=
  ∀ found, validateContent platform content ≠ .ok found

/-- What the state of a row says has been seen. -/
structure PathRow.Sound (platform : Platform) (disks : List Disk) (barred : String → Prop)
    (row : PathRow) : Prop where
  present : row.state = .present →
    row.observedKey = none ∧ Seen disks row (Keyed platform row.archiveSha256)
  changed : row.state = .contentChanged → ∃ key, row.observedKey = some key ∧
    key ≠ row.archiveSha256 ∧ Seen disks row (Keyed platform key)
  invalid : row.state = .invalid → barred row.pathText ∨ Seen disks row (Refused platform)

/-- The rows have different identifiers and different paths, and tell the truth. -/
structure Index.Sound (platform : Platform) (disks : List Disk) (barred : String → Prop)
    (index : Index) : Prop where
  /-- `PRIMARY KEY`. -/
  ids : (index.paths.map (·.pathId)).Nodup
  /-- `UNIQUE`. -/
  texts : (index.paths.map (·.pathText)).Nodup
  rows : ∀ row ∈ index.paths, row.Sound platform disks barred

section

variable {platform : Platform} {disk : Disk} {path : String} {file : RegularFile}

/-- What comes to a file comes to the one at the path, and the canonical path leads to it too. -/
theorem accessFile_look {canonical name : String}
    (found : accessFile platform disk path = .ok (canonical, name, file)) :
    disk.look path = .regular file ∧ disk.look canonical = .regular file := by
  unfold accessFile at found
  rw [check_eq_ok] at found
  obtain ⟨_, found⟩ := found
  cases looked : disk.look path with
  | missing | unavailable | special =>
    rw [looked] at found
    exact nomatch found
  | regular here =>
    rw [looked] at found
    dsimp only at found
    obtain ⟨there, canonicalized, found⟩ := ok_of_bind found
    obtain ⟨text, unicode, found⟩ := ok_of_bind found
    rw [check_eq_ok, check_eq_ok, bind_eq_ok] at found
    obtain ⟨_, _, _, _, same⟩ := found
    cases same
    rw [orError_eq_ok] at canonicalized unicode
    rw [unicode] at canonicalized
    exact ⟨rfl, disk.same _ _ _ looked canonicalized⟩

/-- A path is prepared when its file is come to and its content is valid. -/
theorem prepareFile_eq_ok (path : String) (prepared : PreparedImport) :
    prepareFile platform disk path = .ok prepared ↔ ∃ canonical name file key numbers,
      accessFile platform disk path = .ok (canonical, name, file) ∧
      validateContent platform file.content = .ok (key, numbers) ∧
      prepared = ⟨canonical, platform.toLowercase name, key, numbers, file.content.length,
        metadataModifiedNs file⟩ := by
  unfold prepareFile
  rw [bind_eq_ok]
  constructor
  · rintro ⟨⟨canonical, name, file⟩, found, rest⟩
    dsimp only at rest
    obtain ⟨⟨key, numbers⟩, valid, same⟩ := ok_of_bind rest
    exact ⟨canonical, name, file, key, numbers, found, valid, (Except.ok.inj same).symm⟩
  · rintro ⟨canonical, name, file, key, numbers, found, valid, rfl⟩
    refine ⟨_, found, ?_⟩
    dsimp only
    rw [bind_eq_ok]
    exact ⟨_, valid, rfl⟩

theorem prepareFile_irregular (irregular : ∀ file, disk.look path ≠ .regular file) :
    ∃ error, prepareFile platform disk path = .error error := by
  cases prepared : prepareFile platform disk path with
  | error error => exact ⟨error, rfl⟩
  | ok found =>
    obtain ⟨_, _, file, _, _, accessed, _, _⟩ := (prepareFile_eq_ok ..).mp prepared
    exact absurd (accessFile_look accessed).1 (irregular file)

variable {row : PathRow}

theorem verdict_prepared (there : disk.look row.pathText ≠ .missing) :
    verdict platform disk row =
      match prepareFile platform disk row.pathText with
      | .error _ => (.invalid, none)
      | .ok prepared =>
          if prepared.key = row.archiveSha256 then (.present, none)
          else (.contentChanged, some prepared.key) := by
  unfold verdict
  cases looked : disk.look row.pathText with
  | missing => exact absurd looked there
  | unavailable | special | regular _ =>
    cases prepareFile platform disk row.pathText <;> rfl

theorem agrees_of_plan {plan : ReindexPlan} {full : PathState × Option CartridgeKey}
    (rewritten : plan.disposition ≠ .unchanged) (disposition : plan.disposition.state = full.1)
    (state : plan.pathState = full.1) (observed : plan.observedKey = full.2) :
    Agrees plan.result (row.settled plan) full := by
  have settles : row.settled plan = row.replanned plan := if_neg rewritten
  rw [settles]
  exact ⟨disposition, observed, state, observed⟩

theorem validatedReindexPlan_agrees (fileSize modifiedNs : Nat)
    (there : disk.look row.pathText ≠ .missing) :
    Agrees (validatedReindexPlan platform disk row fileSize modifiedNs).result
      (row.settled (validatedReindexPlan platform disk row fileSize modifiedNs))
      (verdict platform disk row) := by
  rw [verdict_prepared there]
  unfold validatedReindexPlan
  cases prepareFile platform disk row.pathText with
  | error error => exact agrees_of_plan nofun rfl rfl rfl
  | ok prepared =>
    dsimp only
    by_cases registered : prepared.key = row.archiveSha256
    · rw [if_pos registered, if_pos registered]
      exact agrees_of_plan nofun rfl rfl rfl
    · rw [if_neg registered, if_neg registered]
      exact agrees_of_plan nofun rfl rfl rfl

variable {disks : List Disk} {barred : String → Prop}

/-- What has been seen with the size and the time of a file is its content. -/
theorem judged_of_seen {judged : List UInt8 → Prop}
    (determined : Determined disks) (among : disk ∈ disks)
    (looked : disk.look row.pathText = .regular file) (same : Matches row file)
    (seen : Seen disks row judged) : judged file.content := by
  obtain ⟨earlier, before, other, lookedThen, sameThen, holds⟩ := seen
  have content := determined earlier before disk among row.pathText other file lookedThen looked
    (sameThen.1.symm.trans same.1) (sameThen.2.symm.trans same.2)
  rw [← content]
  exact holds

/-- A file that is come to is judged by its content. -/
theorem verdict_reached (looked : disk.look row.pathText = .regular file)
    (reached : ∃ found, accessFile platform disk row.pathText = .ok found) :
    verdict platform disk row =
      match validateContent platform file.content with
      | .error _ => (.invalid, none)
      | .ok (key, _) =>
          if key = row.archiveSha256 then (.present, none) else (.contentChanged, some key) := by
  have there : disk.look row.pathText ≠ .missing := by
    rw [looked]
    exact nofun
  obtain ⟨⟨canonical, name, other⟩, accessed⟩ := reached
  have same : other = file := by
    have again := (accessFile_look accessed).1
    rw [looked] at again
    exact (Node.regular.inj again).symm
  rw [same] at accessed
  have prepares : prepareFile platform disk row.pathText = validateContent platform file.content >>=
      fun judged => .ok ⟨canonical, platform.toLowercase name, judged.1, judged.2,
        file.content.length, metadataModifiedNs file⟩ := by
    unfold prepareFile
    rw [accessed]
    rfl
  rw [verdict_prepared there, prepares]
  cases validateContent platform file.content with
  | error error => rfl
  | ok judged => rfl

theorem verdict_irregular (there : disk.look row.pathText ≠ .missing)
    (irregular : ∀ file, disk.look row.pathText ≠ .regular file) :
    verdict platform disk row = (.invalid, none) := by
  obtain ⟨error, refused⟩ : ∃ error, prepareFile platform disk row.pathText = .error error :=
    prepareFile_irregular irregular
  rw [verdict_prepared there, refused]

/-- The fast path repeats what a validation of the content gives. -/
theorem planReindex_matching (determined : Determined disks)
    (among : disk ∈ disks) (sound : row.Sound platform disks barred)
    (looked : disk.look row.pathText = .regular file) (same : Matches row file)
    (reached : ∃ found, accessFile platform disk row.pathText = .ok found)
    (unbarred : ¬ barred row.pathText) :
    Agrees (planReindex platform disk row).result (row.settled (planReindex platform disk row))
      (verdict platform disk row) := by
  have there : disk.look row.pathText ≠ .missing := by
    rw [looked]
    exact nofun
  unfold planReindex
  rw [looked]
  dsimp only
  rw [if_pos (show _ ∧ _ from same)]
  cases state : row.state with
  | present =>
    obtain ⟨unobserved, seen⟩ := sound.present state
    obtain ⟨numbers, valid⟩ : Keyed platform row.archiveSha256 file.content :=
      judged_of_seen determined among looked same seen
    have kept : row.settled (row.plan .unchanged .present none none file.content.length
        (metadataModifiedNs file)) = row := if_pos rfl
    dsimp only
    rw [kept, verdict_reached looked reached, valid]
    dsimp only
    rw [if_pos rfl]
    exact ⟨rfl, rfl, state, unobserved⟩
  | contentChanged =>
    obtain ⟨key, observed, other, seen⟩ := sound.changed state
    obtain ⟨numbers, valid⟩ : Keyed platform key file.content :=
      judged_of_seen determined among looked same seen
    dsimp only
    rw [observed, verdict_reached looked reached, valid]
    dsimp only
    rw [if_neg other]
    exact agrees_of_plan nofun rfl rfl rfl
  | invalid =>
    have refused : Refused platform file.content :=
      judged_of_seen determined among looked same ((sound.invalid state).resolve_left unbarred)
    dsimp only
    rw [verdict_reached looked reached]
    cases valid : validateContent platform file.content with
    | error error => exact agrees_of_plan nofun rfl rfl rfl
    | ok found => exact absurd valid (refused found)
  | missing => exact validatedReindexPlan_agrees _ _ there

/-- The plan for a path agrees with a full validation, where a regular file at it is come to and the
path has not been left barred. -/
theorem planReindex_agrees (determined : Determined disks) (among : disk ∈ disks)
    (sound : row.Sound platform disks barred)
    (undisturbed : ∀ file, disk.look row.pathText = .regular file →
      (∃ found, accessFile platform disk row.pathText = .ok found) ∧ ¬ barred row.pathText) :
    Agrees (planReindex platform disk row).result (row.settled (planReindex platform disk row))
      (verdict platform disk row) := by
  cases looked : disk.look row.pathText with
  | missing =>
    have judged : verdict platform disk row = (.missing, none) := by
      unfold verdict
      rw [looked]
    unfold planReindex
    rw [judged, looked]
    exact agrees_of_plan nofun rfl rfl rfl
  | unavailable =>
    rw [verdict_irregular (by rw [looked]; exact nofun) (by rw [looked]; exact nofun)]
    unfold planReindex
    rw [looked]
    exact agrees_of_plan nofun rfl rfl rfl
  | special =>
    rw [verdict_irregular (by rw [looked]; exact nofun) (by rw [looked]; exact nofun)]
    unfold planReindex
    rw [looked]
    exact agrees_of_plan nofun rfl rfl rfl
  | regular file =>
    obtain ⟨reached, unbarred⟩ := undisturbed file looked
    by_cases same : Matches row file
    · exact planReindex_matching determined among sound looked same reached unbarred
    · unfold planReindex
      rw [looked]
      dsimp only
      rw [if_neg (show ¬ (_ ∧ _) from same)]
      exact validatedReindexPlan_agrees _ _ (by rw [looked]; exact nofun)

theorem planReindex_pathId (row : PathRow) :
    (planReindex platform disk row).pathId = row.pathId := by
  have validated : ∀ fileSize modifiedNs,
      (validatedReindexPlan platform disk row fileSize modifiedNs).pathId = row.pathId := by
    intro fileSize modifiedNs
    unfold validatedReindexPlan
    split
    · split <;> rfl
    · rfl
  unfold planReindex
  split
  · rfl
  · rfl
  · rfl
  · dsimp only
    split
    · split
      · rfl
      · rfl
      · rfl
      · exact validated _ _
    · exact validated _ _

theorem settled_identity (row : PathRow) (plan : ReindexPlan) :
    (row.settled plan).pathId = row.pathId ∧ (row.settled plan).pathText = row.pathText ∧
      (row.settled plan).archiveSha256 = row.archiveSha256 := by
  unfold PathRow.settled
  split
  · exact ⟨rfl, rfl, rfl⟩
  · exact ⟨rfl, rfl, rfl⟩

/-- The updates of all rows, each by its own plan. -/
theorem foldl_applyPlan (plan : PathRow → ReindexPlan)
    (own : ∀ row, (plan row).pathId = row.pathId) (rows : List PathRow) : ∀ front,
    ((front ++ rows).map (·.pathId)).Nodup →
    (rows.map plan).foldl applyPlan (front ++ rows) =
      front ++ rows.map fun row => row.settled (plan row) := by
  induction rows with
  | nil => exact fun _ _ => rfl
  | cons row rows ih =>
    intro front distinct
    have apart : ∀ other ∈ front ++ rows, other.pathId ≠ row.pathId := by
      rw [List.map_append, List.map_cons] at distinct
      have moved := List.nodup_middle.mp distinct
      rw [← List.map_append] at moved
      intro other among same
      exact (List.nodup_cons.mp moved).1 (same ▸ List.mem_map_of_mem among)
    have untouched : ∀ others : List PathRow, (∀ other ∈ others, other.pathId ≠ row.pathId) →
        others.map (fun other =>
          if other.pathId = (plan row).pathId then other.replanned (plan row) else other) =
          others := by
      intro others different
      refine (List.map_congr_left fun other among => ?_).trans (List.map_id _)
      rw [own, if_neg (different other among)]
      rfl
    have one : applyPlan (front ++ row :: rows) (plan row) =
        (front ++ [row.settled (plan row)]) ++ rows := by
      unfold applyPlan PathRow.settled
      by_cases unchanged : (plan row).disposition = .unchanged
      · rw [if_pos unchanged, if_pos unchanged, List.append_assoc]
        rfl
      · rw [if_neg unchanged, if_neg unchanged, List.map_append, List.map_cons,
          untouched front fun other among => apart other (List.mem_append_left _ among),
          untouched rows fun other among => apart other (List.mem_append_right _ among), own,
          if_pos rfl, List.append_assoc]
        rfl
    have still : (((front ++ [row.settled (plan row)]) ++ rows).map (·.pathId)).Nodup := by
      have same : ((front ++ [row.settled (plan row)]) ++ rows).map (·.pathId) =
          (front ++ row :: rows).map (·.pathId) := by
        rw [List.append_assoc, List.map_append, List.map_append, List.map_append, List.map_cons,
          List.map_cons, (settled_identity row (plan row)).1]
        rfl
      rw [same]
      exact distinct
    rw [List.map_cons, List.foldl_cons, one, ih _ still, List.append_assoc]
    rfl

variable {index : Index}

theorem reindexRegistered_paths (distinct : (index.paths.map (·.pathId)).Nodup) :
    (reindexRegistered platform disk index).2.paths =
      index.paths.map fun row => row.settled (planReindex platform disk row) :=
  foldl_applyPlan (planReindex platform disk) planReindex_pathId index.paths [] distinct

theorem sound_of_missing (state : row.state = .missing) : row.Sound platform disks barred := by
  refine ⟨?_, ?_, ?_⟩ <;> intro other <;> rw [state] at other <;> exact nomatch other

theorem sound_of_invalid (state : row.state = .invalid)
    (why : barred row.pathText ∨ Seen disks row (Refused platform)) :
    row.Sound platform disks barred where
  present := by
    intro other
    rw [state] at other
    exact nomatch other
  changed := by
    intro other
    rw [state] at other
    exact nomatch other
  invalid _ := why

variable {prepared : PreparedImport}

/-- A path that has been prepared has been seen with its key. -/
theorem seen_of_prepared (among : disk ∈ disks)
    (accepted : prepareFile platform disk path = .ok prepared)
    (path_eq : row.pathText = path ∨ row.pathText = prepared.canonicalPath)
    (size : row.fileSize = prepared.fileSize) (time : row.modifiedNs = prepared.modifiedNs) :
    Seen disks row (Keyed platform prepared.key) := by
  obtain ⟨canonical, name, file, key, numbers, accessed, valid, rfl⟩ :=
    (prepareFile_eq_ok ..).mp accepted
  obtain ⟨looked, lookedThere⟩ := accessFile_look accessed
  refine ⟨disk, among, file, ?_, ⟨size, time⟩, numbers, valid⟩
  rcases path_eq with same | same
  · rw [same]
    exact looked
  · rw [same]
    exact lookedThere

/-- What is refused is barred, or its content is refused. -/
theorem barred_or_refused {error : ErrorCode} (looked : disk.look path = .regular file)
    (refused : prepareFile platform disk path = .error error) :
    Barred platform disk path ∨ Refused platform file.content := by
  refine or_iff_not_imp_left.mpr fun unbarred found valid => unbarred ⟨?_, ?_⟩
  · rw [looked]
    exact nofun
  · rintro ⟨canonical, name, other⟩ accessed
    have again := (accessFile_look accessed).1
    rw [looked] at again
    rw [← Node.regular.inj again] at accessed
    have prepared := (prepareFile_eq_ok path _).mpr
      ⟨canonical, name, file, found.1, found.2, accessed, valid, rfl⟩
    rw [refused] at prepared
    exact nomatch prepared

variable {later : String → Prop}

/-- The row that a validation leaves tells the truth. -/
theorem validatedReindexPlan_sound (among : disk ∈ disks)
    (looked : disk.look row.pathText = .regular file)
    (marked : Barred platform disk row.pathText → later row.pathText) :
    (row.settled (validatedReindexPlan platform disk row file.content.length
      (metadataModifiedNs file))).Sound platform disks later := by
  unfold validatedReindexPlan
  cases accepted : prepareFile platform disk row.pathText with
  | error error =>
    refine sound_of_invalid rfl ?_
    exact (barred_or_refused looked accepted).imp marked fun refused =>
      ⟨disk, among, file, looked, ⟨rfl, rfl⟩, refused⟩
  | ok prepared =>
    have sizes : prepared.fileSize = file.content.length ∧
        prepared.modifiedNs = metadataModifiedNs file := by
      obtain ⟨_, _, other, _, _, accessed, _, rfl⟩ := (prepareFile_eq_ok ..).mp accepted
      have again := (accessFile_look accessed).1
      rw [looked] at again
      rw [Node.regular.inj again]
      exact ⟨rfl, rfl⟩
    dsimp only
    by_cases registered : prepared.key = row.archiveSha256
    · rw [if_pos registered]
      refine ⟨fun _ => ⟨rfl, ?_⟩, nofun, nofun⟩
      show Seen disks _ (Keyed platform row.archiveSha256)
      rw [← registered]
      exact seen_of_prepared among accepted (Or.inl rfl) sizes.1.symm sizes.2.symm
    · rw [if_neg registered]
      refine ⟨nofun, fun _ => ⟨prepared.key, rfl, registered, ?_⟩, nofun⟩
      exact seen_of_prepared among accepted (Or.inl rfl) sizes.1.symm sizes.2.symm

theorem barred_of_irregular (there : disk.look path ≠ .missing)
    (irregular : ∀ file, disk.look path ≠ .regular file) : Barred platform disk path := by
  refine ⟨there, ?_⟩
  rintro ⟨canonical, name, file⟩ accessed
  exact irregular file (accessFile_look accessed).1

/-- What a reindexing leaves of a row tells the truth, when the paths that it finds barred are
marked. -/
theorem planReindex_sound (among : disk ∈ disks) (sound : row.Sound platform disks barred)
    (marked : Barred platform disk row.pathText → later row.pathText)
    (kept : barred row.pathText → disk.look row.pathText ≠ .missing → later row.pathText) :
    (row.settled (planReindex platform disk row)).Sound platform disks later := by
  unfold planReindex
  cases looked : disk.look row.pathText with
  | missing => exact sound_of_missing rfl
  | unavailable =>
    refine sound_of_invalid rfl (Or.inl (marked (barred_of_irregular ?_ ?_)))
    · rw [looked]
      exact nofun
    · rw [looked]
      exact nofun
  | special =>
    refine sound_of_invalid rfl (Or.inl (marked (barred_of_irregular ?_ ?_)))
    · rw [looked]
      exact nofun
    · rw [looked]
      exact nofun
  | regular file =>
    have there : disk.look row.pathText ≠ .missing := by
      rw [looked]
      exact nofun
    dsimp only
    by_cases same : row.fileSize = file.content.length ∧ row.modifiedNs = metadataModifiedNs file
    · rw [if_pos same]
      cases state : row.state with
      | present =>
        refine ⟨sound.present, sound.changed, ?_⟩
        intro other
        have invalid : row.state = .invalid := other
        rw [state] at invalid
        exact nomatch invalid
      | contentChanged =>
        obtain ⟨key, observed, other, earlier, before, file', looked', matched, valid⟩ :=
          sound.changed state
        refine ⟨nofun, fun _ => ⟨key, observed, other, earlier, before,
          file', looked', ?_, valid⟩, nofun⟩
        exact ⟨same.1.symm.trans matched.1, same.2.symm.trans matched.2⟩
      | invalid =>
        refine sound_of_invalid rfl ((sound.invalid state).imp (fun was => kept was there) ?_)
        rintro ⟨earlier, before, file', looked', matched, refused⟩
        refine ⟨earlier, before, file', looked', ?_, refused⟩
        exact ⟨same.1.symm.trans matched.1, same.2.symm.trans matched.2⟩
      | missing => exact validatedReindexPlan_sound among looked marked
    · rw [if_neg same]
      exact validatedReindexPlan_sound among looked marked

theorem reindexRegistered_sound (among : disk ∈ disks) (sound : index.Sound platform disks barred) :
    (reindexRegistered platform disk index).2.Sound platform disks fun path =>
      Barred platform disk path ∨ (barred path ∧ disk.look path ≠ .missing) := by
  have paths : (reindexRegistered platform disk index).2.paths =
      index.paths.map fun row => row.settled (planReindex platform disk row) :=
    reindexRegistered_paths sound.ids
  have kept : ∀ {β : Type} (column : PathRow → β),
      (∀ row plan, column (PathRow.settled row plan) = column row) →
      ((reindexRegistered platform disk index).2.paths).map column = index.paths.map column := by
    intro β column same
    rw [paths, List.map_map]
    exact List.map_congr_left fun row _ => same row _
  refine ⟨?_, ?_, ?_⟩
  · rw [kept _ fun row plan => (settled_identity row plan).1]
    exact sound.ids
  · rw [kept _ fun row plan => (settled_identity row plan).2.1]
    exact sound.texts
  · rw [paths]
    intro row member
    obtain ⟨earlier, within, rfl⟩ := List.mem_map.mp member
    exact planReindex_sound among (sound.rows earlier within) Or.inl fun was there =>
      Or.inr ⟨was, there⟩

/-- The row of a path that has just been prepared tells the truth. -/
theorem refreshed_sound (among : disk ∈ disks)
    (accepted : prepareFile platform disk path = .ok prepared)
    (text : row.pathText = prepared.canonicalPath) (size : row.fileSize = prepared.fileSize)
    (time : row.modifiedNs = prepared.modifiedNs) (key : row.archiveSha256 = prepared.key)
    (state : row.state = .present) (unobserved : row.observedKey = none) :
    row.Sound platform disks barred where
  present := by
    intro _
    rw [key]
    exact ⟨unobserved, seen_of_prepared among accepted (Or.inr text) size time⟩
  changed := by
    intro other
    rw [state] at other
    exact nomatch other
  invalid := by
    intro other
    rw [state] at other
    exact nomatch other

theorem lt_next (ids : List Nat) : ∀ id ∈ ids, id < ids.foldr max 0 + 1 := by
  induction ids with
  | nil => exact nofun
  | cons first ids ih =>
    rw [List.forall_mem_cons, List.foldr_cons]
    refine ⟨by omega, fun id member => ?_⟩
    have below := ih id member
    omega

theorem PathRow.Sound.elsewhere {text : String} (sound : row.Sound platform disks barred)
    (other : row.pathText ≠ text) :
    row.Sound platform disks fun path => barred path ∧ path ≠ text where
  present := sound.present
  changed := sound.changed
  invalid state := (sound.invalid state).imp_left fun was => ⟨was, other⟩

/-- The rows after an import have different identifiers and paths, and tell the truth. -/
theorem upsertPath_sound {paths : List PathRow} {cartridges later : List CartridgeKey}
    (among : disk ∈ disks) (accepted : prepareFile platform disk path = .ok prepared)
    (sound : Index.Sound platform disks barred ⟨cartridges, paths⟩) :
    Index.Sound platform disks (fun path => barred path ∧ path ≠ prepared.canonicalPath)
      ⟨later, (upsertPath paths prepared).2.2⟩ := by
  have updated : ∀ change : PathRow → PathRow,
      (∀ row, (change row).pathId = row.pathId ∧ (change row).pathText = row.pathText) →
      (∀ row ∈ paths, row.pathText = prepared.canonicalPath →
        (change row).Sound platform disks
          fun path => barred path ∧ path ≠ prepared.canonicalPath) →
      Index.Sound platform disks (fun path => barred path ∧ path ≠ prepared.canonicalPath)
        ⟨later, paths.map fun row =>
        if row.pathText = prepared.canonicalPath then change row else row⟩ := by
    intro change same truthful
    have kept : ∀ {β : Type} (column : PathRow → β),
        (∀ row, column (change row) = column row) →
        (paths.map fun row => if row.pathText = prepared.canonicalPath then change row
          else row).map column = paths.map column := by
      intro β column equal
      rw [List.map_map]
      refine List.map_congr_left fun row _ => ?_
      show column (if _ then _ else _) = _
      split
      · exact equal row
      · rfl
    refine ⟨?_, ?_, ?_⟩
    · rw [kept _ fun row => (same row).1]
      exact sound.ids
    · rw [kept _ fun row => (same row).2]
      exact sound.texts
    · intro row member
      obtain ⟨earlier, within, rfl⟩ := List.mem_map.mp member
      by_cases here : earlier.pathText = prepared.canonicalPath
      · rw [if_pos here]
        exact truthful earlier within here
      · rw [if_neg here]
        exact (sound.rows earlier within).elsewhere here
  unfold upsertPath
  cases found : paths.find? fun row => row.pathText = prepared.canonicalPath with
  | none =>
    dsimp only
    have absent : ∀ row ∈ paths, row.pathText ≠ prepared.canonicalPath := by
      intro row within same
      have unfound := List.find?_eq_none.mp found row within
      exact unfound (decide_eq_true same)
    unfold insertPath
    refine ⟨?_, ?_, ?_⟩
    · rw [List.map_append]
      refine List.Nodup.append sound.ids (List.nodup_singleton _) fun id member new => ?_
      have below := lt_next _ id member
      rw [List.mem_singleton.mp new] at below
      exact Nat.lt_irrefl _ below
    · rw [List.map_append]
      refine List.Nodup.append sound.texts (List.nodup_singleton _) fun text member new => ?_
      obtain ⟨row, within, rfl⟩ := List.mem_map.mp member
      exact absent row within (List.mem_singleton.mp new)
    · intro row member
      rcases List.mem_append.mp member with old | new
      · exact (sound.rows row old).elsewhere (absent row old)
      · rw [List.mem_singleton.mp new]
        exact refreshed_sound among accepted rfl rfl rfl rfl rfl rfl
  | some row =>
    dsimp only
    have here : row.pathText = prepared.canonicalPath := by
      have matched := List.find?_some found
      exact of_decide_eq_true matched
    have only : ∀ other ∈ paths, other.pathText = prepared.canonicalPath → other = row := by
      intro other within same
      exact List.inj_on_of_nodup_map sound.texts within (List.mem_of_find?_eq_some found)
        (same.trans here.symm)
    by_cases registered : row.archiveSha256 = prepared.key
    · rw [if_pos registered]
      refine updated _ (fun _ => ⟨rfl, rfl⟩) fun other within same => ?_
      refine refreshed_sound among accepted same rfl rfl ?_ rfl rfl
      rw [only other within same]
      exact registered
    · rw [if_neg registered]
      exact updated _ (fun _ => ⟨rfl, rfl⟩) fun other _ same =>
        refreshed_sound among accepted same rfl rfl rfl rfl rfl

theorem importFile_sound {index later : Index} {result : ImportResult} (among : disk ∈ disks)
    (sound : index.Sound platform disks barred)
    (imported : importFile platform disk index path = .ok (result, later)) :
    later.Sound platform disks fun path => barred path ∧ path ≠ result.path := by
  unfold importFile at imported
  obtain ⟨prepared, accepted, rest⟩ := ok_of_bind imported
  obtain ⟨cartridges, _, same⟩ := ok_of_bind rest
  have kept : Index.Sound platform disks _ ⟨cartridges, (upsertPath index.paths prepared).2.2⟩ :=
    upsertPath_sound among accepted sound
  cases same
  exact kept

/-- In a history the index is sound for the file systems that there are and the paths that it has
left barred. -/
theorem after_sound (start : Disk) (events : List Event) :
    (after platform start events).disk ∈ disksOf start events ∧
      (after platform start events).index.Sound platform (disksOf start events)
        (LeftBarred platform start events) := by
  have changed : ∀ step ∈ Run.steps (act platform) ⟨start, emptyIndex⟩ events,
      ∀ disk, step.input = .changes disk → disk ∈ disksOf start events := by
    intro step member disk same
    have input : step.input ∈ events := by
      rw [← Run.steps_inputs (act platform) ⟨start, emptyIndex⟩ events]
      exact List.mem_map_of_mem member
    rw [same] at input
    exact List.mem_cons_of_mem _ (List.mem_filterMap.mpr ⟨_, input, rfl⟩)
  refine Run.observed_under (fun step => ∀ disk, step.input = .changes disk →
      disk ∈ disksOf start events) (watch platform)
    (fun barred world => world.disk ∈ disksOf start events ∧
      world.index.Sound platform (disksOf start events) barred) ?_ events _ _
    ⟨List.mem_cons_self, List.nodup_nil, List.nodup_nil, nofun⟩ changed
  rintro barred world event ⟨among, sound⟩ listed
  cases event with
  | changes disk => exact ⟨listed disk rfl, sound⟩
  | imports path =>
    unfold Run.stepOf watch act
    dsimp only
    cases imported : importFile platform world.disk world.index path with
    | error error => exact ⟨among, sound⟩
    | ok made => exact ⟨among, importFile_sound among sound imported⟩
  | reindexes => exact ⟨among, reindexRegistered_sound among sound⟩

def PathRow.identity (row : PathRow) : Nat × String × CartridgeKey :=
  (row.pathId, row.pathText, row.archiveSha256)

/-- Reindexing gives a registered path what a full validation gives, and reports it as present when
it has become valid again. -/
structure FullyValidated (platform : Platform) (disk : Disk) (index : Index) (row : PathRow) :
    Prop where
  agrees : ∃ result ∈ (reindexRegistered platform disk index).1,
    ∃ stored ∈ (reindexRegistered platform disk index).2.paths,
      result.pathId = row.pathId ∧ stored.pathId = row.pathId ∧
        Agrees result stored (verdict platform disk row)
  again : row.state ≠ .present → (verdict platform disk row).1 = .present →
    ∃ result ∈ (reindexRegistered platform disk index).1,
      result.pathId = row.pathId ∧ result.disposition = .present

/-- The plan for a path that has not been present does not leave it as it is. -/
theorem planReindex_rewrites (absent : row.state ≠ .present) :
    (planReindex platform disk row).disposition ≠ .unchanged := by
  have validated : ∀ fileSize modifiedNs,
      (validatedReindexPlan platform disk row fileSize modifiedNs).disposition ≠ .unchanged := by
    intro fileSize modifiedNs
    unfold validatedReindexPlan
    split
    · split
      · exact nofun
      · exact nofun
    · exact nofun
  unfold planReindex
  split
  · exact nofun
  · exact nofun
  · exact nofun
  · dsimp only
    split
    · split
      · rename_i state
        exact absurd state absent
      · exact nofun
      · exact nofun
      · exact validated _ _
    · exact validated _ _

theorem present_of_state {disposition : ReindexDisposition} (state : disposition.state = .present)
    (rewritten : disposition ≠ .unchanged) : disposition = .present := by
  cases disposition with
  | unchanged => exact absurd rfl rewritten
  | present => rfl
  | missing | invalid | contentChanged => exact nomatch state

theorem reindexRegistered_results (index : Index) :
    (reindexRegistered platform disk index).1 =
      index.paths.map fun row => (planReindex platform disk row).result :=
  List.map_map ..

/-- A plan that agrees with a full validation is what reindexing reports and stores. -/
theorem fullyValidated (sound : index.Sound platform disks barred) (within : row ∈ index.paths)
    (agrees : Agrees (planReindex platform disk row).result
      (row.settled (planReindex platform disk row)) (verdict platform disk row)) :
    FullyValidated platform disk index row := by
  have listed : (planReindex platform disk row).result ∈
      (reindexRegistered platform disk index).1 := by
    rw [reindexRegistered_results]
    exact List.mem_map_of_mem within
  refine ⟨⟨_, listed, row.settled (planReindex platform disk row), ?_, planReindex_pathId row,
    (settled_identity row _).1, agrees⟩, fun absent valid =>
      ⟨_, listed, planReindex_pathId row, ?_⟩⟩
  · rw [reindexRegistered_paths sound.ids]
    exact List.mem_map_of_mem within
  · have told := agrees.disposition
    rw [valid] at told
    exact present_of_state told (planReindex_rewrites absent)

theorem reindexRegistered_identity (distinct : (index.paths.map (·.pathId)).Nodup) :
    (reindexRegistered platform disk index).2.paths.map PathRow.identity =
        index.paths.map PathRow.identity ∧
      (reindexRegistered platform disk index).2.cartridges = index.cartridges := by
  refine ⟨?_, rfl⟩
  rw [reindexRegistered_paths distinct, List.map_map]
  refine List.map_congr_left fun row _ => ?_
  obtain ⟨id, text, key⟩ := settled_identity row (planReindex platform disk row)
  show (_, _, _) = (_, _, _)
  rw [id, text, key]

/-- A history whose reindexings have not found a path barred has not left it barred. -/
theorem not_leftBarred {start : Disk} {events : List Event}
    (never : ∀ step ∈ Run.steps (act platform) ⟨start, emptyIndex⟩ events,
      step.input = .reindexes → ¬ Barred platform step.before.disk path) :
    ¬ LeftBarred platform start events path := by
  refine Run.observed_under (fun step => step.input = .reindexes →
      ¬ Barred platform step.before.disk path) (watch platform) (fun barred _ => ¬ barred path) ?_
    events _ _ not_false never
  intro barred world event unbarred met
  cases event with
  | changes disk => exact unbarred
  | imports imported =>
    unfold Run.stepOf watch
    cases (act platform world (.imports imported)).1 with
    | quiet => exact unbarred
    | reindexed results => exact unbarred
    | imported result =>
      cases result with
      | error error => exact unbarred
      | ok result => exact fun still => unbarred still.1
  | reindexes => exact fun still => still.elim (met rfl) fun was => unbarred was.1

end

/-- A history: a path is imported and then, in its place, there is something else for a while. -/
def interruption (path : String) (start other : Disk) : List Event :=
  [.imports path, .changes other, .reindexes, .changes start]

def PreparedImport.interrupted (prepared : PreparedImport) (state : PathState) (warning : String) :
    PathRow where
  pathId := 1
  pathText := prepared.canonicalPath
  fileNameNormalized := prepared.fileNameNormalized
  archiveSha256 := prepared.key
  fileSize := prepared.fileSize
  modifiedNs := prepared.modifiedNs
  state
  warningCode := some warning
  observedKey := none

section

variable {platform : Platform} {start other : Disk} {path : String} {prepared : PreparedImport}

/-- After an interruption the row of a valid path has the size and the time of its file, and the
state that reindexing has given to what was there. -/
theorem interruption_final {disposition : ReindexDisposition} {state : PathState} {warning : String}
    (accepted : prepareFile platform start path = .ok prepared)
    (fits : ∀ number ∈ prepared.numbers, number < 2 ^ 63) (rewritten : disposition ≠ .unchanged)
    (planned : ∀ row : PathRow, row.pathText = prepared.canonicalPath →
      planReindex platform other row =
        row.plan disposition state (some warning) none row.fileSize row.modifiedNs) :
    after platform start (interruption path start other) =
      ⟨start, ⟨[prepared.key], [prepared.interrupted state warning]⟩⟩ := by
  let before : PathRow :=
    { prepared.interrupted .present warning with warningCode := none }
  have imported : importFile platform start emptyIndex path =
      .ok (⟨.added, prepared.key, none, prepared.canonicalPath⟩, ⟨[prepared.key], [before]⟩) := by
    unfold importFile
    rw [bind_eq_ok]
    refine ⟨prepared, accepted, ?_⟩
    rw [bind_eq_ok]
    refine ⟨[prepared.key], ?_, rfl⟩
    have new : prepared.key ∉ emptyIndex.cartridges := nofun
    unfold insertCartridgeIfNew
    rw [if_neg new, check_eq_ok, refuseWhen_eq_ok, not_not]
    exact ⟨fits, rfl⟩
  have first : (act platform ⟨start, emptyIndex⟩ (.imports path)).2 =
      ⟨start, ⟨[prepared.key], [before]⟩⟩ := by
    unfold act
    dsimp only
    rw [imported]
  have third : (act platform ⟨other, ⟨[prepared.key], [before]⟩⟩ .reindexes).2 =
      ⟨other, ⟨[prepared.key], [prepared.interrupted state warning]⟩⟩ := by
    unfold act reindexRegistered
    dsimp only
    rw [List.map_singleton, planned before rfl, List.foldl_cons, List.foldl_nil]
    unfold applyPlan
    rw [if_neg (show (before.plan ..).disposition ≠ .unchanged from rewritten)]
    rfl
  unfold after interruption
  rw [Run.final, first]
  show (act platform (act platform ⟨other, ⟨[prepared.key], [before]⟩⟩ .reindexes).2
    (.changes start)).2 = _
  rw [third]
  rfl

theorem not_fullyValidated {row : PathRow} (only : index.paths = [row])
    (absent : row.state ≠ .present) (back : (verdict platform start row).1 = .present)
    (planned : (planReindex platform start row).disposition = .invalid) :
    ¬ FullyValidated platform start index row := by
  intro validated
  obtain ⟨result, listed, _, present⟩ := validated.again absent back
  rw [reindexRegistered_results, only] at listed
  rw [List.mem_singleton.mp listed] at present
  exact nomatch planned.symm.trans present

/-- A path is back that was interrupted: a full validation finds it present, and reindexing reports
it as invalid if its row is. -/
theorem interrupted_back (warning : String)
    (accepted : prepareFile platform start path = .ok prepared)
    (again : prepareFile platform start prepared.canonicalPath = .ok prepared) :
    verdict platform start (prepared.interrupted .invalid warning) = (.present, none) ∧
      (planReindex platform start (prepared.interrupted .invalid warning)).disposition =
        .invalid := by
  obtain ⟨canonical, name, file, key, numbers, accessed, valid, same⟩ :=
    (prepareFile_eq_ok ..).mp accepted
  have looked : start.look prepared.canonicalPath = .regular file := by
    rw [same]
    exact (accessFile_look accessed).2
  have matched : Matches (prepared.interrupted .invalid warning) file := by
    rw [same]
    exact ⟨rfl, rfl⟩
  constructor
  · have there : start.look (prepared.interrupted .invalid warning).pathText ≠ .missing := by
      show start.look prepared.canonicalPath ≠ .missing
      rw [looked]
      exact nofun
    rw [verdict_prepared there, show prepareFile platform start
      (prepared.interrupted .invalid warning).pathText = .ok prepared from again]
    exact if_pos rfl
  · unfold planReindex
    rw [show start.look (prepared.interrupted .invalid warning).pathText = .regular file from
      looked]
    dsimp only
    rw [if_pos (show _ ∧ _ from matched)]
    rfl

end

/-- A regular file with the sample of the H3 profile. -/
def sampleFile : RegularFile where
  content := h3Sample.archive.bytes
  modified := some 1
  readable := true
  fits := by decide +kernel

/-- A file system in which only one path may exist. -/
def sampleDisk (node : Node) : Disk where
  look path := if path = "a.lc" then node else .missing
  canonicalize path := some (some path)
  same := by
    rintro path file canonical looked same
    cases same
    exact looked

def samplePlatform : Platform where
  decoder := h3Sample.decoder
  chunk _ := 4096
  hasLcExtension path := path = "a.lc"
  fileName := some
  toLowercase := id

def sampleKey : CartridgeKey := (h3Sample.decoder.sha256 h3Sample.archive.bytes).display

def sampleNumbers : List Nat :=
  let decoded := (sampleManifest h3Sample.path).timing.decodedVideo
  [h3Sample.archive.bytes.length, decoded.frameCount, decoded.frameRate.numerator,
    decoded.frameRate.denominator, decoded.duration.numerator, decoded.duration.denominator]

theorem opens_of_addressable {decoder : CartridgeDecoder} {stream : Streaming.ByteStream}
    {limits : ValidationLimits} {evidence : IntegrityEvidence} (plain : PlainCanonicalJson decoder)
    (collected : collectIntegrityEvidence decoder stream limits = .ok evidence)
    (addressable : evidence.Addressable) :
    ∃ receipt, openIntegrityValidated decoder stream limits =
      .ok (evidence.cartridge stream.bytes receipt) := by
  obtain ⟨payload, established⟩ :=
    collectIntegrityEvidence_established decoder stream limits evidence plain collected
  have sound := (described_sound evidence stream.bytes limits payload established).mpr addressable
  have accessed := (accessReceipt_eq_ok _ _ _ _ _ established).mpr ⟨rfl, sound⟩
  exact ⟨_, (openIntegrityValidated_eq_ok ..).mpr ⟨evidence, _, collected, accessed, rfl⟩⟩

theorem sample_valid : validateContent samplePlatform sampleFile.content =
    .ok (sampleKey, sampleNumbers) := by
  obtain ⟨receipt, opened⟩ := opens_of_addressable (h3Sample.plain (by decide +kernel))
    (h3_evaluated.collected 4096) ⟨by decide, by decide +kernel⟩
  have geometry : ∃ found, validateCodecNeutralSignalGeometry
      samplePlatform.decoder.toManifestDecoder (sampleManifest h3Sample.path) = .ok found := by
    have accepted : (validateCodecNeutralSignalGeometry samplePlatform.decoder.toManifestDecoder
        (sampleManifest h3Sample.path)).toOption.isSome = true := by
      decide +kernel
    exact ok_of_isSome accepted
  obtain ⟨found, geometry⟩ := geometry
  obtain ⟨text, isText⟩ := textBytes_isText (sampleText h3Sample.path)
  unfold validateContent
  rw [bind_eq_ok]
  refine ⟨_, (mapError_eq_ok ..).mpr opened, ?_⟩
  rw [bind_eq_ok]
  refine ⟨_, (mapError_eq_ok ..).mpr geometry, ?_⟩
  rw [check_eq_ok, refuseWhen_eq_ok, bind_eq_ok]
  refine ⟨fun other => other rfl, textBytes (sampleText h3Sample.path), rfl, ?_⟩
  rw [check_eq_ok, refuseWhen_eq_ok, isText, fromUtf8_nameBytes]
  exact ⟨nofun, rfl⟩

theorem sample_prepared : prepareFile samplePlatform (sampleDisk (.regular sampleFile)) "a.lc" =
    .ok ⟨"a.lc", "a.lc", sampleKey, sampleNumbers, sampleFile.content.length,
      metadataModifiedNs sampleFile⟩ :=
  (prepareFile_eq_ok ..).mpr
    ⟨"a.lc", "a.lc", sampleFile, sampleKey, sampleNumbers, rfl, sample_valid, rfl⟩

def sampleInterruption (node : Node) : List Event :=
  interruption "a.lc" (sampleDisk (.regular sampleFile)) (sampleDisk node)

/-- In an interruption of the sample size and time determine the content. -/
theorem sample_determined {node : Node} (irregular : ∀ file, node ≠ .regular file) :
    Determined (disksOf (sampleDisk (.regular sampleFile)) (sampleInterruption node)) := by
  have looked : ∀ node, (∀ file, node = Node.regular file → file = sampleFile) →
      ∀ path file, (sampleDisk node).look path = .regular file → file = sampleFile := by
    intro node unique path file found
    unfold sampleDisk at found
    dsimp only at found
    split at found
    · exact unique file found
    · exact nomatch found
  have present := looked (.regular sampleFile) fun file same => (Node.regular.inj same).symm
  have absent := looked node fun file same => absurd same (irregular file)
  have only : ∀ disk ∈ [sampleDisk (.regular sampleFile), sampleDisk node,
      sampleDisk (.regular sampleFile)], ∀ path file,
      disk.look path = .regular file → file = sampleFile := by
    intro disk member
    rw [List.mem_cons, List.mem_cons, List.mem_singleton] at member
    rcases member with rfl | rfl | rfl
    · exact present
    · exact absent
    · exact present
  intro first before second later path one other found found' _ _
  rw [only first before path one found, only second later path other found']

theorem sample_fits : ∀ number ∈ sampleNumbers, number < 2 ^ 63 := by
  decide +kernel

end LatentDeck.Collections
