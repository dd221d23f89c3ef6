import LatentDeck.Library.Traps
import LatentDeck.Packages.Contract

/-!
# The metadata of an untrusted ZIP file

Before the ZIP crate opens an archive, the manager finds the end record and bounds the number of
entries that it, or its ZIP64 record, declares. After the crate has opened it, the raw central
directory is walked once more. Both read what an attacker has written: slices and sums are steps
that could trap.
-/

namespace LatentDeck.Packages

open Fallible Checked Traps
open LittleEndian (leBytes)

/-- An open file. Its length fits into the signed word of a seek. -/
structure ZipFile where
  bytes : Bytes
  fits : bytes.length < 2 ^ 63

def zip32EocdMinBytes : Nat := 22

def zip32EocdScanBytes : Nat := 22 + 65535

def zip64LocatorBytes : Nat := 20

def zip64EocdMinBytes : Nat := 56

def zip64EocdScanBytes : Nat := 1024 * 1024

/-- `PK\x05\x06`. -/
def endSignature : Bytes := [0x50, 0x4b, 0x05, 0x06]

/-- `PK\x06\x06`. -/
def zip64EndSignature : Bytes := [0x50, 0x4b, 0x06, 0x06]

/-- `PK\x06\x07`. -/
def zip64LocatorSignature : Bytes := [0x50, 0x4b, 0x06, 0x07]

def centralEntrySignature : Bytes := [0x50, 0x4b, 0x01, 0x02]

def endSignatures : List Bytes :=
  [[0x50, 0x4b, 0x05, 0x05], zip64EndSignature, zip64LocatorSignature, endSignature]

/-- `seek` to a place and `read_exact` of a number of bytes. -/
def ZipFile.readExactAt (file : ZipFile) (start width : Nat) : Attempt ErrorCode Bytes := do
  refuseIf (file.bytes.length < start + width) .archiveInvalid
  .ok (window file.bytes start width)

def readZip64CountAt (file : ZipFile) (offset locatorOffset : Nat) :
    Attempt ErrorCode (Option Nat) :=
  if (checkedAdd offset zip64EocdMinBytes).all (fun stop => decide (locatorOffset < stop)) then
    .ok none
  else do
    let header ← file.readExactAt offset zip64EocdMinBytes
    if ¬ zip64EndSignature <+: header then .ok none
    else
      let recordSize ← numberAt header 4 8
      if recordSize < 44 ∨
          (checkedAdd offset 12).bind (checkedAdd · recordSize) ≠ some locatorOffset then .ok none
      else
        let count ← numberAt header 32 8
        .ok (some count)

/-- The test of the backward scan in `read_zip64_entry_count`. -/
def zip64EndsAt (bytes : Bytes) (scanStart locatorOffset offset : Nat) :
    Attempt ErrorCode Bool := do
  let rest ← slice bytes offset bytes.length
  if ¬ zip64EndSignature <+: rest then .ok false
  else
    let recordSize ← numberAt bytes (offset + 4) 8
    let absoluteOffset ← plus scanStart offset
    .ok (decide (44 ≤ recordSize ∧
      (checkedAdd absoluteOffset 12).bind (checkedAdd · recordSize) = some locatorOffset))

def readZip64EntryCount (file : ZipFile) (eocdOffset : Nat) : Attempt ErrorCode Nat := do
  let locatorOffset ← require (checkedSub eocdOffset zip64LocatorBytes) .archiveInvalid
  let locator ← file.readExactAt locatorOffset 20
  refuseIf (¬ zip64LocatorSignature <+: locator) .archiveInvalid
  let relativeOffset ← numberAt locator 8 8
  let direct ← readZip64CountAt file relativeOffset locatorOffset
  match direct with
  | some count => .ok count
  | none =>
      let scanStart := locatorOffset - zip64EocdScanBytes
      let scanLength ← minus locatorOffset scanStart
      let bytes ← file.readExactAt scanStart scanLength
      let lastRecordOffset ← require (checkedSub bytes.length zip64EocdMinBytes) .archiveInvalid
      let found ← findDown (zip64EndsAt bytes scanStart locatorOffset) lastRecordOffset
      let offset ← require found .archiveInvalid
      numberAt bytes (offset + 32) 8

def declaredZipEntryCount (file : ZipFile) (eocd : Bytes) (eocdOffset : Nat) :
    Attempt ErrorCode Nat := do
  let entriesOnDisk ← numberAt eocd 8 2
  let totalEntries ← numberAt eocd 10 2
  let centralSize ← numberAt eocd 12 4
  let centralOffset ← numberAt eocd 16 4
  if entriesOnDisk = 0xffff ∨ totalEntries = 0xffff ∨ centralSize = 0xffffffff ∨
      centralOffset = 0xffffffff then
    readZip64EntryCount file eocdOffset
  else .ok totalEntries

/-- The test of the backward scan in `preflight_zip_metadata`. -/
def endsTail (tail : Bytes) (offset : Nat) : Attempt ErrorCode Bool := do
  let rest ← slice tail offset tail.length
  if endSignature <+: rest then
    let commentLength ← numberAt tail (offset + 20) 2
    .ok (decide ((checkedAdd offset zip32EocdMinBytes).bind (checkedAdd · commentLength) =
      some tail.length))
  else .ok false

/-- The count that `preflight_zip_metadata` bounds. -/
def zipEntryCount (file : ZipFile) (archiveByteLength : Nat) : Attempt ErrorCode Nat := do
  refuseIf (archiveByteLength < zip32EocdMinBytes) .archiveInvalid
  let tailLength := min archiveByteLength zip32EocdScanBytes
  let tailStart ← minus archiveByteLength tailLength
  let tail ← file.readExactAt tailStart tailLength
  let last ← minus tail.length zip32EocdMinBytes
  let selected ← findDown (endsTail tail) last
  let eocdTailOffset ← require selected .archiveInvalid
  let eocdOffset ← require (checkedAdd tailStart eocdTailOffset) .archiveInvalid
  let stop ← plus eocdTailOffset zip32EocdMinBytes
  let eocd ← slice tail eocdTailOffset stop
  declaredZipEntryCount file eocd eocdOffset

def preflightZipMetadata (file : ZipFile) (archiveByteLength : Nat) :
    Attempt ErrorCode Unit := do
  let count ← zipEntryCount file archiveByteLength
  refuseIf (maxArchiveEntries < count) .archiveInvalid

/-- Where the walk through the directory stands. -/
structure DirectoryWalk where
  position : Nat
  paths : List Bytes
  entryCount : Nat

/-- One round of the loop in `validate_raw_central_directory`: where it stands after a record, if
there was one. -/
def centralRecord (file : ZipFile) (walk : DirectoryWalk) :
    Attempt ErrorCode (Option DirectoryWalk) := do
  let signature ← file.readExactAt walk.position 4
  if signature ∈ endSignatures then .ok none
  else
    refuseIf (signature ≠ centralEntrySignature) .archiveInvalid
    let entryCount ← require (checkedAdd walk.entryCount 1) .archiveInvalid
    refuseIf (maxArchiveEntries < entryCount) .archiveInvalid
    let fixed ← file.readExactAt (walk.position + 4) 42
    let nameLength ← numberAt fixed 24 2
    let extraLength ← numberAt fixed 26 2
    let commentLength ← numberAt fixed 28 2
    refuseIf (nameLength = 0 ∨ 241 < nameLength) .archiveInvalid
    let name ← file.readExactAt (walk.position + 46) nameLength
    refuseIf (name ∈ walk.paths) .archiveInvalid
    let trailingLength ← require (checkedAdd extraLength commentLength) .archiveInvalid
    refuseIf (2 ^ 63 ≤ trailingLength) .archiveInvalid
    .ok (some
      { position := walk.position + 46 + nameLength + trailingLength
        paths := name :: walk.paths
        entryCount })

structure RecordRead (file : ZipFile) (walk next : DirectoryWalk) (name : Bytes) : Prop where
  inside : walk.position + 4 ≤ file.bytes.length
  signed : window file.bytes walk.position 4 = centralEntrySignature
  named : name = window file.bytes (walk.position + 46) (field file.bytes (walk.position + 28) 2)
  advanced : next.position = walk.position + 46 + field file.bytes (walk.position + 28) 2 +
    (field file.bytes (walk.position + 30) 2 + field file.bytes (walk.position + 32) 2)
  fresh : name ∉ walk.paths
  remembered : next.paths = name :: walk.paths
  counted : next.entryCount = walk.entryCount + 1

variable (file : ZipFile)

theorem ensures_readExactAt (start width : Nat) :
    Ensures (fun piece => start + width ≤ file.bytes.length ∧ piece = window file.bytes start width)
      (file.readExactAt start width) :=
  (ensures_refuseIf ..).bind fun _ inside => ensures_ok ⟨by omega, rfl⟩

variable {width : Nat}

theorem ensures_numberAt {bytes : Bytes} {start : Nat} (fits : bytes.length < 2 ^ 64)
    (inside : start + width ≤ bytes.length) :
    Ensures (fun value => value = field bytes start width)
      (numberAt bytes start width : Attempt ErrorCode Nat) :=
  ensures_of_eq (numberAt_eq fits inside)

theorem ensures_numberAt_window {start inner size : Nat}
    (inside : start + width ≤ file.bytes.length) (within : inner + size ≤ width) :
    Ensures (fun value => value = field file.bytes (start + inner) size)
      (numberAt (window file.bytes start width) inner size : Attempt ErrorCode Nat) := by
  have fits := file.fits
  have long := window_length inside
  refine (ensures_numberAt (by omega) (by omega)).mono fun value same => ?_
  rw [same, field_window file.bytes within]

/-- One round ends the walk at an end signature, or it reads a record. -/
theorem ensures_centralRecord (walk : DirectoryWalk) :
    Ensures (fun outcome =>
        (outcome = none → window file.bytes walk.position 4 ∈ endSignatures) ∧
        ∀ next ∈ outcome, ∃ name, RecordRead file walk next name)
      (centralRecord file walk) := by
  refine (ensures_readExactAt ..).bind fun signature read => ?_
  obtain ⟨inside, rfl⟩ := read
  refine Ensures.ite (fun ended => ensures_ok ⟨fun _ => ended, nofun⟩) fun _ => ?_
  refine (ensures_refuseIf ..).bind fun _ signed => ?_
  refine (ensures_require ..).bind fun entryCount counted => ?_
  refine (ensures_refuseIf ..).bind fun _ _ => ?_
  refine (ensures_readExactAt ..).bind fun fixed read => ?_
  obtain ⟨fixedInside, rfl⟩ := read
  refine (ensures_numberAt_window file fixedInside (by decide)).bind fun nameLength sized => ?_
  refine (ensures_numberAt_window file fixedInside (by decide)).bind fun extraLength extra => ?_
  refine (ensures_numberAt_window file fixedInside (by decide)).bind fun commentLength comment => ?_
  refine (ensures_refuseIf ..).bind fun _ _ => ?_
  refine (ensures_readExactAt ..).bind fun name read => ?_
  refine (ensures_refuseIf ..).bind fun _ fresh => ?_
  refine (ensures_require ..).bind fun trailingLength trailing => ?_
  refine (ensures_refuseIf ..).bind fun _ _ => ensures_ok
    ⟨nofun, ?_⟩
  intro next same
  rw [← Option.some.inj same]
  have one := ((checkedAdd_eq_some ..).mp counted).1
  have both := ((checkedAdd_eq_some ..).mp trailing).1
  have nameAt : nameLength = field file.bytes (walk.position + 28) 2 := sized
  have extraAt : extraLength = field file.bytes (walk.position + 30) 2 := extra
  have commentAt : commentLength = field file.bytes (walk.position + 32) 2 := comment
  refine ⟨name, inside, not_not.mp signed, ?_, ?_, fresh, rfl, one⟩
  · rw [read.2, nameAt]
  · dsimp only
    rw [both, nameAt, extraAt, commentAt]

theorem RecordRead.forward {file : ZipFile} {walk next : DirectoryWalk} {name : Bytes}
    (read : RecordRead file walk next name) :
    file.bytes.length - next.position < file.bytes.length - walk.position := by
  have inside := read.inside
  have advanced := read.advanced
  omega

/-- The loop of `validate_raw_central_directory`: the number of records up to an end signature. -/
def centralRecords (file : ZipFile) (walk : DirectoryWalk) : Attempt ErrorCode Nat :=
  match _ : centralRecord file walk with
  | .error trap => .error trap
  | .ok none => .ok walk.entryCount
  | .ok (some next) => centralRecords file next
  termination_by file.bytes.length - walk.position
  decreasing_by
    rename_i round
    obtain ⟨_, read⟩ := ((ensures_centralRecord file walk).holds _ round).2 next rfl
    exact read.forward

def validateRawCentralDirectory (file : ZipFile) (centralDirectoryStart uniqueEntryCount : Nat) :
    Attempt ErrorCode Unit := do
  let entryCount ← centralRecords file
    { position := centralDirectoryStart, paths := [], entryCount := 0 }
  refuseIf (entryCount ≠ uniqueEntryCount) .archiveInvalid

/-- From a place on, a file holds records with these names, up to an end signature. -/
inductive CentralRecords (bytes : Bytes) : Nat → List Bytes → Prop where
  | done {start : Nat} (ended : window bytes start 4 ∈ endSignatures) :
      CentralRecords bytes start []
  | record {start : Nat} {names : List Bytes}
      (signed : window bytes start 4 = centralEntrySignature)
      (others : CentralRecords bytes (start + 46 + field bytes (start + 28) 2 +
        (field bytes (start + 30) 2 + field bytes (start + 32) 2)) names) :
      CentralRecords bytes start (window bytes (start + 46) (field bytes (start + 28) 2) :: names)

/-- The walk counts the records, and their names differ. -/
theorem ensures_centralRecords (walk : DirectoryWalk) :
    Ensures (fun count => ∃ names, CentralRecords file.bytes walk.position names ∧
        count = walk.entryCount + names.length ∧ names.Nodup ∧ ∀ name ∈ names, name ∉ walk.paths)
      (centralRecords file walk) := by
  have step := ensures_centralRecord file walk
  fun_induction centralRecords file walk with
  | case1 walk trap round =>
    rw [round] at step
    exact ⟨raises_error (step.untrapped trap rfl), nofun⟩
  | case2 walk round =>
    have ended := (step.holds none round).1 rfl
    exact ensures_ok ⟨[], .done ended, rfl, List.nodup_nil, nofun⟩
  | case3 walk next round ih =>
    obtain ⟨name, read⟩ := (step.holds _ round).2 next rfl
    refine (ih (ensures_centralRecord file next)).mono fun count counted => ?_
    obtain ⟨names, others, total, distinct, unseen⟩ := counted
    rw [read.advanced] at others
    refine ⟨name :: names, ?_, ?_, ?_, ?_⟩
    · rw [read.named]
      exact .record read.signed others
    · rw [total, read.counted, List.length_cons]
      omega
    · refine List.nodup_cons.mpr ⟨fun again => unseen name again ?_, distinct⟩
      rw [read.remembered]
      exact List.mem_cons_self
    · intro other among
      rcases List.mem_cons.mp among with same | later
      · rw [same]
        exact read.fresh
      · intro seen
        refine unseen other later ?_
        rw [read.remembered]
        exact List.mem_cons_of_mem _ seen

/-- An end record whose comment reaches the end of the file. -/
structure EndRecord (bytes : Bytes) (offset : Nat) : Prop where
  signed : window bytes offset 4 = endSignature
  reaches : offset + 22 + field bytes (offset + 20) 2 = bytes.length

structure LastEnd (bytes : Bytes) (offset : Nat) : Prop where
  record : EndRecord bytes offset
  last : ∀ other, EndRecord bytes other → other ≤ offset

/-- One of the four fields of an end record is the sentinel. -/
def NeedsZip64 (bytes : Bytes) (offset : Nat) : Prop :=
  field bytes (offset + 8) 2 = 0xffff ∨ field bytes (offset + 10) 2 = 0xffff ∨
    field bytes (offset + 12) 4 = 0xffffffff ∨ field bytes (offset + 16) 4 = 0xffffffff

/-- A ZIP64 record that ends exactly at the locator. -/
structure Zip64Record (bytes : Bytes) (locator offset : Nat) : Prop where
  signed : window bytes offset 4 = zip64EndSignature
  sized : 44 ≤ field bytes (offset + 4) 8
  ends : offset + 12 + field bytes (offset + 4) 8 = locator

/-- Where a locator says that the ZIP64 record is. -/
def locatorTarget (bytes : Bytes) (locator : Nat) : Nat := field bytes (locator + 8) 8

/-- The ZIP64 record that a reader may use: one that ends at the locator, and the one that the
locator points to if that one does. -/
structure UsableRecord (bytes : Bytes) (locator offset : Nat) : Prop where
  located : window bytes locator 4 = zip64LocatorSignature
  record : Zip64Record bytes locator offset
  targeted : Zip64Record bytes locator (locatorTarget bytes locator) →
    offset = locatorTarget bytes locator

/-- The number of entries that a reader of a file may take from its end record, or from a ZIP64
record when a field of the end record is the sentinel. -/
inductive Reads (bytes : Bytes) : Nat → Prop where
  | direct {eocd : Nat} (found : LastEnd bytes eocd) (small : ¬ NeedsZip64 bytes eocd) :
      Reads bytes (field bytes (eocd + 10) 2)
  | zip64 {eocd offset : Nat} (found : LastEnd bytes eocd) (large : NeedsZip64 bytes eocd)
      (preceded : 20 ≤ eocd) (usable : UsableRecord bytes (eocd - 20) offset) :
      Reads bytes (field bytes (offset + 32) 8)

/-- The ZIP64 records that a reader may use declare the same number of entries. -/
def Unambiguous (bytes : Bytes) : Prop :=
  ∀ eocd, LastEnd bytes eocd → NeedsZip64 bytes eocd →
    Zip64Record bytes (eocd - 20) (locatorTarget bytes (eocd - 20)) ∨
    ∀ first second, Zip64Record bytes (eocd - 20) first → Zip64Record bytes (eocd - 20) second →
      field bytes (first + 32) 8 = field bytes (second + 32) 8

theorem checkedAdd_bind {first second third total : Nat} (small : total < 2 ^ 64) :
    (checkedAdd first second).bind (checkedAdd · third) = some total ↔
      first + second + third = total := by
  rw [Option.bind_eq_some_iff]
  constructor
  · rintro ⟨sum, partly, whole⟩
    have one := (checkedAdd_eq_some ..).mp partly
    have two := (checkedAdd_eq_some ..).mp whole
    omega
  · intro same
    refine ⟨first + second, (checkedAdd_eq_some ..).mpr ⟨rfl, by omega⟩, ?_⟩
    exact (checkedAdd_eq_some ..).mpr ⟨by omega, by omega⟩

theorem prefix_iff_window {signature rest : Bytes} (four : signature.length = 4) :
    signature <+: rest ↔ rest.take 4 = signature := by
  rw [List.prefix_iff_eq_take, four]
  exact eq_comm

theorem prefix_window {bytes signature : Bytes} {start : Nat} (four : signature.length = 4)
    (wide : 4 ≤ width) :
    signature <+: window bytes start width ↔ window bytes start 4 = signature := by
  rw [prefix_iff_window four]
  unfold window
  rw [List.take_take, Nat.min_eq_left wide]

variable {offset : Nat}

/-- The test of the end record's scan decides whether there is one. -/
theorem endsTail_decides {tail : Bytes} (fits : tail.length < 2 ^ 63)
    (inside : offset + 22 ≤ tail.length) :
    ∃ passed, endsTail tail offset = .ok passed ∧ (passed = true ↔ EndRecord tail offset) := by
  have signature : endSignature <+: window tail offset (tail.length - offset) ↔
      window tail offset 4 = endSignature := prefix_window rfl (by omega)
  unfold endsTail
  rw [slice_eq (by omega) (Nat.le_refl _)]
  show ∃ passed, (if endSignature <+: window tail offset (tail.length - offset) then _
    else _ : Attempt ErrorCode Bool) = .ok passed ∧ _
  by_cases signed : endSignature <+: window tail offset (tail.length - offset)
  · rw [if_pos signed, numberAt_eq (by omega) (by omega)]
    refine ⟨_, rfl, ?_⟩
    rw [decide_eq_true_eq, checkedAdd_bind (by omega)]
    exact ⟨fun reaches => ⟨signature.mp signed, reaches⟩, fun record => record.reaches⟩
  · rw [if_neg signed]
    exact ⟨false, rfl, nofun, fun record => absurd (signature.mpr record.signed) signed⟩

/-- The test of the ZIP64 record's scan decides whether there is one. -/
theorem zip64EndsAt_decides {scanStart locator : Nat}
    (inside : scanStart + width ≤ file.bytes.length) (bounded : offset + 56 ≤ width)
    (located : locator < 2 ^ 63) :
    ∃ passed,
      zip64EndsAt (window file.bytes scanStart width) scanStart locator offset = .ok passed ∧
      (passed = true ↔ Zip64Record file.bytes locator (scanStart + offset)) := by
  have fits := file.fits
  have long := window_length inside
  have sizeAt : field (window file.bytes scanStart width) (offset + 4) 8 =
      field file.bytes (scanStart + offset + 4) 8 := by
    rw [field_window file.bytes (by omega), Nat.add_assoc]
  have signature : zip64EndSignature <+:
      window (window file.bytes scanStart width) offset (width - offset) ↔
        window file.bytes (scanStart + offset) 4 = zip64EndSignature := by
    rw [prefix_window rfl (by omega), window_window file.bytes (by omega)]
  unfold zip64EndsAt
  rw [slice_eq (by omega) (Nat.le_refl _), long]
  show ∃ passed, (if ¬ zip64EndSignature <+:
    window (window file.bytes scanStart width) offset (width - offset) then _
    else _ : Attempt ErrorCode Bool) = .ok passed ∧ _
  by_cases signed : zip64EndSignature <+:
      window (window file.bytes scanStart width) offset (width - offset)
  · rw [if_neg (not_not.mpr signed), numberAt_eq (by omega) (by omega), sizeAt,
      plus_eq (by omega)]
    refine ⟨_, rfl, ?_⟩
    rw [decide_eq_true_eq, checkedAdd_bind (by omega)]
    exact ⟨fun passed => ⟨signature.mp signed, passed.1, passed.2⟩,
      fun record => ⟨record.sized, record.ends⟩⟩
  · rw [if_pos signed]
    exact ⟨false, rfl, nofun, fun record => absurd (signature.mpr record.signed) signed⟩

theorem ensures_readZip64CountAt (offset locator : Nat) :
    Ensures (fun outcome =>
        (∀ count ∈ outcome, count = field file.bytes (offset + 32) 8 ∧
          (locator < 2 ^ 63 → Zip64Record file.bytes locator offset)) ∧
        (outcome = none → locator < 2 ^ 63 → ¬ Zip64Record file.bytes locator offset))
      (readZip64CountAt file offset locator) := by
  refine Ensures.ite (fun beyond => ensures_ok ⟨nofun, ?_⟩) fun _ => ?_
  · intro _ small record
    have sized := record.sized
    have ends := record.ends
    have within : checkedAdd offset zip64EocdMinBytes = some (offset + 56) :=
      (checkedAdd_eq_some ..).mpr ⟨rfl, by unfold zip64EocdMinBytes; omega⟩
    rw [within, Option.all_some, decide_eq_true_eq] at beyond
    omega
  refine (ensures_readExactAt ..).bind fun header read => ?_
  obtain ⟨inside, rfl⟩ := read
  have signature : zip64EndSignature <+: window file.bytes offset zip64EocdMinBytes ↔
      window file.bytes offset 4 = zip64EndSignature := prefix_window rfl (by decide)
  refine Ensures.ite (fun unsigned => ensures_ok ⟨nofun, ?_⟩)
    fun signed => ?_
  · intro _ _ record
    exact unsigned (signature.mpr record.signed)
  refine (ensures_numberAt_window file inside (by decide)).bind fun recordSize sizeAt => ?_
  refine Ensures.ite (fun wrong => ensures_ok ⟨nofun, ?_⟩)
    fun right => ?_
  · intro _ small record
    rw [sizeAt] at wrong
    rcases wrong with short | apart
    · exact absurd record.sized (by omega)
    · exact apart ((checkedAdd_bind (by omega)).mpr record.ends)
  refine (ensures_numberAt_window file inside (by decide)).bind fun count countAt => ?_
  refine ensures_ok ⟨?_, nofun⟩
  intro other same
  rw [← Option.some.inj same]
  refine ⟨countAt, fun small => ⟨signature.mp (not_not.mp signed), ?_, ?_⟩⟩
  · rw [← sizeAt]
    omega
  · have ends := not_not.mp (not_or.mp right).2
    rw [checkedAdd_bind (by omega), sizeAt] at ends
    exact ends

/-- The count of the ZIP64 record is that of a record which a reader may use. -/
theorem ensures_readZip64EntryCount (eocdOffset : Nat) :
    Ensures (fun count => 20 ≤ eocdOffset ∧ ∃ offset,
        UsableRecord file.bytes (eocdOffset - 20) offset ∧ count = field file.bytes (offset + 32) 8)
      (readZip64EntryCount file eocdOffset) := by
  have fits := file.fits
  refine (ensures_require ..).bind fun locatorOffset before => ?_
  have preceded : eocdOffset = 20 + locatorOffset := (checkedSub_eq_some ..).mp before
  have here : eocdOffset - 20 = locatorOffset := by omega
  rw [here]
  refine (ensures_readExactAt ..).bind fun locator read => ?_
  obtain ⟨locatorInside, rfl⟩ := read
  refine (ensures_refuseIf ..).bind fun _ signed => ?_
  have located : window file.bytes locatorOffset 4 = zip64LocatorSignature :=
    (prefix_window rfl (by decide)).mp (not_not.mp signed)
  refine (ensures_numberAt_window file locatorInside (by decide)).bind fun target targetAt => ?_
  have isTarget : target = locatorTarget file.bytes locatorOffset := targetAt
  refine (ensures_readZip64CountAt file target locatorOffset).bind fun direct found => ?_
  obtain ⟨atTarget, elsewhere⟩ := found
  have small : locatorOffset < 2 ^ 63 := by omega
  cases direct with
  | some count =>
    obtain ⟨countAt, record⟩ := atTarget count rfl
    refine ensures_ok ⟨by omega, target, ⟨located, record small, fun _ => isTarget⟩, countAt⟩
  | none =>
    have missing : ¬ Zip64Record file.bytes locatorOffset target := elsewhere rfl small
    refine (ensures_of_eq (minus_eq (by omega))).bind fun scanLength length => ?_
    refine (ensures_readExactAt ..).bind fun bytes read => ?_
    obtain ⟨inside, rfl⟩ := read
    refine (ensures_require ..).bind fun last lastAt => ?_
    have long := window_length inside
    have room : scanLength = 56 + last := by
      rw [long] at lastAt
      exact (checkedSub_eq_some ..).mp lastAt
    have decides : ∀ offset ≤ last, ∃ passed,
        zip64EndsAt (window file.bytes (locatorOffset - zip64EocdScanBytes) scanLength)
          (locatorOffset - zip64EocdScanBytes) locatorOffset offset = .ok passed ∧
        (passed = true ↔ Zip64Record file.bytes locatorOffset
          (locatorOffset - zip64EocdScanBytes + offset)) :=
      fun offset bounded => zip64EndsAt_decides file inside (by omega) small
    obtain ⟨found, searched, first, _⟩ := findDown_spec decides
    refine (ensures_of_eq searched).bind fun _ same => ?_
    rw [same]
    refine (ensures_require ..).bind fun offset isFound => ?_
    obtain ⟨bounded, record, _⟩ := first offset isFound
    refine (ensures_numberAt_window file inside (by omega)).mono fun count countAt => ?_
    refine ⟨by omega, _, ⟨located, record, fun targeted => ?_⟩, ?_⟩
    · rw [← isTarget] at targeted
      exact absurd targeted missing
    · rw [countAt, Nat.add_assoc]

/-- An end record of a tail is one of the file, and the last one of the file is in its tail. -/
theorem lastEnd_of_tail {file : ZipFile} {start : Nat} (whole : start + width = file.bytes.length)
    (scanned : width = min file.bytes.length zip32EocdScanBytes)
    (record : EndRecord (window file.bytes start width) offset)
    (last : ∀ later, later + 22 ≤ width → EndRecord (window file.bytes start width) later →
      later ≤ offset) : LastEnd file.bytes (start + offset) := by
  have long := window_length (Nat.le_of_eq whole)
  have shifted : ∀ place, place + 22 ≤ width →
      (EndRecord (window file.bytes start width) place ↔ EndRecord file.bytes (start + place)) := by
    intro place inside
    have signature : window (window file.bytes start width) place 4 =
        window file.bytes (start + place) 4 := window_window file.bytes (by omega)
    have comment : field (window file.bytes start width) (place + 20) 2 =
        field file.bytes (start + (place + 20)) 2 := field_window file.bytes (by omega)
    constructor
    · intro found
      have reaches := found.reaches
      rw [comment, long] at reaches
      refine ⟨by rw [← signature]; exact found.signed, ?_⟩
      rw [Nat.add_assoc start place 20]
      omega
    · intro found
      have reaches := found.reaches
      rw [Nat.add_assoc start place 20] at reaches
      refine ⟨by rw [signature]; exact found.signed, ?_⟩
      rw [comment, long]
      omega
  have bounded : offset + 22 ≤ width := by
    have reaches := record.reaches
    omega
  refine ⟨(shifted offset bounded).mp record, fun other found => ?_⟩
  have reaches := found.reaches
  have short := field_lt file.bytes (other + 20) 2
  by_cases before : other < start
  · omega
  · have same : start + (other - start) = other := by omega
    have inTail : EndRecord (window file.bytes start width) (other - start) := by
      refine (shifted (other - start) (by omega)).mpr ?_
      rw [same]
      exact found
    have bound := last (other - start) (by omega) inTail
    omega

/-- The count that the preflight bounds is one that a reader may take. -/
theorem ensures_zipEntryCount (archiveByteLength : Nat) :
    Ensures (fun count => archiveByteLength = file.bytes.length → Reads file.bytes count)
      (zipEntryCount file archiveByteLength) := by
  have fits := file.fits
  refine (ensures_refuseIf ..).bind fun _ nonempty => ?_
  have minimal : 22 ≤ archiveByteLength := by
    unfold zip32EocdMinBytes at nonempty
    omega
  have enough : 22 ≤ min archiveByteLength zip32EocdScanBytes :=
    Nat.le_min.mpr ⟨minimal, by decide⟩
  refine (ensures_of_eq (minus_eq (Nat.min_le_left ..))).bind fun tailStart starts => ?_
  refine (ensures_readExactAt ..).bind fun tail read => ?_
  obtain ⟨inside, rfl⟩ := read
  have long := window_length inside
  generalize spanned : min archiveByteLength zip32EocdScanBytes = width at *
  have room : zip32EocdMinBytes ≤ (window file.bytes tailStart width).length := by
    rw [long]
    exact enough
  refine (ensures_of_eq (minus_eq room)).bind fun last lastAt => ?_
  have lastIs : last + 22 = width := by
    unfold zip32EocdMinBytes at lastAt
    omega
  have decides : ∀ offset ≤ last, ∃ passed,
      endsTail (window file.bytes tailStart width) offset = .ok passed ∧
        (passed = true ↔ EndRecord (window file.bytes tailStart width) offset) :=
    fun offset bounded => endsTail_decides (by omega) (by omega)
  obtain ⟨found, searched, first, _⟩ := findDown_spec decides
  refine (ensures_of_eq searched).bind fun _ same => ?_
  rw [same]
  refine (ensures_require ..).bind fun eocdTailOffset isFound => ?_
  obtain ⟨bounded, record, latest⟩ := first eocdTailOffset isFound
  refine (ensures_require ..).bind fun eocdOffset offsetAt => ?_
  have placed : eocdOffset = tailStart + eocdTailOffset := ((checkedAdd_eq_some ..).mp offsetAt).1
  refine (ensures_of_eq (plus_eq (by unfold zip32EocdMinBytes; omega))).bind fun stop stopAt => ?_
  have stops : stop = eocdTailOffset + 22 := stopAt
  refine (ensures_of_eq (slice_eq (by omega) (by omega))).bind fun eocd eocdAt => ?_
  have part : eocd = window file.bytes eocdOffset 22 := by
    rw [eocdAt, stops, Nat.add_sub_cancel_left, window_window file.bytes (by omega), placed]
  rw [part]
  have eocdInside : eocdOffset + 22 ≤ file.bytes.length := by omega
  have isLast : archiveByteLength = file.bytes.length → LastEnd file.bytes eocdOffset := by
    intro whole
    rw [placed]
    refine lastEnd_of_tail (by omega) (by omega) record fun later inTail found => ?_
    exact latest later (by omega) found
  refine (ensures_numberAt_window file eocdInside (by decide)).bind fun entriesOnDisk diskAt => ?_
  refine (ensures_numberAt_window file eocdInside (by decide)).bind fun totalEntries totalAt => ?_
  refine (ensures_numberAt_window file eocdInside (by decide)).bind fun centralSize sizeAt => ?_
  refine (ensures_numberAt_window file eocdInside (by decide)).bind fun centralOffset startAt => ?_
  rw [diskAt, totalAt, sizeAt, startAt]
  refine Ensures.ite (fun large => ?_) fun small => ensures_ok fun whole => ?_
  · refine (ensures_readZip64EntryCount file eocdOffset).mono fun count read whole => ?_
    obtain ⟨preceded, offset, usable, countAt⟩ := read
    rw [countAt]
    exact .zip64 (isLast whole) large preceded usable
  · exact .direct (isLast whole) small

theorem LastEnd.unique {bytes : Bytes} {first second : Nat} (one : LastEnd bytes first)
    (two : LastEnd bytes second) : first = second :=
  Nat.le_antisymm (two.last first one.record) (one.last second two.record)

/-- A count that a reader may take is the only one exactly if the records agree. -/
theorem reads_unique_iff {bytes : Bytes} {count : Nat} (taken : Reads bytes count) :
    (∀ used, Reads bytes used → used = count) ↔ Unambiguous bytes := by
  constructor
  · intro only eocd found large
    by_cases targeted : Zip64Record bytes (eocd - 20) (locatorTarget bytes (eocd - 20))
    · exact Or.inl targeted
    · refine Or.inr fun first second one two => ?_
      cases taken with
      | direct other small =>
        rw [other.unique found] at small
        exact absurd large small
      | zip64 other _ preceded usable =>
        rw [other.unique found] at preceded usable
        have reads : ∀ offset, Zip64Record bytes (eocd - 20) offset →
            Reads bytes (field bytes (offset + 32) 8) := fun offset record =>
          .zip64 found large preceded
            ⟨usable.located, record, fun impossible => absurd impossible targeted⟩
        rw [only _ (reads first one), only _ (reads second two)]
  · intro unambiguous used read
    cases taken with
    | @direct eocd found small =>
      cases read with
      | direct other _ => rw [other.unique found]
      | zip64 other large _ _ =>
        rw [other.unique found] at large
        exact absurd large small
    | @zip64 eocd offset found large _ usable =>
      cases read with
      | direct other small =>
        rw [other.unique found] at small
        exact absurd large small
      | zip64 other _ _ second =>
        rw [other.unique found] at second
        rcases unambiguous eocd found large with targeted | agree
        · rw [second.targeted targeted, usable.targeted targeted]
        · exact agree _ _ second.record usable.record

/-- The metadata readers never trap. An accepted preflight has bounded a count that a reader may
take, the only one exactly if the ZIP64 records that end at the locator agree; an accepted directory
has a record for each entry, with different names. -/
theorem zip_metadata_bounded :
    (∀ archiveByteLength, Untrapped (preflightZipMetadata file archiveByteLength)) ∧
    (∀ eocdOffset, Untrapped (readZip64EntryCount file eocdOffset)) ∧
    (∀ offset locatorOffset, Untrapped (readZip64CountAt file offset locatorOffset)) ∧
    (∀ start unique, Untrapped (validateRawCentralDirectory file start unique)) ∧
    (preflightZipMetadata file file.bytes.length = .ok () →
      ∃ count ≤ maxArchiveEntries, zipEntryCount file file.bytes.length = .ok count ∧
        Reads file.bytes count ∧
        ((∀ used, Reads file.bytes used → used = count) ↔ Unambiguous file.bytes)) ∧
    (∀ start unique, validateRawCentralDirectory file start unique = .ok () →
      ∃ names, CentralRecords file.bytes start names ∧ names.length = unique ∧ names.Nodup) := by
  refine ⟨fun length => ?_,
    fun eocdOffset => (ensures_readZip64EntryCount file eocdOffset).untrapped,
    fun offset locator => (ensures_readZip64CountAt file offset locator).untrapped,
    fun start unique => ?_, fun accepted => ?_, fun start unique accepted => ?_⟩
  · have checked : Ensures (fun _ => True) (preflightZipMetadata file length) :=
      (ensures_zipEntryCount file length).bind fun count _ =>
        (ensures_refuseIf (maxArchiveEntries < count) _).mono fun _ _ => trivial
    exact checked.untrapped
  · have checked : Ensures (fun _ => True) (validateRawCentralDirectory file start unique) :=
      (ensures_centralRecords file _).bind fun count _ =>
        (ensures_refuseIf (count ≠ unique) _).mono fun _ _ => trivial
    exact checked.untrapped
  · obtain ⟨count, counted, bounded⟩ := (bind_eq_ok ..).mp accepted
    have small := (refuseWhen_eq_ok _ _).mp bounded
    have reads := (ensures_zipEntryCount file _).holds count counted rfl
    exact ⟨count, by omega, counted, reads, reads_unique_iff reads⟩
  · obtain ⟨count, counted, matched⟩ := (bind_eq_ok ..).mp accepted
    have same := not_not.mp ((refuseWhen_eq_ok _ _).mp matched)
    obtain ⟨names, records, total, distinct, _⟩ :=
      (ensures_centralRecords file _).holds count counted
    dsimp only at total
    exact ⟨names, records, by omega, distinct⟩

/-- An archive without entries that has a ZIP64 record and a comment. -/
def commentedZip : ZipFile where
  bytes :=
    zip64EndSignature ++ leBytes 8 44 ++ List.replicate 44 0 ++
    zip64LocatorSignature ++ List.replicate 16 0 ++
    endSignature ++ List.replicate 16 0xff ++ leBytes 2 6 ++
      "sample".toUTF8.data.toList
  fits := by decide +kernel

/-- The count of the ZIP64 record is the only one that a reader may take. -/
theorem commentedZip_bounded :
    ∃ count ≤ maxArchiveEntries,
      zipEntryCount commentedZip commentedZip.bytes.length = .ok count ∧
      Reads commentedZip.bytes count ∧
      ((∀ used, Reads commentedZip.bytes used → used = count) ↔ Unambiguous commentedZip.bytes) :=
  (zip_metadata_bounded commentedZip).2.2.2.2.1 (by decide +kernel)

/-- Four bytes before an archive of one empty file, whose ZIP64 record holds a second one. Both end
at the locator, which points to neither because of the bytes before the archive. -/
def nestedZip : ZipFile where
  bytes :=
    List.replicate 4 0 ++
    [0x50, 0x4b, 3, 4, 20, 0] ++ List.replicate 20 0 ++ leBytes 4 1 ++ [0x61] ++
    centralEntrySignature ++ [20, 0, 20, 0] ++ List.replicate 20 0 ++ leBytes 4 1 ++
      List.replicate 14 0 ++ [0x61] ++
    zip64EndSignature ++ leBytes 8 100 ++ [45, 0, 45, 0] ++ List.replicate 8 0 ++
      leBytes 8 1 ++ leBytes 8 1 ++ leBytes 8 47 ++
      leBytes 8 31 ++
    zip64EndSignature ++ leBytes 8 44 ++ List.replicate 44 0 ++
    zip64LocatorSignature ++ leBytes 12 (78 * 2 ^ 32) ++ leBytes 4 1 ++
    endSignature ++ List.replicate 4 0 ++ List.replicate 12 0xff ++ List.replicate 2 0
  fits := by decide +kernel

/-- The preflight bounds the count of the inner record, which is zero, and a reader that looks from
the locator's target on takes the one of the outer, as many as the directory has. -/
theorem nestedZip_accepted :
    preflightZipMetadata nestedZip nestedZip.bytes.length = .ok () ∧
    zipEntryCount nestedZip nestedZip.bytes.length = .ok 0 ∧
    Reads nestedZip.bytes 1 ∧ ∃ name, CentralRecords nestedZip.bytes 35 [name] := by
  refine ⟨by decide +kernel, by decide +kernel, ?_, _, .record (by rfl) (.done (by decide))⟩
  have total : nestedZip.bytes.length = 236 := by rfl
  have found : LastEnd nestedZip.bytes 214 := by
    refine ⟨⟨by decide +kernel, by decide +kernel⟩, fun other record => ?_⟩
    have reaches := record.reaches
    omega
  have outer : Zip64Record nestedZip.bytes 194 82 := ⟨by rfl, by decide, by rfl⟩
  have usable : UsableRecord nestedZip.bytes (214 - 20) 82 := by
    refine ⟨by decide, outer, fun targeted => ?_⟩
    have unsigned : window nestedZip.bytes 78 4 ≠ zip64EndSignature := by decide
    exact absurd targeted.signed unsigned
  have count : field nestedZip.bytes (82 + 32) 8 = 1 := by decide +kernel
  rw [← count]
  exact .zip64 found (Or.inr (Or.inl (by rfl))) (by decide) usable

end LatentDeck.Packages
