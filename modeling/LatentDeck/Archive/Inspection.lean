import LatentDeck.Archive.Layout

/-!
# What the inspector accepts

`inspect_canonical` accepts exactly the canonical bytes of stored archives. Each step of the
inspection is an equivalence: the end records determine where the central directory is, the
central records determine where the local headers are, and the three regions together cover every
byte of the medium.
-/

namespace LatentDeck.Archive

open ByteFormat LittleEndian Checked Fallible

/-- Searching backwards finds the last index that satisfies a predicate. -/
theorem find_reverse_range (predicate : Nat → Bool) (count index : Nat) (inside : index < count)
    (holds : predicate index = true)
    (last : ∀ later, index < later → later < count → predicate later = false) :
    (List.range count).reverse.find? predicate = some index := by
  induction count with
  | zero => omega
  | succ count ih =>
    rw [List.range_succ, List.reverse_append, List.reverse_singleton, List.singleton_append,
      List.find?_cons]
    by_cases here : index = count
    · rw [← here, holds]
    · rw [last count (by omega) (by omega)]
      exact ih (by omega) fun later after before => last later after (by omega)

theorem endSignature_first : ∀ index < endBytes - 3, 0 < index →
    ((endRecord.drop index).take 4 == leBytes 4 endSignature) = false := by
  decide

/-- The last end signature of a string that ends with the end record starts that record. -/
theorem lastWindow_endRecord (tail : List UInt8) :
    lastWindow (leBytes 4 endSignature) (tail ++ endRecord) = some tail.length := by
  unfold lastWindow
  have total : (tail ++ endRecord).length = tail.length + endBytes := by
    rw [List.length_append, endRecord_length]
  have size : endBytes = 22 := rfl
  rw [total, leBytes_length]
  apply find_reverse_range
  · omega
  · rw [List.drop_left]
    rfl
  · intro later after before
    obtain ⟨index, rfl⟩ : ∃ index, later = tail.length + index := ⟨later - tail.length, by omega⟩
    rw [← List.drop_drop, List.drop_left]
    exact endSignature_first index (by omega) (by omega)

variable (medium : List UInt8)

theorem findEndRecord_offset (position offset next : Nat)
    (found : findEndRecord medium.length medium position = .ok (offset, next)) :
    offset + endBytes = medium.length := by
  unfold findEndRecord at found
  simp only [bind_ok, seek_ok] at found
  obtain ⟨_, start, rfl, tail, after, -, matched⟩ := found
  cases window : lastWindow (leBytes 4 endSignature) tail with
  | none =>
    rw [window] at matched
    exact (refuse_ok _ _ _ _ matched).elim
  | some relative =>
    rw [window] at matched
    simp only [bind_ok, demand_ok, pure_ok, checkedAdd_eq_some] at matched
    obtain ⟨-, -, ⟨⟨total, -⟩, -⟩, rfl, -⟩ := matched
    exact total.symm

/-- The end record is found when it ends the medium. -/
theorem findEndRecord_found (front : List UInt8) (position : Nat)
    (ends : medium = front ++ endRecord) (bound : medium.length < 2 ^ 64) :
    ∃ next, findEndRecord medium.length medium position = .ok (front.length, next) := by
  have total : medium.length = front.length + endBytes := by
    rw [ends, List.length_append, endRecord_length]
  let searchLength := min medium.length (u16Max + endBytes)
  let searchStart := medium.length - searchLength
  have sizes : endBytes = 22 ∧ u16Max = 65535 := ⟨rfl, rfl⟩
  have inside : searchStart ≤ front.length := by omega
  have tail : medium.drop searchStart = front.drop searchStart ++ endRecord := by
    rw [ends]
    exact List.drop_append_of_le_length inside
  have length : (front.drop searchStart ++ endRecord).length = searchLength := by
    rw [List.length_append, endRecord_length, List.length_drop]
    omega
  have start : searchStart + (front.drop searchStart).length = front.length := by
    rw [List.length_drop]
    omega
  refine ⟨searchStart + searchLength, ?_⟩
  unfold findEndRecord
  simp only [bind_ok, seek_ok]
  refine ⟨(), searchStart, rfl, front.drop searchStart ++ endRecord, searchStart + searchLength,
    ?_, ?_⟩
  · rw [readExact_ok, tail, List.take_of_length_le length.le]
    exact ⟨rfl, length, rfl⟩
  · rw [lastWindow_endRecord]
    simp only [bind_ok, demand_ok, pure_ok, checkedAdd_eq_some]
    refine ⟨(), _, ⟨⟨?_, ?_⟩, rfl⟩, start.symm, rfl⟩
    · rw [start, total]
    · rw [start, ← total]
      exact bound

/-- The end records are accepted exactly when they stand one after the other at the end. -/
theorem readTerminator_ok (endOffset position : Nat) (terminator : Terminator)
    (ends : endOffset + endBytes = medium.length) (bound : medium.length < 2 ^ 64) :
    (∃ next, readTerminator medium.length endOffset medium position = .ok (terminator, next)) ↔
      (minArchiveEntries ≤ terminator.entryCount ∧
        terminator.entryCount ≤ maxArchiveEntries) ∧
      terminator.centralOffset + terminator.centralSize + zip64EndBytes + zip64LocatorBytes =
        endOffset ∧
      At medium (terminator.centralOffset + terminator.centralSize)
        (zip64EndRecord terminator.entryCount terminator.centralSize terminator.centralOffset ++
          (zip64Locator (terminator.centralOffset + terminator.centralSize) ++ endRecord)) := by
  unfold readTerminator
  constructor
  · rintro ⟨next, accepted⟩
    simp only [bind_ok, seek_ok] at accepted
    obtain ⟨_, start, moved, _, _, ended, accepted⟩ := accepted
    rw [moved] at ended
    obtain ⟨_, rfl, endAt, -⟩ := (readEndRecord_reads ..).mp ended
    cases difference : checkedSub endOffset zip64LocatorBytes with
    | none =>
      rw [difference] at accepted
      exact (refuse_ok _ _ _ _ accepted).elim
    | some locatorOffset =>
      rw [difference] at accepted
      rw [checkedSub_eq_some] at difference
      simp only [bind_ok, seek_ok, demand_ok, pure_ok, checkedAdd_eq_some] at accepted
      obtain ⟨_, back, moved, zip64EndOffset, _, located, _, _, ⟨⟨contiguous, -⟩, rfl⟩, _, front,
        advanced, found, _, end64, _, _, ⟨counted, rfl⟩, _, _, ⟨⟨⟨regions, -⟩, -⟩, rfl⟩, rfl, -⟩ := accepted
      rw [moved] at located
      rw [advanced] at end64
      obtain ⟨_, ⟨-, rfl⟩, locatorAt, -⟩ := (readLocator_reads ..).mp located
      obtain ⟨_, ⟨-, rfl⟩, end64At, -⟩ := (readZip64End_reads ..).mp end64
      rw [at_append, at_append, ← regions, zip64EndRecord_length, zip64Locator_length, ← contiguous,
        Nat.add_comm locatorOffset, ← difference]
      exact ⟨counted, by omega, end64At, locatorAt, endAt⟩
  · rintro ⟨counted, total, present⟩
    rw [at_append, at_append, zip64EndRecord_length, zip64Locator_length, total] at present
    obtain ⟨end64At, locatorAt, endAt⟩ := present
    have few : terminator.entryCount ≤ 3 := counted.2
    have difference : checkedSub endOffset zip64LocatorBytes =
        some (terminator.centralOffset + terminator.centralSize + zip64EndBytes) := by
      rw [checkedSub_eq_some, ← total, Nat.add_comm]
    refine ⟨terminator.centralOffset + terminator.centralSize + (zip64EndRecord
      terminator.entryCount terminator.centralSize terminator.centralOffset).length, ?_⟩
    simp only [bind_ok, seek_ok]
    refine ⟨(), _, rfl, (), _, readEndRecord_reads.accepts _ _ () _ rfl endAt, ?_⟩
    rw [difference]
    simp only [bind_ok, seek_ok, demand_ok, pure_ok, checkedAdd_eq_some]
    exact ⟨(), _, rfl,
      _, _, readLocator_reads.accepts _ _ _ _ ⟨by omega, rfl⟩ locatorAt,
      (), _, ⟨⟨rfl, by omega⟩, rfl⟩, (), _, rfl,
      _, _, readZip64End_reads.accepts _ _ terminator _ ⟨by omega, rfl⟩ end64At,
      (), _, ⟨counted, rfl⟩, (), _, ⟨⟨⟨rfl, by omega⟩, ends.symm, by omega⟩, rfl⟩, rfl, rfl⟩

/-- The limits of a central record that can be read. -/
structure CentralEntry.Bounded (entry : CentralEntry) : Prop where
  short : (nameBytes entry.name).length < 2 ^ 16
  size : entry.size < 2 ^ 64
  /-- The checksum fits its field. -/
  crc32 : entry.crc32 < 2 ^ 32
  localOffset : entry.localOffset < 2 ^ 64

theorem readCentralEntry_bounded :
    Reads readCentralEntry fun entry bytes => entry.Bounded ∧
      bytes = centralHeaderRecord entry (nameBytes entry.name).length := by
  apply readCentralEntry_reads.congr
  intro entry bytes
  rw [writeCentralHeader_eq_ok]
  constructor
  · rintro ⟨⟨size, crc32, localOffset⟩, short, rfl⟩
    exact ⟨⟨short, size, crc32, localOffset⟩, rfl⟩
  · rintro ⟨bounded, rfl⟩
    exact ⟨⟨bounded.size, bounded.crc32, bounded.localOffset⟩, bounded.short, rfl⟩

/-- What the central loop requires of each record. -/
def CentralEntry.Admitted (entry : CentralEntry) : Prop :=
  entry.Bounded ∧ validateSafeName entry.name = .ok () ∧
    validateEntrySize entry.name entry.size = .ok ()

/-- The central loop reads exactly the central regions of admitted, distinct records. -/
theorem readCentralEntriesFrom_reads (count : Nat) (folded : List (List Char)) :
    Reads (readCentralEntriesFrom count folded) fun entries bytes =>
      entries.length = count ∧ (∀ entry ∈ entries, entry.Admitted) ∧
      validateDistinct (entries.map CentralEntry.name) folded = .ok () ∧
      bytes = centralRegion entries := by
  induction count generalizing folded with
  | zero =>
    apply (Reads.pure []).congr
    intro entries bytes
    constructor
    · rintro ⟨rfl, rfl⟩
      exact ⟨rfl, by rintro _ ⟨⟩, rfl, rfl⟩
    · rintro ⟨empty, -, -, rfl⟩
      rw [List.length_eq_zero_iff] at empty
      exact ⟨empty, by rw [empty]; rfl⟩
  | succ count ih =>
    apply (Reads.bind readCentralEntry_bounded fun entry =>
      Reads.bind (lift_reads _) fun _ => Reads.bind (lift_reads _) fun _ =>
      Reads.guard _ _ <| Reads.bind (ih (asciiLowercase entry.name :: folded)) fun entries =>
      Reads.pure (entry :: entries)).congr
    intro entries bytes
    constructor
    · rintro ⟨entry, _, _, ⟨bounded, rfl⟩, ⟨_, _, _, ⟨safe, rfl⟩, ⟨_, _, _, ⟨sized, rfl⟩,
        ⟨fresh, rest, _, _, ⟨length, admitted, distinct, rfl⟩, ⟨rfl, rfl⟩, rfl⟩, rfl⟩, rfl⟩, rfl⟩
      refine ⟨congrArg Nat.succ length,
        List.forall_mem_cons.mpr ⟨⟨bounded, safe, sized⟩, admitted⟩, ?_, ?_⟩
      · rw [List.map_cons, validateDistinct, if_neg fresh]
        exact distinct
      · rw [centralRegion, List.append_nil, List.nil_append, List.nil_append]
    · rintro ⟨length, admitted, distinct, rfl⟩
      cases entries with
      | nil => cases length
      | cons entry rest =>
        obtain ⟨⟨bounded, safe, sized⟩, others⟩ := List.forall_mem_cons.mp admitted
        rw [List.map_cons, validateDistinct, guarded_eq_ok] at distinct
        exact ⟨entry, _, _, ⟨bounded, rfl⟩, ⟨(), _, _, ⟨safe, rfl⟩, ⟨(), _, _, ⟨sized, rfl⟩,
          ⟨distinct.1, rest, _, _, ⟨Nat.succ.inj length, others, distinct.2, rfl⟩, ⟨rfl, rfl⟩, rfl⟩,
          rfl⟩, rfl⟩, by rw [centralRegion, List.append_nil, List.nil_append, List.nil_append]⟩

/-- The central directory is accepted exactly when it fills its declared range. -/
theorem readCentralEntries_ok (position : Nat) (terminator : Terminator)
    (records : List CentralEntry)
    (bound : terminator.centralOffset + terminator.centralSize < 2 ^ 64) :
    (∃ next, readCentralEntries terminator.centralOffset terminator.centralSize
        terminator.entryCount medium position = .ok (records, next)) ↔
      records.length = terminator.entryCount ∧ (∀ entry ∈ records, entry.Admitted) ∧
      validateDistinct (records.map CentralEntry.name) [] = .ok () ∧
      validateEntryOrder (records.map CentralEntry.name) = .ok () ∧
      terminator.centralSize = (centralRegion records).length ∧
      At medium terminator.centralOffset (centralRegion records) := by
  unfold readCentralEntries
  simp only [bind_ok, seek_ok, streamPosition_ok, demand_ok, pure_ok, checkedAdd_eq_some]
  constructor
  · rintro ⟨next, _, start, moved, found, _, read, _, _, ⟨rfl, rfl⟩, _, _, ⟨⟨size, -⟩, rfl⟩, _, _,
      ordered, rfl, -⟩
    rw [moved] at read
    obtain ⟨_, ⟨length, admitted, distinct, rfl⟩, present, rfl⟩ :=
      (readCentralEntriesFrom_reads ..).mp read
    obtain ⟨_, ⟨canonical, -⟩, -⟩ := (lift_reads ..).mp ordered
    exact ⟨length, admitted, distinct, canonical, (Nat.add_left_cancel size).symm, present⟩
  · rintro ⟨length, admitted, distinct, canonical, size, present⟩
    have read := (readCentralEntriesFrom_reads terminator.entryCount []).accepts medium
      terminator.centralOffset records _ ⟨length, admitted, distinct, rfl⟩ present
    have ordered := (lift_reads (validateEntryOrder (records.map CentralEntry.name))).accepts
      medium (terminator.centralOffset + (centralRegion records).length) () [] ⟨canonical, rfl⟩
      (at_nil ..)
    rw [← size] at read ordered
    exact ⟨_, (), _, rfl, _, _, read, _, _, ⟨rfl, rfl⟩, (), _, ⟨⟨rfl, bound⟩, rfl⟩, (), _, ordered,
      rfl, rfl⟩

theorem stored_of_central (central : CentralEntry) (dataOffset : Nat)
    (fits : dataOffset + central.size ≤ medium.length) (crc32 : central.crc32 < 2 ^ 32) :
    ∃ entry : StoredEntry, entry.central central.localOffset = central ∧
      At medium dataOffset entry.content := by
  have size : ((medium.drop dataOffset).take central.size).length = central.size := by
    rw [List.length_take, List.length_drop]
    omega
  refine ⟨⟨central.name, UInt32.ofNat central.crc32, (medium.drop dataOffset).take central.size⟩,
    ?_, List.take_prefix _ _⟩
  unfold StoredEntry.central
  rw [size, UInt32.toNat_ofNat_of_lt' crc32]

/-- The local loop accepts exactly the local regions that end at the central directory. -/
theorem readLocalEntriesFrom_ok (centralOffset : Nat) (inside : centralOffset ≤ medium.length)
    (bound : medium.length < 2 ^ 64) (records : List CentralEntry)
    (limits : ∀ record ∈ records, record.Bounded) (expectedOffset position : Nat)
    (indexed : List ArchiveEntry) :
    (∃ next, readLocalEntriesFrom centralOffset records expectedOffset medium position =
        .ok (indexed, next)) ↔
      ∃ entries : List StoredEntry, records = centralEntries entries expectedOffset ∧
        indexed = indexedEntries entries expectedOffset ∧
        At medium expectedOffset (localRegion entries) ∧
        expectedOffset + (localRegion entries).length = centralOffset := by
  induction records generalizing expectedOffset position indexed with
  | nil =>
    simp only [readLocalEntriesFrom, bind_ok, demand_ok, pure_ok]
    constructor
    · rintro ⟨_, _, _, ⟨same, rfl⟩, rfl, -⟩
      exact ⟨[], rfl, rfl, at_nil _ _, same⟩
    · rintro ⟨entries, none, rfl, -, same⟩
      cases entries with
      | nil => exact ⟨_, (), _, ⟨same, rfl⟩, rfl, rfl⟩
      | cons entry entries => cases none
  | cons central records ih =>
    obtain ⟨bounded, rest⟩ := List.forall_mem_cons.mp limits
    simp only [readLocalEntriesFrom, bind_ok, demand_ok, seek_ok, streamPosition_ok]
    constructor
    · rintro ⟨next, _, _, ⟨contiguous, rfl⟩, _, start, moved, _, dataOffset, header, _, _,
        ⟨same, kept⟩, accepted⟩
      rw [same, kept] at accepted
      rw [moved] at header
      obtain ⟨_, ⟨-, written⟩, headerAt, advanced⟩ := (readLocalHeader_reads central ..).mp header
      obtain ⟨-, rfl⟩ := (writeLocalHeader_eq_ok ..).mp written
      cases sum : checkedAdd dataOffset central.size with
      | none =>
        rw [sum] at accepted
        exact (refuse_ok _ _ _ _ accepted).elim
      | some dataEnd =>
        rw [sum] at accepted
        obtain ⟨rfl, -⟩ := (checkedAdd_eq_some ..).mp sum
        simp only [bind_ok, demand_ok, pure_ok] at accepted
        obtain ⟨_, _, ⟨within, -⟩, _, _, read, rfl, -⟩ := accepted
        obtain ⟨entries, rfl, rfl, present, total⟩ := (ih rest ..).mp ⟨_, read⟩
        obtain ⟨entry, same, contentAt⟩ := stored_of_central medium central dataOffset
          (by omega) bounded.crc32
        rw [contiguous] at same headerAt advanced
        subst same
        subst advanced
        refine ⟨entry :: entries, rfl, rfl, ?_, ?_⟩
        · rw [localRegion, at_append, at_append]
          exact ⟨headerAt, contentAt, present⟩
        · rw [localRegion, List.length_append, List.length_append, ← Nat.add_assoc,
            ← Nat.add_assoc]
          exact total
    · rintro ⟨entries, matched, rfl, present, total⟩
      cases entries with
      | nil => cases matched
      | cons entry entries =>
        rw [centralEntries, List.cons.injEq] at matched
        obtain ⟨rfl, rfl⟩ := matched
        rw [localRegion, at_append, at_append] at present
        rw [localRegion, List.length_append, List.length_append] at total
        obtain ⟨headerAt, contentAt, restAt⟩ := present
        have header := (readLocalHeader_reads (entry.central expectedOffset)).accepts medium
          expectedOffset () entry.header ⟨⟨bounded.size, bounded.crc32⟩,
            (writeLocalHeader_eq_ok ..).mpr ⟨bounded.short, rfl⟩⟩ headerAt
        obtain ⟨next, read⟩ := (ih rest _ (expectedOffset + entry.header.length) _).mpr
          ⟨entries, rfl, rfl, restAt, by omega⟩
        have sum : checkedAdd (expectedOffset + entry.header.length)
            (entry.central expectedOffset).size =
            some (expectedOffset + entry.header.length + entry.content.length) := by
          rw [checkedAdd_eq_some]
          change _ ∧ expectedOffset + entry.header.length + entry.content.length < 2 ^ 64
          exact ⟨rfl, by omega⟩
        refine ⟨next, (), _, ⟨rfl, rfl⟩, (), _, rfl, (), _, header, _, _, ⟨rfl, rfl⟩, ?_⟩
        rw [sum]
        simp only [bind_ok, demand_ok, pure_ok]
        exact ⟨(), _, ⟨by omega, rfl⟩, _, _, read, rfl, rfl⟩

/-- The central records of an archive pass the checks of the central loop. -/
theorem records_admitted (archive : StoredArchive) :
    ∀ record ∈ archive.records, record.Admitted := by
  intro record member
  have regions := archive.regions_bound
  have safe := (centralEntries_forall (fun name _ => validateSafeName name = .ok ()) ..).mpr
    archive.safe record member
  have sized := (centralEntries_forall (fun name size => validateEntrySize name size = .ok ())
    ..).mpr archive.sized record member
  have size := validateEntrySize_bound _ _ sized
  have limit : maxH3PayloadBytes = 16106127360 := by decide
  obtain ⟨entry, among, start, offset, rfl⟩ := mem_centralEntries _ _ _ member
  have short : (nameBytes entry.name).length ≤ 149 := archive.short entry among
  change start ≤ 0 + archive.locals.length at offset
  exact ⟨⟨show (nameBytes entry.name).length < 2 ^ 16 by omega, by omega,
    entry.crc32.toNat_lt, show start < 2 ^ 64 by omega⟩, safe, sized⟩

theorem bytes_ends (archive : StoredArchive) : ∃ front, archive.bytes = front ++ endRecord := by
  unfold StoredArchive.bytes StoredArchive.ending
  exact ⟨archive.locals ++ (archive.directory ++ (zip64EndRecord archive.entries.length
    archive.directory.length archive.locals.length ++ zip64Locator (archive.locals.length +
    archive.directory.length))), by simp only [List.append_assoc]⟩

/-- The canonical bytes of a stored archive are accepted, with its index. -/
theorem inspectCanonical_bytes (archive : StoredArchive) (maximumArchiveBytes : UInt64)
    (bound : archive.bytes.length ≤ maximumArchiveBytes.toNat) :
    inspectCanonical archive.bytes maximumArchiveBytes = .ok archive.index := by
  have small : archive.bytes.length < 2 ^ 64 := bound.trans_lt maximumArchiveBytes.toNat_lt
  have length := archive.bytes_length
  have counted := archive.count
  obtain ⟨localsAt, rest⟩ := (at_append ..).mp
    (show At archive.bytes 0 (archive.locals ++ (archive.directory ++ archive.ending)) from
      at_self archive.bytes)
  obtain ⟨directoryAt, endingAt⟩ := (at_append ..).mp rest
  rw [Nat.zero_add] at directoryAt endingAt
  obtain ⟨front, ends⟩ := bytes_ends archive
  have split : archive.bytes.length = front.length + endBytes := by
    rw [ends, List.length_append, endRecord_length]
  obtain ⟨searched, found⟩ := findEndRecord_found archive.bytes front 0 ends small
  obtain ⟨recorded, terminated⟩ := (readTerminator_ok archive.bytes front.length searched
    archive.terminator split.symm small).mpr ⟨counted, show archive.locals.length + archive.directory.length +
      zip64EndBytes + zip64LocatorBytes = front.length by omega, endingAt⟩
  obtain ⟨listedEnd, listed⟩ := (readCentralEntries_ok archive.bytes recorded archive.terminator
    archive.records (show archive.locals.length + archive.directory.length < 2 ^ 64 by omega)).mpr
    ⟨centralEntries_length .., records_admitted archive,
      by rw [StoredArchive.records, centralEntries_name]; exact archive.distinct,
      by rw [StoredArchive.records, centralEntries_name]; exact archive.ordered,
      rfl, directoryAt⟩
  obtain ⟨finish, indexed⟩ := (readLocalEntriesFrom_ok archive.bytes archive.locals.length
    (by omega) small archive.records (fun record member =>
      (records_admitted archive record member).1) 0 listedEnd (indexedEntries archive.entries 0)).mpr
    ⟨archive.entries, rfl, rfl, localsAt, Nat.zero_add _⟩
  have smallest : ¬ archive.bytes.length < zip64EndBytes + zip64LocatorBytes + endBytes := by
    omega
  unfold inspectCanonical
  dsimp only
  rw [if_neg bound.not_gt, if_neg smallest, bind_eq_ok]
  refine ⟨(indexedEntries archive.entries 0, finish), ?_, rfl⟩
  simp only [bind_ok]
  exact ⟨_, _, found, _, _, terminated, _, _, listed, indexed⟩

/-- Whatever is accepted is the canonical bytes of a stored archive. -/
theorem inspectCanonical_accepts (maximumArchiveBytes : UInt64) (index : ArchiveIndex)
    (accepted : inspectCanonical medium maximumArchiveBytes = .ok index) :
    ∃ archive : StoredArchive, medium = archive.bytes ∧ index = archive.index := by
  unfold inspectCanonical at accepted
  dsimp only at accepted
  rw [guarded_eq_ok, guarded_eq_ok, bind_eq_ok] at accepted
  obtain ⟨bound, -, ⟨indexed, next⟩, read, same⟩ := accepted
  have small : medium.length < 2 ^ 64 := by
    have limit := maximumArchiveBytes.toNat_lt
    omega
  simp only [bind_ok] at read
  obtain ⟨endOffset, _, found, terminator, _, terminated, records, _, listed, located⟩ := read
  have ends := findEndRecord_offset medium 0 endOffset _ found
  obtain ⟨counted, contiguous, endingAt⟩ :=
    (readTerminator_ok medium endOffset _ terminator ends small).mp ⟨_, terminated⟩
  obtain ⟨length, admitted, distinct, ordered, size, directoryAt⟩ :=
    (readCentralEntries_ok medium _ terminator records (by omega)).mp ⟨_, listed⟩
  obtain ⟨entries, rfl, rfl, localsAt, total⟩ := (readLocalEntriesFrom_ok medium
    terminator.centralOffset (by omega) small records (fun record member =>
      (admitted record member).1) 0 _ indexed).mp ⟨_, located⟩
  rw [centralEntries_name] at distinct ordered
  rw [centralEntries_length] at length
  rw [Nat.zero_add] at total
  let archive : StoredArchive := {
    entries
    distinct
    ordered
    safe := (centralEntries_forall (fun name _ => validateSafeName name = .ok ()) ..).mp
      fun record member => (admitted record member).2.1
    sized := (centralEntries_forall (fun name size => validateEntrySize name size = .ok ()) ..).mp
      fun record member => (admitted record member).2.2 }
  have bytesLength := archive.bytes_length
  have whole : medium = archive.bytes := by
    apply eq_of_at_start
    · change At medium 0 (archive.locals ++ (archive.directory ++ archive.ending))
      rw [at_append, at_append, Nat.zero_add, show archive.locals.length = _ from total,
        show archive.directory.length = _ from size.symm]
      refine ⟨localsAt, directoryAt, ?_⟩
      rw [StoredArchive.ending, show archive.locals.length = _ from total,
        show archive.directory.length = _ from size.symm, show archive.entries.length = _ from length]
      exact endingAt
    · change archive.locals.length = _ at total
      change _ = archive.directory.length at size
      omega
  refine ⟨archive, whole, ?_⟩
  rw [← Except.ok.inj same, whole]
  rfl

/-- An index whose entries have the canonical names and lie one after the other in the archive. -/
structure ArchiveIndex.WellFormed (index : ArchiveIndex) : Prop where
  nonempty : 0 < index.archiveSize
  bounded : index.archiveSize ≤ maxArchiveBytes
  names : validateEntryOrder (index.entries.map ArchiveEntry.name) = .ok ()
  safe : ∀ entry ∈ index.entries, validateSafeName entry.name = .ok ()
  sized : ∀ entry ∈ index.entries, validateEntrySize entry.name entry.size = .ok ()
  inside : ∀ entry ∈ index.entries, entry.dataOffset + entry.size ≤ index.archiveSize
  ordered : index.entries.Pairwise fun earlier later =>
    earlier.dataOffset + earlier.size ≤ later.dataOffset

/-- An accepted archive has a well-formed index of its own size. -/
theorem inspectCanonical_wellFormed (index : ArchiveIndex)
    (accepted : inspectCanonical medium (UInt64.ofNat maxArchiveBytes) = .ok index) :
    index.WellFormed ∧ index.archiveSize = medium.length := by
  have bounded : medium.length ≤ maxArchiveBytes := by
    unfold inspectCanonical at accepted
    dsimp only at accepted
    rw [guarded_eq_ok] at accepted
    exact Nat.le_of_not_lt accepted.1
  obtain ⟨archive, rfl, rfl⟩ := inspectCanonical_accepts _ _ _ accepted
  have length := archive.bytes_length
  obtain ⟨inside, ordered⟩ := indexedEntries_ordered archive.entries 0
  refine ⟨{
    nonempty := ?_
    bounded
    names := ?_
    safe := ?_
    sized := ?_
    inside := fun entry member => ?_
    ordered }, rfl⟩
  · change 0 < archive.bytes.length
    simp only [zip64EndBytes, zip64LocatorBytes, endBytes] at length
    omega
  · change validateEntryOrder ((indexedEntries archive.entries 0).map ArchiveEntry.name) = .ok ()
    rw [indexedEntries_name]
    exact archive.ordered
  · exact (indexedEntries_forall (fun name _ => validateSafeName name = .ok ()) _ 0).mpr
      archive.safe
  · exact (indexedEntries_forall (fun name size => validateEntrySize name size = .ok ()) _ 0).mpr
      archive.sized
  · have bound := (inside entry member).2
    change _ ≤ archive.bytes.length
    change _ ≤ 0 + archive.locals.length at bound
    omega

end LatentDeck.Archive
