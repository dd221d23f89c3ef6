import LatentDeck.Library.Checked
import LatentDeck.Library.Effect
import LatentDeck.Library.Pool
import LatentDeck.Packages.Schema
import Mathlib.Data.List.MinMax
import Mathlib.Data.List.Nodup
import Mathlib.Data.Prod.Lex
import Mathlib.Data.String.Basic

/-!
# Hashing the pinned files of a package

`hash_pinned_jobs`: a few threads measure the files of a package. The jobs are sorted by length and
dealt to the bucket with the fewest bytes, each thread works through its bucket, and the results are
sorted by index. What comes out does not depend on the number of threads or on how they take turns.
-/

namespace LatentDeck.Packages

open Checked Effect Fallible Pool

/-- An open pinned file: the length its metadata gives before and after, and what its reads return
until the end. -/
structure PinnedFile where
  initialLength : Option Nat
  reads : List (Option Bytes)
  finalLength : Option Nat

/-- The loop of `measure_pinned_file` behind the bytes observed so far. -/
def observeReads (expectedLength : Nat) : Bytes → List (Option Bytes) → Except ErrorCode Bytes
  | observed, [] => .ok observed
  | _, none :: _ => .error .integrityFailed
  | observed, some piece :: reads =>
    if piece.length = 0 then .ok observed
    else do
      let observedLength ← orError (checkedAdd observed.length piece.length)
        ErrorCode.integrityFailed
      refuseWhen (observedLength > expectedLength) ErrorCode.integrityFailed
      observeReads expectedLength (observed ++ piece) reads

def measurePinnedFile (crates : Crates) (file : PinnedFile) (relative : String)
    (expectedLength : Nat) (keepBytes : Bool) :
    Except ErrorCode (FileMeasurement × Option Bytes) := do
  let initialLength ← orError file.initialLength ErrorCode.integrityFailed
  refuseWhen (initialLength ≠ expectedLength) ErrorCode.integrityFailed
  let observed ← observeReads expectedLength [] file.reads
  let finalLength ← orError file.finalLength ErrorCode.integrityFailed
  refuseWhen (observed.length ≠ expectedLength ∨ finalLength ≠ expectedLength)
    ErrorCode.integrityFailed
  return (⟨relative, observed.length, crates.sha256 observed⟩,
    if keepBytes then some observed else none)

structure PinnedHashJob where
  index : Nat
  expected : FileMeasurement
  keepBytes : Bool
  file : PinnedFile

structure PinnedHashResult where
  index : Nat
  measurement : FileMeasurement
  bytes : Option Bytes
  file : PinnedFile

def hashJob (crates : Crates) (job : PinnedHashJob) : Except ErrorCode PinnedHashResult := do
  let (measurement, bytes) ← measurePinnedFile crates job.file job.expected.path
    job.expected.byteLength job.keepBytes
  refuseWhen (measurement.sha256 ≠ job.expected.sha256) ErrorCode.integrityFailed
  return ⟨job.index, measurement, bytes, job.file⟩

def hashSequentially (crates : Crates) (jobs : List PinnedHashJob) :
    Except ErrorCode (List PinnedHashResult) :=
  jobs.mapM (hashJob crates)

def maxWorkers : Nat := 4

/-- The number of threads, where `parallelism` is what the platform answers. -/
def workerCount (parallelism : Option ℕ+) (jobs : List PinnedHashJob) : Nat :=
  min (min (parallelism.elim 1 PNat.val) maxWorkers) jobs.length

/-- The order of the jobs: longer ones first, and then by path. -/
def comesFirst (left right : PinnedHashJob) : Bool :=
  right.expected.byteLength < left.expected.byteLength ||
    (right.expected.byteLength == left.expected.byteLength &&
      left.expected.path ≤ right.expected.path)

/-- The jobs of each thread with their total bytes. -/
structure Buckets where
  jobs : List (List PinnedHashJob)
  bytes : List Nat

def leastLoaded (bucketBytes : List Nat) : Nat :=
  (bucketBytes.zipIdx.argmin fun entry => toLex entry).elim 0 Prod.snd

def saturatingAdd (left right : Nat) : Nat := min (left + right) (2 ^ 64 - 1)

/-- A job goes to the bucket with the fewest bytes. -/
def Buckets.deal (buckets : Buckets) (job : PinnedHashJob) : Buckets :=
  let bucket := leastLoaded buckets.bytes
  { jobs := buckets.jobs.modify bucket (· ++ [job])
    bytes := buckets.bytes.modify bucket (saturatingAdd · job.expected.byteLength) }

def Buckets.empty (count : Nat) : Buckets :=
  ⟨List.replicate count [], List.replicate count 0⟩

def bucketsOf (parallelism : Option ℕ+) (jobs : List PinnedHashJob) :
    List (List PinnedHashJob) :=
  ((jobs.mergeSort comesFirst).foldl Buckets.deal (.empty (workerCount parallelism jobs))).jobs

/-- What one joined thread adds to the results and the first error so far. -/
def gatherOutcome (gathered : List PinnedHashResult × Option ErrorCode)
    (outcome : Except ErrorCode (List PinnedHashResult)) :
    List PinnedHashResult × Option ErrorCode :=
  match outcome with
  | .ok measured => (gathered.1 ++ measured, gathered.2)
  | .error error => (gathered.1, gathered.2.or (some error))

/-- The results of the joined threads, in the order of their indices, or the first error. -/
def gather (outcomes : List (Except ErrorCode (List PinnedHashResult))) :
    Except ErrorCode (List PinnedHashResult) :=
  let gathered := outcomes.foldl gatherOutcome ([], none)
  match gathered.2 with
  | some error => .error error
  | none => .ok (gathered.1.mergeSort fun left right => left.index ≤ right.index)

/-- `hash_pinned_jobs` when its threads take turns as a schedule says. It has no answer while a
thread is not finished. -/
def hashPinnedJobs (crates : Crates) (parallelism : Option ℕ+) (schedule : List Nat)
    (jobs : List PinnedHashJob) : Option (Except ErrorCode (List PinnedHashResult)) :=
  if jobs.isEmpty then some (.ok [])
  else
    let workers := run (hashJob crates) schedule ((bucketsOf parallelism jobs).map Worker.start)
    if ∀ worker ∈ workers, worker.Finished then some (gather (workers.map Worker.outcome))
    else none

theorem leastLoaded_lt {bucketBytes : List Nat} (some : 0 < bucketBytes.length) :
    leastLoaded bucketBytes < bucketBytes.length := by
  unfold leastLoaded
  cases found : bucketBytes.zipIdx.argmin fun entry => toLex entry with
  | none => exact some
  | some entry =>
    have member := List.argmin_mem found
    exact (List.mem_zipIdx' member).1

/-- A job added to one of several buckets is in them once. -/
theorem flatten_modify_perm (buckets : List (List PinnedHashJob)) (job : PinnedHashJob)
    (index : Nat) (inside : index < buckets.length) :
    (buckets.modify index (· ++ [job])).flatten.Perm (buckets.flatten ++ [job]) := by
  induction buckets generalizing index with
  | nil => exact absurd inside (Nat.not_lt_zero _)
  | cons bucket buckets ih =>
    cases index with
    | zero =>
      show ((bucket ++ [job]) ++ buckets.flatten).Perm ((bucket ++ buckets.flatten) ++ [job])
      rw [List.append_assoc, List.append_assoc]
      exact List.perm_append_comm.append_left bucket
    | succ index =>
      have rest := ih index (Nat.lt_of_succ_lt_succ inside)
      show (bucket ++ (buckets.modify index (· ++ [job])).flatten).Perm
        ((bucket ++ buckets.flatten) ++ [job])
      rw [List.append_assoc]
      exact rest.append_left bucket

/-- Dealing jobs keeps the number of buckets and puts each job in one of them. -/
theorem deal_perm (jobs : List PinnedHashJob) (buckets : Buckets)
    (some : 0 < buckets.jobs.length) (same : buckets.bytes.length = buckets.jobs.length) :
    (jobs.foldl Buckets.deal buckets).jobs.length = buckets.jobs.length ∧
      (jobs.foldl Buckets.deal buckets).jobs.flatten.Perm (buckets.jobs.flatten ++ jobs) := by
  induction jobs generalizing buckets with
  | nil =>
    rw [List.append_nil]
    exact ⟨rfl, .refl _⟩
  | cons job jobs ih =>
    have inside : leastLoaded buckets.bytes < buckets.jobs.length := by
      rw [← same] at some ⊢
      exact leastLoaded_lt some
    have dealt := flatten_modify_perm buckets.jobs job _ inside
    have count : (buckets.deal job).jobs.length = buckets.jobs.length := List.length_modify ..
    have bytes : (buckets.deal job).bytes.length = (buckets.deal job).jobs.length := by
      rw [count, ← same]
      exact List.length_modify ..
    obtain ⟨length, rest⟩ := ih (buckets.deal job) (by rwa [count]) bytes
    rw [List.foldl_cons]
    refine ⟨length.trans count, rest.trans ?_⟩
    have joined := dealt.append_right jobs
    rw [List.append_assoc] at joined
    exact joined

variable {jobs : List PinnedHashJob}

theorem bucketsOf_perm (parallelism : Option ℕ+) (some : jobs ≠ []) :
    (bucketsOf parallelism jobs).length = workerCount parallelism jobs ∧
      (bucketsOf parallelism jobs).flatten.Perm jobs := by
  have positive : 0 < workerCount parallelism jobs := by
    have jobsPositive := List.length_pos_of_ne_nil some
    have workers : 0 < parallelism.elim 1 PNat.val := by
      cases parallelism with
      | none => exact Nat.one_pos
      | some count => exact count.pos
    rw [workerCount, maxWorkers]
    omega
  have count : (Buckets.empty (workerCount parallelism jobs)).jobs.length =
      workerCount parallelism jobs := List.length_replicate
  have bytes : (Buckets.empty (workerCount parallelism jobs)).bytes.length =
      (Buckets.empty (workerCount parallelism jobs)).jobs.length := by
    rw [count]
    exact List.length_replicate
  have none : (Buckets.empty (workerCount parallelism jobs)).jobs.flatten = [] :=
    List.flatten_replicate_nil
  obtain ⟨length, dealt⟩ := deal_perm (jobs.mergeSort comesFirst)
    (.empty (workerCount parallelism jobs)) (by rwa [count]) bytes
  rw [none, List.nil_append] at dealt
  exact ⟨length.trans count, dealt.trans (List.mergeSort_perm jobs comesFirst)⟩

theorem foldl_gatherOutcome_ok (measured : List (List PinnedHashResult))
    (results : List PinnedHashResult) (error : Option ErrorCode) :
    (measured.map Except.ok).foldl gatherOutcome (results, error) =
      (results ++ measured.flatten, error) := by
  induction measured generalizing results with
  | nil => rw [List.flatten_nil, List.append_nil]; rfl
  | cons first measured ih =>
    rw [List.map_cons, List.foldl_cons, List.flatten_cons, ← List.append_assoc]
    exact ih (results ++ first)

theorem foldl_gatherOutcome_error (outcomes : List (Except ErrorCode (List PinnedHashResult)))
    (results : List PinnedHashResult) (error : ErrorCode) :
    (outcomes.foldl gatherOutcome (results, some error)).2 = some error := by
  induction outcomes generalizing results with
  | nil => rfl
  | cons outcome outcomes ih =>
    cases outcome with
    | ok measured => exact ih _
    | error other => exact ih _

/-- Threads that do not all succeed give the error of one of them. -/
theorem gather_of_error (outcomes : List (Except ErrorCode (List PinnedHashResult)))
    (results : List PinnedHashResult) (failed : ∃ error, .error error ∈ outcomes) :
    ∃ error, .error error ∈ outcomes ∧
      (outcomes.foldl gatherOutcome (results, none)).2 = some error := by
  induction outcomes generalizing results with
  | nil => exact absurd failed.choose_spec List.not_mem_nil
  | cons outcome outcomes ih =>
    cases outcome with
    | error error => exact ⟨error, List.mem_cons_self, foldl_gatherOutcome_error outcomes _ error⟩
    | ok measured =>
      obtain ⟨error, member⟩ := failed
      have later : .error error ∈ outcomes := by
        cases List.mem_cons.mp member with
        | inl same => exact nomatch same
        | inr later => exact later
      obtain ⟨first, found, kept⟩ := ih (results ++ measured) ⟨error, later⟩
      exact ⟨first, List.mem_cons_of_mem _ found, kept⟩

variable {results : List PinnedHashResult} {buckets : List (List PinnedHashJob)}
  {work : PinnedHashJob → Except ErrorCode PinnedHashResult}

/-- A loop over several lists of jobs succeeds when the loop over each of them does. -/
theorem mapM_flatten (mapped : buckets.flatten.mapM work = .ok results) :
    ∃ measured : List (List PinnedHashResult),
      buckets.map (·.mapM work) = measured.map Except.ok ∧ measured.flatten = results := by
  induction buckets generalizing results with
  | nil =>
    cases mapped
    exact ⟨[], rfl, rfl⟩
  | cons bucket buckets ih =>
    rw [List.flatten_cons, List.mapM_append, bind_eq_ok] at mapped
    obtain ⟨first, begun, mapped⟩ := mapped
    obtain ⟨others, rest, same⟩ := ok_of_bind mapped
    obtain ⟨measured, each, joined⟩ := ih rest
    refine ⟨first :: measured, ?_, ?_⟩
    · rw [List.map_cons, List.map_cons, begun, each]
    · rw [List.flatten_cons, joined]
      exact Except.ok.inj same

theorem mapM_perm {others : List PinnedHashJob} (rearranged : others.Perm jobs)
    (mapped : jobs.mapM work = .ok results) :
    ∃ moved, others.mapM work = .ok moved ∧ moved.Perm results := by
  obtain ⟨moved, each, permutes⟩ := List.perm_comp_forall₂ rearranged (mapM_eq_ok.mp mapped)
  exact ⟨moved, mapM_eq_ok.mpr each, permutes⟩

theorem error_of_mapM {error : ErrorCode} (failed : jobs.mapM work = .error error) :
    ∃ job ∈ jobs, work job = .error error := by
  have raises : Raises (fun error => ∃ job ∈ jobs, work job = .error error) (jobs.mapM work) :=
    raises_mapM jobs fun job member other raised => ⟨job, member, raised⟩
  exact raises error failed

theorem hashJob_index {crates : Crates} {job : PinnedHashJob} {result : PinnedHashResult}
    (hashed : hashJob crates job = .ok result) : result.index = job.index := by
  rw [hashJob, bind_eq_ok] at hashed
  obtain ⟨measured, -, hashed⟩ := hashed
  rw [check_eq_ok] at hashed
  cases hashed.2
  rfl

theorem index_of_hashSequentially {crates : Crates}
    (hashed : hashSequentially crates jobs = .ok results) :
    results.map PinnedHashResult.index = jobs.map PinnedHashJob.index := by
  have each := mapM_eq_ok.mp hashed
  induction each with
  | nil => rfl
  | cons first rest ih =>
    rw [List.map_cons, List.map_cons, hashJob_index first, ih (mapM_eq_ok.mpr rest)]

def InOrder (results : List PinnedHashResult) : Prop :=
  results.Pairwise fun left right => left.index ≤ right.index

theorem sortByIndex (results : List PinnedHashResult) :
    (results.mergeSort fun left right => decide (left.index ≤ right.index)).Perm results ∧
      InOrder (results.mergeSort fun left right => decide (left.index ≤ right.index)) := by
  have sorted : (results.mergeSort fun left right => decide (left.index ≤ right.index)).Pairwise
      fun left right => decide (left.index ≤ right.index) = true := by
    apply List.pairwise_mergeSort
    · intro first second third earlier later
      exact decide_eq_true (Nat.le_trans (of_decide_eq_true earlier) (of_decide_eq_true later))
    · intro first second
      rw [Bool.or_eq_true, decide_eq_true_iff, decide_eq_true_iff]
      exact Nat.le_total _ _
  exact ⟨List.mergeSort_perm .., sorted.imp of_decide_eq_true⟩

/-- Results in order whose indices all differ are determined by what they are. -/
theorem eq_of_inOrder {expected : List PinnedHashResult} (same : results.Perm expected)
    (ordered : InOrder results)
    (ascending : (expected.map PinnedHashResult.index).Pairwise (· < ·)) : results = expected := by
  have different : (expected.map PinnedHashResult.index).Nodup :=
    ascending.imp fun less => Nat.ne_of_lt less
  have strict : InOrder expected := (List.pairwise_map.mp ascending).imp fun less =>
    Nat.le_of_lt less
  have equal : ∀ left right, left ∈ results → right ∈ expected → left.index ≤ right.index →
      right.index ≤ left.index → left = right := by
    intro left right leftMember rightMember earlier later
    exact List.inj_on_of_nodup_map different (same.mem_iff.mp leftMember) rightMember
      (Nat.le_antisymm earlier later)
  unfold InOrder at ordered strict
  exact List.Perm.eq_of_pairwise equal ordered strict same

/-- A schedule that names each thread at least as often as there are jobs. -/
def Fair (parallelism : Option ℕ+) (schedule : List Nat) (jobs : List PinnedHashJob) : Prop :=
  ∀ thread < workerCount parallelism jobs, jobs.length ≤ schedule.count thread

/-- Threads that each worked through their bucket answer together as the loop over all jobs does. -/
theorem gather_sequential (crates : Crates) (dealt : buckets.flatten.Perm jobs)
    {outcome : Except ErrorCode (List PinnedHashResult)}
    (gathered : gather (buckets.map (·.mapM (hashJob crates))) = outcome) :
    ((∃ error, outcome = .error error) ↔
        ∃ job ∈ jobs, ∃ error, hashJob crates job = .error error) ∧
      (∀ error, outcome = .error error → ∃ job ∈ jobs, hashJob crates job = .error error) ∧
      ∀ expected, hashSequentially crates jobs = .ok expected →
        ∃ results, outcome = .ok results ∧ results.Perm expected ∧ InOrder results ∧
          ((jobs.map PinnedHashJob.index).Pairwise (· < ·) → results = expected) := by
  cases hashed : hashSequentially crates jobs with
  | ok expected =>
    have succeeds : ∀ job ∈ jobs, ∀ error, hashJob crates job ≠ .error error := by
      intro job member error failed
      obtain ⟨result, -, made⟩ := exists_of_forall₂ (mapM_eq_ok.mp hashed) job member
      rw [failed] at made
      exact nomatch made
    obtain ⟨moved, mapped, permutes⟩ := mapM_perm dealt hashed
    obtain ⟨measured, each, joined⟩ := mapM_flatten mapped
    have sorted := sortByIndex measured.flatten
    rw [each, gather, foldl_gatherOutcome_ok] at gathered
    have answer : outcome = .ok (measured.flatten.mergeSort fun left right =>
        decide (left.index ≤ right.index)) := gathered.symm
    subst answer
    have same : (measured.flatten.mergeSort fun left right =>
        decide (left.index ≤ right.index)).Perm expected :=
      sorted.1.trans (joined ▸ permutes)
    refine ⟨⟨fun failed => (nomatch failed.choose_spec), ?_⟩, fun error failed => (nomatch failed), ?_⟩
    · intro failing
      obtain ⟨job, member, error, failed⟩ := failing
      exact absurd failed (succeeds job member error)
    · intro other same
      cases same
      refine ⟨_, rfl, same, sorted.2, fun ascending => eq_of_inOrder same sorted.2 ?_⟩
      rw [index_of_hashSequentially hashed]
      exact ascending
  | error error =>
    obtain ⟨failing, failingMember, failingError⟩ := error_of_mapM hashed
    have some : ∃ error, .error error ∈ buckets.map (·.mapM (hashJob crates)) := by
      obtain ⟨bucket, bucketMember, inside⟩ :=
        List.mem_flatten.mp (dealt.mem_iff.mpr failingMember)
      cases mapped : bucket.mapM (hashJob crates) with
      | error other => exact ⟨other, List.mem_map.mpr ⟨bucket, bucketMember, mapped⟩⟩
      | ok results =>
        obtain ⟨result, -, made⟩ := exists_of_forall₂ (mapM_eq_ok.mp mapped) failing inside
        rw [failingError] at made
        exact nomatch made
    obtain ⟨first, found, kept⟩ := gather_of_error _ [] some
    have answer : outcome = .error first := by
      rw [← gathered, gather, kept]
    subst answer
    obtain ⟨bucket, bucketMember, mapped⟩ := List.mem_map.mp found
    obtain ⟨job, inside, raised⟩ := error_of_mapM mapped
    have member : job ∈ jobs :=
      dealt.mem_iff.mp (List.mem_flatten.mpr ⟨bucket, bucketMember, inside⟩)
    refine ⟨⟨fun _ => ⟨job, member, first, raised⟩, fun _ => ⟨first, rfl⟩⟩, ?_, ?_⟩
    · intro other same
      cases same
      exact ⟨job, member, raised⟩
    · exact fun expected same => nomatch same

/-- Hashing on threads, however many and however they take turns, answers as the loop over the jobs
does: it fails exactly if a job does, and otherwise returns the results of the loop, each once, in
the order of their indices. -/
theorem hashPinnedJobs_sequential (crates : Crates) (parallelism : Option ℕ+)
    (jobs : List PinnedHashJob) :
    (∀ schedule, Fair parallelism schedule jobs →
      (hashPinnedJobs crates parallelism schedule jobs).isSome = true) ∧
    ∀ schedule outcome, hashPinnedJobs crates parallelism schedule jobs = some outcome →
      ((∃ error, outcome = .error error) ↔
        ∃ job ∈ jobs, ∃ error, hashJob crates job = .error error) ∧
      (∀ error, outcome = .error error → ∃ job ∈ jobs, hashJob crates job = .error error) ∧
      ∀ expected, hashSequentially crates jobs = .ok expected →
        ∃ results, outcome = .ok results ∧ results.Perm expected ∧ InOrder results ∧
          ((jobs.map PinnedHashJob.index).Pairwise (· < ·) → results = expected) := by
  by_cases empty : jobs = []
  · subst empty
    have answered (schedule : List Nat) :
        hashPinnedJobs crates parallelism schedule [] = some (.ok []) := rfl
    refine ⟨fun schedule _ => by rw [answered]; rfl, fun schedule outcome answer => ?_⟩
    rw [answered] at answer
    cases answer
    refine ⟨⟨fun failed => (nomatch failed.choose_spec), ?_⟩, fun error failed => (nomatch failed), ?_⟩
    · exact fun failing => absurd failing.choose_spec.1 List.not_mem_nil
    · intro expected hashed
      cases hashed
      exact ⟨[], rfl, .refl _, .nil, fun _ => rfl⟩
  have nonempty : ¬ jobs.isEmpty = true := fun none => empty (List.isEmpty_iff.mp none)
  obtain ⟨count, dealt⟩ := bucketsOf_perm parallelism empty
  constructor
  · intro schedule fair
    have finished := run_finishes (hashJob crates) schedule (bucketsOf parallelism jobs) (by
      intro thread bucket found
      have inside : thread < workerCount parallelism jobs := by
        rw [← count]
        exact (List.getElem?_eq_some_iff.mp found).1
      have part : bucket.Sublist (bucketsOf parallelism jobs).flatten :=
        List.sublist_flatten_of_mem (List.mem_of_getElem? found)
      have short := part.length_le
      rw [dealt.length_eq] at short
      exact Nat.le_trans short (fair thread inside))
    rw [hashPinnedJobs, if_neg nonempty, if_pos finished]
    rfl
  · intro schedule outcome answer
    rw [hashPinnedJobs, if_neg nonempty] at answer
    by_cases finished : ∀ worker ∈ run (hashJob crates) schedule
        ((bucketsOf parallelism jobs).map Worker.start), worker.Finished
    · rw [if_pos finished, outcome_run _ schedule _ finished, Option.some.injEq] at answer
      exact gather_sequential crates dealt answer
    · rw [if_neg finished] at answer
      exact nomatch answer

end LatentDeck.Packages
