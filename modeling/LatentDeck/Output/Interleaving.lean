import LatentDeck.Output.Accounts

/-!
# Interleavings of the recorder

Over every order of the sections of the owner and the worker, a recorder that reports `Finished` has
recorded exactly the accepted frames, and one that failed or was dropped leaves no file. The worker's
`Recording`, stored after a failure of the owner, is the one store that breaks this.
-/

namespace LatentDeck.Output

open Checked Fallible

structure Recorder.Kept (recorder : Recorder) : Prop where
  coherent : recorder.control.Coherent
  accounted : recorder.Accounted
  filed : recorder.Filed

/-- A step that neither stores `Recording` over a failure nor sends a frame that cannot be
counted. -/
def Orderly (step : Run.Step Recorder Choice (Option Answer)) : Prop :=
  (step.input.isWorker = true → step.before.Startable) ∧
    (step.input = .caller → step.before.Countable)

instance (step : Run.Step Recorder Choice (Option Answer)) : Decidable (Orderly step) :=
  inferInstanceAs (Decidable ((step.input.isWorker = true → step.before.worker.starts = true →
      step.before.status.state ≠ .failed) ∧
    (step.input = .caller → step.before.caller.sends = true →
      step.before.status.framesAccepted + 1 < 2 ^ 64)))

theorem armed_kept : Recorder.armed.Kept where
  coherent := ⟨nofun, fun some => absurd rfl some, fun some => absurd rfl some,
    fun either => either.elim nofun nofun, fun either => either.elim nofun nofun, nofun, nofun,
    nofun, nofun, nofun⟩
  accounted := ⟨rfl, by decide, by decide, by decide, fun _ => ⟨rfl, rfl⟩,
    not_drained rfl nofun nofun⟩
  filed := ⟨fun _ => rfl, nofun, fun some => absurd rfl some,
    fun either => either.elim nofun nofun⟩

variable {recorder : Recorder}

theorem Recorder.Accounted.begins (accounted : recorder.Accounted)
    (idle : recorder.caller = .idle) (next : CallerAt) (landed : next.inflight = []) :
    { recorder with caller := next }.Accounted := by
  have same : { recorder with caller := next }.account = recorder.account := by
    rw [Recorder.account, Recorder.account, idle, landed]
    rfl
  exact accounted.steps same rfl rfl id

theorem Recorder.Kept.step (kept : recorder.Kept) (choice : Choice)
    (orderly : Orderly (Run.stepOf Recorder.step recorder choice)) :
    (recorder.step choice).2.Kept := by
  have coherent := kept.coherent.step choice orderly.1
  obtain ⟨before, accounted, filed⟩ := kept
  have begins : recorder.caller = .idle → ∀ next : CallerAt, next.inflight = [] →
      { recorder with caller := next }.control.Coherent → { recorder with caller := next }.Kept :=
    fun idle next landed coherent => ⟨coherent, accounted.begins idle next landed,
      ⟨filed.absent, filed.removed, filed.created, filed.published⟩⟩
  cases choice with
  | submit frame =>
    rw [Recorder.step] at coherent ⊢
    split
    · rename_i idle
      rw [if_pos idle] at coherent
      cases checked : validateFrame frame with
      | error error =>
        rw [checked] at coherent
        exact begins idle _ rfl coherent
      | ok done =>
        rw [checked] at coherent
        exact begins idle _ rfl coherent
    · exact ⟨before, accounted, filed⟩
  | stop =>
    rw [Recorder.step] at coherent ⊢
    split
    · rename_i idle
      rw [if_pos idle] at coherent
      exact begins idle _ rfl coherent
    · exact ⟨before, accounted, filed⟩
  | drop =>
    rw [Recorder.step] at coherent ⊢
    split
    · rename_i idle
      rw [if_pos idle] at coherent
      exact begins idle _ rfl coherent
    · exact ⟨before, accounted, filed⟩
  | caller => exact ⟨coherent, accounted.call before (orderly.2 rfl), filed.call before⟩
  | worker outcome leftover =>
    exact ⟨coherent, accounted.work before outcome leftover, filed.work before outcome leftover⟩
  | foreign =>
    exact ⟨coherent, accounted, ⟨filed.absent, filed.removed, filed.created, filed.published⟩⟩

/-- Whether the status can be read: between two calls and at the end of `stop`. -/
def CallerAt.observing : CallerAt → Bool
  | .idle | .readingFinalStatus | .stopped => true
  | _ => false

def CallerAt.dropping : CallerAt → Bool
  | .dropReleasing | .dropJoining | .dropped => true
  | _ => false

theorem CallerAt.quiet (caller : CallerAt) (observing : caller.observing = true) :
    caller.reporting = false ∧ caller.inflight = [] := by
  cases caller <;> first | exact ⟨rfl, rfl⟩ | exact Bool.noConfusion observing

theorem CallerAt.raised_of_dropping (caller : CallerAt) (dropping : caller.dropping = true) :
    caller.raised = true := by
  cases caller <;> first | rfl | exact Bool.noConfusion dropping

/-- What a recorder reports, and what it has done. -/
structure Recorder.Lawful (recorder : Recorder) : Prop where
  finished : recorder.status.state = .finished → recorder.passed = recorder.accepted ∧
    recorder.status.framesWritten = recorder.status.framesAccepted ∧
    recorder.status.framesAccepted = recorder.accepted.length ∧
    recorder.created = [recorder.accepted]
  failed : recorder.status.state = .failed ∨ recorder.terminalError ≠ none →
    recorder.created = []
  dropped : recorder.caller.dropping = true → recorder.created = []
  removed : recorder.worker = .ended → recorder.temporary = false
  reported : recorder.worker = .ended → recorder.caller.observing = true →
    (recorder.status.state = .failed ↔ recorder.terminalError ≠ none)
  counted : recorder.caller.observing = true →
    recorder.status.framesWritten ≤ recorder.status.framesAccepted

/-- The invariant implies what a recorder reports. -/
theorem Recorder.Kept.lawful (kept : recorder.Kept) : recorder.Lawful := by
  obtain ⟨coherent, accounted, filed⟩ := kept
  have counted : recorder.status.framesAccepted = recorder.accepted.length := accounted.counted
  have withheld : recorder.cancelled = true → recorder.created = [] := by
    intro up
    by_contra some
    have down := (filed.created some).2.2.1
    rw [up] at down
    exact nomatch down
  constructor
  · intro done
    obtain ⟨passed, written⟩ : recorder.passed = recorder.accepted ∧
        recorder.status.framesWritten = recorder.passed.length :=
      accounted.drained (Or.inr (Or.inr done))
    have created := filed.published (Or.inr done)
    rw [passed] at written created
    exact ⟨passed, written.trans counted.symm, counted, created⟩
  · intro either
    have harmed : recorder.terminalError ≠ none := either.elim coherent.failed id
    exact withheld (coherent.terminal harmed)
  · intro dropping
    have raised := recorder.caller.raised_of_dropping dropping
    exact withheld (coherent.raised (Or.inl raised))
  · intro ended
    exact filed.removed (by rw [ended]; rfl)
  · intro ended observing
    refine ⟨coherent.failed, fun harmed => ?_⟩
    rcases coherent.stored harmed with stored | reporting | reporting
    · exact stored
    · change recorder.caller.reporting = true at reporting
      rw [(recorder.caller.quiet observing).1] at reporting
      exact nomatch reporting
    · change recorder.worker.reporting = true at reporting
      rw [ended] at reporting
      exact nomatch reporting
  · intro observing
    have landed := (recorder.caller.quiet observing).2
    have written : recorder.status.framesWritten + recorder.worker.uncounted ≤
        recorder.passed.length := accounted.written
    have within : recorder.passed.length ≤
        recorder.accepted.length + recorder.caller.inflight.length := accounted.within
    rw [landed, List.length_nil] at within
    omega

def Answer.status : Answer → Option RecorderStatus
  | .accepted _ status | .stopped (.ok status) => some status
  | _ => none

def acceptedBy : Option Answer → List DecodedFrame
  | some (.accepted frame _) => [frame]
  | _ => []

structure LawfulStep (step : Run.Step Recorder Choice (Option Answer)) : Prop where
  failed : step.before.status.state = .failed → step.after.status.state = .failed
  finished : step.before.status.state = .finished → step.after.status.state = .finished
  published : step.after.created ≠ step.before.created → step.before.destination = none ∧
    step.after.destination = some (.recording step.before.passed) ∧
    step.after.created = step.before.created ++ [step.before.passed]
  accepted : step.after.accepted = step.before.accepted ++ acceptedBy step.output
  answered : ∀ status, step.output.bind Answer.status = some status → step.after.status = status
  /-- After a drop no temporary file is left. -/
  dropped : step.output = some .dropped → step.after.temporary = false

/-- What a section of the worker stores as the state. -/
theorem Recorder.work_state (recorder : Recorder) (outcome : Option RecorderError)
    (leftover : Bool) :
    (recorder.work outcome leftover).status.state = recorder.status.state ∨
      recorder.worker.starts = true ∨ recorder.worker.closing = true ∨
        (recorder.worker.reporting = true ∧
          (recorder.work outcome leftover).status.state = .failed) := by
  cases position : recorder.worker with
  | failing phase error closing =>
    cases phase <;> simp [Recorder.work, position, WorkerAt.reporting]
  | starting | cancelling | finalizing | finished =>
    simp [WorkerAt.starts, WorkerAt.closing]
  | _ =>
    left
    simp only [Recorder.work, position]
    repeat' split
    all_goals rfl

theorem Recorder.call_state (recorder : Recorder) :
    recorder.call.2.status.state = recorder.status.state ∨
      (recorder.caller.reporting = true ∧ recorder.call.2.status.state = .failed) := by
  cases position : recorder.caller with
  | failing phase error => cases phase <;> simp [Recorder.call, position, CallerAt.reporting]
  | _ =>
    left
    simp only [Recorder.call, position]
    repeat' split
    all_goals rfl

/-- The worker publishes where no file is, and answers nothing. -/
theorem Recorder.work_created (recorder : Recorder) (outcome : Option RecorderError)
    (leftover : Bool) :
    (recorder.work outcome leftover).accepted = recorder.accepted ∧
      ((recorder.work outcome leftover).created = recorder.created ∨
        (recorder.destination = none ∧
          (recorder.work outcome leftover).destination = some (.recording recorder.passed) ∧
          (recorder.work outcome leftover).created = recorder.created ++ [recorder.passed])) := by
  cases position : recorder.worker with
  | publishing =>
    simp only [Recorder.work, position]
    split
    · exact ⟨rfl, Or.inr ⟨‹_›, rfl, rfl⟩⟩
    · exact ⟨rfl, Or.inl rfl⟩
    · exact ⟨rfl, Or.inl rfl⟩
  | failing phase error closing =>
    cases phase <;> simp [Recorder.work, position]
  | _ =>
    simp only [Recorder.work, position]
    repeat' split
    all_goals simp

/-- The owner publishes nothing, and accepts the frames that it answers for. -/
theorem Recorder.call_accepted (recorder : Recorder) :
    recorder.call.2.created = recorder.created ∧
      recorder.call.2.accepted = recorder.accepted ++ acceptedBy recorder.call.1 ∧
      ∀ status, recorder.call.1.bind Answer.status = some status →
        recorder.call.2.status = status := by
  have silent : recorder.accepted = recorder.accepted ++ acceptedBy none :=
    (List.append_nil _).symm
  cases position : recorder.caller with
  | counting frame =>
    simp only [Recorder.call, position]
    split
    · exact ⟨rfl, silent, nofun⟩
    · exact ⟨rfl, rfl, fun status same => Option.some.inj same⟩
  | readingFinalStatus =>
    simp only [Recorder.call, position]
    split
    · exact ⟨rfl, silent, fun status same => Option.some.inj same⟩
    · exact ⟨rfl, silent, nofun⟩
  | failing phase error =>
    cases phase <;> simp [Recorder.call, position, acceptedBy]
  | _ =>
    simp only [Recorder.call, position]
    repeat' split
    all_goals simp [acceptedBy, Answer.status]

/-- A drop is over once the worker has ended, and leaves the files alone. -/
theorem Recorder.call_dropped (answer : recorder.call.1 = some .dropped) :
    recorder.worker = .ended ∧ recorder.call.2.temporary = recorder.temporary := by
  cases position : recorder.caller with
  | dropJoining =>
    by_cases ended : recorder.worker = .ended
    · refine ⟨ended, ?_⟩
      rw [Recorder.call, position]
      dsimp only
      rw [if_pos ended]
    · rw [Recorder.call, position] at answer
      dsimp only at answer
      rw [if_neg ended] at answer
      cases answer
  | failing phase error => cases phase <;> simp [Recorder.call, position] at answer
  | _ =>
    simp only [Recorder.call, position] at answer
    repeat' split at answer
    all_goals cases answer

theorem Recorder.Kept.lawfulStep (kept : recorder.Kept) (choice : Choice)
    (orderly : Orderly (Run.stepOf Recorder.step recorder choice)) :
    LawfulStep (Run.stepOf Recorder.step recorder choice) := by
  have coherent := kept.coherent
  have silent : recorder.accepted = recorder.accepted ++ acceptedBy none :=
    (List.append_nil _).symm
  -- A call that begins and another program change nothing that is reported.
  have idles : ∀ after : Recorder, after.status = recorder.status →
      after.created = recorder.created → after.accepted = recorder.accepted →
      LawfulStep ⟨recorder, choice, none, after⟩ := by
    intro after status created accepted
    exact {
      failed := fun failed => by rwa [← status] at failed
      finished := fun done => by rwa [← status] at done
      published := fun changed => absurd created changed
      accepted := accepted.trans silent
      answered := by rintro _ ⟨⟩
      dropped := by rintro ⟨⟩ }
  cases choice with
  | submit frame =>
    rw [Run.stepOf, Recorder.step]
    split
    · cases validateFrame frame with
      | error error => exact idles _ rfl rfl rfl
      | ok done => exact idles _ rfl rfl rfl
    · exact idles _ rfl rfl rfl
  | stop =>
    rw [Run.stepOf, Recorder.step]
    split
    · exact idles _ rfl rfl rfl
    · exact idles _ rfl rfl rfl
  | drop =>
    rw [Run.stepOf, Recorder.step]
    split
    · exact idles _ rfl rfl rfl
    · exact idles _ rfl rfl rfl
  | foreign => exact idles _ rfl rfl rfl
  | caller =>
    obtain ⟨created, accepted, answered⟩ := recorder.call_accepted
    refine ⟨fun failed => ?_, fun done => ?_, fun changed => absurd created changed, accepted,
      answered, fun answer => ?_⟩
    · rcases recorder.call_state with same | ⟨-, stored⟩
      · exact same.trans failed
      · exact stored
    · rcases recorder.call_state with same | ⟨reporting, -⟩
      · exact same.trans done
      · have ended := (coherent.finished done).2
        have up := coherent.terminal (coherent.erring (Or.inl reporting))
        rw [ended.1] at up
        cases up
    · obtain ⟨ended, temporary⟩ := Recorder.call_dropped answer
      exact temporary.trans (kept.lawful.removed ended)
  | worker outcome leftover =>
    obtain ⟨accepted, created⟩ := recorder.work_created outcome leftover
    have stored := recorder.work_state outcome leftover
    refine ⟨fun failed => ?_, fun done => ?_, fun changed => created.resolve_left changed,
      accepted.trans silent, by rintro _ ⟨⟩, by rintro ⟨⟩⟩
    · rcases stored with same | starts | closing | ⟨-, stored⟩
      · exact same.trans failed
      · exact absurd failed (orderly.1 rfl starts)
      · have down := (coherent.closing closing).1
        exact absurd (coherent.unharmed down) (coherent.failed failed)
      · exact stored
    · have ended : recorder.worker.over = true := (coherent.finished done).1
      rcases stored with same | starts | closing | ⟨reporting, -⟩
      · exact same.trans done
      · cases worker : recorder.worker <;> rw [worker] at ended starts <;>
          first | exact Bool.noConfusion ended | exact Bool.noConfusion starts
      · cases worker : recorder.worker <;> rw [worker] at ended closing <;>
          first | exact Bool.noConfusion ended | exact Bool.noConfusion closing
      · cases worker : recorder.worker <;> rw [worker] at ended reporting <;>
          first | exact Bool.noConfusion ended | exact Bool.noConfusion reporting

theorem orderly_run_kept (choices : List Choice)
    (orderly : ∀ step ∈ Run.steps Recorder.step .armed choices, Orderly step) :
    (Run.final Recorder.step .armed choices).Kept ∧
      ∀ step ∈ Run.steps Recorder.step .armed choices, step.before.Kept ∧ step.after.Kept :=
  Run.invariant_under Orderly Recorder.Kept
    (fun _ choice kept orderly => kept.step choice orderly) choices .armed armed_kept orderly

theorem start_eq_ok (destination : Destination) (sequence : Nat) (candidateExists : Nat → Bool)
    (recorder : Recorder)
    (started : Recorder.start destination sequence candidateExists = .ok recorder) :
    recorder = .armed := by
  rw [Recorder.start, check_eq_ok, bind_eq_ok] at started
  obtain ⟨-, candidate, -, same⟩ := started
  exact (Except.ok.inj same).symm

/-- In every interleaving in which no `Recording` is stored over a failure, and no frame is sent
that cannot be counted, a recorder reports what it has done. -/
theorem orderly_recorder_lawful (destination : Destination) (sequence : Nat)
    (candidateExists : Nat → Bool) (recorder : Recorder)
    (started : Recorder.start destination sequence candidateExists = .ok recorder)
    (choices : List Choice)
    (orderly : ∀ step ∈ Run.steps Recorder.step recorder choices, Orderly step) :
    (Run.final Recorder.step recorder choices).Lawful ∧
      (Run.final Recorder.step recorder choices).accepted =
        (Run.steps Recorder.step recorder choices).flatMap (fun step => acceptedBy step.output) ∧
      ∀ step ∈ Run.steps Recorder.step recorder choices,
        step.before.Lawful ∧ step.after.Lawful ∧ LawfulStep step := by
  obtain rfl := start_eq_ok _ _ _ _ started
  obtain ⟨final, around⟩ := orderly_run_kept choices orderly
  have lawful : ∀ step ∈ Run.steps Recorder.step .armed choices, LawfulStep step := by
    intro step member
    have made := Run.step_eq Recorder.armed choices step member
    have clean := orderly step member
    rw [made] at clean ⊢
    exact (around step member).1.lawfulStep step.input clean
  have accepted := Run.logged Recorder.accepted (fun step => acceptedBy step.output) choices
    Recorder.armed fun step member => (lawful step member).accepted
  refine ⟨final.lawful, accepted.trans (List.nil_append _), fun step member => ?_⟩
  obtain ⟨before, after⟩ := around step member
  exact ⟨before.lawful, after.lawful, lawful step member⟩

/-- A destination that `start` accepts. -/
def sampleDestination : Destination where
  isAbsolute := true
  fileName := some "take.mp4"
  unicode := true
  extension := some "mp4"
  parentIsDir := true
  present := false

def sampleFrame : DecodedFrame := ⟨2, 2, 8, List.replicate 16 0⟩

/-- A frame of the same size. -/
def brightFrame : DecodedFrame := ⟨2, 2, 8, List.replicate 16 255⟩

/-- A frame without pixels, which `submit` refuses. -/
def emptyFrame : DecodedFrame := ⟨0, 0, 0, []⟩

/-- The sections of a `submit` that accepts its frame. -/
def submitted (frame : DecodedFrame) : List Choice := .submit frame :: List.replicate 4 .caller

/-- A number of sections of the worker in which every operation succeeds. -/
def worked (sections : Nat) : List Choice := List.replicate sections (.worker none false)

/-- Two frames are recorded, the second one while the first is written, and the recording is
stopped. -/
def recordedChoices : List Choice :=
  submitted sampleFrame ++ (worked 3 ++ (submitted brightFrame ++ (worked 7 ++
    ([.stop, .caller] ++ (worked 8 ++ List.replicate 3 .caller)))))

/-- A recording of two frames is orderly, and is finished with both in order. -/
theorem recorded_lawful : (Run.final Recorder.step .armed recordedChoices).Lawful ∧
    (Run.final Recorder.step .armed recordedChoices).status.state = .finished ∧
    (Run.final Recorder.step .armed recordedChoices).created = [[sampleFrame, brightFrame]] := by
  have orderly : ∀ step ∈ Run.steps Recorder.step .armed recordedChoices, Orderly step := by
    decide +kernel
  have started : Recorder.start sampleDestination 1 (fun _ => false) = .ok .armed := by
    decide +kernel
  exact ⟨(orderly_recorder_lawful sampleDestination 1 (fun _ => false) .armed started
    recordedChoices orderly).1, by decide +kernel, by decide +kernel⟩

/-- The owner submits a bad frame while the worker opens its sink for a good one. -/
def racedChoices : List Choice :=
  submitted sampleFrame ++ (worked 2 ++ ([.submit emptyFrame] ++
    (List.replicate 4 .caller ++ worked 8)))

/-- The worker's `Recording` overwrites the failure: the recorder has a terminal error, its worker
has ended, and it does not report `Failed`. -/
theorem failure_overwritten :
    Recorder.start sampleDestination 1 (fun _ => false) = .ok .armed ∧
      ¬ (Run.final Recorder.step .armed racedChoices).Lawful ∧
      ∃ step ∈ Run.steps Recorder.step .armed racedChoices, ¬ LawfulStep step := by
  refine ⟨by decide +kernel, fun lawful => ?_, ?_⟩
  · have ended : (Run.final Recorder.step .armed racedChoices).worker = .ended := by decide +kernel
    have observing : (Run.final Recorder.step .armed racedChoices).caller.observing = true := by
      decide +kernel
    have harmed : (Run.final Recorder.step .armed racedChoices).terminalError ≠ none := by
      decide +kernel
    have running : (Run.final Recorder.step .armed racedChoices).status.state ≠ .failed := by
      decide +kernel
    exact running ((lawful.reported ended observing).mpr harmed)
  · have changed : ∃ step ∈ Run.steps Recorder.step .armed racedChoices,
        step.before.status.state = .failed ∧ step.after.status.state ≠ .failed := by
      decide +kernel
    obtain ⟨step, member, before, after⟩ := changed
    exact ⟨step, member, fun lawful => after (lawful.failed before)⟩

end LatentDeck.Output
