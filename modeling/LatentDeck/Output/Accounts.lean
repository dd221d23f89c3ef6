import LatentDeck.Output.Lifecycle

/-!
# Frames and files

Every frame that `submit` accepts is in the channel, with the worker or with the sink until the
worker gives up, and at the end of the channel all of them are with the sink. The temporary file and
the destination follow the worker.
-/

namespace LatentDeck.Output

open Checked Fallible

/-- The frame that the worker has taken and not yet passed to the sink. -/
def WorkerAt.hand : WorkerAt → List DecodedFrame
  | .checking frame | .opening frame | .starting frame | .writing frame => [frame]
  | _ => []

/-- How many written frames are not yet counted. -/
def WorkerAt.uncounted : WorkerAt → Nat
  | .counting => 1
  | _ => 0

def WorkerAt.looping : WorkerAt → Bool
  | .receiving | .checking _ | .opening _ | .starting _ | .writing _ | .counting => true
  | _ => false

def WorkerAt.leaves : WorkerAt → Bool
  | .leaving => true
  | _ => false

/-- Whether the worker removes the temporary file or publishes it. -/
def WorkerAt.ending : WorkerAt → Bool
  | .failing _ _ _ | .finalizing | .finishing | .publishing | .cleaning => true
  | _ => false

/-- Whether the worker has seen the end of the channel with the flag down. -/
def Recorder.Drained (recorder : Recorder) : Prop :=
  recorder.worker.closing = true ∨
    (recorder.worker = .leaving ∧ recorder.cancelled = false) ∨
      recorder.status.state = .finished

/-- What is counted, and the frames it counts. -/
structure Account where
  framesAccepted : Nat
  framesWritten : Nat
  accepted : List DecodedFrame
  inflight : List DecodedFrame
  passed : List DecodedFrame

def Recorder.account (recorder : Recorder) : Account where
  framesAccepted := recorder.status.framesAccepted
  framesWritten := recorder.status.framesWritten
  accepted := recorder.accepted
  inflight := recorder.caller.inflight
  passed := recorder.passed

/-- An account with the frames that are on their way to the sink. -/
structure Account.Balanced (account : Account) (pending : List DecodedFrame) (uncounted : Nat)
    (looping drained : Prop) : Prop where
  counted : account.framesAccepted = account.accepted.length
  bounded : account.accepted.length + account.inflight.length < 2 ^ 64
  within : account.passed.length ≤ account.accepted.length + account.inflight.length
  written : account.framesWritten + uncounted ≤ account.passed.length
  conserved : looping → account.passed ++ pending = account.accepted ++ account.inflight ∧
    account.framesWritten + uncounted = account.passed.length
  drained : drained → account.passed = account.accepted ∧
    account.framesWritten = account.passed.length

/-- The frames of a recorder are accounted for. -/
def Recorder.Accounted (recorder : Recorder) : Prop :=
  recorder.account.Balanced (recorder.worker.hand ++ recorder.queue) recorder.worker.uncounted
    (recorder.worker.looping = true) recorder.Drained

/-- A step that moves no frame keeps the account. -/
theorem Account.Balanced.moves {account : Account} {pending after : List DecodedFrame}
    {uncounted : Nat} {looping loops drained drains : Prop}
    (balanced : account.Balanced pending uncounted looping drained)
    (goes : loops → looping ∧ after = pending) (drains_ : drains → drained) :
    account.Balanced after uncounted loops drains where
  counted := balanced.counted
  bounded := balanced.bounded
  within := balanced.within
  written := balanced.written
  conserved now := by
    obtain ⟨before, same⟩ := goes now
    rw [same]
    exact balanced.conserved before
  drained now := balanced.drained (drains_ now)

variable {recorder : Recorder}

theorem not_drained {drained : Prop} (closing : recorder.worker.closing = false)
    (leaving : recorder.worker.leaves = true → recorder.cancelled = true)
    (busy : recorder.status.state ≠ .finished) : recorder.Drained → drained := by
  rintro (now | ⟨now, down⟩ | done)
  · rw [closing] at now
    exact flag_down now
  · rw [leaving (congrArg WorkerAt.leaves now)] at down
    exact flag_down down.symm
  · exact absurd done busy

/-- A section that moves no frame and ends outside of the loop keeps the account. -/
theorem Recorder.Accounted.leaves {before after : Recorder} (accounted : before.Accounted)
    (account : after.account = before.account)
    (uncounted : after.worker.uncounted = before.worker.uncounted)
    (out : after.worker.looping = false) (drains : after.Drained → before.Drained) :
    after.Accounted := by
  rw [Recorder.Accounted, account, uncounted]
  exact accounted.moves (fun looping => absurd looping (Bool.eq_false_iff.mp out)) drains

section

variable (accounted : recorder.Accounted)

include accounted

/-- At the end of the channel every accepted frame is with the sink. -/
theorem Recorder.Accounted.ends
    (coherent : recorder.control.Coherent) (position : recorder.worker = .receiving)
    (empty : recorder.queue = []) (dropped : recorder.sender = false)
    (busy : recorder.status.state ≠ .finished) :
    { recorder with worker := .leaving }.Accounted := by
  have accounted : recorder.account.Balanced (recorder.worker.hand ++ recorder.queue)
    recorder.worker.uncounted (recorder.worker.looping = true) recorder.Drained := accounted
  rw [position, empty] at accounted
  obtain ⟨conserved, counted⟩ := accounted.conserved rfl
  unfold Recorder.Accounted
  refine { accounted with conserved := by rintro ⟨⟩, drained := ?_ }
  rintro (never | ⟨-, down⟩ | done)
  · cases never
  · -- The owner is in `stop`, where no frame is in flight.
    have halting : recorder.caller.halting = true := coherent.stops down dropped
    have landed : recorder.caller.inflight = [] := by
      cases caller : recorder.caller <;> first | rfl | (rw [caller] at halting; cases halting)
    change recorder.passed ++ [] = recorder.accepted ++ recorder.caller.inflight at conserved
    rw [landed, List.append_nil, List.append_nil] at conserved
    exact ⟨conserved, counted⟩
  · exact absurd done busy

variable {frame : DecodedFrame}

/-- The worker passes a frame to the sink. -/
theorem Recorder.Accounted.writes (position : recorder.worker = .writing frame)
    (busy : recorder.status.state ≠ .finished) (outcome : Option RecorderError)
    (leftover : Bool) : (recorder.work outcome leftover).Accounted := by
  unfold Recorder.Accounted at accounted ⊢
  have bounded := accounted.bounded
  rw [position] at accounted
  obtain ⟨conserved, counted⟩ := accounted.conserved rfl
  have moved : (recorder.passed ++ [frame]) ++ recorder.queue =
      recorder.accepted ++ recorder.caller.inflight := by
    rw [List.append_assoc]
    exact conserved
  have lengths := congrArg List.length moved
  simp only [List.length_append, List.length_singleton] at lengths
  have passed : recorder.status.framesWritten = recorder.passed.length := counted
  have within : (recorder.passed ++ [frame]).length ≤
      recorder.accepted.length + recorder.caller.inflight.length := by
    rw [List.length_append, List.length_singleton]
    omega
  simp only [Recorder.work, position]
  split
  · have added : recorder.status.framesWritten + 1 = (recorder.passed ++ [frame]).length := by
      rw [List.length_append, passed, List.length_singleton]
    refine ⟨accounted.counted, bounded, within, Nat.le_of_eq added, fun _ => ⟨moved, added⟩,
      not_drained rfl ?_ busy⟩
    rintro ⟨⟩
  · have added : recorder.status.framesWritten + 0 ≤ (recorder.passed ++ [frame]).length := by
      rw [List.length_append, passed]
      omega
    refine ⟨accounted.counted, bounded, within, added, ?_, not_drained rfl ?_ busy⟩ <;> rintro ⟨⟩

/-- The worker counts the frame that it has written; the counter does not overflow. -/
theorem Recorder.Accounted.records
    (position : recorder.worker = .counting) (busy : recorder.status.state ≠ .finished)
    (outcome : Option RecorderError) (leftover : Bool) :
    (recorder.work outcome leftover).Accounted := by
  unfold Recorder.Accounted at accounted ⊢
  have bounded := accounted.bounded
  rw [position] at accounted
  obtain ⟨conserved, counted⟩ := accounted.conserved rfl
  have within : recorder.passed.length ≤
      recorder.accepted.length + recorder.caller.inflight.length := accounted.within
  have word : recorder.accepted.length + recorder.caller.inflight.length < 2 ^ 64 := bounded
  have added : recorder.status.framesWritten + 1 = recorder.passed.length := counted
  have exactly : min (recorder.status.framesWritten + 1) (2 ^ 64 - 1) =
      recorder.passed.length := by omega
  simp only [Recorder.work, position]
  refine ⟨accounted.counted, bounded, within, Nat.le_of_eq exactly, fun _ => ⟨conserved,
    exactly⟩, not_drained rfl ?_ busy⟩
  rintro ⟨⟩

theorem Recorder.Accounted.work
    (coherent : recorder.control.Coherent) (outcome : Option RecorderError) (leftover : Bool) :
    (recorder.work outcome leftover).Accounted := by
  have busy : recorder.worker.over = false → recorder.status.state ≠ .finished := by
    intro busy done
    have ended : recorder.worker.over = true := (coherent.finished done).1
    rw [busy] at ended
    cases ended
  have up : recorder.worker.raised = true → recorder.cancelled = true :=
    fun raised => coherent.raised (Or.inr raised)
  have leaves : recorder.worker.uncounted = 0 → ∀ after : Recorder,
      after.account = recorder.account → after.worker.uncounted = 0 →
      after.worker.looping = false → (after.Drained → recorder.Drained) → after.Accounted :=
    fun none after account still out => accounted.leaves account (still.trans none.symm) out
  have drained : recorder.worker.closing = true → recorder.Drained := Or.inl
  have account := accounted
  unfold Recorder.Accounted at account
  cases position : recorder.worker with
  | receiving =>
    rw [position] at account busy
    simp only [Recorder.work, position]
    split
    · rename_i frame rest queue
      rw [queue] at account
      refine account.moves (fun _ => ⟨rfl, rfl⟩) (not_drained rfl ?_ (busy rfl))
      rintro ⟨⟩
    · by_cases held : recorder.sender = true
      · rw [if_pos held]
        exact accounted
      · rw [if_neg held]
        exact accounted.ends coherent position ‹_› (Bool.not_eq_true _ ▸ held) (busy rfl)
  | checking frame =>
    rw [position] at account busy leaves
    simp only [Recorder.work, position]
    split
    · exact leaves rfl _ rfl rfl rfl (not_drained rfl (fun _ => ‹_›) (busy rfl))
    · split
      · exact account.moves (fun _ => ⟨rfl, rfl⟩) (not_drained rfl flag_down (busy rfl))
      · exact account.moves (fun _ => ⟨rfl, rfl⟩) (not_drained rfl flag_down (busy rfl))
  | opening frame =>
    rw [position] at account busy leaves
    simp only [Recorder.work, position]
    split
    · exact account.moves (fun _ => ⟨rfl, rfl⟩) (not_drained rfl flag_down (busy rfl))
    · exact leaves rfl _ rfl rfl rfl (not_drained rfl flag_down (busy rfl))
  | starting frame =>
    rw [position] at account
    simp only [Recorder.work, position]
    exact account.moves (fun _ => ⟨rfl, rfl⟩) (not_drained rfl flag_down (by rintro ⟨⟩))
  | writing frame => exact accounted.writes position (busy (by rw [position]; rfl)) outcome leftover
  | counting => exact accounted.records position (busy (by rw [position]; rfl)) outcome leftover
  | failing phase error closing =>
    rw [position] at busy up leaves
    cases phase with
    | cancelling | recording =>
      simp only [Recorder.work, position]
      exact leaves rfl _ rfl rfl rfl (not_drained rfl flag_down (busy rfl))
    | reporting =>
      simp only [Recorder.work, position]
      cases closing with
      | false => exact leaves rfl _ rfl rfl rfl (not_drained rfl (fun _ => up rfl) (by rintro ⟨⟩))
      | true => exact leaves rfl _ rfl rfl rfl (not_drained rfl flag_down (by rintro ⟨⟩))
  | leaving =>
    rw [position] at busy leaves
    simp only [Recorder.work, position]
    split
    · exact leaves rfl _ rfl rfl rfl (not_drained rfl flag_down (busy rfl))
    · rename_i lowered
      have empty : recorder.Drained := Or.inr (Or.inl ⟨position, Bool.not_eq_true _ ▸ lowered⟩)
      split
      · exact leaves rfl _ rfl rfl rfl fun _ => empty
      · exact leaves rfl _ rfl rfl rfl fun _ => empty
  | cancelling =>
    rw [position] at leaves
    simp only [Recorder.work, position]
    exact leaves rfl _ rfl rfl rfl (not_drained rfl flag_down (by rintro ⟨⟩))
  | finalizing | finished =>
    rw [position] at leaves drained
    simp only [Recorder.work, position]
    exact leaves rfl _ rfl rfl rfl fun _ => drained rfl
  | finishing | publishing =>
    rw [position] at leaves drained
    simp only [Recorder.work, position]
    split <;> exact leaves rfl _ rfl rfl rfl fun _ => drained rfl
  | cleaning =>
    rw [position] at busy leaves
    simp only [Recorder.work, position]
    exact leaves rfl _ rfl rfl rfl (not_drained rfl flag_down (busy rfl))
  | returning =>
    rw [position] at leaves
    simp only [Recorder.work, position]
    refine leaves rfl _ rfl rfl rfl ?_
    rintro (never | ⟨never, -⟩ | done)
    · cases never
    · cases never
    · exact Or.inr (Or.inr done)
  | ended =>
    simp only [Recorder.work, position]
    exact accounted

end

/-- Whether the owner is about to send a frame. -/
def CallerAt.sends : CallerAt → Bool
  | .sending _ => true
  | _ => false

/-- A frame is sent only while the counter of accepted frames has room for it. -/
def Recorder.Countable (recorder : Recorder) : Prop :=
  recorder.caller.sends = true → recorder.status.framesAccepted + 1 < 2 ^ 64

theorem Recorder.Accounted.steps {before after : Recorder} (accounted : before.Accounted)
    (account : after.account = before.account) (worker : after.worker = before.worker)
    (queue : after.queue = before.queue) (drains : after.Drained → before.Drained) :
    after.Accounted := by
  rw [Recorder.Accounted, account, worker, queue]
  exact accounted.moves (fun now => ⟨now, rfl⟩) drains

theorem drained_of_raised {caller : CallerAt} :
    { recorder with cancelled := true, caller }.Drained → recorder.Drained := by
  rintro (now | ⟨-, never⟩ | done)
  · exact Or.inl now
  · exact nomatch never
  · exact Or.inr (Or.inr done)

/-- The owner puts a frame into the channel. -/
theorem Recorder.Accounted.sends (accounted : recorder.Accounted) (countable : recorder.Countable)
    (position : recorder.caller = .sending frame) (undrained : ¬ recorder.Drained) :
    { recorder with queue := recorder.queue ++ [frame], caller := .counting frame }.Accounted := by
  have room := countable (congrArg CallerAt.sends position)
  have counted : recorder.status.framesAccepted = recorder.accepted.length := accounted.counted
  have landed : recorder.caller.inflight = [] := congrArg CallerAt.inflight position
  have within := accounted.within
  have conserved := accounted.conserved
  simp only [Recorder.account, landed, List.append_nil, List.length_nil, Nat.add_zero]
    at within conserved
  refine ⟨counted, ?_, Nat.le_succ_of_le within, accounted.written, fun looping => ?_,
    fun drained => absurd drained undrained⟩
  · change recorder.accepted.length + 1 < 2 ^ 64
    rwa [← counted]
  · obtain ⟨same, written⟩ := conserved looping
    refine ⟨?_, written⟩
    change recorder.passed ++ (recorder.worker.hand ++ (recorder.queue ++ [frame])) =
      recorder.accepted ++ [frame]
    rw [← same]
    simp only [List.append_assoc]

/-- The counter of accepted frames has room for a frame that was sent. -/
theorem Recorder.Accounted.added (accounted : recorder.Accounted)
    (position : recorder.caller = .counting frame) :
    checkedAdd recorder.status.framesAccepted 1 = some (recorder.accepted.length + 1) := by
  have counted : recorder.status.framesAccepted = recorder.accepted.length := accounted.counted
  have sent : recorder.caller.inflight = [frame] := congrArg CallerAt.inflight position
  have bounded := accounted.bounded
  simp only [Recorder.account, sent, List.length_singleton] at bounded
  rw [checkedAdd_eq_some, counted]
  exact ⟨rfl, bounded⟩

/-- The owner counts the frame that it sent. -/
theorem Recorder.Accounted.counts (accounted : recorder.Accounted)
    {framesAccepted : Nat} (position : recorder.caller = .counting frame)
    (added : checkedAdd recorder.status.framesAccepted 1 = some framesAccepted)
    (undrained : ¬ recorder.Drained) :
    { recorder with
      status := { recorder.status with
        framesAccepted
        width := some frame.width
        height := some frame.height }
      accepted := recorder.accepted ++ [frame]
      caller := .idle }.Accounted := by
  have sent : recorder.caller.inflight = [frame] := congrArg CallerAt.inflight position
  have bounded := accounted.bounded
  have within := accounted.within
  have conserved := accounted.conserved
  simp only [Recorder.account, sent, List.length_singleton] at bounded within conserved
  have longer : (recorder.accepted ++ [frame]).length = recorder.accepted.length + 1 := by
    rw [List.length_append, List.length_singleton]
  have counted := Option.some.inj (added.symm.trans (accounted.added position))
  refine ⟨counted.trans longer.symm, longer ▸ bounded, longer ▸ within, accounted.written,
    fun looping => ?_, fun drained => absurd drained undrained⟩
  obtain ⟨same, written⟩ := conserved looping
  refine ⟨?_, written⟩
  change recorder.passed ++ (recorder.worker.hand ++ recorder.queue) =
    recorder.accepted ++ [frame] ++ []
  rw [List.append_nil]
  exact same

/-- No frame is drained before the owner is in `stop`. -/
theorem undrained (coherent : recorder.control.Coherent)
    (busy : recorder.caller.halting = false) : ¬ recorder.Drained := by
  obtain ⟨open_, unfinished⟩ := coherent.unclosed busy
  rintro (closing | ⟨leaving, down⟩ | done)
  · exact absurd closing (Bool.eq_false_iff.mp open_)
  · have reason : recorder.cancelled = true ∨ recorder.sender = false := coherent.leaving leaving
    have halting := coherent.stops down (reason.resolve_left (by rw [down]; rintro ⟨⟩))
    exact absurd halting (Bool.eq_false_iff.mp busy)
  · exact absurd done unfinished

theorem Recorder.Accounted.call (accounted : recorder.Accounted)
    (coherent : recorder.control.Coherent) (countable : recorder.Countable) :
    recorder.call.2.Accounted := by
  -- Sections that leave the account, the worker and the channel alone.
  have keeps : ∀ (after : Recorder), after.caller.inflight = recorder.caller.inflight →
      after.account = { recorder.account with inflight := after.caller.inflight } →
      after.worker = recorder.worker → after.queue = recorder.queue →
      (after.Drained → recorder.Drained) → after.Accounted := by
    intro after inflight same worker queue drains
    refine accounted.steps ?_ worker queue drains
    rw [same, inflight]
    rfl
  have calls : ∀ {after}, Called recorder after → after.Accounted := by
    intro after called
    cases called with
    | rests => exact accounted
    | moves next calm reporting raised halting inflight => exact keeps _ inflight rfl rfl rfl id
    | sends frame position =>
      exact accounted.sends countable position
        (undrained coherent (congrArg CallerAt.halting position))
    | overflows frame position full => exact nomatch full.symm.trans (accounted.added position)
    | counts frame position added =>
      exact accounted.counts position added
        (undrained coherent (congrArg CallerAt.halting position))
    | raises next reporting busy halting inflight =>
      exact keeps _ inflight rfl rfl rfl drained_of_raised
    | errs error position =>
      exact keeps _ (congrArg CallerAt.inflight position).symm rfl rfl rfl id
    | fails error position =>
      refine keeps _ (congrArg CallerAt.inflight position).symm rfl rfl rfl ?_
      rintro (now | now | never)
      · exact Or.inl now
      · exact Or.inr (Or.inl now)
      · cases never
    | releases next calm reporting raised reason inflight => exact keeps _ inflight rfl rfl rfl id
  exact calls (called recorder)

/-- Whether the worker is at work and has opened no sink. -/
def Recorder.Unopened (recorder : Recorder) : Prop :=
  (recorder.sink = false ∧ (recorder.worker.looping = true ∨
    (recorder.worker = .leaving ∧ recorder.cancelled = false))) ∨ recorder.worker = .cancelling

/-- Whether the worker is past the publication or the removal of the temporary file. -/
def WorkerAt.settled (worker : WorkerAt) : Bool := worker.over || worker == .finished

/-- The files of a recorder follow its worker. -/
structure Recorder.Filed (recorder : Recorder) : Prop where
  absent : recorder.Unopened → recorder.temporary = false
  removed : recorder.worker.settled = true → recorder.temporary = false
  /-- What was created is one recording of what was passed, at the end of the channel. -/
  created : recorder.created ≠ [] → recorder.created = [recorder.passed] ∧
    recorder.worker.settled = true ∧ recorder.cancelled = false ∧ recorder.sender = false
  published : recorder.worker = .finished ∨ recorder.status.state = .finished →
    recorder.created = [recorder.passed]

theorem Recorder.Filed.unpublished (filed : recorder.Filed)
    (busy : recorder.worker.settled = false) : recorder.created = [] := by
  by_contra some
  have settled := (filed.created some).2.1
  rw [busy] at settled
  exact nomatch settled

theorem filed_of_unpublished (none : recorder.created = [])
    (absent : recorder.Unopened → recorder.temporary = false)
    (removed : recorder.worker.settled = true → recorder.temporary = false)
    (unfinished : recorder.worker ≠ .finished) (busy : recorder.status.state ≠ .finished) :
    recorder.Filed where
  absent := absent
  removed := removed
  created some := absurd none some
  published either := either.elim (fun now => absurd now unfinished) fun done => absurd done busy

/-- A worker without a sink is not about to store `Cancelled`, or has none. -/
theorem Recorder.Unopened.closed (unopened : recorder.Unopened)
    (other : recorder.worker ≠ .cancelling) : recorder.sink = false := by
  rcases unopened with ⟨closed, -⟩ | now
  · exact closed
  · exact absurd now other

/-- A worker that goes on in its loop keeps to a temporary file that its sink has opened. -/
theorem filed_of_looping (none : recorder.created = [])
    (absent : recorder.sink = false → recorder.temporary = false)
    (looping : recorder.worker.looping = true) (busy : recorder.status.state ≠ .finished) :
    recorder.Filed := by
  refine filed_of_unpublished none (fun unopened => absent (unopened.closed fun now => ?_))
    (fun settled => ?_) (fun now => ?_) busy
  · rw [now] at looping
    cases looping
  · cases worker : recorder.worker <;> rw [worker] at looping settled <;>
      first | exact Bool.noConfusion looping | exact Bool.noConfusion settled
  · rw [now] at looping
    cases looping

/-- A worker on its way from a failure to the removal of the temporary file, or to the publication. -/
theorem filed_of_ending (none : recorder.created = [])
    (ending : recorder.worker.ending = true) (busy : recorder.status.state ≠ .finished) :
    recorder.Filed := by
  have elsewhere : recorder.worker.looping = false ∧ recorder.worker.settled = false ∧
      recorder.worker ≠ .leaving ∧ recorder.worker ≠ .cancelling := by
    cases worker : recorder.worker <;> rw [worker] at ending <;>
      first | exact flag_down ending | exact ⟨rfl, rfl, by rintro ⟨⟩, by rintro ⟨⟩⟩
  obtain ⟨out, unsettled, stays, other⟩ := elsewhere
  refine filed_of_unpublished none ?_ (fun settled => ?_) (fun now => ?_) busy
  · rintro (⟨-, looping | leaving⟩ | now)
    · rw [out] at looping
      exact flag_down looping
    · exact absurd leaving.1 stays
    · exact absurd now other
  · rw [unsettled] at settled
    exact flag_down settled
  · rw [now] at unsettled
    cases unsettled

/-- A worker that leaves its loop with the flag up. -/
theorem filed_of_leaving (none : recorder.created = [])
    (worker : recorder.worker = .leaving) (up : recorder.cancelled = true)
    (busy : recorder.status.state ≠ .finished) : recorder.Filed := by
  refine filed_of_unpublished none ?_ (fun settled => ?_) ?_ busy
  · rintro (⟨-, looping | leaving⟩ | now)
    · rw [worker] at looping
      exact flag_down looping
    · rw [up] at leaving
      exact flag_down leaving.2.symm
    · rw [worker] at now
      cases now
  · rw [worker] at settled
    exact flag_down settled
  · rw [worker]
    rintro ⟨⟩

/-- What is published is the recording of all that was passed. -/
theorem Recorder.Filed.publishes (filed : recorder.Filed)
    (coherent : recorder.control.Coherent) (position : recorder.worker = .publishing)
    (outcome : Option RecorderError) (leftover : Bool) :
    (recorder.work outcome leftover).Filed := by
  have ended : recorder.cancelled = false ∧ recorder.sender = false :=
    coherent.closing (congrArg WorkerAt.closing position)
  have busy : recorder.status.state ≠ .finished := by
    intro done
    have last : recorder.worker.over = true := (coherent.finished done).1
    rw [position] at last
    cases last
  have first := filed.unpublished (congrArg WorkerAt.settled position)
  simp only [Recorder.work, position]
  split
  · have one : recorder.created ++ [recorder.passed] = [recorder.passed] := by
      rw [first, List.nil_append]
    exact ⟨fun _ => rfl, fun _ => rfl, fun _ => ⟨one, rfl, ended⟩, fun _ => one⟩
  · exact filed_of_ending first rfl busy
  · exact filed_of_ending first rfl busy

theorem Recorder.Filed.work (filed : recorder.Filed)
    (coherent : recorder.control.Coherent) (outcome : Option RecorderError) (leftover : Bool) :
    (recorder.work outcome leftover).Filed := by
  have busy : recorder.worker.over = false → recorder.status.state ≠ .finished := by
    intro busy done
    have ended : recorder.worker.over = true := (coherent.finished done).1
    rw [busy] at ended
    cases ended
  have up : recorder.worker.raised = true → recorder.cancelled = true :=
    fun raised => coherent.raised (Or.inr raised)
  have unpublished := filed.unpublished
  have removed := filed.removed
  have absent : recorder.worker.looping = true → recorder.sink = false →
      recorder.temporary = false :=
    fun looping closed => filed.absent (Or.inl ⟨closed, Or.inl looping⟩)
  cases position : recorder.worker with
  | receiving =>
    rw [position] at busy unpublished absent
    simp only [Recorder.work, position]
    split
    · exact filed_of_looping (unpublished rfl) (absent rfl) rfl (busy rfl)
    · split
      · exact filed
      · refine filed_of_unpublished (unpublished rfl)
          (fun unopened => absent rfl (unopened.closed ?_)) ?_ ?_ (busy rfl) <;> rintro ⟨⟩
  | checking frame =>
    rw [position] at busy unpublished absent
    simp only [Recorder.work, position]
    split
    · exact filed_of_leaving (unpublished rfl) rfl ‹_› (busy rfl)
    · split
      · exact filed_of_looping (unpublished rfl) (absent rfl) rfl (busy rfl)
      · exact filed_of_looping (unpublished rfl) (absent rfl) rfl (busy rfl)
  | opening frame =>
    rw [position] at busy unpublished
    simp only [Recorder.work, position]
    split
    · exact filed_of_looping (unpublished rfl) (by rintro ⟨⟩) rfl (busy rfl)
    · exact filed_of_ending (unpublished rfl) rfl (busy rfl)
  | starting frame =>
    rw [position] at unpublished absent
    simp only [Recorder.work, position]
    exact filed_of_looping (unpublished rfl) (absent rfl) rfl (by rintro ⟨⟩)
  | writing frame =>
    rw [position] at busy unpublished absent
    simp only [Recorder.work, position]
    split
    · exact filed_of_looping (unpublished rfl) (absent rfl) rfl (busy rfl)
    · exact filed_of_ending (unpublished rfl) rfl (busy rfl)
  | counting =>
    rw [position] at busy unpublished absent
    simp only [Recorder.work, position]
    exact filed_of_looping (unpublished rfl) (absent rfl) rfl (busy rfl)
  | failing phase error closing =>
    rw [position] at busy unpublished up
    cases phase with
    | cancelling | recording =>
      simp only [Recorder.work, position]
      exact filed_of_ending (unpublished rfl) rfl (busy rfl)
    | reporting =>
      simp only [Recorder.work, position]
      cases closing with
      | false => exact filed_of_leaving (unpublished rfl) rfl (up rfl) (by rintro ⟨⟩)
      | true => exact filed_of_ending (unpublished rfl) rfl (by rintro ⟨⟩)
  | leaving =>
    have empty : recorder.cancelled = false → recorder.sink = false →
        recorder.temporary = false :=
      fun down closed => filed.absent (Or.inl ⟨closed, Or.inr ⟨position, down⟩⟩)
    rw [position] at busy unpublished
    simp only [Recorder.work, position]
    split
    · exact filed_of_ending (unpublished rfl) rfl (busy rfl)
    · rename_i lowered
      split
      · exact filed_of_ending (unpublished rfl) rfl (busy rfl)
      · rename_i closed
        have gone := empty (Bool.not_eq_true _ ▸ lowered) (Bool.not_eq_true _ ▸ closed)
        refine filed_of_unpublished (unpublished rfl) (fun _ => gone) ?_ ?_ (busy rfl) <;> rintro ⟨⟩
  | cancelling =>
    have empty := filed.absent (Or.inr position)
    rw [position] at unpublished
    simp only [Recorder.work, position]
    refine filed_of_unpublished (unpublished rfl) (fun _ => empty) (fun _ => empty) ?_ ?_ <;>
      rintro ⟨⟩
  | finalizing =>
    rw [position] at unpublished
    simp only [Recorder.work, position]
    exact filed_of_ending (unpublished rfl) rfl (by rintro ⟨⟩)
  | finishing =>
    rw [position] at busy unpublished
    simp only [Recorder.work, position]
    split <;> exact filed_of_ending (unpublished rfl) rfl (busy rfl)
  | publishing => exact filed.publishes coherent position outcome leftover
  | finished =>
    have ended : recorder.cancelled = false ∧ recorder.sender = false :=
      coherent.closing (congrArg WorkerAt.closing position)
    have one := filed.published (Or.inl position)
    rw [position] at removed
    have gone := removed rfl
    simp only [Recorder.work, position]
    exact ⟨fun _ => gone, fun _ => gone, fun _ => ⟨one, rfl, ended⟩, fun _ => one⟩
  | cleaning =>
    rw [position] at busy unpublished
    simp only [Recorder.work, position]
    refine filed_of_unpublished (unpublished rfl) (fun _ => rfl) (fun _ => rfl) ?_
      (busy rfl)
    rintro ⟨⟩
  | returning =>
    have published := filed.published
    have created := filed.created
    rw [position] at removed created published
    have gone := removed rfl
    simp only [Recorder.work, position]
    refine ⟨fun _ => gone, fun _ => gone, fun some => ⟨(created some).1, rfl, (created some).2.2⟩,
      fun either => published (Or.inr (either.resolve_left ?_))⟩
    rintro ⟨⟩
  | ended =>
    simp only [Recorder.work, position]
    exact filed

/-- The owner leaves the files alone, and drops or raises nothing after a publication. -/
theorem Recorder.Filed.call (filed : recorder.Filed)
    (coherent : recorder.control.Coherent) : recorder.call.2.Filed := by
  have keeps : ∀ after : Recorder, after.sink = recorder.sink → after.worker = recorder.worker →
      after.temporary = recorder.temporary → after.created = recorder.created →
      after.passed = recorder.passed →
      (after.cancelled = false → recorder.cancelled = false) →
      (after.status.state = .finished → recorder.status.state = .finished) →
      (recorder.created ≠ [] → after.cancelled = recorder.cancelled ∧
        (recorder.sender = false → after.sender = false)) → after.Filed := by
    intro after sink worker temporary created passed lowered done published
    constructor
    · intro unopened
      rw [Recorder.Unopened, sink, worker] at unopened
      rw [temporary]
      refine filed.absent (unopened.imp_left fun empty => ⟨empty.1, ?_⟩)
      exact empty.2.imp_right fun leaving => ⟨leaving.1, lowered leaving.2⟩
    · rw [worker, temporary]
      exact filed.removed
    · intro some
      rw [created] at some ⊢
      obtain ⟨one, settled, down, dropped⟩ := filed.created some
      obtain ⟨same, kept⟩ := published some
      rw [passed, worker, same]
      exact ⟨one, settled, down, kept dropped⟩
    · intro either
      rw [worker] at either
      rw [created, passed]
      exact filed.published (either.imp_right done)
  have same : recorder.created ≠ [] → recorder.cancelled = recorder.cancelled ∧
      (recorder.sender = false → recorder.sender = false) := fun _ => ⟨rfl, id⟩
  have calls : ∀ {after}, Called recorder after → after.Filed := by
    intro after called
    cases called with
    | rests => exact filed
    | moves | sends | overflows | counts | errs =>
      exact keeps _ rfl rfl rfl rfl rfl id id same
    | raises next reporting busy =>
      refine keeps _ rfl rfl rfl rfl rfl (by rintro ⟨⟩) id fun some => ?_
      obtain ⟨-, -, down, dropped⟩ := filed.created some
      exact absurd (coherent.stops down dropped) (Bool.eq_false_iff.mp busy)
    | fails error position =>
      refine keeps _ rfl rfl rfl rfl rfl id ?_ same
      rintro ⟨⟩
    | releases next => exact keeps _ rfl rfl rfl rfl rfl id id fun _ => ⟨rfl, fun _ => rfl⟩
  exact calls (called recorder)

end LatentDeck.Output
