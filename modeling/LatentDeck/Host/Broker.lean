import LatentDeck.Library.Run
import LatentDeck.Library.SortedMap
import Mathlib.Data.String.Basic

/-!
# The broker of warm sessions

Which sessions are warm, which of them owns the foreground output, and whether a capture or an MP4
has pinned that output. Identifiers are their texts, and a package is its identifier and version. A
call that is refused returns before its first write.
-/

namespace LatentDeck.Broker

open Fallible Run

def maxWarmSessions : Nat := 4

structure WarmSession where
  sessionId : String
  workerId : String
  deck : String × String
  codec : String × String

structure ForegroundLease where
  sessionId : String
  generation : UInt64

inductive OutputPinKind where
  | capture
  | mp4
  deriving DecidableEq

structure OutputPinToken where
  sessionId : String
  leaseGeneration : UInt64
  pinGeneration : UInt64
  kind : OutputPinKind
  deriving DecidableEq

inductive BrokerError where
  | sessionCapacityExceeded
  | sessionAlreadyExists
  | workerAlreadyAssigned
  | sessionNotFound
  | workerNotFound
  | sessionOutputLeasePinned
  | sessionDoesNotOwnForeground
  | outputPinMismatch
  | leaseGenerationExhausted
  | pinGenerationExhausted

inductive Call where
  | openSession (session : WarmSession)
  | replaceWorker (sessionId workerId : String)
  | closeSession (sessionId : String)
  | handleWorkerFault (workerId : String)
  | switchForeground (sessionId : String)
  | clearForeground
  | pinForeground (sessionId : String) (kind : OutputPinKind)
  | releaseOutputPin (token : OutputPinToken)

inductive Answer where
  | done
  | session (session : WarmSession)
  | lease (lease : ForegroundLease)
  | cleared (lease : Option ForegroundLease)
  | pin (token : OutputPinToken)

structure SessionBroker where
  sessions : SortedMap String WarmSession
  foregroundOutput : Option ForegroundLease
  outputPin : Option OutputPinToken
  nextLeaseGeneration : UInt64
  nextPinGeneration : UInt64

/-- `checked_add(1)`. -/
def checkedSucc (generation : UInt64) : Option UInt64 :=
  if generation.toNat + 1 < 2 ^ 64 then some (generation + 1) else none

namespace SessionBroker

def new : SessionBroker := ⟨.empty, none, none, 0, 0⟩

/-- Whether a session has a worker. -/
def assigned (broker : SessionBroker) (workerId : String) : Bool :=
  broker.sessions.values.any fun session => session.workerId = workerId

variable (broker : SessionBroker)

def openSession (session : WarmSession) : Except BrokerError SessionBroker := do
  refuseWhen ((broker.sessions.lookup session.sessionId).isSome) .sessionAlreadyExists
  refuseWhen (broker.assigned session.workerId) .workerAlreadyAssigned
  refuseWhen (broker.sessions.length = maxWarmSessions) .sessionCapacityExceeded
  return { broker with sessions := broker.sessions.insert session.sessionId session }

def replaceWorker (sessionId workerId : String) :
    Except BrokerError (WarmSession × SessionBroker) := do
  let session ← orError (broker.sessions.lookup sessionId) .sessionNotFound
  refuseWhen (broker.assigned workerId) .workerAlreadyAssigned
  let session := { session with workerId }
  return (session, { broker with sessions := broker.sessions.insert sessionId session })

def closeSession (sessionId : String) :
    Except BrokerError (WarmSession × SessionBroker) := do
  let removed ← orError (broker.sessions.lookup sessionId) .sessionNotFound
  refuseWhen (broker.outputPin.any fun pin => pin.sessionId = sessionId) .sessionOutputLeasePinned
  return (removed, { broker with
    sessions := broker.sessions.erase sessionId
    foregroundOutput := broker.foregroundOutput.filter fun lease => lease.sessionId ≠ sessionId })

def handleWorkerFault (workerId : String) :
    Except BrokerError (WarmSession × SessionBroker) := do
  let found ← orError (broker.sessions.values.find? fun session => session.workerId = workerId)
    .workerNotFound
  let removed ← orError (broker.sessions.lookup found.sessionId) .sessionNotFound
  let owns := broker.foregroundOutput.any fun lease => lease.sessionId = found.sessionId
  return (removed, { broker with
    sessions := broker.sessions.erase found.sessionId
    foregroundOutput := if owns then none else broker.foregroundOutput
    outputPin := if owns then none else broker.outputPin })

def switchForeground (sessionId : String) :
    Except BrokerError (ForegroundLease × SessionBroker) := do
  refuseWhen ((broker.sessions.lookup sessionId).isNone) .sessionNotFound
  match broker.foregroundOutput.filter fun lease => lease.sessionId = sessionId with
  | some current => return (current, broker)
  | none =>
      refuseWhen broker.outputPin.isSome .sessionOutputLeasePinned
      let generation ← orError (checkedSucc broker.nextLeaseGeneration) .leaseGenerationExhausted
      let lease := ⟨sessionId, generation⟩
      return (lease, { broker with
        nextLeaseGeneration := generation, foregroundOutput := some lease })

def clearForeground :
    Except BrokerError (Option ForegroundLease × SessionBroker) := do
  refuseWhen broker.outputPin.isSome .sessionOutputLeasePinned
  return (broker.foregroundOutput, { broker with foregroundOutput := none })

def pinForeground (sessionId : String) (kind : OutputPinKind) :
    Except BrokerError (OutputPinToken × SessionBroker) := do
  let lease ← orError (broker.foregroundOutput.filter fun lease => lease.sessionId = sessionId)
    .sessionDoesNotOwnForeground
  refuseWhen broker.outputPin.isSome .sessionOutputLeasePinned
  let generation ← orError (checkedSucc broker.nextPinGeneration) .pinGenerationExhausted
  let token := ⟨sessionId, lease.generation, generation, kind⟩
  return (token, { broker with nextPinGeneration := generation, outputPin := some token })

def releaseOutputPin (token : OutputPinToken) :
    Except BrokerError SessionBroker := do
  refuseWhen (broker.outputPin ≠ some token) .outputPinMismatch
  return { broker with outputPin := none }

/-- What a call returned, with the broker after it. -/
def settle {α : Type} (answer : α → Answer) (result : Except BrokerError (α × SessionBroker)) :
    Except BrokerError Answer × SessionBroker :=
  match result with
  | .ok (value, after) => (.ok (answer value), after)
  | .error error => (.error error, broker)

def perform : Call → Except BrokerError Answer × SessionBroker
  | .openSession session =>
      broker.settle (fun _ => .done) ((broker.openSession session).map (((), ·)))
  | .replaceWorker sessionId workerId =>
      broker.settle .session (broker.replaceWorker sessionId workerId)
  | .closeSession sessionId => broker.settle .session (broker.closeSession sessionId)
  | .handleWorkerFault workerId => broker.settle .session (broker.handleWorkerFault workerId)
  | .switchForeground sessionId => broker.settle .lease (broker.switchForeground sessionId)
  | .clearForeground => broker.settle .cleared broker.clearForeground
  | .pinForeground sessionId kind => broker.settle .pin (broker.pinForeground sessionId kind)
  | .releaseOutputPin token =>
      broker.settle (fun _ => .done) ((broker.releaseOutputPin token).map (((), ·)))

end SessionBroker

/-- Sessions stand under their identifiers, and no two of them have one worker. -/
structure SessionsSound (sessions : SortedMap String WarmSession) : Prop where
  named : ∀ entry ∈ sessions.entries, entry.2.sessionId = entry.1
  workers : (sessions.entries.map (·.2.workerId)).Nodup

section Sessions

variable {sessions : SortedMap String WarmSession} {id : String}

theorem SessionsSound.erase (sound : SessionsSound sessions) :
    SessionsSound (sessions.erase id) where
  named entry member := sound.named entry ((SortedMap.mem_erase ..).mp member).1
  workers := sound.workers.sublist (List.filter_sublist.map _)

theorem length_erase_le : (sessions.erase id).length ≤ sessions.length := List.length_filter_le ..

/-- A session with a worker of its own takes the place of its identifier. -/
theorem SessionsSound.insert (sound : SessionsSound sessions) {session : WarmSession}
    (named : session.sessionId = id)
    (unassigned : (sessions.values.any fun other => other.workerId = session.workerId) = false) :
    SessionsSound (sessions.insert id session) ∧
      (sessions.insert id session).length = (sessions.erase id).length + 1 := by
  have entries := sessions.insert_perm id session
  refine ⟨⟨fun entry member => ?_, ?_⟩, entries.length_eq⟩
  · rcases (SortedMap.mem_insert ..).mp member with rfl | ⟨inside, _⟩
    · exact named
    · exact sound.named entry inside
  · rw [(entries.map _).nodup_iff, List.map_cons, List.nodup_cons]
    refine ⟨fun shared => ?_, sound.erase.workers⟩
    obtain ⟨other, member, same⟩ := List.mem_map.mp shared
    refine List.any_eq_false.mp unassigned other.2 ?_ (decide_eq_true same)
    exact List.mem_map_of_mem ((SortedMap.mem_erase ..).mp member).1

theorem length_erase_of_some {session : WarmSession} (found : sessions.lookup id = some session) :
    (sessions.erase id).length + 1 = sessions.length :=
  (sessions.perm_erase found).length_eq.symm

end Sessions

/-- The foreground belongs to a warm session, and a pin to the foreground. -/
structure SessionBroker.Coherent (broker : SessionBroker) : Prop where
  sound : SessionsSound broker.sessions
  capacity : broker.sessions.length ≤ maxWarmSessions
  leased : ∀ lease, broker.foregroundOutput = some lease →
    (broker.sessions.lookup lease.sessionId).isSome ∧
      lease.generation ≤ broker.nextLeaseGeneration
  pinned : ∀ pin, broker.outputPin = some pin → pin.pinGeneration ≤ broker.nextPinGeneration ∧
    ∃ lease, broker.foregroundOutput = some lease ∧ lease.sessionId = pin.sessionId ∧
      lease.generation = pin.leaseGeneration

/-- What is held after some calls was held before them or is newer. -/
structure CountsOn (before after : SessionBroker) : Prop where
  leases : before.nextLeaseGeneration ≤ after.nextLeaseGeneration
  lease : ∀ lease, after.foregroundOutput = some lease →
    before.foregroundOutput = some lease ∨ before.nextLeaseGeneration < lease.generation
  pins : before.nextPinGeneration ≤ after.nextPinGeneration
  pin : ∀ pin, after.outputPin = some pin →
    before.outputPin = some pin ∨ before.nextPinGeneration < pin.pinGeneration

theorem CountsOn.quiet {before after : SessionBroker}
    (leases : after.nextLeaseGeneration = before.nextLeaseGeneration)
    (pins : after.nextPinGeneration = before.nextPinGeneration)
    (lease : ∀ lease, after.foregroundOutput = some lease → before.foregroundOutput = some lease)
    (pin : ∀ pin, after.outputPin = some pin → before.outputPin = some pin) :
    CountsOn before after :=
  ⟨by rw [leases]; exact UInt64.le_refl _, fun held same => Or.inl (lease held same),
    by rw [pins]; exact UInt64.le_refl _, fun held same => Or.inl (pin held same)⟩

theorem CountsOn.refl (broker : SessionBroker) : CountsOn broker broker :=
  .quiet rfl rfl (fun _ => id) fun _ => id

theorem CountsOn.trans {first second third : SessionBroker} (earlier : CountsOn first second)
    (later : CountsOn second third) : CountsOn first third where
  leases := UInt64.le_trans earlier.leases later.leases
  pins := UInt64.le_trans earlier.pins later.pins
  lease lease held := by
    rcases later.lease lease held with same | newer
    · exact earlier.lease lease same
    · exact Or.inr (UInt64.lt_of_le_of_lt earlier.leases newer)
  pin pin held := by
    rcases later.pin pin held with same | newer
    · exact earlier.pin pin same
    · exact Or.inr (UInt64.lt_of_le_of_lt earlier.pins newer)

theorem checkedSucc_eq_some {generation next : UInt64}
    (there : checkedSucc generation = some next) : generation < next := by
  unfold checkedSucc at there
  split at there
  · cases there
    rw [UInt64.lt_iff_toNat_lt, UInt64.toNat_add, UInt64.toNat_one]
    omega
  · cases there

/-- The calls that end a pin: its release, and a fault of its worker. -/
def Call.Unpins (broker : SessionBroker) (pin : OutputPinToken) : Call → Prop
  | .releaseOutputPin token => token = pin
  | .handleWorkerFault workerId =>
      ∃ session, broker.sessions.lookup pin.sessionId = some session ∧ session.workerId = workerId
  | _ => False

/-- What an answer says of its call and of the broker before and after. -/
def Told (before after : SessionBroker) (call : Call) : Except BrokerError Answer → Prop
  | .error error => after = before ∧ ∀ token, call = .releaseOutputPin token →
      before.outputPin ≠ some token ∧ error = .outputPinMismatch
  | .ok .done => ∀ token, call = .releaseOutputPin token →
      before.outputPin = some token ∧ after.outputPin = none
  | .ok (.lease lease) =>
      call = .switchForeground lease.sessionId ∧ after.foregroundOutput = some lease
  | .ok (.pin pin) => call = .pinForeground pin.sessionId pin.kind ∧
      before.outputPin = none ∧ after.outputPin = some pin
  | .ok _ => ∀ token, call ≠ .releaseOutputPin token

structure Lawful (step : Step SessionBroker Call (Except BrokerError Answer)) : Prop where
  coherent : step.after.Coherent
  counts : CountsOn step.before step.after
  guarded : ∀ pin, step.before.outputPin = some pin → ¬ step.input.Unpins step.before pin →
    step.after.outputPin = some pin ∧ step.after.foregroundOutput = step.before.foregroundOutput
  told : Told step.before step.after step.input step.output

section Calls

variable {broker : SessionBroker} (coherent : broker.Coherent)
include coherent

theorem lawful_settle {α : Type} {call : Call} {answer : α → Answer}
    {result : Except BrokerError (α × SessionBroker)}
    (refused : ∀ error, result = .error error → Told broker broker call (.error error))
    (made : ∀ value after, result = .ok (value, after) →
      Lawful ⟨broker, call, .ok (answer value), after⟩) :
    Lawful ⟨broker, call, (broker.settle answer result).1, (broker.settle answer result).2⟩ := by
  cases result with
  | ok pair => exact made _ _ rfl
  | error error =>
    exact ⟨coherent, .refl _, fun _ held _ => ⟨held, rfl⟩, refused error rfl⟩

/-- A session that ends takes its foreground along, but no pin of another session. -/
theorem Coherent.without {id : String} {lease : Option ForegroundLease}
    {pin : Option OutputPinToken}
    (leased : ∀ held, lease = some held →
      broker.foregroundOutput = some held ∧ held.sessionId ≠ id)
    (pinned : ∀ held, pin = some held →
      broker.outputPin = some held ∧ lease = broker.foregroundOutput) :
    ({ broker with
      sessions := broker.sessions.erase id, foregroundOutput := lease, outputPin := pin } :
        SessionBroker).Coherent where
  sound := coherent.sound.erase
  capacity := length_erase_le.trans coherent.capacity
  leased held same := by
    have before := leased held same
    rw [SortedMap.lookup_erase_of_ne _ _ _ before.2]
    exact coherent.leased held before.1
  pinned held same := by
    have before := pinned held same
    rw [before.2]
    exact coherent.pinned held before.1

theorem closeSession_lawful (id : String) :
    Lawful (stepOf SessionBroker.perform broker (.closeSession id)) := by
  refine lawful_settle coherent (fun _ _ => ⟨rfl, by rintro _ ⟨⟩⟩) fun removed after made => ?_
  simp only [SessionBroker.closeSession, ↓check_eq_ok, bind_eq_ok, orError_eq_ok,
    refuseWhen_eq_ok] at made
  obtain ⟨session, found, unpinned, same⟩ := made
  cases same
  have kept (pin : OutputPinToken) (held : broker.outputPin = some pin) :
      broker.foregroundOutput.filter (fun lease => lease.sessionId ≠ id) =
        broker.foregroundOutput := by
    obtain ⟨lease, leased, owner, -⟩ := (coherent.pinned pin held).2
    rw [leased, Option.filter_some, if_pos]
    rw [owner]
    rw [held] at unpinned
    simpa using unpinned
  refine ⟨Coherent.without coherent (fun lease same => ?_) fun pin same => ⟨same, kept pin same⟩,
    .quiet rfl rfl (fun lease same => (Option.filter_eq_some_iff.mp same).1) fun _ same => same,
    fun pin same _ => ⟨same, kept pin same⟩, by rintro _ ⟨⟩⟩
  have held := Option.filter_eq_some_iff.mp same
  exact ⟨held.1, of_decide_eq_true held.2⟩

theorem handleWorkerFault_lawful (workerId : String) :
    Lawful (stepOf SessionBroker.perform broker (.handleWorkerFault workerId)) := by
  refine lawful_settle coherent (fun _ _ => ⟨rfl, by rintro _ ⟨⟩⟩) fun removed after made => ?_
  simp only [SessionBroker.handleWorkerFault, bind_eq_ok, orError_eq_ok] at made
  obtain ⟨found, worker, session, there, same⟩ := made
  cases same
  have owner : found.workerId = workerId := by simpa using List.find?_some worker
  have named : broker.sessions.lookup found.sessionId = some found := by
    obtain ⟨entry, member, rfl⟩ := List.mem_map.mp (List.mem_of_find?_eq_some worker)
    rw [SortedMap.lookup_eq_some, coherent.sound.named entry member]
    exact member
  by_cases owns :
      (broker.foregroundOutput.any fun lease => lease.sessionId = found.sessionId) = true
  · simp only [owns, if_true]
    refine ⟨@Coherent.without broker coherent _ none none (by rintro _ ⟨⟩) (by rintro _ ⟨⟩),
      .quiet rfl rfl (by rintro _ ⟨⟩) (by rintro _ ⟨⟩), fun pin held spared => absurd ?_ spared,
      by rintro _ ⟨⟩⟩
    obtain ⟨lease, leased, session, -⟩ := (coherent.pinned pin held).2
    rw [leased, Option.any_some] at owns
    refine ⟨found, ?_, owner⟩
    rw [← session, of_decide_eq_true owns]
    exact named
  · rw [if_neg owns, if_neg owns]
    refine ⟨Coherent.without coherent (fun lease held => ⟨held, fun same => owns ?_⟩)
      fun pin held => ⟨held, rfl⟩, .quiet rfl rfl (fun _ => id) fun _ => id,
      fun _ held _ => ⟨held, rfl⟩, by rintro _ ⟨⟩⟩
    rw [held, Option.any_some, same]
    exact decide_eq_true rfl

theorem Coherent.with_session {id : String} {session : WarmSession}
    (named : session.sessionId = id) (unassigned : broker.assigned session.workerId = false)
    (room : (broker.sessions.erase id).length + 1 ≤ maxWarmSessions) :
    ({ broker with sessions := broker.sessions.insert id session } : SessionBroker).Coherent where
  sound := (coherent.sound.insert named unassigned).1
  capacity := (coherent.sound.insert named unassigned).2.trans_le room
  leased lease held := by
    have before := coherent.leased lease held
    refine ⟨?_, before.2⟩
    rw [SortedMap.lookup_insert]
    by_cases same : lease.sessionId = id
    · rw [if_pos same]
      rfl
    · rw [if_neg same]
      exact before.1
  pinned := coherent.pinned

theorem openSession_lawful (session : WarmSession) :
    Lawful (stepOf SessionBroker.perform broker (.openSession session)) := by
  refine lawful_settle coherent (fun _ _ => ⟨rfl, by rintro _ ⟨⟩⟩) fun _ after made => ?_
  cases opened : broker.openSession session with
  | error error =>
    rw [opened] at made
    cases made
  | ok fresh =>
    rw [opened] at made
    cases made
    simp only [SessionBroker.openSession, ↓check_eq_ok, refuseWhen_eq_ok, Bool.not_eq_true,
      Option.isSome_eq_false_iff, Option.isNone_iff_eq_none] at opened
    obtain ⟨free, unassigned, room, same⟩ := opened
    cases same
    refine ⟨Coherent.with_session coherent rfl unassigned ?_,
      .quiet rfl rfl (fun _ => id) fun _ => id, fun _ held _ => ⟨held, rfl⟩, by rintro _ ⟨⟩⟩
    rw [SortedMap.erase_of_absent _ free]
    have capacity := coherent.capacity
    omega

theorem replaceWorker_lawful (id workerId : String) :
    Lawful (stepOf SessionBroker.perform broker (.replaceWorker id workerId)) := by
  refine lawful_settle coherent (fun _ _ => ⟨rfl, by rintro _ ⟨⟩⟩) fun changed after made => ?_
  simp only [SessionBroker.replaceWorker, ↓check_eq_ok, bind_eq_ok, orError_eq_ok,
    refuseWhen_eq_ok, Bool.not_eq_true] at made
  obtain ⟨session, found, unassigned, same⟩ := made
  cases same
  have named := coherent.sound.named (id, session) ((SortedMap.lookup_eq_some ..).mp found)
  refine ⟨Coherent.with_session coherent (by exact named) unassigned ?_,
    .quiet rfl rfl (fun _ same => same) fun _ same => same, fun _ held _ => ⟨held, rfl⟩,
    by rintro _ ⟨⟩⟩
  rw [length_erase_of_some found]
  exact coherent.capacity

theorem switchForeground_lawful (id : String) :
    Lawful (stepOf SessionBroker.perform broker (.switchForeground id)) := by
  refine lawful_settle coherent (fun _ _ => ⟨rfl, by rintro _ ⟨⟩⟩) fun lease after made => ?_
  simp only [SessionBroker.switchForeground, ↓check_eq_ok, refuseWhen_eq_ok,
    Option.isNone_iff_eq_none] at made
  obtain ⟨warm, made⟩ := made
  cases current : broker.foregroundOutput.filter fun lease => lease.sessionId = id with
  | some held =>
    rw [current] at made
    cases made
    have owned := Option.filter_eq_some_iff.mp current
    refine ⟨coherent, .refl _, fun _ held _ => ⟨held, rfl⟩, ?_, owned.1⟩
    rw [of_decide_eq_true owned.2]
  | none =>
    rw [current] at made
    simp only [↓check_eq_ok, refuseWhen_eq_ok, bind_eq_ok, orError_eq_ok, Bool.not_eq_true,
      Option.isSome_eq_false_iff, Option.isNone_iff_eq_none] at made
    obtain ⟨free, generation, next, same⟩ := made
    cases same
    have newer := checkedSucc_eq_some next
    refine ⟨⟨coherent.sound, coherent.capacity, ?_, ?_⟩,
      ⟨UInt64.le_of_lt newer, ?_, UInt64.le_refl _, fun _ => Or.inl⟩, ?_, rfl, rfl⟩
    · rintro _ ⟨⟩
      exact ⟨Option.isSome_iff_ne_none.mpr warm, UInt64.le_refl _⟩
    · intro pin held
      cases free.symm.trans held
    · rintro _ ⟨⟩
      exact Or.inr newer
    · intro pin held
      cases free.symm.trans held

theorem clearForeground_lawful : Lawful (stepOf SessionBroker.perform broker .clearForeground) := by
  refine lawful_settle coherent (fun _ _ => ⟨rfl, by rintro _ ⟨⟩⟩) fun lease after made => ?_
  simp only [SessionBroker.clearForeground, ↓check_eq_ok, refuseWhen_eq_ok, Bool.not_eq_true,
    Option.isSome_eq_false_iff, Option.isNone_iff_eq_none] at made
  obtain ⟨free, same⟩ := made
  cases same
  refine ⟨⟨coherent.sound, coherent.capacity, by rintro _ ⟨⟩, ?_⟩,
    .quiet rfl rfl (by rintro _ ⟨⟩) fun _ same => same, ?_, by rintro _ ⟨⟩⟩
  · intro pin held
    cases free.symm.trans held
  · intro pin held
    cases free.symm.trans held

theorem pinForeground_lawful (id : String) (kind : OutputPinKind) :
    Lawful (stepOf SessionBroker.perform broker (.pinForeground id kind)) := by
  refine lawful_settle coherent (fun _ _ => ⟨rfl, by rintro _ ⟨⟩⟩) fun token after made => ?_
  simp only [SessionBroker.pinForeground, ↓check_eq_ok, bind_eq_ok, orError_eq_ok,
    refuseWhen_eq_ok, Bool.not_eq_true, Option.isSome_eq_false_iff,
    Option.isNone_iff_eq_none] at made
  obtain ⟨lease, owner, free, generation, next, same⟩ := made
  cases same
  have newer := checkedSucc_eq_some next
  have owned := Option.filter_eq_some_iff.mp owner
  refine ⟨⟨coherent.sound, coherent.capacity, coherent.leased, ?_⟩,
    ⟨UInt64.le_refl _, fun _ => Or.inl, UInt64.le_of_lt newer, ?_⟩, ?_, rfl, free, rfl⟩
  · rintro _ ⟨⟩
    exact ⟨UInt64.le_refl _, lease, owned.1, of_decide_eq_true owned.2, rfl⟩
  · rintro _ ⟨⟩
    exact Or.inr newer
  · intro pin held
    cases free.symm.trans held

theorem releaseOutputPin_lawful (token : OutputPinToken) :
    Lawful (stepOf SessionBroker.perform broker (.releaseOutputPin token)) := by
  unfold stepOf
  dsimp only [SessionBroker.perform, SessionBroker.releaseOutputPin, refuseWhen]
  by_cases held : broker.outputPin = some token
  · rw [if_neg (not_not.mpr held)]
    refine ⟨⟨coherent.sound, coherent.capacity, coherent.leased, by rintro _ ⟨⟩⟩,
      .quiet rfl rfl (fun _ => id) (by rintro _ ⟨⟩), fun pin same spared => ?_, ?_⟩
    swap
    · rintro _ ⟨⟩
      exact ⟨held, rfl⟩
    exact absurd (Option.some.inj (held.symm.trans same)) spared
  · rw [if_pos held]
    refine ⟨coherent, .refl _, fun _ held _ => ⟨held, rfl⟩, rfl, ?_⟩
    rintro _ ⟨⟩
    exact ⟨held, rfl⟩

theorem perform_lawful (call : Call) : Lawful (stepOf SessionBroker.perform broker call) := by
  cases call with
  | openSession session => exact openSession_lawful coherent session
  | replaceWorker id workerId => exact replaceWorker_lawful coherent id workerId
  | closeSession id => exact closeSession_lawful coherent id
  | handleWorkerFault workerId => exact handleWorkerFault_lawful coherent workerId
  | switchForeground id => exact switchForeground_lawful coherent id
  | clearForeground => exact clearForeground_lawful coherent
  | pinForeground id kind => exact pinForeground_lawful coherent id kind
  | releaseOutputPin token => exact releaseOutputPin_lawful coherent token

end Calls

/-- Two calls of a run: a lease is answered again or a later one has a higher generation, pins are
numbered upwards, and a pin that was released is never accepted again. -/
structure InOrder (earlier later : Step SessionBroker Call (Except BrokerError Answer)) : Prop where
  leases : ∀ first second, earlier.output = .ok (.lease first) →
    later.output = .ok (.lease second) → first = second ∨ first.generation < second.generation
  pins : ∀ first second, earlier.output = .ok (.pin first) → later.output = .ok (.pin second) →
    first.pinGeneration < second.pinGeneration
  released : ∀ token answer, earlier.input = .releaseOutputPin token → earlier.output = .ok answer →
    later.input = .releaseOutputPin token → later.output = .error .outputPinMismatch

theorem coherent_new : SessionBroker.new.Coherent :=
  ⟨⟨by rintro _ ⟨⟩, List.nodup_nil⟩, Nat.zero_le _, by rintro _ ⟨⟩, by rintro _ ⟨⟩⟩

theorem released_of_told {before after : SessionBroker} {token : OutputPinToken} {answer : Answer}
    (told : Told before after (.releaseOutputPin token) (.ok answer)) :
    before.outputPin = some token ∧ after.outputPin = none := by
  cases answer with
  | done => exact told token rfl
  | lease lease => cases told.1
  | pin pin => cases told.1
  | session session => exact absurd rfl (told token)
  | cleared lease => exact absurd rfl (told token)

/-- Every run of a broker is lawful, and its leases and pins are issued in order. -/
theorem runs_lawful (calls : List Call) :
    (∀ step ∈ steps SessionBroker.perform .new calls, Lawful step) ∧
      (steps SessionBroker.perform .new calls).Pairwise InOrder := by
  have preserved (broker : SessionBroker) (call : Call) (coherent : broker.Coherent) :
      (broker.perform call).2.Coherent := (perform_lawful coherent call).coherent
  have lawful := forall_steps _ Lawful preserved
    (fun _ call coherent => perform_lawful coherent call) calls _ coherent_new
  have around := (invariant_always _ preserved calls _ coherent_new).2
  have apart := pairwise_steps preserved CountsOn .refl .trans
    (fun _ call coherent => (perform_lawful coherent call).counts) calls _ coherent_new
  refine ⟨lawful, apart.imp_of_mem fun {earlier later} first second between => ?_⟩
  have sooner := lawful earlier first
  have afterwards := lawful later second
  refine ⟨fun one two answered answers => ?_, fun one two answered answers => ?_,
    fun token answer asked answered asks => ?_⟩
  · have told := sooner.told
    have tells := afterwards.told
    rw [answered] at told
    rw [answers] at tells
    rcases (between.trans afterwards.counts).lease two tells.2 with same | newer
    · exact Or.inl (Option.some.inj (told.2.symm.trans same))
    · exact Or.inr (UInt64.lt_of_le_of_lt (sooner.coherent.leased one told.2).2 newer)
  · have told := sooner.told
    have tells := afterwards.told
    rw [answered] at told
    rw [answers] at tells
    rcases afterwards.counts.pin two tells.2.2 with same | newer
    · cases tells.2.1.symm.trans same
    · have issued := (sooner.coherent.pinned one told.2.2).1
      exact UInt64.lt_of_le_of_lt (UInt64.le_trans issued between.pins) newer
  · have told := sooner.told
    rw [asked, answered] at told
    have released := released_of_told told
    have issued := ((around earlier first).1.pinned token released.1).1
    have tells := afterwards.told
    rw [asks] at tells
    cases answers : later.output with
    | error error =>
      rw [answers] at tells
      rw [(tells.2 token rfl).2]
    | ok again =>
      rw [answers] at tells
      rcases between.pin token (released_of_told tells).1 with held | newer
      · cases released.2.symm.trans held
      · exact absurd (UInt64.lt_of_le_of_lt (UInt64.le_trans issued sooner.counts.pins) newer)
          (UInt64.lt_irrefl _)

end LatentDeck.Broker
