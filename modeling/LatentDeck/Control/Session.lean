import LatentDeck.Control.Messages
import Mathlib.Data.Finset.Card

/-!
# Session validation

`SessionValidator` over arbitrary calls. The validator is a pair of counters, two sets of
identifiers, a map of sent commands and a flag; a call returns its result together with the
validator it leaves behind. A session is a validator with the envelopes it has accepted, and the
invariant relates the two.
-/

namespace LatentDeck.Control

open Fallible

inductive InboundPolicy where
  /-- `CommandsOnly` — the worker side. -/
  | commandsOnly
  /-- `ResponsesAndEvents` — the host side. -/
  | responsesAndEvents
  deriving DecidableEq

structure SessionValidator where
  sessionId : Uuid
  policy : InboundPolicy
  nextInboundSequence : UInt64
  nextOutboundSequence : UInt64
  inboundMessageIds : Finset Uuid
  /-- `outbound_commands` — each identifier at most once. -/
  outboundCommands : List (Uuid × CommandName)
  pendingReplies : Finset Uuid
  workerHelloReceived : Bool

namespace SessionValidator

/-- `SessionValidator::new`. -/
def new (sessionId : Uuid) (policy : InboundPolicy) : SessionValidator where
  sessionId := sessionId
  policy := policy
  nextInboundSequence := 1
  nextOutboundSequence := 1
  inboundMessageIds := ∅
  outboundCommands := []
  pendingReplies := ∅
  workerHelloReceived := false

/-- `outbound_commands.contains_key`. -/
def containsCommand (validator : SessionValidator) (id : Uuid) : Bool :=
  (validator.outboundCommands.map Prod.fst).contains id

/-- `outbound_commands.insert`. -/
def insertCommand (commands : List (Uuid × CommandName)) (id : Uuid) (name : CommandName) :
    List (Uuid × CommandName) :=
  commands.filter (·.1 != id) ++ [(id, name)]

/-- `checked_add(1)`. -/
def checkedSucc (sequence : UInt64) : Option UInt64 :=
  if sequence.toNat + 1 < 2 ^ 64 then some (sequence + 1) else none

variable (isAbsolute : String → Bool)

/-- The checks of `track_outbound_command`, up to its first change of the validator. -/
def outboundCheck (validator : SessionValidator) (envelope : Envelope) :
    Except ValidationError Command := do
  envelope.validate isAbsolute
  refuseIf (envelope.sessionId ≠ validator.sessionId) .sessionMismatch
  refuseIf (validator.policy = .responsesAndEvents ∧ ¬ validator.workerHelloReceived)
    .workerHelloRequired
  match envelope.message with
  | .command command => do
      refuseIf (envelope.sequence ≠ validator.nextOutboundSequence)
        (.sequenceMismatch validator.nextOutboundSequence envelope.sequence)
      refuseIf (validator.containsCommand envelope.messageId) .duplicateCommandId
      refuseIf (maxMessagesPerSession ≤ validator.outboundCommands.length) .sessionMessageLimit
      refuseIf (maxPendingCommands ≤ validator.pendingReplies.card) .pendingCommandLimit
      return command
  | _ => .error .expectedCommand

def trackOutboundCommand (validator : SessionValidator) (envelope : Envelope) :
    Checked × SessionValidator :=
  match outboundCheck isAbsolute validator envelope with
  | .error error => (.error error, validator)
  | .ok command =>
      let recorded := { validator with
        outboundCommands :=
          insertCommand validator.outboundCommands envelope.messageId command.name
        pendingReplies := insert envelope.messageId validator.pendingReplies }
      match checkedSucc recorded.nextOutboundSequence with
      | none => (.error .sessionMessageLimit, recorded)
      | some next => (.ok (), { recorded with nextOutboundSequence := next })

def validateReply (validator : SessionValidator) (replyTo : Uuid) (actualName : CommandName) :
    Checked := do
  refuseIf (replyTo ∉ validator.pendingReplies) .unknownReply
  match validator.outboundCommands.lookup replyTo with
  | none => .error .unknownReply
  | some expectedName =>
      refuseIf (actualName ≠ expectedName) (.replyNameMismatch expectedName actualName)

/-- The checks of `validate_inbound`, with the completed reply and the hello flag they leave. -/
def inboundCheck (validator : SessionValidator) (envelope : Envelope) :
    Except ValidationError (Option Uuid × Bool) := do
  envelope.validate isAbsolute
  refuseIf (envelope.sessionId ≠ validator.sessionId) .sessionMismatch
  refuseIf (envelope.sequence ≠ validator.nextInboundSequence)
    (.sequenceMismatch validator.nextInboundSequence envelope.sequence)
  refuseIf (maxMessagesPerSession ≤ validator.inboundMessageIds.card) .sessionMessageLimit
  refuseIf (envelope.messageId ∈ validator.inboundMessageIds) .duplicateMessageId
  match validator.policy, envelope.message with
  | .commandsOnly, .command _ => return (none, validator.workerHelloReceived)
  | .responsesAndEvents, .event message =>
      match message.event with
      | .workerHello _ => do
          refuseIf (validator.workerHelloReceived ∨ validator.inboundMessageIds ≠ ∅ ∨
              message.causedBy.isSome)
            .unexpectedWorkerHello
          return (none, true)
      | _ => do
          refuseIf (¬ validator.workerHelloReceived) .workerHelloRequired
          refuseIf (message.causedBy.any (!validator.containsCommand ·)) .unknownCause
          return (none, validator.workerHelloReceived)
  | .responsesAndEvents, .ack reply => do
      refuseIf (¬ validator.workerHelloReceived) .workerHelloRequired
      validator.validateReply reply.replyTo reply.ack.name
      return (some reply.replyTo, validator.workerHelloReceived)
  | .responsesAndEvents, .error reply => do
      refuseIf (¬ validator.workerHelloReceived) .workerHelloRequired
      validator.validateReply reply.replyTo reply.name
      return (some reply.replyTo, validator.workerHelloReceived)
  | _, _ => .error .unexpectedMessageKind

def validateInbound (validator : SessionValidator) (envelope : Envelope) :
    Checked × SessionValidator :=
  match inboundCheck isAbsolute validator envelope with
  | .error error => (.error error, validator)
  | .ok (completedReply, helloReceived) =>
      let recorded := { validator with
        workerHelloReceived := helloReceived
        pendingReplies := match completedReply with
          | some replyTo => validator.pendingReplies.erase replyTo
          | none => validator.pendingReplies
        inboundMessageIds := insert envelope.messageId validator.inboundMessageIds }
      match checkedSucc recorded.nextInboundSequence with
      | none => (.error .sessionMessageLimit, recorded)
      | some next => (.ok (), { recorded with nextInboundSequence := next })

end SessionValidator

inductive Call where
  | outbound (envelope : Envelope)
  | inbound (envelope : Envelope)

def SessionValidator.perform (isAbsolute : String → Bool) (validator : SessionValidator) :
    Call → Checked × SessionValidator
  | .outbound envelope => validator.trackOutboundCommand isAbsolute envelope
  | .inbound envelope => validator.validateInbound isAbsolute envelope

/-- A validator with the envelopes it has accepted, in order. -/
structure Session where
  validator : SessionValidator
  inbound : List Envelope
  outbound : List Envelope

/-- Performs a call and records its envelope when it is accepted. -/
def Session.advance (isAbsolute : String → Bool) (session : Session) (call : Call) : Session :=
  match session.validator.perform isAbsolute call, call with
  | (.ok _, validator), .inbound envelope =>
      { session with validator, inbound := session.inbound ++ [envelope] }
  | (.ok _, validator), .outbound envelope =>
      { session with validator, outbound := session.outbound ++ [envelope] }
  | (.error _, validator), _ => { session with validator }

def Session.run (isAbsolute : String → Bool) (sessionId : Uuid) (policy : InboundPolicy)
    (calls : List Call) : Session :=
  calls.foldl (Session.advance isAbsolute) ⟨.new sessionId policy, [], []⟩

/-- Whether an envelope is the hello of the peer. -/
def Envelope.isHello (envelope : Envelope) : Bool :=
  match envelope.message with
  | .event ⟨_, .workerHello _⟩ => true
  | _ => false

def Envelope.commandName (envelope : Envelope) : Option CommandName :=
  match envelope.message with
  | .command command => some command.name
  | _ => none

/-- The command an envelope answers and the name it answers with. -/
def Envelope.replyOf (envelope : Envelope) : Option (Uuid × CommandName) :=
  match envelope.message with
  | .ack reply => some (reply.replyTo, reply.ack.name)
  | .error reply => some (reply.replyTo, reply.name)
  | _ => none

def Session.replies (session : Session) : List (Uuid × CommandName) :=
  session.inbound.filterMap Envelope.replyOf

theorem mem_of_lookup (commands : List (Uuid × CommandName)) (id : Uuid) (name : CommandName)
    (found : commands.lookup id = some name) : (id, name) ∈ commands := by
  rw [List.lookup_eq_some_iff] at found
  obtain ⟨front, back, rfl, -⟩ := found
  exact List.mem_append_right _ List.mem_cons_self

variable {isAbsolute : String → Bool}

namespace SessionValidator

variable (validator : SessionValidator)

/-- What the checks of an outbound command establish. -/
theorem outboundCheck_ok (envelope : Envelope) (command : Command)
    (checked : outboundCheck isAbsolute validator envelope = .ok command) :
    envelope.message = .command command ∧
      envelope.sequence = validator.nextOutboundSequence ∧
      envelope.messageId ∉ validator.outboundCommands.map Prod.fst ∧
      validator.outboundCommands.length < maxMessagesPerSession ∧
      validator.pendingReplies.card < maxPendingCommands := by
  unfold outboundCheck at checked
  rw [check_eq_ok, check_eq_ok, check_eq_ok] at checked
  obtain ⟨-, -, -, checked⟩ := checked
  split at checked
  · rename_i sent same
    simp only [check_eq_ok, refuseIf_eq_ok, not_not, not_le] at checked
    obtain ⟨sequence, fresh, total, pending, returned⟩ := checked
    cases returned
    rw [containsCommand, List.contains_iff_mem] at fresh
    exact ⟨same, sequence, fresh, total, pending⟩
  · cases checked

/-- How an inbound envelope is admitted, with the reply it completes and the flag it leaves. -/
inductive Admission (validator : SessionValidator) (envelope : Envelope) :
    Option Uuid → Bool → Prop where
  | command (policy : validator.policy = .commandsOnly) (sent : envelope.commandName.isSome)
      (silent : envelope.replyOf = none) :
      Admission validator envelope none validator.workerHelloReceived
  | hello (policy : validator.policy = .responsesAndEvents) (greeting : envelope.isHello)
      (silent : envelope.replyOf = none) (unheard : validator.workerHelloReceived = false)
      (first : validator.inboundMessageIds = ∅) : Admission validator envelope none true
  | event (policy : validator.policy = .responsesAndEvents) (later : envelope.isHello = false)
      (silent : envelope.replyOf = none) (heard : validator.workerHelloReceived = true) :
      Admission validator envelope none true
  | reply (policy : validator.policy = .responsesAndEvents) (later : envelope.isHello = false)
      (heard : validator.workerHelloReceived = true) (id : Uuid) (name : CommandName)
      (answer : envelope.replyOf = some (id, name)) (pending : id ∈ validator.pendingReplies)
      (sent : (id, name) ∈ validator.outboundCommands) :
      Admission validator envelope (some id) true

theorem validateReply_ok (replyTo : Uuid) (name : CommandName)
    (checked : validator.validateReply replyTo name = .ok ()) :
    replyTo ∈ validator.pendingReplies ∧ (replyTo, name) ∈ validator.outboundCommands := by
  unfold validateReply at checked
  rw [check_eq_ok, refuseIf_eq_ok, not_not] at checked
  obtain ⟨pending, checked⟩ := checked
  split at checked
  · exact nomatch checked
  · rename_i expected found
    rw [refuseIf_eq_ok, not_not] at checked
    exact ⟨pending, mem_of_lookup _ _ _ (checked ▸ found)⟩

/-- What the checks of an inbound envelope establish. -/
theorem inboundCheck_ok (envelope : Envelope) (completed : Option Uuid) (hello : Bool)
    (checked : inboundCheck isAbsolute validator envelope = .ok (completed, hello)) :
    envelope.sequence = validator.nextInboundSequence ∧
      validator.inboundMessageIds.card < maxMessagesPerSession ∧
      envelope.messageId ∉ validator.inboundMessageIds ∧
      Admission validator envelope completed hello := by
  unfold inboundCheck at checked
  simp only [check_eq_ok, refuseIf_eq_ok, not_not, not_le] at checked
  obtain ⟨-, -, sequence, total, fresh, checked⟩ := checked
  refine ⟨sequence, total, fresh, ?_⟩
  split at checked
  · rename_i command policy same
    cases checked
    exact .command policy (by rw [Envelope.commandName, same]; rfl)
      (by rw [Envelope.replyOf, same])
  · rename_i message policy same
    have silent : envelope.replyOf = none := by rw [Envelope.replyOf, same]
    split at checked
    · rename_i greeting named
      simp only [check_eq_ok, refuseIf_eq_ok, not_or, Bool.not_eq_true, not_not] at checked
      obtain ⟨⟨unheard, first, -⟩, returned⟩ := checked
      cases returned
      have hello : envelope.isHello = true := by
        obtain ⟨cause, event⟩ := message
        cases named
        rw [Envelope.isHello, same]
      exact .hello policy hello silent unheard first
    · rename_i other
      simp only [check_eq_ok, refuseIf_eq_ok, not_not] at checked
      obtain ⟨heard, -, returned⟩ := checked
      cases returned
      have later : envelope.isHello = false := by
        obtain ⟨cause, event⟩ := message
        rw [Envelope.isHello, same]
        split
        · rename_i greeting named
          cases named
          exact absurd rfl (other greeting)
        · rfl
      rw [heard]
      exact .event policy later silent heard
  · rename_i reply policy same
    simp only [check_eq_ok, refuseIf_eq_ok, not_not] at checked
    obtain ⟨heard, answered, returned⟩ := checked
    cases returned
    have valid := validateReply_ok _ _ _ answered
    rw [heard]
    exact .reply policy (by rw [Envelope.isHello, same]) heard _ _
      (by rw [Envelope.replyOf, same]) valid.1 valid.2
  · rename_i reply policy same
    simp only [check_eq_ok, refuseIf_eq_ok, not_not] at checked
    obtain ⟨heard, answered, returned⟩ := checked
    cases returned
    have valid := validateReply_ok _ _ _ answered
    rw [heard]
    exact .reply policy (by rw [Envelope.isHello, same]) heard _ _
      (by rw [Envelope.replyOf, same]) valid.1 valid.2
  · cases checked

def recordCommand (validator : SessionValidator) (envelope : Envelope) (command : Command) :
    SessionValidator :=
  { validator with
    outboundCommands := insertCommand validator.outboundCommands envelope.messageId command.name
    pendingReplies := insert envelope.messageId validator.pendingReplies
    nextOutboundSequence := validator.nextOutboundSequence + 1 }

/-- The validator after an accepted inbound envelope. -/
def recordInbound (validator : SessionValidator) (envelope : Envelope) (completed : Option Uuid)
    (hello : Bool) : SessionValidator :=
  { validator with
    workerHelloReceived := hello
    pendingReplies := match completed with
      | some replyTo => validator.pendingReplies.erase replyTo
      | none => validator.pendingReplies
    inboundMessageIds := insert envelope.messageId validator.inboundMessageIds
    nextInboundSequence := validator.nextInboundSequence + 1 }

theorem checkedSucc_of_lt (sequence : UInt64) (count : Nat) (counted : sequence.toNat = count + 1)
    (bound : count < maxMessagesPerSession) : checkedSucc sequence = some (sequence + 1) := by
  have budget : maxMessagesPerSession = 65536 := rfl
  rw [checkedSucc, if_pos (by omega)]

theorem toNat_succ_of_lt (sequence : UInt64) (count : Nat) (counted : sequence.toNat = count + 1)
    (bound : count < maxMessagesPerSession) : (sequence + 1).toNat = count + 1 + 1 := by
  have budget : maxMessagesPerSession = 65536 := rfl
  rw [UInt64.toNat_add, UInt64.toNat_one, counted]
  omega

/-- Tracking a command records it or leaves the validator as it was. -/
theorem trackOutboundCommand_cases (isAbsolute : String → Bool) (validator : SessionValidator)
    (envelope : Envelope)
    (counted : validator.nextOutboundSequence.toNat = validator.outboundCommands.length + 1) :
    (∃ command, outboundCheck isAbsolute validator envelope = .ok command ∧
      validator.trackOutboundCommand isAbsolute envelope =
        (.ok (), validator.recordCommand envelope command)) ∨
    ∃ error, validator.trackOutboundCommand isAbsolute envelope = (.error error, validator) := by
  cases checked : outboundCheck isAbsolute validator envelope with
  | error error => exact .inr ⟨error, by rw [trackOutboundCommand, checked]⟩
  | ok command =>
    obtain ⟨-, -, -, total, -⟩ := outboundCheck_ok validator envelope command checked
    have next := checkedSucc_of_lt _ _ counted total
    refine .inl ⟨command, rfl, ?_⟩
    rw [trackOutboundCommand, checked]
    dsimp only
    rw [next]
    rfl

/-- Validating an inbound envelope records it or leaves the validator as it was. -/
theorem validateInbound_cases (isAbsolute : String → Bool) (validator : SessionValidator) (envelope : Envelope)
    (counted : validator.nextInboundSequence.toNat = validator.inboundMessageIds.card + 1) :
    (∃ completed hello,
      inboundCheck isAbsolute validator envelope = .ok (completed, hello) ∧
      validator.validateInbound isAbsolute envelope =
        (.ok (), validator.recordInbound envelope completed hello)) ∨
    ∃ error, validator.validateInbound isAbsolute envelope = (.error error, validator) := by
  cases checked : inboundCheck isAbsolute validator envelope with
  | error error => exact .inr ⟨error, by rw [validateInbound, checked]⟩
  | ok admitted =>
    obtain ⟨completed, hello⟩ := admitted
    obtain ⟨-, total, -, -⟩ := inboundCheck_ok validator envelope completed hello checked
    have next := checkedSucc_of_lt _ _ counted total
    refine .inl ⟨completed, hello, rfl, ?_⟩
    rw [validateInbound, checked]
    dsimp only
    rw [next]
    rfl

end SessionValidator

/-- How a validator is related to the envelopes it has accepted. -/
structure Session.Coherent (policy : InboundPolicy) (session : Session) : Prop where
  fixed : session.validator.policy = policy
  inboundNext : session.validator.nextInboundSequence.toNat = session.inbound.length + 1
  inboundSequences :
    session.inbound.map (·.sequence.toNat) = List.range' 1 session.inbound.length
  inboundIds :
    session.validator.inboundMessageIds = (session.inbound.map (·.messageId)).toFinset
  inboundDistinct : (session.inbound.map (·.messageId)).Nodup
  outboundNext : session.validator.nextOutboundSequence.toNat = session.outbound.length + 1
  outboundSequences :
    session.outbound.map (·.sequence.toNat) = List.range' 1 session.outbound.length
  outboundIds :
    session.validator.outboundCommands.map Prod.fst = session.outbound.map (·.messageId)
  outboundDistinct : (session.outbound.map (·.messageId)).Nodup
  outboundNames : ∀ entry ∈ session.validator.outboundCommands,
    ∃ envelope ∈ session.outbound, envelope.messageId = entry.1 ∧
      envelope.commandName = some entry.2
  pending : ∀ id, id ∈ session.validator.pendingReplies ↔
    id ∈ session.outbound.map (·.messageId) ∧ id ∉ session.replies.map Prod.fst
  pendingBound : session.validator.pendingReplies.card ≤ maxPendingCommands
  repliesDistinct : (session.replies.map Prod.fst).Nodup
  repliesMatch : ∀ reply ∈ session.replies,
    ∃ envelope ∈ session.outbound, envelope.messageId = reply.1 ∧
      envelope.commandName = some reply.2
  helloFirst : policy = .responsesAndEvents →
    (session.validator.workerHelloReceived = false ∧ session.inbound = []) ∨
    session.validator.workerHelloReceived = true ∧ ∃ first rest, session.inbound = first :: rest ∧
      first.isHello = true ∧ ∀ later ∈ rest, later.isHello = false
  commandsOnly : policy = .commandsOnly →
    ∀ envelope ∈ session.inbound, envelope.commandName.isSome

theorem coherent_new (sessionId : Uuid) (policy : InboundPolicy) :
    Session.Coherent policy ⟨.new sessionId policy, [], []⟩ where
  fixed := rfl
  inboundNext := rfl
  inboundSequences := rfl
  inboundIds := rfl
  inboundDistinct := List.nodup_nil
  outboundNext := rfl
  outboundSequences := rfl
  outboundIds := rfl
  outboundDistinct := List.nodup_nil
  outboundNames _ member := nomatch member
  pending id := by simp [SessionValidator.new, Session.replies]
  pendingBound := Nat.zero_le _
  repliesDistinct := List.nodup_nil
  repliesMatch _ member := nomatch member
  helloFirst _ := .inl ⟨rfl, rfl⟩
  commandsOnly _ _ member := nomatch member

theorem map_range_snoc (envelopes : List Envelope) (envelope : Envelope)
    (numbered : envelopes.map (·.sequence.toNat) = List.range' 1 envelopes.length)
    (next : envelope.sequence.toNat = envelopes.length + 1) :
    (envelopes ++ [envelope]).map (·.sequence.toNat) =
      List.range' 1 (envelopes ++ [envelope]).length := by
  rw [List.map_append, numbered, List.length_append, List.length_singleton, List.range'_concat,
    List.map_singleton, next, Nat.one_mul, Nat.add_comm 1]

theorem nodup_snoc {α : Type} (keys : List α) (key : α) (distinct : keys.Nodup)
    (fresh : key ∉ keys) : (keys ++ [key]).Nodup := by
  rw [List.nodup_append]
  refine ⟨distinct, List.nodup_singleton key, ?_⟩
  rintro other member last same rfl
  rw [List.mem_singleton] at same
  exact fresh (same ▸ member)

/-- An accepted command keeps a session coherent. -/
theorem coherent_outbound (policy : InboundPolicy) (session : Session) (envelope : Envelope)
    (command : Command) (coherent : session.Coherent policy)
    (checked : session.validator.outboundCheck isAbsolute envelope = .ok command) :
    Session.Coherent policy { session with
      validator := session.validator.recordCommand envelope command
      outbound := session.outbound ++ [envelope] } := by
  obtain ⟨sent, sequence, fresh, total, room⟩ :=
    SessionValidator.outboundCheck_ok session.validator envelope command checked
  have count : session.validator.outboundCommands.length = session.outbound.length := by
    have lengths := congrArg List.length coherent.outboundIds
    rwa [List.length_map, List.length_map] at lengths
  have unsent : envelope.messageId ∉ session.outbound.map (·.messageId) :=
    coherent.outboundIds ▸ fresh
  have kept : session.validator.outboundCommands.filter (·.1 != envelope.messageId) =
      session.validator.outboundCommands := by
    apply List.filter_eq_self.mpr
    intro entry member
    rw [bne_iff_ne]
    rintro same
    exact fresh (same ▸ List.mem_map_of_mem member)
  have named : envelope.commandName = some command.name := by
    rw [Envelope.commandName, sent]
  have unanswered : envelope.messageId ∉ session.replies.map Prod.fst := by
    intro answered
    obtain ⟨reply, member, same⟩ := List.mem_map.mp answered
    obtain ⟨earlier, among, identified, -⟩ := coherent.repliesMatch reply member
    exact unsent (same ▸ identified ▸ List.mem_map_of_mem among)
  have here : envelope ∈ session.outbound ++ [envelope] :=
    List.mem_append_right _ (List.mem_singleton_self envelope)
  exact {
    fixed := coherent.fixed
    inboundNext := coherent.inboundNext
    inboundSequences := coherent.inboundSequences
    inboundIds := coherent.inboundIds
    inboundDistinct := coherent.inboundDistinct
    outboundNext := by
      rw [List.length_append, List.length_singleton]
      exact SessionValidator.toNat_succ_of_lt _ _ coherent.outboundNext (count ▸ total)
    outboundSequences := by
      apply map_range_snoc _ _ coherent.outboundSequences
      rw [sequence, coherent.outboundNext]
    outboundIds := by
      rw [SessionValidator.recordCommand, SessionValidator.insertCommand, kept, List.map_append,
        List.map_append, coherent.outboundIds]
      rfl
    outboundDistinct := by
      rw [List.map_append]
      exact nodup_snoc _ _ coherent.outboundDistinct unsent
    outboundNames := by
      intro entry member
      rw [SessionValidator.recordCommand, SessionValidator.insertCommand, kept,
        List.mem_append, List.mem_singleton] at member
      rcases member with earlier | rfl
      · obtain ⟨found, among, same⟩ := coherent.outboundNames entry earlier
        exact ⟨found, List.mem_append_left _ among, same⟩
      · exact ⟨envelope, here, rfl, named⟩
    pending := by
      intro id
      rw [SessionValidator.recordCommand, Finset.mem_insert, coherent.pending, List.map_append,
        List.mem_append, List.map_singleton, List.mem_singleton]
      constructor
      · rintro (rfl | ⟨among, open_⟩)
        · exact ⟨.inr rfl, unanswered⟩
        · exact ⟨.inl among, open_⟩
      · rintro ⟨among | rfl, open_⟩
        · exact .inr ⟨among, open_⟩
        · exact .inl rfl
    pendingBound := (Finset.card_insert_le _ _).trans room
    repliesDistinct := coherent.repliesDistinct
    repliesMatch := by
      intro reply member
      obtain ⟨found, among, same⟩ := coherent.repliesMatch reply member
      exact ⟨found, List.mem_append_left _ among, same⟩
    helloFirst := coherent.helloFirst
    commandsOnly := coherent.commandsOnly }

/-- An accepted inbound envelope keeps a session coherent. -/
theorem coherent_inbound (policy : InboundPolicy) (session : Session) (envelope : Envelope)
    (completed : Option Uuid) (hello : Bool) (coherent : session.Coherent policy)
    (checked : session.validator.inboundCheck isAbsolute envelope = .ok (completed, hello)) :
    Session.Coherent policy { session with
      validator := session.validator.recordInbound envelope completed hello
      inbound := session.inbound ++ [envelope] } := by
  obtain ⟨sequence, total, fresh, admission⟩ :=
    SessionValidator.inboundCheck_ok session.validator envelope completed hello checked
  have unheard : envelope.messageId ∉ session.inbound.map (·.messageId) := by
    rwa [coherent.inboundIds, List.mem_toFinset] at fresh
  have count : session.validator.inboundMessageIds.card = session.inbound.length := by
    rw [coherent.inboundIds, List.toFinset_card_of_nodup coherent.inboundDistinct,
      List.length_map]
  have replies : Session.replies { session with
      validator := session.validator.recordInbound envelope completed hello
      inbound := session.inbound ++ [envelope] } =
      session.replies ++ envelope.replyOf.toList := by
    rw [Session.replies, Session.replies, List.filterMap_append]
    cases answer : envelope.replyOf <;> simp [answer]
  have helloFirst : policy = .responsesAndEvents → hello = true ∧ ∃ first rest,
      session.inbound ++ [envelope] = first :: rest ∧ first.isHello = true ∧
        ∀ later ∈ rest, later.isHello = false := by
    intro host
    have heardBefore (heard : session.validator.workerHelloReceived = true)
        (later : envelope.isHello = false) : ∃ first rest,
        session.inbound ++ [envelope] = first :: rest ∧ first.isHello = true ∧
          ∀ later ∈ rest, later.isHello = false := by
      obtain ⟨unheard, -⟩ | ⟨-, first, rest, split, greeting, others⟩ := coherent.helloFirst host
      · rw [heard] at unheard
        exact nomatch unheard
      · refine ⟨first, rest ++ [envelope], by rw [split]; rfl, greeting, ?_⟩
        intro other member
        rw [List.mem_append, List.mem_singleton] at member
        rcases member with earlier | rfl
        · exact others other earlier
        · exact later
    cases admission with
    | command policy => rw [coherent.fixed, host] at policy; exact nomatch policy
    | hello _ greeting _ _ first =>
      have empty : session.inbound = [] := by
        rw [coherent.inboundIds, List.toFinset_eq_empty_iff, List.map_eq_nil_iff] at first
        exact first
      exact ⟨rfl, envelope, [], by rw [empty]; rfl, greeting, fun _ member => nomatch member⟩
    | event _ later _ heard => exact ⟨rfl, heardBefore heard later⟩
    | reply _ later heard => exact ⟨rfl, heardBefore heard later⟩
  have commandsOnly : policy = .commandsOnly →
      ∀ other ∈ session.inbound ++ [envelope], other.commandName.isSome := by
    intro worker other member
    rw [List.mem_append, List.mem_singleton] at member
    rcases member with earlier | rfl
    · exact coherent.commandsOnly worker other earlier
    · cases admission with
      | command _ sent => exact sent
      | hello policy | event policy | reply policy =>
        rw [coherent.fixed, worker] at policy
        exact nomatch policy
  have answer : (completed = none ∧ envelope.replyOf = none) ∨ ∃ id name,
      completed = some id ∧ envelope.replyOf = some (id, name) ∧
        id ∈ session.validator.pendingReplies ∧
        (id, name) ∈ session.validator.outboundCommands := by
    cases admission with
    | command _ _ silent => exact .inl ⟨rfl, silent⟩
    | hello _ _ silent => exact .inl ⟨rfl, silent⟩
    | event _ _ silent => exact .inl ⟨rfl, silent⟩
    | reply _ _ _ id name answer pending sent => exact .inr ⟨id, name, rfl, answer, pending, sent⟩
  exact {
    fixed := coherent.fixed
    inboundNext := by
      rw [List.length_append, List.length_singleton]
      exact SessionValidator.toNat_succ_of_lt _ _ coherent.inboundNext (count ▸ total)
    inboundSequences := by
      apply map_range_snoc _ _ coherent.inboundSequences
      rw [sequence, coherent.inboundNext]
    inboundIds := by
      change insert envelope.messageId session.validator.inboundMessageIds = _
      rw [coherent.inboundIds, List.map_append, List.toFinset_append, Finset.union_comm]
      rfl
    inboundDistinct := by
      rw [List.map_append]
      exact nodup_snoc _ _ coherent.inboundDistinct unheard
    outboundNext := coherent.outboundNext
    outboundSequences := coherent.outboundSequences
    outboundIds := coherent.outboundIds
    outboundDistinct := coherent.outboundDistinct
    outboundNames := coherent.outboundNames
    pending := by
      intro id
      rw [replies]
      obtain ⟨rfl, silent⟩ | ⟨answered, name, rfl, answer, -, -⟩ := answer
      · rw [silent, Option.toList_none, List.append_nil]
        exact coherent.pending id
      · change id ∈ session.validator.pendingReplies.erase answered ↔ _
        rw [answer, Finset.mem_erase, coherent.pending, List.map_append, List.mem_append]
        simp only [Option.toList_some, List.map_singleton, List.mem_singleton]
        tauto
    pendingBound := by
      obtain ⟨rfl, -⟩ | ⟨answered, name, rfl, -⟩ := answer
      · exact coherent.pendingBound
      · exact Finset.card_erase_le.trans coherent.pendingBound
    repliesDistinct := by
      rw [replies]
      obtain ⟨-, silent⟩ | ⟨answered, name, -, answer, pending, -⟩ := answer
      · rw [silent, Option.toList_none, List.append_nil]
        exact coherent.repliesDistinct
      · rw [answer, Option.toList_some, List.map_append]
        exact nodup_snoc _ _ coherent.repliesDistinct ((coherent.pending answered).mp pending).2
    repliesMatch := by
      rw [replies]
      obtain ⟨-, silent⟩ | ⟨answered, name, -, answer, -, sent⟩ := answer
      · rw [silent, Option.toList_none, List.append_nil]
        exact coherent.repliesMatch
      · intro reply member
        rw [answer, Option.toList_some, List.mem_append, List.mem_singleton] at member
        rcases member with earlier | rfl
        · exact coherent.repliesMatch reply earlier
        · exact coherent.outboundNames _ sent
    helloFirst := fun host => .inr (helloFirst host)
    commandsOnly := commandsOnly }

/-- A call accepts its envelope and keeps a session coherent, or changes nothing. -/
theorem perform_cases (isAbsolute : String → Bool) (policy : InboundPolicy) (session : Session) (call : Call)
    (coherent : session.Coherent policy) :
    ((session.validator.perform isAbsolute call).1 = .ok () ∧
      (session.advance isAbsolute call).Coherent policy) ∨
    (∃ error, session.validator.perform isAbsolute call = (.error error, session.validator)) ∧
      session.advance isAbsolute call = session := by
  have inboundCount : session.validator.nextInboundSequence.toNat =
      session.validator.inboundMessageIds.card + 1 := by
    rw [coherent.inboundNext, coherent.inboundIds,
      List.toFinset_card_of_nodup coherent.inboundDistinct, List.length_map]
  have outboundCount : session.validator.nextOutboundSequence.toNat =
      session.validator.outboundCommands.length + 1 := by
    have lengths := congrArg List.length coherent.outboundIds
    rw [List.length_map, List.length_map] at lengths
    rw [coherent.outboundNext, lengths]
  cases call with
  | outbound envelope =>
    obtain ⟨command, checked, performed⟩ | ⟨error, performed⟩ :=
      SessionValidator.trackOutboundCommand_cases isAbsolute session.validator envelope outboundCount
    · change session.validator.perform isAbsolute (.outbound envelope) = _ at performed
      have advanced : session.advance isAbsolute (.outbound envelope) = { session with
          validator := session.validator.recordCommand envelope command
          outbound := session.outbound ++ [envelope] } := by
        unfold Session.advance
        rw [performed]
      rw [performed, advanced]
      exact .inl ⟨rfl, coherent_outbound policy session envelope command coherent checked⟩
    · change session.validator.perform isAbsolute (.outbound envelope) = _ at performed
      exact .inr ⟨⟨error, performed⟩, by unfold Session.advance; rw [performed]⟩
  | inbound envelope =>
    obtain ⟨completed, hello, checked, performed⟩ | ⟨error, performed⟩ :=
      SessionValidator.validateInbound_cases isAbsolute session.validator envelope inboundCount
    · change session.validator.perform isAbsolute (.inbound envelope) = _ at performed
      have advanced : session.advance isAbsolute (.inbound envelope) = { session with
          validator := session.validator.recordInbound envelope completed hello
          inbound := session.inbound ++ [envelope] } := by
        unfold Session.advance
        rw [performed]
      rw [performed, advanced]
      exact .inl ⟨rfl,
        coherent_inbound policy session envelope completed hello coherent checked⟩
    · change session.validator.perform isAbsolute (.inbound envelope) = _ at performed
      exact .inr ⟨⟨error, performed⟩, by unfold Session.advance; rw [performed]⟩

theorem coherent_run (isAbsolute : String → Bool) (sessionId : Uuid) (policy : InboundPolicy) (calls : List Call) :
    (Session.run isAbsolute sessionId policy calls).Coherent policy := by
  induction calls using List.reverseRecOn with
  | nil => exact coherent_new sessionId policy
  | append_singleton calls call ih =>
    rw [Session.run, List.foldl_append, List.foldl_cons, List.foldl_nil]
    obtain ⟨-, after⟩ | ⟨-, same⟩ := perform_cases isAbsolute policy _ call ih
    · exact after
    · rw [Session.run] at ih same
      rw [same]
      exact ih

/-- The law of a session, whatever the calls: both sides count from one with distinct identifiers,
the pending commands are the unanswered ones, replies answer commands of their name at most once,
the hello comes first and once, and a refused call changes nothing. -/
theorem session_law (isAbsolute : String → Bool) (sessionId : Uuid) (policy : InboundPolicy)
    (calls : List Call) :
    let session := Session.run isAbsolute sessionId policy calls
    (policy = .responsesAndEvents → ∀ first rest, session.inbound = first :: rest →
      first.isHello = true ∧ ∀ later ∈ rest, later.isHello = false) ∧
    (policy = .commandsOnly → ∀ envelope ∈ session.inbound, envelope.commandName.isSome) ∧
    session.inbound.map (·.sequence.toNat) = List.range' 1 session.inbound.length ∧
    (session.inbound.map (·.messageId)).Nodup ∧
    session.outbound.map (·.sequence.toNat) = List.range' 1 session.outbound.length ∧
    (session.outbound.map (·.messageId)).Nodup ∧
    (∀ id, id ∈ session.validator.pendingReplies ↔
      id ∈ session.outbound.map (·.messageId) ∧ id ∉ session.replies.map Prod.fst) ∧
    session.validator.pendingReplies.card ≤ maxPendingCommands ∧
    (session.replies.map Prod.fst).Nodup ∧
    (∀ reply ∈ session.replies, ∃ envelope ∈ session.outbound,
      envelope.messageId = reply.1 ∧ envelope.commandName = some reply.2) ∧
    ∀ call error after, session.validator.perform isAbsolute call = (.error error, after) →
      after = session.validator := by
  intro session
  have coherent : session.Coherent policy := coherent_run isAbsolute sessionId policy calls
  refine ⟨?_, coherent.commandsOnly, coherent.inboundSequences, coherent.inboundDistinct,
    coherent.outboundSequences, coherent.outboundDistinct, coherent.pending,
    coherent.pendingBound, coherent.repliesDistinct, coherent.repliesMatch, ?_⟩
  · intro host first rest split
    obtain ⟨-, empty⟩ | ⟨-, other, others, same, greeting, later⟩ := coherent.helloFirst host
    · rw [empty] at split
      exact nomatch split
    · rw [same] at split
      cases split
      exact ⟨greeting, later⟩
  · intro call error after refused
    obtain ⟨accepted, -⟩ | ⟨⟨reason, unchanged⟩, -⟩ :=
      perform_cases isAbsolute policy _ call coherent
    · rw [refused] at accepted
      exact nomatch accepted
    · rw [unchanged] at refused
      cases refused
      rfl

/-- The worker side accepts a command first, which is no hello. -/
theorem worker_hears_command_first :
    (Session.run rooted sampleSession .commandsOnly [.inbound (statusRequest 1)]).inbound =
      [statusRequest 1] ∧ (statusRequest 1).isHello = false :=
  ⟨rfl, rfl⟩

end LatentDeck.Control
