import LatentDeck.Control.Vocabulary
import LatentDeck.Library.Readers

/-!
# The frame stream of the worker protocol

An envelope travels as a frame: the length of its MessagePack encoding as a 32-bit word, and the
encoding. `write_envelope` appends a frame and `read_envelope` takes one from the front of a byte
source. When a message is valid and how MessagePack writes an envelope are parameters.
-/

namespace LatentDeck.Control.Worker

open Fallible LittleEndian Readers

def workerProtocolVersion : UInt16 := 1
def maxControlFrameBytes : Nat := 262144

/-- `ValidationError` as far as fields alone decide it. -/
inductive ValidationError where
  | unsupportedProtocolVersion (actual : UInt16)
  | sequenceZero
  | nilIdentifier (field : String)
  | invalidField (field reason : String)

structure Envelope (Message : Type) where
  protocol : ProtocolMarker
  protocolVersion : UInt16
  sessionId : Uuid
  sequence : UInt64
  messageId : Uuid
  senderUptimeNs : UInt64
  message : Message

inductive FramingError where
  | truncatedLengthPrefix
  | truncatedPayload
  | invalidLength (actual maximum : Nat)
  | encode (detail : String)
  | decode (detail : String)
  | trailingBytes
  | validation (error : ValidationError)
  | io (error : String)

/-- `rmp_serde` at the type of envelopes. -/
structure Serde (Message : Type) where
  /-- `to_vec_named`. -/
  toVec : Envelope Message → Except String (List UInt8)
  /-- `Envelope::deserialize` with the position of the cursor behind it. -/
  deserialize : List UInt8 → Except String (Envelope Message × Nat)

/-- A worker protocol: its messages, `Message::validate` and the serializer. -/
structure Protocol where
  Message : Type
  validate : Message → Except ValidationError Unit
  messagepack : Serde Message

variable (protocol : Protocol)

/-- `Envelope::validate_static`. -/
def validateStatic (envelope : Envelope protocol.Message) : Except ValidationError Unit := do
  refuseWhen (envelope.protocolVersion ≠ workerProtocolVersion)
    (.unsupportedProtocolVersion envelope.protocolVersion)
  refuseWhen (envelope.sequence = 0) .sequenceZero
  refuseWhen (envelope.sessionId = 0) (.nilIdentifier "session_id")
  refuseWhen (envelope.messageId = 0) (.nilIdentifier "message_id")
  protocol.validate envelope.message

/-- The length of a payload as a 32-bit word within the bounds of a frame. -/
def frameLength (length : Nat) : Except FramingError Nat := do
  refuseWhen (¬ length < 2 ^ 32) (.invalidLength (2 ^ 32 - 1) maxControlFrameBytes)
  refuseWhen (¬ (1 ≤ length ∧ length ≤ maxControlFrameBytes))
    (.invalidLength length maxControlFrameBytes)
  return length

def encodeEnvelope (envelope : Envelope protocol.Message) : Except FramingError (List UInt8) := do
  (validateStatic protocol envelope).mapError .validation
  let payload ← (protocol.messagepack.toVec envelope).mapError FramingError.encode
  let _ ← frameLength payload.length
  return payload

def decodeEnvelope (payload : List UInt8) : Except FramingError (Envelope protocol.Message) := do
  let _ ← frameLength payload.length
  let (envelope, position) ←
    (protocol.messagepack.deserialize payload).mapError FramingError.decode
  refuseWhen (position ≠ payload.length) .trailingBytes
  (validateStatic protocol envelope).mapError .validation
  return envelope

/-- `write_envelope` at the end of the bytes written so far. -/
def writeEnvelope (written : List UInt8) (envelope : Envelope protocol.Message) :
    Except FramingError (List UInt8) := do
  let payload ← encodeEnvelope protocol envelope
  return written ++ leBytes 4 payload.length ++ payload

def mapPrefixError : FillError String → FramingError
  | .unexpectedEof => .truncatedLengthPrefix
  | .failed error => .io error

def mapPayloadError : FillError String → FramingError
  | .unexpectedEof => .truncatedPayload
  | .failed error => .io error

/-- `read_envelope`, with the source behind it. -/
def readEnvelope (source : Source String) :
    Except FramingError (Option (Envelope protocol.Message)) × Source String :=
  match source.next with
  | (.error error, source) => (.error (.io error), source)
  | (.ok none, source) => (.ok none, source)
  | (.ok (some first), source) =>
    match source.fill 3 with
    | (.error error, source) => (.error (mapPrefixError error), source)
    | (.ok others, source) =>
      let length := leValue (first :: others)
      if ¬ (1 ≤ length ∧ length ≤ maxControlFrameBytes) then
        (.error (.invalidLength length maxControlFrameBytes), source)
      else
        match source.fill length with
        | (.error error, source) => (.error (mapPayloadError error), source)
        | (.ok payload, source) => ((decodeEnvelope protocol payload).map some, source)

variable {source : Source String} {envelope : Envelope protocol.Message}

theorem readEnvelope_length {after : Source String}
    (read : readEnvelope protocol source = (.ok (some envelope), after)) :
    after.bytes.length < source.bytes.length := by
  unfold readEnvelope at read
  split at read
  · exact nomatch read
  · exact nomatch read
  · rename_i first middle next
    have begun := next_length next
    have header := fill_length_le middle 3
    split at read
    · exact nomatch read
    · rename_i others behind filled
      rw [filled] at header
      dsimp only at read header
      split at read
      · exact nomatch read
      · have body := fill_length_le behind (leValue (first :: others))
        split at read
        · exact nomatch read
        · rename_i payload last taken
          rw [taken] at body
          dsimp only at body
          rw [Prod.mk.injEq] at read
          rw [← read.2]
          omega

/-- How a stream of envelopes ends for its reader. -/
inductive Ending where
  | ended
  | failed (error : FramingError)

/-- `read_envelope` again and again, until the stream ends or a read fails. -/
def readEnvelopes (source : Source String) : List (Envelope protocol.Message) × Ending :=
  match _read : readEnvelope protocol source with
  | (.error error, _) => ([], .failed error)
  | (.ok none, _) => ([], .ended)
  | (.ok (some envelope), after) =>
    let later := readEnvelopes after
    (envelope :: later.1, later.2)
  termination_by source.bytes.length
  decreasing_by exact readEnvelope_length protocol _read

def frame (payload : List UInt8) : List UInt8 := leBytes 4 payload.length ++ payload

def Framed (payload : List UInt8) : Prop :=
  1 ≤ payload.length ∧ payload.length ≤ maxControlFrameBytes

instance (payload : List UInt8) : Decidable (Framed payload) :=
  inferInstanceAs (Decidable (_ ∧ _))

theorem frameLength_eq_ok (payload : List UInt8) :
    frameLength payload.length = .ok payload.length ↔ Framed payload := by
  have small : maxControlFrameBytes < 2 ^ 32 := by decide
  rw [frameLength, check_eq_ok, refuseWhen_eq_ok, check_eq_ok, refuseWhen_eq_ok,
    not_not, not_not, Framed]
  constructor
  · exact fun passed => passed.2.1
  · exact fun framed => ⟨by omega, framed, rfl⟩

variable {payload : List UInt8}

theorem framed_of_frameLength {length : Nat}
    (passed : frameLength payload.length = .ok length) : Framed payload := by
  have same : payload.length = length := by
    rw [frameLength, check_eq_ok, check_eq_ok] at passed
    exact Except.ok.inj passed.2.2
  rw [← frameLength_eq_ok, passed, same]

/-- An envelope is encoded when it is valid and a frame can hold its encoding. -/
theorem encodeEnvelope_eq_ok (envelope : Envelope protocol.Message) (payload : List UInt8) :
    encodeEnvelope protocol envelope = .ok payload ↔
      validateStatic protocol envelope = .ok () ∧
        protocol.messagepack.toVec envelope = .ok payload ∧ Framed payload := by
  rw [encodeEnvelope, check_eq_ok, mapError_eq_ok, bind_eq_ok]
  refine and_congr_right fun _ => ?_
  constructor
  · intro accepted
    obtain ⟨bytes, written, accepted⟩ := accepted
    rw [mapError_eq_ok] at written
    obtain ⟨length, passed, result⟩ := ok_of_bind accepted
    cases result
    exact ⟨written, framed_of_frameLength passed⟩
  · intro framed
    refine ⟨payload, (mapError_eq_ok ..).mpr framed.1, ?_⟩
    rw [(frameLength_eq_ok payload).mpr framed.2]
    rfl

/-- Reading what was written for a valid envelope returns the envelope and ends behind it. -/
def Serde.Inverse (protocol : Protocol) : Prop :=
  ∀ envelope payload, validateStatic protocol envelope = .ok () →
    protocol.messagepack.toVec envelope = .ok payload →
      protocol.messagepack.deserialize payload = .ok (envelope, payload.length)

theorem decodeEnvelope_encodeEnvelope (inverse : Serde.Inverse protocol)
    (encoded : encodeEnvelope protocol envelope = .ok payload) :
    decodeEnvelope protocol payload = .ok envelope := by
  rw [encodeEnvelope_eq_ok] at encoded
  obtain ⟨valid, written, framed⟩ := encoded
  rw [decodeEnvelope, (frameLength_eq_ok payload).mpr framed,
    inverse envelope payload valid written]
  show (refuseWhen _ _ >>= fun _ => _) = _
  rw [check_eq_ok, refuseWhen_eq_ok, check_eq_ok, mapError_eq_ok]
  exact ⟨fun other => other rfl, valid, rfl⟩

/-- The end of a source is the end of the stream. -/
theorem readEnvelope_end (left : source.Left []) : (readEnvelope protocol source).1 = .ok none := by
  have next := (next_eq left.2).1
  rw [left.1] at next
  unfold readEnvelope
  split
  · rename_i answered
    rw [answered] at next
    exact nomatch next
  · rfl
  · rename_i answered
    rw [answered] at next
    exact nomatch next

variable {rest : List UInt8}

theorem readEnvelope_begun {first : UInt8} (left : source.Left (first :: rest)) :
    ∃ middle : Source String, middle.Left rest ∧
      readEnvelope protocol source =
        match middle.fill 3 with
        | (.error error, source) => (.error (mapPrefixError error), source)
        | (.ok others, source) =>
          if ¬ (1 ≤ leValue (first :: others) ∧ leValue (first :: others) ≤ maxControlFrameBytes)
          then (.error (.invalidLength (leValue (first :: others)) maxControlFrameBytes), source)
          else
            match source.fill (leValue (first :: others)) with
            | (.error error, source) => (.error (mapPayloadError error), source)
            | (.ok payload, source) => ((decodeEnvelope protocol payload).map some, source) := by
  have next := next_eq left.2
  rw [left.1] at next
  have answered : source.next = (.ok (some first), source.next.2) := Prod.ext next.1 rfl
  refine ⟨source.next.2, next.2, ?_⟩
  unfold readEnvelope
  rw [answered]

theorem frame_word (payload : List UInt8) (framed : Framed payload) :
    ∃ first others, leBytes 4 payload.length = first :: others ∧ others.length = 3 ∧
      leValue (first :: others) = payload.length := by
  have small : maxControlFrameBytes < 256 ^ 4 := by decide
  have fits : payload.length < 256 ^ 4 := Nat.lt_of_le_of_lt framed.2 small
  have value := leValue_leBytes_of_lt 4 payload.length fits
  have width := leBytes_length 4 payload.length
  cases word : leBytes 4 payload.length with
  | nil =>
    rw [word] at width
    exact nomatch width
  | cons first others =>
    rw [word] at width value
    exact ⟨first, others, rfl, Nat.succ.inj width, value⟩

/-- The frame at the front of a source is read, and what follows it is left. -/
theorem readEnvelope_frame (framed : Framed payload) (left : source.Left (frame payload ++ rest)) :
    ∃ after : Source String, after.Left rest ∧
      readEnvelope protocol source = ((decodeEnvelope protocol payload).map some, after) := by
  obtain ⟨first, others, word, three, value⟩ := frame_word payload framed
  have bounds : 1 ≤ payload.length ∧ payload.length ≤ maxControlFrameBytes := framed
  have begun : source.Left (first :: (others ++ (payload ++ rest))) := by
    rw [frame, word, List.append_assoc] at left
    exact left
  obtain ⟨middle, middleLeft, read⟩ := readEnvelope_begun protocol begun
  have header := fill_eq_ok middleLeft.2 3 (by
    rw [middleLeft.1, List.length_append]
    omega)
  rw [middleLeft.1, List.take_left' three, List.drop_left' three] at header
  have headed : middle.fill 3 = (.ok others, (middle.fill 3).2) := Prod.ext header.1 rfl
  have body := fill_eq_ok header.2.2 payload.length (by
    rw [header.2.1, List.length_append]
    omega)
  rw [header.2.1, List.take_left, List.drop_left] at body
  have filled : (middle.fill 3).2.fill payload.length =
      (.ok payload, ((middle.fill 3).2.fill payload.length).2) := Prod.ext body.1 rfl
  refine ⟨((middle.fill 3).2.fill payload.length).2, body.2, ?_⟩
  rw [read, headed]
  dsimp only
  rw [value, if_neg (not_not.mpr bounds), filled]

/-- The error of a frame that ends behind some of its bytes. -/
def truncation (part : List UInt8) : FramingError :=
  if part.length < 4 then .truncatedLengthPrefix else .truncatedPayload

theorem truncation_cases (part : List UInt8) :
    truncation part = .truncatedLengthPrefix ∨ truncation part = .truncatedPayload := by
  by_cases header : part.length < 4
  · exact .inl (if_pos header)
  · exact .inr (if_neg header)

/-- A source that ends inside a frame is an error. -/
theorem readEnvelope_truncated {payload part missing : List UInt8} (framed : Framed payload)
    (cut : frame payload = part ++ missing) (begun : part ≠ []) (short : missing ≠ [])
    (left : source.Left part) : (readEnvelope protocol source).1 = .error (truncation part) := by
  obtain ⟨first, others, word, three, value⟩ := frame_word payload framed
  have bounds : 1 ≤ payload.length ∧ payload.length ≤ maxControlFrameBytes := framed
  rw [frame, word] at cut
  cases part with
  | nil => exact absurd rfl begun
  | cons head tail =>
    rw [List.cons_append, List.cons_append, List.cons.injEq] at cut
    obtain ⟨rfl, cut⟩ := cut
    have lengths := congrArg List.length cut
    rw [List.length_append, List.length_append] at lengths
    have gone : 0 < missing.length := List.length_pos_of_ne_nil short
    obtain ⟨middle, middleLeft, read⟩ := readEnvelope_begun protocol left
    by_cases header : tail.length < 3
    · have ended := fill_eq_eof middleLeft.2 3 (by rwa [middleLeft.1])
      have failed : middle.fill 3 = (.error .unexpectedEof, (middle.fill 3).2) :=
        Prod.ext ended rfl
      have error : truncation (first :: tail) = .truncatedLengthPrefix :=
        if_pos (by rw [List.length_cons]; omega)
      rw [read, failed, error]
      rfl
    · have enough : 3 ≤ tail.length := Nat.not_lt.mp header
      have filled := fill_eq_ok middleLeft.2 3 (by rwa [middleLeft.1])
      rw [middleLeft.1] at filled
      have taken : tail.take 3 = others := by
        have both := congrArg (List.take 3) cut
        rw [List.take_left' three, List.take_append_of_le_length enough] at both
        exact both.symm
      rw [taken] at filled
      have headed : middle.fill 3 = (.ok others, (middle.fill 3).2) := Prod.ext filled.1 rfl
      have ended := fill_eq_eof filled.2.2 payload.length (by
        rw [filled.2.1, List.length_drop]
        omega)
      have failed : (middle.fill 3).2.fill payload.length =
          (.error .unexpectedEof, ((middle.fill 3).2.fill payload.length).2) :=
        Prod.ext ended rfl
      have error : truncation (first :: tail) = .truncatedPayload :=
        if_neg (by rw [List.length_cons]; omega)
      rw [read, headed, error]
      dsimp only
      rw [value, if_neg (not_not.mpr bounds), failed]
      rfl

/-- The stream goes on behind an envelope that was read. -/
theorem readEnvelopes_cons {after : Source String}
    (read : readEnvelope protocol source = (.ok (some envelope), after)) :
    readEnvelopes protocol source =
      (envelope :: (readEnvelopes protocol after).1, (readEnvelopes protocol after).2) := by
  rw [readEnvelopes]
  split
  case h_3 same =>
    rw [read] at same
    cases same
    rfl
  all_goals
    rename_i same
    rw [read] at same
    exact nomatch same

theorem readEnvelopes_end (read : (readEnvelope protocol source).1 = .ok none) :
    readEnvelopes protocol source = ([], .ended) := by
  rw [readEnvelopes]
  split
  case h_2 same => rfl
  all_goals
    rename_i same
    rw [same] at read
    exact nomatch read

theorem readEnvelopes_failed {error : FramingError}
    (read : (readEnvelope protocol source).1 = .error error) :
    readEnvelopes protocol source = ([], .failed error) := by
  rw [readEnvelopes]
  split
  case h_1 same =>
    rw [same] at read
    cases read
    rfl
  all_goals
    rename_i same
    rw [same] at read
    exact nomatch read

/-- `write_envelope` for each envelope of a list. -/
def writeEnvelopes (written : List UInt8) (envelopes : List (Envelope protocol.Message)) :
    Except FramingError (List UInt8) :=
  envelopes.foldlM (writeEnvelope protocol) written

/-- An envelope that is valid and whose encoding fits a frame. -/
def Sendable (envelope : Envelope protocol.Message) : Prop :=
  validateStatic protocol envelope = .ok () ∧
    ∃ payload, protocol.messagepack.toVec envelope = .ok payload ∧ Framed payload

theorem sendable_iff (envelope : Envelope protocol.Message) :
    Sendable protocol envelope ↔ ∃ payload, encodeEnvelope protocol envelope = .ok payload := by
  constructor
  · intro sendable
    obtain ⟨valid, payload, written, framed⟩ := sendable
    exact ⟨payload, (encodeEnvelope_eq_ok ..).mpr ⟨valid, written, framed⟩⟩
  · intro encoded
    obtain ⟨payload, encoded⟩ := encoded
    rw [encodeEnvelope_eq_ok] at encoded
    exact ⟨encoded.1, payload, encoded.2⟩

theorem writeEnvelope_eq
    (encoded : encodeEnvelope protocol envelope = .ok payload) (written : List UInt8) :
    writeEnvelope protocol written envelope = .ok (written ++ frame payload) := by
  rw [writeEnvelope, encoded, frame, ← List.append_assoc]
  rfl

def Encodes (envelopes : List (Envelope protocol.Message)) (payloads : List (List UInt8)) : Prop :=
  List.Forall₂ (fun envelope payload => encodeEnvelope protocol envelope = .ok payload) envelopes
    payloads

theorem encodes_of_sendable (envelopes : List (Envelope protocol.Message))
    (sendable : ∀ envelope ∈ envelopes, Sendable protocol envelope) :
    ∃ payloads, Encodes protocol envelopes payloads := by
  induction envelopes with
  | nil => exact ⟨[], .nil⟩
  | cons envelope envelopes ih =>
    rw [List.forall_mem_cons] at sendable
    obtain ⟨payload, encoded⟩ := (sendable_iff protocol envelope).mp sendable.1
    obtain ⟨payloads, later⟩ := ih sendable.2
    exact ⟨payload :: payloads, .cons encoded later⟩

variable {protocol} {envelopes : List (Envelope protocol.Message)} {payloads : List (List UInt8)}

theorem writeEnvelopes_eq (encodes : Encodes protocol envelopes payloads) (written : List UInt8) :
    writeEnvelopes protocol written envelopes = .ok (written ++ payloads.flatMap frame) := by
  induction encodes generalizing written with
  | nil => exact congrArg Except.ok (List.append_nil written).symm
  | cons encoded later ih =>
    rw [writeEnvelopes, List.foldlM_cons, writeEnvelope_eq protocol encoded, List.flatMap_cons,
      ← List.append_assoc]
    exact ih _

/-- Frames at the front of a source are read, and the stream goes on behind them. -/
theorem readEnvelopes_frames (inverse : Serde.Inverse protocol)
    (encodes : Encodes protocol envelopes payloads)
    (left : source.Left (payloads.flatMap frame ++ rest)) :
    ∃ after : Source String, after.Left rest ∧
      readEnvelopes protocol source =
        (envelopes ++ (readEnvelopes protocol after).1, (readEnvelopes protocol after).2) := by
  induction encodes generalizing source with
  | nil => exact ⟨source, left, rfl⟩
  | @cons envelope payload envelopes payloads encoded later ih =>
    rw [List.flatMap_cons, List.append_assoc] at left
    have framed := ((encodeEnvelope_eq_ok protocol envelope payload).mp encoded).2.2
    obtain ⟨middle, middleLeft, read⟩ := readEnvelope_frame protocol framed left
    rw [decodeEnvelope_encodeEnvelope protocol inverse encoded] at read
    obtain ⟨after, afterLeft, rest⟩ := ih middleLeft
    refine ⟨after, afterLeft, ?_⟩
    rw [readEnvelopes_cons protocol read, rest]
    rfl

/-- A prefix of a stream of frames ends between two of them or inside one. -/
theorem prefix_of_frames (payloads : List (List UInt8)) (front : List UInt8)
    (cut : front <+: payloads.flatMap frame) :
    (∃ whole later, payloads = whole ++ later ∧ front = whole.flatMap frame) ∨
      ∃ whole payload later part missing, payloads = whole ++ payload :: later ∧
        front = whole.flatMap frame ++ part ∧ frame payload = part ++ missing ∧
        part ≠ [] ∧ missing ≠ [] := by
  induction payloads generalizing front with
  | nil => exact .inl ⟨[], [], rfl, List.prefix_nil.mp cut⟩
  | cons payload payloads ih =>
    rw [List.flatMap_cons] at cut
    by_cases inside : front.length < (frame payload).length
    · obtain ⟨missing, same⟩ : front <+: frame payload :=
        List.prefix_of_prefix_length_le cut (List.prefix_append _ _) (Nat.le_of_lt inside)
      by_cases empty : front = []
      · exact .inl ⟨[], payload :: payloads, rfl, empty⟩
      · refine .inr ⟨[], payload, payloads, front, missing, rfl, rfl, same.symm, empty, ?_⟩
        intro none
        rw [none, List.append_nil] at same
        rw [same] at inside
        exact Nat.lt_irrefl _ inside
    · obtain ⟨others, same⟩ : frame payload <+: front :=
        List.prefix_of_prefix_length_le (List.prefix_append _ _) cut (Nat.not_lt.mp inside)
      rw [← same, List.prefix_append_right_inj] at cut
      cases ih others cut with
      | inl boundary =>
        obtain ⟨whole, later, split, ends⟩ := boundary
        refine .inl ⟨payload :: whole, later, by rw [split]; rfl, ?_⟩
        rw [← same, ends, List.flatMap_cons]
      | inr middle =>
        obtain ⟨whole, next, later, part, missing, split, ends, framed⟩ := middle
        refine .inr ⟨payload :: whole, next, later, part, missing, by rw [split]; rfl, ?_, framed⟩
        rw [← same, ends, List.flatMap_cons, List.append_assoc]

variable (protocol)

/-- Some bytes end between two frames of a stream. -/
def Boundary (envelopes : List (Envelope protocol.Message)) (front : List UInt8) : Prop :=
  ∃ whole, whole <+: envelopes ∧ writeEnvelopes protocol [] whole = .ok front

/-- Envelopes whose frames some bytes hold whole, where the frame of the next envelope is cut. -/
def WholeFrames (envelopes : List (Envelope protocol.Message)) (front : List UInt8)
    (whole : List (Envelope protocol.Message)) : Prop :=
  ∃ next later bytes part missing, envelopes = whole ++ next :: later ∧
    writeEnvelopes protocol [] whole = .ok bytes ∧ front = bytes ++ part ∧
    writeEnvelope protocol [] next = .ok (part ++ missing) ∧ part ≠ [] ∧ missing ≠ []

/-- Valid envelopes that fit a frame are written, reading the bytes returns them and then the end of
the stream, and bytes that end inside a frame give the envelopes before it and then an error. -/
theorem stream_round_trip (inverse : Serde.Inverse protocol)
    (envelopes : List (Envelope protocol.Message))
    (sendable : ∀ envelope ∈ envelopes, Sendable protocol envelope) :
    ∃ bytes, writeEnvelopes protocol [] envelopes = .ok bytes ∧
      (∀ source : Source String, source.Left bytes →
        readEnvelopes protocol source = (envelopes, .ended)) ∧
      ∀ front, front <+: bytes → ¬ Boundary protocol envelopes front →
        ∀ source : Source String, source.Left front →
          ∃ whole error, WholeFrames protocol envelopes front whole ∧
            readEnvelopes protocol source = (whole, .failed error) ∧
            (error = .truncatedLengthPrefix ∨ error = .truncatedPayload) := by
  obtain ⟨payloads, encodes⟩ := encodes_of_sendable protocol envelopes sendable
  refine ⟨payloads.flatMap frame, writeEnvelopes_eq encodes [], ?_, ?_⟩
  · intro source left
    have all : source.Left (payloads.flatMap frame ++ []) := by rwa [List.append_nil]
    obtain ⟨after, afterLeft, read⟩ := readEnvelopes_frames inverse encodes all
    rw [read, readEnvelopes_end protocol (readEnvelope_end protocol afterLeft), List.append_nil]
  · intro front cut inside source left
    cases prefix_of_frames payloads front cut with
    | inl boundary =>
      obtain ⟨whole, later, split, ends⟩ := boundary
      rw [split] at encodes
      have before := List.forall₂_take_append envelopes whole later encodes
      refine absurd ⟨envelopes.take whole.length, List.take_prefix _ _, ?_⟩ inside
      rw [writeEnvelopes_eq before, ends]
      rfl
    | inr middle =>
      obtain ⟨whole, payload, later, part, missing, split, ends, framed, begun, short⟩ := middle
      rw [split] at encodes
      have before := List.forall₂_take_append envelopes whole (payload :: later) encodes
      have behind := List.forall₂_drop_append envelopes whole (payload :: later) encodes
      cases rest : envelopes.drop whole.length with
      | nil =>
        rw [rest] at behind
        exact nomatch behind
      | cons next others =>
        rw [rest] at behind
        obtain ⟨encoded, -⟩ := List.forall₂_cons.mp behind
        have fits := ((encodeEnvelope_eq_ok protocol next payload).mp encoded).2.2
        rw [ends] at left
        obtain ⟨after, afterLeft, read⟩ := readEnvelopes_frames inverse before left
        have failed := readEnvelope_truncated protocol fits framed begun short afterLeft
        rw [readEnvelopes_failed protocol failed, List.append_nil] at read
        refine ⟨_, _, ⟨next, others, whole.flatMap frame, part, missing, ?_, ?_, ends, ?_, begun,
          short⟩, read, truncation_cases part⟩
        · rw [← rest, List.take_append_drop]
        · exact writeEnvelopes_eq before []
        · rw [writeEnvelope_eq protocol encoded, framed]
          rfl

/-- `Command::WorkerStatus`, the one message of the example. -/
inductive StatusMessage where
  | workerStatus

/-- A `worker.status` request of a sequence. -/
def statusEnvelope (sequence : UInt64) : Envelope StatusMessage where
  protocol := .latentDeckWorker
  protocolVersion := 1
  sessionId := 1
  sequence := sequence
  messageId := 2
  senderUptimeNs := 0
  message := .workerStatus

/-- The named MessagePack encoding of a `worker.status` request with a sequence below 128. -/
def statusPayload (sequence : UInt64) : List UInt8 :=
  [0x87, 0xa8] ++ Text.utf8Bytes "protocol" ++ [0xb1] ++ Text.utf8Bytes "latentdeck.worker" ++
  [0xb0] ++ Text.utf8Bytes "protocol_version" ++ [0x01] ++
  [0xaa] ++ Text.utf8Bytes "session_id" ++
  [0xd9, 0x24] ++ Text.utf8Bytes "00000000-0000-0000-0000-000000000001" ++
  [0xa8] ++ Text.utf8Bytes "sequence" ++ [sequence.toUInt8] ++
  [0xaa] ++ Text.utf8Bytes "message_id" ++
  [0xd9, 0x24] ++ Text.utf8Bytes "00000000-0000-0000-0000-000000000002" ++
  [0xb0] ++ Text.utf8Bytes "sender_uptime_ns" ++ [0x00] ++
  [0xa7] ++ Text.utf8Bytes "message" ++ [0x82, 0xa4] ++ Text.utf8Bytes "kind" ++
  [0xa7] ++ Text.utf8Bytes "command" ++ [0xa4] ++ Text.utf8Bytes "body" ++
  [0x82, 0xa4] ++ Text.utf8Bytes "name" ++ [0xad] ++ Text.utf8Bytes "worker.status" ++
  [0xa7] ++ Text.utf8Bytes "payload" ++ [0x80]

/-- The crate on the status requests with sequences one and two; it knows no other envelope. -/
def statusSerde (payload : UInt64 → List UInt8) : Serde StatusMessage where
  toVec envelope :=
    match envelope with
    | ⟨.latentDeckWorker, 1, 1, sequence, 2, 0, .workerStatus⟩ =>
      if sequence = 1 then .ok (payload 1)
      else if sequence = 2 then .ok (payload 2)
      else .error "unsupported"
    | _ => .error "unsupported"
  deserialize bytes :=
    if bytes = payload 1 then .ok (statusEnvelope 1, bytes.length)
    else if bytes = payload 2 then .ok (statusEnvelope 2, bytes.length)
    else .error "unsupported"

/-- The protocol of status requests, all of which are valid messages. -/
abbrev statusProtocol (payload : UInt64 → List UInt8) : Protocol where
  Message := StatusMessage
  validate _ := .ok ()
  messagepack := statusSerde payload

theorem statusProtocol_inverse (payload : UInt64 → List UInt8) (other : payload 2 ≠ payload 1) :
    Serde.Inverse (statusProtocol payload) := by
  intro envelope bytes _ written
  dsimp only [statusSerde] at written
  split at written
  · rename_i sequence _
    by_cases one : sequence = 1
    · rw [if_pos one] at written
      cases written
      rw [one]
      exact if_pos rfl
    · rw [if_neg one] at written
      by_cases two : sequence = 2
      · rw [if_pos two] at written
        cases written
        rw [two]
        exact (if_neg other).trans (if_pos rfl)
      · rw [if_neg two] at written
        exact nomatch written
  · exact nomatch written

theorem status_sendable (payload : UInt64 → List UInt8) (first : Framed (payload 1))
    (second : Framed (payload 2)) :
    ∀ envelope ∈ [statusEnvelope 1, statusEnvelope 2],
      Sendable (statusProtocol payload) envelope := by
  rw [List.forall_mem_cons, List.forall_mem_singleton]
  exact ⟨⟨rfl, payload 1, rfl, first⟩, rfl, payload 2, rfl, second⟩

theorem statusPayload_framed :
    statusPayload 2 ≠ statusPayload 1 ∧ Framed (statusPayload 1) ∧ Framed (statusPayload 2) := by
  decide +kernel

/-- The stream of two status requests is read back, and so are its prefixes up to their last whole
frame. -/
theorem two_status_requests :
    ∃ bytes, writeEnvelopes (statusProtocol statusPayload) []
        [statusEnvelope 1, statusEnvelope 2] = .ok bytes ∧
      (∀ source : Source String, source.Left bytes →
        readEnvelopes (statusProtocol statusPayload) source =
          ([statusEnvelope 1, statusEnvelope 2], .ended)) ∧
      ∀ front, front <+: bytes →
        ¬ Boundary (statusProtocol statusPayload) [statusEnvelope 1, statusEnvelope 2] front →
        ∀ source : Source String, source.Left front →
          ∃ whole error,
            WholeFrames (statusProtocol statusPayload) [statusEnvelope 1, statusEnvelope 2] front
              whole ∧
            readEnvelopes (statusProtocol statusPayload) source = (whole, .failed error) ∧
            (error = .truncatedLengthPrefix ∨ error = .truncatedPayload) :=
  stream_round_trip (statusProtocol statusPayload)
    (statusProtocol_inverse statusPayload statusPayload_framed.1)
    [statusEnvelope 1, statusEnvelope 2]
    (status_sendable statusPayload statusPayload_framed.2.1 statusPayload_framed.2.2)

end LatentDeck.Control.Worker
