import LatentDeck.Control.Messages

/-!
# The two envelope codecs

`encode_json`, `decode_json`, `encode_messagepack` and `decode_messagepack` over the two
serializer crates, which are parameters: each writes an envelope and reads one back from the front
of a byte string. The JSON decoder validates what it read; the MessagePack decoder does not, and
`decoders_agree_iff` says at which fields of a frame that makes a difference.
-/

namespace LatentDeck.Control

open Fallible

inductive CodecError where
  /-- `Protocol 2 payload is outside 1..={MAX_FRAME_BYTES} bytes`. -/
  | frameLength
  /-- `Protocol 2 JSON failed: {0}`. -/
  | json (detail : String)
  /-- `Protocol 2 MessagePack failed: {0}`. -/
  | messagePack (detail : String)
  /-- `Protocol 2 payload contains trailing data`. -/
  | trailingData
  | validation (error : ValidationError)

/-- A serializer crate at the type of envelopes: `serde_json` or `rmp_serde`. -/
structure Serde where
  /-- `to_vec` or `to_vec_named`. -/
  toVec : Envelope → Except String (List UInt8)
  /-- `Envelope::deserialize` with the number of bytes it consumed. -/
  deserialize : List UInt8 → Except String (Envelope × Nat)

/-- The crate writes the envelope as these bytes, and reads it back from all of them. -/
def Serde.Returns (serde : Serde) (envelope : Envelope) (bytes : List UInt8) : Prop :=
  serde.toVec envelope = .ok bytes ∧ serde.deserialize bytes = .ok (envelope, bytes.length)

def ensureFrameLength (length : Nat) : Except CodecError Unit :=
  if ¬ (1 ≤ length ∧ length ≤ maxFrameBytes) then .error .frameLength else .ok ()

/-- `?` on a validation. -/
def validated (check : Checked) : Except CodecError Unit := check.mapError .validation

variable (isAbsolute : String → Bool)

/-- `encode_json` and `encode_messagepack`, which differ in the crate and its error. -/
def encodeWith (serde : Serde) (failed : String → CodecError) (envelope : Envelope) :
    Except CodecError (List UInt8) := do
  validated (envelope.validate isAbsolute)
  let payload ← (serde.toVec envelope).mapError failed
  ensureFrameLength payload.length
  return payload

def encodeJson (json : Serde) (envelope : Envelope) : Except CodecError (List UInt8) :=
  encodeWith isAbsolute json .json envelope

def encodeMessagepack (messagepack : Serde) (envelope : Envelope) :
    Except CodecError (List UInt8) :=
  encodeWith isAbsolute messagepack .messagePack envelope

def isJsonWhitespace (byte : UInt8) : Bool :=
  byte == 0x20 || byte == 0x0A || byte == 0x09 || byte == 0x0D

def decodeJson (json : Serde) (payload : List UInt8) : Except CodecError Envelope := do
  ensureFrameLength payload.length
  let (envelope, consumed) ← (json.deserialize payload).mapError CodecError.json
  -- `Deserializer::end` skips whitespace and refuses anything else.
  if ¬ (payload.drop consumed).all isJsonWhitespace then .error .trailingData
  else do
    validated (envelope.validate isAbsolute)
    return envelope

def decodeMessagepackValue (messagepack : Serde) (payload : List UInt8) :
    Except CodecError Envelope := do
  let (value, consumed) ← (messagepack.deserialize payload).mapError CodecError.messagePack
  if consumed ≠ payload.length then .error .trailingData
  else return value

def decodeMessagepack (messagepack : Serde) (payload : List UInt8) :
    Except CodecError Envelope := do
  ensureFrameLength payload.length
  decodeMessagepackValue messagepack payload

variable {isAbsolute}

/-- The bytes fit a frame. -/
def Framed (bytes : List UInt8) : Prop := 1 ≤ bytes.length ∧ bytes.length ≤ maxFrameBytes

theorem ensureFrameLength_eq_ok (bytes : List UInt8) :
    ensureFrameLength bytes.length = .ok () ↔ Framed bytes := by
  rw [ensureFrameLength, guarded_eq_ok, not_not]
  exact and_iff_left rfl

/-- An envelope is encoded when it is valid and its encoding fits a frame. -/
theorem encodeWith_eq_ok (serde : Serde) (failed : String → CodecError) (envelope : Envelope)
    (payload : List UInt8) :
    encodeWith isAbsolute serde failed envelope = .ok payload ↔
      envelope.validate isAbsolute = .ok () ∧ serde.toVec envelope = .ok payload ∧
        Framed payload := by
  rw [encodeWith, check_eq_ok, validated, mapError_eq_ok, bind_eq_ok]
  simp only [mapError_eq_ok, check_eq_ok, ensureFrameLength_eq_ok]
  constructor
  · rintro ⟨valid, bytes, written, framed, same⟩
    cases same
    exact ⟨valid, written, framed⟩
  · rintro ⟨valid, written, framed⟩
    exact ⟨valid, payload, written, framed, rfl⟩

/-- The JSON decoder admits framed values that are followed by whitespace and are valid. -/
theorem decodeJson_eq_ok (json : Serde) (payload : List UInt8) (envelope : Envelope) :
    decodeJson isAbsolute json payload = .ok envelope ↔
      Framed payload ∧
      (∃ consumed, json.deserialize payload = .ok (envelope, consumed) ∧
        (payload.drop consumed).all isJsonWhitespace) ∧
      envelope.validate isAbsolute = .ok () := by
  rw [decodeJson, check_eq_ok, ensureFrameLength_eq_ok, bind_eq_ok]
  simp only [mapError_eq_ok, guarded_eq_ok, not_not, validated, check_eq_ok]
  constructor
  · rintro ⟨framed, ⟨found, consumed⟩, read, ended, valid, same⟩
    cases same
    exact ⟨framed, ⟨consumed, read, ended⟩, valid⟩
  · rintro ⟨framed, ⟨consumed, read, ended⟩, valid⟩
    exact ⟨framed, (envelope, consumed), read, ended, valid, rfl⟩

/-- The MessagePack decoder admits framed values that fill their payload. -/
theorem decodeMessagepack_eq_ok (messagepack : Serde) (payload : List UInt8) (envelope : Envelope) :
    decodeMessagepack messagepack payload = .ok envelope ↔
      Framed payload ∧ messagepack.deserialize payload = .ok (envelope, payload.length) := by
  rw [decodeMessagepack, check_eq_ok, ensureFrameLength_eq_ok, decodeMessagepackValue, bind_eq_ok]
  simp only [mapError_eq_ok, guarded_eq_ok, not_not]
  constructor
  · rintro ⟨framed, ⟨found, consumed⟩, read, filled, same⟩
    cases same
    exact ⟨framed, filled ▸ read⟩
  · rintro ⟨framed, read⟩
    exact ⟨framed, (envelope, payload.length), read, rfl, rfl⟩

section

variable {envelope : Envelope} {bytes : List UInt8}

/-- JSON returns a valid envelope exactly when its text fits a frame. -/
theorem json_round_trip {json : Serde} (returns : json.Returns envelope bytes)
    (valid : envelope.validate isAbsolute = .ok ()) :
    (encodeJson isAbsolute json envelope >>= decodeJson isAbsolute json) = .ok envelope ↔
      Framed bytes := by
  obtain ⟨written, read⟩ := returns
  rw [bind_eq_ok]
  constructor
  · rintro ⟨payload, encoded, -⟩
    obtain ⟨_, same, framed⟩ := (encodeWith_eq_ok ..).mp encoded
    cases written.symm.trans same
    exact framed
  · intro framed
    refine ⟨bytes, (encodeWith_eq_ok ..).mpr ⟨valid, written, framed⟩, ?_⟩
    apply (decodeJson_eq_ok ..).mpr
    exact ⟨framed, ⟨bytes.length, read, by rw [List.drop_length]; rfl⟩, valid⟩

/-- MessagePack returns a valid envelope exactly when its packed bytes fit a frame. -/
theorem messagepack_round_trip {messagepack : Serde} (returns : messagepack.Returns envelope bytes)
    (valid : envelope.validate isAbsolute = .ok ()) :
    (encodeMessagepack isAbsolute messagepack envelope >>= decodeMessagepack messagepack) =
      .ok envelope ↔ Framed bytes := by
  obtain ⟨written, read⟩ := returns
  rw [bind_eq_ok]
  constructor
  · rintro ⟨payload, encoded, -⟩
    obtain ⟨_, same, framed⟩ := (encodeWith_eq_ok ..).mp encoded
    cases written.symm.trans same
    exact framed
  · intro framed
    refine ⟨bytes, (encodeWith_eq_ok ..).mpr ⟨valid, written, framed⟩, ?_⟩
    exact (decodeMessagepack_eq_ok ..).mpr ⟨framed, read⟩

end

/-- The fields of a frame that a session of this protocol can answer. -/
structure Answerable (isAbsolute : String → Bool) (envelope : Envelope) : Prop where
  version : envelope.protocolVersion = 2
  session : envelope.sessionId ≠ 0
  messageId : envelope.messageId ≠ 0
  sequence : envelope.sequence ≠ 0
  /-- The payload of the message is within its bounds. -/
  bounds : envelope.message.validate isAbsolute = .ok ()

theorem validate_eq_ok (envelope : Envelope) :
    envelope.validate isAbsolute = .ok () ↔ Answerable isAbsolute envelope := by
  unfold Envelope.validate nonNil
  simp only [check_eq_ok, refuseIf_eq_ok, Uuid.isNil, beq_iff_eq, not_not]
  constructor
  · rintro ⟨version, session, messageId, sequence, bounds⟩
    exact ⟨version, session, messageId, sequence, bounds⟩
  · intro fields
    exact ⟨fields.version, fields.session, fields.messageId, fields.sequence, fields.bounds⟩

/-- Both decoders admit only valid envelopes, and return a valid one from its own encoding, exactly
when a frame-sized payload that is all of an envelope's MessagePack names version 2, a session, a
message and a sequence number and has a message within its bounds, and the two encodings of the
envelope fit a frame. -/
theorem decoders_agree_iff (isAbsolute : String → Bool) (json messagepack : Serde)
    (payload : List UInt8) (envelope : Envelope) (packed text : List UInt8)
    (packs : messagepack.Returns envelope packed) (writes : json.Returns envelope text) :
    ((∀ found, decodeMessagepack messagepack payload = .ok found →
        found.validate isAbsolute = .ok ()) ∧
      (∀ found, decodeJson isAbsolute json payload = .ok found →
        found.validate isAbsolute = .ok ()) ∧
      (envelope.validate isAbsolute = .ok () →
        (encodeMessagepack isAbsolute messagepack envelope >>= decodeMessagepack messagepack) =
          .ok envelope ∧
        (encodeJson isAbsolute json envelope >>= decodeJson isAbsolute json) = .ok envelope)) ↔
    (Framed payload → ∀ frame, messagepack.deserialize payload = .ok (frame, payload.length) →
        Answerable isAbsolute frame) ∧
      (Answerable isAbsolute envelope → Framed packed ∧ Framed text) := by
  constructor
  · rintro ⟨admitted, -, returned⟩
    constructor
    · intro framed frame read
      have decoded := (decodeMessagepack_eq_ok ..).mpr ⟨framed, read⟩
      exact (validate_eq_ok frame).mp (admitted frame decoded)
    · intro answerable
      have valid := (validate_eq_ok envelope).mpr answerable
      have both := returned valid
      exact ⟨(messagepack_round_trip packs valid).mp both.1,
        (json_round_trip writes valid).mp both.2⟩
  · rintro ⟨answered, fits⟩
    refine ⟨?_, ?_, ?_⟩
    · intro found decoded
      obtain ⟨framed, read⟩ := (decodeMessagepack_eq_ok ..).mp decoded
      exact (validate_eq_ok found).mpr (answered framed found read)
    · exact fun found decoded => ((decodeJson_eq_ok ..).mp decoded).2.2
    · intro valid
      have both := fits ((validate_eq_ok envelope).mp valid)
      exact ⟨(messagepack_round_trip packs valid).mpr both.1,
        (json_round_trip writes valid).mpr both.2⟩

/-- The named MessagePack encoding of a `session.status` request with a sequence below 128. -/
def statusMessagepack (sequence : UInt8) : List UInt8 :=
  [0x87, 0xa8] ++ Text.utf8Bytes "protocol" ++ [0xb1] ++ Text.utf8Bytes "latentdeck.worker" ++
  [0xb0] ++ Text.utf8Bytes "protocol_version" ++ [0x02] ++
  [0xaa] ++ Text.utf8Bytes "session_id" ++
  [0xd9, 0x24] ++ Text.utf8Bytes "00000000-0000-0000-0000-000000000001" ++
  [0xa8] ++ Text.utf8Bytes "sequence" ++ [sequence] ++
  [0xaa] ++ Text.utf8Bytes "message_id" ++
  [0xd9, 0x24] ++ Text.utf8Bytes "00000000-0000-0000-0000-000000000002" ++
  [0xb0] ++ Text.utf8Bytes "sender_uptime_ns" ++ [0x00] ++
  [0xa7] ++ Text.utf8Bytes "message" ++ [0x82, 0xa4] ++ Text.utf8Bytes "kind" ++
  [0xa7] ++ Text.utf8Bytes "command" ++ [0xa4] ++ Text.utf8Bytes "body" ++
  [0x82, 0xa4] ++ Text.utf8Bytes "name" ++ [0xae] ++ Text.utf8Bytes "session.status" ++
  [0xa7] ++ Text.utf8Bytes "payload" ++ [0x80]

/-- The JSON encoding of a `session.status` request with a sequence below ten. -/
def statusJson (sequence : UInt8) : List UInt8 :=
  Text.utf8Bytes "\x7b\"protocol\":\"latentdeck.worker\",\"protocol_version\":2,\"session_id\":" ++
  Text.utf8Bytes "\"00000000-0000-0000-0000-000000000001\",\"sequence\":" ++
  [0x30 + sequence] ++
  Text.utf8Bytes ",\"message_id\":\"00000000-0000-0000-0000-000000000002\"," ++
  Text.utf8Bytes "\"sender_uptime_ns\":0,\"message\":\x7b\"kind\":\"command\",\"body\":" ++
  Text.utf8Bytes "\x7b\"name\":\"session.status\",\"payload\":\x7b\x7d\x7d\x7d\x7d"

/-- A crate on the status requests with sequences zero and one; it knows no other envelope. -/
def statusSerde (frame : UInt8 → List UInt8) : Serde where
  toVec envelope :=
    match envelope with
    | ⟨.latentDeckWorker, 2, 1, sequence, 2, 0, .command (.sessionStatus _)⟩ =>
        if sequence = 0 then .ok (frame 0)
        else if sequence = 1 then .ok (frame 1)
        else .error "unsupported"
    | _ => .error "unsupported"
  deserialize bytes :=
    if bytes = frame 1 then .ok (statusRequest 1, bytes.length)
    else if bytes = frame 0 then .ok (statusRequest 0, bytes.length)
    else .error "unsupported"

theorem statusSerde_returns_one (frame : UInt8 → List UInt8) :
    (statusSerde frame).Returns (statusRequest 1) (frame 1) :=
  ⟨rfl, if_pos rfl⟩

theorem statusSerde_returns_zero (frame : UInt8 → List UInt8) (other : frame 0 ≠ frame 1) :
    (statusSerde frame).Returns (statusRequest 0) (frame 0) :=
  ⟨rfl, (if_neg other).trans (if_pos rfl)⟩

/-- A status request with sequence zero is written and read by the crate, and passes the
MessagePack decoder and no validation. -/
theorem unvalidated_status_request :
    ∃ found, decodeMessagepack (statusSerde statusMessagepack) (statusMessagepack 0) = .ok found ∧
      found.validate rooted = .error (.invalidField "envelope.sequence") ∧
      (statusSerde statusMessagepack).Returns found (statusMessagepack 0) := by
  have other : statusMessagepack 0 ≠ statusMessagepack 1 := by decide +kernel
  have returns := statusSerde_returns_zero statusMessagepack other
  have framed : Framed (statusMessagepack 0) := by
    unfold Framed
    decide +kernel
  refine ⟨statusRequest 0, ?_, rfl, returns⟩
  exact (decodeMessagepack_eq_ok ..).mpr ⟨framed, returns.2⟩

/-- Both codecs return the status request with sequence one from its own encodings. -/
theorem status_request_returned :
    (encodeMessagepack rooted (statusSerde statusMessagepack) (statusRequest 1) >>=
      decodeMessagepack (statusSerde statusMessagepack)) = .ok (statusRequest 1) ∧
    (encodeJson rooted (statusSerde statusJson) (statusRequest 1) >>=
      decodeJson rooted (statusSerde statusJson)) = .ok (statusRequest 1) := by
  have answerable : Answerable rooted (statusRequest 1) := by
    constructor <;> first | rfl | decide
  have packed : Framed (statusMessagepack 1) := by
    unfold Framed
    decide +kernel
  have text : Framed (statusJson 1) := by
    unfold Framed
    decide +kernel
  have packs := statusSerde_returns_one statusMessagepack
  have agreement := decoders_agree_iff rooted (statusSerde statusJson)
    (statusSerde statusMessagepack) (statusMessagepack 1) (statusRequest 1) _ _ packs
    (statusSerde_returns_one statusJson)
  have valid := (validate_eq_ok (statusRequest 1)).mpr answerable
  refine (agreement.mpr ⟨?_, fun _ => ⟨packed, text⟩⟩).2.2 valid
  intro _ frame read
  have same := Except.ok.inj (packs.2.symm.trans read)
  rw [← (Prod.mk.inj same).1]
  exact answerable

end LatentDeck.Control
