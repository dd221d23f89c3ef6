import LatentDeck.Library.LittleEndian

/-!
# RIFF chunks

A chunk is a four-byte name, the length of its payload as a 32-bit word, the payload, and one byte
of padding when the length is odd. A body is chunks one after the other. The bytes of a body
determine its chunks, and the first chunk of a body is found from the bytes at its front.
-/

namespace LatentDeck.Riff

open LittleEndian

/-- A chunk. The byte of padding is not interpreted. -/
structure Chunk where
  fourcc : List UInt8
  payload : List UInt8
  padding : List UInt8
  named : fourcc.length = 4
  fits : payload.length < 256 ^ 4
  padded : padding.length = payload.length % 2

def Chunk.bytes (chunk : Chunk) : List UInt8 :=
  chunk.fourcc ++ (leBytes 4 chunk.payload.length ++ (chunk.payload ++ chunk.padding))

def body (chunks : List Chunk) : List UInt8 := chunks.flatMap Chunk.bytes

@[simp]
theorem body_nil : body [] = [] := rfl

variable (chunk : Chunk)

@[simp]
theorem body_cons (chunks : List Chunk) :
    body (chunk :: chunks) = chunk.bytes ++ body chunks := List.flatMap_cons

theorem Chunk.bytes_length :
    chunk.bytes.length = 8 + chunk.payload.length + chunk.payload.length % 2 := by
  have named := chunk.named
  have padded := chunk.padded
  simp only [Chunk.bytes, List.length_append, leBytes_length]
  omega

theorem body_cons_length (chunks : List Chunk) : 8 ≤ (body (chunk :: chunks)).length := by
  have whole := chunk.bytes_length
  rw [body_cons, List.length_append]
  omega

/-- The length that the chunk at the front declares. -/
def declared (bytes : List UInt8) : Nat := leValue ((bytes.drop 4).take 4)

/-- The bytes at the front hold a whole chunk. -/
def Complete (bytes : List UInt8) : Prop :=
  8 ≤ bytes.length ∧ 8 + declared bytes + declared bytes % 2 ≤ bytes.length

theorem declared_fits (bytes : List UInt8) : declared bytes < 256 ^ 4 := by
  have bound := leValue_bound ((bytes.drop 4).take 4)
  have short : ((bytes.drop 4).take 4).length ≤ 4 := List.length_take_le _ _
  exact Nat.lt_of_lt_of_le bound (Nat.pow_le_pow_right (by decide) short)

/-- The chunk at the front of bytes that hold a whole one. -/
def front (bytes : List UInt8) (complete : Complete bytes) : Chunk where
  fourcc := bytes.take 4
  payload := (bytes.drop 8).take (declared bytes)
  padding := (bytes.drop (8 + declared bytes)).take (declared bytes % 2)
  named := by
    have header := complete.1
    rw [List.length_take]
    omega
  fits := by
    have fits := declared_fits bytes
    rw [List.length_take]
    omega
  padded := by
    have header := complete.1
    have whole := complete.2
    simp only [List.length_take, List.length_drop]
    have payload : min (declared bytes) (bytes.length - 8) = declared bytes := by omega
    rw [payload]
    omega

theorem front_payload_length (bytes : List UInt8) (complete : Complete bytes) :
    (front bytes complete).payload.length = declared bytes := by
  have whole := complete.2
  show ((bytes.drop 8).take (declared bytes)).length = declared bytes
  rw [List.length_take, List.length_drop]
  omega

/-- Bytes that hold a whole chunk are that chunk and what follows it. -/
theorem front_append (bytes : List UInt8) (complete : Complete bytes) :
    (front bytes complete).bytes ++ bytes.drop (8 + declared bytes + declared bytes % 2) =
      bytes := by
  have header := complete.1
  have word : leBytes 4 (declared bytes) = (bytes.drop 4).take 4 := by
    have width : ((bytes.drop 4).take 4).length = 4 := by
      rw [List.length_take, List.length_drop]
      omega
    have read := leBytes_leValue ((bytes.drop 4).take 4)
    rw [width] at read
    exact read
  have further (first second : Nat) :
      bytes.drop (first + second) = (bytes.drop first).drop second := List.drop_drop.symm
  rw [Chunk.bytes, front_payload_length, word]
  show (bytes.take 4 ++ ((bytes.drop 4).take 4 ++
    ((bytes.drop 8).take (declared bytes) ++
      (bytes.drop (8 + declared bytes)).take (declared bytes % 2)))) ++ _ = bytes
  rw [List.append_assoc, List.append_assoc, List.append_assoc, further (8 + declared bytes),
    List.take_append_drop, further 8, List.take_append_drop, further 4 4, List.take_append_drop,
    List.take_append_drop]

variable (rest : List UInt8)

theorem declared_append : declared (chunk.bytes ++ rest) = chunk.payload.length := by
  have skipped : (chunk.bytes ++ rest).drop 4 =
      leBytes 4 chunk.payload.length ++ (chunk.payload ++ chunk.padding ++ rest) := by
    rw [Chunk.bytes, List.append_assoc, List.drop_left' chunk.named, List.append_assoc]
  rw [declared, skipped, List.take_left' (leBytes_length _ _)]
  exact leValue_leBytes_of_lt _ _ chunk.fits

theorem complete_append : Complete (chunk.bytes ++ rest) := by
  have whole := chunk.bytes_length
  rw [Complete, declared_append, List.length_append]
  omega

/-- The chunk found at the front is the one that was put there. -/
theorem front_of_append : front (chunk.bytes ++ rest) (complete_append chunk rest) = chunk := by
  have length := declared_append chunk rest
  have payloadAt : (chunk.bytes ++ rest).drop 8 = chunk.payload ++ (chunk.padding ++ rest) := by
    have header : (chunk.fourcc ++ leBytes 4 chunk.payload.length).length = 8 := by
      rw [List.length_append, leBytes_length, chunk.named]
    have parts : chunk.bytes ++ rest =
        (chunk.fourcc ++ leBytes 4 chunk.payload.length) ++
          (chunk.payload ++ (chunk.padding ++ rest)) := by
      simp only [Chunk.bytes, List.append_assoc]
    rw [parts, List.drop_left' header]
  have paddingAt : (chunk.bytes ++ rest).drop (8 + chunk.payload.length) =
      chunk.padding ++ rest := by
    rw [← List.drop_drop, payloadAt, List.drop_left]
  have name : (chunk.bytes ++ rest).take 4 = chunk.fourcc := by
    rw [Chunk.bytes, List.append_assoc]
    exact List.take_left' chunk.named
  have payload : ((chunk.bytes ++ rest).drop 8).take (declared (chunk.bytes ++ rest)) =
      chunk.payload := by
    rw [length, payloadAt, List.take_left]
  have padding : ((chunk.bytes ++ rest).drop (8 + declared (chunk.bytes ++ rest))).take
      (declared (chunk.bytes ++ rest) % 2) = chunk.padding := by
    rw [length, paddingAt, ← chunk.padded, List.take_left]
  cases chunk
  simp only [front, Chunk.mk.injEq]
  exact ⟨name, payload, padding⟩

theorem append_injective {first second : Chunk} {rest other : List UInt8}
    (same : first.bytes ++ rest = second.bytes ++ other) : first = second ∧ rest = other := by
  have chunks : first = second := by
    rw [← front_of_append first rest, ← front_of_append second other]
    congr 1
  rw [chunks] at same
  exact ⟨chunks, List.append_cancel_left same⟩

/-- The chunks of a body are determined by its bytes. -/
theorem body_injective {first second : List Chunk} (same : body first = body second) :
    first = second := by
  induction first generalizing second with
  | nil =>
    cases second with
    | nil => rfl
    | cons chunk chunks =>
      have long := body_cons_length chunk chunks
      rw [← same, body_nil, List.length_nil] at long
      omega
  | cons chunk chunks ih =>
    cases second with
    | nil =>
      have long := body_cons_length chunk chunks
      rw [same, body_nil, List.length_nil] at long
      omega
    | cons other others =>
      rw [body_cons, body_cons] at same
      have parts := append_injective same
      rw [parts.1, ih parts.2]

end LatentDeck.Riff
