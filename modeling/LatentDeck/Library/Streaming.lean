import LatentDeck.Library.Checked
import LatentDeck.Library.Tiling

/-!
# Streams and streaming hashes

A stream hands out its bytes in pieces of its own choosing, at least one byte at a time until its
end. A streaming hash is updated with those pieces. `streamExactly` is the copy loop over both:
its result does not depend on where the pieces were cut (`streamExactly_eq`).
-/

namespace LatentDeck.Streaming

open Checked Tiling

/-- A byte stream with the largest piece it hands out at each position. -/
structure ByteStream where
  bytes : List UInt8
  /-- The largest piece handed out at a position; a stream always hands out one byte. -/
  chunk : Nat → Nat

/-- One read of at most `requested` bytes; empty only at the end or for an empty request. -/
def ByteStream.read (stream : ByteStream) (position requested : Nat) : List UInt8 :=
  (stream.bytes.drop position).take (min requested (max 1 (stream.chunk position)))

/-- A 32-bit hash that can be computed piece by piece. -/
structure StreamingHash where
  State : Type
  start : State
  update : State → List UInt8 → State
  finish : State → UInt32
  update_nil : ∀ state, update state [] = state
  update_append : ∀ state front back, update state (front ++ back) = update (update state front) back

def StreamingHash.hash (hasher : StreamingHash) (bytes : List UInt8) : UInt32 :=
  hasher.finish (hasher.update hasher.start bytes)

/-- One bit of the reflected CRC-32 division. -/
def crc32Bit (remainder : UInt32) : UInt32 :=
  if remainder &&& 1 = 1 then (remainder >>> 1) ^^^ 0xEDB88320 else remainder >>> 1

/-- One byte of the reflected CRC-32 division. -/
def crc32Byte (remainder : UInt32) (byte : UInt8) : UInt32 :=
  crc32Bit (crc32Bit (crc32Bit (crc32Bit (crc32Bit (crc32Bit (crc32Bit (crc32Bit
    (remainder ^^^ byte.toUInt32))))))))

/-- The CRC-32 of ZIP archives, computed piece by piece. -/
def crc32 : StreamingHash where
  State := UInt32
  start := 0xFFFFFFFF
  update remainder bytes := bytes.foldl crc32Byte remainder
  finish remainder := ~~~remainder
  update_nil _ := rfl
  update_append _ _ _ := List.foldl_append

example : crc32.hash "123456789".toUTF8.data.toList = 0xCBF43926 := by decide +kernel

variable {ε : Type}

/-- Reads exactly `remaining` bytes in requests of at most `buffer`, hashing them on the way.
An early end is `ended`, and a piece larger than its request is `oversized`. -/
def streamExactly (hasher : StreamingHash) (stream : ByteStream) (buffer : Nat)
    (ended oversized : ε) (position remaining : Nat) (state : hasher.State) :
    Except ε (List UInt8 × hasher.State) :=
  if remaining = 0 then .ok ([], state)
  else
    let block := stream.read position (min remaining buffer)
    if _empty : block.length = 0 then .error ended
    else
      match _difference : checkedSub remaining block.length with
      | none => .error oversized
      | some rest =>
        match streamExactly hasher stream buffer ended oversized (position + block.length) rest
            (hasher.update state block) with
        | .ok (tail, final) => .ok (block ++ tail, final)
        | .error error => .error error
termination_by remaining
decreasing_by
  rw [checkedSub_eq_some] at _difference
  omega

theorem read_length_le (stream : ByteStream) (position requested : Nat) :
    (stream.read position requested).length ≤ requested := by
  rw [ByteStream.read, List.length_take]
  omega

theorem read_length_pos (stream : ByteStream) (position requested : Nat)
    (positive : 0 < requested) (inside : 0 < (stream.bytes.drop position).length) :
    0 < (stream.read position requested).length := by
  rw [ByteStream.read, List.length_take]
  omega

theorem read_prefix (stream : ByteStream) (position requested : Nat) :
    stream.read position requested <+: stream.bytes.drop position :=
  List.take_prefix _ _

/-- The copy loop returns the next `remaining` bytes and their hash, or reports the early end. -/
theorem streamExactly_eq (hasher : StreamingHash) (stream : ByteStream) (buffer : Nat)
    (ended oversized : ε) (positive : 0 < buffer) (position remaining : Nat)
    (state : hasher.State) :
    streamExactly hasher stream buffer ended oversized position remaining state =
      if remaining ≤ (stream.bytes.drop position).length then
        .ok ((stream.bytes.drop position).take remaining,
          hasher.update state ((stream.bytes.drop position).take remaining))
      else .error ended := by
  induction remaining using Nat.strong_induction_on generalizing position state with
  | _ remaining ih =>
    unfold streamExactly
    by_cases done : remaining = 0
    · rw [if_pos done, if_pos (by omega), done, List.take_zero, hasher.update_nil]
    rw [if_neg done]
    have upper := read_length_le stream position (min remaining buffer)
    obtain ⟨after, split⟩ := read_prefix stream position (min remaining buffer)
    have lower := read_length_pos stream position (min remaining buffer) (by omega)
    generalize stream.read position (min remaining buffer) = block at upper split lower ⊢
    have total := congrArg List.length split
    rw [List.length_append] at total
    dsimp only
    by_cases empty : block.length = 0
    · have short : ¬ remaining ≤ (stream.bytes.drop position).length := by omega
      rw [dif_pos empty, if_neg short]
    rw [dif_neg empty]
    have left : stream.bytes.drop (position + block.length) = after := by
      rw [← List.drop_drop, ← split, List.drop_left]
    have difference : checkedSub remaining block.length = some (remaining - block.length) := by
      rw [checkedSub_eq_some]
      omega
    split
    · rename_i refused
      rw [difference] at refused
      cases refused
    · rename_i rest found
      rw [difference, Option.some.injEq] at found
      subst found
      rw [ih (remaining - block.length) (by omega), left]
      by_cases fits : remaining ≤ (stream.bytes.drop position).length
      · have parts : block ++ after.take (remaining - block.length) =
            (stream.bytes.drop position).take remaining := by
          rw [← split, List.take_append, List.take_of_length_le (by omega : block.length ≤ remaining)]
        rw [if_pos (by omega), if_pos fits, ← parts, hasher.update_append]
      · rw [if_neg (by omega), if_neg fits]

/-- Fills a buffer of `remaining` bytes from a position: its bytes, unless the stream ends early, and
the ranges of the pieces that were handed out. -/
def ByteStream.readExact (stream : ByteStream) (position remaining : Nat) :
    Option (List UInt8) × List (Nat × Nat) :=
  if remaining = 0 then (some [], [])
  else
    let piece := stream.read position remaining
    if _ended : piece.length = 0 then (none, [])
    else
      let rest := stream.readExact (position + piece.length) (remaining - piece.length)
      (rest.1.map (piece ++ ·), (position, piece.length) :: rest.2)
termination_by remaining
decreasing_by exact Nat.sub_lt (Nat.pos_of_ne_zero ‹_›) (Nat.pos_of_ne_zero ‹_›)

/-- A buffer is filled with the next bytes, wherever the pieces are cut. -/
theorem readExact_eq (stream : ByteStream) (position remaining : Nat) :
    (stream.readExact position remaining).1 =
      if remaining ≤ (stream.bytes.drop position).length then
        some ((stream.bytes.drop position).take remaining)
      else none := by
  induction remaining using Nat.strong_induction_on generalizing position with
  | _ remaining ih =>
    unfold ByteStream.readExact
    by_cases done : remaining = 0
    · rw [if_pos done, if_pos (by omega), done, List.take_zero]
    rw [if_neg done]
    have upper := read_length_le stream position remaining
    obtain ⟨after, split⟩ := read_prefix stream position remaining
    have lower := read_length_pos stream position remaining (by omega)
    generalize stream.read position remaining = piece at upper split lower ⊢
    have total := congrArg List.length split
    rw [List.length_append] at total
    dsimp only
    by_cases empty : piece.length = 0
    · have short : ¬ remaining ≤ (stream.bytes.drop position).length := by omega
      rw [dif_pos empty, if_neg short]
    have left : stream.bytes.drop (position + piece.length) = after := by
      rw [← List.drop_drop, ← split, List.drop_left]
    rw [dif_neg empty, ih (remaining - piece.length) (by omega), left]
    by_cases fits : remaining ≤ (stream.bytes.drop position).length
    · have parts : piece ++ after.take (remaining - piece.length) =
          (stream.bytes.drop position).take remaining := by
        rw [← split, List.take_append, List.take_of_length_le (by omega : piece.length ≤ remaining)]
      rw [if_pos (by omega), if_pos fits, Option.map_some, parts]
    · rw [if_neg (by omega), if_neg fits, Option.map_none]

/-- The pieces that fill a buffer follow one another from the position, and up to the end of the
buffer if it is filled. -/
theorem readExact_tiles (stream : ByteStream) (position remaining : Nat) :
    ∃ stop, Tiles position (stream.readExact position remaining).2 stop ∧
      stop ≤ position + remaining ∧
      ((stream.readExact position remaining).1 ≠ none → stop = position + remaining) := by
  induction remaining using Nat.strong_induction_on generalizing position with
  | _ remaining ih =>
    unfold ByteStream.readExact
    by_cases done : remaining = 0
    · rw [if_pos done]
      exact ⟨position, rfl, Nat.le_add_right _ _, fun _ => by rw [done, Nat.add_zero]⟩
    rw [if_neg done]
    have upper := read_length_le stream position remaining
    generalize stream.read position remaining = piece at upper ⊢
    dsimp only
    by_cases empty : piece.length = 0
    · rw [dif_pos empty]
      exact ⟨position, rfl, Nat.le_add_right _ _, fun filled => absurd rfl filled⟩
    rw [dif_neg empty]
    obtain ⟨stop, tiles, bound, filled⟩ :=
      ih (remaining - piece.length) (by omega) (position + piece.length)
    have total : position + piece.length + (remaining - piece.length) = position + remaining := by
      omega
    rw [total] at bound filled
    refine ⟨stop, ⟨rfl, tiles⟩, bound, fun whole => filled fun absent => whole ?_⟩
    rw [absent]
    rfl

end LatentDeck.Streaming
