import LatentDeck.Archive.Limits
import LatentDeck.Library.Fallible

/-!
# Preview images

The WebP envelope of a preview: one RIFF form of the length of its entry, a sequence of chunks
that are padded to even lengths, and one chunk among them that gives the geometry.
-/

namespace LatentDeck.Archive

open Checked Fallible LittleEndian

def riffHeaderBytes : Nat := 12
def chunkHeaderBytes : Nat := 8

structure WebpInfo where
  width : Nat
  height : Nat
  deriving DecidableEq

def previewError (code : ErrorCode) (detail : String) : CartridgeError :=
  (CartridgeError.new code detail).atEntry optionalPreviewName

/-- The byte at an index that a length check covers. -/
def byteAt (bytes : List UInt8) (index : Nat) : Nat := (bytes.getD index 0).toNat

def slice (bytes : List UInt8) (first last : Nat) : List UInt8 :=
  (bytes.drop first).take (last - first)

/-- `read_u24`. -/
def readU24At (bytes : List UInt8) (offset : Nat) : Except CartridgeError Nat := do
  refuseWhen (offset + 3 > bytes.length)
    (previewError .manifestInvalid "WebP u24 field is truncated")
  return leValue (slice bytes offset (offset + 3))

/-- `read_u32`. -/
def readU32At (bytes : List UInt8) (offset : Nat) : Except CartridgeError Nat := do
  refuseWhen (offset + 4 > bytes.length)
    (previewError .manifestInvalid "WebP u32 field is truncated")
  return leValue (slice bytes offset (offset + 4))

def dimensionsForChunk (fourcc payload : List UInt8) :
    Except CartridgeError (Option WebpInfo) :=
  if fourcc = [0x56, 0x50, 0x38, 0x58] then do
    refuseWhen (payload.length ≠ 10)
      (previewError .manifestInvalid "VP8X chunk must contain exactly ten bytes")
    let width ← readU24At payload 4
    let height ← readU24At payload 7
    return some ⟨width + 1, height + 1⟩
  else if fourcc = [0x56, 0x50, 0x38, 0x20] then do
    refuseWhen (payload.length < 10 ∨ slice payload 3 6 ≠ [0x9d, 0x01, 0x2a])
      (previewError .manifestInvalid "VP8 frame header is invalid")
    return some ⟨leValue (slice payload 6 8) &&& 0x3fff, leValue (slice payload 8 10) &&& 0x3fff⟩
  else if fourcc = [0x56, 0x50, 0x38, 0x4C] then do
    refuseWhen (payload.length < 5 ∨ byteAt payload 0 ≠ 0x2f)
      (previewError .manifestInvalid "VP8L frame header is invalid")
    return some {
      width := 1 + (byteAt payload 1 ||| ((byteAt payload 2 &&& 0x3f) <<< 8))
      height := 1 + ((byteAt payload 2 >>> 6) ||| (byteAt payload 3 <<< 2) |||
        ((byteAt payload 4 &&& 0x0f) <<< 10)) }
  else .ok none

/-- What the chunks so far say of the geometry, with one more of them. -/
def replaceDimensions (dimensions found : Option WebpInfo) :
    Except CartridgeError (Option WebpInfo) :=
  match dimensions, found with
  | dimensions, none => .ok dimensions
  | none, some info => .ok (some info)
  | some _, some _ => .error
      (previewError .manifestInvalid "WebP contains more than one authoritative image geometry")

/-- The chunk loop of `inspect_webp` from a cursor. -/
def inspectChunks (bytes : List UInt8) (cursor : Nat) (dimensions : Option WebpInfo) :
    Except CartridgeError (Option WebpInfo) :=
  if cursor < bytes.length then do
    let headerEnd := cursor + chunkHeaderBytes
    refuseWhen (headerEnd > bytes.length)
      (previewError .manifestInvalid "WebP chunk header is truncated")
    let payloadLength ← readU32At bytes (cursor + 4)
    let payloadEnd := headerEnd + payloadLength
    let paddedEnd := payloadEnd + payloadLength % 2
    refuseWhen (paddedEnd > bytes.length)
      (previewError .manifestInvalid "WebP chunk extends beyond the RIFF envelope")
    let found ← dimensionsForChunk (slice bytes cursor (cursor + 4))
      (slice bytes headerEnd payloadEnd)
    let dimensions ← replaceDimensions dimensions found
    inspectChunks bytes paddedEnd dimensions
  else .ok dimensions
  termination_by bytes.length - cursor
  decreasing_by
    simp only [chunkHeaderBytes]
    omega

def validateGeometry (info : WebpInfo) : Except CartridgeError Unit := do
  let pixels ← orError (checkedMul info.width info.height)
    (previewError .runtimeLimitExceeded "preview pixel count overflows")
  refuseWhen (info.width = 0 ∨ info.height = 0 ∨ info.width > maxPreviewAxis ∨
      info.height > maxPreviewAxis ∨ pixels > maxPreviewPixels)
    (previewError .runtimeLimitExceeded "preview geometry exceeds the LC limits")

def inspectWebp (bytes : List UInt8) : Except CartridgeError WebpInfo := do
  refuseWhen (bytes.length > maxPreviewBytes)
    (previewError .entryTooLarge "preview exceeds the LC byte ceiling")
  refuseWhen (bytes.length < riffHeaderBytes ∨ bytes.take 4 ≠ [0x52, 0x49, 0x46, 0x46] ∨
      slice bytes 8 12 ≠ [0x57, 0x45, 0x42, 0x50])
    (previewError .manifestInvalid "preview is not a WebP RIFF envelope")
  let declaredRiffSize ← readU32At bytes 4
  refuseWhen (declaredRiffSize + 8 ≠ bytes.length)
    (previewError .manifestInvalid "WebP RIFF length does not match the entry")
  let dimensions ← inspectChunks bytes riffHeaderBytes none
  let info ← orError dimensions
    (previewError .manifestInvalid "WebP does not contain a supported image geometry chunk")
  validateGeometry info
  return info

end LatentDeck.Archive
