import Provision.Codec.Zstd.Sequences
import Provision.Digest.XxHash

namespace Provision.Codec.Zstd

/-!
# Zstandard frames

A Zstandard file is a sequence of frames, each a sequence of blocks that may end with a check.
Frames of another kind are skipped.  A frame announces how far back its copies reach and perhaps how
long its content is.
-/

/-- The number that opens a frame. -/
def frameMark : Nat := 0xfd2fb528

/-- The first of the sixteen numbers that open a frame to skip. -/
def skipMark : Nat := 0x184d2a50

/-- The longest block, in bytes. -/
def maxBlock : Nat := 131072

/-- How far back copies may reach at most. -/
def maxWindow : Nat := 134217729

/-- What a frame announces. -/
structure Header where
  window : Nat
  size? : Option Nat
  hasDictionary : Bool
  hasCheck : Bool
  deriving DecidableEq

/-- The reach that one byte stands for. -/
def windowOf (byte : Nat) : Nat :=
  let reach := 1024 <<< (byte / 8)
  reach + reach / 8 * (byte % 8)

/-- The greatest logarithm of a reach that can be announced. -/
def maxWindowLog : Nat := 31

/-- Read the window, unless the content is one piece. -/
def readWindow (isOnePiece : Bool) (bytes : Bytes) : Except Damage (Option Nat × Bytes) :=
  if isOnePiece then
    .ok (none, bytes)
  else do
    let (byte, bytes) ← orCutShort (readNumber? 1 bytes)
    if maxWindowLog < byte / 8 + 10 then
      .error .corrupt
    else
      return (some (windowOf byte), bytes)

/-- Read the header of a frame after its mark. -/
def readHeader (bytes : Bytes) : Except Damage (Header × Bytes) := do
  let (flags, bytes) ← orCutShort (readNumber? 1 bytes)
  if flags.testBit 3 then
    .error .corrupt
  let isOnePiece := flags.testBit 5
  let (window?, bytes) ← readWindow isOnePiece bytes
  let (dictionary, bytes) ← orCutShort (readNumber? ((1 <<< (flags % 4)) / 2) bytes)
  let sizeKind := flags / 64
  let length := if sizeKind = 0 then isOnePiece.toNat else 1 <<< sizeKind
  let (number, bytes) ← orCutShort (readNumber? length bytes)
  let size := if sizeKind = 1 then number + 256 else number
  let size? := if length = 0 then none else some size
  return (⟨window?.getD size, size?, dictionary ≠ 0, flags.testBit 2⟩, bytes)

/-- What stands in front of a block. -/
structure BlockHeader where
  isLast : Bool
  kind : Nat
  size : Nat
  deriving DecidableEq

/-- The bytes that a block has in the frame; a repeated byte stands there once. -/
def BlockHeader.stored (header : BlockHeader) : Nat :=
  if header.kind = 1 then 1 else header.size

/-- Read what stands in front of a block; the last of the four kinds is not used. -/
def readBlockHeader (bytes : Bytes) : Except Damage (BlockHeader × Bytes) := do
  let (value, bytes) ← orCutShort (readNumber? 3 bytes)
  let kind := value / 2 % 4
  if kind = 3 then
    .error .corrupt
  else
    return (⟨value % 2 = 1, kind, value / 8⟩, bytes)

/-! ## Frames that are at hand as a whole -/

/-- Whether the blocks of a frame are all there, and the check after them. -/
def hasAllBlocks (hasCheck : Bool) : Nat → Bytes → Bool
  | 0, _ => false
  | steps + 1, bytes =>
      match readBlockHeader bytes with
      | .error _ => false
      | .ok (header, bytes) =>
          match takeExact? header.stored bytes with
          | none => false
          | some (_, bytes) =>
              if header.isLast then (takeExact? (if hasCheck then 4 else 0) bytes).isSome
              else hasAllBlocks hasCheck steps bytes

/-! ## Decoding -/

/-- A frame on the way: the output so far, and what is left of the input unless it is damaged. -/
abbrev FrameProgress := Array UInt8 × Except Damage Bytes

/-- Read the check after the last block, if there is one. -/
def readCheck (header : Header) (output : Array UInt8) (bytes : Bytes) : Except Damage Bytes :=
  if header.hasCheck then do
    let (check, bytes) ← orCutShort (readNumber? 4 bytes)
    if check = (Digest.XxHash.hash64 output.toList).toNat % (1 <<< 32) then
      return bytes
    else
      .error .corrupt
  else
    .ok bytes

/--
How many bytes a stored or repeated block may give.  A frame that is at hand as a whole has room for
what it announces, and any other one for what fits into a buffer.
-/
def roomFor (header : Header) (atHand : Bool) (output : Array UInt8) : Nat :=
  if atHand then header.size?.getD 0 - output.size else min header.window maxBlock

/--
Decode a block onto earlier output.  Of a stored block that is cut short, the bytes that are there
come out.
-/
def readBlock (header : Header) (atHand : Bool) (block : BlockHeader) (memory : Memory)
    (output : Array UInt8) (bytes : Bytes) : Memory × FrameProgress :=
  let limit := min header.window maxBlock
  let room := if block.kind = 2 then limit else roomFor header atHand output
  if room < block.stored then
    (memory, output, .error .corrupt)
  else
    match takeExact? block.stored bytes with
    | none =>
        let partly := if block.kind = 0 then bytes.toArray else #[]
        (memory, output ++ partly, .error .cutShort)
    | some (stored, rest) =>
        if block.kind = 2 then
          match decodeBlock? limit memory output stored with
          | some (memory, output) => (memory, output, .ok rest)
          | none => (memory, output, .error .corrupt)
        else if room < block.size then
          (memory, output, .error .corrupt)
        else
          let content :=
            if block.kind = 0 then stored.toArray
            else Array.replicate block.size (stored.headD 0)
          (memory, output ++ content, .ok rest)

/--
Decode at most the given number of blocks, up to the one that is marked as the last.  A reader that
asks for `step` bytes at a time has got all output up to the block that filled its buffer, and loses
what came after it when a rule is broken; `given` counts what it has got.  The last block must
complete the size that was announced.
-/
def readBlocks (header : Header) (atHand : Bool) (step : Nat) :
    Nat → Memory → Nat → Array UInt8 → Bytes → FrameProgress
  | 0, _, given, output, _ => (output.extract 0 given, .error .corrupt)
  | steps + 1, memory, given, output, bytes =>
      let sound := output.extract 0 given
      match readBlockHeader bytes with
      | .error .corrupt => (sound, .error .corrupt)
      | .error .cutShort => (output, .error .cutShort)
      | .ok (block, bytes) =>
          let isEmpty := !atHand && block.stored = 0
          let (memory, output, rest) :=
            if isEmpty then (memory, output, .ok bytes)
            else readBlock header atHand block memory output bytes
          let given := if given + step < output.size then output.size else given
          match rest with
          | .error .corrupt => (sound, .error .corrupt)
          | .error .cutShort => (output, .error .cutShort)
          | .ok bytes =>
              if !block.isLast then
                readBlocks header atHand step steps memory given output bytes
              else if !isEmpty && header.size?.any (· ≠ output.size) then
                (sound, .error .corrupt)
              else
                match readCheck header output bytes with
                | .error .corrupt => (output.extract 0 given, .error .corrupt)
                | rest => (output, rest)

/-- Decode a frame after its mark, for a reader that asks for `step` bytes at a time. -/
def readFrame (step : Nat) (bytes : Bytes) : FrameProgress :=
  match readHeader bytes with
  | .error damage => (#[], .error damage)
  | .ok (header, bytes) =>
      let steps := bytes.length + 1
      let atHand := header.size?.any (· ≤ step) && hasAllBlocks header.hasCheck steps bytes
      if header.hasDictionary || !atHand && maxWindow < header.window then
        (#[], .error .corrupt)
      else
        readBlocks header atHand step steps {} 0 #[] bytes

/-- Read the mark of a frame and tell whether it has content; if not, the frame is skipped. -/
def readMark (bytes : Bytes) : Except Damage (Bool × Bytes) := do
  let (mark, rest) ← orCutShort (readNumber? 4 bytes)
  if mark / 16 = skipMark / 16 then
    let (size, rest) ← orCutShort (readNumber? 4 rest)
    let (_, rest) ← orCutShort (takeExact? size rest)
    return (false, rest)
  else if mark = frameMark then
    return (true, rest)
  else
    .error .corrupt

/-- Decode at most the given number of frames onto the output of those before them. -/
def readFrames (step : Nat) : Nat → Array UInt8 → Bytes → FrameProgress
  | 0, output, _ => (output, .error .corrupt)
  | steps + 1, output, bytes =>
      match readMark bytes with
      | .error damage => (output, .error damage)
      | .ok (hasContent, rest) =>
          let (content, rest) := if hasContent then readFrame step rest else (#[], .ok rest)
          let output := output ++ content
          match rest with
          | .error damage => (output, .error damage)
          | .ok [] => (output, .ok [])
          | .ok rest => readFrames step steps output rest

/-- Decode all frames, for a reader that asks for the given number of bytes at a time. -/
def decode (step : Nat) (input : Bytes) : Decoded :=
  let (output, rest) := readFrames step (input.length + 1) #[] input
  ⟨output.toList, rest⟩

end Provision.Codec.Zstd
