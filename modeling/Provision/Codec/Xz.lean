import Provision.Codec.Basic
import Provision.Codec.Lzma.Symbols
import Provision.Digest.Crc
import Provision.Digest.Sha

namespace Provision.Codec.Xz

/-!
# Chunks

The content of a block comes in chunks that are stored as they are or LZMA coded.  The byte in front
of a chunk says what it starts anew: the dictionary that copies reach back into, the properties of
the coder, or only its estimates.  A rule that is broken between two chunks costs the last byte of
the output as well, because it is found before that byte is given out.
-/

/-! ## Input with a limit -/

/-- The input that is left, and how much of it may be taken. -/
structure Source where
  input : Bytes
  allowed : Nat

namespace Source

/-- Take exactly the given number of bytes. -/
def take (count : Nat) (source : Source) : Except Damage (Bytes × Source) :=
  if count ≤ source.allowed then do
    let (taken, input) ← orCutShort (takeExact? count source.input)
    return (taken, ⟨input, source.allowed - count⟩)
  else if source.input.length ≤ source.allowed then
    .error .cutShort
  else
    .error .corrupt

/-- Take a number of the given count of bytes, the highest first. -/
def takeNumber (count : Nat) (source : Source) : Except Damage (Nat × Source) := do
  let (bytes, source) ← source.take count
  return (fromLittleEndian bytes.reverse, source)

end Source

/-- An output with the damage that was found after it; a broken rule costs its last byte. -/
def stop {α : Type} (output : Array UInt8) (damage : Damage) : Array UInt8 × Except Damage α :=
  (if damage = .corrupt then output.pop else output, .error damage)

/-! ## Chunks -/

/-- What decoding the chunks of a block carries from one chunk to the next. -/
structure ChunkState where
  hasDictionary : Bool := false
  properties? : Option Lzma.Properties := none
  memory : Lzma.Memory := .initial
  estimates : Array Nat := #[]
  start : Nat := 0

/-- The properties that one byte stands for. -/
def readProperties? (byte : UInt8) : Option Lzma.Properties :=
  let value := byte.toNat
  let properties : Lzma.Properties := ⟨value % 9, value / 9 % 5, value / 45⟩
  if value < 225 && properties.literalContext + properties.literalPosition ≤ 4 then
    some properties
  else
    none

/-- Start the coder anew with some properties. -/
def ChunkState.restart (properties : Lzma.Properties) (state : ChunkState) : ChunkState :=
  { state with
    properties? := some properties
    memory := .initial
    estimates := Lzma.initialEstimates properties }

/-- Start the dictionary anew where a chunk says so; the first chunk has to. -/
def ChunkState.enter (control : UInt8) (position : Nat) (state : ChunkState) :
    Except Damage ChunkState :=
  if control ≥ 0xe0 || control = 1 then
    .ok { state with hasDictionary := true, properties? := none, start := position }
  else if state.hasDictionary then
    .ok state
  else
    .error .corrupt

/-- The sizes of an LZMA coded chunk, the state that it starts in, and its properties. -/
def readCodedHeader (control : UInt8) (state : ChunkState) (source : Source) :
    Except Damage ((Nat × Nat) × Lzma.Properties × ChunkState × Source) := do
  if control < 0xc0 && state.properties?.isNone then
    throw .corrupt
  let (low, source) ← source.takeNumber 2
  let size := (control.toNat % 32) * 65536 + low + 1
  let (coded, source) ← source.takeNumber 2
  if control ≥ 0xc0 then
    let (byte, source) ← source.takeNumber 1
    let properties ← orCorrupt (readProperties? (UInt8.ofNat byte))
    return ((size, coded + 1), properties, state.restart properties, source)
  else
    let properties ← orCorrupt state.properties?
    let state := if control ≥ 0xa0 then state.restart properties else state
    return ((size, coded + 1), properties, state, source)

/-- The range decoder at the start of a chunk of coded bytes, of which the first one is zero. -/
def startCoder (estimates : Array Nat) (source : Source) : Except Damage Lzma.Coder := do
  let (first, source) ← source.takeNumber 1
  if first = 0 then
    let (code, source) ← source.takeNumber 4
    return ⟨0xffffffff, UInt32.ofNat code, source.input, source.allowed, estimates⟩
  else
    .error .corrupt

/-- What a chunk makes of the output: the state and the input after it, unless it is damaged. -/
abbrev ChunkResult := Array UInt8 × Except Damage (ChunkState × Source)

/-- Decode an LZMA coded chunk, which has to use all its bytes. -/
def readCoded (dictionary : Nat) (control : UInt8) (state : ChunkState) (output : Array UInt8)
    (source : Source) : ChunkResult :=
  let start := do
    let ((size, coded), properties, state, source) ← readCodedHeader control state source
    let allowed := min coded source.allowed
    let coder ← startCoder state.estimates { source with allowed }
    return (size, source.allowed - allowed, properties, state, coder)
  match start with
  | .error damage => stop output damage
  | .ok (size, beyond, properties, state, coder) =>
      let (output, result) :=
        Lzma.readSymbols properties dictionary state.start (output.size + size) (size + 1)
          state.memory coder output
      match result with
      | .error damage => (output, .error damage)
      | .ok (memory, coder) =>
          if coder.allowed = 0 && coder.code = 0 then
            let state := { state with memory, estimates := coder.estimates }
            (output, .ok (state, ⟨coder.input, beyond⟩))
          else
            stop output .corrupt

/-- Copy a stored chunk, as much of it as there is. -/
def readStored (state : ChunkState) (output : Array UInt8) (source : Source) : ChunkResult :=
  match source.takeNumber 2 with
  | .error damage => stop output damage
  | .ok (number, source) =>
      let count := number + 1
      let output := output ++ (source.input.take (min count source.allowed)).toArray
      match source.take count with
      | .error damage => (output, .error damage)
      | .ok (_, source) => (output, .ok (state, source))

/-- Decode at most the given number of chunks, up to the end of the block. -/
def readChunks (dictionary : Nat) :
    Nat → ChunkState → Array UInt8 → Source → Array UInt8 × Except Damage Source
  | 0, _, output, _ => (output, .error .corrupt)
  | steps + 1, state, output, source =>
      match source.takeNumber 1 with
      | .error damage => stop output damage
      | .ok (0, source) => (output, .ok source)
      | .ok (value, source) =>
          let control := UInt8.ofNat value
          match state.enter control output.size with
          | .error damage => stop output damage
          | .ok state =>
              let (output, result) :=
                if control ≥ 0x80 then readCoded dictionary control state output source
                else if control ≤ 2 then readStored state output source
                else stop output .corrupt
              match result with
              | .error damage => (output, .error damage)
              | .ok (state, source) => readChunks dictionary steps state output source

end Provision.Codec.Xz

namespace Provision.Codec.Xz

/-!
# Filters

Before a content is cut into chunks, it may pass filters that make it easier to compress.  One takes
the differences between bytes at a fixed distance.  Another writes the targets of calls and jumps in
machine code as absolute addresses; undoing that leaves the last few bytes of a content as they are.
-/

/-- A filter before the chunks. -/
inductive Filter where
  | differences (distance : Nat)
  | branches (start : UInt32)
  deriving Repr, DecidableEq

namespace Filter

/-- Add up differences: each byte is counted from the one at a distance before it. -/
def addUp (distance : Nat) (content : Array UInt8) : Array UInt8 :=
  content.foldl
    (fun output byte =>
      let earlier :=
        if distance ≤ output.size then output.getD (output.size - distance) 0 else 0
      output.push (earlier + byte))
    #[]

/-! ## Branches -/

/-- Whether a byte can be the highest one of a short distance. -/
def isEdge (byte : UInt8) : Bool :=
  byte = 0 || byte = 0xff

/-- Whether a branch may follow the opcodes that a mask tells of. -/
def isAllowed (mask : UInt32) : Bool :=
  let before := (mask >>> 1).toNat
  before < 16 && [true, true, true, false, true, false, false, false].getD (before % 8) false

/-- The byte of an address that the opcodes of a mask reach into, from the highest one. -/
def reach (mask : UInt32) : UInt32 :=
  [0, 1, 2, 2, 3, 3, 3, 3].getD (mask >>> 1).toNat 3

/-- Shift a mask of opcodes by a number of bytes. -/
def shiftMask : Nat → UInt32 → UInt32
  | 0, mask => mask
  | count + 1, mask => shiftMask count ((mask &&& 0x77) <<< 1)

/-- The distance that an address stands for, looked for again while it could be an address. -/
def distanceOf (base mask : UInt32) : Nat → UInt32 → UInt32
  | 0, address => address - base
  | steps + 1, address =>
      let distance := address - base
      let place := 8 * reach mask
      if mask ≠ 0 && isEdge (distance >>> (24 - place)).toUInt8 then
        distanceOf base mask steps (distance ^^^ (((1 : UInt32) <<< (32 - place)) - 1))
      else
        distance

/-- The address in the four bytes after a position. -/
def addressAfter (position : Nat) (content : Array UInt8) : UInt32 :=
  let byte := fun i => (content.getD (position + i) 0).toUInt32
  byte 1 ||| (byte 2 <<< 8) ||| (byte 3 <<< 16) ||| (byte 4 <<< 24)

/-- Write a distance into the four bytes after a position; its highest byte is an edge. -/
def putDistance (position : Nat) (distance : UInt32) (content : Array UInt8) : Array UInt8 :=
  let top : UInt8 := if (distance >>> 24) &&& 1 = 0 then 0 else 0xff
  (((content.setIfInBounds (position + 1) distance.toUInt8).setIfInBounds (position + 2)
    (distance >>> 8).toUInt8).setIfInBounds (position + 3) (distance >>> 16).toUInt8).setIfInBounds
    (position + 4) top

/--
Turn addresses into distances from a position on, and tell how far they could be looked for.
`since` counts the bytes since the last opcode, and the mask tells of the opcodes close before.
-/
def relativise (start : UInt32) :
    Nat → Nat → Nat → UInt32 → Array UInt8 → Array UInt8 × Nat
  | 0, position, _, _, content => (content, position)
  | steps + 1, position, since, mask, content =>
      if content.size < position + 5 then
        (content, position)
      else
        let opcode := content.getD position 0
        if opcode ≠ 0xe8 && opcode ≠ 0xe9 then
          relativise start steps (position + 1) (since + 1) mask content
        else
          let mask := if since > 5 then 0 else shiftMask since mask
          let isShort := isEdge (content.getD (position + 4) 0)
          if isShort && isAllowed mask then
            let base := start + UInt32.ofNat (position + 5)
            let distance := distanceOf base mask 8 (addressAfter position content)
            relativise start steps (position + 5) 5 0 (putDistance position distance content)
          else
            let mask := mask ||| (if isShort then 0x11 else 1)
            relativise start steps (position + 1) 1 mask content

/-- Undo a filter; the end of a content that is not whole is held back as long as it may change. -/
def undo (isWhole : Bool) (content : Array UInt8) : Filter → Array UInt8
  | .differences distance => addUp distance content
  | .branches start =>
      let (content, sure) := relativise start (content.size + 1) 0 5 0 content
      if isWhole then content else content.extract 0 sure

/-- Undo filters, of which the last one was applied last. -/
def undoAll (isWhole : Bool) (filters : List Filter) (content : Array UInt8) : Array UInt8 :=
  filters.foldr (fun filter content => filter.undo isWhole content) content

end Filter

/-!
# Blocks

A block has a header with its filters and perhaps its sizes, then its chunks, padding to a multiple
of four bytes, and a check of its content.
-/

/-! ## Numbers of variable length -/

/--
Read a number of seven bits to a byte, lowest first; the first argument bounds its bytes.  The last
byte of a longer number is not zero.
-/
def readVariable? : Nat → Bytes → Option (Nat × Bytes)
  | 0, _ => none
  | _ + 1, [] => none
  | steps + 1, byte :: rest =>
      if byte < 0x80 then
        some (byte.toNat, rest)
      else
        match readVariable? steps rest with
        | some (0, _) => none
        | some (value, rest) => some (byte.toNat - 128 + 128 * value, rest)
        | none => none

/-- Write a number of seven bits to a byte, lowest first. -/
def writeVariable : Nat → Nat → Bytes
  | 0, _ => []
  | steps + 1, value =>
      if value < 128 then
        [UInt8.ofNat value]
      else
        UInt8.ofNat (128 + value % 128) :: writeVariable steps (value / 128)

/-- The most bytes of a number of variable length. -/
def maxVariable : Nat := 9

/-! ## Headers -/

/-- What the header of a block announces. -/
structure BlockHeader where
  coded? : Option Nat
  content? : Option Nat
  filters : List Filter
  dictionary : Nat
  deriving DecidableEq

/-- The length of the dictionary that a byte stands for, in whole steps of sixteen bytes. -/
def dictionaryOf (byte : Nat) : Nat :=
  let length := if byte = 40 then 0xffffffff else (2 + byte % 2) <<< (byte / 2 + 11)
  (max length 4096 + 15) / 16 * 16

/-- Read a size that a flag announces. -/
def readSize? (isThere : Bool) (bytes : Bytes) : Option (Option Nat × Bytes) :=
  if isThere then
    (readVariable? maxVariable bytes).map fun (size, rest) => (some size, rest)
  else
    some (none, bytes)

/-- Read the kind of a filter and its properties. -/
def readFilter? (bytes : Bytes) : Option ((Nat × Bytes) × Bytes) := do
  let (kind, bytes) ← readVariable? maxVariable bytes
  let (size, bytes) ← readVariable? maxVariable bytes
  let (properties, rest) ← takeExact? size bytes
  return ((kind, properties), rest)

/-- The filter of a kind with its properties, if it is known. -/
def filterOf? (kind : Nat) (properties : Bytes) : Option Filter :=
  if kind = 3 && properties.length = 1 then
    some (.differences (fromLittleEndian properties + 1))
  else if kind = 4 && (properties.length = 0 || properties.length = 4) then
    some (.branches (UInt32.ofNat (fromLittleEndian properties)))
  else
    none

/-- Read the given number of filters, and the dictionary of the chunks after them. -/
def readFilters? : Nat → Bytes → Option ((List Filter × Nat) × Bytes)
  | 0, bytes => do
      let ((kind, properties), rest) ← readFilter? bytes
      let byte := fromLittleEndian properties
      if kind = 0x21 && properties.length = 1 && byte ≤ 40 then
        return (([], dictionaryOf byte), rest)
      else
        none
  | count + 1, bytes => do
      let ((kind, properties), rest) ← readFilter? bytes
      let filter ← filterOf? kind properties
      let ((filters, dictionary), rest) ← readFilters? count rest
      return ((filter :: filters, dictionary), rest)

/-- Read the fields of a block header, which are followed by zeros. -/
def readFields? (fields : Bytes) : Option BlockHeader := do
  let (flags, rest) ← readNumber? 1 fields
  let (coded?, rest) ← readSize? (flags.testBit 6) rest
  let (content?, rest) ← readSize? (flags.testBit 7) rest
  let ((filters, dictionary), padding) ← readFilters? (flags % 4) rest
  if flags / 4 % 16 = 0 && coded? ≠ some 0 && padding.all (· = 0) then
    return ⟨coded?, content?, filters, dictionary⟩
  else
    none

/-- The number of bytes of a block header, of which the first byte has been seen. -/
def headerSize (first : UInt8) : Nat :=
  4 * (first.toNat + 1)

/-- Read a block header with its check. -/
def readHeader (input : Bytes) : Except Damage (BlockHeader × Bytes) := do
  let size := headerSize (input.headD 0)
  let (header, rest) ← orCutShort (takeExact? size input)
  let covered := header.take (size - 4)
  if header.drop (size - 4) = littleEndian 4 (Digest.Crc.crc32 covered).toNat then
    let fields ← orCorrupt (readFields? (covered.drop 1))
    return (fields, rest)
  else
    .error .corrupt

/-! ## Checks -/

/-- The number of bytes of each kind of check. -/
def checkSize (kind : Nat) : Nat :=
  if kind = 0 then 0 else 4 <<< ((kind - 1) / 3)

/-- Whether stored bytes check a content; kinds of checks that are not known are not looked at. -/
def checks (kind : Nat) (content stored : Bytes) : Bool :=
  if kind = 1 then stored = littleEndian 4 (Digest.Crc.crc32 content).toNat
  else if kind = 4 then stored = littleEndian 8 (Digest.Crc.crc64 content).toNat
  else if kind = 10 then stored = Digest.Sha256.digest content
  else true

/-! ## Blocks -/

/-- Whether a size that is announced is the size that was found. -/
def agrees (announced? : Option Nat) (found : Nat) : Bool :=
  announced?.all (· = found)

/-- Read what follows the chunks of a block: padding to a multiple of four bytes, and the check. -/
def finishBlock (check coded : Nat) (content : Bytes) (input : Bytes) : Except Damage Bytes := do
  let count := (4 - coded % 4) % 4
  if (input.take count).any (· ≠ 0) then
    throw .corrupt
  let (_, input) ← orCutShort (takeExact? count input)
  let (stored, input) ← orCutShort (takeExact? (checkSize check) input)
  if checks check content stored then
    return input
  else
    .error .corrupt

/--
Decode a block onto earlier output.  Beside it come the sizes for the index and the input after the
block.
-/
def readBlock (check : Nat) (earlier : Array UInt8) (input : Bytes) :
    Array UInt8 × Except Damage ((Nat × Nat) × Bytes) :=
  match readHeader input with
  | .error damage => stop earlier damage
  | .ok (header, body) =>
      let allowed := header.coded?.getD body.length
      let (raw, result) :=
        readChunks header.dictionary (body.length + 1) {} #[] ⟨body, allowed⟩
      let content := Filter.undoAll result.isOk header.filters raw
      let output := earlier ++ content
      if header.content?.any (· < raw.size) then
        (output.extract 0 (earlier.size + header.content?.getD 0), .error .corrupt)
      else
        match result with
        | .error .corrupt => (if raw.isEmpty then output.pop else output, .error .corrupt)
        | .error .cutShort => (output, .error .cutShort)
        | .ok source =>
            let coded := body.length - source.input.length
            if agrees header.coded? coded && agrees header.content? raw.size then
              match finishBlock check coded content.toList source.input with
              | .error damage => stop output damage
              | .ok rest =>
                  let size := input.length - body.length + coded + checkSize check
                  (output, .ok ((size, raw.size), rest))
            else
              stop output .corrupt

end Provision.Codec.Xz

namespace Provision.Codec.Xz

/-!
# Streams

An xz stream is a sequence of blocks, then an index of them, between a header and a footer.  Nothing
may follow the stream.
-/

/-- The bytes that open a stream. -/
def magic : Bytes := [0xfd, 0x37, 0x7a, 0x58, 0x5a, 0]

/-- The bytes that close a stream. -/
def footerMagic : Bytes := [0x59, 0x5a]

/-- The index of blocks, without its check. -/
def indexBody (records : List (Nat × Nat)) : Bytes :=
  let body :=
    0 :: writeVariable maxVariable records.length ++
      records.flatMap fun (unpadded, size) =>
        writeVariable maxVariable unpadded ++ writeVariable maxVariable size
  body ++ List.replicate ((4 - body.length % 4) % 4) 0

/-- What has to follow the blocks of a stream. -/
def tailOf (check : UInt8) (records : List (Nat × Nat)) : Bytes :=
  let body := indexBody records
  let index := body ++ littleEndian 4 (Digest.Crc.crc32 body).toNat
  let fields := littleEndian 4 (index.length / 4 - 1) ++ [0, check]
  index ++ littleEndian 4 (Digest.Crc.crc32 fields).toNat ++ fields ++ footerMagic

/-- Read what follows the blocks of a stream. -/
def readTail (check : UInt8) (records : List (Nat × Nat)) (output : Array UInt8) (input : Bytes) :
    Array UInt8 × Except Damage Bytes :=
  let tail := tailOf check records
  if input = tail then (output, .ok [])
  else if tail.isPrefixOf input then (output, .error .corrupt)
  else if input.isPrefixOf tail then (output, .error .cutShort)
  else stop output .corrupt

/-- Decode at most the given number of blocks, then the rest of the stream. -/
def readStream (check : UInt8) :
    Nat → List (Nat × Nat) → Array UInt8 → Bytes → Array UInt8 × Except Damage Bytes
  | 0, _, output, _ => (output, .error .corrupt)
  | steps + 1, records, output, input =>
      match input with
      | [] => (output, .error .cutShort)
      | 0 :: _ => readTail check records output input
      | _ =>
          match readBlock check.toNat output input with
          | (output, .error damage) => (output, .error damage)
          | (output, .ok (record, input)) =>
              readStream check steps (records ++ [record]) output input

/-- Decode a file that consists of one stream. -/
def decode (input : Bytes) : Decoded :=
  let start? := do
    let (header, body) ← takeExact? 12 input
    let flags := (header.drop 6).take 2
    let covered := littleEndian 4 (Digest.Crc.crc32 flags).toNat
    match flags with
    | [0, check] =>
        if header.take 6 = magic && header.drop 8 = covered && check < 16 then some (check, body)
        else none
    | _ => none
  match start? with
  | none => ⟨[], .error .corrupt⟩
  | some (check, body) =>
      let (output, rest) := readStream check (body.length + 1) [] #[] body
      ⟨output.toList, rest⟩

/-!
# Writing xz

Contents are written as one block of stored chunks.
-/

/-- Stored chunks for a content; the first chunk starts the dictionary. -/
def storedChunks : Nat → Bool → Bytes → Bytes
  | 0, _, _ => [0]
  | chunks + 1, isFirst, content =>
      if content.isEmpty then
        [0]
      else
        let chunk := content.take 65536
        (if isFirst then 1 else 2) :: (littleEndian 2 (chunk.length - 1)).reverse ++ chunk ++
          storedChunks chunks false (content.drop 65536)

/-- The header of a block that announces no sizes. -/
def blockHeader : Bytes :=
  let fields : Bytes := [2, 0, 0x21, 1, 0x16, 0, 0, 0]
  fields ++ littleEndian 4 (Digest.Crc.crc32 fields).toNat

/-- Encode a content as one stream with one block of stored chunks. -/
def encode (content : Bytes) : Bytes :=
  let flags : Bytes := [0, 1]
  let chunks := storedChunks (content.length + 1) true content
  let padding := List.replicate ((4 - chunks.length % 4) % 4) 0
  let check := littleEndian 4 (Digest.Crc.crc32 content).toNat
  let record := (blockHeader.length + chunks.length + 4, content.length)
  magic ++ flags ++ littleEndian 4 (Digest.Crc.crc32 flags).toNat ++ blockHeader ++ chunks ++
    padding ++ check ++ tailOf 1 [record]

end Provision.Codec.Xz
