import Provision.Codec.Basic
import Provision.Codec.CodeTree
import Provision.Digest.Crc

namespace Provision.Codec.Deflate

/-!
# Deflate

A deflate stream is a sequence of blocks.  A block is stored as it is, or is a sequence of literal
bytes and of copies of earlier output under two Huffman codes, which are fixed or given in front of
the block.
-/

/-- What decoding reached: the output so far, and the bits after it unless they are damaged. -/
abbrev Progress := Array UInt8 × Except Damage Bits

/-- For each length symbol, the shortest length and the number of bits added to it. -/
def lengthTable : List (Nat × Nat) := [
  (3, 0), (4, 0), (5, 0), (6, 0), (7, 0), (8, 0), (9, 0), (10, 0), (11, 1), (13, 1), (15, 1),
  (17, 1), (19, 2), (23, 2), (27, 2), (31, 2), (35, 3), (43, 3), (51, 3), (59, 3), (67, 4),
  (83, 4), (99, 4), (115, 4), (131, 5), (163, 5), (195, 5), (227, 5), (258, 0)]

/-- For each distance symbol, the shortest distance and the number of bits added to it. -/
def distanceTable : List (Nat × Nat) := [
  (1, 0), (2, 0), (3, 0), (4, 0), (5, 1), (7, 1), (9, 2), (13, 2), (17, 3), (25, 3), (33, 4),
  (49, 4), (65, 5), (97, 5), (129, 6), (193, 6), (257, 7), (385, 7), (513, 8), (769, 8),
  (1025, 9), (1537, 9), (2049, 10), (3073, 10), (4097, 11), (6145, 11), (8193, 12), (12289, 12),
  (16385, 13), (24577, 13)]

/-- The order in which the lengths of the code for lengths are given. -/
def lengthOrder : List Nat :=
  [16, 17, 18, 0, 8, 7, 9, 6, 10, 5, 11, 4, 12, 3, 13, 2, 14, 1, 15]

/-- The lengths of the fixed code for literals and lengths. -/
def fixedLiteralLengths : List Nat :=
  List.replicate 144 8 ++ List.replicate 112 9 ++ List.replicate 24 7 ++ List.replicate 8 8

/-- The lengths of the fixed code for distances. -/
def fixedDistanceLengths : List Nat :=
  List.replicate 32 5

/-- Read the number that a symbol of a table stands for. -/
def readExtra
    (table : List (Nat × Nat))
    (symbol : Nat)
    (bits : Bits) :
    Except Damage (Nat × Bits) := do
  let (base, count) ← orCorrupt table[symbol]?
  let (extra, bits) ← Bits.readLow count bits
  return (base + extra, bits)

/-- Read a copy: its length and its distance. -/
def readCopy
    (distances : CodeTree)
    (symbol : Nat)
    (bits : Bits) :
    Except Damage (Nat × Nat × Bits) := do
  let (length, bits) ← readExtra lengthTable (symbol - 257) bits
  let (symbol, bits) ← distances.read bits
  let (distance, bits) ← readExtra distanceTable symbol bits
  return (length, distance, bits)

/-- Decode at most the given number of symbols of a block. -/
def readSymbols (literals distances : CodeTree) : Nat → Array UInt8 → Bits → Progress
  | 0, output, _ => (output, .error .corrupt)
  | steps + 1, output, bits =>
      match literals.read bits with
      | .error damage => (output, .error damage)
      | .ok (symbol, bits) =>
          if symbol < 256 then
            readSymbols literals distances steps (output.push (UInt8.ofNat symbol)) bits
          else if symbol = 256 then
            (output, .ok bits)
          else
            match readCopy distances symbol bits with
            | .error damage => (output, .error damage)
            | .ok (length, distance, bits) =>
                readSymbols literals distances steps (copyBack distance length output) bits

/-- Read the given number of lengths of three bits. -/
def readLengthLengths : Nat → Bits → Except Damage (List Nat × Bits)
  | 0, bits => .ok ([], bits)
  | count + 1, bits => do
      let (length, bits) ← Bits.readLow 3 bits
      let (lengths, bits) ← readLengthLengths count bits
      return (length :: lengths, bits)

/-- The lengths of the code for lengths, in the order of their symbols. -/
def orderLengths (given : List Nat) : List Nat :=
  (List.range 19).map fun symbol => ((lengthOrder.zip given).lookup symbol).getD 0

/--
Read code lengths, in reverse, until there are as many as wanted.  Symbols above 15 repeat the last
length or zero.
-/
def readLengths
    (code : CodeTree)
    (wanted : Nat) :
    Nat → List Nat → Bits → Except Damage (List Nat × Bits)
  | 0, _, _ => .error .corrupt
  | steps + 1, lengths, bits =>
      if lengths.length = wanted then
        .ok (lengths.reverse, bits)
      else if lengths.length > wanted then
        .error .corrupt
      else do
        let (symbol, bits) ← code.read bits
        if symbol < 16 then
          readLengths code wanted steps (symbol :: lengths) bits
        else if symbol = 16 then
          let last ← orCorrupt lengths.head?
          let (extra, bits) ← Bits.readLow 2 bits
          readLengths code wanted steps (List.replicate (3 + extra) last ++ lengths) bits
        else
          let (base, count) := if symbol = 17 then (3, 3) else (11, 7)
          let (extra, bits) ← Bits.readLow count bits
          readLengths code wanted steps (List.replicate (base + extra) 0 ++ lengths) bits

/-- The code with words of the given lengths, which has to use every word. -/
def completeCode (lengths : List Nat) : Except Damage CodeTree := do
  let tree ← orCorrupt (CodeTree.canonical? lengths)
  if tree.isComplete then return tree else .error .corrupt

/-- The code with words of the given lengths; it may also have no word, or one of a single bit. -/
def sparseCode (lengths : List Nat) : Except Damage CodeTree :=
  match lengths.filter (· ≠ 0) with
  | [] => .ok (.branch .empty .empty)
  | [1] => orCorrupt (CodeTree.canonical? lengths)
  | _ => completeCode lengths

/-- The most literal and length symbols that a block may have words for. -/
def maxLiterals : Nat := 286

/-- The most distance symbols that a block may have words for. -/
def maxDistances : Nat := 30

/-- Read the two codes in front of a block. -/
def readCodes (bits : Bits) : Except Damage (CodeTree × CodeTree × Bits) := do
  let (literalCount, bits) ← Bits.readLow 5 bits
  let (distanceCount, bits) ← Bits.readLow 5 bits
  let (lengthCount, bits) ← Bits.readLow 4 bits
  let literalCount := literalCount + 257
  let distanceCount := distanceCount + 1
  if literalCount > maxLiterals || distanceCount > maxDistances then
    .error .corrupt
  let (given, bits) ← readLengthLengths (lengthCount + 4) bits
  let code ← completeCode (orderLengths given)
  let wanted := literalCount + distanceCount
  let (lengths, bits) ← readLengths code wanted (wanted + 1) [] bits
  let literals ← sparseCode (lengths.take literalCount)
  let distances ← sparseCode (lengths.drop literalCount)
  return (literals, distances, bits)

/-- Copy the given number of whole bytes to the output. -/
def copyStored : Nat → Array UInt8 → Bits → Progress
  | 0, output, bits => (output, .ok bits)
  | count + 1, output, bits =>
      match Bits.readLow 8 bits with
      | .ok (byte, bits) => copyStored count (output.push (UInt8.ofNat byte)) bits
      | .error damage => (output, .error damage)

/-- Read the length of a stored block, which is followed by its complement. -/
def readStoredLength (bits : Bits) : Except Damage (Nat × Bits) := do
  let (length, bits) ← Bits.readLow 16 bits.align
  let (complement, bits) ← Bits.readLow 16 bits
  if length + complement = 0xffff then
    return (length, bits)
  else
    .error .corrupt

/-- Decode the block of the given kind. -/
def readBlock (kind : Nat) (output : Array UInt8) (bits : Bits) : Progress :=
  if kind = 0 then
    match readStoredLength bits with
    | .ok (length, bits) => copyStored length output bits
    | .error damage => (output, .error damage)
  else if kind = 1 then
    match CodeTree.canonical? fixedLiteralLengths, CodeTree.canonical? fixedDistanceLengths with
    | some literals, some distances =>
        readSymbols literals distances (bits.length + 1) output bits
    | _, _ => (output, .error .corrupt)
  else if kind = 2 then
    match readCodes bits with
    | .ok (literals, distances, bits) =>
        readSymbols literals distances (bits.length + 1) output bits
    | .error damage => (output, .error damage)
  else
    (output, .error .corrupt)

/-- Decode at most the given number of blocks, up to the one that is marked as the last. -/
def readBlocks : Nat → Array UInt8 → Bits → Progress
  | 0, output, _ => (output, .error .corrupt)
  | steps + 1, output, bits =>
      match bits with
      | isLast :: a :: b :: bits =>
          match readBlock (Bits.valueLow [a, b]) output bits with
          | (output, .error damage) => (output, .error damage)
          | (output, .ok bits) =>
              if isLast then (output, .ok bits) else readBlocks steps output bits
      | _ => (output, .error .cutShort)

/-- The number of bytes of output that are held back until they are known to be sound. -/
def windowSize : Nat := 32768

/-- The number of bytes of input that are taken at a time. -/
def pieceSize : Nat := 32768

/-- Decode a stream, and keep all output even if the stream is damaged. -/
def decodeAll (input : Bytes) : Decoded :=
  let bits := Bits.ofBytesLow input
  let (output, rest) := readBlocks (bits.length + 1) #[] bits
  ⟨output.toList, rest.map fun bits => bits.align.toBytesLow input.length⟩

/--
Decode a stream, and give the bytes after it.  Before a broken rule, output is given out when a
window is full and when a piece of input has been used up.
-/
def decode (input : Bytes) : Decoded :=
  let decoded := decodeAll input
  match decoded.rest with
  | .error .corrupt =>
      let windows := Decoded.wholePieces windowSize decoded.output.length
      let given := max windows (Decoded.madeBefore decodeAll pieceSize input)
      { decoded with output := decoded.output.take given }
  | _ => decoded

/-- A stored block of at most 65535 bytes. -/
def storedBlock (isLast : Bool) (content : Bytes) : Bytes :=
  let length := content.length
  let complement := 0xffff - length
  [isLast.toUInt8, UInt8.ofNat length, UInt8.ofNat (length / 256), UInt8.ofNat complement,
      UInt8.ofNat (complement / 256)] ++
    content

/-- Stored blocks for a content; the first argument bounds their number. -/
def storedBlocks : Nat → Bytes → Bytes
  | 0, _ => []
  | blocks + 1, content =>
      if content.length ≤ 0xffff then
        storedBlock true content
      else
        storedBlock false (content.take 0xffff) ++ storedBlocks blocks (content.drop 0xffff)

/-- Encode a content as it is. -/
def encode (content : Bytes) : Bytes :=
  storedBlocks (content.length + 1) content

end Provision.Codec.Deflate

namespace Provision.Codec.Gzip

/-!
# Gzip

A gzip member wraps a deflate stream: a header that may hold a comment or a file name, the stream,
and a check of the output with its length.  Only the first member of a file is read.
-/

/-- The bytes after the first zero byte. -/
def afterZero? : Bytes → Option Bytes
  | [] => none
  | byte :: rest => if byte = 0 then some rest else afterZero? rest

/-- Skip the check of a header: the low half of the check of all bytes before it. -/
def skipCheck? (input bytes : Bytes) : Option Bytes := do
  let (stored, rest) ← takeExact? 2 bytes
  let header := input.take (input.length - bytes.length)
  if fromLittleEndian stored = (Digest.Crc.crc32 header).toNat % 65536 then some rest else none

/-- Skip the optional parts of a header that its flags announce. -/
def skipOptions? (input : Bytes) (flags : UInt8) (bytes : Bytes) : Option Bytes := do
  let bytes ←
    if flags &&& 4 = 0 then some bytes
    else do
      let (length, bytes) ← takeExact? 2 bytes
      let (_, bytes) ← takeExact? (fromLittleEndian length) bytes
      return bytes
  let bytes ← if flags &&& 8 = 0 then some bytes else afterZero? bytes
  let bytes ← if flags &&& 16 = 0 then some bytes else afterZero? bytes
  if flags &&& 2 = 0 then some bytes else skipCheck? input bytes

/-- The bytes after the header of a member. -/
def readHeader? (input : Bytes) : Option Bytes :=
  match input with
  | 0x1f :: 0x8b :: 8 :: flags :: _ :: _ :: _ :: _ :: _ :: _ :: rest =>
      if flags &&& 0xe0 = 0 then skipOptions? input flags rest else none
  | _ => none

/-- What follows the stream of a member: a check of the output and its length. -/
def trailer (output : Bytes) : Bytes :=
  littleEndian 4 (Digest.Crc.crc32 output).toNat ++ littleEndian 4 output.length

/-- Decode the first member. -/
def decode (input : Bytes) : Decoded :=
  match readHeader? input with
  | none => ⟨[], .error .corrupt⟩
  | some stream =>
      let decoded := Deflate.decode stream
      match decoded.rest with
      | .error _ => decoded
      | .ok rest =>
          if rest.take 8 = trailer decoded.output then
            ⟨decoded.output, .ok (rest.drop 8)⟩
          else
            ⟨decoded.output, .error .corrupt⟩

/-- Encode a content as one member with stored blocks. -/
def encode (content : Bytes) : Bytes :=
  [0x1f, 0x8b, 8, 0, 0, 0, 0, 0, 0, 255] ++ Deflate.encode content ++ trailer content

end Provision.Codec.Gzip
