import Provision.Codec.Basic
import Provision.Codec.CodeTree
import Provision.Digest.Crc

namespace Provision.Codec.Bzip2

/-!
# The layers of a bzip2 block

Runs of one byte are shortened, the rotations of the block are sorted, and the sorted column is
turned into places in a list that moves its last used byte to the front.  Old blocks may also be
scrambled between the first two layers.
-/

/-! ## Runs of one byte -/

/--
Undo the shortening of runs: after four equal bytes comes the number of further ones.  A block that
ends where a number is due takes `after` for it, and the second part says that this did not happen.
-/
def expandRuns (after : UInt8) : Bytes → UInt8 → Nat → Array UInt8 → Array UInt8 × Bool
  | [], last, 4, output => (pushCopies last after.toNat output, false)
  | [], _, _, output => (output, true)
  | byte :: rest, last, 4, output =>
      expandRuns after rest last 0 (pushCopies last byte.toNat output)
  | byte :: rest, last, count, output =>
      let count := if count > 0 && byte = last then count + 1 else 1
      expandRuns after rest byte count (output.push byte)

/-- The written form of a run. -/
def writeRun (byte : UInt8) (count : Nat) : Bytes :=
  if count < 4 then List.replicate count byte
  else List.replicate 4 byte ++ [UInt8.ofNat (count - 4)]

/-- Shorten runs of one byte; a run that is written has at most 255 bytes. -/
def shortenRuns : Bytes → UInt8 → Nat → Bytes
  | [], last, count => writeRun last count
  | byte :: rest, last, count =>
      if count > 0 && byte = last && count < 255 then
        shortenRuns rest last (count + 1)
      else
        writeRun last count ++ shortenRuns rest byte 1

/-! ## Scrambled blocks -/

/-- The distances between the scrambled bytes of a block, which come round again. -/
def scrambleGaps : List Nat := [
  619, 720, 127, 481, 931, 816, 813, 233, 566, 247, 985, 724, 205, 454, 863, 491, 741, 242, 949,
  214, 733, 859, 335, 708, 621, 574, 73, 654, 730, 472, 419, 436, 278, 496, 867, 210, 399, 680, 480,
  51, 878, 465, 811, 169, 869, 675, 611, 697, 867, 561, 862, 687, 507, 283, 482, 129, 807, 591, 733,
  623, 150, 238, 59, 379, 684, 877, 625, 169, 643, 105, 170, 607, 520, 932, 727, 476, 693, 425, 174,
  647, 73, 122, 335, 530, 442, 853, 695, 249, 445, 515, 909, 545, 703, 919, 874, 474, 882, 500, 594,
  612, 641, 801, 220, 162, 819, 984, 589, 513, 495, 799, 161, 604, 958, 533, 221, 400, 386, 867,
  600, 782, 382, 596, 414, 171, 516, 375, 682, 485, 911, 276, 98, 553, 163, 354, 666, 933, 424, 341,
  533, 870, 227, 730, 475, 186, 263, 647, 537, 686, 600, 224, 469, 68, 770, 919, 190, 373, 294, 822,
  808, 206, 184, 943, 795, 384, 383, 461, 404, 758, 839, 887, 715, 67, 618, 276, 204, 918, 873, 777,
  604, 560, 951, 160, 578, 722, 79, 804, 96, 409, 713, 940, 652, 934, 970, 447, 318, 353, 859, 672,
  112, 785, 645, 863, 803, 350, 139, 93, 354, 99, 820, 908, 609, 772, 154, 274, 580, 184, 79, 626,
  630, 742, 653, 282, 762, 623, 680, 81, 927, 626, 789, 125, 411, 521, 938, 300, 821, 78, 343, 175,
  128, 250, 170, 774, 972, 275, 999, 639, 495, 78, 352, 126, 857, 956, 358, 619, 580, 124, 737, 594,
  701, 612, 669, 112, 134, 694, 363, 992, 809, 743, 168, 974, 944, 375, 748, 52, 600, 747, 642, 182,
  862, 81, 344, 805, 988, 739, 511, 655, 814, 334, 249, 515, 897, 955, 664, 981, 649, 113, 974, 459,
  893, 228, 433, 837, 553, 268, 926, 240, 102, 654, 459, 51, 686, 754, 806, 760, 493, 403, 415, 394,
  687, 700, 946, 670, 656, 610, 738, 392, 760, 799, 887, 653, 978, 321, 576, 617, 626, 502, 894,
  679, 243, 440, 680, 879, 194, 572, 640, 724, 926, 56, 204, 700, 707, 151, 457, 449, 797, 195, 791,
  558, 945, 679, 297, 59, 87, 824, 713, 663, 412, 693, 342, 606, 134, 108, 571, 364, 631, 212, 174,
  643, 304, 329, 343, 97, 430, 751, 497, 314, 983, 374, 822, 928, 140, 206, 73, 263, 980, 736, 876,
  478, 430, 305, 170, 514, 364, 692, 829, 82, 855, 953, 676, 246, 369, 970, 294, 750, 807, 827, 150,
  790, 288, 923, 804, 378, 215, 828, 592, 281, 565, 555, 710, 82, 896, 831, 547, 261, 524, 462, 293,
  465, 502, 56, 661, 821, 976, 991, 658, 869, 905, 758, 745, 193, 768, 550, 608, 933, 378, 286, 215,
  979, 792, 961, 61, 688, 793, 644, 986, 403, 106, 366, 905, 644, 372, 567, 466, 434, 645, 210, 389,
  550, 919, 135, 780, 773, 635, 389, 707, 100, 626, 958, 165, 504, 920, 176, 193, 713, 857, 265,
  203, 50, 668, 108, 645, 990, 626, 197, 510, 357, 358, 850, 858, 364, 936, 638]

/--
Flip the lowest bit of the byte that stands last but one before the end of each gap.  `left` is what
is left of the present gap.
-/
def unscramble (left : Nat) (gaps : List Nat) : List UInt8 → Array UInt8 → Array UInt8
  | [], output => output
  | byte :: rest, output =>
      let (left, gaps) :=
        if left > 0 then (left, gaps)
        else match gaps with
          | gap :: gaps => (gap, gaps)
          | [] => (scrambleGaps.headD 0, scrambleGaps.drop 1)
      unscramble (left - 1) gaps rest (output.push (if left = 2 then byte ^^^ 1 else byte))

/-! ## Sorted rotations -/

/-- The last column of the sorted rotations, and the row of the block itself. -/
def sortRotations (block : Bytes) : Bytes × Nat :=
  let rotations := (List.range block.length).map fun i => (block.drop i ++ block.take i, i)
  let sorted := rotations.mergeSort fun a b => decide (a.1 ≤ b.1)
  let column := sorted.filterMap fun (rotation, _) => rotation.getLast?
  (column, (sorted.findIdx? fun (_, i) => i = 0).getD 0)

/-- Follow the rows of the sorted rotations for a number of bytes. -/
def followRows (column : Array UInt8) (next : Array Nat) :
    Nat → Nat → Array UInt8 → Array UInt8
  | 0, _, output => output
  | count + 1, row, output =>
      followRows column next count (next.getD row 0) (output.push (column.getD row 0))

/--
The block that has a given last column and stands in a given row, and the byte that comes after its
last one, where it starts again.
-/
def unsortRotations (column : Bytes) (row : Nat) : Array UInt8 :=
  let next := ((column.zipIdx.mergeSort fun a b => decide (a.1 ≤ b.1)).map Prod.snd).toArray
  followRows column.toArray next (column.length + 1) (next.getD row 0) #[]

/-! ## Moving to the front -/

/-- Move the element at a place to the front. -/
def moveToFront (place : Nat) (list : Bytes) : Option (UInt8 × Bytes) :=
  match list[place]? with
  | some byte => some (byte, byte :: list.eraseIdx place)
  | none => none

/-- The places of bytes in a list that moves the last used byte to the front. -/
def toPlaces : Bytes → Bytes → List Nat
  | _, [] => []
  | list, byte :: rest =>
      let place := list.idxOf byte
      place :: toPlaces (byte :: list.eraseIdx place) rest

/-- The digits of a run of zeros, in the number system with the digits one and two. -/
def runDigits : Nat → Nat → List Nat
  | 0, _ => []
  | _ + 1, 0 => []
  | steps + 1, run =>
      if run % 2 = 1 then 0 :: runDigits steps ((run - 1) / 2)
      else 1 :: runDigits steps ((run - 2) / 2)

/-- The symbols of places: runs of zeros as digits, other places one higher. -/
def toSymbols : List Nat → Nat → List Nat
  | [], run => runDigits run run
  | 0 :: rest, run => toSymbols rest (run + 1)
  | place :: rest, run => runDigits run run ++ (place + 1) :: toSymbols rest 0

/--
A column that is being read: the list with the last used byte in front, the length of the run of
zeros so far, what the next digit of that run counts, and the bytes.
-/
structure Column where
  list : Bytes
  run : Nat := 0
  weight : Nat := 1
  bytes : Array UInt8 := #[]

namespace Column

/-- What no digit of a run may count. -/
def maxWeight : Nat := 2097152

/-- Put the bytes of a run into a column of at most the given size. -/
def endRun (limit : Nat) (column : Column) : Except Damage Column :=
  if column.run = 0 then
    .ok { column with weight := 1 }
  else if column.bytes.size + column.run ≤ limit then
    let bytes := pushCopies (column.list.headD 0) column.run column.bytes
    .ok { column with run := 0, weight := 1, bytes }
  else
    .error .corrupt

/-- Add a symbol to a column of at most the given size. -/
def push (limit symbol : Nat) (column : Column) : Except Damage Column :=
  if symbol < 2 then
    if column.weight < maxWeight then
      .ok { column with
        run := column.run + column.weight * (symbol + 1)
        weight := 2 * column.weight }
    else
      .error .corrupt
  else do
    let column ← column.endRun limit
    let (byte, list) ← orCorrupt (moveToFront (symbol - 1) column.list)
    if column.bytes.size < limit then
      return { column with list, bytes := column.bytes.push byte }
    else
      .error .corrupt

end Column

end Provision.Codec.Bzip2

namespace Provision.Codec.Bzip2

/-!
# Reading bzip2

A bzip2 stream is a sequence of blocks, each with a check of its content, and a check of all checks.
A block names the bytes that occur in it, and gives its symbols under up to six Huffman codes, of
which one is selected for every fifty symbols.  Only the first stream of a file is read.
-/

/-! ## Blocks -/

/-- Read which of sixteen bytes occur, for each range of bytes that occurs. -/
def readUsed : List Bool → Nat → Bits → Except Damage (Bytes × Bits)
  | [], _, bits => .ok ([], bits)
  | false :: ranges, base, bits => readUsed ranges (base + 16) bits
  | true :: ranges, base, bits => do
      let (flags, bits) ← orCutShort (Bits.take? 16 bits)
      let (used, bits) ← readUsed ranges (base + 16) bits
      let here := flags.zipIdx.filterMap fun (flag, i) =>
        if flag then some (UInt8.ofNat (base + i)) else none
      return (here ++ used, bits)

/-- Read a place below a bound, as ones before a zero. -/
def readPlace : Nat → Nat → Bits → Except Damage (Nat × Bits)
  | _, _, [] => .error .cutShort
  | _, place, false :: bits => .ok (place, bits)
  | 0, _, true :: _ => .error .corrupt
  | 1, _, true :: _ => .error .corrupt
  | bound + 2, place, true :: bits => readPlace (bound + 1) (place + 1) bits

/-- Read the given number of selectors, in reverse, as places in a list of codes. -/
def readSelectors (codes : Nat) : Nat → Bytes → List Nat → Bits → Except Damage (List Nat × Bits)
  | 0, _, selectors, bits => .ok (selectors, bits)
  | count + 1, order, selectors, bits => do
      let (place, bits) ← readPlace codes 0 bits
      let (code, order) ← orCorrupt (moveToFront place order)
      readSelectors codes count order (code.toNat :: selectors) bits

/-- Whether a word may have a length. -/
def isWordLength (length : Nat) : Bool :=
  1 ≤ length && length ≤ WordTable.maxLength

/-- Read the change from one word length to the next, in steps up or down. -/
def readLength (length : Nat) (bits : Bits) : Except Damage (Nat × Bits) :=
  if isWordLength length then
    match bits with
    | false :: bits => .ok (length, bits)
    | true :: isDown :: bits => readLength (if isDown then length - 1 else length + 1) bits
    | _ => .error .cutShort
  else
    .error .corrupt

/-- Read the given number of word lengths. -/
def readLengths : Nat → Nat → Bits → Except Damage (List Nat × Bits)
  | 0, _, bits => .ok ([], bits)
  | count + 1, length, bits => do
      let (length, bits) ← readLength length bits
      let (lengths, bits) ← readLengths count length bits
      return (length :: lengths, bits)

/-- Read the given number of codes. -/
def readCodes (symbols : Nat) : Nat → Bits → Except Damage (List WordTable × Bits)
  | 0, bits => .ok ([], bits)
  | count + 1, bits => do
      let (start, bits) ← Bits.readHigh 5 bits
      let (lengths, bits) ← readLengths symbols start bits
      let (codes, bits) ← readCodes symbols count bits
      return (WordTable.ofLengths lengths :: codes, bits)

/-- Read symbols under one code; the first part says whether the block ended. -/
def readGroup (code : WordTable) (last limit : Nat) :
    Nat → Column → Bits → Except Damage (Bool × Column × Bits)
  | 0, column, bits => .ok (false, column, bits)
  | count + 1, column, bits => do
      let (symbol, bits) ← code.read bits
      if symbol = last then
        return (true, ← column.endRun limit, bits)
      else
        readGroup code last limit count (← column.push limit symbol) bits

/-- Read the symbols of a block, fifty under each selected code. -/
def readGroups (codes : Array WordTable) (last limit : Nat) :
    List Nat → Column → Bits → Except Damage (Column × Bits)
  | [], _, _ => .error .corrupt
  | selector :: selectors, column, bits => do
      let code ← orCorrupt codes[selector]?
      let (ended, column, bits) ← readGroup code last limit 50 column bits
      if ended then
        return (column, bits)
      else
        readGroups codes last limit selectors column bits

/-- The most selectors that are used. -/
def maxSelectors : Nat := 18002

/-- The number of bytes of a column that each step of the level of a stream allows. -/
def levelBytes : Nat := 100000

/--
Read a block after its mark and its check: its bytes and the one after them, before runs are
expanded.
-/
def readBlock (limit : Nat) (bits : Bits) : Except Damage (Array UInt8 × Bits) := do
  let (isScrambled, bits) ← Bits.readHigh 1 bits
  let (row, bits) ← Bits.readHigh 24 bits
  if row > limit + 10 then
    .error .corrupt
  let (ranges, bits) ← orCutShort (Bits.take? 16 bits)
  let (used, bits) ← readUsed ranges 0 bits
  if used.isEmpty then
    .error .corrupt
  let (codeCount, bits) ← Bits.readHigh 3 bits
  if codeCount < 2 || codeCount > 6 then
    .error .corrupt
  let (selectorCount, bits) ← Bits.readHigh 15 bits
  if selectorCount = 0 then
    .error .corrupt
  let order := (List.range codeCount).map UInt8.ofNat
  let (selectors, bits) ← readSelectors codeCount selectorCount order [] bits
  let (codes, bits) ← readCodes (used.length + 2) codeCount bits
  let (column, bits) ← readGroups codes.toArray (used.length + 1) limit
    (selectors.reverse.take maxSelectors) { list := used } bits
  if row < column.bytes.size then
    let block := unsortRotations column.bytes.toList row
    return (if isScrambled = 1 then unscramble 0 scrambleGaps block.toList #[] else block, bits)
  else
    .error .corrupt

/-! ## Streams -/

/-- The bytes in front of a block. -/
def blockMark : Bytes := [0x31, 0x41, 0x59, 0x26, 0x53, 0x59]

/-- The bytes at the end of a stream. -/
def endMark : Bytes := [0x17, 0x72, 0x45, 0x38, 0x50, 0x90]

/-- Read the rest of a mark, byte by byte. -/
def readMark : Bytes → Bits → Except Damage Bits
  | [], bits => .ok bits
  | byte :: mark, bits => do
      let (value, bits) ← Bits.readHigh 8 bits
      if value = byte.toNat then readMark mark bits else .error .corrupt

/-- Read a mark; the first part says whether it is that of a block. -/
def readBlockOrEnd (bits : Bits) : Except Damage (Bool × Bits) := do
  let (first, rest) ← Bits.readHigh 8 bits
  if some first = endMark.head?.map UInt8.toNat then
    return (false, ← readMark (endMark.drop 1) rest)
  else
    return (true, ← readMark blockMark bits)

/-- Put the check of a block into the check of the stream. -/
def combine (total check : UInt32) : UInt32 :=
  ((total <<< 1) ||| (total >>> 31)) ^^^ check

/-- Read at most the given number of blocks, up to the end of the stream. -/
def readBlocks (limit : Nat) :
    Nat → UInt32 → Array UInt8 → Bits → Array UInt8 × Except Damage Bits
  | 0, _, output, _ => (output, .error .corrupt)
  | steps + 1, total, output, bits =>
      let start := do
        let (isBlock, bits) ← readBlockOrEnd bits
        let (check, bits) ← Bits.readHigh 32 bits
        if isBlock then
          let (block, bits) ← readBlock limit bits
          return (check, some block, bits)
        else
          return (check, none, bits)
      match start with
      | .error damage => (output, .error damage)
      | .ok (check, none, bits) =>
          (output, if check = total.toNat then .ok bits else .error .corrupt)
      | .ok (check, some block, bits) =>
          let (content, isWhole) := expandRuns (block.back?.getD 0) block.pop.toList 0 0 #[]
          let output := output ++ content
          let found := Digest.Crc.plain32 content.toList
          if isWhole && found.toNat = check then
            readBlocks limit steps (combine total found) output bits
          else
            (output, .error .corrupt)

/-- Decode the first stream, and keep all output even if it is damaged. -/
def decodeAll (input : Bytes) : Decoded :=
  match input with
  | 0x42 :: 0x5a :: 0x68 :: level :: stream =>
      if 0x31 ≤ level && level ≤ 0x39 then
        let bits := Bits.ofBytesHigh stream
        let limit := levelBytes * (level.toNat - 0x30)
        let (output, rest) := readBlocks limit (bits.length + 1) 0 #[] bits
        ⟨output.toList, rest.map fun bits => bits.align.toBytesHigh input.length⟩
      else
        ⟨[], .error .corrupt⟩
  | _ => ⟨[], .error .corrupt⟩

/-- The number of bytes of input that are taken at a time. -/
def pieceSize : Nat := 8192

/-- Decode the first stream for a reader that asks for the given number of bytes at a time. -/
def decode (step : Nat) (input : Bytes) : Decoded :=
  let decoded := decodeAll input
  match decoded.rest with
  | .error .corrupt => decoded.keepPieces step (Decoded.madeBefore decodeAll pieceSize input)
  | _ => decoded

/-!
# Writing bzip2

Contents are written in small blocks, and all symbols of a block have words of one length.
-/

/-- The number of bytes of content that go into one block. -/
def blockContent : Nat := 500

/-- Which bytes occur: sixteen flags for the ranges, and sixteen for each range that occurs. -/
def usedBits (used : Bytes) : Bits :=
  let occurs (range : Nat) : List Bool :=
    (List.range 16).map fun i => used.contains (UInt8.ofNat (16 * range + i))
  let ranges := (List.range 16).map occurs
  ranges.map (·.any id) ++ (ranges.filter (·.any id)).flatten

/-- The bits of one block; all symbols have words of nine bits. -/
def writeBlock (content : Bytes) : Bits :=
  let block :=
    match content with
    | [] => []
    | byte :: rest => shortenRuns rest byte 1
  let (column, row) := sortRotations block
  let used := ((List.range 256).map UInt8.ofNat).filter column.contains
  let symbols := toSymbols (toPlaces used column) 0 ++ [used.length + 1]
  let selectorCount := (symbols.length + 49) / 50
  let table := Bits.high 5 9 ++ List.replicate (used.length + 2) false
  Bits.ofBytesHigh blockMark ++ Bits.high 32 (Digest.Crc.plain32 content).toNat ++ [false] ++
    Bits.high 24 row ++ usedBits used ++ Bits.high 3 2 ++ Bits.high 15 selectorCount ++
    List.replicate selectorCount false ++ table ++ table ++ symbols.flatMap (Bits.high 9)

/-- The bits of all blocks and of the end of the stream. -/
def writeBlocks : Nat → UInt32 → Bytes → Bits
  | 0, _, _ => []
  | blocks + 1, total, content =>
      if content.isEmpty then
        Bits.ofBytesHigh endMark ++ Bits.high 32 total.toNat
      else
        let block := content.take blockContent
        writeBlock block ++
          writeBlocks blocks (combine total (Digest.Crc.plain32 block)) (content.drop blockContent)

/-- Encode a content as one stream. -/
def encode (content : Bytes) : Bytes :=
  let bits := writeBlocks (content.length + 1) 0 content
  let padding := List.replicate ((8 - bits.length % 8) % 8) false
  [0x42, 0x5a, 0x68, 0x39] ++ (bits ++ padding).toBytesHigh (bits.length + 1)

end Provision.Codec.Bzip2
