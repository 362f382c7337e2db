import Provision.Codec.Basic
import Provision.Codec.Zstd.Literals

namespace Provision.Codec.Zstd

/-!
# Sequences of a Zstandard block

A sequence is a number of literals and a copy of earlier output.  The number, the length of the copy
and its distance are symbols of three state tables, each with bits added to it.  Distances may also
be one of the last three.
-/

/-! ## What the symbols stand for -/

/-- For each symbol of a number of literals, the least number and the bits added to it. -/
def literalCounts : List (Nat × Nat) :=
  (List.range 16).map (fun i => (i, 0)) ++ [
    (16, 1), (18, 1), (20, 1), (22, 1), (24, 2), (28, 2), (32, 3), (40, 3), (48, 4), (64, 6),
    (128, 7), (256, 8), (512, 9), (1024, 10), (2048, 11), (4096, 12), (8192, 13), (16384, 14),
    (32768, 15), (65536, 16)]

/-- For each symbol of a length of a copy, the least length and the bits added to it. -/
def copyLengths : List (Nat × Nat) :=
  (List.range 32).map (fun i => (i + 3, 0)) ++ [
    (35, 1), (37, 1), (39, 1), (41, 1), (43, 2), (47, 2), (51, 3), (59, 3), (67, 4), (83, 4),
    (99, 5), (131, 7), (259, 8), (515, 9), (1027, 10), (2051, 11), (4099, 12), (8195, 13),
    (16387, 14), (32771, 15), (65539, 16)]

/-- The number of symbols of distances; a symbol is the number of bits below the highest one. -/
def distanceSymbols : Nat := 32

/-- Shares as small numbers, of which zero stands for a rare symbol. -/
def sharesOf (numbers : List Nat) : List Share :=
  numbers.map fun number => if number = 0 then .rare else .states number

/-- The table for numbers of literals where a block gives none. -/
def standardLiterals : StateTable :=
  .ofShares 6 (sharesOf ([4, 3] ++ List.replicate 11 2 ++ [1, 1, 1] ++ List.replicate 9 2 ++
    [3, 2, 1, 1, 1, 1, 1, 0, 0, 0, 0]))

/-- The table for distances where a block gives none. -/
def standardDistances : StateTable :=
  .ofShares 5 (sharesOf (List.replicate 6 1 ++ [2, 2, 2] ++ List.replicate 15 1 ++
    List.replicate 5 0))

/-- The table for lengths of copies where a block gives none. -/
def standardLengths : StateTable :=
  .ofShares 6 (sharesOf ([1, 4, 3] ++ List.replicate 6 2 ++ List.replicate 37 1 ++
    List.replicate 7 0))

/-- The tables of the three symbols of a sequence. -/
structure SequenceTables where
  literals : StateTable
  distances : StateTable
  lengths : StateTable

/-- Read one table: the standard one, a single symbol, a description, or the earlier one. -/
def readTable? (kind limit maxLog : Nat) (standard : StateTable) (earlier? : Option StateTable)
    (bytes : Bytes) : Option (StateTable × Bytes) :=
  if kind = 0 then some (standard, bytes)
  else if kind = 1 then
    match bytes with
    | symbol :: rest =>
        if symbol.toNat < limit then some (.single symbol.toNat, rest) else none
    | [] => none
  else if kind = 2 then StateTable.read? limit maxLog bytes
  else earlier?.map fun table => (table, bytes)

/-- Read the tables of a block. -/
def readTables? (earlier? : Option SequenceTables) (bytes : Bytes) :
    Option (SequenceTables × Bytes) := do
  let (kinds, bytes) ← readNumber? 1 bytes
  if kinds % 4 ≠ 0 then
    none
  let (literals, bytes) ← readTable? (kinds / 64) literalCounts.length 9 standardLiterals
    (earlier?.map SequenceTables.literals) bytes
  let (distances, bytes) ← readTable? (kinds / 16 % 4) distanceSymbols 8 standardDistances
    (earlier?.map SequenceTables.distances) bytes
  let (lengths, bytes) ← readTable? (kinds / 4 % 4) copyLengths.length 9 standardLengths
    (earlier?.map SequenceTables.lengths) bytes
  return (⟨literals, distances, lengths⟩, bytes)

/-! ## Reading sequences -/

/-- The last three distances, the latest first. -/
structure Recent where
  first : Nat := 1
  second : Nat := 4
  third : Nat := 8
  deriving DecidableEq

namespace Recent

/-- Put a distance in front. -/
def push (distance : Nat) (recent : Recent) : Recent :=
  ⟨distance, recent.first, recent.second⟩

/--
The distance of a copy and the last distances after it.  Small values name one of the last
distances; after no literals they name the next one, as the first could have gone on, and last of
all one less than the first.
-/
def resolve (value : Nat) (afterLiterals : Bool) (recent : Recent) : Nat × Recent :=
  let place := if afterLiterals then value else value + 1
  if value > 3 then (value - 3, recent.push (value - 3))
  else if place = 1 then (recent.first, recent)
  else if place = 2 then (recent.second, ⟨recent.second, recent.first, recent.third⟩)
  else if place = 3 then (recent.third, recent.push recent.third)
  else (recent.first - 1, recent.push (recent.first - 1))

end Recent

/-- The states of the three symbols of a sequence. -/
structure SequenceStates where
  literals : TableState
  distance : TableState
  length : TableState

/-- What the sequences of a block have done: the literals used, the distances, and the output. -/
structure Progress where
  used : Nat := 0
  recent : Recent
  output : Array UInt8

/-- Read the number that a symbol of a list stands for. -/
def readValue? (list : List (Nat × Nat)) (symbol : Nat) (bits : Bits) : Option (Nat × Bits) := do
  let (least, width) ← list[symbol]?
  let (added, bits) ← Bits.readHigh? width bits
  return (least + added, bits)

/-- Carry out a sequence; neither literals nor output may run short. -/
def Progress.apply? (progress : Progress) (literals : Array UInt8) (count value length : Nat) :
    Option Progress :=
  let stop := progress.used + count
  let output := progress.output ++ literals.extract progress.used stop
  let (distance, recent) := progress.recent.resolve value (count ≠ 0)
  if stop ≤ literals.size && 0 < distance && distance ≤ output.size then
    some ⟨stop, recent, copyBack distance length output⟩
  else
    none

/--
Read and carry out the given number of sequences and one more, from a stream that holds no more
bits.  The output has a limit.
-/
def runSequences? (tables : SequenceTables) (literals : Array UInt8) (limit : Nat) :
    Nat → SequenceStates → Progress → Bits → Option Progress
  | left, states, progress, bits => do
      let (low, bits) ← Bits.readHigh? states.distance.symbol bits
      let value := 1 <<< states.distance.symbol + low
      let (length, bits) ← readValue? copyLengths states.length.symbol bits
      let (count, bits) ← readValue? literalCounts states.literals.symbol bits
      let progress ← progress.apply? literals count value length
      if limit < progress.output.size then
        none
      else
        match left with
        | 0 => if bits.isEmpty then some progress else none
        | left + 1 =>
            let (literalState, bits) ← tables.literals.next? states.literals bits
            let (lengthState, bits) ← tables.lengths.next? states.length bits
            let (distanceState, bits) ← tables.distances.next? states.distance bits
            runSequences? tables literals limit left ⟨literalState, distanceState, lengthState⟩
              progress bits

/-- Read the number of sequences, in one to three bytes. -/
def readSequenceCount? (bytes : Bytes) : Option (Nat × Bytes) :=
  match bytes with
  | 255 :: low :: high :: rest => some (low.toNat + 256 * high.toNat + 0x7f00, rest)
  | first :: rest =>
      if first < 128 then
        some (first.toNat, rest)
      else
        match rest with
        | second :: rest =>
            if first = 255 then none
            else some ((first.toNat - 128) * 256 + second.toNat, rest)
        | [] => none
  | [] => none

/-! ## Blocks -/

/-- What a block leaves for the next one: its codes, and the last distances. -/
structure Memory where
  code? : Option WeightCode := none
  tables? : Option SequenceTables := none
  recent : Recent := {}

/-- Decode a compressed block onto earlier output, to at most the given number of bytes. -/
def decodeBlock? (maxBlock : Nat) (memory : Memory) (output : Array UInt8) (bytes : Bytes) :
    Option (Memory × Array UInt8) := do
  let limit := output.size + maxBlock
  let (literals, code?, bytes) ← readLiterals? maxBlock memory.code? bytes
  let (count, bytes) ← readSequenceCount? bytes
  match count with
  | 0 =>
      if bytes.isEmpty && output.size + literals.size ≤ limit then
        return ({ memory with code? }, output ++ literals)
      else
        none
  | further + 1 =>
      let (tables, bytes) ← readTables? memory.tables? bytes
      let bits ← Bits.ofBytesBackward? bytes
      let (literalState, bits) ← tables.literals.start? bits
      let (distanceState, bits) ← tables.distances.start? bits
      let (lengthState, bits) ← tables.lengths.start? bits
      let progress ← runSequences? tables literals limit further
        ⟨literalState, distanceState, lengthState⟩ ⟨0, memory.recent, output⟩ bits
      let output := progress.output ++ literals.extract progress.used literals.size
      if output.size ≤ limit then
        return (⟨code?, some tables, progress.recent⟩, output)
      else
        none

end Provision.Codec.Zstd
