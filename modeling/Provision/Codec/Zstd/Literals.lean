import Provision.Codec.Basic
import Provision.Codec.StateTable

namespace Provision.Codec.Zstd

/-!
# Literals of a Zstandard block

The bytes of a block that are no copies come first.  They are stored, are one byte repeated, or are
Huffman coded in one stream or in four.  A code is given by weights, where a symbol of a higher
weight has a shorter word, or is that of an earlier block.
-/

/-! ## Codes -/

/-- A Huffman code: for every text of `log` bits, the symbol and the length of the word in front. -/
structure WeightCode where
  log : Nat
  words : Array (Nat × Nat)

namespace WeightCode

/-- The longest word, in bits. -/
def maxLog : Nat := 12

/-- The sum of numbers. -/
def total (numbers : List Nat) : Nat :=
  numbers.foldl (· + ·) 0

/-- The part of all texts that a symbol of a given weight stands in front of. -/
def room (weight : Nat) : Nat :=
  (1 <<< weight) / 2

/-- All symbols of one weight with the texts that they stand in front of. -/
def wordsOfWeight (log : Nat) (weights : List Nat) (weight : Nat) : List (Nat × Nat) :=
  weights.zipIdx.flatMap fun (given, symbol) =>
    if given = weight then List.replicate (room weight) (symbol, log + 1 - weight) else []

/--
The code of which all weights but the last are given; the last one makes the code complete.  There
have to be words of the greatest length, and they come in pairs.
-/
def ofWeights? (given : List Nat) : Option WeightCode :=
  let sum := total (given.map room)
  let log := Nat.log2 sum + 1
  if given.any (maxLog < ·) || sum = 0 || maxLog < log then
    none
  else
    let left := (1 <<< log) - sum
    let weights := given ++ [Nat.log2 left + 1]
    let longest := (weights.filter (· = 1)).length
    if left ≠ 1 <<< Nat.log2 left || longest < 2 || longest % 2 = 1 then
      none
    else
      let words := (List.range log).flatMap fun i => wordsOfWeight log weights (i + 1)
      some ⟨log, words.toArray⟩

/-- The weights of half a byte each. -/
def splitHalves (bytes : Bytes) : List Nat :=
  bytes.flatMap fun byte => [byte.toNat / 16, byte.toNat % 16]

/--
Read weights under two states that take turns, each with the symbol of the state that is left.
Where the bits do not suffice for the next state, the other state gives the last weight.
-/
def readWeights? (table : StateTable) :
    Nat → TableState → TableState → List Nat → Bits → Option (List Nat)
  | 0, _, _, _, _ => none
  | count + 1, state, other, weights, bits =>
      let weights := state.symbol :: weights
      match table.next? state bits with
      | some (state, bits) => readWeights? table count other state weights bits
      | none => some (other.symbol :: weights).reverse

/-- The most symbols that can be given weights by a state table. -/
def maxCoded : Nat := 254

/-- Read weights that are coded with a state table. -/
def readCodedWeights? (bytes : Bytes) : Option (List Nat) := do
  let (table, stream) ← StateTable.read? 256 6 bytes
  let bits ← Bits.ofBytesBackward? stream
  let (first, bits) ← table.start? bits
  let (second, bits) ← table.start? bits
  readWeights? table maxCoded first second [] bits

/-- Read the description of a code, and give the bytes after it. -/
def read? (bytes : Bytes) : Option (WeightCode × Bytes) := do
  let (size, bytes) ← readNumber? 1 bytes
  if size < 128 then
    let (coded, rest) ← takeExact? size bytes
    let weights ← readCodedWeights? coded
    return (← ofWeights? weights, rest)
  else
    let count := size - 127
    let (halves, rest) ← takeExact? ((count + 1) / 2) bytes
    return (← ofWeights? ((splitHalves halves).take count), rest)

/-- The symbol that the bits begin with, as if zeros followed them. -/
def peek (code : WeightCode) (bits : Bits) : Nat × Nat :=
  let front := bits.take code.log
  code.words.getD (Bits.valueHigh front <<< (code.log - front.length)) (0, 0)

/-- Decode the given number of symbols from a stream that holds no more. -/
def decode? (code : WeightCode) : Nat → Array UInt8 → Bits → Option (Array UInt8)
  | 0, output, bits => if bits.isEmpty then some output else none
  | count + 1, output, bits =>
      let (symbol, length) := code.peek bits
      match Bits.take? length bits with
      | some (_, bits) => decode? code count (output.push (UInt8.ofNat symbol)) bits
      | none => none

/-- Decode the given number of symbols from bytes. -/
def decodeBytes? (code : WeightCode) (count : Nat) (output : Array UInt8) (bytes : Bytes) :
    Option (Array UInt8) :=
  (Bits.ofBytesBackward? bytes).bind (code.decode? count output)

/-- The fewest symbols that four streams can share. -/
def minShared : Nat := 6

/-- Decode the given number of symbols from four streams, of which the first three are measured. -/
def decodeShared? (code : WeightCode) (count : Nat) (bytes : Bytes) : Option (Array UInt8) := do
  if bytes.length < 10 || count < minShared then
    none
  let (first, bytes) ← readNumber? 2 bytes
  let (second, bytes) ← readNumber? 2 bytes
  let (third, bytes) ← readNumber? 2 bytes
  let part := (count + 3) / 4
  let (stream, bytes) ← takeExact? first bytes
  let output ← code.decodeBytes? part #[] stream
  let (stream, bytes) ← takeExact? second bytes
  let output ← code.decodeBytes? part output stream
  let (stream, bytes) ← takeExact? third bytes
  let output ← code.decodeBytes? part output stream
  code.decodeBytes? (count - 3 * part) output bytes

end WeightCode

/-! ## Sections -/

/-- Read the size of literals that are stored or repeated, which has up to twenty bits. -/
def readPlainSize? (bytes : Bytes) : Option (Nat × Bytes) := do
  let kind := (bytes.headD 0).toNat / 4 % 4
  if kind = 1 then
    let (value, rest) ← readNumber? 2 bytes
    return (value / 16, rest)
  else if kind = 3 then
    let (value, rest) ← readNumber? 3 bytes
    return (value / 16, rest)
  else
    let (value, rest) ← readNumber? 1 bytes
    return (value / 8, rest)

/-- Read whether there are four streams, the number of literals, and their coded size. -/
def readCodedSize? (bytes : Bytes) : Option ((Bool × Nat × Nat) × Bytes) := do
  let kind := (bytes.headD 0).toNat / 4 % 4
  let (length, width) := if kind < 2 then (3, 10) else if kind = 2 then (4, 14) else (5, 18)
  let (value, rest) ← readNumber? length bytes
  let count := value / 16 % (1 <<< width)
  return ((kind ≠ 0, count, value >>> (4 + width)), rest)

/--
Read the literals of a block, at most as many as given.  Beside them come the code that they used,
or the earlier one, and the bytes after them.
-/
def readLiterals? (limit : Nat) (earlier? : Option WeightCode) (bytes : Bytes) :
    Option (Array UInt8 × Option WeightCode × Bytes) := do
  let kind := (bytes.headD 0).toNat % 4
  if bytes.length < 2 then
    none
  else if kind < 2 then
    let (count, rest) ← readPlainSize? bytes
    if limit < count then
      none
    else if kind = 0 then
      let (stored, rest) ← takeExact? count rest
      return (stored.toArray, earlier?, rest)
    else
      let byte ← rest.head?
      return (Array.replicate count byte, earlier?, rest.drop 1)
  else if bytes.length < 5 then
    none
  else
    let ((isShared, count, size), rest) ← readCodedSize? bytes
    let (coded, rest) ← takeExact? size rest
    let (code, streams) ←
      if kind = 2 then WeightCode.read? coded else earlier?.map fun code => (code, coded)
    if limit < count || streams.isEmpty then
      none
    else
      let literals ←
        if isShared then code.decodeShared? count streams
        else code.decodeBytes? count #[] streams
      return (literals, some code, rest)

end Provision.Codec.Zstd
