import Provision.Codec.Basic

namespace Provision.Codec.Lzma

/-!
# The range decoder

Each bit is decoded with an estimate of how likely it is a zero, and the estimate moves towards the
bits seen.  The interval is widened by a byte of input when the next bit needs it, and no earlier.
-/

/--
The range decoder: its interval, the input that is left, how much of that it may take, and the
estimates.
-/
structure Coder where
  range : UInt32
  code : UInt32
  input : Bytes
  allowed : Nat
  estimates : Array Nat

/-- A decoding step, which may find damage. -/
abbrev Step := StateT Coder (Except Damage)

/-- The width below which an interval is widened. -/
def narrow : UInt32 := 0x1000000

/-- Widen the interval by one byte of input when it has become narrow. -/
def widen (coder : Coder) : Except Damage Coder :=
  if coder.range < narrow then
    match coder.input, coder.allowed with
    | [], _ => .error .cutShort
    | _ :: _, 0 => .error .corrupt
    | byte :: rest, allowed + 1 =>
        .ok { coder with
          range := coder.range <<< 8
          code := (coder.code <<< 8) ||| byte.toUInt32
          input := rest
          allowed }
  else
    .ok coder

/-- Decode one bit with the estimate at an index. -/
def bit (index : Nat) : Step Nat := fun coder => do
  let coder ← widen coder
  let estimate := coder.estimates.getD index 1024
  let bound := (coder.range >>> 11) * UInt32.ofNat estimate
  if coder.code < bound then
    let higher := estimate + (2048 - estimate) / 32
    return (0, { coder with
      range := bound
      estimates := coder.estimates.setIfInBounds index higher })
  else
    let lower := estimate - estimate / 32
    return (1, { coder with
      range := coder.range - bound
      code := coder.code - bound
      estimates := coder.estimates.setIfInBounds index lower })

/-- Decode one bit that is as likely a zero as a one, by the sign of what is left of the code. -/
def evenBit : Step Nat := fun coder => do
  let coder ← widen coder
  let half := coder.range >>> 1
  let left := coder.code - half
  if left < 0x80000000 then
    return (1, { coder with range := half, code := left })
  else
    return (0, { coder with range := half })

/-- Decode a number of even bits onto a value, highest first. -/
def evenBits : Nat → Nat → Step Nat
  | 0, value => return value
  | count + 1, value => do evenBits count (2 * value + (← evenBit))

/-- Decode bits highest first, each with an estimate that depends on those before it. -/
def treeFrom (base : Nat) : Nat → Nat → Step Nat
  | 0, node => return node
  | count + 1, node => do treeFrom base count (2 * node + (← bit (base + node)))

/-- Decode a number of the given count of bits, highest first. -/
def tree (base count : Nat) : Step Nat := do
  return (← treeFrom base count 1) - (1 <<< count)

/-- Decode bits lowest first, each with an estimate that depends on those before it. -/
def reverseTreeFrom (base : Nat) : Nat → Nat → Nat → Step Nat
  | 0, _, _ => return 0
  | count + 1, node, weight => do
      let b ← bit (base + node)
      return weight * b + (← reverseTreeFrom base count (2 * node + b) (2 * weight))

/-- Decode a number of the given count of bits, lowest first. -/
def reverseTree (base count : Nat) : Step Nat :=
  reverseTreeFrom base count 1 1

/-!
# LZMA symbols

The bits of an LZMA stream make up literals, copies from a distance, and copies from one of the last
four distances.
-/

/-! ## Where the estimates stand -/

/-- Whether a literal or a copy comes next. -/
def isMatchBase : Nat := 0

/-- Whether a copy repeats a distance. -/
def isRepBase : Nat := 192

/-- Whether the repeated distance is not the last one. -/
def isRep0Base : Nat := 204

/-- Whether the repeated distance is not the second last one. -/
def isRep1Base : Nat := 216

/-- Whether the repeated distance is not the third last one. -/
def isRep2Base : Nat := 228

/-- Whether a copy from the last distance is longer than one byte. -/
def isLongBase : Nat := 240

/-- The slots of distances. -/
def slotBase : Nat := 432

/-- The low bits of short distances. -/
def shortDistanceBase : Nat := 688

/-- The low bits of long distances. -/
def alignBase : Nat := 803

/-- The lengths of copies from a new distance. -/
def lengthBase : Nat := 819

/-- The lengths of copies from a repeated distance. -/
def repLengthBase : Nat := 1333

/-- The literals. -/
def literalBase : Nat := 1847

/-! ## The decoder -/

/-- How many bits of context literals and positions use. -/
structure Properties where
  literalContext : Nat
  literalPosition : Nat
  position : Nat
  deriving DecidableEq

/-- What is known between two symbols: what came last, and the last four distances. -/
structure Memory where
  state : Nat
  distance0 : Nat
  distance1 : Nat
  distance2 : Nat
  distance3 : Nat
  deriving DecidableEq

/-- The memory before the first symbol. -/
def Memory.initial : Memory :=
  ⟨0, 0, 0, 0, 0⟩

/-- The estimates before the first symbol. -/
def initialEstimates (properties : Properties) : Array Nat :=
  Array.replicate
    (literalBase + 0x300 <<< (properties.literalContext + properties.literalPosition)) 1024

/-- Decode the length of a copy, less two. -/
def readLength (base positionState : Nat) : Step Nat := do
  let isLonger ← bit base
  if isLonger = 0 then
    tree (base + 2 + 8 * positionState) 3
  else do
    let isLongest ← bit (base + 1)
    if isLongest = 0 then
      return 8 + (← tree (base + 130 + 8 * positionState) 3)
    else
      return 16 + (← tree (base + 258) 8)

/-- Decode a distance, less one. -/
def readDistance (length : Nat) : Step Nat := do
  let slot ← tree (slotBase + 64 * min length 3) 6
  if slot < 4 then
    return slot
  else
    let count := slot / 2 - 1
    let base := (2 + slot % 2) <<< count
    if slot < 14 then
      return base + (← reverseTree (shortDistanceBase + base - slot) count)
    else
      let high ← evenBits (count - 4) 0
      return base + 16 * high + (← reverseTree alignBase 4)

/-- Decode the rest of a literal without looking at earlier output. -/
def plainLiteral (base : Nat) : Nat → Nat → Step Nat
  | 0, node => return node
  | count + 1, node => do
      if node ≥ 256 then
        return node
      else
        plainLiteral base count (2 * node + (← bit (base + node)))

/-- Decode a literal beside the byte that a copy would have given, as long as they agree. -/
def matchedLiteral (base : Nat) : Nat → Nat → Nat → Step Nat
  | 0, node, _ => return node
  | count + 1, node, expected => do
      if node ≥ 256 then
        return node
      else
        let expectedBit := expected / 128 % 2
        let b ← bit (base + 256 * (1 + expectedBit) + node)
        let node := 2 * node + b
        if b = expectedBit then
          matchedLiteral base count node (2 * expected)
        else
          plainLiteral base count node

/-- The state after a literal. -/
def afterLiteral (state : Nat) : Nat :=
  if state < 4 then 0 else if state < 10 then state - 3 else state - 6

/-- Choose one of the distances before the last, and move it to the front. -/
def reorder (state : Nat) (memory : Memory) : Step Memory := do
  let notFirst ← bit (isRep1Base + state)
  if notFirst = 0 then
    return { memory with distance0 := memory.distance1, distance1 := memory.distance0 }
  else do
    let notSecond ← bit (isRep2Base + state)
    if notSecond = 0 then
      return { memory with
        distance0 := memory.distance2
        distance1 := memory.distance0
        distance2 := memory.distance1 }
    else
      return { memory with
        distance0 := memory.distance3
        distance1 := memory.distance0
        distance2 := memory.distance1
        distance3 := memory.distance2 }

/-- Decode a copy from a new distance. -/
def readFreshCopy (positionState : Nat) (memory : Memory) : Step (Nat × Memory) := do
  let length ← readLength lengthBase positionState
  let distance ← readDistance length
  return (length + 2,
    ⟨if memory.state < 7 then 7 else 10, distance, memory.distance0, memory.distance1,
      memory.distance2⟩)

/-- Decode a copy of more than one byte from the distance at the front. -/
def readRepeatedCopy (positionState : Nat) (memory : Memory) : Step (Nat × Memory) := do
  let length ← readLength repLengthBase positionState
  return (length + 2, { memory with state := if memory.state < 7 then 8 else 11 })

/-- Which copy comes next: its length, and the memory after it with its distance at the front. -/
def readCopy (positionState : Nat) (memory : Memory) : Step (Nat × Memory) := do
  let state := memory.state
  let isRepeated ← bit (isRepBase + state)
  if isRepeated = 0 then
    readFreshCopy positionState memory
  else do
    let notLast ← bit (isRep0Base + state)
    if notLast = 0 then
      let isLong ← bit (isLongBase + 16 * state + positionState)
      if isLong = 0 then
        return (1, { memory with state := if state < 7 then 9 else 11 })
      else
        readRepeatedCopy positionState memory
    else do
      readRepeatedCopy positionState (← reorder state memory)

/-- What comes next: a literal, or a copy of a given length from the distance at the front. -/
inductive Symbol where
  | literal (byte : UInt8)
  | copy (length : Nat)
  deriving Repr, DecidableEq

/-- Decode the literal at a position. -/
def readLiteral
    (properties : Properties)
    (start : Nat)
    (memory : Memory)
    (output : Array UInt8) :
    Step UInt8 := do
  let position := output.size - start
  let last := if position = 0 then 0 else (output.getD (output.size - 1) 0).toNat
  let context :=
    (position % (1 <<< properties.literalPosition)) <<< properties.literalContext +
      last >>> (8 - properties.literalContext)
  let base := literalBase + 0x300 * context
  let node ←
    if memory.state < 7 then
      plainLiteral base 8 1
    else
      matchedLiteral base 8 1 (output.getD (output.size - memory.distance0 - 1) 0).toNat
  return UInt8.ofNat (node - 256)

/--
Decode a symbol.  Copies reach back to the start of the dictionary, and no further than the
dictionary is long.
-/
def readSymbol
    (properties : Properties)
    (dictionary start : Nat)
    (memory : Memory)
    (output : Array UInt8) :
    Step (Symbol × Memory) := do
  let positionState := (output.size - start) % (1 <<< properties.position)
  let isCopy ← bit (isMatchBase + 16 * memory.state + positionState)
  if isCopy = 0 then
    let byte ← readLiteral properties start memory output
    return (.literal byte, { memory with state := afterLiteral memory.state })
  else
    let (length, memory) ← readCopy positionState memory
    if memory.distance0 < min dictionary (output.size - start) then
      return (.copy length, memory)
    else
      throw .corrupt

/-- Apply a symbol to the output. -/
def Symbol.apply (memory : Memory) (output : Array UInt8) : Symbol → Array UInt8
  | .literal byte => output.push byte
  | .copy length => copyBack (memory.distance0 + 1) length output

/--
Decode symbols up to a size of the output; the first argument bounds their number.  The rules that
are broken between two symbols cost the last byte as well.
-/
def readSymbols
    (properties : Properties)
    (dictionary start goal : Nat) :
    Nat → Memory → Coder → Array UInt8 → Array UInt8 × Except Damage (Memory × Coder)
  | 0, _, _, output => (output, .error .corrupt)
  | steps + 1, memory, coder, output =>
      if output.size = goal then
        (output, .ok (memory, coder))
      else
        match readSymbol properties dictionary start memory output coder with
        | .error damage => (output, .error damage)
        | .ok ((symbol, memory), coder) =>
            let output := symbol.apply memory output
            if goal < output.size then
              (output.extract 0 (goal - 1), .error .corrupt)
            else
              match widen coder with
              | .error .cutShort => (output, .error .cutShort)
              | .error .corrupt => (output.pop, .error .corrupt)
              | .ok coder => readSymbols properties dictionary start goal steps memory coder output

end Provision.Codec.Lzma
