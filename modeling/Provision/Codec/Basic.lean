import Provision.Text.Utf8

namespace Provision.Codec

/-!
# Numbers as bytes

The formats give most numbers in a fixed number of bytes, the lowest first.
-/

/-- A number as little-endian bytes. -/
def littleEndian (count value : Nat) : Bytes :=
  (List.range count).map fun i => UInt8.ofNat (value >>> (8 * i))

/-- The number that little-endian bytes stand for. -/
def fromLittleEndian : Bytes → Nat
  | [] => 0
  | byte :: rest => byte.toNat + 256 * fromLittleEndian rest

/-- Exactly the given number of bytes, and the bytes after them. -/
def takeExact? (count : Nat) (bytes : Bytes) : Option (Bytes × Bytes) :=
  if count ≤ bytes.length then some (bytes.take count, bytes.drop count) else none

/-- Read a number of the given number of bytes. -/
def readNumber? (count : Nat) (bytes : Bytes) : Option (Nat × Bytes) :=
  (takeExact? count bytes).map fun (number, rest) => (fromLittleEndian number, rest)

/-- Append a byte a number of times. -/
def pushCopies (byte : UInt8) : Nat → Array UInt8 → Array UInt8
  | 0, output => output
  | count + 1, output => pushCopies byte count (output.push byte)

/--
Append a copy of earlier output, byte by byte, so that a copy may overlap itself.  In front of the
output there are zeros.
-/
def copyBack (distance : Nat) : Nat → Array UInt8 → Array UInt8
  | 0, output => output
  | count + 1, output =>
      let byte := if distance ≤ output.size then output.getD (output.size - distance) 0 else 0
      copyBack distance count (output.push byte)

/-!
# What a decoder makes of its input

A decoder gives its output together with the input after it, or with the damage that it met.  Of an
input that breaks off, all is given out that can be decoded.  Where an input breaks a rule, the
output that was made while the damage was found is lost, so `givenOut` tells how much a reader gets
that asks for pieces of a fixed size.
-/

/-- Why an input cannot be decoded to its end: it breaks off, or it breaks the rules. -/
inductive Damage where
  | cutShort
  | corrupt
  deriving Repr, DecidableEq

/-- What must be there, or the input breaks the rules. -/
def orCorrupt {α : Type} : Option α → Except Damage α
  | some value => .ok value
  | none => .error .corrupt

/-- What must be there, or the input breaks off. -/
def orCutShort {α : Type} : Option α → Except Damage α
  | some value => .ok value
  | none => .error .cutShort

/-- What a decoder made of its input: the output, and the input after it unless it is damaged. -/
structure Decoded where
  output : Bytes
  rest : Except Damage Bytes

namespace Decoded

/-- Whether the input was decoded to its end. -/
def isWhole (decoded : Decoded) : Bool :=
  decoded.rest.isOk

/-- How much of the given count fills whole pieces and is not in the last piece. -/
def wholePieces (size count : Nat) : Nat :=
  (count - 1) / size * size

/--
The number of bytes that a decoder makes of some pieces of input of a given size, or of fewer pieces
if those show that the input breaks a rule.
-/
def madeOf (decode : Bytes → Decoded) (size : Nat) (input : Bytes) : Nat → Nat
  | 0 => 0
  | pieces + 1 =>
      let decoded := decode (input.take ((pieces + 1) * size))
      match decoded.rest with
      | .error .corrupt => madeOf decode size input pieces
      | _ => decoded.output.length

/--
The number of bytes that were given out before the decoder took the piece of input that shows that a
rule is broken.
-/
def madeBefore (decode : Bytes → Decoded) (size : Nat) (input : Bytes) : Nat :=
  madeOf decode size input ((input.length - 1) / size)

/-- Keep a number of bytes at least, and whole pieces of a size beyond those. -/
def keepPieces (size kept : Nat) (decoded : Decoded) : Decoded :=
  let further := wholePieces size (decoded.output.length - kept)
  { decoded with output := decoded.output.take (kept + further) }

end Decoded

/-!
# Bit streams

A stream of bits is a list.  Formats differ in which bit of a byte comes first; within one format
the same order is used for reading and for writing.  A stream that is made of whole bytes can be
brought back to the next byte by its length alone.
-/

/-- The bits of a stream that are still to be read. -/
abbrev Bits := List Bool

namespace Bits

/-- The bits of bytes, the lowest bit of each byte first. -/
def ofBytesLow (bytes : Bytes) : Bits :=
  bytes.flatMap fun byte => (List.range 8).map fun i => byte.toNat.testBit i

/-- The bits of bytes, the highest bit of each byte first. -/
def ofBytesHigh (bytes : Bytes) : Bits :=
  bytes.flatMap fun byte => (List.range 8).map fun i => byte.toNat.testBit (7 - i)

/--
The bits of bytes from the last one back to the first, the highest bit of each byte first.  The
highest bit that is set marks where they start.
-/
def ofBytesBackward? (bytes : Bytes) : Option Bits :=
  if bytes.getLast?.getD 0 = 0 then
    none
  else
    some (((ofBytesHigh bytes.reverse).dropWhile fun bit => !bit).drop 1)

/-- The number of which bits are given lowest first. -/
def valueLow : Bits → Nat
  | [] => 0
  | bit :: rest => bit.toNat + 2 * valueLow rest

/-- The number of which bits are given highest first, read onto a value. -/
def valueHighFrom : Nat → Bits → Nat
  | value, [] => value
  | value, bit :: rest => valueHighFrom (2 * value + bit.toNat) rest

/-- The number of which bits are given highest first. -/
def valueHigh (bits : Bits) : Nat :=
  valueHighFrom 0 bits

/-- The bits of a number, lowest first. -/
def low (count value : Nat) : Bits :=
  (List.range count).map fun i => value.testBit i

/-- The bits of a number, highest first. -/
def high (count value : Nat) : Bits :=
  (List.range count).map fun i => value.testBit (count - 1 - i)

/-- Take exactly the given number of bits. -/
def take? : Nat → Bits → Option (Bits × Bits)
  | 0, bits => some ([], bits)
  | _ + 1, [] => none
  | count + 1, bit :: rest => (take? count rest).map fun (taken, left) => (bit :: taken, left)

/-- Read a number of which the lowest bit comes first. -/
def readLow? (count : Nat) (bits : Bits) : Option (Nat × Bits) :=
  (take? count bits).map fun (taken, left) => (valueLow taken, left)

/-- Read a number of which the highest bit comes first. -/
def readHigh? (count : Nat) (bits : Bits) : Option (Nat × Bits) :=
  (take? count bits).map fun (taken, left) => (valueHigh taken, left)

/-- Read a number of which the lowest bit comes first from an input that must have it. -/
def readLow (count : Nat) (bits : Bits) : Except Damage (Nat × Bits) :=
  orCutShort (readLow? count bits)

/-- Read a number of which the highest bit comes first from an input that must have it. -/
def readHigh (count : Nat) (bits : Bits) : Except Damage (Nat × Bits) :=
  orCutShort (readHigh? count bits)

/-- Drop what is left of a byte that has been read in part. -/
def align (bits : Bits) : Bits :=
  bits.drop (bits.length % 8)

/-- Whole bytes, the lowest bit of each first; at most as many as given. -/
def toBytesLow : Nat → Bits → Bytes
  | 0, _ => []
  | count + 1, bits =>
      match take? 8 bits with
      | some (byte, rest) => UInt8.ofNat (valueLow byte) :: toBytesLow count rest
      | none => []

/-- Whole bytes, the highest bit of each first; at most as many as given. -/
def toBytesHigh : Nat → Bits → Bytes
  | 0, _ => []
  | count + 1, bits =>
      match take? 8 bits with
      | some (byte, rest) => UInt8.ofNat (valueHigh byte) :: toBytesHigh count rest
      | none => []

end Bits

end Provision.Codec
