import Provision.Digest.Md5
import Provision.Digest.Sha

namespace Provision.Digest.Blake2

/-!
# BLAKE2b

The hash works on little-endian words of 64 bits.  The message is cut into blocks of sixteen words,
of which the last one is filled up with zeros.  Each block is mixed twelve times into sixteen words,
which start from a state of eight words, and are folded into it again.
-/

/-- The words from which all states start. -/
def startWords : List UInt64 := [
  0x6a09e667f3bcc908, 0xbb67ae8584caa73b, 0x3c6ef372fe94f82b, 0xa54ff53a5f1d36f1,
  0x510e527fade682d1, 0x9b05688c2b3e6c1f, 0x1f83d9abfb41bd6b, 0x5be0cd19137e2179]

/-- The orders in which the words of a block are taken. -/
def orders : List (List Nat) := [
  [0, 1, 2, 3, 4, 5, 6, 7, 8, 9, 10, 11, 12, 13, 14, 15],
  [14, 10, 4, 8, 9, 15, 13, 6, 1, 12, 0, 2, 11, 7, 5, 3],
  [11, 8, 12, 0, 5, 2, 15, 13, 10, 14, 3, 6, 7, 1, 9, 4],
  [7, 9, 3, 1, 13, 12, 11, 14, 2, 6, 5, 10, 4, 0, 15, 8],
  [9, 0, 5, 7, 2, 4, 10, 15, 14, 1, 11, 12, 6, 8, 3, 13],
  [2, 12, 6, 10, 0, 11, 8, 3, 4, 13, 7, 5, 15, 14, 1, 9],
  [12, 5, 1, 15, 14, 13, 4, 10, 0, 7, 6, 3, 9, 2, 8, 11],
  [13, 11, 7, 14, 12, 1, 3, 9, 5, 0, 15, 4, 8, 6, 2, 10],
  [6, 15, 14, 9, 11, 3, 0, 8, 12, 2, 13, 7, 1, 4, 10, 5],
  [10, 2, 8, 4, 7, 6, 1, 5, 15, 11, 9, 14, 3, 12, 13, 0]]

/-- The words that are mixed together, four at a time: first in columns, then in diagonals. -/
def quarters : List (Nat × Nat × Nat × Nat) :=
  [(0, 4, 8, 12), (1, 5, 9, 13), (2, 6, 10, 14), (3, 7, 11, 15),
    (0, 5, 10, 15), (1, 6, 11, 12), (2, 7, 8, 13), (3, 4, 9, 14)]

/-- A word of little-endian bytes. -/
def wordOf (bytes : Bytes) : UInt64 :=
  bytes.foldr (fun byte word => (word <<< 8) ||| byte.toUInt64) 0

/-- At most the given number of little-endian words. -/
def toWords : Nat → Bytes → List UInt64
  | 0, _ => []
  | count + 1, bytes => wordOf (bytes.take 8) :: toWords count (bytes.drop 8)

/-- Mix two words of a block into four others. -/
def mix (words : Array UInt64) (places : Nat × Nat × Nat × Nat) (x y : UInt64) : Array UInt64 :=
  let (i, j, k, l) := places
  let (a, b, c, d) := (words.getD i 0, words.getD j 0, words.getD k 0, words.getD l 0)
  let a := a + b + x
  let d := Sha512.rotateRight (d ^^^ a) 32
  let c := c + d
  let b := Sha512.rotateRight (b ^^^ c) 24
  let a := a + b + y
  let d := Sha512.rotateRight (d ^^^ a) 16
  let c := c + d
  let b := Sha512.rotateRight (b ^^^ c) 63
  (((words.setIfInBounds i a).setIfInBounds j b).setIfInBounds k c).setIfInBounds l d

/-- Mix a whole block into sixteen words. -/
def round (block words : Array UInt64) (number : Nat) : Array UInt64 :=
  let order := (orders[number % 10]?.getD []).toArray
  quarters.zipIdx.foldl
    (fun words (places, i) =>
      mix words places (block.getD (order.getD (2 * i) 0) 0)
        (block.getD (order.getD (2 * i + 1) 0) 0))
    words

/-- Fold a block into the state after some bytes of the message, which may be all of them. -/
def compress (state : List UInt64) (block : Bytes) (length : Nat) (isLast : Bool) : List UInt64 :=
  let words := state ++ startWords
  let counted := words.toArray.modify 12 (· ^^^ UInt64.ofNat length)
  let started := if isLast then counted.modify 14 (~~~ ·) else counted
  let mixed := (List.range 12).foldl (round (toWords 16 block).toArray) started
  state.mapIdx fun i word => word ^^^ mixed.getD i 0 ^^^ mixed.getD (i + 8) 0

/-- Fold at most the given number of blocks into the state after some bytes of the message. -/
def absorb : Nat → List UInt64 → Nat → Bytes → List UInt64
  | 0, state, _, _ => state
  | blocks + 1, state, before, message =>
      if message.length ≤ 128 then
        compress state (message ++ List.replicate (128 - message.length) 0)
          (before + message.length) true
      else
        absorb blocks (compress state (message.take 128) (before + 128) false) (before + 128)
          (message.drop 128)

/-- The bytes of the hash of a message, as many as are asked for. -/
def digest (size : Nat) (message : Bytes) : Bytes :=
  let state := startWords.modify 0 (· ^^^ 0x01010000 ^^^ UInt64.ofNat size)
  let final := absorb (message.length / 128 + 1) state 0 message
  (final.flatMap fun word => Md5.littleEndian 8 word.toNat).take size

end Provision.Digest.Blake2
