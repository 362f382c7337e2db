import Provision.Codec.Basic

namespace Provision.Digest.XxHash

/-!
# The 64-bit xxHash

Four lanes take eight bytes each in turn, and are joined at the end.  What does not fill all lanes
is mixed into the result in words of eight, four and one bytes.
-/

/-- The primes that the hash multiplies with. -/
def prime1 : UInt64 := 0x9e3779b185ebca87

/-- The second prime. -/
def prime2 : UInt64 := 0xc2b2ae3d27d4eb4f

/-- The third prime. -/
def prime3 : UInt64 := 0x165667b19e3779f9

/-- The fourth prime. -/
def prime4 : UInt64 := 0x85ebca77c2b2ae63

/-- The fifth prime. -/
def prime5 : UInt64 := 0x27d4eb2f165667c5

/-- Rotate a word to the left. -/
def rotate (word count : UInt64) : UInt64 :=
  (word <<< count) ||| (word >>> (64 - count))

/-- Mix a word into a lane. -/
def round (lane word : UInt64) : UInt64 :=
  rotate (lane + word * prime2) 31 * prime1

/-- The word that bytes stand for, the lowest first. -/
def word (bytes : Bytes) : UInt64 :=
  UInt64.ofNat (Codec.fromLittleEndian bytes)

/-- The four lanes. -/
structure Lanes where
  a : UInt64 := prime1 + prime2
  b : UInt64 := prime2
  c : UInt64 := 0
  d : UInt64 := 0 - prime1
  deriving DecidableEq

namespace Lanes

/-- Mix 32 bytes into the lanes. -/
def add (lanes : Lanes) (stripe : Bytes) : Lanes where
  a := round lanes.a (word (stripe.take 8))
  b := round lanes.b (word ((stripe.drop 8).take 8))
  c := round lanes.c (word ((stripe.drop 16).take 8))
  d := round lanes.d (word ((stripe.drop 24).take 8))

/-- Mix the given number of stripes into the lanes, and give the bytes after them. -/
def addAll : Nat → Lanes → Bytes → Lanes × Bytes
  | 0, lanes, bytes => (lanes, bytes)
  | stripes + 1, lanes, bytes => addAll stripes (lanes.add (bytes.take 32)) (bytes.drop 32)

/-- Mix a lane into the joined lanes. -/
def merge (joined lane : UInt64) : UInt64 :=
  (joined ^^^ round 0 lane) * prime1 + prime4

/-- The lanes joined into one word. -/
def join (lanes : Lanes) : UInt64 :=
  let sum := rotate lanes.a 1 + rotate lanes.b 7 + rotate lanes.c 12 + rotate lanes.d 18
  merge (merge (merge (merge sum lanes.a) lanes.b) lanes.c) lanes.d

end Lanes

/-- Mix in the given number of words of eight bytes, and give the bytes after them. -/
def addWords : Nat → UInt64 → Bytes → UInt64 × Bytes
  | 0, hash, bytes => (hash, bytes)
  | words + 1, hash, bytes =>
      let hash := rotate (hash ^^^ round 0 (word (bytes.take 8))) 27 * prime1 + prime4
      addWords words hash (bytes.drop 8)

/-- Mix in a word of four bytes if there is one, and give the bytes after it. -/
def addHalf (hash : UInt64) (bytes : Bytes) : UInt64 × Bytes :=
  if bytes.length < 4 then
    (hash, bytes)
  else
    (rotate (hash ^^^ word (bytes.take 4) * prime1) 23 * prime2 + prime3, bytes.drop 4)

/-- Mix in a single byte. -/
def addByte (hash : UInt64) (byte : UInt8) : UInt64 :=
  rotate (hash ^^^ byte.toUInt64 * prime5) 11 * prime1

/-- Spread every bit over the whole word. -/
def finish (hash : UInt64) : UInt64 :=
  let hash := (hash ^^^ (hash >>> 33)) * prime2
  let hash := (hash ^^^ (hash >>> 29)) * prime3
  hash ^^^ (hash >>> 32)

/-- The hash of a message. -/
def hash64 (message : Bytes) : UInt64 :=
  let length := message.length
  let (lanes, rest) := Lanes.addAll (length / 32) {} message
  let start := if length < 32 then prime5 else lanes.join
  let (hash, rest) := addWords (rest.length / 8) (start + UInt64.ofNat length) rest
  let (hash, rest) := addHalf hash rest
  finish (rest.foldl addByte hash)

end Provision.Digest.XxHash
