import Provision.Text.Utf8

namespace Provision.Digest.Crc

/-!
# Cyclic redundancy checks

A check is the remainder of the message, as a polynomial over bits, by a fixed polynomial.  The
reflected checks take the lowest bit of each byte first; the plain one takes the highest bit first.
-/

/-- Take one bit out of a reflected 32-bit remainder. -/
def step32 (remainder : UInt32) : UInt32 :=
  if remainder &&& 1 = 1 then (remainder >>> 1) ^^^ 0xedb88320 else remainder >>> 1

/-- Take one bit out of a reflected 64-bit remainder. -/
def step64 (remainder : UInt64) : UInt64 :=
  if remainder &&& 1 = 1 then (remainder >>> 1) ^^^ 0xc96c5795d7870f42 else remainder >>> 1

/-- Take one bit out of a plain 32-bit remainder. -/
def stepPlain (remainder : UInt32) : UInt32 :=
  if remainder &&& 0x80000000 = 0 then remainder <<< 1 else (remainder <<< 1) ^^^ 0x04c11db7

/-- Apply a function a number of times. -/
def times {α : Type} (function : α → α) : Nat → α → α
  | 0, value => value
  | count + 1, value => times function count (function value)

/-- The reflected 32-bit check. -/
def crc32 (message : Bytes) : UInt32 :=
  ~~~(message.foldl (fun remainder byte => times step32 8 (remainder ^^^ byte.toUInt32)) 0xffffffff)

/-- The reflected 64-bit check. -/
def crc64 (message : Bytes) : UInt64 :=
  ~~~(message.foldl
    (fun remainder byte => times step64 8 (remainder ^^^ byte.toUInt64)) 0xffffffffffffffff)

/-- Add one byte to a plain 32-bit remainder. -/
def plainByte (remainder : UInt32) (byte : UInt8) : UInt32 :=
  times stepPlain 8 (remainder ^^^ (byte.toUInt32 <<< 24))

/-- The plain 32-bit check. -/
def plain32 (message : Bytes) : UInt32 :=
  ~~~(message.foldl plainByte 0xffffffff)

end Provision.Digest.Crc
