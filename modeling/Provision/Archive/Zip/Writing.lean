import Provision.Archive.Zip.Directory
import Provision.Digest.Crc

namespace Provision.Archive.Zip

/-!
# Writing zip archives

Members are stored as they are, each behind a record of its own, and listed in a central directory.  Numbers
that are too large for their fields stand in extra fields of the directory and in a wide end record.
-/

/-- A number in a field of four bytes, or what stands there if it is too large. -/
def narrow (value : Nat) : Bytes :=
  Codec.littleEndian 4 (min value tooSmall)

/-- The numbers that are too large for fields of four bytes, each in eight bytes. -/
def wideNumbers (values : List Nat) : Bytes :=
  (values.filter fun value => tooSmall ≤ value).flatMap (Codec.littleEndian 8)

/-- The extra field for the numbers that are too large for their own fields, if there are any. -/
def wideField (values : List Nat) : Bytes :=
  let numbers := wideNumbers values
  if numbers.isEmpty then
    []
  else
    Codec.littleEndian 2 Member.wideKind ++ Codec.littleEndian 2 numbers.length ++ numbers

/-- A member to write: its name, its content and its permission bits. -/
structure Source where
  name : List Char
  content : Bytes
  mode : Nat
  deriving DecidableEq

namespace Source

/-- Whether a name announces a directory. -/
def isDirectory (source : Source) : Bool :=
  source.name.getLast? = some '/'

/-- The content that is written; a directory has none. -/
def written (source : Source) : Bytes :=
  if source.isDirectory then [] else source.content

/-- The flags of a member: names outside of ASCII are marked as UTF-8. -/
def flags (source : Source) : Nat :=
  if source.name.all fun c => c.toNat < 128 then 0 else 1 <<< 11

/-- The fields that stand both in front of the content and in the directory. -/
def sharedFields (source : Source) : Bytes :=
  let le := Codec.littleEndian
  let size := source.written.length
  le 2 20 ++ le 2 source.flags ++ le 2 0 ++ le 2 0 ++ le 2 0x21 ++
    le 4 (Digest.Crc.crc32 source.written).toNat ++ narrow size ++ narrow size ++
    le 2 (Text.Utf8.encode source.name).length

/-- A member with its content. -/
def member (source : Source) : Bytes :=
  memberMark ++ source.sharedFields ++ Codec.littleEndian 2 0 ++ Text.Utf8.encode source.name ++
    source.written

/-- The mode of a member with the bits for its kind. -/
def fullMode (source : Source) : Nat :=
  source.mode % 0o1000 + if source.isDirectory then 0o40000 else 0o100000

/-- The extra field in the directory of a member at a position. -/
def extra (source : Source) (position : Nat) : Bytes :=
  wideField [source.written.length, source.written.length, position]

/-- A member of the directory, for content at a position. -/
def entry (source : Source) (position : Nat) : Bytes :=
  let le := Codec.littleEndian
  directoryMark ++ le 2 (3 * 256 + 20) ++ source.sharedFields ++
    le 2 (source.extra position).length ++ le 2 0 ++ le 2 0 ++ le 2 0 ++
    le 4 (source.fullMode * 65536) ++ narrow position ++ Text.Utf8.encode source.name ++
    source.extra position

end Source

/-- The central directory of members of which the first stands at a position. -/
def directoryOf : Nat → List Source → Bytes
  | _, [] => []
  | position, source :: rest =>
      source.entry position ++ directoryOf (position + source.member.length) rest

/-- The number of members that stands in the end record when the field is too small. -/
def tooFew : Nat := 0xffff

/-- Whether an end record cannot give all numbers of a directory. -/
def needsWideEnd (count size offset : Nat) : Bool :=
  tooFew ≤ count || tooSmall ≤ size || tooSmall ≤ offset

/-- The wide end record. -/
def wideEnd (count size offset : Nat) : Bytes :=
  let le := Codec.littleEndian
  wideEndMark ++ le 8 44 ++ le 2 (3 * 256 + 45) ++ le 2 45 ++ le 4 0 ++ le 4 0 ++ le 8 count ++
    le 8 count ++ le 8 size ++ le 8 offset

/-- The record that says where the wide end record is. -/
def locator (position : Nat) : Bytes :=
  locatorMark ++ Codec.littleEndian 4 0 ++ Codec.littleEndian 8 position ++ Codec.littleEndian 4 1

/-- The end record without a wide one in front of it. -/
def plainEnd (count size offset : Nat) : Bytes :=
  let le := Codec.littleEndian
  endMark ++ le 2 0 ++ le 2 0 ++ le 2 (min count tooFew) ++ le 2 (min count tooFew) ++
    narrow size ++ narrow offset ++ le 2 0

/-- The end record, behind a wide one if that is needed. -/
def endRecord (count size offset : Nat) : Bytes :=
  if needsWideEnd count size offset then
    wideEnd count size offset ++ locator (offset + size) ++ plainEnd count size offset
  else
    plainEnd count size offset

/-- An archive of members that are stored as they are. -/
def write (sources : List Source) : Bytes :=
  let members := sources.flatMap Source.member
  let directory := directoryOf 0 sources
  members ++ directory ++ endRecord sources.length directory.length members.length

end Provision.Archive.Zip
