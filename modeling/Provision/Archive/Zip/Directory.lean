import Provision.Codec.Basic
import Provision.Codec.Bzip2
import Provision.Codec.Deflate
import Provision.Codec.Zstd.Frame

namespace Provision.Archive.Zip

/-!
# Fields of zip archives

The records of a zip archive open with a mark of four bytes and have numbers at fixed places.
Member names are UTF-8 or in code page 437.
-/

/-- The characters of the upper half of code page 437. -/
def upperHalf : List Char :=
  ("ÇüéâäàåçêëèïîìÄÅÉæÆôöòûùÿÖÜ¢£¥₧ƒáíóúñÑªº¿⌐¬½¼¡«»" ++
    "░▒▓│┤╡╢╖╕╣║╗╝╜╛┐└┴┬├─┼╞╟╚╔╩╦╠═╬╧╨╤╥╙╘╒╓╫╪┘┌█▄▌▐▀" ++
    "αßΓπΣσµτΦΘΩδ∞φε∩≡±≥≤⌠⌡÷≈°∙·√ⁿ²■\u00a0").toList

/-- A character of code page 437. -/
def pageChar (byte : UInt8) : Char :=
  if byte < 0x80 then Char.ofNat byte.toNat else upperHalf.getD (byte.toNat - 0x80) '?'

/-- A member name, of which a flag says whether it is UTF-8 or in code page 437. -/
def nameOf (isUnicode : Bool) (bytes : Bytes) : List Char :=
  if isUnicode then Text.Utf8.decodeReplacing bytes else bytes.map pageChar

/-- The number in a field of the given place and length. -/
def number (bytes : Bytes) (start length : Nat) : Nat :=
  Codec.fromLittleEndian ((bytes.drop start).take length)

/-- The bytes that open the end record. -/
def endMark : Bytes := [0x50, 0x4b, 5, 6]

/-- The bytes that open a member of the central directory. -/
def directoryMark : Bytes := [0x50, 0x4b, 1, 2]

/-- The bytes that open a member in front of its content. -/
def memberMark : Bytes := [0x50, 0x4b, 3, 4]

/-!
# The directory of a zip archive

A zip archive is read from its end: the end record says where the central directory stands, and the
directory says where the content of each member starts.  Bytes in front of the first member and
after the end record do no harm.  Numbers that are too large for their fields stand in a wide end
record in front of the end record, and in extra fields of the members.
-/

/-! ## End records -/

/-- The number of bytes of the end record without its comment. -/
def endSize : Nat := 22

/-- The bytes that open the record that says where the wide end record is. -/
def locatorMark : Bytes := [0x50, 0x4b, 6, 7]

/-- The number of bytes of the record that says where the wide end record is. -/
def locatorSize : Nat := 20

/-- The bytes that open the wide end record. -/
def wideEndMark : Bytes := [0x50, 0x4b, 6, 6]

/-- The fewest bytes between the starts of the wide end record and of the end record. -/
def wideEndDistance : Nat := 60

/-- The number that stands in a field of four bytes when the field is too small. -/
def tooSmall : Nat := 0xffffffff

/-- The last end record at or after a position, with its own position, or one found before. -/
def lastEnd? (found? : Option (Nat × Bytes)) : Nat → Bytes → Option (Nat × Bytes)
  | _, [] => found?
  | position, byte :: rest =>
      let suffix := byte :: rest
      if endMark.isPrefixOf suffix && endSize ≤ suffix.length then
        lastEnd? (some (position, suffix)) (position + 1) rest
      else
        lastEnd? found? (position + 1) rest

/-- Whether an end record has a field that is too small for its number. -/
def hasSmallField (record : Bytes) : Bool :=
  number record 4 2 = 0xffff || number record 6 2 = 0xffff || number record 8 2 = 0xffff ||
    number record 10 2 = 0xffff || number record 12 4 = tooSmall || number record 16 4 = tooSmall

/-- Where the central directory starts, how many members it has, and how far offsets are off. -/
structure Directory where
  start : Nat
  count : Nat
  shift : Nat
  deriving DecidableEq

/-- The directory that an end record at a position gives. -/
def directoryOfEnd? (position : Nat) (record : Bytes) : Option Directory :=
  let size := number record 12 4
  let offset := number record 16 4
  if position < size + offset then
    none
  else
    let shift := position - size - offset
    some ⟨offset + shift, number record 8 2, shift⟩

/-- The first wide end record between two positions, with its own position. -/
def firstWideEnd? (last : Nat) : Nat → Bytes → Option (Nat × Bytes)
  | _, [] => none
  | position, byte :: rest =>
      let suffix := byte :: rest
      if last < position then none
      else if wideEndMark.isPrefixOf suffix then some (position, suffix)
      else firstWideEnd? last (position + 1) rest

/--
The directory that a wide end record gives, which is looked for from the place on that its locator
names.  How much later it is found tells how far all offsets are off.
-/
def directoryOfWideEnd? (archive : Bytes) (position : Nat) (record locator : Bytes) :
    Option Directory := do
  if !hasSmallField record && number record 4 2 ≠ number locator 4 4 then
    none
  if position < wideEndDistance then
    none
  let named := number locator 8 8
  let (place, wide) ← firstWideEnd? (position - wideEndDistance) named (archive.drop named)
  if number wide 16 4 ≠ number wide 20 4 then
    none
  let shift := place - named
  return ⟨number wide 48 8 + shift, number wide 32 8, shift⟩

/-- The locator of a wide end record, which stands in front of an end record with a comment. -/
def locator? (archive : Bytes) (comment : Nat) : Option Bytes :=
  let fromEnd := locatorSize + endSize + comment
  let locator := archive.drop (archive.length - fromEnd)
  if fromEnd ≤ archive.length && locatorMark.isPrefixOf locator then some locator else none

/-- Find the central directory. -/
def directory? (archive : Bytes) : Option Directory := do
  let (position, record) ← lastEnd? none 0 archive
  let comment := number record 20 2
  if archive.length > position + endSize + 0xffff then none
  else if record.length < endSize + comment then none
  else if !hasSmallField record && number record 4 2 ≠ number record 6 2 then none
  else
    match locator? archive comment with
    | none => directoryOfEnd? position record
    | some locator => directoryOfWideEnd? archive position record locator

/-! ## Members -/

/-- A member as the central directory describes it. -/
structure Member where
  name : List Char
  isEncrypted : Bool
  hasKey : Bool
  method : Nat
  check : Nat
  size : Nat
  storedSize : Nat
  system : Nat
  attributes : Nat
  start : Nat
  deriving DecidableEq

namespace Member

/-- The kind of the extra field for numbers that are too large for their own fields. -/
def wideKind : Nat := 0x0001

/-- The kind of the extra field for the key of an encrypted member. -/
def keyKind : Nat := 0x9901

/-- The method of a member whose key field names the method of its content. -/
def keyMethod : Nat := 99

/-- Read a number of eight bytes in place of one that is too large for its field. -/
def widen? (value : Nat) (bytes : Bytes) : Option (Nat × Bytes) :=
  if value = tooSmall then Codec.readNumber? 8 bytes else some (value, bytes)

/-- Replace the numbers that are too large, and give the bytes after them if they suffice. -/
def widenAll (member : Member) (bytes : Bytes) : Member × Option Bytes :=
  match widen? member.size bytes with
  | none => (member, none)
  | some (size, bytes) =>
      let member := { member with size }
      match widen? member.storedSize bytes with
      | none => (member, none)
      | some (storedSize, bytes) =>
          let member := { member with storedSize }
          match widen? member.start bytes with
          | none => (member, none)
          | some (start, bytes) => ({ member with start }, some bytes)

/-- Apply a key field, of which all parts have to be known. -/
def addKey? (member : Member) (field : Bytes) : Option Member :=
  let version := number field 0 2
  let strength := number field 4 1
  if number field 2 2 = 0x4541 && (version = 1 || version = 2) && 1 ≤ strength && strength ≤ 3 then
    some { member with hasKey := true, method := number field 5 2 }
  else
    none

/--
Apply the extra fields, as far as their bytes suffice.  After a key field, as many bytes again are
passed over as it has.
-/
def addFields? : Nat → Member → Bytes → Option Member
  | 0, member, _ => some member
  | steps + 1, member, bytes =>
      match Codec.takeExact? 4 bytes with
      | none => some member
      | some (head, rest) =>
          let kind := number head 0 2
          let length := number head 2 2
          if kind = wideKind then
            match member.widenAll rest with
            | (member, none) => some member
            | (member, some left) =>
                addFields? steps member (left.drop (length - (rest.length - left.length)))
          else if kind = keyKind then
            if length ≠ 7 then
              none
            else
              match Codec.takeExact? 7 rest with
              | none => some member
              | some (field, left) =>
                  match member.addKey? field with
                  | some member => addFields? steps member (left.drop 7)
                  | none => none
          else
            addFields? steps member (rest.drop length)

/-- Move the start of a member, which must have a key if its method says so. -/
def finish? (shift : Nat) (member : Member) : Option Member :=
  if member.method = keyMethod && !member.hasKey then
    none
  else
    some { member with start := member.start + shift }

end Member

/-- Read the given number of members of the central directory. -/
def readMembers? (shift : Nat) : Nat → Bytes → Option (List Member)
  | 0, _ => some []
  | count + 1, bytes => do
      let (fixed, rest) ← Codec.takeExact? 46 bytes
      if directoryMark.isPrefixOf fixed then
        let (name, rest) ← Codec.takeExact? (number fixed 28 2) rest
        let (extra, rest) ← Codec.takeExact? (number fixed 30 2) rest
        let (_, rest) ← Codec.takeExact? (number fixed 32 2) rest
        let flags := number fixed 8 2
        let plain : Member := {
          name := nameOf (flags.testBit 11) name
          isEncrypted := flags.testBit 0
          hasKey := false
          method := number fixed 10 2
          check := number fixed 16 4
          size := number fixed 24 4
          storedSize := number fixed 20 4
          system := number fixed 5 1
          attributes := number fixed 38 4
          start := number fixed 42 4 }
        let member ← (← plain.addFields? (extra.length + 1) extra).finish? shift
        let members ← readMembers? shift count rest
        return member :: members
      else
        none

/-- The members of an archive in the order of its directory, or nothing if it is damaged. -/
def read? (archive : Bytes) : Option (List Member) := do
  let directory ← directory? archive
  readMembers? directory.shift directory.count (archive.drop directory.start)

/-!
# Members of zip archives

What a member of the directory says about its kind and its permission bits, and the content that
stands where it says.
-/

/-- Why the content of a member cannot be had at all. -/
inductive Obstacle where
  | unreadable
  | locked
  deriving Repr, DecidableEq

namespace Member

/-- Whether a member is a directory. -/
def isDirectory (member : Member) : Bool :=
  member.name.getLast? = some '/' || member.name.getLast? = some '\\'

/-- The permission bits that a member asks for, by the rules of the system that it was made on. -/
def mode? (member : Member) : Option Nat :=
  if member.attributes = 0 then none
  else if member.system = 3 then some (member.attributes / 65536)
  else if member.system = 0 then
    let mode := if member.attributes.testBit 4 then 0o775 else 0o664
    some (if member.attributes.testBit 0 then mode &&& 0o555 else mode)
  else none

/-- The stored bytes of a member. -/
def stored? (member : Member) (archive : Bytes) : Option Bytes := do
  let (fixed, _) ← Codec.takeExact? 30 (archive.drop member.start)
  if memberMark.isPrefixOf fixed then
    let start := member.start + 30 + number fixed 26 2 + number fixed 28 2
    return (archive.drop start).take member.storedSize
  else
    none

/-- The number of bytes of a member that are copied at a time. -/
def copyStep : Nat := 8192

/-- Undo the compression of stored bytes, if its method is known. -/
def expand? (member : Member) (stored : Bytes) : Option Codec.Decoded :=
  if member.method = 0 then some ⟨stored, .ok []⟩
  else if member.method = 8 then some (Codec.Deflate.decode stored)
  else if member.method = 12 then some (Codec.Bzip2.decode copyStep stored)
  else if member.method = 93 then some (Codec.Zstd.decode copyStep stored)
  else none

/-- Whether the content of a member can be expanded, or could be with its key. -/
def isKnown (member : Member) : Bool :=
  [0, 8, 12, 93, keyMethod].contains member.method

/--
The content of a member, and whether it came out whole and with the right check.  A member with a
key is locked even if it is not marked as encrypted.
-/
def content (member : Member) (archive : Bytes) : Except Obstacle (Bytes × Bool) :=
  match member.stored? archive with
  | none => .error .unreadable
  | some stored =>
      if member.isEncrypted || !member.isKnown then .error .unreadable
      else if member.hasKey then .error .locked
      else
        match member.expand? stored with
        | none => .error .unreadable
        | some decoded =>
            let isRight := (Digest.Crc.crc32 decoded.output).toNat = member.check
            .ok (decoded.output, decoded.isWhole && isRight)

end Member

end Provision.Archive.Zip
