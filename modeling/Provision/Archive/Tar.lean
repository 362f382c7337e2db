import Provision.Codec.Basic
import Provision.Text.Fields

namespace Provision.Archive.Tar

/-!
# Tar archives

A tar archive is a sequence of blocks of 512 bytes.  A member has a header block and as many blocks
as its content needs.  A member may be preceded by others that only carry a name or a size for it.
The archive ends at a block of zeros, or where the input ends between two members.
-/

/-- The number of bytes of a block. -/
def blockSize : Nat := 512

/-- The member that a header announces, with its content; times are seconds since 1970. -/
structure Member where
  name : Bytes
  kind : UInt8
  isPosix : Bool
  mode? : Option Nat
  time? : Option Nat
  linkTarget? : Option Bytes
  content : Bytes
  deriving DecidableEq

/-! ## Header fields -/

/-- The bytes of a field of a header. -/
def field (header : Bytes) (start length : Nat) : Bytes :=
  (header.drop start).take length

/-- The bytes of a field up to its first zero byte. -/
def untilZero (bytes : Bytes) : Bytes :=
  bytes.takeWhile (· ≠ 0)

/-- Read octal digits onto a value. -/
def octalFrom : Nat → List Char → Option Nat
  | value, [] => some value
  | value, c :: rest =>
      if '0' ≤ c && c ≤ '7' then octalFrom (8 * value + (c.toNat - '0'.toNat)) rest else none

/-- The octal number of a field, with blanks around it allowed. -/
def octal? (bytes : Bytes) : Option Nat := do
  let text ← Text.Utf8.decode? (untilZero bytes)
  match Text.dropOne '+' (Text.trim text) with
  | [] => none
  | digits =>
      let value ← octalFrom 0 digits
      if value < 1 <<< 64 then some value else none

/-- The number of a field that is octal text, or binary if its first bit is set. -/
def number? (bytes : Bytes) : Option Nat :=
  match bytes with
  | first :: _ =>
      if first < 0x80 then
        octal? bytes
      else
        some ((bytes.drop (bytes.length - 8)).foldl (fun value byte => 256 * value + byte.toNat) 0)
  | [] => none

/-- The mark of the newer header format. -/
def posixMark : Bytes := [0x75, 0x73, 0x74, 0x61, 0x72, 0, 0x30, 0x30]

/-- The mark of the older header format. -/
def olderMark : Bytes := [0x75, 0x73, 0x74, 0x61, 0x72, 0x20, 0x20, 0]

/-- Whether a header is in the newer format. -/
def isPosixHeader (header : Bytes) : Bool :=
  field header 257 8 = posixMark

/-- Whether a header is in the older format. -/
def isOlderHeader (header : Bytes) : Bool :=
  field header 257 8 = olderMark

/-- Whether a header is in one of the two formats that know extensions. -/
def isExtensible (header : Bytes) : Bool :=
  isPosixHeader header || isOlderHeader header

/-- The kind of member that a header announces. -/
def kindOf (header : Bytes) : UInt8 :=
  (header.drop 156).headD 0

/-- The sum of bytes. -/
def byteSum (bytes : Bytes) : Nat :=
  bytes.foldl (fun sum byte => sum + byte.toNat) 0

/-- The sum of the bytes of a header, its check counted as blanks. -/
def checkSum (header : Bytes) : Nat :=
  byteSum (header.take 148) + 8 * 0x20 + byteSum (header.drop 156)

/-- Whether the check of a header is right. -/
def isChecked (header : Bytes) : Bool :=
  (octal? (field header 148 8)).map (· % (1 <<< 32)) = some (checkSum header)

/-- The name in a header; the newer format may give its first part separately. -/
def headerName (header : Bytes) : Bytes :=
  let name := untilZero (field header 0 100)
  let directory := untilZero (field header 345 155)
  if isPosixHeader header && !directory.isEmpty then directory ++ 0x2f :: name else name

/-- The link target in a header, if it has one. -/
def headerLink? (header : Bytes) : Option Bytes :=
  match untilZero (field header 157 100) with
  | [] => none
  | target => some target

/-! ## Extensions -/

/-- One record of an extended header: a key and a value, or nothing if it is malformed. -/
def record? (line : Bytes) : Option (Bytes × Bytes) := do
  let (length, rest) ← Text.cut? 0x20 line
  let text ← Text.Utf8.decode? length
  let announced ←
    match Text.dropOne '+' text with
    | [] => none
    | digits =>
        if digits.all Char.isDigit then
          some (digits.foldl (fun value c => 10 * value + (c.toNat - '0'.toNat)) 0)
        else
          none
  if announced = line.length + 1 then Text.cut? 0x3d rest else none

/-- The records of an extended header, up to its first empty line. -/
def records (extended : Bytes) : List (Option (Bytes × Bytes)) :=
  ((Text.fields 0x0a extended).takeWhile fun line => !line.isEmpty).map record?

/-- The first value that an extended header gives for a key. -/
def value? (extended : Bytes) (key : String) : Option Bytes :=
  ((records extended).filterMap id).lookup (Text.Utf8.ofString key)

/-- The size that an extended header gives, if all records before it are well-formed. -/
def extendedSize? (extended : Bytes) : Option Nat := do
  let good := ((records extended).takeWhile Option.isSome).filterMap id
  let value ← good.lookup (Text.Utf8.ofString "size")
  let text ← Text.Utf8.decode? value
  match Text.dropOne '+' text with
  | [] => none
  | digits =>
      if digits.all Char.isDigit then
        let size := digits.foldl (fun value c => 10 * value + (c.toNat - '0'.toNat)) 0
        if size < 1 <<< 64 then some size else none
      else
        none

/-- What preceding members say about the next one. -/
structure Extensions where
  longName? : Option Bytes := none
  longLink? : Option Bytes := none
  extended? : Option Bytes := none
  deriving DecidableEq

/-- Drop one zero byte from the end of a long name. -/
def dropFinalZero (bytes : Bytes) : Bytes :=
  if bytes.getLast? = some 0 then bytes.dropLast else bytes

/-- The name of a member: a long name, then one from an extended header, then its own. -/
def memberName (extensions : Extensions) (header : Bytes) : Bytes :=
  match extensions.longName? with
  | some name => dropFinalZero name
  | none =>
      match extensions.extended?.bind fun extended => value? extended "path" with
      | some name => name
      | none => headerName header

/-- The link target of a member, found like its name. -/
def memberLink? (extensions : Extensions) (header : Bytes) : Option Bytes :=
  match extensions.longLink? with
  | some target => some (dropFinalZero target)
  | none =>
      match extensions.extended?.bind fun extended => value? extended "linkpath" with
      | some target => some target
      | none => headerLink? header

/-! ## Reading -/

/-- The kind of a member that carries a long name. -/
def longNameKind : UInt8 := 0x4c

/-- The kind of a member that carries a long link target. -/
def longLinkKind : UInt8 := 0x4b

/-- The kind of a member that carries an extended header for the next member. -/
def extendedKind : UInt8 := 0x78

/-- The kind of a member that carries an extended header for the whole archive. -/
def globalKind : UInt8 := 0x67

/-- The number of bytes up to the end of the last block of a content. -/
def padded (size : Nat) : Nat :=
  (size + (blockSize - 1)) / blockSize * blockSize

/-- Note what a member says about the next one, unless that has been said before. -/
def note? (extensions : Extensions) (kind : UInt8) (content : Bytes) : Option Extensions :=
  if kind = longNameKind then
    if extensions.longName?.isSome then none else some { extensions with longName? := some content }
  else if kind = longLinkKind then
    if extensions.longLink?.isSome then none else some { extensions with longLink? := some content }
  else if extensions.extended?.isSome then
    none
  else
    some { extensions with extended? := some content }

/-- Whether a header announces a member that only describes the next one. -/
def describesNext (header : Bytes) : Bool :=
  let kind := kindOf header
  isExtensible header && (kind = longNameKind || kind = longLinkKind || kind = extendedKind)

/-! ## Sparse files -/

/-- The kind of a file of which only some stretches are in the archive. -/
def sparseKind : UInt8 := 0x53

/-- A stretch of a sparse file that is in the archive. -/
structure Stretch where
  start : Nat
  length : Nat
  deriving DecidableEq

/-- Read at most the given number of stretches; one of which a number is missing is passed over. -/
def stretches? : Nat → Bytes → Option (List Stretch)
  | 0, _ => some []
  | count + 1, fields => do
      let rest ← stretches? count (fields.drop 24)
      let start := fields.take 12
      let length := field fields 12 12
      if start.headD 0 = 0 || length.headD 0 = 0 then
        return rest
      else
        return ⟨← number? start, ← number? length⟩ :: rest

/-- Read the blocks of further stretches between a header and the content that it announces. -/
def furtherStretches? : Nat → Bytes → Option (List Stretch × Bytes)
  | 0, _ => none
  | steps + 1, input => do
      let block := input.take blockSize
      if block.length < blockSize then
        none
      else
        let here ← stretches? 21 block
        let input := input.drop blockSize
        if (block.drop 504).headD 0 = 1 then
          let (further, input) ← furtherStretches? steps input
          return (here ++ further, input)
        else
          return (here, input)

/-- All stretches of a sparse file, and the input after those that follow its header. -/
def readStretches? (header input : Bytes) : Option (List Stretch × Bytes) := do
  let here ← stretches? 4 (field header 386 96)
  if (header.drop 482).headD 0 = 1 then
    let (further, input) ← furtherStretches? (input.length + 1) input
    return (here ++ further, input)
  else
    return (here, input)

/--
Spread stored bytes over the stretches of a file of a given size, with zeros between them.  The
stretches are in order, each starts at a new block of the archive, and together they use all bytes.
-/
def spread? (size : Nat) : Nat → Nat → List Stretch → Bytes → Option Bytes
  | _, position, [], stored => if stored.isEmpty && position = size then some [] else none
  | used, position, stretch :: others, stored =>
      if stretch.length ≠ 0 && used % blockSize ≠ 0 then none
      else if stretch.start < position then none
      else if stored.length < stretch.length then none
      else do
        let rest ← spread? size (used + stretch.length) (stretch.start + stretch.length) others
          (stored.drop stretch.length)
        return List.replicate (stretch.start - position) 0 ++ stored.take stretch.length ++ rest

/-! ## Members -/

/-- The given number of bytes, and the input after the blocks that they fill. -/
def cutBlocks? (size : Nat) (input : Bytes) : Option (Bytes × Bytes) :=
  if input.length < padded size then none else some (input.take size, input.drop (padded size))

/-- The content of a member that has the given size in the archive, and the input after it. -/
def readContent? (header : Bytes) (size : Nat) (input : Bytes) : Option (Bytes × Bytes) := do
  if kindOf header = sparseKind then
    if isOlderHeader header then
      let (stretches, input) ← readStretches? header input
      let (stored, rest) ← cutBlocks? size input
      let content ← spread? (← number? (field header 483 12)) 0 0 stretches stored
      return (content, rest)
    else
      none
  else
    cutBlocks? size input

/-- The size of a member in the archive; an extended header overrides that of the last one. -/
def storedSize? (extensions : Extensions) (header : Bytes) : Option Nat := do
  let own ← number? (field header 124 12)
  if describesNext header then
    return own
  else
    return (extensions.extended?.bind extendedSize?).getD own

/--
Read at most the given number of members.  `isDamaged` says that the input broke off where it ends,
so it must not be read to its end.
-/
def readMembers? (isDamaged : Bool) : Nat → Extensions → Bytes → Option (List Member)
  | 0, _, _ => none
  | steps + 1, extensions, input =>
      let atEnd : Option (List Member) := if extensions = {} then some [] else none
      if input.isEmpty then
        if isDamaged then none else atEnd
      else
        let header := input.take blockSize
        if header.length < blockSize then
          none
        else if header.all (· = 0) then
          atEnd
        else if !isChecked header then
          none
        else do
          let size ← storedSize? extensions header
          let (content, rest) ← readContent? header size (input.drop blockSize)
          if describesNext header then
            let extensions ← note? extensions (kindOf header) content
            readMembers? isDamaged steps extensions rest
          else
            let members ← readMembers? isDamaged steps {} rest
            let member : Member := {
              name := memberName extensions header
              kind := kindOf header
              isPosix := isPosixHeader header
              mode? := octal? (field header 100 8)
              time? := number? (field header 136 12)
              linkTarget? := memberLink? extensions header
              content }
            return member :: members

/-- The members of an archive, or nothing if it is damaged. -/
def read? (archive : Codec.Decoded) : Option (List Member) :=
  readMembers? (!archive.isWhole) (archive.output.length + 1) {} archive.output

/-! ## Writing -/

/-- A number in octal digits, the lowest ones if there is no room for all. -/
def octalDigits (count value : Nat) : Bytes :=
  (List.range count).map fun i => UInt8.ofNat (0x30 + (value >>> (3 * (count - 1 - i))) % 8)

/-- Bytes followed by zeros up to a length. -/
def zeroFilled (length : Nat) (bytes : Bytes) : Bytes :=
  bytes ++ List.replicate (length - bytes.length) 0

/-- A header around its check. -/
def headerAround (check : Bytes) (name : Bytes) (kind : UInt8) (mode size : Nat) : Bytes :=
  zeroFilled 100 name ++ octalDigits 7 mode ++ [0] ++ octalDigits 7 0 ++ [0] ++ octalDigits 7 0 ++
    [0] ++ octalDigits 11 size ++ [0] ++ octalDigits 11 0 ++ [0] ++ check ++ [kind] ++
    zeroFilled 100 [] ++ olderMark ++ zeroFilled 247 []

/-- A header with its check. -/
def header (name : Bytes) (kind : UInt8) (mode size : Nat) : Bytes :=
  let blanks := List.replicate 8 0x20
  let sum := byteSum (headerAround blanks name kind mode size)
  headerAround (octalDigits 7 sum ++ [0]) name kind mode size

/-- The longest name that fits into a header. -/
def maxName : Nat := 99

/--
A member with its content.  A name that ends with a slash announces a directory without content,
but content that is given is written all the same.
-/
def writeMember (name content : Bytes) (mode : Nat) : Bytes :=
  let isDirectory := name.getLast? = some 0x2f
  let kind : UInt8 := if isDirectory then 0x35 else 0x30
  header name kind mode (if isDirectory then 0 else content.length) ++
    zeroFilled (padded content.length) content

/-- An archive of members, ended by two blocks of zeros. -/
def write (members : List (Bytes × Bytes × Nat)) : Bytes :=
  (members.flatMap fun (name, content, mode) => writeMember name content mode) ++
    zeroFilled (2 * blockSize) []

end Provision.Archive.Tar
