import Provision.Digest.Blake2
import Provision.Digest.Crc
import Provision.Digest.Sha
import Provision.Shell.Tool.Contents
import Provision.Text.Base64
import Provision.Text.Occurrence

namespace Provision.Shell.Tool

/-!
# Encodings

Contents are written with few different letters, or read from such letters.  A letter stands for
some bits of a group of bytes, and a group that is not whole may be filled up with signs of
equality.
-/

open Work

/-! ## Groups of bits -/

/--
An encoding: its letters, the number of bits of a letter, whether groups are filled up, and
whether a last group that is too short is read as far as it goes.
-/
structure Encoding where
  letters : List Char
  bits : Nat
  fillsUp : Bool := false
  readsShort : Bool := false
  isReversed : Bool := false

namespace Encoding

/-- The number of bytes of a group. -/
def groupBytes (encoding : Encoding) : Nat :=
  Nat.lcm encoding.bits 8 / 8

/-- The number of letters of a group. -/
def groupLetters (encoding : Encoding) : Nat :=
  Nat.lcm encoding.bits 8 / encoding.bits

/-- The bits of a byte as they are taken, the first one in front. -/
def bitsOf (encoding : Encoding) (byte : UInt8) : List Bool :=
  let bits := (List.range 8).map fun i => byte.toNat.testBit i
  if encoding.isReversed then bits else bits.reverse

/-- The number that bits stand for. -/
def numberOf (bits : List Bool) : Nat :=
  bits.foldl (fun number bit => 2 * number + (if bit then 1 else 0)) 0

/-- The letters for bits; the first argument bounds them. -/
def lettersFor (encoding : Encoding) : Nat → List Bool → ByteText
  | 0, _ => []
  | steps + 1, bits =>
      if bits.isEmpty then []
      else
        let taken := bits.take encoding.bits
        let filled := taken ++ List.replicate (encoding.bits - taken.length) false
        encoding.letters.getD (numberOf filled) '=' ::
          lettersFor encoding steps (bits.drop encoding.bits)

/-- The letters for some bytes; the first argument bounds the groups. -/
def encode (encoding : Encoding) : Nat → Bytes → ByteText
  | 0, _ => []
  | steps + 1, bytes =>
      if bytes.isEmpty then []
      else
        let group := bytes.take encoding.groupBytes
        let letters := encoding.lettersFor encoding.groupLetters (group.flatMap encoding.bitsOf)
        let missing := if encoding.fillsUp then encoding.groupLetters - letters.length else 0
        letters ++ List.replicate missing '=' ++
          encode encoding steps (bytes.drop encoding.groupBytes)

/-- Whether a character is a letter of an encoding. -/
def hasLetter (encoding : Encoding) (c : Char) : Bool :=
  encoding.letters.contains c

/-- The bits of a letter. -/
def letterBits (encoding : Encoding) (c : Char) : List Bool :=
  let value := encoding.letters.findIdx (· = c)
  ((List.range encoding.bits).map fun i => value.testBit i).reverse

/-- The whole bytes of bits; the first argument bounds them. -/
def bytesOf (encoding : Encoding) : Nat → List Bool → Bytes
  | 0, _ => []
  | steps + 1, bits =>
      if bits.length < 8 then []
      else
        let byte := bits.take 8
        UInt8.ofNat (numberOf (if encoding.isReversed then byte.reverse else byte)) ::
          bytesOf encoding steps (bits.drop 8)

/-- The bytes that letters stand for, and whether they are right; the first argument bounds. -/
def decode (encoding : Encoding) : Nat → ByteText → Bytes × Bool
  | 0, _ => ([], true)
  | steps + 1, text =>
      let group := text.take encoding.groupLetters
      if group.isEmpty then
        ([], true)
      else
        let known := group.takeWhile encoding.hasLetter
        let bits := known.flatMap encoding.letterBits
        let isRight := group.length = encoding.groupLetters &&
          (known.length = group.length ||
            (encoding.fillsUp && !known.isEmpty && bits.length % 8 < encoding.bits &&
              (group.drop known.length).all (· = '=')))
        let isRead := group.length = encoding.groupLetters || encoding.readsShort
        let bytes := if isRead then encoding.bytesOf encoding.groupBytes bits else []
        if isRight then
          let (others, isRight) := decode encoding steps (text.drop encoding.groupLetters)
          (bytes ++ others, isRight)
        else
          (bytes, false)

end Encoding

/-! ## Encodings that there are -/

/-- The encoding with sixty-four letters. -/
def sixtyFour : Encoding :=
  { letters := Text.Base64.alphabet, bits := 6, fillsUp := true, readsShort := true }

/-- The encoding with thirty-two letters. -/
def thirtyTwo : Encoding :=
  { letters := "ABCDEFGHIJKLMNOPQRSTUVWXYZ234567".toList, bits := 5, fillsUp := true }

/-- All encodings by name. -/
def encodings : List (String × Encoding) := [
  ("base64", sixtyFour),
  ("base64url",
    { sixtyFour with letters := sixtyFour.letters.map fun c =>
        if c = '+' then '-' else if c = '/' then '_' else c }),
  ("base32", thirtyTwo),
  ("base32hex", { thirtyTwo with letters := "0123456789ABCDEFGHIJKLMNOPQRSTUV".toList }),
  ("base16", { letters := "0123456789ABCDEF".toList, bits := 4 }),
  ("base2msbf", { letters := ['0', '1'], bits := 1 }),
  ("base2lsbf", { letters := ['0', '1'], bits := 1, isReversed := true })]

/-- A text in lines of a width; without a width it stays as it is. -/
def wrapped (width : Nat) : Nat → ByteText → ByteText
  | 0, _ => []
  | steps + 1, text =>
      if text.isEmpty then []
      else if width = 0 then text
      else text.take width ++ '\n' :: wrapped width steps (text.drop width)

/-- The options of encoding. -/
def encodingOptions : List OptionKind :=
  [flag 'd' "decode", flag 'i' "ignore-garbage", valued 'w' "wrap"]

/-- Write a content in an encoding, or read one that is written so. -/
def encodeContent (arguments : Arguments) (encoding : Encoding) : Work Unit := do
  let width ← match arguments.value? "wrap" with
    | none => pure 76
    | some text =>
        match Text.decimal? text with
        | some width => pure width
        | none => refuse ("invalid wrap size: ".toList ++ quoted text)
  refuseMore 1 arguments
  let operand := arguments.operands.head?.getD ['-']
  match ← content operand with
  | .error (.refused .isDirectory) => refuse "read error: Is a directory".toList
  | .error fault => refuse (quotedIfNeeded operand ++ ": ".toList ++ faultText fault)
  | .ok text =>
      if arguments.has "decode" then
        let letters := text.filter (· ≠ '\n')
        let letters :=
          if arguments.has "ignore-garbage" then
            letters.filter fun c => (c = '=' && encoding.fillsUp) || encoding.hasLetter c
          else letters
        let (bytes, isRight) := encoding.decode (letters.length + 1) letters
        print (ByteText.ofBytes bytes)
        if !isRight then
          complain "invalid input".toList
      else
        let letters := encoding.encode (text.length + 1) text.toBytes
        print (wrapped width (letters.length + 1) letters)

/-- Write a content with sixty-four letters, or read one that is written so. -/
def base64 : Tool := toTool do
  encodeContent (← arguments encodingOptions) sixtyFour

/-- Write a content with thirty-two letters, or read one that is written so. -/
def base32 : Tool := toTool do
  encodeContent (← arguments encodingOptions) thirtyTwo

/-- Write a content in an encoding that is named, or read one that is written so. -/
def basenc : Tool := toTool do
  let arguments ← arguments (encodingOptions ++ encodings.map fun item => wordOnly item.1)
  match (arguments.last? (encodings.map Prod.fst)).bind fun name => encodings.lookup name with
  | some encoding => encodeContent arguments encoding
  | none => misuse "missing encoding type".toList

/-!
# Digests

The digests of contents are printed, or compared with those of a list.  Some tools know but one way
to take a digest, and one knows them all, with simple sums as well.
-/

/-! ## Ways to take digests -/

/-- A way to take digests of some bytes, with its name in lists. -/
structure DigestKind where
  name : String
  size : Nat
  digest : Bytes → Bytes

/-- The way to take digests of a number of bits that tells more of them than others do. -/
def blake2Kind (bits : Nat) : DigestKind :=
  { name := if bits = 512 then "BLAKE2b" else "BLAKE2b-" ++ toString bits
    size := bits / 8
    digest := Digest.Blake2.digest (bits / 8) }

/-- The ways to take digests by name. -/
def digestKinds : List (String × DigestKind) := [
  ("md5", ⟨"MD5", 16, Digest.Md5.digest⟩), ("sha1", ⟨"SHA1", 20, Digest.Sha1.digest⟩),
  ("sha224", ⟨"SHA224", 28, Digest.Sha256.digestShort⟩),
  ("sha256", ⟨"SHA256", 32, Digest.Sha256.digest⟩),
  ("sha384", ⟨"SHA384", 48, Digest.Sha512.digestShort⟩),
  ("sha512", ⟨"SHA512", 64, Digest.Sha512.digest⟩), ("blake2b", blake2Kind 512)]

/-- Bytes in hexadecimal digits. -/
def hexText (bytes : Bytes) : ByteText :=
  bytes.flatMap Digest.Sha256.hexByte

/-- How the digest of a content is written. -/
structure DigestStyle where
  isTagged : Bool := false
  isBinary : Bool := false
  isZeroEnded : Bool := false
  hasLetters : Bool := false

/-- A name as it stands after a digest, and whether it needs a mark in front of the digest. -/
def digestName (name : ByteText) : ByteText × Bool :=
  let escape := fun (c : Char) =>
    if c = '\\' then ['\\', '\\'] else if c = '\n' then ['\\', 'n']
    else if c = '\r' then ['\\', 'r'] else [c]
  let shown := name.flatMap escape
  (shown, shown ≠ name)

/-- The line for a digest. -/
def digestLine (style : DigestStyle) (kind : DigestKind) (name : ByteText) (bytes : Bytes) :
    ByteText :=
  let digest :=
    if style.hasLetters then sixtyFour.encode (bytes.length + 1) bytes else hexText bytes
  let (shown, isMarked) := if style.isZeroEnded then (name, false) else digestName name
  let ending := if style.isZeroEnded then ['\x00'] else ['\n']
  let mark := if isMarked then ['\\'] else []
  if style.isTagged then
    mark ++ kind.name.toList ++ " (".toList ++ shown ++ ") = ".toList ++ digest ++ ending
  else
    mark ++ digest ++ (if style.isBinary then " *" else "  ").toList ++ shown ++ ending

/-! ## Lists of digests -/

/-- A line of a list: a digest and the name of the content that it belongs to. -/
structure ListedDigest where
  kind : DigestKind
  bytes : Bytes
  name : ByteText
  isShort : Bool := false

/-- The bytes that hexadecimal digits stand for. -/
def bytesOfHex? (text : ByteText) : Option Bytes :=
  let base : Encoding := { letters := "0123456789abcdef".toList, bits := 4 }
  let (bytes, isRight) := base.decode (text.length + 1) (text.map Char.toLower)
  if isRight && !bytes.isEmpty then some bytes else none

/-- The kind that is named at the start of a line, and what follows the name. -/
def namedKind? (kinds : List DigestKind) (line : ByteText) : Option (DigestKind × ByteText) :=
  kinds.findSome? fun kind => do
    let rest ← Text.after? kind.name.toList line
    let rest := if rest.head? = some ' ' then rest.tail else rest
    if rest.head? = some '(' then some (kind, rest.tail) else none

/-- A name with its escapes replaced, if they are right. -/
def unescapedName? : ByteText → Option ByteText
  | [] => some []
  | '\\' :: c :: rest => do
      let c ← if c = 'n' then some '\n' else if c = 'r' then some '\r'
        else if c = '\\' then some c else none
      return c :: (← unescapedName? rest)
  | ['\\'] => none
  | c :: rest => (unescapedName? rest).map (c :: ·)

/-- What a line of a list says; lines may be known to have but one blank after the digest. -/
def listedDigest? (kinds : List DigestKind) (isShort? : Option Bool) (line : ByteText) :
    Option ListedDigest := do
  let line := line.dropWhile ByteText.isBlank
  let isMarked := line.head? = some '\\'
  let line := if isMarked then line.tail else line
  let named := fun (name : ByteText) => if isMarked then unescapedName? name else some name
  match namedKind? kinds line with
  | some (kind, rest) => do
      let (name, digest) ← Text.around? ") = ".toList rest
      let bytes ← (bytesOfHex? digest).or
        (let (bytes, isRight) := sixtyFour.decode (digest.length + 1) digest
          if isRight then some bytes else none)
      if bytes.length = kind.size then some { kind, bytes, name := ← named name } else none
  | none =>
      let digits := line.takeWhile fun c => c ≠ ' ' && c ≠ '\t'
      let bytes ← bytesOfHex? digits
      let kind ← kinds.find? (·.size = bytes.length)
      match line.drop digits.length with
      | _ :: mark :: name =>
          if (mark = ' ' || mark = '*') && !name.isEmpty && isShort? ≠ some true then
            some { kind, bytes, name := ← named name }
          else if isShort? ≠ some false then
            some { kind, bytes, name := ← named (mark :: name), isShort := true }
          else
            none
      | _ => none

/-- How many lines of a list were right, were wrong, or could not be told. -/
structure DigestCounts where
  proper : Nat := 0
  improper : Nat := 0
  failed : Nat := 0
  unread : Nat := 0
  verified : Nat := 0
  isShort? : Option Bool := none

/-- A warning about a number of lines, files or digests. -/
def warnOfDigests (arguments : Arguments) (count : Nat) (one several : String) : Work Unit := do
  if count > 0 && !arguments.has "status" then
    remark ("WARNING: ".toList ++ ByteText.ofNat count ++ ' ' ::
      (if count = 1 then one else several).toList)

/-- What is said of lines that are not right in a list. -/
def improperLine (kinds : List DigestKind) : ByteText :=
  match kinds with
  | [kind] => ": improperly formatted ".toList ++ kind.name.toList ++ " checksum line".toList
  | _ => ": improperly formatted BLAKE2b checksum line".toList

/-- Check one line of a list. -/
def checkDigest (kinds : List DigestKind) (arguments : Arguments) (list : ByteText)
    (counts : DigestCounts) (line : Nat × ByteText) : Work DigestCounts := do
  let isQuiet := arguments.has "status"
  match listedDigest? kinds counts.isShort? line.2 with
  | none => do
      if arguments.has "warn" then
        remark (list ++ ": ".toList ++ ByteText.ofNat line.1 ++ improperLine kinds)
      return { counts with improper := counts.improper + 1 }
  | some listed => do
      let counts := { counts with
        proper := counts.proper + 1, isShort? := some listed.isShort }
      let shown := (digestName listed.name).1
      let shown := if shown = listed.name then shown else '\\' :: shown
      match ← content listed.name with
      | .error fault => do
          if arguments.has "ignore-missing" && fault = .refused .noEntry then
            return counts
          complainOf (quotedIfNeeded listed.name) fault
          if !isQuiet then
            printLine (shown ++ ": FAILED open or read".toList)
          return { counts with unread := counts.unread + 1 }
      | .ok text => do
          if listed.kind.digest text.toBytes = listed.bytes then
            if !isQuiet && !arguments.has "quiet" then
              printLine (shown ++ ": OK".toList)
            return { counts with verified := counts.verified + 1 }
          else
            if !isQuiet then
              printLine (shown ++ ": FAILED".toList)
            return { counts with failed := counts.failed + 1 }

/-- Check the digests of a list. -/
def checkDigests (kinds : List DigestKind) (arguments : Arguments) (list : ByteText) :
    Work Unit := do
  let shown := if list = ['-'] then "'standard input'".toList else list
  match ← content list with
  | .error fault => complainOf (quotedIfNeeded list) fault
  | .ok text =>
      let lines := (ByteText.lines text).mapIdx fun i line => (i + 1, line)
      let lines := lines.filter fun line => line.2.head? ≠ some '#' && !line.2.isEmpty
      let counts ← lines.foldlM (checkDigest kinds arguments shown) {}
      if counts.proper = 0 then
        complain (shown ++ ": no properly formatted checksum lines found".toList)
      else
        warnOfDigests arguments counts.improper "line is improperly formatted"
          "lines are improperly formatted"
        warnOfDigests arguments counts.unread "listed file could not be read"
          "listed files could not be read"
        warnOfDigests arguments counts.failed "computed checksum did NOT match"
          "computed checksums did NOT match"
        if arguments.has "ignore-missing" && counts.verified = 0 then
          complain (shown ++ ": no file was verified".toList)
        if counts.failed + counts.unread > 0 || (arguments.has "strict" && counts.improper > 0) then
          finish 1

/-! ## Tools with one way -/

/-- The options of checking. -/
def checkOptions : List OptionKind :=
  [flag 'c' "check", wordOnly "ignore-missing", wordOnly "quiet", wordOnly "status",
    wordOnly "strict", wordOnly "tag", flag 'w' "warn", flag 'z' "zero"]

/-- Refuse options that do not go together with checking, or only with it. -/
def refuseWithCheck (arguments : Arguments) : Work Unit := do
  if arguments.has "check" then
    if arguments.has "tag" then
      misuse "the --tag option is meaningless when verifying checksums".toList
    if arguments.has "zero" then
      misuse "the --zero option is not supported when verifying checksums".toList
    if arguments.has "binary" || arguments.has "text" then
      misuse "the --binary and --text options are meaningless when verifying checksums".toList
  else
    for word in ["ignore-missing", "status", "warn", "quiet", "strict"] do
      if arguments.has word then
        misuse ("the --".toList ++ word.toList ++
          " option is meaningful only when verifying checksums".toList)

/-- The operands of a call, or the input if there are none. -/
def digestOperands (arguments : Arguments) : List ByteText :=
  if arguments.operands.isEmpty then [['-']] else arguments.operands

/-- Print the digests of contents. -/
def printDigests (style : DigestStyle) (kind : DigestKind) (arguments : Arguments) : Work Unit :=
  forContents (digestOperands arguments) fun operand text =>
    print (digestLine style kind operand (kind.digest text.toBytes))

/-- The number of bits of a digest that a text asks for. -/
def requestedBits (text : ByteText) : Work Nat := do
  let invalid := "invalid length: ".toList ++ quoted text
  match Text.decimal? text with
  | none => refuse invalid
  | some bits => do
      if bits > 512 then
        remark invalid
        refuse "maximum digest length for 'BLAKE2b' is 512 bits".toList
      if bits % 8 ≠ 0 then
        remark invalid
        refuse "length is not a multiple of 8".toList
      return if bits = 0 then 512 else bits

/-- Print the digests of contents in one way, or check those of lists. -/
def digestTool (kind : DigestKind) (hasLength : Bool := false) : Tool := toTool do
  let own := if hasLength then [valued 'l' "length"] else []
  let arguments ← arguments (own ++ checkOptions ++ [flag 'b' "binary", flag 't' "text"])
  let lengths ← (arguments.values "length").mapM requestedBits
  refuseWithCheck arguments
  let isText := arguments.last? ["binary", "text"] = some "text"
  if arguments.has "tag" && isText then
    misuse "--tag does not support --text mode".toList
  let kind := lengths.getLast?.elim kind blake2Kind
  if arguments.has "check" then
    let kinds := if hasLength && lengths.isEmpty then
      (List.range 64).reverse.map fun i => blake2Kind (8 * (i + 1)) else [kind]
    for operand in digestOperands arguments do
      checkDigests kinds arguments operand
  else
    let isBinary := arguments.last? ["binary", "text"] = some "binary"
    let style : DigestStyle :=
      { isTagged := arguments.has "tag", isBinary, isZeroEnded := arguments.has "zero" }
    printDigests style kind arguments

/-- The tools with one way to take digests. -/
def digestTools : List (String × Tool) :=
  digestKinds.map fun (name, kind) =>
    if name = "blake2b" then ("b2sum", digestTool kind true)
    else (name ++ "sum", digestTool kind)

/-! ## Simple sums -/

/-- A simple sum: what is printed for a content, of which the name follows if it has one. -/
abbrev PlainSum := Bytes → ByteText

/-- A number with blanks in front of it or zeros. -/
def filledNumber (width : Nat) (filler : Char) (number : Nat) : ByteText :=
  let digits := ByteText.ofNat number
  List.replicate (width - digits.length) filler ++ digits

/-- The sum that is turned before each byte is added, with the number of blocks of 1024 bytes. -/
def turnedSum : PlainSum := fun bytes =>
  let sum := bytes.foldl
    (fun sum byte => (sum / 2 + sum % 2 * 0x8000 + byte.toNat) % 0x10000) 0
  filledNumber 5 '0' sum ++ ' ' :: filledNumber 5 ' ' ((bytes.length + 1023) / 1024)

/-- The sum of all bytes, with the number of blocks of 512 bytes. -/
def foldedSum : PlainSum := fun bytes =>
  let sum := bytes.foldl (fun sum byte => sum + byte.toNat) 0 % 0x100000000
  let folded := sum % 0x10000 + sum / 0x10000
  ByteText.ofNat (folded % 0x10000 + folded / 0x10000) ++
    ' ' :: ByteText.ofNat ((bytes.length + 511) / 512)

/-- The bytes of a number, the lowest one in front; the first argument bounds them. -/
def lengthBytes : Nat → Nat → Bytes
  | 0, _ => []
  | steps + 1, length =>
      if length = 0 then [] else UInt8.ofNat length :: lengthBytes steps (length / 256)

/-- The cyclic check of a content with its length, and the length. -/
def cyclicSum : PlainSum := fun bytes =>
  let check := (bytes ++ lengthBytes 8 bytes.length).foldl Digest.Crc.plainByte 0
  ByteText.ofNat (~~~check).toNat ++ ' ' :: ByteText.ofNat bytes.length

/-- The simple sums by name. -/
def plainSums : List (String × PlainSum) :=
  [("bsd", turnedSum), ("sysv", foldedSum), ("crc", cyclicSum)]

/-- Print simple sums of contents. -/
def printSums (sum : PlainSum) (arguments : Arguments) : Work Unit :=
  let ending := if arguments.has "zero" then ['\x00'] else ['\n']
  forContents (digestOperands arguments) fun operand text =>
    print (sum text.toBytes ++
      (if arguments.operands.isEmpty then [] else ' ' :: operand) ++ ending)

/-- Print simple sums of contents. -/
def sum : Tool := toTool do
  let arguments ← arguments [letterOnly 'r' "turned", flag 's' "sysv"]
  let isFolded := arguments.last? ["turned", "sysv"] = some "sysv"
  printSums (if isFolded then foldedSum else turnedSum) arguments

/-! ## All ways -/

/-- The options of taking digests in any way. -/
def anyDigestOptions : List OptionKind :=
  checkOptions ++ [valued 'a' "algorithm", valued 'l' "length", wordOnly "base64", wordOnly "debug",
    wordOnly "raw", wordOnly "untagged"]

/-- Print the digests of contents in a way that is named, or check those of lists. -/
def cksum : Tool := toTool do
  let arguments ← arguments anyDigestOptions
  let names := plainSums.map Prod.fst ++ digestKinds.map Prod.fst
  let chosenNames ← (arguments.values "algorithm").mapM fun text =>
    chosen ((names ++ ["sm3"]).map fun name => [name]) "algorithm" text
  let name? := chosenNames.getLast?
  let name := name?.getD "crc"
  let lengths ← (arguments.values "length").mapM fun text => do
    if name ≠ "blake2b" then
      refuse "--length is only supported with --algorithm=blake2b".toList
    requestedBits text
  refuseWithCheck arguments
  let kind? := if lengths.isEmpty then digestKinds.lookup name else lengths.getLast?.map blake2Kind
  if arguments.has "check" then
    if name?.isSome && kind?.isNone then
      misuse "--check is not supported with --algorithm={bsd,sysv,crc}".toList
    let kinds := kind?.elim (digestKinds.map Prod.snd) fun kind => [kind]
    for operand in digestOperands arguments do
      checkDigests kinds arguments operand
  else
    match kind?, plainSums.lookup name with
    | some kind, _ =>
        if arguments.has "raw" then
          forContents (digestOperands arguments) fun _ text =>
            print (ByteText.ofBytes (kind.digest text.toBytes))
        else
          let isUntagged := arguments.last? ["tag", "untagged"] = some "untagged"
          printDigests
            { isTagged := !isUntagged, isZeroEnded := arguments.has "zero"
              hasLetters := arguments.has "base64" }
            kind arguments
    | none, some sum => printSums sum arguments
    | none, none => return ()

end Provision.Shell.Tool
