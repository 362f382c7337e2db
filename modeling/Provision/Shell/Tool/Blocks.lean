import Provision.Shell.Tool.Amounts
import Provision.Shell.Tool.Options
import Provision.Shell.Tool.Places

namespace Provision.Shell.Tool

/-!
# Copying in blocks

A content is read in blocks and written in blocks, from one place in a file to a place in another
one, and may be converted on the way.  The blocks that have been read and written are counted.
-/

open Work

/-! ## Operands -/

/-- A number of blocks or of bytes. -/
structure BlockCount where
  number : Nat := 0
  isBytes : Bool := false

/-- The number of bytes of some blocks of a size. -/
def BlockCount.bytes (count : BlockCount) (size : Nat) : Nat :=
  if count.isBytes then count.number else count.number * size

/-- How a content is copied. -/
structure BlockSetting where
  input? : Option ByteText := none
  output? : Option ByteText := none
  size? : Option Nat := none
  inputSize : Nat := 512
  outputSize : Nat := 512
  recordSize : Nat := 0
  skip : BlockCount := {}
  seek : BlockCount := {}
  count? : Option BlockCount := none
  conversions : List String := []
  inputFlags : List String := []
  outputFlags : List String := []
  status : String := ""

/-- The letters of units for blocks. -/
def blockUnits : List Char :=
  ['b', 'c', 'w', 'E', 'G', 'k', 'K', 'M', 'P', 'T', 'Y', 'Z', 'R', 'Q']

/-- The number that a product of amounts stands for. -/
def readProduct (text : ByteText) : Except AmountFault Nat := do
  let factors ← (Text.fields 'x' text).mapM fun factor =>
    let plain := if factor.getLast? = some 'B' && factor.dropLast.getLast?.any Char.isDigit then
      factor.dropLast else factor
    if !factor.head?.any Char.isDigit then .error .invalid
    else readAmount blockUnits plain 0x7fffffffffffffff
  let value := factors.foldl (· * ·) 1
  if value ≤ 0x7fffffffffffffff then return value else throw .tooLarge

/-- The number that an operand gives, which is at least some other one. -/
def blockNumber (least : Nat) (text : ByteText) : Work Nat := do
  match readProduct text with
  | .ok value =>
      if value < least then refuse ("invalid number: ".toList ++ quoted text) else return value
  | .error fault => refuse ("invalid number: ".toList ++ quoted text ++ fault.remark)

/-- The count that an operand gives. -/
def blockCount (text : ByteText) : Work BlockCount := do
  return ⟨← blockNumber 0 text, text.contains 'B'⟩

/-- The conversions that there are. -/
def conversionNames : List String :=
  ["ascii", "ebcdic", "ibm", "block", "unblock", "lcase", "ucase", "sparse", "swab", "sync", "excl",
    "nocreat", "notrunc", "noerror", "fdatasync", "fsync"]

/-- The flags that there are. -/
def blockFlagNames : List String :=
  ["append", "direct", "directory", "dsync", "sync", "fullblock", "nonblock", "noatime", "nocache",
    "noctty", "nofollow", "nolinks", "binary", "text", "count_bytes", "skip_bytes", "seek_bytes"]

/-- The words of a list, which all have to be known. -/
def knownWords (names : List String) (kind : String) (text : ByteText) : Work (List String) :=
  (Text.fields ',' text).mapM fun word => do
    match names.find? (·.toList = word) with
    | some name => return name
    | none => misuse ("invalid ".toList ++ kind.toList ++ ": ".toList ++ quoted word)

/-- Read one operand. -/
def readBlockOperand (setting : BlockSetting) (operand : ByteText) : Work BlockSetting := do
  match (Text.cut? '=' operand).map fun (name, value) => (String.ofList name, value) with
  | some ("if", value) => return { setting with input? := some value }
  | some ("of", value) => return { setting with output? := some value }
  | some ("bs", value) => return { setting with size? := some (← blockNumber 1 value) }
  | some ("ibs", value) => return { setting with inputSize := ← blockNumber 1 value }
  | some ("obs", value) => return { setting with outputSize := ← blockNumber 1 value }
  | some ("cbs", value) => return { setting with recordSize := ← blockNumber 1 value }
  | some ("skip", value) | some ("iseek", value) =>
      return { setting with skip := ← blockCount value }
  | some ("seek", value) | some ("oseek", value) =>
      return { setting with seek := ← blockCount value }
  | some ("count", value) => return { setting with count? := some (← blockCount value) }
  | some ("conv", value) =>
      let words ← knownWords conversionNames "conversion" value
      return { setting with conversions := setting.conversions ++ words }
  | some ("iflag", value) =>
      let words ← knownWords blockFlagNames "input flag" value
      return { setting with inputFlags := setting.inputFlags ++ words }
  | some ("oflag", value) =>
      let words ← knownWords blockFlagNames "output flag" value
      return { setting with outputFlags := setting.outputFlags ++ words }
  | some ("status", value) =>
      let words ← knownWords ["none", "noxfer", "progress"] "status level" value
      return { setting with status := words.head?.getD "" }
  | _ => misuse ("unrecognized operand ".toList ++ quoted operand)

namespace BlockSetting

/-- Whether a conversion is asked for. -/
def converts (setting : BlockSetting) (name : String) : Bool :=
  setting.conversions.contains name

/-- The size of the blocks that are read. -/
def readSize (setting : BlockSetting) : Nat :=
  setting.size?.getD setting.inputSize

/-- The size of the blocks that are written. -/
def writeSize (setting : BlockSetting) : Nat :=
  setting.size?.getD setting.outputSize

/-- The number of bytes that are passed over of the input. -/
def skipped (setting : BlockSetting) : Nat :=
  { setting.skip with
    isBytes := setting.skip.isBytes || setting.inputFlags.contains "skip_bytes" }.bytes
    setting.readSize

/-- The number of bytes that are read, if there is a bound. -/
def counted? (setting : BlockSetting) : Option Nat :=
  setting.count?.map fun count =>
    { count with isBytes := count.isBytes || setting.inputFlags.contains "count_bytes" }.bytes
      setting.readSize

/-- The place in the output where writing starts. -/
def start (setting : BlockSetting) : Nat :=
  { setting.seek with
    isBytes := setting.seek.isBytes || setting.outputFlags.contains "seek_bytes" }.bytes
    setting.writeSize

end BlockSetting

/-! ## Conversions -/

/-- Lines as records of a size, and how many of them were too long. -/
def recordsOfLines (size : Nat) (text : ByteText) : ByteText × Nat :=
  let lines := ByteText.lines text
  (lines.flatMap fun line => line.take size ++ List.replicate (size - line.length) ' ',
    (lines.filter fun line => size < line.length).length)

/-- Records of a size as lines; the first argument bounds them. -/
def linesOfRecords (size : Nat) : Nat → ByteText → ByteText
  | 0, _ => []
  | steps + 1, text =>
      if text.isEmpty then []
      else
        ((text.take size).reverse.dropWhile (· = ' ')).reverse ++
          '\n' :: linesOfRecords size steps (text.drop size)

/-- A text in which the members of each pair have changed their places. -/
def swapPairs : ByteText → ByteText
  | a :: b :: rest => b :: a :: swapPairs rest
  | rest => rest

/-- A text that is filled up to whole blocks. -/
def filledUp (size : Nat) (filler : Char) (text : ByteText) : ByteText :=
  text ++ List.replicate ((size - text.length % size) % size) filler

/-- What is written for what has been read, and how many records were too long. -/
def BlockSetting.convert (setting : BlockSetting) (text : ByteText) : ByteText × Nat :=
  let hasRecords := setting.recordSize > 0
  let isBlocking := hasRecords && setting.converts "block"
  let isUnblocking := hasRecords && setting.converts "unblock"
  let filler := if isBlocking || isUnblocking then ' ' else '\x00'
  let text := if setting.converts "sync" then filledUp setting.readSize filler text else text
  let text := if setting.converts "lcase" then text.map Char.toLower else text
  let text := if setting.converts "ucase" then text.map Char.toUpper else text
  let text := if setting.converts "swab" then swapPairs text else text
  if isBlocking then recordsOfLines setting.recordSize text
  else if isUnblocking then
    (linesOfRecords setting.recordSize (text.length + 1) text, 0)
  else (text, 0)

/-! ## Copying -/

/-- Numbers of whole blocks and of parts of blocks. -/
def blockTally (length size : Nat) : ByteText :=
  ByteText.ofNat (length / size) ++ '+' :: ByteText.ofNat (if length % size = 0 then 0 else 1)

/-- A number of bytes with a unit after a blank. -/
def spacedMagnitude (base bytes : Nat) : ByteText :=
  let shown := adaptiveText base bytes
  let digits := shown.takeWhile fun c => c.isDigit || c = '.'
  digits ++ ' ' :: shown.drop digits.length ++ (if base = 1024 then ['i', 'B'] else ['B'])

/-- What is said at the end about the bytes that have been copied. -/
def copiedText (bytes : Nat) : ByteText :=
  let units :=
    (if bytes ≥ 1000 then [spacedMagnitude 1000 bytes] else []) ++
      (if bytes ≥ 1024 then [spacedMagnitude 1024 bytes] else [])
  let inUnits := if units.isEmpty then [] else " (".toList ++ ", ".toList.intercalate units ++ [')']
  ByteText.ofNat bytes ++ (if bytes = 1 then " byte" else " bytes").toList ++ inUnits ++
    " copied, 0.0001 s, ".toList ++ spacedMagnitude 1000 (10000 * bytes) ++ ['/', 's']

/-- Tell how many blocks have been read and written. -/
def tellBlocks (setting : BlockSetting) (taken given truncated : Nat) : Work Unit := do
  if setting.status ≠ "none" then
    printError (blockTally taken setting.readSize ++ " records in\n".toList ++
      blockTally given setting.writeSize ++ " records out\n".toList)
    if truncated > 0 then
      printError (ByteText.ofNat truncated ++
        (if truncated = 1 then " truncated record\n" else " truncated records\n").toList)
    if setting.status ≠ "noxfer" then
      printError (copiedText given ++ ['\n'])

/-- Write a text to a place in the output. -/
def writeBlocks (setting : BlockSetting) (text : ByteText) : Work Unit := do
  match setting.output? with
  | none => print text
  | some name => do
      let keeps := setting.converts "notrunc"
      let isThere := (← status true name).isOk
      let failed := "failed to open ".toList ++ quoted name
      if isThere && setting.converts "excl" then
        refuse (failed ++ ": File exists".toList)
      if !isThere && setting.converts "nocreat" then
        refuse (failed ++ ": No such file or directory".toList)
      let placed := fun (old : ByteText) => ByteText.toBytes <|
        let old := if keeps then old else old.take setting.start
        let start := if setting.outputFlags.contains "append" then old.length else setting.start
        old.take start ++ List.replicate (start - old.length) '\x00' ++ text ++
          old.drop (start + text.length)
      let fault? ←
        if (Device.ofPath? name).isSome then write false name text
        else do
          let mode ← masked 0o666
          change fun disk directory =>
            disk.openFile directory name.toPath { mode, content := placed [] } fun file =>
              file.rewritten (placed (ByteText.ofBytes file.content))
      match fault? with
      | none => return ()
      | some (.refused .noSpace) =>
          complain ("error writing ".toList ++ quoted name ++ ": No space left on device".toList)
      | some fault => refuse (failed ++ ": ".toList ++ faultText fault)

/-- What is read of the input, and whether there was less than what is to be passed over. -/
def readBlocks (setting : BlockSetting) : Work (ByteText × Bool) := do
  let taken := fun (text : ByteText) =>
    (setting.counted?.elim (text.drop setting.skipped) (text.drop setting.skipped).take,
      decide (text.length < setting.skipped))
  match setting.input? with
  | none => do
      let text ← takeInput
      match setting.counted? with
      | none => return taken text
      | some count => do
          modify fun done => { done with unread := text.drop (setting.skipped + count) }
          return taken text
  | some name => do
      match Device.ofPath? name, ← content name with
      | some .zero, _ | some .full, _ =>
          return (List.replicate (setting.counted?.getD 0x80000) '\x00', false)
      | _, .ok text => return taken text
      | _, .error (.refused .isDirectory) => do
          writeBlocks setting []
          complain ("error reading ".toList ++ quoted name ++ ": Is a directory".toList)
          tellBlocks setting 0 0 0
          stop
      | _, .error fault => refuse ("failed to open ".toList ++ quoted name ++ ": ".toList ++
          faultText fault)

/-- Refuse conversions that exclude each other. -/
def checkConversions (setting : BlockSetting) : Work Unit := do
  for (one, other) in [("block", "unblock"), ("lcase", "ucase"), ("excl", "nocreat")] do
    let matters := one ≠ "block" || setting.recordSize > 0
    if matters && setting.converts one && setting.converts other then
      refuse ("cannot combine ".toList ++ one.toList ++ " and ".toList ++ other.toList)

/-- Copy a content in blocks. -/
def dd : Tool := toTool do
  let arguments ← arguments []
  let setting ← arguments.operands.foldlM readBlockOperand {}
  checkConversions setting
  let (text, isShort) ← readBlocks setting
  let (converted, truncated) := setting.convert text
  writeBlocks setting converted
  if isShort && setting.status ≠ "none" then
    remark ((setting.input?.elim "'standard input'".toList quotedIfNeeded) ++
      ": cannot skip to specified offset".toList)
  tellBlocks setting text.length converted.length truncated

end Provision.Shell.Tool
