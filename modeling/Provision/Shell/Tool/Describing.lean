import Provision.Shell.Tool.Escapes
import Provision.Shell.Tool.FileFacts
import Provision.Shell.Tool.Format
import Provision.Shell.Tool.Options
import Provision.Shell.Tool.TimeFormat

namespace Provision.Shell.Tool

/-!
# Describing files

What is known of a file is printed in a format: a percent sign and a letter stand for one property,
which is fitted into a width as a text, a number or a time.
-/

open Work

/-- Something that is described: its name, how names are quoted, and what is known of it. -/
structure Described where
  name : ByteText
  style : NameStyle
  facts : FileFacts

/-- A property of a file. -/
inductive Property where
  | text (text : ByteText)
  | number (letter : Char) (value : Nat)
  | time (moment : Int)

/-- The name of a kind of file. -/
def describedKind (facts : FileFacts) : ByteText :=
  if facts.device?.isSome then "character special file".toList
  else
    match facts.entry with
    | .directory _ => "directory".toList
    | .link _ => "symbolic link".toList
    | .file file => (if file.content.isEmpty then "regular empty file" else "regular file").toList

/-- The bits that stand for a kind of file. -/
def kindBits (facts : FileFacts) : Nat :=
  if facts.device?.isSome then 0o020000
  else
    match facts.entry with
    | .directory _ => 0o040000
    | .link _ => 0o120000
    | .file _ => 0o100000

/-- A time with its day, in full. -/
def fullTime (moment : Int) : ByteText :=
  formatTime "%Y-%m-%d %H:%M:%S.%N %z".toList moment

/-- The number of what holds the files. -/
def holderNumber : Nat := 0xfe00

/-- A name with what it leads to, as far as it is a link. -/
def quotedLink (described : Described) : ByteText :=
  let written := described.style.write []
  match described.facts.entry with
  | .link target => written described.name ++ " -> ".toList ++ written (.ofPath target)
  | _ => written described.name

/-- The property of a file that a letter stands for. -/
def property? (described : Described) (letter : Char) : Option Property :=
  let facts := described.facts
  let device := (facts.device?.map Device.numbers).getD (0, 0)
  match letter with
  | 'n' => some (.text described.name)
  | 'N' => some (.text (quotedLink described))
  | 's' => some (.number 'd' facts.entry.size)
  | 'a' => some (.number 'o' facts.entry.mode)
  | 'A' => some (.text facts.modeText)
  | 'F' => some (.text (describedKind facts))
  | 'h' => some (.number 'u' facts.links)
  | 'i' => some (.number 'u' facts.number)
  | 'u' | 'g' => some (.number 'u' 0)
  | 'U' | 'G' => some (.text "root".toList)
  | 'f' => some (.number 'x' (kindBits facts + facts.entry.mode))
  | 'o' => some (.number 'u' 4096)
  | 'B' => some (.number 'u' 512)
  | 'b' => some (.number 'u' (facts.room / 512))
  | 'd' => some (.number 'u' holderNumber)
  | 'D' => some (.number 'x' holderNumber)
  | 'r' => some (.number 'u' (256 * device.1 + device.2))
  | 'R' => some (.number 'x' (256 * device.1 + device.2))
  | 't' => some (.number 'x' device.1)
  | 'T' => some (.number 'x' device.2)
  | 'X' => some (.time (lookTimeOf facts.entry))
  | 'Y' => some (.time (timeOf facts.entry))
  | 'W' | 'Z' => some (.time presentTime)
  | 'x' => some (.text (fullTime (lookTimeOf facts.entry)))
  | 'y' => some (.text (fullTime (timeOf facts.entry)))
  | 'w' | 'z' => some (.text (fullTime presentTime))
  | 'm' => some (.text ['/'])
  | _ => none

/-- The property that two letters stand for, of which the first tells a half of a number. -/
def halfProperty? (described : Described) (half letter : Char) : Option Property :=
  let device := (described.facts.device?.map Device.numbers).getD (0, 0)
  let number := fun (pair : Nat × Nat) => if half = 'H' then pair.1 else pair.2
  match letter with
  | 'd' => some (.number 'u' (number (holderNumber / 256, holderNumber % 256)))
  | 'r' => some (.number 'u' (number device))
  | _ => none

/-! ## Fitting properties -/

/-- The flags that count for a kind of number. -/
def numberFlags (letter : Char) : List Char :=
  match letter with
  | 'd' => ['-', '+', ' ', '0']
  | 'u' => ['-', '0']
  | _ => ['-', '#', '0']

/-- A fraction of a second with some digits. -/
def fractionText (digits : Nat) (billionths : Nat) : ByteText :=
  let written := ByteText.ofNat billionths
  let all := List.replicate (9 - written.length) '0' ++ written
  all.take digits ++ List.replicate (digits - 9) '0'

/-- A time in seconds; a precision asks for a fraction, which is part of the width. -/
def fittedTime (fitting : Fitting) (moment : Int) : ByteText :=
  let digits := fitting.precision.getD 0
  let flags := fitting.flags.filter fun c => numberFlags 'd' |>.contains c
  let seconds := fun (width : Nat) =>
    Fitting.showInteger ⟨flags, width, none⟩ 'd' (moment.fdiv billion)
  if digits = 0 then
    seconds fitting.width
  else
    let fraction := '.' :: fractionText digits (moment.fmod billion).toNat
    if flags.contains '-' then
      padRight fitting.width (seconds 0 ++ fraction)
    else
      seconds (fitting.width - fraction.length) ++ fraction

/-- A property as a conversion shows it. -/
def Property.fitted (property : Property) (fitting : Fitting) : ByteText :=
  match property with
  | .text written => fitting.showText written
  | .number letter value =>
      let flags := fitting.flags.filter (numberFlags letter).contains
      Fitting.showInteger { fitting with flags } letter value
  | .time moment => fittedTime fitting moment

/-! ## Formats -/

/-- A part of a description: a text, a warning, or a conversion that there is not. -/
inductive DescribedPart where
  | text (text : ByteText)
  | warning (text : ByteText)
  | fault (conversion : ByteText)

/-- A conversion in a format, after its percent sign, and what follows it. -/
def describeOne (described : Described) (format : ByteText) : DescribedPart × ByteText :=
  let flags := format.takeWhile fun c => c ∈ ['\'', '-', '+', ' ', '#', '0', 'I']
  let rest := format.drop flags.length
  let digits := rest.takeWhile Char.isDigit
  let rest := rest.drop digits.length
  let hasPoint := rest.head? = some '.'
  let places := if hasPoint then rest.tail.takeWhile Char.isDigit else []
  let rest := if hasPoint then rest.drop (places.length + 1) else rest
  let start := format.take (format.length - rest.length)
  let precision (letter : Char) :=
    if !hasPoint then none
    else if places.isEmpty && letter ∈ ['W', 'X', 'Y', 'Z'] then some 9
    else some ((Text.decimal? places).getD 0)
  let fitted := fun (letter : Char) (property? : Option Property) =>
    let fitting : Fitting := ⟨flags, (Text.decimal? digits).getD 0, precision letter⟩
    DescribedPart.text (property?.elim ['?'] (·.fitted fitting))
  match rest with
  | [] => (if start.isEmpty then .text ['%'] else .fault ('%' :: start), [])
  | '%' :: rest => (if start.isEmpty then .text ['%'] else .fault ('%' :: start ++ ['%']), rest)
  | letter :: rest =>
      if letter = 'H' || letter = 'L' then
        match rest.head?.bind (halfProperty? described letter) with
        | some property => (fitted 'd' (some property), rest.tail)
        | none => (fitted letter none, rest)
      else
        (fitted letter (property? described letter), rest)

/-- An escape in a format, after its backslash, and what follows it. -/
def describedEscape (format : ByteText) : List DescribedPart × ByteText :=
  match format with
  | [] => ([.warning "backslash at end of format".toList, .text ['\\']], [])
  | c :: rest =>
      let octal := takeDigits isOctalDigit 3 format
      let hex := takeDigits (fun c => (hexDigit? c).isSome) 2 rest
      if !octal.isEmpty then
        ([.text [codeChar 8 octal]], format.drop octal.length)
      else if c = 'x' && !hex.isEmpty then
        ([.text [codeChar 16 hex]], rest.drop hex.length)
      else if c = '"' then
        ([.text ['"']], rest)
      else
        match escapedLetter? c with
        | some c => ([.text [c]], rest)
        | none =>
            ([.warning ("unrecognized escape '\\".toList ++ [c, '\'']), .text [c]], rest)

/--
The parts of a description in a format, which may have escapes; the first argument bounds them.
-/
def describe (described : Described) (hasEscapes : Bool) : Nat → ByteText → List DescribedPart
  | 0, _ => []
  | _ + 1, [] => []
  | steps + 1, '%' :: rest =>
      let (part, rest) := describeOne described rest
      part :: describe described hasEscapes steps rest
  | steps + 1, c :: rest =>
      if c = '\\' && hasEscapes then
        let (parts, rest) := describedEscape rest
        parts ++ describe described hasEscapes steps rest
      else
        .text [c] :: describe described hasEscapes steps rest

/-- Print a part of a description. -/
def printDescribed (part : DescribedPart) : Work Unit :=
  match part with
  | .text text => print text
  | .warning text => remark ("warning: ".toList ++ text)
  | .fault conversion => refuse (quoted conversion ++ ": invalid directive".toList)

/-- The format of a description that nobody has asked for in particular. -/
def usualFormat (isDevice : Bool) : ByteText :=
  let device := if isDevice then "%-5h Device type: %Hr,%Lr" else "%h"
  ("  File: %N\n  Size: %-10s\tBlocks: %-10b IO Block: %-6o %F\n" ++
    "Device: %Hd,%Ld\tInode: %-10i  Links: " ++ device ++ "\n" ++
    "Access: (%04a/%10.10A)  Uid: (%5u/%8U)   Gid: (%5g/%8G)\n" ++
    "Access: %x\nModify: %y\nChange: %z\n Birth: %w").toList

/-- The format of a description in one line. -/
def terseFormat : ByteText :=
  "%n %s %b %f %u %g %D %i %h %t %T %X %Y %Z %W %o".toList

/-! ## The tool -/

/-- Describe files. -/
def stat : Tool := toTool do
  let arguments ← arguments [valued 'c' "format", optionOf [] "printf" .always,
      flag 'L' "dereference",
    flag 'f' "file-system", flag 't' "terse", optionOf [] "cached" .always]
  for value in arguments.values "cached" do
    let _ ← chosen [["default"], ["never"], ["always"]] "cached" value
  requireOperands arguments
  let isPrintf := arguments.last? ["format", "printf"] = some "printf"
  let own? := ((arguments.options.filter fun option =>
    option.1 = "format" || option.1 = "printf").getLast?).map Prod.snd
  let style ← if own?.isSome then environmentStyle (.shell true true) else pure .literal
  for operand in arguments.operands do
    if arguments.has "file-system" then
      complainOf ("cannot read file system information for ".toList ++ quoted operand)
        (.refused .noEntry)
    else
      let input := operand = ['-']
      let found ← if input then pure (.ok (.ofDevice .null))
        else fileFacts (arguments.has "dereference") operand
      match found with
      | .error fault => complainOf ("cannot statx ".toList ++ quoted operand) fault
      | .ok facts => do
          let described : Described := { name := operand, style, facts }
          let format := own?.getD
            (if arguments.has "terse" then terseFormat else usualFormat facts.device?.isSome)
          for part in describe described isPrintf (format.length + 1) format do
            printDescribed part
          if !isPrintf then
            print ['\n']

end Provision.Shell.Tool
