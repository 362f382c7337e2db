import Provision.Shell.Tool.Amounts
import Provision.Shell.Tool.Contents

namespace Provision.Shell.Tool

/-!
# Counting

Lines, words, characters and bytes of contents are counted, and the width of the longest line.
-/

open Work

/-- What has been counted. -/
structure Counts where
  lines : Nat := 0
  words : Nat := 0
  bytes : Nat := 0
  longest : Nat := 0

/-- The counts of two contents together. -/
def Counts.add (a b : Counts) : Counts :=
  ⟨a.lines + b.lines, a.words + b.words, a.bytes + b.bytes, max a.longest b.longest⟩

/-- Count a content, inside of a word or not, and at a column of a line. -/
def countFrom (counts : Counts) (isWord : Bool) (column : Nat) : ByteText → Counts
  | [] => { counts with longest := max counts.longest column }
  | c :: rest =>
      let counts := { counts with bytes := counts.bytes + 1 }
      let endsLine := c = '\n' || c = '\r' || c = '\x0c'
      if endsLine then
        let lines := if c = '\n' then counts.lines + 1 else counts.lines
        countFrom { counts with lines, longest := max counts.longest column } false 0 rest
      else if c = '\t' then countFrom counts false (column + 8 - column % 8) rest
      else if c = ' ' then countFrom counts false (column + 1) rest
      else if c = '\x0b' then countFrom counts false column rest
      else if ' ' < c && c ≤ '~' then
        let words := if isWord then counts.words else counts.words + 1
        countFrom { counts with words } true (column + 1) rest
      else
        countFrom counts isWord column rest

/-- The counts of a content. -/
def countsOf (content : ByteText) : Counts :=
  countFrom {} false 0 content

/-- What is printed of counts, in the order in which it is printed. -/
def countWords : List String :=
  ["lines", "words", "chars", "bytes", "max-line-length"]

/-- The count that a word stands for. -/
def Counts.get (counts : Counts) (word : String) : Nat :=
  match word with
  | "lines" => counts.lines
  | "words" => counts.words
  | "max-line-length" => counts.longest
  | _ => counts.bytes

/-- What is known of the size of an operand before it is counted. -/
inductive KnownSize where
  | file (size : Nat)
  | other
  | missing
  deriving Repr, DecidableEq

/-- What is known of the size of an operand. -/
def knownSize (operand : ByteText) : Work KnownSize := do
  if operand = ['-'] then
    return match (← read).inputSize? with
      | some size => .file size
      | none => .other
  else if (Device.ofPath? operand).isSome then
    return .other
  else
    return match ← entry true operand with
      | .ok (_, .file file) => .file file.content.length
      | .ok _ => .other
      | .error _ => .missing

/-- The width of the counts of some operands. -/
def countWidth (sizes : List KnownSize) : Nat :=
  let total := sizes.foldl
    (fun total size =>
      match size with
      | .file size => total + size
      | _ => total) 0
  max (ByteText.ofNat total).length (if sizes.contains .other then 7 else 1)

/-- Print counts with a name. -/
def printCounts (words : List String) (width : Nat) (counts : Counts) (name : ByteText) :
    Work Unit :=
  let fields := words.map fun word =>
    let digits := ByteText.ofNat (counts.get word)
    List.replicate (width - digits.length) ' ' ++ digits
  printLine (Text.join ' ' (fields ++ if name.isEmpty then [] else [name]))

/-- Count one content, and print the counts if so asked. -/
def countOperand (words : List String) (width : Nat) (isPrinted : Bool) (operand : ByteText)
    (name : ByteText) : Work Counts := do
  if operand.isEmpty then
    complain "invalid zero-length file name".toList
    return {}
  else
    match ← content operand with
    | .ok text => do
        let counts := countsOf text
        if isPrinted then
          printCounts words width counts name
        return counts
    | .error fault => do
        complainOf (quotedIfNeeded operand) fault
        if isPrinted && fault = .refused .isDirectory then
          printCounts words width {} name
        return {}

/-- The operands that an input names, each with a zero after it. -/
def listedOperands (arguments : Arguments) : Work (List ByteText) := do
  match arguments.value? "files0-from" with
  | none => return arguments.operands
  | some source =>
      match ← content source with
      | .ok text =>
          let parts := Text.fields '\x00' text
          return if parts.getLast? = some [] then parts.dropLast else parts
      | .error fault =>
          refuse ("cannot open ".toList ++ quoted source ++ " for reading: ".toList ++
            faultText fault)

/-- Count lines, words and bytes. -/
def wc : Tool := toTool do
  let arguments ← arguments [flag 'c' "bytes", flag 'm' "chars", flag 'l' "lines",
    flag 'L' "max-line-length", flag 'w' "words", optionOf [] "files0-from" .always,
    optionOf [] "total" .always]
  let total ← chosen [["auto"], ["always"], ["only"], ["never"]] "total"
    ((arguments.value? "total").getD "auto".toList)
  let given := countWords.filter arguments.has
  let words := if given.isEmpty then ["lines", "words", "bytes"] else given
  let operands ← listedOperands arguments
  let names : List (ByteText × ByteText) :=
    if operands.isEmpty && !arguments.has "files0-from" then [(['-'], [])]
    else operands.map fun operand => (operand, operand)
  let isOnly := total = "only"
  let isListed := arguments.has "files0-from"
  let sizes ← names.mapM fun (operand, _) => knownSize operand
  let width :=
    if isOnly || isListed || (names.length ≤ 1 && words.length = 1) then 1 else countWidth sizes
  let counts ← names.mapM fun (operand, name) => countOperand words width (!isOnly) operand name
  let hasTotal : Bool :=
    match total with
    | "auto" => names.length > 1
    | "never" => false
    | _ => true
  if hasTotal then
    printCounts words width (counts.foldl Counts.add {}) (if isOnly then [] else "total".toList)

/-!
# First and last parts

The first or the last lines or bytes of contents are printed, with a heading for each content if
there are several.
-/

/-- What part of a content is meant: so many of its lines or bytes, or all but so many. -/
structure Portion where
  countsBytes : Bool := false
  isRest : Bool := false
  count : Nat := 10
  ending : Char := '\n'

/-- When contents get a heading. -/
inductive Headings where
  | forSeveral
  | always
  | never
  deriving Repr, DecidableEq

/-- The number of an option, or a refusal. -/
def countOf (kind : String) (text : ByteText) : Work Nat := do
  match readAmount countUnits text with
  | .ok count => return count
  | .error fault =>
      refuse (("invalid number of " ++ kind ++ ": ").toList ++ quoted text ++ fault.remark)

/-- The options for parts of contents. -/
def portionOptions : List OptionKind :=
  [valued 'c' "bytes", valued 'n' "lines", flag 'q' "quiet", wordOnly "silent",
    flag 'v' "verbose", flag 'z' "zero-terminated"]

/-- When a call wants headings. -/
def headingsOf (arguments : Arguments) : Headings :=
  match arguments.last? ["quiet", "silent", "verbose"] with
  | some "verbose" => .always
  | some _ => .never
  | none => .forSeveral

/-- The heading of a content, after a gap if it is not the first one. -/
def printHeading (isFirst : Bool) (operand : ByteText) : Work Unit :=
  let name := if operand = ['-'] then "standard input".toList else operand
  print ((if isFirst then [] else ['\n']) ++ "==> ".toList ++ name ++ " <==\n".toList)

/-- Print a part of each content with its heading. -/
def printPortions (hasHeadings : Bool) (work : ByteText → ByteText × ByteText) :
    Bool → List ByteText → Work Unit
  | _, [] => return ()
  | isFirst, operand :: rest => do
      match ← content operand with
      | .ok text => do
          if hasHeadings then
            printHeading isFirst operand
          let (shown, left) := work text
          print shown
          if operand = ['-'] then
            putBack left
          printPortions hasHeadings work false rest
      | .error (.refused .isDirectory) => do
          if hasHeadings then
            printHeading isFirst operand
          complainOf ("error reading ".toList ++ quoted operand) (.refused .isDirectory)
          printPortions hasHeadings work false rest
      | .error fault => do
          complainOf ("cannot open ".toList ++ quoted operand ++ " for reading".toList) fault
          printPortions hasHeadings work isFirst rest

/-- Print a part of each operand of a call. -/
def printOperands (arguments : Arguments) (work : ByteText → ByteText × ByteText) : Work Unit :=
  let operands : List ByteText :=
    if arguments.operands.isEmpty then [['-']] else arguments.operands
  let hasHeadings :=
    match headingsOf arguments with
    | .forSeveral => operands.length > 1
    | .always => true
    | .never => false
  printPortions hasHeadings work true operands

/-- The first part of a content, and what is left of it. -/
def firstPart (portion : Portion) (content : ByteText) : ByteText × ByteText :=
  if portion.countsBytes then
    let length := if portion.isRest then content.length - portion.count else portion.count
    (content.take length, if portion.isRest then [] else content.drop length)
  else
    let lines := endedLines portion.ending content
    let length := if portion.isRest then lines.length - portion.count else portion.count
    ((lines.take length).flatten, if portion.isRest then [] else (lines.drop length).flatten)

/-- The last part of a content. -/
def lastPart (portion : Portion) (content : ByteText) : ByteText :=
  let start := fun size => if portion.isRest then portion.count - 1 else size - portion.count
  if portion.countsBytes then
    content.drop (start content.length)
  else
    let lines := endedLines portion.ending content
    (lines.drop (start lines.length)).flatten

/-- The part that the options of a call ask for; a sign may ask for the rest. -/
def requestedPortion (arguments : Arguments) (restSign : Char) : Work Portion := do
  let ending := if arguments.has "zero-terminated" then '\x00' else '\n'
  match arguments.last? ["bytes", "lines"] with
  | none => return { ending }
  | some kind =>
      let value := (arguments.value? kind).getD []
      let isRest := value.head? = some restSign
      let digits := if value.head? ∈ [some '+', some '-'] then value.tail else value
      let count ← countOf kind digits
      return { countsBytes := kind = "bytes", isRest, count, ending }

/-- The options that an argument made of a number and letters stands for. -/
def numberedOptions? (argument : ByteText) : Option (List ByteText) :=
  match argument with
  | '-' :: rest =>
      let digits := rest.takeWhile Char.isDigit
      let letters := rest.drop digits.length
      let isKnown := fun c => c ∈ ['b', 'c', 'k', 'l', 'm', 'q', 'v', 'z']
      if digits.isEmpty || !letters.all isKnown then
        none
      else
        let units := letters.filter fun c => c ∈ ['b', 'k', 'm']
        let kind := if letters.any fun c => c ∈ ['b', 'c', 'k', 'm'] then 'c' else 'n'
        let others := letters.filter fun c => c ∈ ['q', 'v', 'z']
        some (['-', kind] :: (digits ++ units.take 1) :: others.map fun c => ['-', c])
  | _ => none

/-- The first lines or bytes of contents. -/
def head : Tool := toTool do
  let given := (← read).arguments
  let given := match given with
    | first :: rest => ((numberedOptions? first).getD [first]) ++ rest
    | [] => []
  match Arguments.read portionOptions false given with
  | .error text => misuse text
  | .ok arguments => do
      let portion ← requestedPortion arguments '-'
      printOperands arguments (firstPart portion)

/-- The options that an argument of an older kind stands for, if it is one. -/
def olderOptions? (arguments : List ByteText) : Option (List ByteText) :=
  match arguments with
  | (sign :: text) :: rest =>
      let digits := text.takeWhile Char.isDigit
      let mayBe := (sign = '+' || (sign = '-' && text ≠ [] && text ≠ ['c'])) &&
        match rest with
        | [] => true
        | [file] => file = ['-'] || file.head? ≠ some '-'
        | second :: _ => rest.length ≤ 2 && second = ['-', '-']
      let (kind, unit, after) :=
        match text.drop digits.length with
        | 'b' :: after => ('c', ['b'], after)
        | 'c' :: after => ('c', [], after)
        | 'l' :: after => ('n', [], after)
        | after => ('n', [], after)
      let count := if digits.isEmpty then ['1', '0'] else digits
      let start := if sign = '+' then ['+'] else []
      let isWhole := after = [] || (after = ['f'] && (sign = '+' || !digits.isEmpty))
      if mayBe && isWhole then
        some (['-', kind] :: (start ++ count ++ unit) :: rest)
      else
        none
  | _ => none

/-- The last lines or bytes of contents. -/
def tail : Tool := toTool do
  let given := (← read).arguments
  let kinds := portionOptions ++ [optionOf ['f'] "follow" .never, letterOnly 'F' "follow-name",
    valued 's' "sleep-interval", wordOnly "retry", optionOf [] "pid" .always]
  let isNumber := fun (argument : ByteText) =>
    argument.head? = some '-' && argument.tail.head?.any Char.isDigit
  let given := (olderOptions? given).getD given
  if let some misplaced := (given.takeWhile (· ≠ ['-', '-'])).find? isNumber then
    if !(given.any fun argument => argument ∈ ["-n".toList, "-c".toList]) then
      refuse ("option used in invalid context -- ".toList ++ misplaced.tail.take 1)
  match Arguments.read kinds false given with
  | .error text => misuse text
  | .ok arguments => do
      let portion ← requestedPortion arguments '+'
      printOperands arguments fun content => (lastPart portion content, [])
      let follows := arguments.has "follow" || arguments.has "follow-name"
      let named := arguments.operands.filter (· ≠ ['-'])
      if follows && (!named.isEmpty || (← read).inputSize?.isSome) then
        if !named.isEmpty && !(← named.anyM isThere) && !arguments.has "retry" then
          complain "no files remaining".toList
        else
          goOn

end Provision.Shell.Tool
