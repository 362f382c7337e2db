import Provision.Shell.Tool.Contents
import Provision.Shell.Tool.Escapes
import Provision.Shell.Tool.Ordering

namespace Provision.Shell.Tool

/-!
# Parts of lines

Bytes or fields of lines are selected by lists of ranges, and lines are put side by side.
-/

open Work

/-- A range of positions, which count from one and may have no end. -/
structure Range where
  first : Nat
  last : Option Nat
  deriving Repr, DecidableEq

/-- Whether a position is in a range. -/
def Range.contains (range : Range) (position : Nat) : Bool :=
  range.first ≤ position && range.last.all (position ≤ ·)

/-- What positions count, as messages name it. -/
structure PositionNames where
  numbered : String
  value : String

/-- The names of fields. -/
def fieldNames : PositionNames :=
  ⟨"fields are numbered from 1", "invalid field value "⟩

/-- The names of bytes. -/
def byteNames : PositionNames :=
  ⟨"byte/character positions are numbered from 1", "invalid byte/character position "⟩

/-- A range in a list, or what is wrong with it. -/
def readRange (names : PositionNames) (text : ByteText) : Except ByteText Range :=
  let number := fun (digits : ByteText) =>
    match Text.decimal? digits with
    | some 0 => .error names.numbered.toList
    | some value => .ok value
    | none => .error (names.value.toList ++ quoted digits)
  match Text.cut? '-' text with
  | none => do
      if text.isEmpty then
        throw names.numbered.toList
      let value ← number text
      return ⟨value, some value⟩
  | some ([], []) => .error "invalid range with no endpoint: -".toList
  | some ([], last) => do return ⟨1, some (← number last)⟩
  | some (first, []) => do return ⟨← number first, none⟩
  | some (first, last) => do
      let first ← number first
      let last ← number last
      if last < first then
        throw "invalid decreasing range".toList
      return ⟨first, some last⟩

/-- A list of ranges, or what is wrong with it. -/
def readRanges (names : PositionNames) (text : ByteText) : Except ByteText (List Range) :=
  (Text.fields ',' (text.map fun c => if c = ' ' || c = '\t' then ',' else c)).mapM
    (readRange names)

/-- How parts of lines are cut. -/
structure Cut where
  ranges : List Range
  isComplement : Bool
  onlyDelimited : Bool
  separator : Char
  joiner : Option ByteText

/-- Whether a position is cut out. -/
def Cut.selects (setting : Cut) (position : Nat) : Bool :=
  (setting.ranges.any (·.contains position)) != setting.isComplement

/-- Whether a range starts at a position, so that it stands apart from what is before it. -/
def Cut.startsAt (setting : Cut) (position : Nat) : Bool :=
  if setting.isComplement then
    setting.selects position && !setting.selects (position - 1)
  else
    (setting.ranges.any (·.first = position)) &&
      !setting.ranges.any fun range => range.first < position && range.contains position

/-- The bytes that are cut out of a line. -/
def Cut.bytes (setting : Cut) (line : ByteText) : ByteText :=
  let taken := line.zipIdx.filter fun (_, i) => setting.selects (i + 1)
  (taken.mapIdx fun index (c, i) =>
    if index > 0 && setting.startsAt (i + 1) then setting.joiner.getD [] ++ [c] else [c]).flatten

/-- The fields that are cut out of a line, if there is anything to print. -/
def Cut.fields (setting : Cut) (line : ByteText) : Option ByteText :=
  if !line.contains setting.separator then
    if setting.onlyDelimited then none else some line
  else
    let taken := (Text.fields setting.separator line).zipIdx.filter fun (_, i) =>
      setting.selects (i + 1)
    some ((setting.joiner.getD [setting.separator]).intercalate (taken.map Prod.fst))

/-- The lines of a text without their ends. -/
def linesOf (ending : Char) (text : ByteText) : List ByteText :=
  match (Text.fields ending text).reverse with
  | [] :: ended => ended.reverse
  | all => all.reverse

/-- Cut parts out of lines. -/
def cut : Tool := toTool do
  let arguments ← arguments [valued 'b' "bytes", valued 'c' "characters", valued 'd' "delimiter",
    valued 'f' "fields", letterOnly 'n' "ignored", flag 's' "only-delimited",
    flag 'z' "zero-terminated", wordOnly "complement", optionOf [] "output-delimiter" .always]
  let lists := arguments.options.filter fun option =>
    option.1 ∈ ["bytes", "characters", "fields"]
  let delimiter := arguments.value? "delimiter"
  if lists.length > 1 then
    misuse "only one list may be specified".toList
  if delimiter.any (·.length > 1) then
    misuse "the delimiter must be a single character".toList
  match lists with
  | (kind, list) :: _ => do
      let isFields := kind = "fields"
      if delimiter.isSome && !isFields then
        misuse "an input delimiter may be specified only when operating on fields".toList
      if arguments.has "only-delimited" && !isFields then
        misuse ("suppressing non-delimited lines makes sense\n\t" ++
          "only when operating on fields").toList
      match readRanges (if isFields then fieldNames else byteNames) list with
      | .error text => misuse text
      | .ok ranges => do
          let setting : Cut := {
            ranges, isComplement := arguments.has "complement"
            onlyDelimited := arguments.has "only-delimited"
            separator := delimiter.elim '\t' fun text => text.head?.getD '\x00'
            joiner := arguments.value? "output-delimiter" }
          let ending := if arguments.has "zero-terminated" then '\x00' else '\n'
          forContents arguments.operands fun _ text =>
            print ((linesOf ending text).filterMap fun line =>
              let taken := if isFields then setting.fields line else some (setting.bytes line)
              taken.map fun text => text ++ [ending]).flatten
  | [] => misuse "you must specify a list of bytes, characters, or fields".toList

/-! ## Lines side by side -/

/-- The separators in a list, in which an escape may stand for one or for nothing at all. -/
def readSeparators : ByteText → Option (List ByteText)
  | [] => some []
  | ['\\'] => none
  | '\\' :: c :: rest => do
      let text : ByteText := if c = '0' then [] else
        if c ∈ ['b', 'f', 'n', 'r', 't', 'v', '\\'] then (escapedLetter? c).toList else [c]
      return text :: (← readSeparators rest)
  | c :: rest => do return [c] :: (← readSeparators rest)

/-- Texts with separators between them, which are used again from the first one on. -/
def joinWith (separators : List ByteText) (texts : List ByteText) : ByteText :=
  (texts.mapIdx fun i text =>
    if i = 0 then text else ((separators[(i - 1) % separators.length]?).getD []) ++ text).flatten

/-- The lines of the input, dealt out in turn. -/
def dealt (count index : Nat) (lines : List ByteText) : List ByteText :=
  (lines.zipIdx.filter fun (_, i) => i % count = index).map Prod.fst

/-- The lines of each operand; operands that name the input share its lines. -/
def linesOfEach (ending : Char) (operands : List ByteText) : Work (List (List ByteText)) := do
  let inputs := operands.filter (· = ['-'])
  let shared ← if inputs.isEmpty then pure [] else (linesOf ending) <$> takeInput
  let found ← (operands.zipIdx).mapM fun (operand, i) => do
    if operand = ['-'] then
      let index := ((operands.take i).filter (· = ['-'])).length
      return some (dealt inputs.length index shared)
    else
      match ← content operand with
      | .ok text => return some (linesOf ending text)
      | .error fault => refuse (quotedIfNeeded operand ++ ": ".toList ++ faultText fault)
  return found.filterMap id

/-- Put lines side by side, or the lines of each content in one line. -/
def paste : Tool := toTool do
  let arguments ← arguments [valued 'd' "delimiters", flag 's' "serial",
    flag 'z' "zero-terminated"]
  let operands : List ByteText :=
    if arguments.operands.isEmpty then [['-']] else arguments.operands
  let list := (arguments.value? "delimiters").getD ['\t']
  let ending := if arguments.has "zero-terminated" then '\x00' else '\n'
  match readSeparators list with
  | none => refuse ("delimiter list ends with an unescaped backslash: ".toList ++ list)
  | some separators => do
      let separators := if separators.isEmpty then [[]] else separators
      if arguments.has "serial" then
        forContents operands fun _ text =>
          print (joinWith separators (linesOf ending text) ++ [ending])
      else
        let columns ← linesOfEach ending operands
        let height := columns.foldl (fun height column => max height column.length) 0
        for i in List.range height do
          print (joinWith separators (columns.map fun column => (column[i]?).getD []) ++ [ending])

end Provision.Shell.Tool

namespace Provision.Shell.Tool

/-!
# Repeated and common lines

Lines that are the same as the line before are dropped, counted or shown, and the lines of two
contents that are in order are compared.
-/

open Work

/-! ## Repeated lines -/

/-- What of a line counts when it is compared with the next one. -/
structure LineKey where
  fields : Nat := 0
  chars : Nat := 0
  width : Option Nat := none
  foldsCase : Bool := false

/-- The part of a line that counts. -/
def LineKey.of (key : LineKey) (line : ByteText) : ByteText :=
  let isGap := fun c => c = ' ' || c = '\t'
  let skip := fun (line : ByteText) => (line.dropWhile isGap).dropWhile (!isGap ·)
  let rest := ((List.range key.fields).foldl (fun line _ => skip line) line).drop key.chars
  let rest := key.width.elim rest rest.take
  if key.foldsCase then rest.map Char.toUpper else rest

/-- Lines in groups of those that are the same. -/
def groups (key : LineKey) : List ByteText → List (List ByteText)
  | [] => []
  | line :: rest =>
      match groups key rest with
      | (first :: more) :: others =>
          if key.of line = key.of first then (line :: first :: more) :: others
          else [line] :: (first :: more) :: others
      | others => [line] :: others

/-- What is printed of groups of lines. -/
inductive GroupShowing where
  | first (hasCount showsSingle showsRepeated : Bool)
  | all (method : String)
  | everything (method : String)
  deriving Repr, DecidableEq

/-- A count in front of a line. -/
def countColumn (count : Nat) : ByteText :=
  let digits := ByteText.ofNat count
  List.replicate (7 - digits.length) ' ' ++ digits ++ [' ']

/-- Groups with empty lines around them. -/
def withGaps (method : String) (shown : List (List ByteText)) : List ByteText :=
  match method with
  | "prepend" => shown.flatMap fun group => [] :: group
  | "append" => shown.flatMap fun group => group ++ [[]]
  | "separate" => Text.join [] shown
  | "both" => if shown.isEmpty then [] else [] :: shown.flatMap fun group => group ++ [[]]
  | _ => shown.flatten

/-- The lines that are printed of groups. -/
def shownGroups (showing : GroupShowing) (found : List (List ByteText)) : List ByteText :=
  match showing with
  | .first hasCount showsSingle showsRepeated =>
      found.filterMap fun group =>
        let isShown := if group.length = 1 then showsSingle else showsRepeated
        let count := if hasCount then countColumn group.length else []
        if isShown then group.head?.map (count ++ ·) else none
  | .all method => withGaps method (found.filter fun group => group.length > 1)
  | .everything method => withGaps method found

/-- What a call wants to be printed of groups of lines. -/
def requestedShowing (arguments : Arguments) : Work GroupShowing := do
  let repeated ← (arguments.values "all-repeated").mapM fun value => do
    if value.isEmpty then return "none"
    else chosen [["none"], ["prepend"], ["separate"]] "all-repeated" value
  let grouped ← (arguments.values "group").mapM fun value => do
    if value.isEmpty then return "separate"
    else chosen [["prepend"], ["append"], ["separate"], ["both"]] "group" value
  let isAll := arguments.has "all" || !repeated.isEmpty
  let others := ["count", "repeated", "unique"].any arguments.has
  match grouped.getLast? with
  | some method =>
      if isAll || others then
        misuse "--group is mutually exclusive with -c/-d/-D/-u".toList
      else
        return .everything method
  | none =>
      if isAll && arguments.has "count" then
        misuse "printing all duplicated lines and repeat counts is meaningless".toList
      else if isAll then
        return .all (repeated.getLast?.getD "none")
      else
        return .first (arguments.has "count") (!arguments.has "repeated")
          (!arguments.has "unique")

/-- The number that an option gives. -/
def skipCount (arguments : Arguments) (word purpose : String) : Work (Option Nat) :=
  (arguments.value? word).mapM fun text => do
    match Text.decimal? text with
    | some count => return count
    | none => refuse (text ++ (": invalid number of " ++ purpose).toList)

/-- Drop, count or show repeated lines. -/
def uniq : Tool := toTool do
  let given := (← read).arguments.map fun argument =>
    match argument with
    | '-' :: digits => if (Text.decimal? digits).isSome then ['-', 'f'] ++ digits else argument
    | argument => argument
  match Arguments.read [flag 'c' "count", flag 'd' "repeated", letterOnly 'D' "all",
      optionOf [] "all-repeated" .perhaps, valued 'f' "skip-fields", optionOf [] "group" .perhaps,
      flag 'i' "ignore-case", valued 's' "skip-chars", flag 'u' "unique",
      valued 'w' "check-chars", flag 'z' "zero-terminated"] false given with
  | .error text => misuse text
  | .ok arguments => do
      let fields ← skipCount arguments "skip-fields" "fields to skip"
      let chars ← skipCount arguments "skip-chars" "bytes to skip"
      let width ← skipCount arguments "check-chars" "bytes to compare"
      refuseMore 2 arguments
      let showing ← requestedShowing arguments
      let ending := if arguments.has "zero-terminated" then '\x00' else '\n'
      let key : LineKey := {
        fields := fields.getD 0, chars := chars.getD 0, width
        foldsCase := arguments.has "ignore-case" }
      let operand : ByteText := arguments.operands.head?.getD ['-']
      match ← content operand with
      | .error (.refused .isDirectory) =>
          complainOf ("error reading ".toList ++ quoted operand) (.refused .isDirectory)
      | .error fault => complainOf (quotedIfNeeded operand) fault
      | .ok text => do
          let lines := shownGroups showing (groups key (linesOf ending text))
          let result := lines.flatMap fun line => line ++ [ending]
          match arguments.operands[1]? with
          | none | some ['-'] => print result
          | some target =>
              if let some fault ← write false target result then
                complainOf (quotedIfNeeded target) fault

/-! ## Common lines -/

/-- A line that belongs to one content or to both. -/
inductive Owner where
  | first
  | second
  | both
  deriving Repr, DecidableEq

/-- What comes to light when contents are compared: where a line is from, or lines out of order. -/
inductive Finding where
  | line (owner : Owner) (text : ByteText)
  | disorder (isSecond : Bool)
  deriving Repr, DecidableEq

/--
Whether a line is out of order with the next one; at the end of a content it is compared with the
one before it once more.
-/
def isDisordered (before? : Option ByteText) (line : ByteText) (rest : List ByteText) : Bool :=
  match rest with
  | next :: _ => next < line
  | [] => before?.any (line < ·)

/-- Findings, with one before them that tells of a line out of order if there is one. -/
def noted (isSecond isWrong : Bool) (rest : List Finding) : List Finding :=
  if isWrong then .disorder isSecond :: rest else rest

/-- What is found in two contents, of which the lines before the given ones may be known. -/
def findings (before? otherBefore? : Option ByteText) :
    List ByteText → List ByteText → List Finding
  | [], [] => []
  | [], other :: others =>
      .line .second other :: noted true (isDisordered otherBefore? other others)
        (findings before? (some other) [] others)
  | line :: lines, [] =>
      .line .first line :: noted false (isDisordered before? line lines)
        (findings (some line) otherBefore? lines [])
  | line :: lines, other :: others =>
      if line = other then
        .line .both line :: noted false (isDisordered before? line lines)
          (noted true (isDisordered otherBefore? other others)
            (findings (some line) (some other) lines others))
      else if line < other then
        .line .first line :: noted false (isDisordered before? line lines)
          (findings (some line) otherBefore? lines (other :: others))
      else
        .line .second other :: noted true (isDisordered otherBefore? other others)
          (findings before? (some other) (line :: lines) others)
termination_by lines others => lines.length + others.length

/-- How much is said about lines that are out of order. -/
inductive OrderCheck where
  | none
  | onceUnpaired
  | strict
  deriving Repr, DecidableEq

/-- Tell of lines that are out of order in a content. -/
def tellDisorder (check : OrderCheck) (isSecond : Bool) : Work Unit := do
  let text := "file ".toList ++ [if isSecond then '2' else '1'] ++ " is not in sorted order".toList
  if check = .strict then refuse text else remark text

/-- Show what has been found; the answer tells whether lines were out of order. -/
def showFindings (check : OrderCheck) (opening : Owner → Option ByteText) (ending : Char) :
    Bool → List Bool → List Finding → Work Bool
  | _, told, [] => return !told.isEmpty
  | isUnpaired, told, .line owner text :: rest => do
      if let some opening := opening owner then
        print (opening ++ text ++ [ending])
      showFindings check opening ending (isUnpaired || owner ≠ .both) told rest
  | isUnpaired, told, .disorder isSecond :: rest => do
      let isTold := match check with
        | .none => false
        | .onceUnpaired => isUnpaired && !told.contains isSecond
        | .strict => true
      if isTold then
        tellDisorder check isSecond
      showFindings check opening ending isUnpaired (if isTold then isSecond :: told else told) rest

/-- Compare the lines of two contents. -/
def comm : Tool := toTool do
  let arguments ← arguments [letterOnly '1' "without-first", letterOnly '2' "without-second",
    letterOnly '3' "without-both", wordOnly "check-order", wordOnly "nocheck-order",
    optionOf [] "output-delimiter" .always, wordOnly "total", flag 'z' "zero-terminated"]
  refuseMore 2 arguments
  match arguments.operands with
  | [one, other] => do
      let ending := if arguments.has "zero-terminated" then '\x00' else '\n'
      let linesOfOperand := fun (operand : ByteText) => do
        match ← content operand with
        | .ok text => return linesOf ending text
        | .error fault => refuse (quotedIfNeeded operand ++ ": ".toList ++ faultText fault)
      let lines ← linesOfOperand one
      let others ← linesOfOperand other
      let delimiter := match arguments.value? "output-delimiter" with
        | some [] => ['\x00']
        | some delimiter => delimiter
        | none => ['\t']
      let shows := fun (owner : Owner) =>
        match owner with
        | .first => !arguments.has "without-first"
        | .second => !arguments.has "without-second"
        | .both => !arguments.has "without-both"
      let gap := fun (owner : Owner) => if shows owner then delimiter else []
      let opening := fun (owner : Owner) =>
        if !shows owner then none
        else match owner with
          | .first => some []
          | .second => some (gap .first)
          | .both => some (gap .first ++ gap .second)
      let check := match arguments.last? ["check-order", "nocheck-order"] with
        | some "check-order" => OrderCheck.strict
        | some _ => .none
        | none => .onceUnpaired
      let found := findings none none lines others
      let isWrong ← showFindings check opening ending false [] found
      let count := fun (owner : Owner) =>
        ByteText.ofNat (found.filter fun
          | .line other _ => other = owner
          | .disorder _ => false).length
      if arguments.has "total" then
        let counts := [count .first, count .second, count .both, "total".toList]
        print (delimiter.intercalate counts ++ [ending])
      if isWrong then
        complain "input is not in sorted order".toList
  | [only] => misuse ("missing operand after ".toList ++ quoted only)
  | _ => misuse "missing operand".toList

/-!
# Joining lines

The lines of two contents that have the same key are joined.  Both contents are in the order of
their keys, so that each is read but once; that they are is checked as they are read.
-/

/-! ## Lines with fields -/

/-- The fields of a line between blanks; blanks at the end are followed by an empty one. -/
def blankFields (line : ByteText) : List ByteText :=
  let isGap := fun (c : Char) => ByteText.isBlank c || c = '\n'
  let parts := (Text.fields ' ' (line.map fun c => if isGap c then ' ' else c)).filter (!·.isEmpty)
  if parts.isEmpty || !(line.getLast?.any isGap) then parts else parts ++ [[]]

/-- The fields of a line, between separators or blanks. -/
def joinFields (separator? : Option Char) (line : ByteText) : List ByteText :=
  match separator? with
  | none => blankFields line
  | some '\n' => if line.isEmpty then [] else [line]
  | some separator => if line.isEmpty then [] else Text.fields separator line

/-- A field in the output: the key, or a field of one of the contents. -/
inductive JoinField where
  | key
  | field (isSecond : Bool) (index : Nat)
  deriving Repr, DecidableEq

/-- How lines are joined.  The counts are those of the fields that are shown of each line. -/
structure JoinSetting where
  separator? : Option Char
  firstKey : Nat
  secondKey : Nat
  filler : ByteText
  shown : List JoinField
  counts? : Option (Nat × Nat)
  showsPairs : Bool
  showsFirst : Bool
  showsSecond : Bool
  ignoresCase : Bool
  check : OrderCheck
  hasHeader : Bool
  ending : Char

namespace JoinSetting

/-- The key of a line. -/
def key (setting : JoinSetting) (isSecond : Bool) (fields : List ByteText) : ByteText :=
  let text := fields[if isSecond then setting.secondKey else setting.firstKey]?.getD []
  if setting.ignoresCase then text.map Char.toUpper else text

/-- A field of a line, if there is a line that has it and it is not empty. -/
def fieldOf (setting : JoinSetting) (line? : Option (List ByteText)) (index : Nat) : ByteText :=
  match line?.bind fun fields => fields[index]? with
  | some (c :: text) => c :: text
  | _ => setting.filler

/-- The fields of a line but for its key. -/
def otherFields (setting : JoinSetting) (line? : Option (List ByteText)) (key : Nat)
    (count? : Option Nat) : List ByteText :=
  let count := count?.getD (line?.elim 0 List.length)
  ((List.range count).filter (· ≠ key)).map (setting.fieldOf line?)

/-- The key of the lines that are joined, as far as there are such lines. -/
def sharedKey (setting : JoinSetting) (first? second? : Option (List ByteText)) : ByteText :=
  match first? with
  | some _ => setting.fieldOf first? setting.firstKey
  | none => setting.fieldOf second? setting.secondKey

/-- A line of output for two lines, or for one of them alone. -/
def joined (setting : JoinSetting) (first? second? : Option (List ByteText)) : ByteText :=
  let key := setting.sharedKey first? second?
  let fields :=
    if setting.shown.isEmpty then
      key :: setting.otherFields first? setting.firstKey (setting.counts?.map Prod.fst) ++
        setting.otherFields second? setting.secondKey (setting.counts?.map Prod.snd)
    else
      setting.shown.map fun
        | .key => key
        | .field isSecond index => setting.fieldOf (if isSecond then second? else first?) index
  Text.join (setting.separator?.getD ' ') fields ++ [setting.ending]

end JoinSetting

/-! ## Reading in order -/

/-- A content that is being read, with the line that was read last. -/
structure JoinSource where
  name : ByteText
  unread : List ByteText
  count : Nat := 0
  previous? : Option (List ByteText) := none
  isDisordered : Bool := false

/-- Two contents that are being joined, and whether a line without a partner has been seen. -/
structure Joining where
  first : JoinSource
  second : JoinSource
  seesUnpaired : Bool := false

/-- One of the two contents. -/
def Joining.source (joining : Joining) (isSecond : Bool) : JoinSource :=
  if isSecond then joining.second else joining.first

/-- Change one of the two contents. -/
def Joining.withSource (joining : Joining) (isSecond : Bool) (source : JoinSource) : Joining :=
  if isSecond then { joining with second := source } else { joining with first := source }

/-- A part of joining. -/
abbrev JoinWork := StateT Joining Work

/-- Read the next line of a content, and tell if it is out of order. -/
def nextLine (setting : JoinSetting) (isSecond : Bool) : JoinWork (Option (List ByteText)) := do
  let joining ← get
  let source := joining.source isSecond
  match source.unread with
  | [] => return none
  | line :: unread => do
      let fields := joinFields setting.separator? line
      let count := source.count + 1
      let isChecked := setting.check = .strict ||
        (setting.check = .onceUnpaired && joining.seesUnpaired)
      let isWrong := isChecked && !source.isDisordered && source.previous?.any fun previous =>
        setting.key isSecond fields < setting.key isSecond previous
      if isWrong then
        let text := source.name ++ ':' :: ByteText.ofNat count ++ ": is not sorted: ".toList ++ line
        if setting.check = .strict then refuse text else (remark text : Work Unit)
      set (joining.withSource isSecond { source with
        unread, count, previous? := some fields, isDisordered := source.isDisordered || isWrong })
      return some fields

/-- Read lines as long as they have a key; the line after them has been read as well. -/
def nextGroup (setting : JoinSetting) (isSecond : Bool) (key : ByteText) :
    Nat → JoinWork (List (List ByteText) × Option (List ByteText))
  | 0 => return ([], none)
  | steps + 1 => do
      match ← nextLine setting isSecond with
      | none => return ([], none)
      | some line =>
          if setting.key isSecond line = key then do
            let (others, after) ← nextGroup setting isSecond key steps
            return (line :: others, after)
          else
            return ([], some line)

/-- Print a joined line. -/
def printJoined (setting : JoinSetting) (first? second? : Option (List ByteText)) :
    JoinWork Unit :=
  (print (setting.joined first? second?) : Work Unit)

/-- Print a line that has no partner, if such lines are shown. -/
def printUnpaired (setting : JoinSetting) (isSecond : Bool) (line : List ByteText) :
    JoinWork Unit :=
  if isSecond then
    if setting.showsSecond then printJoined setting none (some line) else return ()
  else
    if setting.showsFirst then printJoined setting (some line) none else return ()

/-- Join lines as long as there are some of both contents; what is left are the next lines. -/
def joinBoth (setting : JoinSetting) :
    Nat → Option (List ByteText) → Option (List ByteText) →
      JoinWork (Option (List ByteText) × Option (List ByteText))
  | 0, first?, second? => return (first?, second?)
  | steps + 1, first?, second? => do
      match first?, second? with
      | some first, some second =>
          let key := setting.key false first
          match byteOrder key (setting.key true second) with
          | .lt => do
              printUnpaired setting false first
              let next? ← nextLine setting false
              modify fun joining => { joining with seesUnpaired := true }
              joinBoth setting steps next? second?
          | .gt => do
              printUnpaired setting true second
              let next? ← nextLine setting true
              modify fun joining => { joining with seesUnpaired := true }
              joinBoth setting steps first? next?
          | .eq => do
              let (firsts, nextFirst?) ← nextGroup setting false key (steps + 1)
              let (seconds, nextSecond?) ← nextGroup setting true key (steps + 1)
              if setting.showsPairs then
                for first in first :: firsts do
                  for second in second :: seconds do
                    printJoined setting (some first) (some second)
              joinBoth setting steps nextFirst? nextSecond?
      | _, _ => return (first?, second?)

/-- Read what is left of a content, of which no line has a partner. -/
def joinRest (setting : JoinSetting) (isSecond : Bool) : Nat → List ByteText → JoinWork Unit
  | 0, _ => return ()
  | steps + 1, line => do
      printUnpaired setting isSecond line
      let shows := if isSecond then setting.showsSecond else setting.showsFirst
      match ← nextLine setting isSecond with
      | none => return ()
      | some line =>
          if ((← get).source isSecond).isDisordered && !shows then return ()
          else joinRest setting isSecond steps line

/-- Join two contents whose first lines have been read. -/
def joinFrom (setting : JoinSetting) (steps : Nat) (first? second? : Option (List ByteText)) :
    JoinWork Unit := do
  let (first?, second?) ← if setting.hasHeader && (first?.isSome || second?.isSome) then do
      printJoined setting first? second?
      modify fun joining =>
        { joining with
          first := { joining.first with previous? := none }
          second := { joining.second with previous? := none } }
      let nextFirst? ← if first?.isSome then nextLine setting false else pure none
      let nextSecond? ← if second?.isSome then nextLine setting true else pure none
      pure (nextFirst?, nextSecond?)
    else
      pure (first?, second?)
  let (first?, second?) ← joinBoth setting steps first? second?
  let joining ← get
  let isChecked := setting.check ≠ .none &&
    !(joining.first.isDisordered && joining.second.isDisordered)
  if let some first := first? then
    if setting.showsFirst || isChecked then
      joinRest setting false steps first
  if let some second := second? then
    if setting.showsSecond || isChecked then
      joinRest setting true steps second

/-! ## Options -/

/-- The place of a field, which is given by its number. -/
def fieldPlace (text : ByteText) : Work Nat := do
  match Text.decimal? (text.dropWhile ByteText.isBlank) with
  | some (number + 1) => return number
  | _ => refuse ("invalid field number: ".toList ++ quoted text)

/-- A field of the output that a text asks for. -/
def shownField (text : ByteText) : Work JoinField := do
  match text with
  | ['0'] => return .key
  | '0' :: _ => refuse ("invalid field specifier: ".toList ++ quoted text)
  | '1' :: '.' :: number => return .field false (← fieldPlace number)
  | '2' :: '.' :: number => return .field true (← fieldPlace number)
  | '1' :: _ | '2' :: _ => refuse ("invalid field specifier: ".toList ++ quoted text)
  | _ => refuse ("invalid file number in field spec: ".toList ++ quoted text)

/-- The key that options ask for in a content. -/
def requestedKey (arguments : Arguments) (word : String) : Work Nat := do
  let places ← ((arguments.options.filter fun option =>
    option.1 = word || option.1 = "field").map Prod.snd).mapM fieldPlace
  match places with
  | [] => return 0
  | first :: rest =>
      match rest.find? (· ≠ first) with
      | some other =>
          refuse ("incompatible join fields ".toList ++ ByteText.ofNat first ++ ", ".toList ++
            ByteText.ofNat other)
      | none => return first

/-- The separator of fields that options ask for. -/
def joinSeparator (arguments : Arguments) : Work (Option Char) := do
  let separators ← (arguments.values "separator").mapM fun text => do
    match text with
    | [] => return '\n'
    | [c] => return c
    | ['\\', '0'] => return '\x00'
    | _ => refuse ("multi-character tab ".toList ++ quoted text)
  if separators.any fun separator => separators.head? ≠ some separator then
    refuse "incompatible tabs".toList
  return separators.head?

/-- The contents whose lines without a partner are asked for by an option. -/
def requestedSides (arguments : Arguments) (word : String) : Work (List Bool) :=
  (arguments.values word).mapM fun text => do
    match text with
    | ['1'] => return false
    | ['2'] => return true
    | _ => refuse ("invalid field number: ".toList ++ quoted text)

/-- The lines of an operand. -/
def requireLines (ending : Char) (operand : ByteText) : Work (List ByteText) := do
  match ← content operand with
  | .ok text => return linesOf ending text
  | .error (.refused .isDirectory) => refuse "read error: Is a directory".toList
  | .error fault => refuse (quotedIfNeeded operand ++ ": ".toList ++ faultText fault)

/-- The fields of the output that a list in a text asks for. -/
def shownFields (text : ByteText) : Work (List JoinField) :=
  (Text.fields ',' (text.map fun c => if c = ' ' || c = '\t' then ',' else c)).mapM shownField

/-- The two contents that are to be joined; operands before their names are lists of fields. -/
def joinOperands (arguments : Arguments) : Work (List ByteText × ByteText × ByteText) := do
  let hasFields := arguments.has "shown"
  match arguments.operands.reverse with
  | second :: first :: [] => return ([], first, second)
  | second :: first :: lists =>
      if hasFields then
        return (lists.reverse, first, second)
      else
        misuse ("extra operand ".toList ++ quoted (arguments.operands[2]?.getD []))
  | [only] => misuse ("missing operand after ".toList ++ quoted only)
  | [] => misuse "missing operand".toList

/-- The options of joining. -/
def joinOptions : List OptionKind :=
  [letterOnly '1' "first", letterOnly '2' "second", letterOnly 'j' "field", letterOnly 'a' "with",
    letterOnly 'v' "only", letterOnly 'e' "empty", letterOnly 'o' "shown",
    letterOnly 't' "separator"].map (fun kind => { kind with value := .always }) ++
    [flag 'i' "ignore-case", wordOnly "check-order", wordOnly "nocheck-order", wordOnly "header",
      flag 'z' "zero-terminated"]

/-- Join the lines of two contents. -/
def join : Tool := toTool do
  let arguments ← arguments joinOptions
  let only ← requestedSides arguments "only"
  let sides ← requestedSides arguments "with"
  let firstKey ← requestedKey arguments "first"
  let secondKey ← requestedKey arguments "second"
  let separator? ← joinSeparator arguments
  let fillers := arguments.values "empty"
  if fillers.any (some · ≠ fillers.head?) then
    refuse "conflicting empty-field replacement strings".toList
  let isAuto := arguments.value? "shown" = some "auto".toList
  let listed ← ((arguments.values "shown").filter (· ≠ "auto".toList)).mapM shownFields
  let (lists, first, second) ← joinOperands arguments
  let further ← lists.mapM shownFields
  if first = ['-'] && second = ['-'] then
    refuse "both files cannot be standard input".toList
  let ending := if arguments.has "zero-terminated" then '\x00' else '\n'
  let lines ← requireLines ending first
  let others ← requireLines ending second
  let count := fun (lines : List ByteText) =>
    lines.head?.elim 0 fun line => (joinFields separator? line).length
  let setting : JoinSetting := {
    separator?, firstKey, secondKey, filler := fillers.head?.getD []
    shown := (listed ++ further).flatten
    counts? := if isAuto then some (count lines, count others) else none
    showsPairs := only.isEmpty
    showsFirst := (only ++ sides).contains false, showsSecond := (only ++ sides).contains true
    ignoresCase := arguments.has "ignore-case"
    check := match arguments.last? ["check-order", "nocheck-order"] with
      | some "check-order" => .strict
      | some _ => .none
      | none => .onceUnpaired
    hasHeader := arguments.has "header", ending }
  let joinAll : JoinWork Unit := do
    let first? ← nextLine setting false
    let second? ← nextLine setting true
    joinFrom setting (lines.length + others.length + 2) first? second?
  let (_, joining) ← joinAll.run {
    first := { name := first, unread := lines }, second := { name := second, unread := others } }
  if joining.first.isDisordered || joining.second.isDisordered then
    complain "input is not in sorted order".toList

end Provision.Shell.Tool
