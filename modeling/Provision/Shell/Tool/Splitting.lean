import Provision.Shell.Regular
import Provision.Shell.Tool.Amounts
import Provision.Shell.Tool.Contents
import Provision.Shell.Tool.Format

namespace Provision.Shell.Tool

/-!
# Splitting contents

A content is cut into pieces, which are written to files of their own.  The pieces have a number of
lines or bytes, or there is a number of pieces.  The names of the files end in letters or digits
that are counted up; where no length is given for them, they get longer before they run out.
-/

open Work

/-! ## Names -/

/-- The endings of names: their characters, those in front that stay, and those that are counted. -/
structure EndingCount where
  alphabet : List Char
  mayGrow : Bool
  fixed : List Nat := []
  places : List Nat

namespace EndingCount

/-- The ending. -/
def text (count : EndingCount) : ByteText :=
  (count.fixed ++ count.places).map fun place => count.alphabet.getD place '0'

/-- Count up some places, of which the last one is given first; nothing if they have run out. -/
def raise? (size : Nat) : List Nat → Option (List Nat)
  | [] => none
  | place :: higher =>
      if place + 1 < size then some ((place + 1) :: higher)
      else (raise? size higher).map (0 :: ·)

/-- The next ending; before the first place comes to its last character, one more is added. -/
def next? (count : EndingCount) : Option EndingCount := do
  let size := count.alphabet.length
  let places := (← raise? size count.places.reverse).reverse
  if count.mayGrow && places.head? = some (size - 1) then
    return { count with
      fixed := count.fixed ++ [size - 1], places := List.replicate (places.length + 1) 0 }
  else
    return { count with places }

end EndingCount

/-! ## Pieces -/

/-- How a content is cut; the last ones are into a number of pieces. -/
inductive Cutting where
  | lines (count : Nat)
  | bytes (count : Nat)
  | linesInBytes (count : Nat)
  | pieces (count : Nat)
  | linePieces (count : Nat)
  | inTurn (count : Nat)
  deriving Repr, DecidableEq

/-- A list in groups of a size; the first argument bounds them. -/
def groupsOf {α : Type} (size : Nat) : Nat → List α → List (List α)
  | 0, _ => []
  | steps + 1, items =>
      if items.isEmpty then [] else items.take size :: groupsOf size steps (items.drop size)

/-- Lines in pieces of a number of bytes, where only a line that is longer is cut. -/
def piecesInBytes (ending : Char) (size : Nat) : Nat → ByteText → List ByteText
  | 0, _ => []
  | steps + 1, text =>
      if text.isEmpty then []
      else if text.length < size then [text]
      else
        let part := text.take size
        let ended := (part.reverse.dropWhile (· ≠ ending)).reverse
        let piece := if ended.isEmpty then part else ended
        piece :: piecesInBytes ending size steps (text.drop piece.length)

/-- Sizes that together are a whole, the first ones larger by one if need be. -/
def evenSizes (whole count : Nat) : List Nat :=
  (List.range count).map fun index => whole / count + if index < whole % count then 1 else 0

/-- A content in pieces of given sizes. -/
def piecesOfSizes : List Nat → ByteText → List ByteText
  | [], _ => []
  | size :: sizes, text => text.take size :: piecesOfSizes sizes (text.drop size)

/-- A content in pieces that end with lines, each not before the end of its share. -/
def linePieces (ending : Char) : Nat → Nat → List Nat → ByteText → List ByteText
  | _, _, [], _ => []
  | position, share, size :: sizes, text =>
      let share := share + size
      if share ≤ position && position ≠ 0 then
        [] :: linePieces ending position share sizes text
      else
        let sure := text.take (share - 1 - position)
        let rest := text.drop sure.length
        let line := rest.takeWhile (· ≠ ending) ++ (rest.dropWhile (· ≠ ending)).take 1
        let piece := if share = 0 then [] else sure ++ line
        piece :: linePieces ending (position + piece.length) share sizes (text.drop piece.length)

/-- The pieces of a content. -/
def piecesOf (ending : Char) (cutting : Cutting) (text : ByteText) : List ByteText :=
  let steps := text.length + 1
  match cutting with
  | .lines count => (groupsOf count steps (endedLines ending text)).map List.flatten
  | .bytes count => groupsOf count steps text
  | .linesInBytes count => piecesInBytes ending count steps text
  | .pieces count => piecesOfSizes (evenSizes text.length count) text
  | .linePieces count => linePieces ending 0 0 (evenSizes text.length count) text
  | .inTurn count =>
      let rounds := groupsOf count steps (endedLines ending text)
      (List.range count).map fun index => rounds.flatMap fun round => (round[index]?).getD []

/-! ## Calls -/

/-- A number of units that is not zero. -/
def requestedUnits (letters : List Char) (what : String) (text : ByteText) : Work Nat := do
  match readAmount letters text with
  | .ok (count + 1) => return count + 1
  | .error .tooLarge => return maxWord
  | _ => refuse ("invalid number of ".toList ++ what.toList ++ ": ".toList ++ quoted text)

/-- A number of pieces, and perhaps the one of them that is wanted. -/
def requestedPieces (text : ByteText) : Work (Nat × Option Nat) := do
  let parts := (Text.cut? '/' text).bind fun (first, last) =>
    (readAmount [] first).toOption.map fun piece => (piece, first, last)
  match parts with
  | some (piece, first, last) => do
      let count ← requestedUnits [] "chunks" last
      if piece = 0 || count < piece then
        refuse ("invalid chunk number: ".toList ++ quoted first)
      return (count, some piece)
  | none => return (← requestedUnits [] "chunks" text, none)

/-- The digits, of which a number of lines may consist that is an option by itself. -/
def digitWords : List (Char × String) :=
  [('0', "0"), ('1', "1"), ('2', "2"), ('3', "3"), ('4', "4"), ('5', "5"), ('6', "6"), ('7', "7"),
    ('8', "8"), ('9', "9")]

/-- The options of splitting. -/
def splittingOptions : List OptionKind :=
  [valued 'a' "suffix-length", optionOf [] "additional-suffix" .always, valued 'b' "bytes",
    valued 'C' "line-bytes", flag 'e' "elide-empty-files", valued 'l' "lines",
    valued 'n' "number", valued 't' "separator", flag 'u' "unbuffered", wordOnly "verbose",
    letterOnly 'd' "numeric-suffixes", letterOnly 'x' "hex-suffixes",
    optionOf [] "numeric-suffixes" .perhaps, optionOf [] "hex-suffixes" .perhaps] ++
  digitWords.map fun (digit, word) => letterOnly digit word

/-- The ways to cut a content for which a call asks, with their numbers. -/
def givenCuttings (arguments : Arguments) : List (String × ByteText) :=
  let words := ["bytes", "lines", "line-bytes", "number"]
  let digits := arguments.options.filterMap fun option =>
    (digitWords.find? fun digit => digit.2 = option.1).map Prod.fst
  (arguments.options.filter fun option => option.1 ∈ words) ++
    if digits.isEmpty then [] else [("lines", digits)]

/-- How a call wants a content to be cut, and the piece of it that is wanted if not all are. -/
def requestedCutting (arguments : Arguments) : Work (Cutting × Option Nat) := do
  let given := givenCuttings arguments
  if given.length > 1 then
    misuse "cannot split in more than one way".toList
  match given.head? with
  | none => return (.lines 1000, none)
  | some ("bytes", text) =>
      return (.bytes (← requestedUnits ('B' :: partUnits) "bytes" text), none)
  | some ("line-bytes", text) =>
      return (.linesInBytes (← requestedUnits ('B' :: partUnits) "lines" text), none)
  | some ("number", text) => do
      let text := text.dropWhile ByteText.isBlank
      match Text.after? ['r', '/'] text, Text.after? ['l', '/'] text with
      | some rest, _ =>
          let (count, piece?) ← requestedPieces rest
          return (.inTurn count, piece?)
      | _, some rest =>
          let (count, piece?) ← requestedPieces rest
          return (.linePieces count, piece?)
      | _, _ =>
          let (count, piece?) ← requestedPieces text
          return (.pieces count, piece?)
  | some (_, text) => return (.lines (← requestedUnits [] "lines" text), none)

/-- The character that a text stands for as the end of lines. -/
def lineEndOf (text : ByteText) : Work Char := do
  match text with
  | [] => refuse "empty record separator".toList
  | [c] => return c
  | ['\\', '0'] => return '\x00'
  | _ => refuse ("multi-character separator ".toList ++ quoted text)

/-- The character that ends a line. -/
def requestedEnding (arguments : Arguments) : Work Char := do
  let endings ← (arguments.values "separator").mapM lineEndOf
  match endings.eraseDups with
  | [] => return '\n'
  | [ending] => return ending
  | _ => refuse "multiple separator characters specified".toList

/-- The number of places that are needed to count so many things. -/
def placesFor (size : Nat) : Nat → Nat → Nat
  | 0, _ => 1
  | steps + 1, last => if last < size then 1 else 1 + placesFor size steps (last / size)

/-- The characters of endings, and the digits that they start from if they are given. -/
def requestedAlphabet (arguments : Arguments) : Work (List Char × Option ByteText) := do
  let words := ["numeric-suffixes", "hex-suffixes"]
  let given := arguments.options.filter fun option => option.1 ∈ words
  let hexadecimal := "0123456789abcdef".toList
  match given.getLast? with
  | none => return ("abcdefghijklmnopqrstuvwxyz".toList, none)
  | some (word, start) => do
      let alphabet := if word = "hex-suffixes" then hexadecimal else hexadecimal.take 10
      if !start.all alphabet.contains then
        let kind := if word = "hex-suffixes" then "hexadecimal" else "numerical"
        misuse (quoted start ++ ": invalid start value for ".toList ++ kind.toList ++
          " suffix".toList)
      let shortened := start.dropWhile (· = '0')
      let start? := if start.isEmpty then none
        else some (if shortened.isEmpty then ['0'] else shortened)
      return (alphabet, start?)

/-- The first ending of names that a call asks for. -/
def requestedCount (arguments : Arguments) (cutting : Cutting) : Work EndingCount := do
  let (alphabet, start?) ← requestedAlphabet arguments
  let length ← match arguments.value? "suffix-length" with
    | none => pure 0
    | some text =>
        match readAmount [] text with
        | .ok length => pure length
        | .error _ => refuse ("invalid suffix length: ".toList ++ quoted text)
  let start := (start?.bind Text.decimal?).getD 0
  let pieces? := match cutting with
    | .pieces count | .linePieces count | .inTurn count => some count
    | _ => none
  let needed := pieces?.elim 0 fun count =>
    let last := count - 1 + if start < count then start else 0
    placesFor alphabet.length (last + 1) last
  if length ≠ 0 && length < needed then
    refuse ("the suffix length needs to be at least ".toList ++ ByteText.ofNat needed)
  refuseMore 2 arguments
  let places := if length = 0 then max 2 needed else length
  let digits := start?.getD []
  if places < digits.length then
    misuse "numerical suffix start value is too large for the suffix length".toList
  return {
    alphabet, mayGrow := length = 0 && start?.isNone && pieces?.isNone
    places := List.replicate (places - digits.length) 0 ++
      digits.map fun c => alphabet.findIdx (· = c) }

/-- Write pieces to files with names that are counted up; the input itself is not written over. -/
def writePieces (base ending : ByteText) (isLoud : Bool) (input? : Option Location) :
    Option EndingCount → List ByteText → Work Unit
  | _, [] => return ()
  | none, _ => refuse "output file suffixes exhausted".toList
  | some count, piece :: rest => do
      let name := base ++ count.text ++ ending
      if isLoud then
        printLine ("creating file ".toList ++ quoted name)
      let place? := ((← entry true name).toOption).map Prod.fst
      if input?.isSome && place? = input? then
        refuse (quoted name ++ " would overwrite input; aborting".toList)
      if let some fault ← write false name piece then
        refuse (quotedIfNeeded name ++ ": ".toList ++ faultText fault)
      writePieces base ending isLoud input? count.next? rest

/-- Cut a content into files. -/
def split : Tool := toTool do
  let arguments ← arguments splittingOptions
  let (cutting, piece?) ← requestedCutting arguments
  let lineEnd ← requestedEnding arguments
  let ending := (arguments.value? "additional-suffix").getD []
  if ending.contains '/' then
    misuse ("invalid suffix ".toList ++ quoted ending ++ ", contains directory separator".toList)
  let count ← requestedCount arguments cutting
  let operand : ByteText := arguments.operands.head?.getD ['-']
  let base := (arguments.operands[1]?).getD ['x']
  match ← content operand with
  | .error (.refused .isDirectory) =>
      refuse (quotedIfNeeded operand ++ ": Is a directory".toList)
  | .error fault =>
      refuse ("cannot open ".toList ++ quoted operand ++ " for reading: ".toList ++
        faultText fault)
  | .ok text => do
      let pieces := piecesOf lineEnd cutting text
      match piece? with
      | some piece => print ((pieces[piece - 1]?).getD [])
      | none => do
          let place? := ((← entry true operand).toOption).map Prod.fst
          let kept := if arguments.has "elide-empty-files" then pieces.filter (!·.isEmpty)
            else pieces
          writePieces base ending (arguments.has "verbose") place? (some count) kept

/-!
# Splitting by patterns

A content is split where patterns say: before a line with a number, or before or near a line that
fits an expression.  Each part goes to a file of its own, or nowhere.  If a pattern is not met, the
files are removed again, unless they are to be kept.
-/

/-! ## Patterns -/

/-- Where a part ends. -/
inductive SplitPlace where
  | line (number : Nat)
  | holding (expression : Regular) (offset : Int) (isDropped : Bool)
  deriving Repr

/-- A pattern as it is written, and how often it is met again; without a number it is for ever. -/
structure SplitPattern where
  written : ByteText
  place : SplitPlace
  repeats? : Option Nat := some 0
  deriving Repr

/-- The offset after an expression. -/
def readOffset? (text : ByteText) : Option Int :=
  match text with
  | [] => some 0
  | '-' :: digits => (Text.decimal? digits).map fun value => -(value : Int)
  | '+' :: digits => (Text.decimal? digits).map fun value => (value : Int)
  | digits => (Text.decimal? digits).map fun value => (value : Int)

/-- The place that a pattern with an expression between two delimiters stands for. -/
def readHolding (delimiter : Char) (written body : ByteText) : Work SplitPlace := do
  match Text.cutLast? delimiter body with
  | none =>
      refuse (written ++ ": closing delimiter '".toList ++ [delimiter] ++ "' missing".toList)
  | some (pattern, after) =>
      match Regular.read pattern, readOffset? after with
      | .error fault, _ =>
          refuse (quoted written ++ ": invalid regular expression: ".toList ++
            fault.message.toList)
      | _, none => refuse (quoted written ++ ": integer expected after delimiter".toList)
      | .ok expression, some offset => return .holding expression offset (delimiter = '%')

/-- The place that a number stands for, which is not to be less than the one before. -/
def readLinePlace (before : Nat) (written : ByteText) : Work Nat := do
  match Text.decimal? written with
  | none => refuse (quoted written ++ ": invalid pattern".toList)
  | some 0 => refuse (written ++ ": line number must be greater than zero".toList)
  | some number =>
      if number < before then
        refuse ("line number ".toList ++ quoted written ++
          " is smaller than preceding line number, ".toList ++ ByteText.ofNat before)
      if number = before then
        remark ("warning: line number ".toList ++ quoted written ++
          " is the same as preceding line number".toList)
      return number

/-- How often a pattern is met again. -/
def readRepeats (written : ByteText) : Work (Option Nat) := do
  if written.getLast? ≠ some '\x7d' then
    refuse (quoted written ++ ": '\x7d' is required in repeat count".toList)
  let inner := (written.drop 1).dropLast
  match Text.decimal? inner with
  | some count => return some count
  | none =>
      if inner = ['*'] then
        return none
      else
        refuse (quoted written.dropLast ++
          "\x7d: integer required between '\x7b' and '\x7d'".toList)

/-- The patterns that arguments stand for; the last number before them is given. -/
def readPatterns : Nat → List ByteText → Work (List SplitPattern)
  | _, [] => return []
  | before, written :: rest => do
      let place ← match written with
        | '/' :: body => readHolding '/' written body
        | '%' :: body => readHolding '%' written body
        | written => return ← numbered before written rest
      continued { written, place } before rest
where
  /-- Go on after a pattern, which may be followed by how often it is met again. -/
  continued (pattern : SplitPattern) (before : Nat) : List ByteText → Work (List SplitPattern)
    | ('\x7b' :: text) :: rest => do
        let repeats? ← readRepeats ('\x7b' :: text)
        return { pattern with repeats? } :: (← readPatterns before rest)
    | rest => do return pattern :: (← readPatterns before rest)
  /-- Go on with a pattern that is a number. -/
  numbered (before : Nat) (written : ByteText) (rest : List ByteText) :
      Work (List SplitPattern) := do
    let number ← readLinePlace before written
    continued { written, place := .line number } number rest

/-! ## Parts -/

/-- How parts are written. -/
structure PartWriting where
  opening : ByteText
  ending : Nat → ByteText
  isQuiet : Bool
  keepsAll : Bool
  dropsEmpty : Bool
  dropsMet : Bool

/-- Where splitting stands: what is left, the line looked at last, and the parts so far. -/
structure SplitState where
  lines : Array ByteText
  first : Nat := 1
  current : Nat := 0
  made : Nat := 0
  part? : Option ByteText := none
  sizes : ByteText := []

namespace SplitState

/-- A line by its number. -/
def line? (state : SplitState) (number : Nat) : Option ByteText :=
  if number < state.first then none else state.lines[number - 1]?

/-- Take the first line that is left. -/
def takeLine? (state : SplitState) : Option (ByteText × SplitState) :=
  (state.line? state.first).map fun line =>
    (line, { state with current := max state.current state.first, first := state.first + 1 })

/-- Add text to the present part. -/
def add (state : SplitState) (text : ByteText) : SplitState :=
  { state with part? := state.part?.map (· ++ text) }

/-- Move lines to the present part, until one with a number is the first one. -/
def moveTo (state : SplitState) (last : Nat) : SplitState :=
  let count := last - state.first
  let lines := (List.range count).filterMap fun index => state.line? (state.first + index)
  let first := state.first + lines.length
  let current := if lines.isEmpty then state.current else max state.current (first - 1)
  { state.add lines.flatten with first, current }

/-- Move all lines to the present part. -/
def moveAll (state : SplitState) : SplitState :=
  state.moveTo (state.lines.size + 1)

/-- Drop the first line if it has been met and is not wanted. -/
def dropMet (writing : PartWriting) (state : SplitState) : SplitState :=
  if writing.dropsMet then (state.takeLine?.map Prod.snd).getD state else state

end SplitState

/-- The name of the file of a part. -/
def PartWriting.name (writing : PartWriting) (number : Nat) : ByteText :=
  writing.opening ++ writing.ending number

/-- Finish the present part. -/
def closePart (writing : PartWriting) (state : SplitState) : Work SplitState := do
  match state.part? with
  | none => return state
  | some text => do
      let name := writing.name (state.made - 1)
      if text.isEmpty && writing.dropsEmpty then
        let _ ← change fun disk directory => disk.removeFile directory name.toPath
        return { state with part? := none, made := state.made - 1 }
      else
        let _ ← write false name text
        let size := if writing.isQuiet then [] else ByteText.ofNat text.length ++ ['\n']
        return { state with part? := none, sizes := state.sizes ++ size }

/-- Stop after a fault, and remove the files unless they are to be kept. -/
def abandon {α : Type} (writing : PartWriting) (state : SplitState) : Work α := do
  let state ← closePart writing state
  print state.sizes
  if !writing.keepsAll then
    for number in List.range state.made do
      let _ ← change fun disk directory => disk.removeFile directory (writing.name number).toPath
  finish 1
  stop

/-- Stop after a fault of which the tool tells once the sizes so far have been printed. -/
def abandonWith {α : Type} (writing : PartWriting) (state : SplitState) (text : ByteText) :
    Work α := do
  print state.sizes
  remark text
  abandon writing { state with sizes := [] }

/-- Start a part. -/
def openPart (writing : PartWriting) (state : SplitState) : Work SplitState := do
  let name := writing.name state.made
  match ← write false name [] with
  | none => return { state with part? := some [], made := state.made + 1 }
  | some fault => abandonWith writing state (quotedIfNeeded name ++ ": ".toList ++ faultText fault)

/-- What is said about how often a pattern had been met before it was not. -/
def repetitionText (count : Nat) : ByteText :=
  if count = 0 then [] else " on repetition ".toList ++ ByteText.ofNat count

/-- Stop since there is no line with a number. -/
def abandonLine {α : Type} (writing : PartWriting) (number count : Nat) (state : SplitState) :
    Work α := do
  remark (quoted (ByteText.ofNat number) ++ ": line number out of range".toList ++
    repetitionText count)
  abandon writing state

/-- End a part before a line with a number. -/
def splitAtLine (writing : PartWriting) (number count : Nat) (state : SplitState) :
    Work SplitState := do
  let state ← openPart writing state
  if (state.line? (state.current + 1)).isNone && writing.dropsMet then
    abandonLine writing number count state
  if state.lines.size < state.first then
    refuse "input disappeared".toList
  let last := number * (count + 1)
  let state := state.moveTo last
  if state.first < last then
    abandonLine writing number count state
  let state ← closePart writing state
  let state := state.dropMet writing
  if (state.line? (state.current + 1)).isNone && !writing.dropsMet then
    abandonLine writing number count state
  else
    return state

/-- The number of the next line that fits an expression; the first argument bounds the lines. -/
def nextHolding? (expression : Regular) (state : SplitState) : Nat → Nat → Option Nat
  | 0, _ => none
  | steps + 1, number =>
      match state.lines[number - 1]? with
      | none => none
      | some line =>
          let body := if line.getLast? = some '\n' then line.dropLast else line
          if expression.occursIn body then some number
          else nextHolding? expression state steps (number + 1)

/-- End a part near a line that fits an expression; nothing if there is none for ever. -/
def splitAtHolding (writing : PartWriting) (pattern : SplitPattern) (expression : Regular)
    (offset : Int) (isDropped : Bool) (count : Nat) (state : SplitState) :
    Work (Option SplitState) := do
  let state ← if isDropped then pure state else openPart writing state
  match nextHolding? expression state (state.lines.size + 1) (state.current + 1) with
  | none =>
      let state := if isDropped then state else state.moveAll
      if pattern.repeats?.isNone then do
        let state ← closePart writing state
        print state.sizes
        return none
      else do
        remark (quoted pattern.written ++ ": match not found".toList ++ repetitionText count)
        abandon writing state
  | some found => do
      let last := (found : Int) + offset
      let isOut := last < state.first || (state.lines.size : Int) + 1 < last
      if isOut then
        let state := if last < state.first || isDropped then state else state.moveAll
        abandonWith writing state (quoted pattern.written ++ ": line number out of range".toList)
      else
        let state := state.moveTo last.toNat
        let state ← if isDropped then pure state else closePart writing state
        let current := if 0 < offset then last.toNat else found
        return some ({ state with current := current }.dropMet writing)

/-- Meet a pattern as often as it is to be met; the first argument bounds that. -/
def meetPattern (writing : PartWriting) (pattern : SplitPattern) : Nat → Nat → SplitState →
    Work (Option SplitState)
  | 0, _, state => return some state
  | steps + 1, count, state => do
      if pattern.repeats?.any (· < count) then
        return some state
      else
        let next? ← match pattern.place with
          | .line number => do pure (some (← splitAtLine writing number count state))
          | .holding expression offset isDropped =>
              splitAtHolding writing pattern expression offset isDropped count state
        match next? with
        | none => return none
        | some state => meetPattern writing pattern steps (count + 1) state

/-- Meet patterns in order, and write what is left to a last part. -/
def meetPatterns (writing : PartWriting) : List SplitPattern → SplitState → Work Unit
  | [], state => do
      let state ← openPart writing state
      let state ← closePart writing state.moveAll
      print state.sizes
  | pattern :: rest, state => do
      let steps := state.lines.size + 2 + pattern.repeats?.getD 0
      match ← meetPattern writing pattern steps 0 state with
      | none => return ()
      | some state => meetPatterns writing rest state

/-! ## Calls -/

/-- A format for endings of names: a place for a number between two texts. -/
structure EndingFormat where
  before : ByteText
  fitting : Fitting
  letter : Char
  after : ByteText

/-- Cut a text at its first percent sign that stands for a number; doubled signs stand for one. -/
def cutPercent : ByteText → ByteText × Option ByteText
  | [] => ([], none)
  | '%' :: '%' :: rest =>
      let (before, after?) := cutPercent rest
      ('%' :: before, after?)
  | '%' :: rest => ([], some rest)
  | c :: rest =>
      let (before, after?) := cutPercent rest
      (c :: before, after?)

/-- The format that a text stands for. -/
def readEndingFormat (text : ByteText) : Work EndingFormat := do
  match cutPercent text with
  | (_, none) => refuse "missing % conversion specification in suffix".toList
  | (before, some rest) => do
      let flags := rest.takeWhile fun c => c ∈ ['-', '0', '\'', '#']
      let rest := rest.drop flags.length
      let width := rest.takeWhile Char.isDigit
      let rest := rest.drop width.length
      let (precision?, rest) := match rest with
        | '.' :: rest =>
            (some ((Text.decimal? (rest.takeWhile Char.isDigit)).getD 0), rest.dropWhile
              Char.isDigit)
        | rest => (none, rest)
      match rest with
      | [] => refuse "missing conversion specifier in suffix".toList
      | letter :: after => do
          if !integerLetters.contains letter then
            refuse ("invalid conversion specifier in suffix: ".toList ++ [letter])
          let refused := if letter ∈ ['d', 'i', 'u'] then '#' else '\''
          if flags.contains refused then
            refuse ("invalid flags in conversion specification: %".toList ++ [refused, letter])
          let (after, more?) := cutPercent after
          if more?.isSome then
            refuse "too many % conversion specifications in suffix".toList
          let fitting : Fitting := {
            flags, width := (Text.decimal? width).getD 0, precision := precision? }
          return { before, fitting, letter, after }

/-- The ending of a name for a number. -/
def EndingFormat.text (format : EndingFormat) (number : Nat) : ByteText :=
  format.before ++ format.fitting.showInteger format.letter number ++ format.after

/-- How a call wants parts to be written. -/
def requestedPartWriting (arguments : Arguments) : Work PartWriting := do
  let digits ← match arguments.value? "digits" with
    | none => pure 2
    | some text =>
        match Text.decimal? text with
        | some count => pure count
        | none => refuse ("invalid number: ".toList ++ quoted text)
  match arguments.operands with
  | [] => misuse "missing operand".toList
  | [only] => misuse ("missing operand after ".toList ++ quoted only)
  | _ => pure ()
  let format? ← (arguments.value? "suffix-format").mapM readEndingFormat
  let counted := fun (number : Nat) =>
    let text := ByteText.ofNat number
    List.replicate (digits - text.length) '0' ++ text
  return {
    opening := (arguments.value? "prefix").getD ['x', 'x']
    ending := fun number => format?.elim (counted number) fun format => format.text number
    isQuiet := arguments.has "quiet" || arguments.has "silent"
    keepsAll := arguments.has "keep-files", dropsEmpty := arguments.has "elide-empty-files"
    dropsMet := arguments.has "suppress-matched" }

/-- Split a content by patterns. -/
def csplit : Tool := toTool do
  let arguments ← arguments [valued 'b' "suffix-format", valued 'f' "prefix",
    flag 'k' "keep-files", valued 'n' "digits", optionOf ['s', 'q'] "quiet" .never,
    wordOnly "silent", flag 'z' "elide-empty-files", wordOnly "suppress-matched"]
  let writing ← requestedPartWriting arguments
  let operand := arguments.operands.head?.getD []
  let text ← content operand
  if let .error fault := text then
    if fault ≠ .refused .isDirectory then
      refuse ("cannot open ".toList ++ quoted operand ++ " for reading: ".toList ++
        faultText fault)
  let patterns ← readPatterns 0 (arguments.operands.drop 1)
  match text with
  | .ok text => meetPatterns writing patterns { lines := (endedLines '\n' text).toArray }
  | .error fault => do
      let state ← openPart writing { lines := #[] }
      abandonWith writing state ("read error: ".toList ++ faultText fault)

end Provision.Shell.Tool
