import Provision.Shell.Regular
import Provision.Shell.Tool.Contents

namespace Provision.Shell.Tool

/-!
# Turning contents around

The parts of contents are printed from the last one to the first.  Separators are looked for from
the end; each belongs to the part before it, or to the part after it.
-/

open Work

/-- What separates parts: a text, or what an expression takes. -/
inductive Separator where
  | plain (text : ByteText)
  | regular (expression : Regular)

/-- Where something holds that is looked for from a length downwards. -/
def lastWhere? (find : Nat → Option Nat) : Nat → Option (Nat × Nat)
  | 0 => none
  | length + 1 =>
      match find length with
      | some found => some (length, found)
      | none => lastWhere? find length

/-- The start and the length of the last separator in a text. -/
def Separator.last? (separator : Separator) (text : ByteText) : Option (Nat × Nat) :=
  match separator with
  | .plain sought =>
      lastWhere? (fun start => (Text.after? sought (text.drop start)).map fun _ => sought.length)
        text.length
  | .regular expression =>
      lastWhere?
        (fun start => ((expression.takenAfter? (text.take start).getLast? (text.drop start))).map
          Standing.taken)
        text.length

/-- Up to where the next separator is looked for, when one has been found. -/
def Separator.limit (separator : Separator) (start length : Nat) : Nat :=
  match separator with
  | .plain _ => start
  | .regular _ => start - (length - 1)

/--
The parts of a text from the last one to the first: the separators up to a limit are still to be
found, and what ends after a place has been given.  The first argument bounds the steps.
-/
def partsBackward (separator : Separator) (isInFront : Bool) (text : ByteText) :
    Nat → Bool → Nat → Nat → List ByteText
  | 0, _, _, last => [text.take last]
  | steps + 1, isFirst, limit, last =>
      match separator.last? (text.take limit) with
      | none => [text.take last]
      | some (start, length) =>
          let cut := if isInFront then start else start + length
          let part := (text.take last).drop cut
          let others := partsBackward separator isInFront text steps false
            (separator.limit start length) cut
          if isFirst && cut = last then others else part :: others

/-- An expression in the usual notation, from one in which signs repeat without a backslash. -/
def usualNotation : Bool → ByteText → ByteText
  | _, [] => []
  | true, c :: rest => c :: usualNotation (c ≠ ']') rest
  | false, '\\' :: c :: rest =>
      if c ∈ ['+', '?', '\x7b', '\x7d'] then c :: usualNotation false rest
      else '\\' :: c :: usualNotation false rest
  | false, c :: rest =>
      match c, rest with
      | '+', rest => '\\' :: '+' :: usualNotation false rest
      | '?', rest => '\\' :: '?' :: usualNotation false rest
      | '.', rest => ['[', '^', '\n', ']'] ++ usualNotation false rest
      | '[', '^' :: c :: rest => '[' :: '^' :: c :: usualNotation true rest
      | '[', c :: rest => '[' :: c :: usualNotation true rest
      | c, rest => c :: usualNotation false rest

/-- The separator that a call asks for. -/
def partSeparator (arguments : Arguments) : Work Separator := do
  match arguments.value? "separator", arguments.has "regex" with
  | none, false => return .plain ['\n']
  | some [], false => return .plain ['\x00']
  | text?, false => return .plain (text?.getD ['\n'])
  | some [], true => refuse "separator cannot be empty".toList
  | text?, true =>
      match Regular.read (usualNotation false (text?.getD ['\n'])) with
      | .ok expression => return .regular expression
      | .error fault => refuse fault.message.toList

/-- Print the parts of contents from the last one to the first. -/
def tac : Tool := toTool do
  let arguments ← arguments [flag 'b' "before", flag 'r' "regex", valued 's' "separator"]
  let separator ← partSeparator arguments
  for operand in if arguments.operands.isEmpty then [['-']] else arguments.operands do
    match ← content operand with
    | .ok text =>
        let isInFront := arguments.has "before"
        let isUsual := arguments.value? "separator" = none && !isInFront
        let parts := if isUsual then (endedLines '\n' text).reverse
          else partsBackward separator isInFront text (text.length + 2) (!isInFront) text.length
            text.length
        print parts.flatten
    | .error (.refused .isDirectory) =>
        complain (quotedIfNeeded operand ++ ": read error: Invalid argument".toList)
    | .error fault => complainOf ("failed to open ".toList ++ quoted operand ++
        " for reading".toList) fault

/-!
# Numbering and folding lines

Lines get numbers in front of them, all of them or some; a text that consists of pages has a head, a
body and a foot for each of them.  Lines that are too long are folded.
-/

/-! ## Numbers -/

/-- Which lines get numbers. -/
inductive NumberedLines where
  | all
  | filled
  | none
  | holding (expression : Regular)
  deriving Repr

/-- The parts of a page. -/
inductive PagePart where
  | head
  | body
  | foot
  deriving Repr, DecidableEq

/-- How lines are numbered. -/
structure Numbering where
  head : NumberedLines
  body : NumberedLines
  foot : NumberedLines
  delimiter : ByteText
  start : Int
  increment : Int
  joinedBlanks : Nat
  keepsCounting : Bool
  style : ByteText
  separator : ByteText
  width : Nat

/-- Where numbering stands. -/
structure NumberingState where
  page : PagePart := .body
  number : Int
  blanks : Nat := 0

/-- The lines that get numbers in a part of a page. -/
def Numbering.linesIn (numbering : Numbering) : PagePart → NumberedLines
  | .head => numbering.head
  | .body => numbering.body
  | .foot => numbering.foot

/-- A number as it stands in front of a line. -/
def Numbering.shown (numbering : Numbering) (number : Int) : ByteText :=
  let text := ByteText.ofInt number
  let gap := numbering.width - text.length
  if numbering.style = "ln".toList then text ++ List.replicate gap ' '
  else if numbering.style = "rz".toList then
    let digits := ByteText.ofNat number.natAbs
    let sign := if number < 0 then ['-'] else []
    sign ++ List.replicate (numbering.width - sign.length - digits.length) '0' ++ digits
  else List.replicate gap ' ' ++ text

/-- The part of a page that a line opens. -/
def Numbering.opening? (numbering : Numbering) (line : ByteText) : Option PagePart :=
  let delimiter := numbering.delimiter
  if delimiter.isEmpty then none
  else if line = delimiter ++ delimiter ++ delimiter then some .head
  else if line = delimiter ++ delimiter then some .body
  else if line = delimiter then some .foot
  else none

/-- Whether a line gets a number, and how many blank lines have been joined so far. -/
def Numbering.isNumbered (numbering : Numbering) (state : NumberingState) (line : ByteText) :
    Bool × Nat :=
  match numbering.linesIn state.page with
  | .none => (false, 0)
  | .filled => (!line.isEmpty, 0)
  | .holding expression => (expression.occursIn line, 0)
  | .all =>
      if line.isEmpty && numbering.joinedBlanks > 1 then
        if state.blanks + 1 = numbering.joinedBlanks then (true, 0) else (false, state.blanks + 1)
      else
        (true, 0)

/-- A line with its number, and where numbering stands after it. -/
def Numbering.line (numbering : Numbering) (state : NumberingState) (line : ByteText) :
    ByteText × NumberingState :=
  match numbering.opening? line with
  | some page =>
      let restarts := page = .head && !numbering.keepsCounting
      let number := if restarts then numbering.start else state.number
      (['\n'], { state with page, number })
  | none =>
      let (isNumbered, blanks) := numbering.isNumbered state line
      if isNumbered then
        (numbering.shown state.number ++ numbering.separator ++ line ++ ['\n'],
          { state with number := state.number + numbering.increment, blanks })
      else
        let gap := numbering.width + numbering.separator.length
        (List.replicate gap ' ' ++ line ++ ['\n'], { state with blanks })

/-- The lines that a text of an option stands for. -/
def numberedLines (what : String) (text : ByteText) : Work NumberedLines := do
  match text with
  | ['a'] => return .all
  | ['t'] => return .filled
  | ['n'] => return .none
  | 'p' :: pattern =>
      match Regular.read pattern with
      | .ok expression => return .holding expression
      | .error fault => refuse fault.message.toList
  | text => do
      remark ("invalid ".toList ++ what.toList ++ " numbering style: ".toList ++ quoted text)
      giveUp

/-- An integer that an option gives. -/
def integerOption (arguments : Arguments) (word what : String) (default : Int) : Work Int := do
  match arguments.value? word with
  | none => return default
  | some text =>
      let read :=
        match text with
        | '-' :: digits => (Text.decimal? digits).map fun value => -(value : Int)
        | digits => (Text.decimal? digits).map fun value => (value : Int)
      match read with
      | some value => return value
      | none => refuse ("invalid ".toList ++ what.toList ++ ": ".toList ++ quoted text)

/-- Number lines. -/
def nl : Tool := toTool do
  let arguments ← arguments [valued 'b' "body-numbering", valued 'd' "section-delimiter",
    valued 'f' "footer-numbering", valued 'h' "header-numbering", valued 'i' "line-increment",
    valued 'l' "join-blank-lines", valued 'n' "number-format", flag 'p' "no-renumber",
    valued 's' "number-separator", valued 'v' "starting-line-number", valued 'w' "number-width"]
  let lines := fun (word what : String) (default : Char) =>
    numberedLines what ((arguments.value? word).getD [default])
  let start ← integerOption arguments "starting-line-number" "starting line number" 1
  let increment ← integerOption arguments "line-increment" "line number increment" 1
  let blanks ← integerOption arguments "join-blank-lines" "line number of blank lines" 1
  let width ← integerOption arguments "number-width" "line number field width" 6
  if width < 1 then
    refuse ("invalid line number field width: ".toList ++ quoted (ByteText.ofInt width) ++
      ": Numerical result out of range".toList)
  let style := (arguments.value? "number-format").getD "rn".toList
  if style ∉ ["ln".toList, "rn".toList, "rz".toList] then
    remark ("invalid line numbering format: ".toList ++ quoted style)
    giveUp
  let delimiter := (arguments.value? "section-delimiter").getD ['\\', ':']
  let numbering : Numbering := {
    head := ← lines "header-numbering" "header" 'n', body := ← lines "body-numbering" "body" 't'
    foot := ← lines "footer-numbering" "footer" 'n'
    delimiter := if delimiter.length = 1 then delimiter ++ [':'] else delimiter
    start, increment, joinedBlanks := blanks.toNat, keepsCounting := arguments.has "no-renumber"
    style, separator := (arguments.value? "number-separator").getD ['\t'], width := width.toNat }
  let text ← joinedContents arguments.operands
  let step := fun (state : NumberingState) (line : ByteText) => do
    let (shown, state) := numbering.line state line
    print shown
    return state
  let _ ← (ByteText.lines text).foldlM step { number := start }

/-! ## Folding -/

/-- The column after a character. -/
def columnAfter (countsBytes : Bool) (column : Nat) (c : Char) : Nat :=
  if countsBytes then column + 1
  else if c = '\t' then column + 8 - column % 8
  else if c = '\x08' then column - 1
  else if c = '\r' then 0
  else column + 1

/-- The column after a text. -/
def columnOver (countsBytes : Bool) (text : ByteText) : Nat :=
  text.foldl (columnAfter countsBytes) 0

/--
A line in parts of a width, perhaps folded after blanks; what has been taken of the present part is
kept from its end.
-/
def foldLine (width : Nat) (countsBytes afterBlanks : Bool) : ByteText → Nat → ByteText → ByteText
  | taken, _, [] => taken.reverse
  | taken, column, c :: rest =>
      let next := columnAfter countsBytes column c
      if next ≤ width || taken.isEmpty then
        foldLine width countsBytes afterBlanks (c :: taken) next rest
      else
        let word := taken.takeWhile fun c => c ≠ ' ' && c ≠ '\t'
        if afterBlanks && word.length < taken.length then
          let kept := word.reverse
          let column := columnAfter countsBytes (columnOver countsBytes kept) c
          (taken.drop word.length).reverse ++ '\n' ::
            foldLine width countsBytes afterBlanks (c :: word) column rest
        else
          taken.reverse ++ '\n' ::
            foldLine width countsBytes afterBlanks [c] (columnAfter countsBytes 0 c) rest

/-- Options in which a width is given without its letter, with the letter. -/
def withWidthLetters : List ByteText → List ByteText
  | [] => []
  | ['-', '-'] :: rest => ['-', '-'] :: rest
  | ('-' :: text) :: rest =>
      let flags := text.takeWhile fun c => c = 'b' || c = 's'
      let after := text.drop flags.length
      let written := if after.head?.any Char.isDigit then flags ++ 'w' :: after else text
      ('-' :: written) :: withWidthLetters rest
  | argument :: rest => argument :: withWidthLetters rest

/-- Fold lines that are too long. -/
def fold : Tool := fun call => toTool (do
  let arguments ← arguments [flag 'b' "bytes", flag 's' "spaces", valued 'w' "width"]
  let width ← match arguments.value? "width" with
    | none => pure 80
    | some text =>
        match Text.decimal? text with
        | some 0 => refuse ("invalid number of columns: ".toList ++ quoted text ++
            ": Numerical result out of range".toList)
        | some width => pure width
        | none => refuse ("invalid number of columns: ".toList ++ quoted text)
  forContents arguments.operands fun _ text => do
    for line in endedLines '\n' text do
      let isEnded := line.getLast? = some '\n'
      let body := if isEnded then line.dropLast else line
      print (foldLine width (arguments.has "bytes") (arguments.has "spaces") [] 0 body ++
        if isEnded then ['\n'] else []))
  { call with arguments := withWidthLetters call.arguments }

end Provision.Shell.Tool
