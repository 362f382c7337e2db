import Provision.Shell.Tool.Contents

namespace Provision.Shell.Tool

/-!
# Tabs and blanks

A tab leads to the next of some stops in a line.  Tabs are turned into as many blanks as lead to the
same stop, and blanks before a stop into tabs.
-/

open Work

/-! ## Stops -/

/-- The stops of tabs: some columns, and what comes after the last of them. -/
structure TabStops where
  columns : List Nat := []
  multiple? : Option Nat := none
  increment? : Option Nat := none

/-- The next stop after a column, if there is one. -/
def TabStops.next? (stops : TabStops) (column : Nat) : Option Nat :=
  let after := fun (size start : Nat) => column + (size - (column - start) % size)
  match stops.columns with
  | [] => some (after ((stops.multiple?.or stops.increment?).getD 8) 0)
  | [size] =>
      if stops.multiple?.isNone && stops.increment?.isNone then some (after size 0)
      else if column < size then some size
      else (stops.multiple?.map fun size => after size 0).or
        (stops.increment?.map fun increment => after increment size)
  | columns =>
      match columns.find? (column < ·) with
      | some stop => some stop
      | none =>
          (stops.multiple?.map fun size => after size 0).or
            (stops.increment?.map fun increment => after increment (columns.getLast?.getD 0))

/--
Add a stop that a text gives.  A sign in front of it, or of another one before it, tells what comes
after the last stop.
-/
def TabStops.with (state : TabStops × Option Char) (text : ByteText) :
    Except ByteText (TabStops × Option Char) := do
  let (stops, before?) := state
  let own? := text.head?.filter fun c => c = '/' || c = '+'
  let sign? := own?.or before?
  let digits := if own?.isSome then text.drop 1 else text
  let number := digits.takeWhile Char.isDigit
  let rest := digits.drop number.length
  match rest.head? with
  | some c =>
      if (c = '/' || c = '+') && !number.isEmpty then
        throw (quoted [c] ++ " specifier not at start of number: ".toList ++ quoted rest)
      else
        throw ("tab size contains invalid character(s): ".toList ++ quoted rest)
  | none =>
      let value := (Text.decimal? number).getD 0
      if value ≥ 0x10000000000000000 then
        throw ("tab stop is too large ".toList ++ quoted number)
      else
        match sign? with
        | some '/' =>
            if stops.multiple?.isSome then
              throw "'/' specifier only allowed with the last value".toList
            return ({ stops with multiple? := if value = 0 then none else some value }, sign?)
        | some _ =>
            if stops.increment?.isSome then
              throw "'+' specifier only allowed with the last value".toList
            return ({ stops with increment? := if value = 0 then none else some value }, sign?)
        | none => return ({ stops with columns := stops.columns ++ [value] }, sign?)

/-- What is wrong with stops as a whole. -/
def TabStops.fault? (stops : TabStops) : Option ByteText :=
  if stops.columns.contains 0 then some "tab size cannot be 0".toList
  else if (stops.columns.zip stops.columns.tail).any fun (a, b) => b ≤ a then
    some "tab sizes must be ascending".toList
  else if stops.multiple?.isSome && stops.increment?.isSome then
    some "'/' specifier is mutually exclusive with '+'".toList
  else
    none

/-- The stops that lists in some texts give. -/
def TabStops.read (texts : List ByteText) : Except ByteText TabStops := do
  let isGap := fun (c : Char) => c = ',' || ByteText.isBlank c
  let stops ← texts.foldlM (fun stops text => do
    let parts := (Text.fields ',' (text.map fun c => if isGap c then ',' else c)).filter
      (!·.isEmpty)
    return (← parts.foldlM TabStops.with (stops, none)).1) {}
  match stops.fault? with
  | some fault => throw fault
  | none => return stops

/-- Options in which a list of stops is given without a letter, with a zero as the letter for it. -/
def withStopLetters : List ByteText → List ByteText
  | [] => []
  | ['-', '-'] :: rest => ['-', '-'] :: rest
  | ('-' :: c :: text) :: rest =>
      let written := if c.isDigit then '-' :: '0' :: c :: text else '-' :: c :: text
      written :: withStopLetters rest
  | argument :: rest => argument :: withStopLetters rest

/-! ## From tabs to blanks -/

/-- Contents with blanks for tabs, from a column on; all tabs may count or only those in front. -/
def expandFrom (stops : TabStops) (isWhole : Bool) : Bool → Nat → ByteText → ByteText
  | _, _, [] => []
  | isActive, column, c :: rest =>
      if c = '\n' then
        c :: expandFrom stops isWhole true 0 rest
      else if !isActive then
        c :: expandFrom stops isWhole false column rest
      else if c = '\t' then
        let next := (stops.next? column).getD (column + 1)
        List.replicate (next - column) ' ' ++ expandFrom stops isWhole true next rest
      else
        let column := if c = '\x08' then column - 1 else column + 1
        c :: expandFrom stops isWhole (isWhole || c = ' ') column rest

/-- The options for stops. -/
def stopOptions : List OptionKind :=
  [valued 't' "tabs", optionOf ['0'] "stops" .always false]

/-- The stops that a call asks for. -/
def requestedStops (arguments : Arguments) : Work TabStops := do
  let texts := (arguments.options.filter fun option => option.1 ∈ ["tabs", "stops"]).map Prod.snd
  match TabStops.read texts with
  | .ok stops => return stops
  | .error fault => refuse fault

/-- Print contents with blanks for tabs. -/
def expand : Tool := fun call => toTool (do
  let arguments ← arguments (flag 'i' "initial" :: stopOptions)
  let stops ← requestedStops arguments
  let text ← joinedContents arguments.operands
  print (expandFrom stops (!arguments.has "initial") true 0 text))
  { call with arguments := withStopLetters call.arguments }

/-! ## From blanks to tabs -/

/--
Where turning blanks into tabs has come to in a line.  The blanks that are pending may become a tab,
of which one may stand just before a stop.
-/
structure UnexpandState where
  isActive : Bool := true
  column : Nat := 0
  afterBlank : Bool := true
  pending : ByteText := []
  endsAtStop : Bool := false

/-- The blanks that are pending as they are printed. -/
def UnexpandState.released (state : UnexpandState) : ByteText :=
  if state.pending.length > 1 && state.endsAtStop then '\t' :: state.pending.tail
  else state.pending

/-- Contents with tabs for blanks; all blanks may count or only those in front. -/
def unexpandFrom (stops : TabStops) (isWhole : Bool) : UnexpandState → ByteText → ByteText
  | state, [] => if state.isActive then state.released else []
  | state, c :: rest =>
      let release := fun (state : UnexpandState) (isBlank : Bool) =>
        { state with
          pending := [], endsAtStop := false, afterBlank := isBlank
          isActive := state.isActive && (isWhole || isBlank) }
      if c = '\n' then
        (if state.isActive then state.released else []) ++ c :: unexpandFrom stops isWhole {} rest
      else if !state.isActive then
        c :: unexpandFrom stops isWhole state rest
      else if c ≠ ' ' && c ≠ '\t' then
        let column := if c = '\x08' then state.column - 1 else state.column + 1
        state.released ++ c :: unexpandFrom stops isWhole { release state false with column } rest
      else
        match stops.next? state.column with
        | none =>
            state.released ++
              c :: unexpandFrom stops isWhole { release state true with isActive := false } rest
        | some stop =>
            let column := if c = '\t' then stop else state.column + 1
            if c = ' ' && !(state.afterBlank && column = stop) then
              unexpandFrom stops isWhole
                { state with
                  column, afterBlank := true, pending := state.pending ++ [c]
                  endsAtStop := state.endsAtStop || column = stop }
                rest
            else
              let kept := if state.endsAtStop then ['\t'] else []
              kept ++ '\t' :: unexpandFrom stops isWhole { release state true with column } rest

/-- Print contents with tabs for blanks. -/
def unexpand : Tool := fun call => toTool (do
  let arguments ← arguments (flag 'a' "all" :: wordOnly "first-only" :: stopOptions)
  let stops ← requestedStops arguments
  let text ← joinedContents arguments.operands
  let isWhole := (arguments.has "all" || arguments.has "tabs") && !arguments.has "first-only"
  print (unexpandFrom stops isWhole {} text))
  { call with arguments := withStopLetters call.arguments }

/-!
# Filling paragraphs

The words of a paragraph are distributed over lines anew.  Every way to do so has costs: lines
should come near to a wanted width and near to the one after them, and break where sentences do.
The way that costs least is taken.
-/

/-! ## Words -/

/-- A word with the gap after it and what is known of its punctuation. -/
structure FilledWord where
  text : ByteText
  gap : Nat
  isOpening : Bool
  endsPeriod : Bool
  endsPunctuation : Bool
  endsSentence : Bool

/-- How paragraphs are filled. -/
structure Filling where
  width : Nat
  goal : Nat
  keepsCrown : Bool
  keepsTag : Bool
  onlySplits : Bool
  isUniform : Bool
  leadingBlanks : Nat
  mark : ByteText
  markLength : Nat

/-- The column after a blank. -/
def blankEnd (column : Nat) (c : Char) : Nat :=
  if c = '\t' then (column / 8 + 1) * 8 else column + 1

/-- Whether a character is a blank inside a line. -/
def isLineBlank (c : Char) : Bool :=
  c = ' ' || c = '\t'

/-- Pass over blanks from a column on: the column after them, the rest, and whether tabs are met. -/
def passBlanks (column : Nat) (text : ByteText) : Nat × ByteText × Bool :=
  let blanks := text.takeWhile isLineBlank
  (blanks.foldl blankEnd column, text.drop blanks.length, blanks.contains '\t')

/-- The punctuation of a word of which the gap is known. -/
def FilledWord.of (setting : Filling) (text : ByteText) (gap : Nat) (endsLine endsInput : Bool) :
    FilledWord :=
  let closing := fun c => c ∈ [')', ']', '\'', '"']
  let body := match text with
    | [] => []
    | c :: rest => c :: (rest.reverse.dropWhile closing).reverse
  let endsPeriod := body.getLast?.any fun c => c ∈ ['.', '?', '!']
  let endsSentence := endsInput || (endsPeriod && (endsLine || 1 < gap))
  let gap := if endsLine || endsInput || setting.isUniform then (if endsSentence then 2 else 1)
    else gap
  { text, gap, endsPeriod, endsSentence
    isOpening := text.head?.any fun c => c ∈ ['(', '[', '\'', '\x60', '"']
    endsPunctuation := text.getLast?.any fun c =>
      ' ' < c && c ≤ '~' && !c.isAlphanum }

/-- The words of the rest of a line from a column on, and whether tabs are met. -/
def wordsFrom (setting : Filling) (endsInput : Bool) : Nat → Nat → ByteText →
    List FilledWord × Bool
  | 0, _, _ => ([], false)
  | steps + 1, column, text =>
      match text with
      | [] => ([], false)
      | c :: rest =>
          let word := c :: rest.takeWhile (!ByteText.isBlank ·)
          let column := column + word.length
          let (next, rest, hasTabs) := passBlanks column (text.drop word.length)
          let isLast := rest.isEmpty
          let first := FilledWord.of setting word (next - column) (isLast && !endsInput)
            (isLast && endsInput)
          let (others, hasMore) := wordsFrom setting endsInput steps next rest
          (first :: others, hasTabs || hasMore)

/-! ## Lines -/

/--
A line that has been read up to its first word: the column of the mark, that of the first word, the
text from there on, whether it ends the input, and whether there are tabs in front.
-/
structure FilledLine where
  markColumn : Nat
  column : Nat
  text : ByteText
  endsInput : Bool
  hasTabs : Bool

/-- How many characters two texts have in common at their starts. -/
def commonLength : ByteText → ByteText → Nat
  | a :: rest, b :: others => if a = b then 1 + commonLength rest others else 0
  | _, _ => 0

/-- Read a line up to its first word. -/
def Filling.readLine (setting : Filling) (endsInput : Bool) (line : ByteText) : FilledLine :=
  let (column, text, hasTabs) := passBlanks 0 line
  if setting.mark.isEmpty then
    { markColumn := min setting.leadingBlanks column, column, text, endsInput, hasTabs }
  else
    let common := commonLength setting.mark text
    if common < setting.mark.length then
      { markColumn := column, column := column + common, text := text.drop common, endsInput
        hasTabs }
    else
      let (after, text, hasMore) := passBlanks (column + common) (text.drop common)
      { markColumn := column, column := after, text, endsInput, hasTabs := hasTabs || hasMore }

/-- The lines of a text; the last one ends the input and has no text of its own. -/
def Filling.lines (setting : Filling) (text : ByteText) : List FilledLine :=
  match (Text.fields '\n' text).reverse with
  | [] :: ended => (ended.reverse.map (setting.readLine false)) ++ [setting.readLine true []]
  | last :: ended =>
      (ended.reverse.map (setting.readLine false)) ++
        [setting.readLine true last, setting.readLine true []]
  | [] => [setting.readLine true []]

/-- Whether a line can be part of a paragraph. -/
def Filling.isFilled (setting : Filling) (line : FilledLine) : Bool :=
  !line.text.isEmpty && setting.leadingBlanks ≤ line.markColumn &&
    line.markColumn + setting.markLength ≤ line.column

/-- Blanks from one column to another one, as tabs where there are any in the input. -/
def blanksTo (usesTabs : Bool) (start target : Nat) : ByteText :=
  let tabTarget := target / 8 * 8
  if usesTabs && start + 1 < tabTarget then
    List.replicate (tabTarget / 8 - start / 8) '\t' ++ List.replicate (target - tabTarget) ' '
  else
    List.replicate (target - start) ' '

/-- A line that stays as it is. -/
def Filling.copied (setting : Filling) (usesTabs : Bool) (line : FilledLine) : ByteText :=
  let isBlank := line.text.isEmpty
  let front :=
    if line.markColumn < line.column || !isBlank then
      let mark := setting.mark.take (line.column - line.markColumn)
      let gap := if isBlank then []
        else blanksTo usesTabs (line.markColumn + mark.length) line.column
      let ending :=
        if isBlank && line.endsInput && line.markColumn + setting.mark.length ≤ line.column then
          ['\n']
        else []
      blanksTo usesTabs 0 line.markColumn ++ mark ++ gap ++ ending
    else []
  front ++ line.text ++ if line.endsInput then [] else ['\n']

/-! ## Costs -/

/-- The cost of a line that is as far from the wanted width. -/
def shortCost (distance : Int) : Int :=
  (distance * 10) * (distance * 10)

/-- The cost of a line that is as far from the width of the next one. -/
def raggedCost (distance : Int) : Int :=
  shortCost distance / 2

/-- A line that starts with a word: its costs with the ones after it, its length, and its words. -/
structure LineStart where
  cost : Int := 0
  length : Nat := 0
  count : Nat := 0

/-- The cost of starting a line with a word, which follows two others if there are any. -/
def startCost (before last : Option FilledWord) (word : FilledWord) : Int :=
  let line : Int := 4900
  let after : Int :=
    match last with
    | none => 0
    | some last =>
        if last.endsPeriod then (if last.endsSentence then -2500 else 360000)
        else if last.endsPunctuation then -1600
        else if before.any (·.endsSentence) then 40000 / ((last.text.length : Int) + 2)
        else 0
  let own : Int :=
    if word.isOpening then -1600
    else if word.endsSentence then 22500 / ((word.text.length : Int) + 2)
    else 0
  line + after + own

/--
The best line from a word on, among those that end before one of the words after it.  The length of
the line so far and the number of its words are given, with the words that follow and the lines that
would start with them.
-/
def bestLine (setting : Filling) : Nat → Nat → Nat → List (FilledWord × LineStart) →
    Option LineStart → Option LineStart
  | length, _, count, [], best? =>
      if best?.all fun best => 0 < best.cost then some { length, count } else best?
  | length, gap, count, (word, start) :: rest, best? =>
      let distance := (setting.goal : Int) - length
      let ragged := if rest.length + 1 = start.count then 0
        else raggedCost ((length : Int) - start.length)
      let cost := shortCost distance + ragged + start.cost
      let best? :=
        if best?.all fun best => cost < best.cost then some { cost, length, count } else best?
      let longer := length + gap + word.text.length
      if longer < setting.width then
        bestLine setting longer word.gap (count + 1) rest best?
      else best?

/-- The lines that would start with each of some words; the first line has its own indent. -/
def lineStarts (setting : Filling) (firstIndent otherIndent : Nat) :
    Option FilledWord → Option FilledWord → List FilledWord → List (FilledWord × LineStart)
  | _, _, [] => []
  | before, last, word :: rest =>
      let later := lineStarts setting firstIndent otherIndent last (some word) rest
      let indent := if last.isNone then firstIndent else otherIndent
      let best := (bestLine setting (indent + word.text.length) word.gap 1 later none).getD {}
      (word, { best with cost := best.cost + startCost before last word }) :: later

/-! ## Paragraphs -/

/-- A paragraph: where its mark and its lines start, and its words. -/
structure Paragraph where
  markColumn : Nat
  firstIndent : Nat
  otherIndent : Nat
  words : List FilledWord

/-- The text of a line of words, and the column after it. -/
def lineOfWords (usesTabs : Bool) : Nat → List FilledWord → ByteText
  | _, [] => []
  | _, [word] => word.text
  | column, word :: next :: rest =>
      let column := column + word.text.length
      word.text ++ blanksTo usesTabs column (column + word.gap) ++
        lineOfWords usesTabs (column + word.gap) (next :: rest)

/-- The lines of a paragraph from a word on; the first argument bounds them. -/
def Paragraph.lines (paragraph : Paragraph) (setting : Filling) (usesTabs : Bool) :
    Nat → Nat → List (FilledWord × LineStart) → ByteText
  | 0, _, _ => []
  | _ + 1, _, [] => []
  | steps + 1, indent, (word, start) :: rest =>
      let count := max start.count 1
      let words := ((word, start) :: rest).take count
      let afterMark := paragraph.markColumn + setting.mark.length
      blanksTo usesTabs 0 paragraph.markColumn ++ setting.mark ++
        blanksTo usesTabs afterMark indent ++
        lineOfWords usesTabs (max afterMark indent) (words.map Prod.fst) ++ '\n' ::
        paragraph.lines setting usesTabs steps paragraph.otherIndent
          (((word, start) :: rest).drop count)

/-- The text of a paragraph that has been filled anew. -/
def Paragraph.text (paragraph : Paragraph) (setting : Filling) (usesTabs : Bool) : ByteText :=
  let starts := lineStarts setting paragraph.firstIndent paragraph.otherIndent none none
    paragraph.words
  paragraph.lines setting usesTabs (starts.length + 1) paragraph.firstIndent starts

/-- Words of which the last one ends a sentence. -/
def withLastSentence : List FilledWord → List FilledWord
  | [] => []
  | [word] => [{ word with endsPeriod := true, endsSentence := true }]
  | word :: rest => word :: withLastSentence rest

/-- The indent of the lines after the first one, of which the next one may be one. -/
def Filling.laterIndent (setting : Filling) (present first : Nat) (next? : Option FilledLine) :
    Nat :=
  if setting.onlySplits then first
  else if setting.keepsCrown then next?.elim first (·.column)
  else if setting.keepsTag then
    match next?.filter fun next => next.column ≠ first with
    | some next => next.column
    | none => if present = first then (if first = 0 then 3 else 0) else present
  else first

/-- The lines of a paragraph after the first one, of which the first may have to differ. -/
def Filling.others (setting : Filling) (first : FilledLine) (indent : Nat)
    (lines : List FilledLine) : List FilledLine :=
  let isSame := fun (line : FilledLine) =>
    setting.isFilled line && line.markColumn = first.markColumn
  let alike := lines.takeWhile fun line => isSame line && line.column = indent
  if setting.onlySplits then []
  else if setting.keepsTag && (lines.head?.all fun line => line.column = first.column) then []
  else alike

/-- Fill the paragraphs of some lines; the first argument bounds the steps. -/
def Filling.fill (setting : Filling) : Nat → Nat → Bool → List FilledLine → ByteText
  | 0, _, _, _ => []
  | _ + 1, _, _, [] => []
  | steps + 1, present, usesTabs, line :: rest =>
      let usesTabs := usesTabs || line.hasTabs
      if !setting.isFilled line then
        setting.copied usesTabs line ++
          if line.endsInput then [] else setting.fill steps present usesTabs rest
      else
        let next? := rest.head?.filter fun next =>
          setting.isFilled next && next.markColumn = line.markColumn
        let indent := setting.laterIndent present line.column next?
        let others := setting.others line indent rest
        let read := (line :: others).map fun line =>
          wordsFrom setting line.endsInput (line.text.length + 1) line.column line.text
        let after := rest.drop others.length
        let usesTabs := usesTabs || read.any (·.2) || (others ++ after.take 1).any (·.hasTabs)
        let paragraph : Paragraph := {
          markColumn := line.markColumn, firstIndent := line.column, otherIndent := indent
          words := withLastSentence (read.flatMap Prod.fst) }
        paragraph.text setting usesTabs ++ setting.fill steps indent usesTabs after

/-! ## Calls -/

/-- The digits of a width that is the first argument. -/
def frontWidth? (arguments : List ByteText) : Option ByteText :=
  match arguments with
  | ('-' :: c :: text) :: _ => if c.isDigit then some (c :: text) else none
  | _ => none

/-- A width that is not larger than another one. -/
def requestedLength (most : Nat) (text : ByteText) : Work Nat := do
  match Text.decimal? (Text.dropOne '+' text) with
  | some width =>
      if width ≤ most then return width
      else
        refuse ("invalid width: ".toList ++ quoted text ++
          ": Numerical result out of range".toList)
  | none => refuse ("invalid width: ".toList ++ quoted text)

/-- How a call wants paragraphs to be filled. -/
def requestedFilling (arguments : Arguments) (width? : Option ByteText) : Work Filling := do
  let width? ← (((arguments.value? "width").or width?).mapM (requestedLength 2500))
  let width := width?.getD 75
  let goal? ← (arguments.value? "goal").mapM (requestedLength width)
  let leading := ((arguments.value? "prefix").getD []).takeWhile (· = ' ')
  let mark := ((arguments.value? "prefix").getD []).drop leading.length
  return {
    width := if width?.isNone then goal?.elim width (· + 10) else width
    goal := goal?.getD (width * 187 / 200)
    keepsCrown := arguments.has "crown-margin", keepsTag := arguments.has "tagged-paragraph"
    onlySplits := arguments.has "split-only", isUniform := arguments.has "uniform-spacing"
    leadingBlanks := leading.length, mark := (mark.reverse.dropWhile (· = ' ')).reverse
    markLength := mark.length }

/-- Fill the paragraphs of contents. -/
def fmt : Tool := fun call =>
  let width? := frontWidth? call.arguments
  toTool (do
    let digit? := (← read).arguments.find? fun argument => (frontWidth? [argument]).isSome
    if let some ('-' :: digit :: _) := digit? then
      remark ("invalid option -- ".toList ++ [digit] ++
        "; -WIDTH is recognized only when it is the first\noption; use -w N instead".toList)
      giveUp
    let arguments ← arguments [flag 'c' "crown-margin", flag 's' "split-only",
      flag 't' "tagged-paragraph", flag 'u' "uniform-spacing", valued 'w' "width",
      valued 'g' "goal", optionOf ['p'] "prefix" .always]
    let setting ← requestedFilling arguments width?
    for operand in if arguments.operands.isEmpty then [['-']] else arguments.operands do
      match ← content operand with
      | .ok text => print (setting.fill (text.length + 2) 0 false (setting.lines text))
      | .error (.refused .isDirectory) =>
          complain "read error".toList
      | .error fault =>
          complainOf ("cannot open ".toList ++ quoted operand ++ " for reading".toList) fault)
  { call with arguments := if width?.isSome then call.arguments.drop 1 else call.arguments }

end Provision.Shell.Tool
