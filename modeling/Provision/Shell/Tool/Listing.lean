import Provision.Shell.Pattern
import Provision.Shell.Tool.Amounts
import Provision.Shell.Tool.Copying
import Provision.Shell.Tool.Escapes
import Provision.Shell.Tool.FileFacts
import Provision.Shell.Tool.Options
import Provision.Shell.Tool.Ordering
import Provision.Shell.Tool.TimeFormat
import Provision.Text.Decimal

namespace Provision.Shell.Tool

/-!
# Listings

What is listed is put in an order.  Each name is written in a style, with a mark for what it is
after it, and with the number and the room of the file before it if that is asked for.
-/

open Work

/-- The order of a listing. -/
inductive ListOrder where
  | name
  | size
  | time
  | ending
  | version
  | width
  | none
  deriving Repr, DecidableEq

/-- How a listing is laid out. -/
inductive Layout where
  | lines
  | columns
  | across
  | commas
  | long
  deriving Repr, DecidableEq

/-- What marks the kinds of entries. -/
inductive KindMarks where
  | none
  | directories
  | allButPrograms
  | all
  deriving Repr, DecidableEq

/-- Which names are left out that open with a dot. -/
inductive HiddenNames where
  | left
  | shownButDots
  | shown
  deriving Repr, DecidableEq

/-- Which time of a file is shown. -/
inductive TimeKind where
  | change
  | look
  | start
  deriving Repr, DecidableEq

/-- How a listing is made. -/
structure ListSetting where
  hidden : HiddenNames
  ignored : List Pattern
  ignoredUnlessHidden : List Pattern
  order : ListOrder
  isReversed : Bool
  directoriesFirst : Bool
  layout : Layout
  width : Nat
  tabSize : Nat
  marks : KindMarks
  style : NameStyle
  masks : Bool
  isDeep : Bool
  listsOperands : Bool
  follows : Following
  ending : Char
  hasNumber : Bool
  hasRoom : Bool
  hasContext : Bool
  hasOwner : Bool
  hasGroup : Bool
  hasAuthor : Bool
  namesIds : Bool
  roomScale : Scale
  sizeScale : Scale
  timeKind : TimeKind
  oldFormat : ByteText
  newFormat : ByteText

/--
A name that is listed, with its path and what is known of it if that can be reached.  What a link
leads to may be known as well.
-/
structure Listed where
  name : ByteText
  path : ByteText
  facts? : Option FileFacts
  kind : Disk.Kind
  target? : Option Entry := none

/-- Whether something that is listed is a directory. -/
def Listed.isDirectory (listed : Listed) : Bool :=
  listed.kind = .directory

/-! ## What is listed -/

/-- Whether a name in a directory is listed. -/
def isShown (setting : ListSetting) (name : ByteText) : Bool :=
  let isHidden := name.head? = some '.' && setting.hidden = .left
  let isOwn := isDots name && setting.hidden ≠ .shown
  let isBarred := setting.hidden = .left && setting.ignoredUnlessHidden.any (·.accepts name)
  !(isHidden || isOwn || isBarred || setting.ignored.any (·.accepts name))

/-- The time of a file that a listing shows. -/
def ListSetting.timeOf (setting : ListSetting) (facts : FileFacts) : Int :=
  match setting.timeKind with
  | .change => Tool.timeOf facts.entry
  | .look => lookTimeOf facts.entry
  | .start => presentTime

/-- A name with its ending in front. -/
def endingOf (name : ByteText) : ByteText :=
  match Text.cutLast? '.' name with
  | some (_, ending) => '.' :: ending
  | none => []

/-! ## Names -/

/-- The characters that are written with care because marks look like them. -/
def markChars : KindMarks → List Char
  | .all => ['=', '>', '@', '|']
  | .allButPrograms => ['*', '=', '>', '@', '|']
  | _ => []

/-- A name as a listing shows it, where some more characters are written with care. -/
def writtenName (setting : ListSetting) (extra : List Char) (name : ByteText) : ByteText :=
  let text := setting.style.write extra name
  if setting.masks && setting.style.isRaw then
    text.map fun c => if isPrintable c then c else '?'
  else
    text

/-- The room that a text takes in a line, where characters that cannot be printed take none. -/
def shownWidth (text : ByteText) : Nat :=
  (text.filter isPrintable).length

/-- The name of an entry as a listing shows it. -/
def shownName (setting : ListSetting) (name : ByteText) : ByteText :=
  let blank := if setting.style = .escaped then [' '] else []
  writtenName setting (blank ++ markChars setting.marks) name

/-- The name of a directory as it stands above what is in it. -/
def shownHeading (setting : ListSetting) (name : ByteText) : ByteText :=
  writtenName setting [':'] name

/-- Whether quotes stand out, so that names without them are indented. -/
def ListSetting.alignsQuotes (setting : ListSetting) : Bool :=
  setting.style.mayQuote && (setting.layout = .long ||
    ((setting.layout = .columns || setting.layout = .across) && setting.width > 0))

/-- The mark of a kind of entry. -/
def kindMark (setting : ListSetting) (kind : Disk.Kind) (entry : Option Entry) : ByteText :=
  match setting.marks, kind with
  | .none, _ => []
  | _, .directory => ['/']
  | .directories, _ => []
  | _, .link => ['@']
  | .all, .file =>
      match entry with
      | some (.file file) => if file.mode &&& 0o111 ≠ 0 then ['*'] else []
      | _ => []
  | .allButPrograms, .file => []

/-- The order of two names that are listed. -/
def listOrder (setting : ListSetting) (a b : Listed) : Ordering :=
  let names := byteOrder a.name b.name
  let size := fun (listed : Listed) => listed.facts?.elim 0 fun facts => facts.entry.size
  let time := fun (listed : Listed) => listed.facts?.elim 0 setting.timeOf
  let width := fun (listed : Listed) => shownWidth (shownName setting listed.name)
  let comesFirst := fun (listed : Listed) =>
    listed.isDirectory || listed.target?.any Entry.isDirectory
  let main :=
    match setting.order with
    | .size => (compare (size b) (size a)).then names
    | .time => (compare (time b) (time a)).then names
    | .ending => (byteOrder (endingOf a.name) (endingOf b.name)).then names
    | .version => (versionOrder a.name b.name).then names
    | .width => (compare (width a) (width b)).then names
    | .none => .eq
    | .name => names
  let main := if setting.isReversed then main.swap else main
  if setting.directoriesFirst && setting.order ≠ .none then
    (orderBy (fun a b => comesFirst a && !comesFirst b) a b).then main
  else
    main

/-- Put listed names in order. -/
def sortListed (setting : ListSetting) (listed : List Listed) : List Listed :=
  listed.mergeSort fun a b => listOrder setting a b ≠ .gt

/-!
# Layouts of listings

Names are laid out one below the other, in as many columns as fit, between commas, or with all that
is known of each file.
-/

/-- The longest of some texts. -/
def widest (texts : List ByteText) : Nat :=
  texts.foldl (fun width text => max width text.length) 0

/-! ## Long listings -/

/-- A time as a long listing shows it, in one format if it is not long ago and in another if so. -/
def shownTime (setting : ListSetting) (time : Int) : ByteText :=
  let isRecent := presentTime - 15778476 * billion < time && time ≤ presentTime
  formatTime (if isRecent then setting.newFormat else setting.oldFormat) time

/-- The room of a file as a listing shows it. -/
def shownRoom (setting : ListSetting) (listed : Listed) : ByteText :=
  listed.facts?.elim ['?'] fun facts => setting.roomScale.show facts.room

/-- The number of a file as a listing shows it. -/
def shownNumber (listed : Listed) : ByteText :=
  listed.facts?.elim ['?'] fun facts => ByteText.ofNat facts.number

/-- The size of a file as a long listing shows it; a device has two numbers instead. -/
def shownSize (setting : ListSetting) (facts : FileFacts) : ByteText :=
  match facts.device?.map Device.numbers with
  | some (driver, own) => ByteText.ofNat driver ++ ", ".toList ++ ByteText.ofNat own
  | none => setting.sizeScale.show facts.entry.size

/-- A column of a listing: its texts, and whether they are filled up on the right. -/
structure Column where
  isText : Bool
  texts : List ByteText

/-- The texts of a column with blanks up to the width of the widest. -/
def Column.filled (column : Column) : List ByteText :=
  let width := widest column.texts
  column.texts.map fun text => if column.isText then padRight width text else padLeft width text

/-- The columns of a long listing between the kinds of files and their names. -/
def longColumns (setting : ListSetting) (listed : List Listed) : List Column :=
  let owner := if setting.namesIds then "root".toList else ['0']
  let owners := [setting.hasOwner, setting.hasGroup, setting.hasAuthor].filter (·)
  let shown := fun (isText : Bool) (text : FileFacts → ByteText) =>
    { isText, texts := listed.map fun item => item.facts?.elim ['?'] text : Column }
  [shown false fun facts => ByteText.ofNat facts.links] ++
    owners.map (fun _ => shown true fun _ => owner) ++
    (if setting.hasContext then [shown true fun _ => ['?']] else []) ++
    [shown false (shownSize setting)]

/-- The kind of a file and who may do what with it, as a long listing shows it. -/
def longMode (listed : Listed) : ByteText :=
  listed.facts?.elim (kindLetter listed.kind :: List.replicate 9 '?') FileFacts.modeText

/-- What a long listing shows of where a link leads. -/
def shownTarget (setting : ListSetting) (listed : Listed) : ByteText :=
  match listed.facts?.map FileFacts.entry with
  | some (.link target) =>
      let mark := listed.target?.elim [] fun entry =>
        kindMark setting (Disk.kindOf entry) (some entry)
      let mark := if setting.marks = .directories then [] else mark
      " -> ".toList ++ shownName setting (.ofPath target) ++ mark
  | _ => []

/-- The lines of a table, from its columns. -/
def tableLines (columns : List (List ByteText)) (count : Nat) : List ByteText :=
  (List.range count).map fun row =>
    Text.join ' ' (columns.map fun column => (column[row]?).getD [])

/-! ## Names with what stands beside them -/

/-- What stands before the names of a listing: their numbers and rooms. -/
def frontColumns (setting : ListSetting) (listed : List Listed) : List (List ByteText) :=
  let fill := fun (texts : List ByteText) =>
    if setting.layout = .commas then texts else (Column.mk false texts).filled
  (if setting.hasNumber then [fill (listed.map shownNumber)] else []) ++
    (if setting.hasRoom then [fill (listed.map (shownRoom setting))] else []) ++
    (if setting.hasContext && setting.layout ≠ .long then [listed.map fun _ => ['?']] else [])

/-- The names of a listing in their style, indented where others have quotes. -/
def styledNames (setting : ListSetting) (listed : List Listed) : List ByteText :=
  let names := listed.map fun item => (item.name, shownName setting item.name)
  let isQuoted := fun (item : ByteText × ByteText) => item.1 ≠ item.2
  let indents := setting.alignsQuotes && names.any isQuoted
  names.map fun item => if indents && !isQuoted item then ' ' :: item.2 else item.2

/-- The names of a listing with their marks and with what stands before them. -/
def framedNames (setting : ListSetting) (listed : List Listed) : List ByteText :=
  let marks := listed.map fun item =>
    kindMark setting item.kind (item.facts?.map FileFacts.entry)
  let names := (styledNames setting listed).zipWith (· ++ ·) marks
  tableLines (frontColumns setting listed ++ [names]) listed.length

/-- The lines of a long listing. -/
def longLines (setting : ListSetting) (listed : List Listed) : List ByteText :=
  let times := listed.map fun item => item.facts?.elim (padLeft 12 ['?']) fun facts =>
    shownTime setting (setting.timeOf facts)
  let names := listed.map fun item =>
    if (shownTarget setting item).isEmpty then
      kindMark setting item.kind (item.facts?.map FileFacts.entry)
    else
      shownTarget setting item
  let columns := frontColumns setting listed ++ [listed.map longMode] ++
    (longColumns setting listed).map Column.filled ++
    [times, (styledNames setting listed).zipWith (· ++ ·) names]
  tableLines columns listed.length

/-! ## Columns -/

/-- The most room that one of some texts takes in a line. -/
def widestShown (texts : List ByteText) : Nat :=
  texts.foldl (fun width text => max width (shownWidth text)) 0

/-- The gap between a place and another one further right, made of tabs as far as they fit. -/
def gapBetween (tabSize : Nat) : Nat → Nat → Nat → ByteText
  | 0, _, _ => []
  | steps + 1, start, goal =>
      if goal ≤ start then []
      else if tabSize ≠ 0 && (start + 1) / tabSize < goal / tabSize then
        '\t' :: gapBetween tabSize steps (start + tabSize - start % tabSize) goal
      else
        ' ' :: gapBetween tabSize steps (start + 1) goal

/-- Names in a grid with some columns, row by row; they run down the columns or across the rows. -/
def gridRows (isDown : Bool) (names : List ByteText) (columns : Nat) : List (List ByteText) :=
  let rows := (names.length + columns - 1) / columns
  (List.range rows).map fun row =>
    (List.range columns).filterMap fun column =>
      names[if isDown then row + column * rows else row * columns + column]?

/-- The widths of the columns of a grid. -/
def gridWidths (rows : List (List ByteText)) (columns : Nat) : List Nat :=
  (List.range columns).map fun column =>
    let texts := rows.filterMap (·[column]?)
    let gap := if column + 1 = columns then 0 else 2
    if texts.isEmpty then 3 else max 3 (widestShown texts + gap)

/-- The number of columns in which names fit a width; the last argument bounds it. -/
def fittingColumns (isDown : Bool) (names : List ByteText) (width : Nat) : Nat → Nat
  | 0 => 1
  | 1 => 1
  | most + 1 =>
      let widths := gridWidths (gridRows isDown names (most + 1)) (most + 1)
      if widths.foldl (· + ·) 0 < width then most + 1
      else fittingColumns isDown names width most

/-- A row of a grid, with gaps between its names. -/
def gridLine (tabSize : Nat) : Nat → List Nat → List ByteText → ByteText
  | _, _, [] => []
  | _, _, [last] => last
  | _, [], first :: _ => first
  | start, width :: widths, first :: rest =>
      first ++ gapBetween tabSize (width + 1) (start + shownWidth first) (start + width) ++
        gridLine tabSize (start + width) widths rest

/-- The lines of a grid. -/
def gridLines (setting : ListSetting) (isDown : Bool) (names : List ByteText) : List ByteText :=
  let mayBe := (setting.width + 2) / 3
  let most := if 0 < mayBe && mayBe < names.length then mayBe else names.length
  let columns := fittingColumns isDown names setting.width most
  let rows := gridRows isDown names columns
  rows.map (gridLine setting.tabSize 0 (gridWidths rows columns))

/-! ## Lines -/

/-- Lines of texts with a separator after each but the last, as long as they fit a width. -/
def joinedLines (separator : Char) (width : Nat) : Nat → ByteText → List ByteText → List ByteText
  | _, line, [] => [line]
  | place, line, next :: rest =>
      if width = 0 || place + shownWidth next + 2 < width then
        joinedLines separator width (place + 2 + shownWidth next) (line ++ [separator, ' '] ++ next)
          rest
      else
        (line ++ [separator]) :: joinedLines separator width (shownWidth next) next rest

/-- The lines of a listing between separators. -/
def separatedLines (separator : Char) (width : Nat) : List ByteText → List ByteText
  | [] => []
  | first :: rest => joinedLines separator width (shownWidth first) first rest

/-- Print listed names. -/
def printListed (setting : ListSetting) (listed : List Listed) : Work Unit := do
  let names := framedNames setting listed
  let lines :=
    match setting.layout with
    | .lines => names
    | .commas => separatedLines ',' setting.width names
    | .long => longLines setting listed
    | .columns | .across =>
        if names.isEmpty then []
        else if setting.width = 0 then separatedLines ' ' 0 names
        else gridLines setting (setting.layout = Layout.columns) names
  print (lines.flatMap fun line => line ++ [setting.ending])

end Provision.Shell.Tool

namespace Provision.Shell.Tool

/-!
# Options of listing

The options of a call tell how a listing is made.  Of options that exclude each other the last one
counts; what they leave open is taken from the environment, or is different for tools that list in
columns or at length.
-/

open Work

/-- The options of listing. -/
def listingOptions : List OptionKind :=
  [letterOnly '1' "one", flag 'a' "all", flag 'A' "almost-all", flag 'b' "escape",
    flag 'B' "ignore-backups", letterOnly 'c' "ctime", letterOnly 'C' "columns",
    flag 'd' "directory", letterOnly 'f' "unsorted", optionOf ['F'] "classify" .perhaps,
    letterOnly 'g' "no-owner", flag 'G' "no-group", flag 'h' "human-readable",
    flag 'H' "dereference-command-line", flag 'i' "inode", valued 'I' "ignore",
    flag 'k' "kibibytes", letterOnly 'l' "long", flag 'L' "dereference", letterOnly 'm' "commas",
    flag 'n' "numeric-uid-gid", flag 'N' "literal", letterOnly 'o' "only-owner",
    letterOnly 'p' "slashes", flag 'q' "hide-control-chars", flag 'Q' "quote-name",
    flag 'r' "reverse", flag 'R' "recursive", flag 's' "size", letterOnly 'S' "by-size",
    letterOnly 't' "by-time", valued 'T' "tabsize", letterOnly 'u' "atime",
    letterOnly 'U' "by-nothing", letterOnly 'v' "by-version", valued 'w' "width",
    letterOnly 'x' "across", letterOnly 'X' "by-ending", flag 'D' "dired", flag 'Z' "context",
    wordOnly "author", optionOf [] "block-size" .always, optionOf [] "color" .perhaps,
    optionOf [] "format" .always, wordOnly "dereference-command-line-symlink-to-dir",
    wordOnly "file-type", wordOnly "full-time", wordOnly "group-directories-first",
    optionOf [] "hide" .always, optionOf [] "hyperlink" .perhaps,
    optionOf [] "indicator-style" .always, optionOf [] "quoting-style" .always,
    wordOnly "show-control-chars", wordOnly "si", optionOf [] "sort" .always,
    optionOf [] "time" .always, optionOf [] "time-style" .always, wordOnly "zero"]

/-- What a tool that lists does unless options say otherwise. -/
structure ListingHabit where
  layout : Layout := .lines
  style : NameStyle := .literal

/-! ## Layout and order -/

/--
The layout that an option leads to from another one, where none has been chosen yet or one has.
-/
def layoutAfter (chosen? : Option Layout) (option : String × ByteText) : Work (Option Layout) := do
  let unlessLong := fun (layout : Layout) =>
    if chosen? = some .long then chosen? else some layout
  match option.1 with
  | "long" | "numeric-uid-gid" | "only-owner" | "no-owner" | "full-time" => return some .long
  | "commas" => return some .commas
  | "columns" => return some .columns
  | "across" => return some .across
  | "one" | "zero" => return unlessLong .lines
  | "unsorted" => return if chosen? = some .long then none else chosen?
  | "format" =>
      let groups := [["verbose", "long"], ["commas"], ["horizontal", "across"], ["vertical"],
        ["single-column"]]
      return some <| match ← chosen groups "format" option.2 with
        | "verbose" => .long
        | "commas" => .commas
        | "horizontal" => .across
        | "vertical" => .columns
        | _ => .lines
  | _ => return chosen?

/-- The order that an option asks for, if it does. -/
def orderOf (option : String × ByteText) : Work (Option ListOrder) := do
  match option.1 with
  | "by-size" => return some .size
  | "by-time" => return some .time
  | "by-version" => return some .version
  | "by-ending" => return some .ending
  | "by-nothing" | "unsorted" => return some .none
  | "sort" =>
      let groups := [["none"], ["time"], ["size"], ["extension"], ["version"], ["width"]]
      return some <| match ← chosen groups "sort" option.2 with
        | "none" => .none
        | "time" => .time
        | "size" => .size
        | "extension" => .ending
        | "version" => .version
        | _ => .width
  | _ => return none

/-- The kind of time that an option asks for, if it does. -/
def timeKindOf (option : String × ByteText) : Work (Option TimeKind) := do
  match option.1 with
  | "ctime" => return some .start
  | "atime" => return some .look
  | "time" =>
      let groups := [["atime", "access", "use"], ["ctime", "status"], ["mtime", "modification"],
        ["birth", "creation"]]
      return some <| match ← chosen groups "time" option.2 with
        | "atime" => .look
        | "mtime" => .change
        | _ => .start
  | _ => return none

/-! ## Names and marks -/

/-- Whether a value says when something is done, and if so whether it is. -/
def isWanted (word : String) (value : ByteText) : Work Bool := do
  let groups := [["always", "yes", "force"], ["never", "no", "none"], ["auto", "tty", "if-tty"]]
  if value.isEmpty then
    return true
  else
    return (← chosen groups word value) = "always"

/-- The marks that an option asks for, if it does. -/
def marksOf (option : String × ByteText) : Work (Option KindMarks) := do
  match option with
  | ("slashes", _) => return some .directories
  | ("file-type", _) => return some .allButPrograms
  | ("classify", value) => return if ← isWanted "classify" value then some .all else none
  | ("indicator-style", value) =>
      let groups := [["none"], ["slash"], ["file-type"], ["classify"]]
      return some <| match ← chosen groups "indicator-style" value with
        | "slash" => .directories
        | "file-type" => .allButPrograms
        | "classify" => .all
        | _ => .none
  | _ => return none

/-- The style of names that an option asks for, if it does. -/
def styleOf (option : String × ByteText) : Work (Option NameStyle) := do
  match option with
  | ("quote-name", _) => return some (.quoted true '"')
  | ("escape", _) => return some .escaped
  | ("literal", _) | ("zero", _) => return some .literal
  | ("quoting-style", value) =>
      let word ← chosen (namedStyles.map fun item => [item.1]) "quoting-style" value
      return namedStyles.lookup word
  | _ => return none

/-- The value of a variable of the environment that is not empty. -/
def setting? (name : String) : Work (Option ByteText) := do
  return ((← read).environment.lookup name.toList).filter (!·.isEmpty)

/-! ## Widths -/

/-- The number that a text gives, in the notations of programs. -/
def widthNumber? (text : ByteText) : Option Nat :=
  match text with
  | '0' :: 'x' :: digits | '0' :: 'X' :: digits =>
      if digits.isEmpty then none else digits.foldlM (fun value c => do
        return 16 * value + (← hexDigit? c)) 0
  | '0' :: c :: digits => (c :: digits).foldlM (fun value c =>
      if '0' ≤ c && c ≤ '7' then some (8 * value + (c.toNat - '0'.toNat)) else none) 0
  | text => Text.decimal? text

/-- What the environment asks for under a name, unless names stand one below the other. -/
def layoutSetting? (layout : Layout) (name : String) : Work (Option ByteText) := do
  if layout = .lines || layout = .long then return none else setting? name

/-- The width that an option asks for or, failing that, the environment under a name. -/
def requestedNumber (arguments : Arguments) (layout : Layout) (option name fault : String)
    (usual : Nat) : Work Nat := do
  let numbers ← (arguments.values option).mapM fun text => do
    match widthNumber? text with
    | some number => return number
    | none => refuse ("invalid ".toList ++ fault.toList ++ ": ".toList ++ quoted text) 2
  match numbers.getLast? with
  | some number => return number
  | none =>
      match ← layoutSetting? layout name with
      | none => return usual
      | some text =>
          match widthNumber? text with
          | some number => return number
          | none => do
              let kind := if name = "COLUMNS" then "width" else fault
              remark ("ignoring invalid ".toList ++ kind.toList ++
                " in environment variable ".toList ++ name.toList ++ ": ".toList ++ quoted text)
              return usual

/-! ## Scales and times -/

/-- The scales of rooms and of sizes that options ask for. -/
def requestedScales (arguments : Arguments) : Work (Scale × Scale) := do
  let scales ← arguments.options.mapM fun option => do
    match option with
    | ("human-readable", _) => return some (Scale.adaptive 1024)
    | ("si", _) => return some (Scale.adaptive 1000)
    | ("block-size", text) =>
        match Scale.read text with
        | .ok scale => return some scale
        | .error fault => refuse (fault.message text) 2
    | _ => return none
  match (scales.filterMap id).getLast? with
  | some scale => return (scale, scale)
  | none => do
      let environment := (← read).environment
      let own := Scale.ofEnvironment ["LS_BLOCK_SIZE", "BLOCK_SIZE"] environment
      let room := (Scale.ofEnvironment ["LS_BLOCK_SIZE", "BLOCK_SIZE", "BLOCKSIZE"]
        environment).getD (.ofUnit 1024)
      let room := if arguments.has "kibibytes" then .ofUnit 1024 else room
      return (room, own.getD (.ofUnit 1))

/-- The formats of old and new times that a style stands for. -/
def timeFormats (style : ByteText) : Work (ByteText × ByteText) := do
  let usual := ("%b %e  %Y".toList, "%b %e %H:%M".toList)
  let posix := "posix-".toList
  let styles := ["full-iso", "long-iso", "iso", "locale"]
  match style with
  | '+' :: format =>
      match Text.cut? '\n' format with
      | none => return (format, format)
      | some (old, new) =>
          if new.contains '\n' then
            refuse ("invalid time style format ".toList ++ quoted format) 2
          return (old, new)
  | style =>
      if posix.isPrefixOf style then
        return usual
      else
        let begins := fun (word : String) => style.isPrefixOf word.toList
        match styles.find? (·.toList = style), styles.filter begins with
        | some "full-iso", _ | none, ["full-iso"] =>
            return ("%Y-%m-%d %H:%M:%S.%N %z".toList, "%Y-%m-%d %H:%M:%S.%N %z".toList)
        | some "long-iso", _ | none, ["long-iso"] =>
            return ("%Y-%m-%d %H:%M".toList, "%Y-%m-%d %H:%M".toList)
        | some "iso", _ | none, ["iso"] => return ("%Y-%m-%d ".toList, "%m-%d %H:%M".toList)
        | some _, _ | none, [_] => return usual
        | none, found => do
            let kind := if found.isEmpty then "invalid" else "ambiguous"
            remark (kind.toList ++ " argument ".toList ++ quoted style ++
              " for 'time style'".toList)
            printError ("Valid arguments are:\n  - [posix-]full-iso\n" ++
              "  - [posix-]long-iso\n  - [posix-]iso\n  - [posix-]locale\n" ++
              "  - +FORMAT (e.g., +%H:%M) for a 'date'-style format\n").toList
            giveUp 2

/-- The style of times that a call asks for. -/
def requestedTimeStyle (arguments : Arguments) : Work ByteText := do
  let own := (arguments.options.filterMap fun option =>
    match option with
    | ("full-time", _) => some "full-iso".toList
    | ("time-style", style) => some style
    | _ => none).getLast?
  return (own.or (← setting? "TIME_STYLE")).getD "locale".toList

/-! ## Settings -/

/-- The links that are followed, as far as options say or the rest leaves it open. -/
def followedLinks (arguments : Arguments) (isPlain : Bool) : Following :=
  match arguments.last? ["dereference", "dereference-command-line",
      "dereference-command-line-symlink-to-dir"] with
  | some "dereference" => .all
  | some _ => .operands
  | none => if isPlain then .operands else .never

/-- How a call wants directories to be listed. -/
def requestedListing (habit : ListingHabit) (arguments : Arguments) : Work ListSetting := do
  let layout := (← arguments.options.foldlM layoutAfter none).getD habit.layout
  let last := fun {α : Type} (choices : List (Option α)) => (choices.filterMap id).getLast?
  let order := last (← arguments.options.mapM orderOf)
  let timeKind := last (← arguments.options.mapM timeKindOf)
  let marks := (last (← arguments.options.mapM marksOf)).getD .none
  let style := last (← arguments.options.mapM styleOf)
  for word in ["color", "hyperlink"] do
    for value in arguments.values word do
      let _ ← isWanted word value
  let style ← style.elim (environmentStyle habit.style) pure
  let (roomScale, sizeScale) ← requestedScales arguments
  let (oldFormat, newFormat) ←
    if layout = .long then timeFormats (← requestedTimeStyle arguments) else pure ([], [])
  let listsOperands := arguments.has "directory"
  let patterns := fun (word : String) => (arguments.values word).map fun pattern =>
    Pattern.read (pattern.map fun c => (c, true))
  let backups := if arguments.has "ignore-backups" then
    ["*~", ".*~"].map fun text => Pattern.read (text.toList.map fun c => (c, true)) else []
  let sortsByTime := timeKind.isSome && layout ≠ .long
  return {
    hidden :=
      match arguments.last? ["all", "almost-all", "unsorted"] with
      | some "almost-all" => .shownButDots
      | some _ => .shown
      | none => .left
    ignored := patterns "ignore" ++ backups, ignoredUnlessHidden := patterns "hide"
    order := order.getD (if sortsByTime then .time else .name)
    isReversed := arguments.has "reverse" && order ≠ some .none
    directoriesFirst := arguments.has "group-directories-first"
    layout, width := ← requestedNumber arguments layout "width" "COLUMNS" "line width" 80
    tabSize := ← requestedNumber arguments layout "tabsize" "TABSIZE" "tab size" 8
    marks, style
    masks := (arguments.last? ["hide-control-chars", "show-control-chars", "zero"]) =
      some "hide-control-chars"
    isDeep := arguments.has "recursive" && !listsOperands, listsOperands
    follows := followedLinks arguments (layout ≠ .long && marks ≠ .all && !listsOperands)
    ending := if arguments.has "zero" then '\x00' else '\n'
    hasNumber := arguments.has "inode"
    hasContext := arguments.has "context"
    hasRoom := (arguments.last? ["size", "unsorted"]) = some "size"
    hasOwner := !arguments.has "no-owner"
    hasGroup := !(arguments.has "only-owner" || arguments.has "no-group")
    hasAuthor := arguments.has "author", namesIds := !arguments.has "numeric-uid-gid"
    roomScale, sizeScale, timeKind := timeKind.getD .change, oldFormat, newFormat }

/-!
# Calls of listing

The operands of a call tell which directories are listed.  What is no directory is listed first.
-/

/-! ## Directories -/

/-- Whether the entries have to be looked at that are listed. -/
def needsEntries (setting : ListSetting) : Bool :=
  setting.layout = .long || setting.marks = .all || setting.order = .size ||
    setting.order = .time || setting.hasRoom || setting.hasNumber || setting.hasContext

/-- What a link leads to, as far as a listing has to tell. -/
def targetOf (setting : ListSetting) (path : ByteText) (facts : FileFacts) :
    Work (Option Entry) := do
  let isTold := (setting.layout = .long && setting.marks ≠ .none) || setting.directoriesFirst
  if isTold && facts.entry.isLink then
    return (← entry true path).toOption.map Prod.snd
  else
    return none

/-- What is listed for a file with its facts. -/
def listedFacts (setting : ListSetting) (name path : ByteText) (facts : FileFacts) :
    Work Listed := do
  let target? ← targetOf setting path facts
  return { name, path, facts? := some facts, kind := Disk.kindOf facts.entry, target? }

/-- What is listed for a name in a directory. -/
def listedIn (setting : ListSetting) (directory name : ByteText) (kind : Disk.Kind) :
    Work Listed := do
  let path := if name = ['.'] then directory else pathBelow directory name
  match ← fileFacts (setting.follows = .all) path with
  | .ok facts => listedFacts setting name path facts
  | .error fault => do
      if needsEntries setting then
        complainOf ("cannot access ".toList ++ quoted path) fault
      return { name, path, facts? := none, kind }

/-- What a directory that is listed leaves to be listed below it. -/
def listDirectory (setting : ListSetting) (isOperand hasHeading isFirst : Bool)
    (path : ByteText) : Work (Option (List ByteText)) := do
  match ← ask fun disk place => disk.listDirectory place path.toPath with
  | .error fault => do
      let before := (← get).status
      let status := if isOperand then 2 else max 1 before
      complainOf ("cannot open directory ".toList ++ quoted path) fault status
      return none
  | .ok found => do
      let dots : List (ByteText × Disk.Kind) :=
        [(['.'], .directory), (['.', '.'], .directory)]
      let all := dots ++ found.map fun (name, kind) => (ByteText.ofName name, kind)
      let shown := all.filter fun item => isShown setting item.1
      let listed ← shown.mapM fun item => listedIn setting path item.1 item.2
      let sorted := sortListed setting listed
      if hasHeading then
        print ((if isFirst then [] else ['\n']) ++ shownHeading setting path ++ [':', '\n'])
      if setting.layout = .long || setting.hasRoom then
        let room := fun (item : Listed) => item.facts?.elim 0 FileFacts.room
        let total := listed.foldl (fun total item => total + room item) 0
        print ("total ".toList ++ setting.roomScale.show total ++ [setting.ending])
      printListed setting sorted
      return some ((sorted.filter fun item =>
        item.isDirectory && !isDots item.name).map Listed.path)

/-- List directories, and what is below them if asked to; the first argument bounds the steps. -/
def listDirectories (setting : ListSetting) (hasHeading : Bool) :
    Nat → Bool → List (Bool × ByteText) → Work Unit
  | 0, _, _ => return ()
  | _ + 1, _, [] => return ()
  | steps + 1, isFirst, (isOperand, path) :: rest => do
      match ← listDirectory setting isOperand hasHeading isFirst path with
      | none => listDirectories setting hasHeading steps isFirst rest
      | some below =>
          let further := if setting.isDeep then below.map fun path => (false, path) else []
          listDirectories setting hasHeading steps false (further ++ rest)

/-! ## Operands -/

/--
What is known of an operand as far as it is listed; links may have been chosen to be followed.
-/
def operandFacts (setting : ListSetting) (isChosen : Bool) (operand : ByteText) :
    Work (Except DiskFault FileFacts) := do
  match setting.follows, ← fileFacts true operand, ← fileFacts false operand with
  | .never, _, own => return own
  | .all, found, _ => return found
  | .operands, .ok found, .ok own =>
      return .ok (if found.isDirectory || isChosen then found else own)
  | .operands, .error fault, .ok own =>
      if isChosen then return .error fault else return .ok own
  | .operands, _, .error fault => return .error fault

/-- What is listed for an operand. -/
def listedOperand (setting : ListSetting) (isChosen : Bool) (operand : ByteText) :
    Work (Option Listed) := do
  match ← operandFacts setting isChosen operand with
  | .ok facts => return some (← listedFacts setting operand operand facts)
  | .error fault => do
      complainOf ("cannot access ".toList ++ quoted operand) fault 2
      return none

/-- List directories in a habitual way, and name what is none. -/
def listing (habit : ListingHabit) : Tool := toTool do
  let arguments ← arguments listingOptions false 2
  let setting ← requestedListing habit arguments
  let operands : List ByteText :=
    if arguments.operands.isEmpty then [['.']] else arguments.operands
  let isChosen := arguments.has "dereference-command-line"
  let listed := (← operands.mapM (listedOperand setting isChosen)).filterMap id
  let sorted := sortListed setting listed
  let isListed := fun (item : Listed) => item.isDirectory && !setting.listsOperands
  let plain := sorted.filter (!isListed ·)
  let directories := sorted.filter isListed
  printListed setting plain
  let hasHeading := setting.isDeep || operands.length > 1 || !plain.isEmpty
  let steps ← ask fun disk _ => disk.entries.length + operands.length + 2
  listDirectories setting hasHeading steps plain.isEmpty
    (directories.map fun item => (true, item.path))

/-- List directories line by line. -/
def ls : Tool :=
  listing {}

/-- List directories in columns. -/
def dir : Tool :=
  listing { layout := .columns, style := .escaped }

/-- List directories at length. -/
def vdir : Tool :=
  listing { layout := .long, style := .escaped }

/-- Print the working directory. -/
def pwd : Tool := toTool do
  let _ ← arguments [flag 'L' "logical", flag 'P' "physical"]
  printLine (.ofPath (Disk.pathOf (← read).workingDirectory))

end Provision.Shell.Tool
