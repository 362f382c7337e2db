import Provision.Shell.Tool.Amounts
import Provision.Shell.Tool.Dates
import Provision.Shell.Tool.Joining
import Provision.Shell.Tool.Ordering

namespace Provision.Shell.Tool

/-!
# Keys for sorting

A key is a part of a line, given by the fields where it starts and ends, with the way in which it is
compared.
-/

/-- In which way texts are compared. -/
structure KeyOrder where
  skipsBlanks : Bool := false
  skipsBlanksAtEnd : Bool := false
  onlyWords : Bool := false
  onlyPrintable : Bool := false
  foldsCase : Bool := false
  isNumeric : Bool := false
  isGeneral : Bool := false
  isHuman : Bool := false
  isMonth : Bool := false
  isVersion : Bool := false
  isReversed : Bool := false
  deriving Repr, DecidableEq

/-- A place in a line: a field and a character in it, both from zero. -/
structure KeyPlace where
  field : Nat := 0
  char : Nat := 0
  deriving Repr, DecidableEq

/-- A key: where it starts, where it ends if not at the end of the line, and its order. -/
structure SortKey where
  start : KeyPlace := {}
  finish : Option KeyPlace := none
  order : KeyOrder := {}
  deriving Repr, DecidableEq

namespace KeyOrder

/-- An order with one more property, which a letter stands for. -/
def withLetter? (order : KeyOrder) (isEnd : Bool) (letter : Char) : Option KeyOrder :=
  match letter with
  | 'b' =>
      if isEnd then some { order with skipsBlanksAtEnd := true }
      else some { order with skipsBlanks := true }
  | 'd' => some { order with onlyWords := true }
  | 'f' => some { order with foldsCase := true }
  | 'g' => some { order with isGeneral := true }
  | 'h' => some { order with isHuman := true }
  | 'i' => some { order with onlyPrintable := true }
  | 'M' => some { order with isMonth := true }
  | 'n' => some { order with isNumeric := true }
  | 'r' => some { order with isReversed := true }
  | 'V' => some { order with isVersion := true }
  | _ => none

/-- Whether an order has no property. -/
def isUsual (order : KeyOrder) : Bool :=
  order = {}

/-- The letters of the properties that do not go together, if there are such. -/
def conflict? (order : KeyOrder) : Option ByteText :=
  let isPlain := order.isVersion || order.onlyWords || order.onlyPrintable
  let kinds := [order.isNumeric, order.isGeneral, order.isHuman, order.isMonth, isPlain]
  if (kinds.filter id).length ≤ 1 then
    none
  else
    let letters := [(order.onlyWords, 'd'), (order.foldsCase, 'f'), (order.isGeneral, 'g'),
      (order.isHuman, 'h'), (order.onlyPrintable, 'i'), (order.isMonth, 'M'),
      (order.isNumeric, 'n'), (order.isVersion, 'V')]
    some ((letters.filter Prod.fst).map Prod.snd)

end KeyOrder

/-! ## Parts of lines -/

/-- Whether a character is a blank between fields. -/
def isGap (c : Char) : Bool :=
  c = ' ' || c = '\t' || c = '\n'

/-- A line without some of its fields; a separator at the end may be left. -/
def dropFields (separator : Option Char) : Nat → ByteText → ByteText
  | 0, line => line
  | count + 1, line =>
      match separator with
      | some c => dropFields separator count ((line.dropWhile (· ≠ c)).drop 1)
      | none => dropFields separator count ((line.dropWhile isGap).dropWhile (!isGap ·))

/-- The part of a line after the start of a key. -/
def SortKey.after (separator : Option Char) (key : SortKey) (line : ByteText) : ByteText :=
  let field := dropFields separator key.start.field line
  let field := if key.order.skipsBlanks then field.dropWhile isGap else field
  field.drop key.start.char

/-- What is left of a line after the end of a key. -/
def SortKey.beyond (separator : Option Char) (key : SortKey) (line : ByteText) : ByteText :=
  match key.finish with
  | none => []
  | some ⟨field, 0⟩ =>
      match separator with
      | some c => (dropFields separator field line).dropWhile (· ≠ c)
      | none => dropFields separator (field + 1) line
  | some ⟨field, char⟩ =>
      let rest := dropFields separator field line
      let rest := if key.order.skipsBlanksAtEnd then rest.dropWhile isGap else rest
      rest.drop char

/-- The part of a line that a key selects. -/
def SortKey.select (separator : Option Char) (key : SortKey) (line : ByteText) : ByteText :=
  let after := key.after separator line
  let beyond := key.beyond separator line
  after.take (after.length - beyond.length)

/-! ## Comparing -/

/-- The number at the start of a text as a fraction of a power of ten, and the text after it. -/
def leadingNumber (text : ByteText) : Bool × Nat × Nat × ByteText :=
  let (isNegative, digits) :=
    match text.dropWhile isGap with
    | '-' :: rest => (true, rest)
    | rest => (false, rest)
  let whole := digits.takeWhile Char.isDigit
  let rest := digits.drop whole.length
  let (part, rest) :=
    match rest with
    | '.' :: rest => (rest.takeWhile Char.isDigit, rest.dropWhile Char.isDigit)
    | rest => ([], rest)
  (isNegative, (Text.decimal? (whole ++ part)).getD 0, part.length, rest)

/-- A fraction of a power of ten as an integer of units of another one. -/
def scaledTo (scale : Nat) (isNegative : Bool) (value places : Nat) : Int :=
  let scaled := value * power 10 (scale - places)
  if isNegative then -scaled else scaled

/-- The order of the numbers at the start of two texts. -/
def numericOrder (a b : ByteText) : Ordering :=
  let (signA, valueA, placesA, _) := leadingNumber a
  let (signB, valueB, placesB, _) := leadingNumber b
  let scale := max placesA placesB
  compare (scaledTo scale signA valueA placesA) (scaledTo scale signB valueB placesB)

/-- The rank of the unit after the number at the start of a text. -/
def unitRank (text : ByteText) : Int :=
  let (isNegative, value, _, rest) := leadingNumber text
  let letter := rest.head?.filter fun c => c ∉ ['m', 'g', 't']
  let rank := ((letter.bind powerOf?).getD 0 : Nat)
  if value = 0 then 0 else if isNegative then -rank else rank

/-- The rank of the name of a month at the start of a text. -/
def monthRank (text : ByteText) : Nat :=
  (month? (text.dropWhile isGap)).getD 0

/-- The rank of what is no number, and the number at the start of a text. -/
def generalValue (text : ByteText) : Nat × Bool × Nat × Nat :=
  match Floating.read? 64 text with
  | none => (0, false, 0, 1)
  | some (.none _, _) => (1, false, 0, 1)
  | some (.infinite true, _) => (2, false, 0, 1)
  | some (.infinite false, _) => (4, false, 0, 1)
  | some (.finite sign numerator denominator, _) => (3, sign, numerator, denominator)

/-- The order of the numbers with fractions at the start of two texts. -/
def generalOrder (a b : ByteText) : Ordering :=
  let (rankA, signA, numeratorA, denominatorA) := generalValue a
  let (rankB, signB, numeratorB, denominatorB) := generalValue b
  let signed := fun (isNegative : Bool) (value : Nat) =>
    if isNegative then -(value : Int) else value
  (compare rankA rankB).then
    (compare (signed signA (numeratorA * denominatorB)) (signed signB (numeratorB * denominatorA)))

/-- A text as it is compared, without what does not count. -/
def KeyOrder.compared (order : KeyOrder) (text : ByteText) : ByteText :=
  let kept := text.filter fun c =>
    (!order.onlyWords || isGap c || c.isAlphanum) &&
      (!order.onlyPrintable || (' ' ≤ c && c ≤ '~'))
  if order.foldsCase then kept.map Char.toUpper else kept

/-- The order of two texts. -/
def KeyOrder.compare (order : KeyOrder) (a b : ByteText) : Ordering :=
  let result :=
    if order.isNumeric then numericOrder a b
    else if order.isGeneral then generalOrder a b
    else if order.isHuman then (Ord.compare (unitRank a) (unitRank b)).then (numericOrder a b)
    else if order.isMonth then Ord.compare (monthRank a) (monthRank b)
    else if order.isVersion then versionOrder (order.compared a) (order.compared b)
    else byteOrder (order.compared a) (order.compared b)
  if order.isReversed then result.swap else result

/-- The order of two lines by keys. -/
def keysOrder (separator : Option Char) (keys : List SortKey) (a b : ByteText) : Ordering :=
  keys.foldl
    (fun order key =>
      order.then (key.order.compare (key.select separator a) (key.select separator b)))
    .eq

/-! ## Reading keys -/

/-- What is wrong with a key, and with which part of it. -/
abbrev KeyFault := ByteText

/-- A count at the start of a text, and the text after it. -/
def readCount (reason : String) (text : ByteText) : Except KeyFault (Nat × ByteText) :=
  let digits := text.takeWhile Char.isDigit
  match Text.decimal? digits with
  | some count => .ok (count, text.drop digits.length)
  | none => .error (reason.toList ++ ": invalid count at start of ".toList ++ quoted text)

/-- The properties at the start of a text, and the text after them. -/
def readLetters (order : KeyOrder) (isEnd : Bool) : ByteText → KeyOrder × ByteText
  | [] => (order, [])
  | letter :: rest =>
      match order.withLetter? isEnd letter with
      | some order => readLetters order isEnd rest
      | none => (order, letter :: rest)

/-- The key that a text stands for. -/
def readKey (text : ByteText) : Except KeyFault SortKey := do
  let wrong := fun (reason : String) =>
    reason.toList ++ ": invalid field specification ".toList ++ quoted text
  let (field, rest) ← readCount "invalid number at field start" text
  if field = 0 then
    throw (wrong "field number is zero")
  let (char, rest) ← match rest with
    | '.' :: rest => readCount "invalid number after '.'" rest
    | rest => pure (1, rest)
  if char = 0 then
    throw (wrong "character offset is zero")
  let (order, rest) := readLetters {} false rest
  let start : KeyPlace := ⟨field - 1, char - 1⟩
  match rest with
  | [] => return { start, order }
  | ',' :: rest => do
      let (last, rest) ← readCount "invalid number after ','" rest
      if last = 0 then
        throw (wrong "field number is zero")
      let (char, rest) ← match rest with
        | '.' :: rest => readCount "invalid number after '.'" rest
        | rest => pure (0, rest)
      let (order, rest) := readLetters order true rest
      if !rest.isEmpty then
        throw (wrong "stray character in field spec")
      return { start, finish := some ⟨last - 1, char⟩, order }
  | _ => throw (wrong "stray character in field spec")

/-!
# Sorting lines

The lines of all contents are put in order by keys.  Lines with the same keys are ordered as whole
lines, unless they are to stay in the order in which they are read.
-/

open Work

/-- How lines are sorted. -/
structure Sorting where
  keys : List SortKey
  separator : Option Char
  isStable : Bool
  isUnique : Bool
  isReversed : Bool
  ending : Char

/-- The order of two lines. -/
def Sorting.order (setting : Sorting) (a b : ByteText) : Ordering :=
  let byKeys := keysOrder setting.separator setting.keys a b
  if !setting.keys.isEmpty && (setting.isUnique || setting.isStable) then
    byKeys
  else
    let whole := byteOrder a b
    byKeys.then (if setting.isReversed then whole.swap else whole)

/-- Drop lines that are the same as the line before. -/
def Sorting.dropRepeated (setting : Sorting) : List ByteText → List ByteText
  | [] => []
  | first :: rest =>
      first :: (setting.dropRepeated (rest.dropWhile fun line => setting.order first line = .eq))
termination_by lines => lines.length
decreasing_by
  have shorter :=
    (List.dropWhile_suffix (l := rest) fun line => setting.order first line = .eq).length_le
  simp only [List.length_cons]
  omega

/-- Sorted lines. -/
def Sorting.sort (setting : Sorting) (lines : List ByteText) : List ByteText :=
  let sorted := lines.mergeSort fun a b => setting.order a b ≠ .gt
  if setting.isUnique then setting.dropRepeated sorted else sorted

/-- The number and the text of the first line that is not in order, from a number on. -/
def Sorting.disorder? (setting : Sorting) : Nat → List ByteText → Option (Nat × ByteText)
  | number, first :: second :: rest =>
      let order := setting.order first second
      if order = .gt || (setting.isUnique && order = .eq) then some (number + 1, second)
      else setting.disorder? (number + 1) (second :: rest)
  | _, _ => none

/-- Lines of two texts, always the one that comes first of both. -/
def Sorting.merge (setting : Sorting) : List ByteText → List ByteText → List ByteText
  | [], others => others
  | lines, [] => lines
  | first :: lines, other :: others =>
      if setting.order first other = .gt then
        other :: setting.merge (first :: lines) others
      else
        first :: setting.merge lines (other :: others)
termination_by lines others => lines.length + others.length

/-- The options of sorting. -/
def sortingOptions : List OptionKind :=
  [flag 'b' "ignore-leading-blanks", flag 'd' "dictionary-order", flag 'f' "ignore-case",
    flag 'g' "general-numeric-sort", flag 'h' "human-numeric-sort", flag 'i' "ignore-nonprinting",
    flag 'M' "month-sort", flag 'n' "numeric-sort", flag 'r' "reverse", flag 'V' "version-sort",
    optionOf [] "sort" .always, letterOnly 'c' "check-first", optionOf [] "check" .perhaps,
    letterOnly 'C' "check-quietly", valued 'k' "key", flag 'm' "merge", valued 'o' "output",
    flag 's' "stable", valued 'S' "buffer-size", valued 't' "field-separator",
    valued 'T' "temporary-directory", optionOf [] "parallel" .always, flag 'u' "unique",
    flag 'z' "zero-terminated", wordOnly "debug"]

/-- The letters of the properties that options stand for. -/
def propertyLetters : List (String × Char) :=
  [("ignore-leading-blanks", 'b'), ("dictionary-order", 'd'), ("ignore-case", 'f'),
    ("general-numeric-sort", 'g'), ("human-numeric-sort", 'h'), ("ignore-nonprinting", 'i'),
    ("month-sort", 'M'), ("numeric-sort", 'n'), ("reverse", 'r'), ("version-sort", 'V')]

/-- The order that the options of a call ask for. -/
def requestedKeyOrder (arguments : Arguments) : Work KeyOrder := do
  let words ← (arguments.values "sort").mapM <| chosen [["general-numeric"], ["human-numeric"],
    ["month"], ["numeric"], ["random"], ["version"]] "sort"
  let sorts := words.map (· ++ "-sort")
  let letters := propertyLetters.filter fun (word, _) => arguments.has word || sorts.contains word
  let order := letters.foldl (fun (order : KeyOrder) (_, letter) =>
    (order.withLetter? false letter).getD order) {}
  return { order with skipsBlanksAtEnd := order.skipsBlanks }

/-- The character that separates fields. -/
def requestedSeparator (arguments : Arguments) : Work (Option Char) := do
  match arguments.value? "field-separator" with
  | none => return none
  | some [] => refuse "empty tab".toList 2
  | some [c] => return some c
  | some ['\\', '0'] => return some '\x00'
  | some text => refuse ("multi-character tab ".toList ++ quoted text) 2

/-- How a call wants lines to be sorted. -/
def requestedSorting (arguments : Arguments) : Work Sorting := do
  let order ← requestedKeyOrder arguments
  let separator ← requestedSeparator arguments
  let keys ← (arguments.values "key").mapM fun text => do
    match readKey text with
    | .ok key => return if key.order.isUsual then { key with order } else key
    | .error fault => refuse fault 2
  let keys := if keys.isEmpty && { order with isReversed := false } ≠ ({} : KeyOrder) then
    [{ order }] else keys
  if let some letters := keys.findSome? fun key => key.order.conflict? then
    refuse ("options '-".toList ++ letters ++ "' are incompatible".toList) 2
  return {
    keys, separator, isStable := arguments.has "stable", isUnique := arguments.has "unique"
    isReversed := arguments.has "reverse"
    ending := if arguments.has "zero-terminated" then '\x00' else '\n' }

/-- The content of an operand, without which nothing is sorted. -/
def requireContent (operand : ByteText) : Work ByteText := do
  match ← content operand with
  | .ok text => return text
  | .error (.refused .isDirectory) =>
      refuse ("read failed: ".toList ++ quotedIfNeeded operand ++ ": ".toList ++
        faultText (.refused .isDirectory)) 2
  | .error fault =>
      refuse ("cannot read: ".toList ++ quotedIfNeeded operand ++ ": ".toList ++
        faultText fault) 2

/-- Whether lines are only checked, and whether something is then said about them. -/
def requestedCheck (arguments : Arguments) : Work (Option Bool) := do
  let values ← (arguments.values "check").mapM fun value => do
    if value.isEmpty then return "diagnose-first"
    else chosen [["quiet", "silent"], ["diagnose-first"]] "check" value
  if arguments.has "check-quietly" || values.getLast? = some "quiet" then
    return some false
  else if arguments.has "check-first" || !values.isEmpty then
    return some true
  else
    return none

/-- Check whether the lines of a content are in order. -/
def checkOrder (setting : Sorting) (isLoud : Bool) (operands : List ByteText) : Work Unit := do
  if let second :: _ := operands.drop 1 then
    refuse ("extra operand ".toList ++ quoted second ++ " not allowed with -c".toList) 2
  let operand : ByteText := operands.head?.getD ['-']
  let lines := linesOf setting.ending (← requireContent operand)
  if let some (number, line) := setting.disorder? 1 lines then
    if isLoud then
      complain (operand ++ ':' :: ByteText.ofNat number ++ ": disorder: ".toList ++ line)
    else
      finish 1

/-- Sort the lines of all contents together. -/
def sort : Tool := toTool do
  let arguments ← arguments sortingOptions false 2
  let setting ← requestedSorting arguments
  match ← requestedCheck arguments with
  | some isLoud => checkOrder setting isLoud arguments.operands
  | none => do
      let operands : List ByteText :=
        if arguments.operands.isEmpty then [['-']] else arguments.operands
      let parts ← operands.mapM fun operand => do
        return linesOf setting.ending (← requireContent operand)
      let sorted :=
        if arguments.has "merge" then
          let merged := parts.foldl setting.merge []
          if setting.isUnique then setting.dropRepeated merged else merged
        else setting.sort parts.flatten
      let text := sorted.flatMap fun line => line ++ [setting.ending]
      match arguments.value? "output" with
      | none => print text
      | some target =>
          if let some fault ← write false target text then
            refuse ("open failed: ".toList ++ quotedIfNeeded target ++ ": ".toList ++
              faultText fault) 2

end Provision.Shell.Tool
