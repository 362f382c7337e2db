import Provision.Shell.Tool.Amounts
import Provision.Shell.Tool.Joining

namespace Provision.Shell.Tool

/-!
# Scaling numbers

Numbers are read with the letters of units after them and printed with other ones.  They are kept
to sixty-four binary digits, and rounded to as few decimal digits as a call wants.
-/

open Work

/-! ## Quantities -/

/-- A number that has been rounded to the binary digits that are kept. -/
structure Quantity where
  isNegative : Bool := false
  numerator : Nat
  denominator : Nat := 1

namespace Quantity

/-- A fraction as it is kept. -/
def kept (isNegative : Bool) (numerator denominator : Nat) : Quantity :=
  match Floating.rounded 64 isNegative numerator denominator with
  | .finite isNegative numerator denominator => { isNegative, numerator, denominator }
  | _ => { numerator := 0 }

/-- A quantity times a number. -/
def times (a : Quantity) (factor : Nat) : Quantity :=
  kept a.isNegative (a.numerator * factor) a.denominator

/-- A quantity divided by a number. -/
def dividedBy (a : Quantity) (divisor : Nat) : Quantity :=
  kept a.isNegative a.numerator (a.denominator * divisor)

/-- The sum of the sizes of two quantities, with the sign of the first one. -/
def plus (a b : Quantity) : Quantity :=
  kept a.isNegative (a.numerator * b.denominator + b.numerator * a.denominator)
    (a.denominator * b.denominator)

/-- Whether the size of a quantity is less than a number. -/
def isBelow (a : Quantity) (bound : Nat) : Bool :=
  a.numerator < bound * a.denominator

/-- The text of a quantity with a number of digits after the point. -/
def fixed (a : Quantity) (precision : Nat) : ByteText :=
  Floating.fixed false precision a.numerator a.denominator

/-- The text of a quantity with its first digits and perhaps an exponent. -/
def general (a : Quantity) : ByteText :=
  (if a.isNegative then ['-'] else []) ++ Floating.general false 'e' 6 a.numerator a.denominator

end Quantity

/-- How digits are dropped. -/
inductive Rounding where
  | up
  | down
  | fromZero
  | towardsZero
  | nearest
  deriving Repr, DecidableEq

/-- A quantity without its fraction. -/
def Rounding.apply (rounding : Rounding) (a : Quantity) : Quantity :=
  let whole := a.numerator / a.denominator
  let isWhole := a.numerator % a.denominator = 0
  let grows := match rounding with
    | .up => !a.isNegative
    | .down => a.isNegative
    | .fromZero => true
    | .towardsZero => false
    | .nearest => false
  let near := (2 * a.numerator + a.denominator) / (2 * a.denominator)
  let size :=
    if rounding = .nearest then near
    else if grows && !isWhole then whole + 1
    else whole
  .kept (a.isNegative && size ≠ 0) size 1

/-! ## Units -/

/-- What the letters of units stand for. -/
inductive UnitScale where
  | none
  | either
  | thousands
  | binary
  | binaryMarked
  deriving Repr, DecidableEq

/-- The number of which the units of a scale are powers. -/
def UnitScale.base : UnitScale → Nat
  | .binary | .binaryMarked => 1024
  | _ => 1000

/-- The letters of units, the smallest one first. -/
def scaleLetters : List Char :=
  ['K', 'M', 'G', 'T', 'P', 'E', 'Z', 'Y', 'R', 'Q']

/-- Why a text is no quantity. -/
inductive QuantityFault where
  | overflow
  | noNumber
  | forbiddenUnit
  | badUnit
  | missingMark
  | badEnd (rest : ByteText)
  deriving Repr, DecidableEq

/-- The wording of a fault in a text. -/
def QuantityFault.message (text : ByteText) : QuantityFault → ByteText
  | .overflow => "value too large to be converted: ".toList ++ quoted text
  | .noNumber => "invalid number: ".toList ++ quoted text
  | .forbiddenUnit =>
      "rejecting suffix in input: ".toList ++ quoted text ++ " (consider using --from)".toList
  | .badUnit => "invalid suffix in input: ".toList ++ quoted text
  | .missingMark =>
      "missing 'i' suffix in input: ".toList ++ quoted text ++ " (e.g Ki/Mi/Gi)".toList
  | .badEnd rest => "invalid suffix in input ".toList ++ quoted text ++ ": ".toList ++ quoted rest

/-- The value of digits, which is rounded after each of them. -/
def wholeQuantity (digits : ByteText) : Except QuantityFault Quantity :=
  if (digits.dropWhile (· = '0')).length > 33 then
    .error .overflow
  else
    .ok (digits.foldl
      (fun value c => (value.times 10).plus { numerator := c.toNat - '0'.toNat })
      { numerator := 0 })

/-- Read a number with a fraction: its value, the digits after its point, and the text after it. -/
def readNumber (text : ByteText) : Except QuantityFault (Quantity × Nat × ByteText) := do
  let isNegative := text.head? = some '-'
  let text := if isNegative then text.drop 1 else text
  let digits := text.takeWhile Char.isDigit
  let whole ← wholeQuantity digits
  match text.drop digits.length with
  | '.' :: rest => do
      let places := rest.takeWhile Char.isDigit
      let after := rest.drop places.length
      if places.isEmpty && after.head? ≠ some '.' then
        throw .noNumber
      let fraction := (← wholeQuantity places).dividedBy (power 10 places.length)
      return ({ whole.plus fraction with isNegative }, places.length, after)
  | rest =>
      if digits.isEmpty then throw .noNumber
      else return ({ whole with isNegative }, 0, rest)

/-- Read the unit after a number: its power, the base of it, and the text after it. -/
def readUnit (scale : UnitScale) (text : ByteText) :
    Except QuantityFault (Nat × Nat × ByteText) := do
  match text.dropWhile fun c => c = ' ' || c = '\t' with
  | [] => throw .badUnit
  | letter :: rest =>
      if !scaleLetters.contains letter then
        throw .badUnit
      else if scale = .none then
        throw .forbiddenUnit
      else
        let level := scaleLetters.findIdx (· = letter) + 1
        match scale, rest with
        | .either, 'i' :: rest => return (level, 1024, rest)
        | _, rest => return (level, scale.base, rest)

/-- The quantity that a text stands for, and the number of digits after its point. -/
def readQuantity (scale : UnitScale) (text : ByteText) : Except QuantityFault (Quantity × Nat) := do
  let (value, precision, rest) ← readNumber text
  let (level, base, after) ←
    if rest.isEmpty then pure (0, scale.base, rest) else readUnit scale rest
  let after ←
    if scale = .binaryMarked && !text.isEmpty then
      match after with
      | 'i' :: after => pure after
      | _ => throw .missingMark
    else
      pure after
  if !after.isEmpty then
    throw (.badEnd after)
  return (value.times (power base level), if rest.isEmpty then precision else 0)

/-! ## Forms -/

/-- How numbers are printed: with a text around them, and so many places of some kind. -/
structure NumberForm where
  opening : ByteText := []
  ending : ByteText := []
  precision? : Option Nat := none
  zeroWidth : Nat := 0
  width : Nat := 0
  isLeft : Bool := false

/-- What an invalid number leads to. -/
inductive InvalidUse where
  | abort
  | fail
  | warn
  | ignore
  deriving Repr, DecidableEq

/-- How numbers are scaled. -/
structure Scaling where
  source : UnitScale
  target : UnitScale
  fromUnit : Nat
  toUnit : Nat
  rounding : Rounding
  form : NumberForm
  isPadded : Bool
  suffix : ByteText
  fields : List Range
  separator? : Option Char
  invalid : InvalidUse

/-- Divide a quantity by a base as long as it is not below it; the first argument bounds that. -/
def scaledDown (base : Nat) : Nat → Quantity → Quantity × Nat
  | 0, value => (value, 0)
  | steps + 1, value =>
      if value.isBelow base then (value, 0)
      else
        let (value, level) := scaledDown base steps (value.dividedBy base)
        (value, level + 1)

/-- A quantity rounded to a number of decimal places. -/
def Scaling.roundedTo (setting : Scaling) (places : Nat) (value : Quantity) : Quantity :=
  (setting.rounding.apply (value.times (power 10 places))).dividedBy (power 10 places)

/-- The text of a number with a sign, perhaps filled up with zeros. -/
def NumberForm.number (form : NumberForm) (value : Quantity) (precision : Nat) : ByteText :=
  let sign := if value.isNegative then ['-'] else []
  let digits := value.fixed precision
  sign ++ List.replicate (form.zeroWidth - sign.length - digits.length) '0' ++ digits

/-- The text of a quantity with the letter of its unit. -/
def Scaling.shown (setting : Scaling) (value : Quantity) (precision : Nat) : ByteText :=
  let form := setting.form
  if setting.target = .none then
    form.number { setting.roundedTo precision value with isNegative := value.isNegative } precision
  else
    let base := setting.target.base
    let (value, level) := scaledDown base 200 value
    let places := match form.precision? with
      | some precision => min (3 * level) precision
      | none => if value.isBelow 10 then 1 else 0
    let value := { setting.roundedTo places value with isNegative := value.isNegative }
    let (value, level) :=
      if value.isBelow base then (value, level) else (value.dividedBy base, level + 1)
    let hasPoint := value.numerator ≠ 0 && value.isBelow 10 && 0 < level
    let precision := form.precision?.getD (if hasPoint then 1 else 0)
    let letter := if level = 0 then [] else [scaleLetters.getD (level - 1) 'Q']
    let mark := if setting.target = .binaryMarked && 0 < level then ['i'] else []
    form.number value precision ++ letter ++ mark

/-- Why a quantity cannot be printed, if it cannot. -/
def Scaling.printFault? (setting : Scaling) (value : Quantity) (precision : Nat) :
    Option ByteText :=
  let digits := (scaledDown 10 200 value).2
  let large := "too large to be printed: '".toList ++ value.general
  if setting.target = .none && 18 < digits + precision then
    some <|
      if precision = 0 then
        "value ".toList ++ large ++ "' (consider using --to)".toList
      else
        "value/precision ".toList ++ large ++ '/' :: ByteText.ofNat precision ++
          "' (consider using --to)".toList
  else if 32 < digits then
    some ("value ".toList ++ large ++ "' (cannot handle values > 999Q)".toList)
  else
    none

/-- A text filled up with blanks to a width. -/
def NumberForm.padded (form : NumberForm) (width : Nat) (text : ByteText) : ByteText :=
  let gap := List.replicate (width - text.length) ' '
  if form.isLeft then text ++ gap else gap ++ text

/-- The text for a field, or what is wrong with it and the text that is printed then. -/
def Scaling.field (setting : Scaling) (index : Nat) (text : ByteText) :
    Except (ByteText × ByteText) ByteText :=
  let suffix := setting.suffix
  let hasSuffix := suffix.length < text.length && suffix.isSuffixOf text
  let text := if hasSuffix then text.take (text.length - suffix.length) else text
  let body := text.dropWhile fun c => c = ' ' || c = '\t'
  let width :=
    if !setting.isPadded then setting.form.width
    else if body.length < text.length || 1 < index then text.length
    else 0
  match readQuantity setting.source body with
  | .error fault => .error (fault.message body, text)
  | .ok (value, precision) =>
      let value :=
        if setting.fromUnit = 1 && setting.toUnit = 1 then value
        else (value.times setting.fromUnit).dividedBy setting.toUnit
      let precision := setting.form.precision?.getD precision
      match setting.printFault? value precision with
      | some fault => .error (fault, text)
      | none =>
          let shown := setting.form.padded width (setting.shown value precision ++ suffix)
          .ok (setting.form.opening ++ shown ++ setting.form.ending)

/-- The fields of a line; blanks belong to the field after them. -/
def Scaling.fieldsOf (setting : Scaling) (line : ByteText) : List ByteText :=
  match setting.separator? with
  | some separator => Text.fields separator line
  | none => go (line.length + 1) line
where
  /-- Cut off fields with the blanks in front of them; the first argument bounds them. -/
  go : Nat → ByteText → List ByteText
    | 0, _ => []
    | steps + 1, text =>
        let isBlank := fun c => c = ' ' || c = '\t' || c = '\n'
        let blanks := text.takeWhile isBlank
        let field := blanks ++ (text.drop blanks.length).takeWhile (!isBlank ·)
        match text.drop field.length with
        | [] => [field]
        | _ :: rest => field :: go steps rest

/-- Print a line with its numbers scaled; the answer tells whether they are all valid. -/
def Scaling.printLine (setting : Scaling) (line : ByteText) : Work Bool := do
  let fields := setting.fieldsOf line
  let mut isValid := true
  for (index, field) in fields.mapIdx fun index field => (index + 1, field) do
    if index > 1 then
      print [setting.separator?.getD ' ']
    if setting.fields.any (·.contains index) then
      match setting.field index field with
      | .ok text => print text
      | .error (fault, text) => do
          match setting.invalid with
          | .abort => refuse fault 2
          | .ignore => pure ()
          | _ => remark fault
          print text
          isValid := false
    else
      print field
  return isValid

/-! ## Calls -/

/-- What stands in front of the first directive of a form, and the text after its sign. -/
def beforeDirective : ByteText → Option (ByteText × ByteText)
  | [] => none
  | '%' :: '%' :: rest => (beforeDirective rest).map fun (opening, rest) => ('%' :: opening, rest)
  | '%' :: rest => some ([], rest)
  | c :: rest => (beforeDirective rest).map fun (opening, rest) => (c :: opening, rest)

/-- The flags of a directive, of which only the zero matters, and the text after them. -/
def directiveFlags : Nat → Bool → ByteText → Bool × ByteText
  | 0, isZero, text => (isZero, text)
  | steps + 1, isZero, text =>
      match text with
      | ' ' :: rest => directiveFlags steps isZero rest
      | '\'' :: rest => directiveFlags steps isZero rest
      | '0' :: rest => directiveFlags steps true rest
      | text => (isZero, text)

/-- The form that a text stands for. -/
def readForm (base : NumberForm) (text : ByteText) : Except ByteText NumberForm := do
  let told := fun (before after : String) => before.toList ++ quoted text ++ after.toList
  let (before, rest) ← match beforeDirective text with
    | some parts => pure parts
    | none => throw (told "format " " has no % directive")
  let (isZero, rest) := directiveFlags text.length false rest
  let isLeft := rest.head? = some '-'
  let digits := ((if isLeft then rest.drop 1 else rest).takeWhile Char.isDigit)
  let width := (Text.decimal? digits).getD 0
  let rest := if digits.isEmpty then rest
    else rest.drop (digits.length + if isLeft then 1 else 0)
  let form :=
    if width = 0 then base
    else if isLeft then { base with isLeft, width }
    else if isZero then { base with zeroWidth := width }
    else { base with width }
  if rest.isEmpty then
    throw (told "format " " ends in %")
  let (precision?, rest) ← match rest with
    | '.' :: rest => do
        let digits := rest.takeWhile Char.isDigit
        if rest.head?.any fun c => c ∈ ['-', '+', ' ', '\t'] then
          throw (told "invalid precision in format " "")
        pure (some ((Text.decimal? digits).getD 0), rest.drop digits.length)
    | rest => pure (none, rest)
  match rest with
  | 'f' :: ending =>
      if (beforeDirective ending).isSome then
        throw (told "format " " has too many % directives")
      return { form with opening := text.take before.length, ending, precision? }
  | _ => throw (told "invalid format " ", directive must be %[0]['][-][N][.][N]f")

/-- The size of a unit that is given by a number or a letter. -/
def unitSize (text : ByteText) : Work Nat := do
  let digits := text.takeWhile Char.isDigit
  let number? := if digits.isEmpty then some 1 else Text.decimal? digits
  let unit? := match text.drop digits.length with
    | [] => if digits.isEmpty then none else some 1
    | [letter] =>
        if scaleLetters.contains letter then
          some (power 1000 (scaleLetters.findIdx (· = letter) + 1))
        else none
    | [letter, 'i'] =>
        if scaleLetters.contains letter then
          some (power 1024 (scaleLetters.findIdx (· = letter) + 1))
        else none
    | _ => none
  match number?, unit? with
  | some number, some unit =>
      if number = 0 || maxWord < number * unit then
        refuse ("invalid unit size: ".toList ++ quoted text)
      else
        return number * unit
  | _, _ => refuse ("invalid unit size: ".toList ++ quoted text)

/-- The scale that the value of an option names. -/
def requestedScale (arguments : Arguments) (word : String) (names : List String) :
    Work UnitScale := do
  match arguments.value? word with
  | none => return .none
  | some value =>
      return match ← chosen (names.map fun name => [name]) word value with
        | "auto" => .either
        | "si" => .thousands
        | "iec" => .binary
        | "iec-i" => .binaryMarked
        | _ => .none

/-- The width of numbers that a call asks for. -/
def requestedWidth (arguments : Arguments) : Work NumberForm := do
  match arguments.value? "padding" with
  | none => return {}
  | some text =>
      let isLeft := text.head? = some '-'
      match Text.decimal? (if isLeft then text.drop 1 else text) with
      | some (width + 1) => return { isLeft, width := width + 1 }
      | _ => refuse ("invalid padding value ".toList ++ quoted text)

/-- The form of numbers that a call asks for. -/
def requestedForm (arguments : Arguments) : Work NumberForm := do
  let base ← requestedWidth arguments
  if arguments.has "format" && arguments.has "grouping" then
    refuse "--grouping cannot be combined with --format".toList
  match arguments.value? "format" with
  | none => return base
  | some text =>
      match readForm base text with
      | .ok form => return form
      | .error fault => refuse fault

/-- How a call wants digits to be dropped. -/
def requestedRounding (arguments : Arguments) : Work Rounding := do
  let names := ["up", "down", "from-zero", "towards-zero", "nearest"].map fun name => [name]
  match arguments.value? "round" with
  | none => return .fromZero
  | some value =>
      return match ← chosen names "round" value with
        | "up" => .up
        | "down" => .down
        | "towards-zero" => .towardsZero
        | "nearest" => .nearest
        | _ => .fromZero

/-- What invalid numbers lead to. -/
def requestedInvalidUse (arguments : Arguments) : Work InvalidUse := do
  match arguments.value? "invalid" with
  | none => return .abort
  | some value =>
      return match ← chosen [["abort"], ["fail"], ["warn"], ["ignore"]] "invalid" value with
        | "fail" => .fail
        | "warn" => .warn
        | "ignore" => .ignore
        | _ => .abort

/-- The fields that hold numbers. -/
def requestedFields (arguments : Arguments) : Work (List Range) := do
  match arguments.values "field" with
  | [] => return [⟨1, some 1⟩]
  | [['-']] => return [⟨1, none⟩]
  | [text] =>
      match readRanges fieldNames text with
      | .ok ranges => return ranges
      | .error fault => misuse fault
  | _ => refuse "multiple field specifications".toList

/-- The number of lines that are no numbers but a head. -/
def requestedHead (arguments : Arguments) : Work Nat := do
  match arguments.value? "header" with
  | none => return 0
  | some [] => return 1
  | some text =>
      match Text.decimal? text with
      | some (count + 1) => return count + 1
      | _ => refuse ("invalid header value ".toList ++ quoted text)

/-- How a call wants numbers to be scaled. -/
def requestedScaling (arguments : Arguments) : Work Scaling := do
  let source ← requestedScale arguments "from" ["none", "auto", "si", "iec", "iec-i"]
  let target ← requestedScale arguments "to" ["none", "si", "iec", "iec-i"]
  let unit := fun (word : String) => (arguments.value? word).elim (pure 1) unitSize
  let fromUnit ← unit "from-unit"
  let toUnit ← unit "to-unit"
  let rounding ← requestedRounding arguments
  let invalid ← requestedInvalidUse arguments
  let separator? ← match arguments.value? "delimiter" with
    | none => pure none
    | some [] => pure (some '\x00')
    | some [c] => pure (some c)
    | some _ => refuse "the delimiter must be a single character".toList
  let fields ← requestedFields arguments
  let form ← requestedForm arguments
  let isGrouped := arguments.has "grouping"
  if isGrouped && target ≠ .none then
    refuse "grouping cannot be combined with --to".toList
  if arguments.has "debug" then
    if source = .none && target = .none && !isGrouped &&
        !arguments.has "padding" && !arguments.has "format" then
      remark "no conversion option specified".toList
    if isGrouped then
      remark "grouping has no effect in this locale".toList
  return {
    source, target, fromUnit, toUnit, rounding, form
    isPadded := form.width = 0 && separator?.isNone
    suffix := (arguments.value? "suffix").getD [], fields, separator?, invalid }

/-- Print numbers in other units. -/
def numfmt : Tool := toTool do
  let arguments ← arguments [valued 'd' "delimiter", optionOf [] "field" .always,
    optionOf [] "format" .always, optionOf [] "from" .always, optionOf [] "from-unit" .always,
    wordOnly "grouping", optionOf [] "header" .perhaps, optionOf [] "invalid" .always,
    optionOf [] "padding" .always, optionOf [] "round" .always, optionOf [] "suffix" .always,
    optionOf [] "to" .always, optionOf [] "to-unit" .always, flag 'z' "zero-terminated",
    wordOnly "debug"]
  let head ← requestedHead arguments
  let setting ← requestedScaling arguments
  let ending := if arguments.has "zero-terminated" then '\x00' else '\n'
  let lines ←
    if arguments.operands.isEmpty then do
      let lines := endedLines ending (← takeInput)
      print (lines.take head).flatten
      pure (lines.drop head)
    else do
      if arguments.has "debug" && 0 < head then
        remark "--header ignored with command-line input".toList
      pure (arguments.operands.map fun operand => operand ++ [ending])
  let mut areValid := true
  for line in lines do
    let isEnded := line.getLast? = some ending
    let isValid ← setting.printLine (if isEnded then line.dropLast else line)
    areValid := areValid && isValid
    if isEnded then
      print [ending]
  if !areValid && arguments.has "debug" then
    remark "failed to convert some of the input numbers".toList
  if !areValid && (setting.invalid = .abort || setting.invalid = .fail) then
    finish 2

end Provision.Shell.Tool
