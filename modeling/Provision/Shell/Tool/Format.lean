import Provision.Shell.Tool.Amounts
import Provision.Shell.Tool.Basic
import Provision.Shell.Tool.Escapes

namespace Provision.Shell.Tool

/-!
# Formats

A format is a text with places where arguments are put in: a percent sign, flags, a width, a
precision and a letter that tells how an argument is shown.
-/

/-- Who prints in a format: the shell itself or a tool. -/
inductive Printer where
  | shell
  | tool
  deriving Repr, DecidableEq

/-- A width or a precision, which an argument may give. -/
inductive Extent where
  | missing
  | given (value : Nat)
  | argument
  deriving Repr, DecidableEq

/-- A place in a format where an argument is put in. -/
structure Conversion where
  flags : ByteText
  width : Extent
  precision : Extent
  letter : Char
  written : ByteText
  deriving Repr, DecidableEq

/-- A part of a format. -/
inductive FormatPart where
  | text (text : ByteText)
  | conversion (conversion : Conversion)
  | ending
  | fault (text : ByteText)
  deriving Repr, DecidableEq

/-! ## Reading a format -/

/-- A width or a precision at the start of a text, and the text after it. -/
def readExtent (usual : Extent) (text : ByteText) : Extent × ByteText :=
  match text with
  | '*' :: rest => (.argument, rest)
  | text =>
      let digits := text.takeWhile Char.isDigit
      (if digits.isEmpty then usual else .given ((Text.decimal? digits).getD 0),
        text.drop digits.length)

/-- Letters that show a number with a fraction. -/
def floatingLetters : List Char :=
  ['e', 'E', 'f', 'F', 'g', 'G']

/-- Letters that show an integer. -/
def integerLetters : List Char :=
  ['d', 'i', 'o', 'u', 'x', 'X']

/-- Whether a conversion may have its flags and its precision. -/
def isAllowed (printer : Printer) (conversion : Conversion) : Bool :=
  let letter := conversion.letter
  let isPlain := conversion.written.length = 2
  let isKnown := letter ∈ ['s', 'c'] || letter ∈ integerLetters || letter ∈ floatingLetters
  match printer with
  | .shell => isKnown || letter = 'b'
  | .tool =>
      (isPlain && (letter = 'b' || letter = 'q')) ||
        (isKnown && conversion.flags.all fun flag =>
          match flag with
          | '0' => letter ∉ ['s', 'c']
          | '#' => letter ∉ ['s', 'c', 'd', 'i', 'u']
          | '\'' => letter ∈ ['d', 'i', 'u', 'f', 'F', 'g', 'G']
          | _ => true) && !(letter = 'c' && conversion.precision ≠ .missing)

/-- The part of a format after a percent sign, and the format after it. -/
def readConversion (printer : Printer) (text : ByteText) : FormatPart × ByteText :=
  let isFlag := fun c => c ∈ ['-', '0', '+', ' ', '#'] || (printer = .tool && c = '\'')
  let flags := text.takeWhile isFlag
  let (width, rest) := readExtent .missing (text.drop flags.length)
  let (precision, rest) :=
    match rest with
    | '.' :: rest => readExtent (.given 0) rest
    | rest => (.missing, rest)
  let isModifier := fun c => printer = .tool && c ∈ ['h', 'l', 'L', 'j', 't', 'z']
  let rest := rest.dropWhile isModifier
  let written := fun (rest : ByteText) => '%' :: text.take (text.length - rest.length)
  match printer, rest with
  | .shell, [] => (.fault "missing format character".toList, [])
  | .tool, [] => (.fault (written [] ++ ": invalid conversion specification".toList), [])
  | _, letter :: rest =>
      let conversion : Conversion := { flags, width, precision, letter, written := written rest }
      if isAllowed printer conversion then
        (.conversion conversion, rest)
      else
        let reason := if printer = .shell then ": invalid directive"
          else ": invalid conversion specification"
        (.fault (written rest ++ reason.toList), rest)

/-- The parts of a format; the first argument bounds the steps. -/
def readFormat (printer : Printer) : Nat → ByteText → List FormatPart
  | 0, _ => []
  | _ + 1, [] => []
  | steps + 1, '%' :: '%' :: rest => .text ['%'] :: readFormat printer steps rest
  | steps + 1, '%' :: rest =>
      let (part, rest) := readConversion printer rest
      part :: readFormat printer steps rest
  | steps + 1, '\\' :: rest =>
      let place := if printer = .shell then EscapePlace.shellFormat else .format
      match readEscape place (printer = .tool) rest with
      | .stands text rest => .text text :: readFormat printer steps rest
      | .ends (.broken text) => [.fault text]
      | .ends _ => [.ending]
  | steps + 1, c :: rest => .text [c] :: readFormat printer steps rest

/-! ## Arguments as numbers -/

/-- A number that an argument gives, with what is wrong with the argument. -/
structure ArgumentNumber (α : Type) where
  value : α
  fault : Option ByteText := none

/-- The wording of an argument that is no number as a whole. -/
def numberFault (printer : Printer) (argument : ByteText) (isNone : Bool) : ByteText :=
  match printer, isNone with
  | .shell, true => argument ++ ": expected numeric value".toList
  | .shell, false => argument ++ ": not completely converted".toList
  | .tool, true => quoted argument ++ ": expected a numeric value".toList
  | .tool, false => quoted argument ++ ": value not completely converted".toList

/-- The wording of an argument whose number is too large or too small. -/
def rangeFault (printer : Printer) (argument : ByteText) : ByteText :=
  (if printer = .shell then argument else quoted argument) ++
    ": Numerical result out of range".toList

/-- The character whose code an argument gives with a quote in front of it. -/
def quotedCode? (argument : ByteText) : Option (Nat × ByteText) :=
  match argument with
  | '\'' :: c :: rest => some (c.toNat, rest)
  | '"' :: c :: rest => some (c.toNat, rest)
  | _ => none

/-- The integer that an argument gives, between bounds. -/
def integerOf (printer : Printer) (low high : Int) (argument : ByteText) : ArgumentNumber Int :=
  match quotedCode? argument with
  | some (code, rest) =>
      ⟨code, if printer = .tool && !rest.isEmpty then
        some ("warning: ".toList ++ rest ++
          ": character(s) following character constant have been ignored".toList)
        else none⟩
  | none =>
      let (isNegative, digits) :=
        match argument.dropWhile ByteText.isBlank with
        | '-' :: rest => (true, rest)
        | '+' :: rest => (false, rest)
        | rest => (false, rest)
      let digits :=
        match digits with
        | '0' :: 'X' :: rest => '0' :: 'x' :: rest
        | digits => digits
      let (magnitude, rest) := Expression.readNumber digits
      let value : Int := if isNegative then -magnitude else magnitude
      if argument.isEmpty then
        ⟨0, none⟩
      else if rest.length = digits.length then
        ⟨0, some (numberFault printer argument true)⟩
      else if !rest.isEmpty then
        ⟨value, some (numberFault printer argument false)⟩
      else if value < low then
        ⟨if low < -high then low else high, some (rangeFault printer argument)⟩
      else if high < value then
        ⟨high, some (rangeFault printer argument)⟩
      else
        ⟨value, none⟩

/-- The number of different values of a machine word. -/
def wordCount : Nat := 0x10000000000000000

/-- The signed integer that an argument gives. -/
def signedOf (printer : Printer) (argument : ByteText) : ArgumentNumber Int :=
  integerOf printer (-(wordCount / 2 : Nat)) (wordCount / 2 - 1 : Nat) argument

/-- The unsigned integer that an argument gives. -/
def unsignedOf (printer : Printer) (argument : ByteText) : ArgumentNumber Int :=
  let number := integerOf printer (-(wordCount - 1 : Nat)) (wordCount - 1 : Nat) argument
  { number with value := number.value.emod wordCount }

/-- The number with a fraction that an argument gives. -/
def floatingOf (printer : Printer) (argument : ByteText) : ArgumentNumber Floating :=
  let zero := Floating.finite false 0 1
  match quotedCode? argument with
  | some (code, _) => ⟨.finite false code 1, none⟩
  | none =>
      if argument.isEmpty then
        ⟨zero, none⟩
      else
        match Floating.read? (if printer = .shell then 53 else 64) argument with
        | none => ⟨zero, some (numberFault printer argument true)⟩
        | some (.finite sign numerator denominator, rest) =>
            let isHuge := printer = .shell && denominator * power 2 1024 ≤ numerator
            if isHuge then
              ⟨.infinite sign, some (rangeFault printer argument)⟩
            else
              ⟨.finite sign numerator denominator,
                if rest.isEmpty then none else some (numberFault printer argument false)⟩
        | some (number, rest) =>
            ⟨number, if rest.isEmpty then none else some (numberFault printer argument false)⟩

/-! ## Putting arguments in -/

/-- How an argument is put in: flags, a width and a precision. -/
structure Fitting where
  flags : ByteText
  width : Nat
  precision : Option Nat

/-- A text with blanks up to a width, after a beginning that zeros may follow. -/
def Fitting.pad (fitting : Fitting) (mayFill : Bool) (opening text : ByteText) : ByteText :=
  let missing := fitting.width - (opening.length + text.length)
  if fitting.flags.contains '-' then
    opening ++ text ++ List.replicate missing ' '
  else if mayFill && fitting.flags.contains '0' then
    opening ++ List.replicate missing '0' ++ text
  else
    List.replicate missing ' ' ++ opening ++ text

/-- The sign of a number that may have one. -/
def Fitting.sign (fitting : Fitting) (isNegative : Bool) : ByteText :=
  if isNegative then ['-']
  else if fitting.flags.contains '+' then ['+']
  else if fitting.flags.contains ' ' then [' ']
  else []

/-- A text as a conversion shows it. -/
def Fitting.showText (fitting : Fitting) (text : ByteText) : ByteText :=
  fitting.pad false [] (fitting.precision.elim text text.take)

/-- An integer as a conversion shows it. -/
def Fitting.showInteger (fitting : Fitting) (letter : Char) (value : Int) : ByteText :=
  let isSigned := letter = 'd' || letter = 'i'
  let base := if letter = 'o' then 8 else if letter.toLower = 'x' then 16 else 10
  let magnitude := value.natAbs
  let digits :=
    if fitting.precision = some 0 && magnitude = 0 then [] else Nat.toDigits base magnitude
  let digits := if letter = 'X' then digits.map Char.toUpper else digits
  let digits := List.replicate (fitting.precision.getD 1 - digits.length) '0' ++ digits
  let isFull := fitting.flags.contains '#'
  let digits := if isFull && letter = 'o' && digits.head? ≠ some '0' then '0' :: digits else digits
  let opening :=
    if isSigned then fitting.sign (value < 0)
    else if isFull && base = 16 && magnitude ≠ 0 then ['0', letter]
    else []
  fitting.pad fitting.precision.isNone opening digits

/-- A number with a fraction as a conversion shows it. -/
def Fitting.showFloating (fitting : Fitting) (letter : Char) (number : Floating) : ByteText :=
  let isFinite := match number with
    | .finite _ _ _ => true
    | _ => false
  fitting.pad isFinite (fitting.sign number.isNegative)
    (number.unsignedText letter (fitting.flags.contains '#') (fitting.precision.getD 6))

/-!
# Printing in a format

Arguments are put into a format again and again until none is left.
-/

open Work

/-- The next argument, and the arguments after it. -/
def nextArgument (arguments : List ByteText) : ByteText × List ByteText :=
  (arguments.head?.getD [], arguments.drop 1)

/-- Complain about an argument that is no number. -/
def noteFault {α : Type} (number : ArgumentNumber α) : Work α := do
  if let some fault := number.fault then
    if (Text.after? "warning".toList fault).isSome then remark fault else complain fault
  return number.value

/-- The value of a width or a precision, and the arguments after it. -/
def resolveExtent (printer : Printer) (extent : Extent) (arguments : List ByteText) :
    Work (Option Int × List ByteText) := do
  match extent with
  | .missing => return (none, arguments)
  | .given value => return (some value, arguments)
  | .argument => do
      let (argument, rest) := nextArgument arguments
      return (some (← noteFault (signedOf printer argument)), rest)

/-- How an argument is put in, and the arguments after those that tell it. -/
def resolveFitting (printer : Printer) (conversion : Conversion) (arguments : List ByteText) :
    Work (Fitting × List ByteText) := do
  let (width, arguments) ← resolveExtent printer conversion.width arguments
  let (precision, arguments) ← resolveExtent printer conversion.precision arguments
  let width := width.getD 0
  let flags := if width < 0 then '-' :: conversion.flags else conversion.flags
  let precision := precision.bind fun value => if value < 0 then none else some value.toNat
  return (⟨flags, width.natAbs, precision⟩, arguments)

/-- Print an argument in the way that a conversion asks for. -/
def printArgument (printer : Printer) (conversion : Conversion) (fitting : Fitting)
    (argument : ByteText) : Work Unit := do
  let letter := conversion.letter
  if letter = 's' then
    print (fitting.showText argument)
  else if letter = 'c' then
    print (fitting.pad false [] [argument.head?.getD '\x00'])
  else if letter = 'q' then
    print (quotedIfNeeded argument)
  else if letter = 'b' then do
    let place := if printer = .shell then EscapePlace.shellText else .text
    let (text, how) := unescape place (printer = .tool) argument
    print (fitting.showText text)
    match how with
    | .atEnd => return ()
    | .early => stop
    | .broken fault => refuse fault
  else if letter ∈ floatingLetters then do
    print (fitting.showFloating letter (← noteFault (floatingOf printer argument)))
  else if letter = 'd' || letter = 'i' then do
    print (fitting.showInteger letter (← noteFault (signedOf printer argument)))
  else
    print (fitting.showInteger letter (← noteFault (unsignedOf printer argument)))

/-- Put arguments into the parts of a format; the answer is the arguments after them. -/
def fill (printer : Printer) : List FormatPart → List ByteText → Work (List ByteText)
  | [], arguments => return arguments
  | .text text :: parts, arguments => do
      print text
      fill printer parts arguments
  | .ending :: _, _ => stop
  | .fault text :: _, _ => refuse text (if printer = .shell then 2 else 1)
  | .conversion conversion :: parts, arguments => do
      let (fitting, arguments) ← resolveFitting printer conversion arguments
      let (argument, rest) := nextArgument arguments
      printArgument printer conversion fitting argument
      fill printer parts rest

/-- Put arguments into a format until none is left, or none is put in. -/
def fillAll (printer : Printer) (parts : List FormatPart) :
    Nat → List ByteText → Work (List ByteText)
  | 0, arguments => return arguments
  | steps + 1, arguments => do
      let rest ← fill printer parts arguments
      if rest.isEmpty || rest.length = arguments.length then
        return rest
      else
        fillAll printer parts steps rest

/-- Print the errors of a tool before its output. -/
def errorsFirst (tool : Tool) : Tool := fun call =>
  let outcome := tool call
  let (errors, output) := outcome.prints.partition Print.isError
  { outcome with prints := errors ++ output }

/-- Print arguments in a format as the shell itself does. -/
def shellPrintf : Tool := errorsFirst <| toTool do
  let given := (← read).arguments
  let arguments ← match given with
    | ['-', '-'] :: rest => pure rest
    | ('-' :: letter :: _) :: _ => refuse ("Illegal option -".toList ++ [letter]) 2
    | arguments => pure arguments
  match arguments with
  | [] => refuse "usage: printf format [arg ...]".toList 2
  | format :: arguments => do
      let parts := readFormat .shell (format.length + 1) format
      let _ ← fillAll .shell parts (arguments.length + 1) arguments

/-- Print arguments in a format. -/
def printf : Tool := toTool do
  let given := (← read).arguments
  let arguments := if given.head? = some ['-', '-'] then given.tail else given
  match arguments with
  | [] => misuse "missing operand".toList
  | format :: arguments => do
      let parts := readFormat .tool (format.length + 1) format
      let rest ← fillAll .tool parts (arguments.length + 1) arguments
      if let some first := rest.head? then
        remark ("warning: ignoring excess arguments, starting with ".toList ++ quoted first)

/-! ## Printing arguments

Arguments are printed with blanks between them.  The shell itself replaces escapes always, the tool
only if it is asked to.
-/

/-- Print arguments as the shell itself does. -/
def shellEcho : Tool := toTool do
  let (isOpen, arguments) :=
    match (← read).arguments with
    | ['-', 'n'] :: rest => (true, rest)
    | arguments => (false, arguments)
  let (text, how) := unescape .shellText false (Text.join ' ' arguments)
  print (if isOpen || how ≠ .atEnd then text else text ++ ['\n'])

/-- Whether an argument is made of letters of options for printing. -/
def isEchoOption (argument : ByteText) : Bool :=
  match argument with
  | '-' :: letters => !letters.isEmpty && letters.all fun c => c ∈ ['n', 'e', 'E']
  | _ => false

/-- Print arguments. -/
def echo : Tool := toTool do
  let arguments := (← read).arguments
  let letters := (arguments.takeWhile isEchoOption).flatten.filter (· ≠ '-')
  let text := Text.join ' ' (arguments.dropWhile isEchoOption)
  let replaces := (letters.filter (· ≠ 'n')).getLast? = some 'e'
  let (text, how) := if replaces then unescape .text false text else (text, .atEnd)
  print (if letters.contains 'n' || how ≠ .atEnd then text else text ++ ['\n'])

end Provision.Shell.Tool
