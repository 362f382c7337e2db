import Provision.Shell.Arithmetic
import Provision.Shell.ByteText
import Provision.Text.Decimal
import Provision.Text.Fields

namespace Provision.Shell.Tool

/-!
# Amounts

An amount is a number that may be followed by the letter of a unit.  Most letters stand for a power
of 1024, or of 1000 if a `B` follows.  Each tool has its own letters, and takes numbers up to some
size.
-/

/-- The power that the letter of a unit stands for. -/
def powerOf? (letter : Char) : Option Nat :=
  match letter with
  | 'k' | 'K' => some 1
  | 'm' | 'M' => some 2
  | 'g' | 'G' => some 3
  | 't' | 'T' => some 4
  | 'P' => some 5
  | 'E' => some 6
  | 'Z' => some 7
  | 'Y' => some 8
  | 'R' => some 9
  | 'Q' => some 10
  | _ => none

/-- A product of equal factors. -/
def power (factor : Nat) : Nat → Nat
  | 0 => 1
  | count + 1 => factor * power factor count

/-- Why a text is no amount. -/
inductive AmountFault where
  | invalid
  | tooLarge
  deriving Repr, DecidableEq

/-- What is said after a text that is no amount. -/
def AmountFault.remark : AmountFault → ByteText
  | .invalid => []
  | .tooLarge => ": Value too large for defined data type".toList

/-- The value of the letter of a unit without more. -/
def plainUnit? (letter : Char) : Option Nat :=
  match letter with
  | 'b' => some 512
  | 'B' => some 1024
  | 'c' => some 1
  | 'w' => some 2
  | letter => (powerOf? letter).map (power 1024)

/-- The value of a unit, of which the letters are among those that are known. -/
def unit? (letters : List Char) (text : ByteText) : Option Nat :=
  match text with
  | [] => some 1
  | letter :: rest =>
      let allowed := if letters.contains letter then some letter else none
      match rest with
      | [] => allowed.bind plainUnit?
      | ['B'] | ['D'] => (allowed.bind powerOf?).map (power 1000)
      | ['i', 'B'] => (allowed.bind powerOf?).map (power 1024)
      | _ => none

/-- The largest number that fits in a word. -/
def maxWord : Nat := 0xffffffffffffffff

/-- The amount that a text stands for, with the letters of a tool. -/
def readAmount (letters : List Char) (text : ByteText) (most : Nat := maxWord) :
    Except AmountFault Nat := do
  let text := text.dropWhile ByteText.isBlank
  let text := if text.head? = some '+' then text.tail else text
  let digits := text.takeWhile Char.isDigit
  match Text.decimal? digits, unit? letters (text.drop digits.length) with
  | some number, some unit =>
      if number ≤ maxWord && number * unit ≤ most then .ok (number * unit) else .error .tooLarge
  | none, some unit =>
      if text.isEmpty then .error .invalid
      else if unit ≤ most then .ok unit
      else .error .tooLarge
  | _, none => .error .invalid

/-- The letters of units for counts of lines and bytes. -/
def countUnits : List Char :=
  ['b', 'k', 'K', 'm', 'M', 'G', 'T', 'P', 'E', 'Z', 'Y', 'R', 'Q']

/-- The letters of units for sizes of files. -/
def sizeUnits : List Char :=
  ['E', 'g', 'G', 'k', 'K', 'm', 'M', 'P', 'Q', 'R', 't', 'T', 'Y', 'Z']

/-- The letters of units for parts of contents. -/
def partUnits : List Char :=
  ['b', 'E', 'G', 'K', 'k', 'M', 'm', 'P', 'Q', 'R', 'T', 'Y', 'Z']

/-!
# Showing magnitudes

A number of bytes is shown in a unit, rounded up, or in the largest unit that it reaches, with one
digit after the point if there is only one before it.
-/

/-- How numbers of bytes are shown. -/
structure Scale where
  unit : Nat := 1
  isAdaptive : Bool := false
  base : Nat := 1024
  hasLetter : Bool := false
  namesByte : Bool := false

/-- The scale of whole units. -/
def Scale.ofUnit (unit : Nat) : Scale :=
  { unit }

/-- The scale that adapts to a number and counts in powers of a base. -/
def Scale.adaptive (base : Nat) : Scale :=
  { isAdaptive := true, base, hasLetter := true }

/-- The letters of powers. -/
def powerLetters : List Char :=
  ['K', 'M', 'G', 'T', 'P', 'E', 'Z', 'Y', 'R', 'Q']

/-- The letter of a power of a base, if it has one. -/
def powerLetter? (base exponent : Nat) : Option Char :=
  if exponent = 0 then none
  else if exponent = 1 && base = 1000 then some 'k'
  else powerLetters[exponent - 1]?

/-- The largest power of a base that is not above a number; the first argument bounds it. -/
def powerBelow (base number : Nat) : Nat → Nat
  | 0 => 0
  | most + 1 =>
      if power base (most + 1) ≤ number then most + 1 else powerBelow base number most

/-- A quotient that is rounded up. -/
def quotientUp (number divisor : Nat) : Nat :=
  (number + divisor - 1) / divisor

/-- A number with a letter for the power of the base that it reaches. -/
def adaptiveText (base number : Nat) : ByteText :=
  let exponent := powerBelow base number powerLetters.length
  let unit := power base exponent
  if exponent = 0 then
    ByteText.ofNat number
  else
    let tenths := quotientUp (10 * number) unit
    let whole := quotientUp number unit
    if number < 10 * unit && tenths < 100 then
      ByteText.ofNat (tenths / 10) ++ '.' :: ByteText.ofNat (tenths % 10) ++
        (powerLetter? base exponent).toList
    else if whole = base && exponent < powerLetters.length then
      "1.0".toList ++ (powerLetter? base (exponent + 1)).toList
    else
      ByteText.ofNat whole ++ (powerLetter? base exponent).toList

/-- The power of the base that the unit of a scale is. -/
def Scale.exponent (scale : Scale) : Nat :=
  ((List.range (powerLetters.length + 1)).find? fun exponent =>
    scale.unit ≤ power scale.base exponent).getD powerLetters.length

/-- A number of bytes on a scale. -/
def Scale.show (scale : Scale) (bytes : Nat) : ByteText :=
  let byteMark := if !scale.namesByte then []
    else if scale.base = 1024 && scale.exponent > 0 then ['i', 'B'] else ['B']
  if scale.isAdaptive then adaptiveText scale.base bytes
  else
    ByteText.ofNat (quotientUp bytes scale.unit) ++
      (if scale.hasLetter then (powerLetter? scale.base scale.exponent).toList else []) ++ byteMark

/-- Why a text gives no scale. -/
inductive ScaleFault where
  | invalid
  | suffix
  | tooLarge
  deriving Repr, DecidableEq

/-- The letters of units that a scale may have. -/
def scaleUnits : List Char :=
  ['E', 'g', 'G', 'k', 'K', 'm', 'M', 'P', 't', 'T', 'Y', 'Z']

/-- The scale that a text gives. -/
def Scale.read (text : ByteText) : Except ScaleFault Scale :=
  let text := if text.head? = some '\'' then text.tail else text
  let hasDigits := text.any Char.isDigit
  if text = "human-readable".toList then
    .ok (.adaptive 1024)
  else if text = "si".toList then
    .ok (.adaptive 1000)
  else
    match readAmount scaleUnits text with
    | .error .tooLarge => .error .tooLarge
    | .error .invalid => .error (if text.head?.any Char.isDigit then .suffix else .invalid)
    | .ok 0 => .error .invalid
    | .ok unit =>
        let namesByte := text.getLast? = some 'B'
        let base := if namesByte && !text.contains 'i' then 1000 else 1024
        .ok { unit, base, hasLetter := !hasDigits, namesByte := namesByte && !hasDigits }

/-- The wording of a text that gives no scale. -/
def ScaleFault.message (fault : ScaleFault) (text : ByteText) : ByteText :=
  let name := "--block-size argument ".toList ++ ['\''] ++ text ++ ['\'']
  match fault with
  | .invalid => "invalid ".toList ++ name
  | .suffix => "invalid suffix in ".toList ++ name
  | .tooLarge => name ++ " too large".toList

/-- The scale of rooms that the environment asks for. -/
def Scale.ofEnvironment (names : List String) (environment : List (ByteText × ByteText)) :
    Option Scale :=
  (names.findSome? fun name => environment.lookup name.toList).bind fun text =>
    (Scale.read text).toOption

end Provision.Shell.Tool

namespace Provision.Shell.Tool

/-!
# Numbers with fractions

A number is read from its decimal digits and rounded to as many binary digits as are kept of it;
what is halfway between two numbers goes to the even one.  It is printed exactly up to the wanted
number of digits, and rounded there in the same way.
-/

/-- A number: a sign and a fraction of natural numbers, or what is no number in that sense. -/
inductive Floating where
  | finite (isNegative : Bool) (numerator denominator : Nat)
  | infinite (isNegative : Bool)
  | none (isNegative : Bool)
  deriving Repr, DecidableEq

/-- A quotient that is rounded to the nearest natural number, and to the even one in the middle. -/
def roundedQuotient (numerator denominator : Nat) : Nat :=
  let quotient := numerator / denominator
  let twice := 2 * (numerator % denominator)
  if twice > denominator || (twice = denominator && quotient % 2 = 1) then quotient + 1
  else quotient

/-- The highest power of ten that is taken into account. -/
def maxExponent : Nat := 6000

namespace Floating

/-- A fraction rounded to a number of binary digits. -/
def rounded (bits : Nat) (isNegative : Bool) (numerator denominator : Nat) : Floating :=
  if numerator = 0 then
    .finite isNegative 0 1
  else
    let size := numerator.log2 + 1
    let other := denominator.log2 + 1
    -- The quotient has as many binary digits as wanted, or one more.
    let up := bits + other - size
    let down := size - (bits + other)
    let scaled := numerator * power 2 up
    let divisor := denominator * power 2 down
    let extra := (scaled / divisor).log2 + 1 - bits
    let mantissa := roundedQuotient scaled (divisor * power 2 extra)
    .finite isNegative (mantissa * power 2 (down + extra)) (power 2 up)

/-- The digits of a base at the start of a text with a point among them: value, scale, rest. -/
def readDigits (base : Nat) (text : ByteText) : Option (Nat × Nat × ByteText) :=
  let isDigit := fun c => (Expression.digit? base c).isSome
  let whole := text.takeWhile isDigit
  let rest := text.drop whole.length
  let (part, after) :=
    match rest with
    | '.' :: rest => (rest.takeWhile isDigit, rest.dropWhile isDigit)
    | rest => ([], rest)
  if whole.isEmpty && part.isEmpty then
    Option.none
  else
    some ((Expression.readDigits base 0 (whole ++ part)).1, part.length, after)

/-- The exponent after a letter at the start of a text, and the text after it. -/
def readExponent (letter : Char) (text : ByteText) : Int × ByteText :=
  match text with
  | c :: rest =>
      if c.toLower = letter then
        let (isNegative, digits) :=
          match rest with
          | '-' :: digits => (true, digits)
          | '+' :: digits => (false, digits)
          | digits => (false, digits)
        match Text.decimal? (digits.takeWhile Char.isDigit) with
        | some value =>
            let bounded : Nat := min value maxExponent
            (if isNegative then -bounded else bounded, digits.dropWhile Char.isDigit)
        | Option.none => (0, text)
      else
        (0, text)
  | [] => (0, [])

/-- A value with a scale and an exponent of a base as a number. -/
def ofScaled (bits base value : Nat) (isNegative : Bool) (exponent : Int) : Floating :=
  if exponent < 0 then
    rounded bits isNegative value (power base exponent.natAbs)
  else
    rounded bits isNegative (value * power base exponent.natAbs) 1

/-- The words for what is no number in the usual sense. -/
def readWord? (isNegative : Bool) (text : ByteText) : Option (Floating × ByteText) :=
  let lower := text.map Char.toLower
  let after := fun (word : String) =>
    (Text.after? word.toList lower).map fun rest => text.drop (text.length - rest.length)
  match after "infinity", after "inf", after "nan" with
  | some rest, _, _ => some (.infinite isNegative, rest)
  | Option.none, some rest, _ => some (.infinite isNegative, rest)
  | Option.none, Option.none, some rest => some (.none isNegative, rest)
  | _, _, _ => Option.none

/-- The number at the start of a text, kept to a number of binary digits, and the text after it. -/
def read? (bits : Nat) (text : ByteText) : Option (Floating × ByteText) :=
  let (isNegative, digits) :=
    match text.dropWhile ByteText.isBlank with
    | '-' :: rest => (true, rest)
    | '+' :: rest => (false, rest)
    | rest => (false, rest)
  let decimal := do
    let (value, scale, rest) ← readDigits 10 digits
    let (exponent, rest) := readExponent 'e' rest
    return (ofScaled bits 10 value isNegative (exponent - scale), rest)
  let hexadecimal := do
    let inner ← match digits with
      | '0' :: x :: inner => if x.toLower = 'x' then some inner else Option.none
      | _ => Option.none
    let (value, scale, rest) ← readDigits 16 inner
    let (exponent, rest) := readExponent 'p' rest
    return (ofScaled bits 2 value isNegative (exponent - 4 * scale), rest)
  hexadecimal.orElse fun _ => decimal.orElse fun _ => readWord? isNegative digits

/-- Whether a number has a sign in front of it. -/
def isNegative : Floating → Bool
  | .finite sign _ _ => sign
  | .infinite sign => sign
  | .none sign => sign

/-! ## Printing -/

/-- The digits of a natural number, at least so many. -/
def digitsAtLeast (count value : Nat) : ByteText :=
  let digits := ByteText.ofNat value
  List.replicate (count - digits.length) '0' ++ digits

/-- A fraction with a number of digits after the point. -/
def fixed (keepsPoint : Bool) (precision numerator denominator : Nat) : ByteText :=
  let value := roundedQuotient (numerator * power 10 precision) denominator
  let digits := digitsAtLeast (precision + 1) value
  let whole := digits.take (digits.length - precision)
  let part := digits.drop (digits.length - precision)
  whole ++ (if part.isEmpty && !keepsPoint then [] else ['.']) ++ part

/-- The power of ten of the first digit of a fraction that is not zero. -/
def tenPower (numerator denominator : Nat) : Int :=
  let whole := numerator / denominator
  if whole > 0 then
    (ByteText.ofNat whole).length - 1
  else
    -- One over the fraction has about as many digits as there are zeros after the point.
    let zeros := (ByteText.ofNat (denominator / numerator)).length
    if numerator * power 10 (zeros - 1) ≥ denominator then 1 - (zeros : Int) else -(zeros : Int)

/-- The digits of a fraction, so many after the first one, and the power of ten of the first one. -/
def scientific (precision numerator denominator : Nat) : Nat × Int :=
  if numerator = 0 then
    (0, 0)
  else
    let ten := tenPower numerator denominator
    let shift := (precision : Int) - ten
    let value :=
      if shift < 0 then roundedQuotient numerator (denominator * power 10 shift.natAbs)
      else roundedQuotient (numerator * power 10 shift.natAbs) denominator
    if value ≥ power 10 (precision + 1) then (value / 10, ten + 1) else (value, ten)

/-- An exponent with its sign and at least two digits. -/
def exponentText (letter : Char) (exponent : Int) : ByteText :=
  letter :: (if exponent < 0 then '-' else '+') :: digitsAtLeast 2 exponent.natAbs

/-- A fraction with one digit before the point and an exponent. -/
def withExponent (keepsPoint : Bool) (letter : Char) (precision numerator denominator : Nat) :
    ByteText :=
  let (value, ten) := scientific precision numerator denominator
  let digits := digitsAtLeast (precision + 1) value
  let point := if precision = 0 && !keepsPoint then [] else ['.']
  digits.take 1 ++ point ++ digits.drop 1 ++ exponentText letter ten

/-- A number text without zeros at the end of the digits after its point. -/
def withoutZeros (text : ByteText) : ByteText :=
  let (digits, exponent) := (text.takeWhile (·.toLower ≠ 'e'), text.dropWhile (·.toLower ≠ 'e'))
  if digits.contains '.' then
    let trimmed := digits.reverse.dropWhile (· = '0')
    (trimmed.dropWhile (· = '.')).reverse ++ exponent
  else
    text

/-- A fraction in the shorter of both ways. -/
def general (keepsZeros : Bool) (letter : Char) (precision numerator denominator : Nat) :
    ByteText :=
  let count := if precision = 0 then 1 else precision
  let (_, ten) := scientific (count - 1) numerator denominator
  let text :=
    if ten < -4 || (count : Int) ≤ ten then
      withExponent keepsZeros letter (count - 1) numerator denominator
    else
      fixed keepsZeros ((count : Int) - 1 - ten).toNat numerator denominator
  if keepsZeros then text else withoutZeros text

/-- The text of a number without its sign, in the way that a letter stands for. -/
def unsignedText (letter : Char) (isFull : Bool) (precision : Nat) : Floating → ByteText
  | .infinite _ => (if letter.isUpper then "INF" else "inf").toList
  | .none _ => (if letter.isUpper then "NAN" else "nan").toList
  | .finite _ numerator denominator =>
      let exponentLetter := if letter.isUpper then 'E' else 'e'
      match letter.toLower with
      | 'e' => withExponent isFull exponentLetter precision numerator denominator
      | 'g' => general isFull exponentLetter precision numerator denominator
      | _ => fixed isFull precision numerator denominator

end Floating

end Provision.Shell.Tool
