import Provision.Shell.Tool.Format
import Provision.Shell.Tool.Options
import Provision.Text.Decimal

namespace Provision.Shell.Tool

/-!
# Ranges of numbers

A range goes from a first number in equal steps to a last one.  Its numbers are fractions that are
added exactly and printed with as many digits after the point as the first number and the step have.
-/

open Work

/-- A fraction of which the denominator is not zero. -/
structure Fraction where
  numerator : Int
  denominator : Nat
  deriving Repr, DecidableEq

namespace Fraction

/-- The sum of a fraction and a multiple of another one. -/
def plus (a : Fraction) (count : Nat) (b : Fraction) : Fraction :=
  ⟨a.numerator * b.denominator + count * b.numerator * a.denominator,
    a.denominator * b.denominator⟩

/-- Whether a fraction is less than another one. -/
def less (a b : Fraction) : Bool :=
  a.numerator * b.denominator < b.numerator * a.denominator

/-- A fraction as a number that can be printed. -/
def toFloating (a : Fraction) : Floating :=
  .finite (a.numerator < 0) a.numerator.natAbs a.denominator

/-- The fraction that a value is when its point is moved. -/
def ofScaled (isNegative : Bool) (base value : Nat) (exponent : Int) : Fraction :=
  let signed : Int := if isNegative then -value else value
  if exponent < 0 then ⟨signed, power base exponent.natAbs⟩
  else ⟨signed * power base exponent.natAbs, 1⟩

end Fraction

/-- A bound of a range: a fraction or nothing, with the digits after its point and its width. -/
structure Bound where
  value? : Option Fraction
  isNegative : Bool := false
  precision : Option Nat
  width : Nat

/-- The width that a number has when it is printed in full, from the text with its exponent. -/
def widthOf (text : ByteText) : Nat :=
  let digits := text.takeWhile (·.toLower ≠ 'e')
  let exponent := (Floating.readExponent 'e' (text.drop digits.length)).1
  let (whole, part) := (Text.cut? '.' digits).getD (digits, [])
  let sign := if whole.head? = some '-' then 1 else 0
  let whole := whole.length - sign
  let after := ((part.length : Int) - exponent).toNat
  let before := max 1 ((whole : Int) + exponent).toNat
  sign + before + (if after = 0 then 0 else after + 1)

/-- The bound that a text stands for, if it is a number. -/
def bound? (text : ByteText) : Option Bound :=
  let text := text.dropWhile fun c => ByteText.isBlank c || c = '+'
  let (isNegative, digits) :=
    match text with
    | '-' :: rest => (true, rest)
    | rest => (false, rest)
  match digits, Floating.readWord? isNegative digits with
  | _, some (.infinite isNegative, []) => some ⟨none, isNegative, none, text.length⟩
  | '0' :: 'x' :: inner, _ => do
      let (value, scale, rest) ← Floating.readDigits 16 inner
      let (exponent, rest) := Floating.readExponent 'p' rest
      let value := Fraction.ofScaled isNegative 2 value (exponent - 4 * scale)
      let precision := if text.any fun c => c = '.' || c = 'p' then none else some 0
      if rest.isEmpty then some ⟨some value, isNegative, precision, text.length⟩ else none
  | digits, _ => do
      let (value, scale, rest) ← Floating.readDigits 10 digits
      let (exponent, rest) := Floating.readExponent 'e' rest
      let precision := ((scale : Int) - exponent).toNat
      let value := Fraction.ofScaled isNegative 10 value (exponent - scale)
      if rest.isEmpty then some ⟨some value, isNegative, some precision, widthOf text⟩ else none

/-- The bound that an operand gives, or else a refusal. -/
def requireBound (operand : ByteText) : Work Bound := do
  let isWord := (Floating.readWord? false (operand.dropWhile (· = '-'))).isSome
  match bound? operand with
  | some found => return found
  | none =>
      if isWord then misuse ("invalid 'not-a-number' argument: ".toList ++ quoted operand)
      else misuse ("invalid floating point argument: ".toList ++ quoted operand)

/-- How numbers are shown: a conversion between two texts. -/
structure NumberFormat where
  before : ByteText := []
  fitting : Fitting := ⟨[], 0, none⟩
  letter : Char
  after : ByteText := []

/-- A text with each pair of percent signs made one, up to a percent sign that stands alone. -/
def takeLiteral : ByteText → ByteText × Option ByteText
  | [] => ([], none)
  | '%' :: '%' :: rest =>
      let (taken, after) := takeLiteral rest
      ('%' :: taken, after)
  | '%' :: rest => ([], some rest)
  | c :: rest =>
      let (taken, after) := takeLiteral rest
      (c :: taken, after)

/-- The format that a text gives, or why it gives none. -/
def NumberFormat.read (text : ByteText) : Except ByteText NumberFormat := do
  let fault := fun (reason : ByteText) => "format ".toList ++ quoted text ++ ' ' :: reason
  match takeLiteral text with
  | (_, none) => throw (fault "has no % directive".toList)
  | (before, some rest) =>
      let flags := rest.takeWhile fun c => c ∈ ['-', '+', '#', '0', ' ', '\'']
      let rest := rest.drop flags.length
      let width := rest.takeWhile Char.isDigit
      let rest := rest.drop width.length
      let (precision, rest) :=
        match rest with
        | '.' :: rest => (some (rest.takeWhile Char.isDigit), rest.dropWhile Char.isDigit)
        | rest => (none, rest)
      let rest := if rest.head? = some 'L' then rest.tail else rest
      match rest with
      | [] => throw (fault "ends in %".toList)
      | letter :: rest =>
          if letter ∉ ['e', 'f', 'g', 'E', 'F', 'G'] then
            throw (fault ("has unknown %".toList ++ [letter] ++ " directive".toList))
          else
            match takeLiteral rest with
            | (_, some _) => throw (fault "has too many % directives".toList)
            | (after, none) =>
                let number := fun digits => (Text.decimal? digits).getD 0
                return ⟨before, ⟨flags, number width, precision.map number⟩, letter, after⟩

/-- The format in which a range is shown unless another one is given. -/
def rangeFormat (isEqualWidth : Bool) (first step last : Bound) : NumberFormat :=
  match first.precision, step.precision, last.precision with
  | some a, some b, some c =>
      let precision := max a b
      let point := fun own => if own = 0 && precision > 0 then 1 else 0
      let firstWidth := first.width + (precision - a) + point a
      let lastWidth := last.width + precision + point c - c -
        (if c > 0 && precision = 0 then 1 else 0)
      let width := if isEqualWidth then max firstWidth lastWidth else 0
      { letter := 'f', fitting := ⟨['0'], width, some precision⟩ }
  | _, _, _ => { letter := 'g' }

/-- A number in a format. -/
def NumberFormat.text (format : NumberFormat) (number : Fraction) : ByteText :=
  format.before ++ format.fitting.showFloating format.letter number.toFloating ++ format.after

/-- How many numbers are printed at most of a range without an end. -/
def maxNumbers : Nat := 300000

/-- The numbers of a range; the first argument bounds the steps. -/
def rangeFrom (first step : Fraction) (last : Bound) : Nat → Nat → List Fraction
  | 0, _ => []
  | steps + 1, count =>
      let number := first.plus count step
      let isPast :=
        match last.value? with
        | some last => if step.numerator < 0 then number.less last else last.less number
        | none => last.isNegative != (step.numerator < 0 : Bool)
      if isPast then [] else number :: rangeFrom first step last steps (count + 1)

/-- Numbers in front are operands, even if they start with a dash. -/
def markNumbers : List ByteText → List ByteText
  | [] => []
  | argument :: rest =>
      match argument with
      | ['-', '-'] => argument :: rest
      | '-' :: c :: _ =>
          if c.isDigit || c = '.' then ['-', '-'] :: argument :: rest
          else
            match argument, rest with
            | ['-', 's'], value :: rest => argument :: value :: markNumbers rest
            | ['-', 'f'], value :: rest => argument :: value :: markNumbers rest
            | _, rest => argument :: markNumbers rest
      | _ => argument :: rest

/-- Print a range of numbers. -/
def seq : Tool := fun call => toTool (do
  let arguments ← arguments
    [valued 'f' "format", valued 's' "separator", flag 'w' "equal-width"] true
  requireOperands arguments
  refuseMore 3 arguments
  let format? ← (arguments.value? "format").mapM fun text => do
    match NumberFormat.read text with
    | .ok format => return format
    | .error fault => refuse fault
  let isEqualWidth := arguments.has "equal-width"
  if format?.isSome && isEqualWidth then
    misuse "format string may not be specified when printing equal width strings".toList
  let one : Bound := ⟨some ⟨1, 1⟩, false, some 0, 1⟩
  let bounds ← arguments.operands.mapM requireBound
  let (first, step, last) :=
    match bounds with
    | [first, last] => (first, one, last)
    | [first, step, last] => (first, step, last)
    | bounds => (one, one, bounds.head?.getD one)
  match first.value?, step.value? with
  | some start, some distance => do
      if distance.numerator = 0 then
        misuse ("invalid Zero increment value: ".toList ++ quoted (arguments.operands[1]?.getD []))
      let format := format?.getD (rangeFormat isEqualWidth first step last)
      let separator := (arguments.value? "separator").getD ['\n']
      match rangeFrom start distance last maxNumbers 0 with
      | [] => return ()
      | numbers => printLine (separator.intercalate (numbers.map format.text))
  | _, _ => return ()) { call with arguments := markNumbers call.arguments }

/-!
# Prime factors

Small factors are found by trying all numbers up to a bound.  What is left is tested for being a
prime by powers of some bases, and split by the cycles of a sequence of remainders otherwise.
-/

/-! ## Primes -/

/-- A power of a number with respect to a modulus; the first argument bounds the exponent's bits. -/
def powerModulo (modulus : Nat) : Nat → Nat → Nat → Nat
  | 0, _, _ => 1 % modulus
  | bits + 1, base, exponent =>
      if exponent = 0 then 1 % modulus
      else
        let root := powerModulo modulus bits (base * base % modulus) (exponent / 2)
        if exponent % 2 = 0 then root else root * base % modulus

/-- Whether one of some repeated squares is the number below the modulus. -/
def reachesLast (modulus : Nat) : Nat → Nat → Bool
  | 0, _ => false
  | squarings + 1, value =>
      value + 1 = modulus || reachesLast modulus squarings (value * value % modulus)

/-- How often a number can be halved, with what is left then; the first argument bounds that. -/
def halvings : Nat → Nat → Nat × Nat
  | 0, number => (0, number)
  | steps + 1, number =>
      if number = 0 || number % 2 = 1 then (0, number)
      else
        let (count, odd) := halvings steps (number / 2)
        (count + 1, odd)

/-- The bases that are tried in a test for primes. -/
def testBases : List Nat :=
  [2, 3, 5, 7, 11, 13, 17, 19, 23, 29, 31, 37, 41, 43, 47, 53, 59, 61, 67, 71]

/-- Whether an odd number passes for a prime with all bases. -/
def passesForPrime (number : Nat) : Bool :=
  let (count, odd) := halvings number.log2 (number - 1)
  testBases.all fun base =>
    let value := powerModulo number (number.log2 + 1) (base % number) odd
    base % number = 0 || value = 1 || reachesLast number count value

/-! ## Splitting -/

/-- The bound of the factors that are found by trying. -/
def triedBound : Nat := 1000

/-- Split off the factors of a number from a factor on; the first argument bounds the tries. -/
def triedFactors : Nat → Nat → Nat → List Nat × Nat
  | 0, _, number => ([], number)
  | steps + 1, factor, number =>
      if number < factor * factor then
        (if 1 < number then [number] else [], 1)
      else if number % factor = 0 then
        let (others, rest) := triedFactors steps factor (number / factor)
        (factor :: others, rest)
      else
        triedFactors steps (if factor = 2 then 3 else factor + 2) number

/--
A divisor that the cycle of a sequence of remainders gives away, if it is found in the given number
of steps: one runner goes through the sequence twice as fast as the other one.
-/
def cycleDivisor? (number offset : Nat) : Nat → Nat → Nat → Option Nat
  | 0, _, _ => none
  | steps + 1, slow, fast =>
      let next := fun (value : Nat) => (value * value + offset) % number
      let slow := next slow
      let fast := next (next fast)
      let divisor := Nat.gcd (if slow ≤ fast then fast - slow else slow - fast) number
      if divisor = number then none
      else if 1 < divisor then some divisor
      else cycleDivisor? number offset steps slow fast

/-- The steps that are made before another sequence is tried. -/
def cycleSteps : Nat := 0x200000

/-- A divisor of a number that is no prime; the first argument bounds the sequences tried. -/
def divisor? (number : Nat) : Nat → Nat → Option Nat
  | 0, _ => none
  | tries + 1, offset =>
      match cycleDivisor? number offset cycleSteps 2 2 with
      | some divisor => some divisor
      | none => divisor? number tries (offset + 1)

/-- The prime factors of a number without small ones; the first argument bounds the splittings. -/
def largeFactors : Nat → Nat → List Nat
  | 0, number => [number]
  | steps + 1, number =>
      if number ≤ 1 then []
      else if passesForPrime number then [number]
      else
        match divisor? number 5 1 with
        | some divisor => largeFactors steps divisor ++ largeFactors steps (number / divisor)
        | none => [number]

/-- The prime factors of a number in order. -/
def primeFactors (number : Nat) : List Nat :=
  if number = 0 then []
  else
    let (small, rest) := triedFactors (triedBound / 2 + number.log2) 2 number
    small ++ (largeFactors (rest.log2 + 1) rest).mergeSort

/-! ## Telling factors -/

/-- The number that a text stands for, with blanks and a plus sign allowed in front. -/
def factoredNumber? (text : ByteText) : Option Nat :=
  Text.decimal? (Text.dropOne '+' (text.dropWhile (· = ' ')))

/-- Factors of which equal ones are written as powers. -/
def powersOf (factors : List Nat) : List ByteText :=
  factors.eraseDups.map fun factor =>
    let count := factors.count factor
    ByteText.ofNat factor ++ if count = 1 then [] else '^' :: ByteText.ofNat count

/-- The number of bytes of lines that are kept before some of them are printed. -/
def keptBytes : Nat := 512

/-- Print lines that have been kept, as far as there are enough of them; the answer is the rest. -/
def printKept (kept : ByteText) : Work ByteText := do
  if kept.length < keptBytes then
    return kept
  else
    let part := ((kept.take keptBytes).reverse.dropWhile (· ≠ '\n')).reverse
    print part
    return kept.drop part.length

/-- Tell a number and its factors; lines of numbers that are not too large are kept for a while. -/
def tellFactors (usesPowers : Bool) (kept text : ByteText) : Work ByteText := do
  match factoredNumber? text with
  | none => do
      complain (quoted text ++ " is not a valid positive integer".toList)
      return kept
  | some number =>
      let factors := primeFactors number
      let shown := if usesPowers then powersOf factors else factors.map ByteText.ofNat
      let line := ByteText.ofNat number ++ ':' :: shown.flatMap (fun factor => ' ' :: factor) ++
        ['\n']
      if number.log2 < 127 then
        printKept (kept ++ line)
      else do
        print line
        return kept

/-- Print the prime factors of numbers, which are words of the input if none are given. -/
def factor : Tool := toTool do
  let arguments ← arguments [flag 'h' "exponents"]
  let texts ←
    if arguments.operands.isEmpty then do
      let input ← takeInput
      let spaced := input.map fun c => if c = '\n' || c = '\t' then ' ' else c
      pure ((Text.fields ' ' spaced).filter (!·.isEmpty))
    else
      pure arguments.operands
  print (← texts.foldlM (tellFactors (arguments.has "exponents")) [])

end Provision.Shell.Tool
