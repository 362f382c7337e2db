namespace Provision.Json

/-!
# JSON as it is written

A term keeps the written form of a JSON value: the units of its strings and the digits of its
numerals.  What a string or a numeral stands for is decided by whoever reads the term, so a part
that nobody asks for only has to be well formed.
-/

/-- One unit of a written string: a character, or a code unit given by its number. -/
inductive StringUnit where
  | char (c : Char)
  | code (unit : Nat)
  deriving Repr, DecidableEq

/-- A written number: its digits before and after the point, and its exponent with a sign. -/
structure Numeral where
  isNegative : Bool
  whole : List Char
  fraction : Option (List Char)
  exponent : Option (Bool × List Char)
  deriving Repr, DecidableEq

/-- A JSON value as it is written. -/
inductive Term where
  | null
  | truth (value : Bool)
  | numeral (written : Numeral)
  | string (units : List StringUnit)
  | array (items : List Term)
  | object (members : List (List StringUnit × Term))

/-! ## Reading a term -/

/-- Whether a character may stand between the parts of a term. -/
def isGap (c : Char) : Bool :=
  c = ' ' || c = '\n' || c = '\t' || c = '\r'

/-- Skip what may stand between the parts of a term. -/
def skipGap (text : List Char) : List Char :=
  text.dropWhile isGap

/-- The value of a hexadecimal digit. -/
def hexDigit? (c : Char) : Option Nat :=
  if c.isDigit then some (c.toNat - '0'.toNat)
  else if 'a' ≤ c && c ≤ 'f' then some (c.toNat - 'a'.toNat + 10)
  else if 'A' ≤ c && c ≤ 'F' then some (c.toNat - 'A'.toNat + 10)
  else none

/-- The value of four hexadecimal digits. -/
def hexUnit? (a b c d : Char) : Option Nat := do
  return (((← hexDigit? a) * 16 + (← hexDigit? b)) * 16 + (← hexDigit? c)) * 16 + (← hexDigit? d)

/-- The character that stands after a backslash for another one. -/
def escaped? (c : Char) : Option Char :=
  match c with
  | '"' => some '"'
  | '\\' => some '\\'
  | '/' => some '/'
  | 'b' => some '\x08'
  | 'f' => some '\x0c'
  | 'n' => some '\n'
  | 'r' => some '\r'
  | 't' => some '\t'
  | _ => none

/-- The units of a string up to its closing quote, and the text after it. -/
def readString? : List Char → Option (List StringUnit × List Char)
  | [] => none
  | '"' :: rest => some ([], rest)
  | '\\' :: 'u' :: a :: b :: c :: d :: rest => do
      let unit ← hexUnit? a b c d
      let (units, rest) ← readString? rest
      return (.code unit :: units, rest)
  | '\\' :: c :: rest => do
      let c ← escaped? c
      let (units, rest) ← readString? rest
      return (.char c :: units, rest)
  | c :: rest =>
      if c < ' ' then
        none
      else do
        let (units, rest) ← readString? rest
        return (.char c :: units, rest)

/-- A non-empty run of digits and the text after it. -/
def readDigits? (text : List Char) : Option (List Char × List Char) :=
  match text.takeWhile Char.isDigit with
  | [] => none
  | digits => some (digits, text.dropWhile Char.isDigit)

/-- The digits before the point, which start with a zero only if that is all. -/
def readWhole? (text : List Char) : Option (List Char × List Char) :=
  match readDigits? text with
  | some ('0' :: _ :: _, _) => none
  | found => found

/-- The digits after a point, if there is a point. -/
def readFraction? : List Char → Option (Option (List Char) × List Char)
  | '.' :: rest => (readDigits? rest).map fun (digits, rest) => (some digits, rest)
  | text => some (none, text)

/-- The sign of an exponent, true for a minus. -/
def readSign : List Char → Bool × List Char
  | '-' :: rest => (true, rest)
  | '+' :: rest => (false, rest)
  | text => (false, text)

/-- The exponent, if there is one. -/
def readExponent? : List Char → Option (Option (Bool × List Char) × List Char)
  | [] => some (none, [])
  | c :: rest =>
      if c = 'e' || c = 'E' then
        let (isNegative, rest) := readSign rest
        (readDigits? rest).map fun (digits, rest) => (some (isNegative, digits), rest)
      else
        some (none, c :: rest)

/-- A numeral after its sign. -/
def readNumeral? (isNegative : Bool) (text : List Char) : Option (Numeral × List Char) := do
  let (whole, text) ← readWhole? text
  let (fraction, text) ← readFraction? text
  let (exponent, text) ← readExponent? text
  return (⟨isNegative, whole, fraction, exponent⟩, text)

mutual

/-- A term at the start of a text and the text after it; the first argument bounds the steps. -/
def readTerm? : Nat → List Char → Option (Term × List Char)
  | 0, _ => none
  | steps + 1, text =>
      match skipGap text with
      | 'n' :: 'u' :: 'l' :: 'l' :: rest => some (.null, rest)
      | 't' :: 'r' :: 'u' :: 'e' :: rest => some (.truth true, rest)
      | 'f' :: 'a' :: 'l' :: 's' :: 'e' :: rest => some (.truth false, rest)
      | '"' :: rest => (readString? rest).map fun (units, rest) => (.string units, rest)
      | '-' :: rest =>
          (readNumeral? true rest).map fun (written, rest) => (.numeral written, rest)
      | '[' :: rest =>
          match skipGap rest with
          | ']' :: rest => some (.array [], rest)
          | rest => (readItems? steps rest).map fun (items, rest) => (.array items, rest)
      | '\x7b' :: rest =>
          match skipGap rest with
          | '\x7d' :: rest => some (.object [], rest)
          | rest => (readMembers? steps rest).map fun (members, rest) => (.object members, rest)
      | text => (readNumeral? false text).map fun (written, rest) => (.numeral written, rest)

/-- The items of an array up to its closing bracket. -/
def readItems? : Nat → List Char → Option (List Term × List Char)
  | 0, _ => none
  | steps + 1, text => do
      let (item, rest) ← readTerm? steps text
      match skipGap rest with
      | ']' :: rest => return ([item], rest)
      | ',' :: rest => do
          let (items, rest) ← readItems? steps rest
          return (item :: items, rest)
      | _ => none

/-- The members of an object up to its closing brace. -/
def readMembers? : Nat → List Char → Option (List (List StringUnit × Term) × List Char)
  | 0, _ => none
  | steps + 1, text =>
      match skipGap text with
      | '"' :: rest => do
          let (key, rest) ← readString? rest
          match skipGap rest with
          | ':' :: rest => do
              let (value, rest) ← readTerm? steps rest
              match skipGap rest with
              | '\x7d' :: rest => return ([(key, value)], rest)
              | ',' :: rest => do
                  let (members, rest) ← readMembers? steps rest
                  return ((key, value) :: members, rest)
              | _ => none
          | _ => none
      | _ => none

end

/-- The term that a text consists of. -/
def Term.ofText? (text : List Char) : Option Term :=
  match readTerm? (2 * text.length + 2) text with
  | some (term, rest) => if (skipGap rest).isEmpty then some term else none
  | none => none

/-! ## What a string stands for -/

/-- Whether a code unit is the first of a pair. -/
def isHighUnit (unit : Nat) : Bool :=
  0xd800 ≤ unit && unit < 0xdc00

/-- Whether a code unit is the second of a pair. -/
def isLowUnit (unit : Nat) : Bool :=
  0xdc00 ≤ unit && unit < 0xe000

/-- The characters of a written string after a code unit that waits for its partner, if any. -/
def decodeAfter? : Option Nat → List StringUnit → Option (List Char)
  | none, [] => some []
  | some _, [] => none
  | none, .char c :: rest => (decodeAfter? none rest).map (c :: ·)
  | some _, .char _ :: _ => none
  | none, .code unit :: rest =>
      if isHighUnit unit then decodeAfter? (some unit) rest
      else if isLowUnit unit then none
      else (decodeAfter? none rest).map (Char.ofNat unit :: ·)
  | some high, .code low :: rest =>
      if isLowUnit low then
        (decodeAfter? none rest).map
          (Char.ofNat (0x10000 + (high - 0xd800) * 0x400 + (low - 0xdc00)) :: ·)
      else
        none

/-- The string that is written, unless it has an unpaired code unit. -/
def decodeString? (units : List StringUnit) : Option String :=
  (decodeAfter? none units).map String.ofList

end Provision.Json

namespace Provision

/-!
# JSON values

The value of a term: its strings are decoded, its numerals rounded, and of members with the same key
the last one counts.  Integers that fit in 64 bits are exact; every other number is a binary
floating-point number.
-/

/-- A JSON value. -/
inductive Json where
  | null
  | truth (value : Bool)
  | integer (value : Int)
  | real (value : Float)
  | string (text : String)
  | array (items : List Json)
  | object (members : List (String × Json))
  deriving Inhabited

namespace Json

/-! ## Numbers -/

/--
Read digits onto a number as long as it stays below `2 ^ 64`.  The second part of the answer is the
number of digits that are left.
-/
def readWithin64 : Nat → List Char → Nat × Nat
  | value, [] => (value, 0)
  | value, c :: rest =>
      let longer := 10 * value + (c.toNat - '0'.toNat)
      if longer < UInt64.size then readWithin64 longer rest else (value, rest.length + 1)

/-- The largest power of ten that is a floating-point number. -/
def maxPower : Nat := 308

/-- Multiply by a power of ten in at most the given number of steps. -/
def scaleWithin : Nat → Float → Int → Option Float
  | 0, _, _ => some 0
  | steps + 1, value, exponent =>
      if exponent.natAbs ≤ maxPower then
        let power := Float.ofScientific 1 false exponent.natAbs
        if exponent < 0 then
          some (value / power)
        else
          let scaled := value * power
          if scaled.isInf then none else some scaled
      else if value == 0 then
        some value
      else if exponent < 0 then
        scaleWithin steps (value / Float.ofScientific 1 false maxPower) (exponent + maxPower)
      else
        none

/-- A number below `2 ^ 64` times a power of ten, unless that is too large. -/
def scale? (significand : Nat) (exponent : Int) : Option Float :=
  scaleWithin 4 (UInt64.ofNat significand).toFloat exponent

/-- The value of an exponent. -/
def exponentValue : Option (Bool × List Char) → Int
  | none => 0
  | some (isNegative, digits) =>
      let magnitude := digits.foldl (fun value c => 10 * value + (c.toNat - '0'.toNat)) 0
      if isNegative then -magnitude else magnitude

/-- The floating-point number with the given sign. -/
def signed (isNegative : Bool) (value : Float) : Json :=
  .real (if isNegative then -value else value)

/-- The value of a numeral, unless it is too large. -/
def ofNumeral? (written : Numeral) : Option Json :=
  let (whole, dropped) := readWithin64 0 written.whole
  match written.fraction, written.exponent with
  | none, none =>
      if dropped ≠ 0 then
        (scale? whole dropped).map (signed written.isNegative)
      else if !written.isNegative then
        some (.integer whole)
      else if whole = 0 || whole > 1 <<< 63 then
        (scale? whole 0).map (signed true)
      else
        some (.integer (-whole))
  | fraction, exponent =>
      let digits := fraction.getD []
      let (significand, left) := readWithin64 whole digits
      let places : Int := digits.length - left
      (scale? significand (dropped - places + exponentValue exponent)).map
        (signed written.isNegative)

/-! ## Values -/

/-- Give a key a value, in place of the value that it has. -/
def insert (key : String) (value : Json) : List (String × Json) → List (String × Json)
  | [] => [(key, value)]
  | (other, old) :: rest =>
      if other = key then (key, value) :: rest else (other, old) :: insert key value rest

/-- The value of a term that is nested at most as deep as given. -/
def ofTermWithin? : Nat → Term → Option Json
  | _, .null => some .null
  | _, .truth value => some (.truth value)
  | _, .numeral written => ofNumeral? written
  | _, .string units => (decodeString? units).map .string
  | 0, .array _ | 0, .object _ => none
  | depth + 1, .array items => (items.mapM (ofTermWithin? depth)).map .array
  | depth + 1, .object members => do
      let values ← members.mapM fun (key, term) => do
        return (← decodeString? key, ← ofTermWithin? depth term)
      return .object (values.foldl (fun object (key, value) => insert key value object) [])

/-- How deep arrays and objects may be nested. -/
def maxDepth : Nat := 127

/-- The value of a term, unless it is nested too deep or holds what has no value. -/
def ofTerm? (term : Term) : Option Json :=
  ofTermWithin? maxDepth term

/-- The value of a JSON text. -/
def ofString? (text : String) : Option Json :=
  (Term.ofText? text.toList).bind ofTerm?

/-- The value of a member. -/
def get? (value : Json) (key : String) : Option Json :=
  match value with
  | .object members => members.lookup key
  | _ => none

end Json

end Provision
