import Provision.Json.Value
import Provision.Text.Quoted

namespace Provision.Json

/-!
# Writing JSON values

A value is written on one line.  A floating-point number is written with all digits that it has in
the decimal system and always with a point, so it reads back as itself and never as an integer.
-/

/-- Digits with zeros in front up to the given length. -/
def padded (length value : Nat) : List Char :=
  let digits := Nat.toDigits 10 value
  List.replicate (length - digits.length) '0' ++ digits

/-- The parts of a finite floating-point number: `significand * 2 ^ exponent`. -/
def parts (value : Float) : Nat × Int :=
  let bits := value.toBits.toNat % (1 <<< 63)
  let field : Nat := bits >>> 52
  let fraction : Nat := bits % (1 <<< 52)
  if field = 0 then (fraction, -1074) else ((1 <<< 52) + fraction, (field : Int) - 1075)

/-- Drop zeros at the end, but leave one digit. -/
def dropZeros (digits : List Char) : List Char :=
  match (digits.reverse.dropWhile (· = '0')).reverse with
  | [] => ['0']
  | kept => kept

/-- All digits of a finite floating-point number. -/
def realText (value : Float) : List Char :=
  let sign := if value.toBits.toNat < 1 <<< 63 then [] else ['-']
  let (significand, exponent) := parts value
  if exponent < 0 then
    let places := exponent.natAbs
    let whole := significand >>> places
    let fraction := significand % (1 <<< places) * Nat.pow 5 places
    sign ++ Nat.toDigits 10 whole ++ '.' :: dropZeros (padded places fraction)
  else
    sign ++ Nat.toDigits 10 (significand <<< exponent.natAbs) ++ ['.', '0']

/-- The written form of one character of a string. -/
def charText (c : Char) : List Char :=
  if c = '"' then ['\\', '"']
  else if c = '\\' then ['\\', '\\']
  else if c < ' ' then ['\\', 'u', '0', '0'] ++ (padHex (Nat.toDigits 16 c.toNat))
  else [c]
where
  /-- Two hexadecimal digits. -/
  padHex (digits : List Char) : List Char :=
    List.replicate (2 - digits.length) '0' ++ digits

/-- The written form of a string. -/
def stringText (text : String) : List Char :=
  '"' :: text.toList.flatMap charText ++ ['"']

mutual

/-- The written form of a value, before the given text. -/
def write : Json → List Char → List Char
  | .null, rest => "null".toList ++ rest
  | .truth true, rest => "true".toList ++ rest
  | .truth false, rest => "false".toList ++ rest
  | .integer value, rest => (toString value).toList ++ rest
  | .real value, rest => realText value ++ rest
  | .string text, rest => stringText text ++ rest
  | .array items, rest => '[' :: writeItems items (']' :: rest)
  | .object members, rest => '\x7b' :: writeMembers members ('\x7d' :: rest)

/-- The written form of items with commas between them. -/
def writeItems : List Json → List Char → List Char
  | [], rest => rest
  | [item], rest => write item rest
  | item :: second :: others, rest => write item (',' :: writeItems (second :: others) rest)

/-- The written form of members with commas between them. -/
def writeMembers : List (String × Json) → List Char → List Char
  | [], rest => rest
  | [(key, value)], rest => stringText key ++ ':' :: write value rest
  | (key, value) :: second :: others, rest =>
      stringText key ++ ':' :: write value (',' :: writeMembers (second :: others) rest)

end

/-- The text of a value. -/
def toText (value : Json) : String :=
  String.ofList (value.write [])

end Provision.Json
