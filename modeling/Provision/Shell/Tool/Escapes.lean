import Provision.Shell.Tool.Basic

namespace Provision.Shell.Tool

/-!
# Escapes

A backslash and what follows it stand for a character that cannot be written otherwise: a letter, a
code in octal or hexadecimal digits, or the end of the text.
-/

/--
Where escapes stand: in a text or in a format, and whether it is the shell itself that reads them.
-/
inductive EscapePlace where
  | shellText
  | shellFormat
  | text
  | format
  deriving Repr, DecidableEq

/-- How a text with escapes ends. -/
inductive EscapeEnd where
  | atEnd
  | early
  | broken (fault : ByteText)
  deriving Repr, DecidableEq

/-- The character that a letter stands for after a backslash. -/
def escapedLetter? (c : Char) : Option Char :=
  match c with
  | 'a' => some '\x07'
  | 'b' => some '\x08'
  | 'e' => some '\x1b'
  | 'f' => some '\x0c'
  | 'n' => some '\n'
  | 'r' => some '\r'
  | 't' => some '\t'
  | 'v' => some '\x0b'
  | '\\' => some '\\'
  | _ => none

/-- Whether a character is an octal digit. -/
def isOctalDigit (c : Char) : Bool :=
  '0' ≤ c && c ≤ '7'

/-- The value of a hexadecimal digit. -/
def hexDigit? (c : Char) : Option Nat :=
  if c.isDigit then some (c.toNat - '0'.toNat)
  else if 'a' ≤ c && c ≤ 'f' then some (c.toNat - 'a'.toNat + 10)
  else if 'A' ≤ c && c ≤ 'F' then some (c.toNat - 'A'.toNat + 10)
  else none

/-- The digits at the start of a text, at most so many. -/
def takeDigits (isDigit : Char → Bool) (count : Nat) (text : ByteText) : ByteText :=
  (text.take count).takeWhile isDigit

/-- The character with the code that digits of a base give. -/
def codeChar (base : Nat) (digits : ByteText) : Char :=
  Char.ofNat (digits.foldl (fun value c => base * value + (hexDigit? c).getD 0) 0 % 256)

/-- What an escape comes to: a text and what is left, or an end. -/
inductive Escape where
  | stands (text rest : ByteText)
  | ends (how : EscapeEnd)

/-- The number of digits that a letter for a code wants after it. -/
def codeLength? (place : EscapePlace) (letter : Char) : Option Nat :=
  match place, letter with
  | .text, 'x' | .format, 'x' => some 2
  | .text, 'u' | .format, 'u' => some 4
  | .text, 'U' | .format, 'U' => some 8
  | _, _ => none

/-- A character that is given by its code and may not be in the set of characters. -/
def unicodeText (letter : Char) (digits : ByteText) : ByteText :=
  let value := digits.foldl (fun value c => 16 * value + (hexDigit? c).getD 0) 0
  if value < 0x80 then [Char.ofNat value]
  else
    let written := (Nat.toDigits 16 value).map Char.toUpper
    let width := if letter = 'u' || value < 0x10000 then 4 else 8
    '\\' :: (if width = 4 then 'u' else 'U') ::
      List.replicate (width - written.length) '0' ++ written

/-- What the escape at the start of a text stands for, after its backslash. -/
def readEscape (place : EscapePlace) (hasCodes : Bool) (text : ByteText) : Escape :=
  match text with
  | [] => .stands ['\\'] []
  | c :: rest =>
      let octal := fun (text : ByteText) =>
        let digits := takeDigits isOctalDigit 3 text
        .stands [codeChar 8 digits] (text.drop digits.length)
      if c = '0' && (place = .text || place = .shellText) then
        octal rest
      else if isOctalDigit c then
        octal (c :: rest)
      else if c = 'c' && place ≠ .shellFormat then
        .ends .early
      else if c = '"' && place = .format then
        .stands ['"'] rest
      else
        match if c = 'x' || hasCodes then codeLength? place c else none with
        | some count =>
            let digits := takeDigits (fun c => (hexDigit? c).isSome) count rest
            let isShort := digits.isEmpty || (c ≠ 'x' && digits.length < count)
            if isShort then
              if hasCodes then .ends (.broken "missing hexadecimal number in escape".toList)
              else .stands ['\\', c] rest
            else if c = 'x' then
              .stands [codeChar 16 digits] (rest.drop digits.length)
            else
              .stands (unicodeText c digits) (rest.drop digits.length)
        | none => .stands ((escapedLetter? c).elim ['\\', c] fun c => [c]) rest

/--
A text with its escapes replaced, and how it ends.  Codes of characters are faults if they are not
complete, where they are known at all.  The first argument bounds the steps.
-/
def unescapeWith (place : EscapePlace) (hasCodes : Bool) :
    Nat → ByteText → ByteText × EscapeEnd
  | 0, _ => ([], .atEnd)
  | _ + 1, [] => ([], .atEnd)
  | steps + 1, '\\' :: rest =>
      match readEscape place hasCodes rest with
      | .ends how => ([], how)
      | .stands text rest =>
          let (others, how) := unescapeWith place hasCodes steps rest
          (text ++ others, how)
  | steps + 1, c :: rest =>
      let (others, how) := unescapeWith place hasCodes steps rest
      (c :: others, how)

/-- A text with its escapes replaced, and how it ends. -/
def unescape (place : EscapePlace) (hasCodes : Bool) (text : ByteText) : ByteText × EscapeEnd :=
  unescapeWith place hasCodes (text.length + 1) text

end Provision.Shell.Tool
