import Provision.Shell.Tool.Escapes
import Provision.Shell.Tool.Options
import Provision.Text.Decimal

namespace Provision.Shell.Tool

/-!
# Replacing characters

Characters of one set are replaced by those of another one, deleted, or squeezed to one where they
are repeated.  A set is written as a text in which ranges, classes and repetitions stand for
characters.
-/

open Work

/-- A part of a set of characters.  A repetition without a count fills the set up. -/
inductive SetPart where
  | chars (members : List Char)
  | named (name : ByteText) (members : List Char)
  | likes (c : Char)
  | copies (c : Char) (count : Option Nat)
  deriving Repr, DecidableEq

/-- All characters. -/
def allChars : List Char :=
  (List.range 256).map Char.ofNat

/-- Whether a character is in the class with a name, if there is such a class. -/
def classOf? (name : ByteText) : Option (Char → Bool) :=
  let isGraphic := fun (c : Char) => '!' ≤ c && c ≤ '~'
  match String.ofList name with
  | "alnum" => some Char.isAlphanum
  | "alpha" => some Char.isAlpha
  | "blank" => some fun c => c = ' ' || c = '\t'
  | "cntrl" => some fun c => c < ' ' || c = '\x7f'
  | "digit" => some Char.isDigit
  | "graph" => some isGraphic
  | "lower" => some Char.isLower
  | "print" => some fun c => c = ' ' || isGraphic c
  | "punct" => some fun c => isGraphic c && !c.isAlphanum
  | "space" => some ByteText.isBlank
  | "upper" => some Char.isUpper
  | "xdigit" => some fun c => (hexDigit? c).isSome
  | _ => none

/-! ## Reading sets -/

/-- A character of a set and whether a backslash takes its special meaning away. -/
abbrev SetChar := Char × Bool

/-- The characters of a text with its escapes replaced; the first argument bounds the steps. -/
def setChars : Nat → ByteText → List SetChar
  | 0, _ => []
  | _ + 1, [] => []
  | _ + 1, ['\\'] => [('\\', false)]
  | steps + 1, '\\' :: c :: rest =>
      if isOctalDigit c then
        let digits := takeDigits isOctalDigit 3 (c :: rest)
        let isLarge := digits.length = 3 && c > '3'
        let digits := if isLarge then digits.take 2 else digits
        (codeChar 8 digits, true) :: setChars steps ((c :: rest).drop digits.length)
      else
        let letter := if c ∈ ['e', '\\'] then c else (escapedLetter? c).getD c
        (letter, true) :: setChars steps rest
  | steps + 1, c :: rest => (c, false) :: setChars steps rest

/-- The characters before a closing mark and a bracket, and those after them. -/
def takeNamed (mark : Char) : List SetChar → Option (List Char × List SetChar)
  | (c, false) :: (']', false) :: rest =>
      if c = mark then some ([], rest)
      else (takeNamed mark ((']', false) :: rest)).map fun (taken, rest) => (c :: taken, rest)
  | (c, _) :: rest => (takeNamed mark rest).map fun (taken, rest) => (c :: taken, rest)
  | [] => none

/-- The count of a repetition: decimal, or octal after a zero. -/
def copyCount? (digits : ByteText) : Option (Option Nat) :=
  match digits with
  | [] => some none
  | '0' :: rest =>
      if rest.all isOctalDigit then
        let value := rest.foldl (fun value c => 8 * value + (c.toNat - '0'.toNat)) 0
        some (if value = 0 then none else some value)
      else
        none
  | digits => (Text.decimal? digits).map some

/-- What stands at a bracket: a part of a set and what is after it, if there is one. -/
def readBracketed (text : List SetChar) : Except ByteText (Option (SetPart × List SetChar)) :=
  let repetition : Except ByteText (Option (SetPart × List SetChar)) :=
    match text with
    | (c, _) :: ('*', false) :: rest =>
        let inner := rest.takeWhile fun (c, isEscaped) => c ≠ ']' && !isEscaped
        match rest.drop inner.length with
        | (']', false) :: rest =>
            match copyCount? (inner.map Prod.fst) with
            | some count => .ok (some (.copies c count, rest))
            | none => .error ("invalid repeat count ".toList ++ '\'' :: inner.map Prod.fst ++
                "' in [c*n] construct".toList)
        | _ => .ok none
    | _ => .ok none
  match text with
  | (':', false) :: rest =>
      match takeNamed ':' rest with
      | some ([], _) => .error "missing character class name '[::]'".toList
      | some (name, rest) =>
          match classOf? name with
          | some isMember => .ok (some (.named name (allChars.filter isMember), rest))
          | none => .error ("invalid character class ".toList ++ '\'' :: name ++ ['\''])
      | none => repetition
  | ('=', false) :: rest =>
      match takeNamed '=' rest with
      | some ([], _) => .error "missing equivalence class character '[==]'".toList
      | some ([c], rest) => .ok (some (.likes c, rest))
      | some (several, _) =>
          .error (several ++ ": equivalence class operand must be a single character".toList)
      | none => repetition
  | _ => repetition

/-- A character as messages show it in a range. -/
def rangeEnd (c : Char) : ByteText :=
  if ' ' ≤ c && c ≤ '~' then [c]
  else
    let digits := Nat.toDigits 8 c.toNat
    '\\' :: List.replicate (3 - digits.length) '0' ++ digits

/-- The parts of a set; the first argument bounds the steps. -/
def readParts : Nat → List SetChar → Except ByteText (List SetPart)
  | 0, _ => .ok []
  | _ + 1, [] => .ok []
  | steps + 1, (c, isEscaped) :: rest => do
      let bracketed ←
        if c = '[' && !isEscaped && rest.length ≥ 2 then readBracketed rest else pure none
      match bracketed, rest with
      | some (part, rest), _ => return part :: (← readParts steps rest)
      | none, ('-', false) :: (high, _) :: rest =>
          if high < c then
            throw ("range-endpoints of '".toList ++ rangeEnd c ++ '-' :: rangeEnd high ++
              "' are in reverse collating sequence order".toList)
          else
            return .chars (allChars.filter fun other => c ≤ other && other ≤ high) ::
              (← readParts steps rest)
      | none, rest => return .chars [c] :: (← readParts steps rest)

/-- The parts of the set that a text stands for. -/
def readSet (text : ByteText) : Except ByteText (List SetPart) :=
  readParts (text.length + 1) (setChars (text.length + 1) text)

/-! ## What sets hold -/

/-- The members of a part that is no filling. -/
def SetPart.members : SetPart → List Char
  | .chars members => members
  | .named _ members => members
  | .likes c => [c]
  | .copies c count => List.replicate (count.getD 0) c

/-- Whether a part is a class of letters of one case. -/
def SetPart.isCase : SetPart → Bool
  | .named name _ => name = "upper".toList || name = "lower".toList
  | _ => false

/-- Whether a part fills the set up. -/
def SetPart.isFilling : SetPart → Bool
  | .copies _ none => true
  | _ => false

/-- The members of a set. -/
def membersOf (parts : List SetPart) : List Char :=
  parts.flatMap SetPart.members

/-- The members of a set that is filled up to a length. -/
def filledTo (length : Nat) (parts : List SetPart) : List Char :=
  let known := (membersOf parts).length
  parts.flatMap fun part =>
    match part with
    | .copies c none => List.replicate (length - known) c
    | part => part.members

/-- Members up to a length, the last one again and again. -/
def extendedTo (length : Nat) (members : List Char) : List Char :=
  match members.getLast? with
  | some last => members ++ List.replicate (length - members.length) last
  | none => members

/-- Whether each class of letters of one case in a set meets one in the other set. -/
def isAligned : Nat → List SetPart → List SetPart → Bool
  | 0, _, _ => true
  | _ + 1, _, [] => true
  | _ + 1, [], second => !second.any SetPart.isCase
  | steps + 1, first :: firsts, second :: seconds =>
      if second.isCase then
        first.isCase && isAligned steps firsts seconds
      else
        let (a, b) := (first.members.length, second.members.length)
        if a = 0 then isAligned steps firsts (second :: seconds)
        else if b = 0 then isAligned steps (first :: firsts) seconds
        else
          let count := min a b
          let rest := fun (part : SetPart) =>
            let left := part.members.drop count
            if left.isEmpty then [] else [SetPart.chars left]
          isAligned steps (rest first ++ firsts) (rest second ++ seconds)

/-- Drop repetitions of characters. -/
def squeeze (isSqueezed : Char → Bool) : ByteText → ByteText
  | [] => []
  | [c] => [c]
  | c :: next :: rest =>
      if c = next && isSqueezed c then squeeze isSqueezed (next :: rest)
      else c :: squeeze isSqueezed (next :: rest)

/-- How characters are replaced. -/
structure Replacing where
  isComplement : Bool
  deletes : Bool
  squeezes : Bool
  truncates : Bool

/-- The members of the first set, or all other characters. -/
def sourceMembers (setting : Replacing) (parts : List SetPart) : List Char :=
  let members := membersOf parts
  if setting.isComplement then allChars.filter (!members.contains ·) else members

/-- The characters that replace those of the first set, or why there are none. -/
def targetMembers (setting : Replacing) (first second : List SetPart) :
    Except ByteText (List Char) := do
  let source := sourceMembers setting first
  let hasClass := fun (parts : List SetPart) => parts.any fun part =>
    match part with
    | .named _ _ => true
    | _ => false
  if (second.filter SetPart.isFilling).length > 1 then
    throw "only one [c*] repeat construct may appear in string2".toList
  if second.any fun part => part matches .likes _ then
    throw "[=c=] expressions may not appear in string2 when translating".toList
  if second.any fun part => hasClass [part] && !part.isCase then
    throw ("when translating, the only character classes that may appear in\n" ++
      "string2 are 'upper' and 'lower'").toList
  if !setting.isComplement && !isAligned (source.length + second.length + 512) first second then
    throw "misaligned [:upper:] and/or [:lower:] construct".toList
  let target := filledTo source.length second
  let isShort := target.length < source.length && !setting.truncates
  if isShort && target.isEmpty then
    throw "when not truncating set1, string2 must be non-empty".toList
  let endsInClass := second.getLast?.any fun part => hasClass [part]
  let isCovered := !setting.isComplement && first.getLast?.any SetPart.isCase
  if isShort && endsInClass && !isCovered then
    throw ("when translating with string1 longer than string2,\n" ++
      "the latter string must not end with a character class").toList
  let target := if isShort then extendedTo source.length target else target
  let isOne := target.length = source.length && target.all fun c => some c = target.head?
  if setting.isComplement && hasClass first && !isOne then
    throw ("when translating with complemented character classes,\n" ++
      "string2 must map all characters in the domain to one").toList
  return target

/-- Refuse a call with an explanation between the complaint and the hint. -/
def misuseWith {α : Type} (text : ByteText) (explanation : String) : Work α := do
  remark text
  printError (explanation.toList ++ ['\n'])
  giveUp

/-- The sets of a call. -/
def requestedSets (arguments : Arguments) (setting : Replacing) :
    Work (List SetPart × Option (List SetPart)) := do
  let read := fun (text : ByteText) => do
    let slashes := (text.reverse.takeWhile (· = '\\')).length
    if slashes % 2 = 1 then
      remark "warning: an unescaped backslash at end of string is not portable".toList
    match readSet text with
    | .ok parts => return parts
    | .error fault => refuse fault
  let onlyOne := setting.deletes && !setting.squeezes
  match arguments.operands with
  | [] => misuse "missing operand".toList
  | [first] =>
      if setting.deletes != setting.squeezes then
        return (← read first, none)
      else
        let purpose := if setting.deletes then "both deleting and squeezing repeats."
          else "translating."
        misuseWith ("missing operand after ".toList ++ quoted first)
          ("Two strings must be given when " ++ purpose)
  | first :: second :: rest =>
      match onlyOne, rest with
      | true, _ =>
          misuseWith ("extra operand ".toList ++ quoted second)
            "Only one string may be given when deleting without squeezing repeats."
      | false, third :: _ => misuse ("extra operand ".toList ++ quoted third)
      | false, [] => return (← read first, some (← read second))

/-- Replace, delete or squeeze characters. -/
def tr : Tool := toTool do
  let arguments ← arguments [optionOf ['c', 'C'] "complement" .never, flag 'd' "delete",
    flag 's' "squeeze-repeats", flag 't' "truncate-set1"] true
  let setting : Replacing := {
    isComplement := arguments.has "complement", deletes := arguments.has "delete"
    squeezes := arguments.has "squeeze-repeats", truncates := arguments.has "truncate-set1" }
  let (first, second) ← requestedSets arguments setting
  if first.any SetPart.isFilling then
    refuse "the [c*] repeat construct may not appear in string1".toList
  let source := sourceMembers setting first
  match second with
  | some second =>
      if setting.deletes then do
        if second.any SetPart.isFilling then
          refuse "the [c*] construct may appear in string2 only when translating".toList
        let kept := (← takeInput).filter (!source.contains ·)
        print (squeeze (membersOf second).contains kept)
      else
        match targetMembers setting first second with
        | .error fault => refuse fault
        | .ok target => do
            let pairs := (source.zip target).reverse
            let replaced := (← takeInput).map fun c => (pairs.lookup c).getD c
            print (if setting.squeezes then squeeze target.contains replaced else replaced)
  | none => do
      let text ← takeInput
      print (if setting.deletes then text.filter (!source.contains ·)
        else squeeze source.contains text)

end Provision.Shell.Tool
