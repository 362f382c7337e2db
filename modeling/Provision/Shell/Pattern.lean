import Provision.Shell.ByteText
import Provision.Text.Fields

namespace Provision.Shell

/-!
# Patterns

A pattern matches whole texts.  It is read from characters of which each says whether it has its
special meaning or stands for itself.
-/

/-- What may stand between brackets: a range of characters or the name of a class of them. -/
inductive BracketPart where
  | range (low high : Char)
  | named (name : String)
  deriving Repr, DecidableEq

/-- One part of a pattern. -/
inductive PatternItem where
  | exactly (c : Char)
  | one
  | many
  | oneOf (isNegated : Bool) (parts : List BracketPart)
  deriving Repr, DecidableEq

/-- A pattern. -/
abbrev Pattern := List PatternItem

namespace Pattern

/-- The classes of characters with the conditions on their members. -/
def classes : List (String × (Char → Bool)) := [
  ("alnum", Char.isAlphanum), ("alpha", Char.isAlpha), ("blank", fun c => c = ' ' || c = '\t'),
  ("cntrl", fun c => c.toNat < 0x20 || c = '\x7f'), ("digit", Char.isDigit),
  ("graph", fun c => '!' ≤ c && c ≤ '~'), ("lower", Char.isLower),
  ("print", fun c => ' ' ≤ c && c ≤ '~'),
  ("punct", fun c => '!' ≤ c && c ≤ '~' && !c.isAlphanum), ("space", ByteText.isBlank),
  ("upper", Char.isUpper),
  ("xdigit", fun c => c.isDigit || ('a' ≤ c && c ≤ 'f') || ('A' ≤ c && c ≤ 'F'))]

/-- The class whose name stands at the start of a text after an opening bracket, and its length. -/
def class? (text : List Char) : Option (String × Nat) :=
  classes.findSome? fun (name, _) =>
    let written := ':' :: name.toList ++ [':', ']']
    (Text.after? written text).map fun _ => (name, written.length)

/-- A character that stands for itself, which a backslash may say, and what is left after it. -/
def takeExact : Char × Bool → List (Char × Bool) → Char × List (Char × Bool)
  | ('\\', true), (c, _) :: rest => (c, rest)
  | (c, _), rest => (c, rest)

/--
The parts between brackets and what is left after them; a bracket that closes is a part if it comes
first.  The first argument bounds the steps.
-/
def readParts :
    Nat → Bool → List (Char × Bool) → Option (List BracketPart × List (Char × Bool))
  | 0, _, _ => none
  | _ + 1, _, [] => none
  | steps + 1, isFirst, first :: rest =>
      if first = (']', true) && !isFirst then
        some ([], rest)
      else
        match if first = ('[', true) then class? (rest.map Prod.fst) else none with
        | some (name, taken) =>
            (readParts steps false (rest.drop taken)).map fun (parts, rest) =>
              (.named name :: parts, rest)
        | none =>
            let (low, rest) := takeExact first rest
            let (high, rest) :=
              match rest with
              | ('-', true) :: next :: others =>
                  if next = (']', true) then (low, rest) else takeExact next others
              | _ => (low, rest)
            (readParts steps false rest).map fun (parts, rest) => (.range low high :: parts, rest)

/-- A bracket expression after its opening, and what is left after it. -/
def readBracket (text : List (Char × Bool)) : Option (PatternItem × List (Char × Bool)) :=
  let (isNegated, body) :=
    match text with
    | ('!', true) :: rest => (true, rest)
    | rest => (false, rest)
  (readParts (body.length + 1) true body).map fun (parts, rest) => (.oneOf isNegated parts, rest)

/-- Read a pattern; the first argument bounds the steps. -/
def readFrom : Nat → List (Char × Bool) → Pattern
  | 0, _ => []
  | _ + 1, [] => []
  | steps + 1, (c, isSpecial) :: rest =>
      if !isSpecial then .exactly c :: readFrom steps rest
      else if c = '*' then .many :: readFrom steps rest
      else if c = '?' then .one :: readFrom steps rest
      else if c = '[' then
        match readBracket rest with
        | some (item, rest) => item :: readFrom steps rest
        | none => .exactly c :: readFrom steps rest
      else
        let (c, rest) := takeExact (c, isSpecial) rest
        .exactly c :: readFrom steps rest

/-- Read a pattern from characters that say whether they have their special meaning. -/
def read (text : List (Char × Bool)) : Pattern :=
  readFrom (text.length + 1) text

/-- Whether a character is one of those that a part stands for. -/
def BracketPart.holds (c : Char) : BracketPart → Bool
  | .range low high => low ≤ c && c ≤ high
  | .named name => (classes.lookup name).any fun isMember => isMember c

/-- Whether a pattern matches a whole text. -/
def accepts : Pattern → List Char → Bool
  | [], text => text.isEmpty
  | .many :: rest, [] => accepts rest []
  | .many :: rest, c :: text => accepts rest (c :: text) || accepts (.many :: rest) text
  | _ :: _, [] => false
  | .exactly expected :: rest, c :: text => c = expected && accepts rest text
  | .one :: rest, _ :: text => accepts rest text
  | .oneOf isNegated parts :: rest, c :: text =>
      parts.any (BracketPart.holds c) != isNegated && accepts rest text
termination_by pattern text => pattern.length + text.length

/-- Whether a pattern is more than a text that stands for itself. -/
def isSpecial (pattern : Pattern) : Bool :=
  pattern.any fun
    | .exactly _ => false
    | _ => true

/-- The first of several texts between which there are null characters. -/
def firstText (text : List Char) : List Char :=
  text.takeWhile (· ≠ '\x00')

/-- The lengths of the beginnings of a text that a pattern matches, in ascending order. -/
def beginnings (pattern : Pattern) (text : List Char) : List Nat :=
  (List.range (text.length + 1)).filter fun length =>
    pattern.accepts (firstText (text.take length))

/-- The positions where an ending of a text starts that a pattern matches, in ascending order. -/
def endings (pattern : Pattern) (text : List Char) : List Nat :=
  (List.range (text.length + 1)).filter fun start =>
    pattern.accepts (firstText (text.drop start))

/-- A text without the shortest or longest beginning that a pattern matches. -/
def withoutBeginning (pattern : Pattern) (isLongest : Bool) (text : List Char) : List Char :=
  let found := pattern.beginnings text
  text.drop ((if isLongest then found.getLast? else found.head?).getD 0)

/-- A text without the shortest or longest ending that a pattern matches. -/
def withoutEnding (pattern : Pattern) (isLongest : Bool) (text : List Char) : List Char :=
  let found := pattern.endings text
  text.take ((if isLongest then found.head? else found.getLast?).getD text.length)

end Pattern

end Provision.Shell
