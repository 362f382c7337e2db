import Provision.Shell.Pattern
import Provision.Text.Decimal
import Provision.Text.Occurrence

namespace Provision.Shell

/-!
# Regular expressions

A regular expression takes the longest text that it can from a place in a text; every part of the
expression, from left to right, takes the longest text that this allows.
-/

/-- A place in a text that says something about the characters beside it. -/
inductive TextPlace where
  | textStart
  | textEnd
  | wordStart
  | wordEnd
  | wordEdge
  | noWordEdge
  deriving Repr, DecidableEq

/-- A regular expression. -/
inductive Regular where
  | nothing
  | exactly (c : Char)
  | anyChar
  | oneOf (isNegated : Bool) (parts : List BracketPart)
  | place (kind : TextPlace)
  | inOrder (first second : Regular)
  | either (first second : Regular)
  | repeated (inner : Regular) (least : Nat) (most : Option Nat)
  | group (number : Nat) (inner : Regular)
  | again (number : Nat)
  deriving Repr

/-- Where matching stands: what is behind it, how much of it is taken, and what is ahead. -/
structure Standing where
  before : Option Char
  rest : ByteText
  taken : Nat := 0
  groups : List (Nat × ByteText) := []
  deriving Repr, DecidableEq

namespace Regular

/-- Whether an expression asks for a text that a group has taken. -/
def repeatsGroups : Regular → Bool
  | .again _ => true
  | .inOrder first second | .either first second => first.repeatsGroups || second.repeatsGroups
  | .repeated inner _ _ | .group _ inner => inner.repeatsGroups
  | _ => false

/-- Whether a character belongs to words. -/
def isWordChar (c : Char) : Bool :=
  c.isAlphanum || c = '_'

/-- Whether matching stands at a place. -/
def standsAt (standing : Standing) (kind : TextPlace) : Bool :=
  let isAfterWord := standing.before.any isWordChar
  let isBeforeWord := standing.rest.head?.any isWordChar
  match kind with
  | .textStart => standing.before.isNone
  | .textEnd => standing.rest.isEmpty
  | .wordStart => !isAfterWord && isBeforeWord
  | .wordEnd => isAfterWord && !isBeforeWord
  | .wordEdge => isAfterWord != isBeforeWord
  | .noWordEdge => isAfterWord == isBeforeWord

/-- Go on by one character. -/
def advance (standing : Standing) : List Standing :=
  match standing.rest with
  | [] => []
  | c :: rest => [{ standing with before := some c, rest, taken := standing.taken + 1 }]

/-- Go on over a text. -/
def advanceOver : ByteText → Standing → List Standing
  | [], standing => [standing]
  | expected :: text, standing =>
      if standing.rest.head? = some expected then
        (advance standing).flatMap (advanceOver text)
      else
        []

/-- Of those that stand at the same place, if they cannot be told apart later, keep the first. -/
def distinct (tellsGroups : Bool) : List Standing → List Standing :=
  let key := fun (standing : Standing) =>
    (standing.taken, if tellsGroups then standing.groups else [])
  List.foldl
    (fun kept next => if kept.any (key · = key next) then kept else kept ++ [next]) []

/-- Put those in front that have taken most. -/
def longestFirst (tellsGroups : Bool) (standings : List Standing) : List Standing :=
  (distinct tellsGroups standings).mergeSort fun a b => b.taken ≤ a.taken

/--
All that several steps lead to.  Steps that take nothing are not repeated once there are enough of
them.  The first argument bounds the steps.
-/
def afterSteps (tellsGroups : Bool) (step : Standing → List Standing) :
    Nat → Nat → Option Nat → List Standing → List Standing
  | 0, _, _, _ => []
  | bound + 1, least, most, present =>
      let done := if least = 0 then present else []
      if most = some 0 || present.isEmpty then
        done
      else
        let next := present.flatMap fun standing =>
          (step standing).filter fun after => least ≠ 0 || standing.taken < after.taken
        done ++ afterSteps tellsGroups step bound (least - 1) (most.map (· - 1))
          (longestFirst tellsGroups next)

/-- Where matching may stand after an expression, those first that have taken most. -/
def ends (tellsGroups : Bool) : Regular → Standing → List Standing
  | .nothing, standing => [standing]
  | .exactly expected, standing => advanceOver [expected] standing
  | .anyChar, standing => advance standing
  | .oneOf isNegated parts, standing =>
      let holds := fun (c : Char) => parts.any (Pattern.BracketPart.holds c)
      if standing.rest.head?.any fun c => holds c != isNegated then advance standing else []
  | .place kind, standing => if standsAt standing kind then [standing] else []
  | .inOrder first second, standing =>
      longestFirst tellsGroups
        ((ends tellsGroups first standing).flatMap fun middle => ends tellsGroups second middle)
  | .either first second, standing =>
      longestFirst tellsGroups
        (ends tellsGroups first standing ++ ends tellsGroups second standing)
  | .repeated inner least most, standing =>
      longestFirst tellsGroups
        (afterSteps tellsGroups (fun before => ends tellsGroups inner before)
          (least + standing.rest.length + 2) least most [standing])
  | .group number inner, standing =>
      (ends tellsGroups inner standing).map fun after =>
        let text := standing.rest.take (after.taken - standing.taken)
        { after with groups := (number, text) :: after.groups.filter (·.1 ≠ number) }
  | .again number, standing =>
      match standing.groups.lookup number with
      | some text => advanceOver text standing
      | none => []

/-- The longest text that an expression takes after a character, if there is one before it. -/
def takenAfter? (expression : Regular) (before : Option Char) (text : ByteText) :
    Option Standing :=
  (ends expression.repeatsGroups expression { before, rest := text }).head?

/-- The longest text that an expression takes from the start of a text. -/
def takenAt? (expression : Regular) (text : ByteText) : Option Standing :=
  expression.takenAfter? none text

/-- Whether an expression is found in a text that stands after a character, if there is one. -/
def occursAfter (expression : Regular) : Option Char → ByteText → Bool
  | last, text =>
      let start : Standing := { before := last, rest := text }
      let isHere := !(ends expression.repeatsGroups expression start).isEmpty
      match text with
      | [] => isHere
      | c :: rest => isHere || occursAfter expression (some c) rest

/-- Whether an expression is found in a text. -/
def occursIn (expression : Regular) (text : ByteText) : Bool :=
  occursAfter expression none text

/-- Expressions one after the other. -/
def sequence : List Regular → Regular
  | [] => .nothing
  | [only] => only
  | first :: rest => .inOrder first (sequence rest)

/-- One of several expressions. -/
def choice : List Regular → Regular
  | [] => .nothing
  | [only] => only
  | first :: rest => .either first (choice rest)

end Regular

/-!
# Reading regular expressions

A backslash takes away the meaning of a sign that has one, and makes parentheses, braces, bars and
some other signs special.
-/

/-- Why a text is no regular expression. -/
inductive RegularFault where
  | openBracket
  | emptyBracket
  | openParenthesis
  | closingParenthesis
  | openBrace
  | badBrace
  | badRange
  | badClass
  | badReference
  | trailingBackslash
  deriving Repr, DecidableEq

/-- The wording of a fault. -/
def RegularFault.message : RegularFault → String
  | .openBracket => "Unmatched [, [^, [:, [., or [="
  | .emptyBracket => "Invalid regular expression"
  | .openParenthesis => "Unmatched ( or \\("
  | .closingParenthesis => "Unmatched ) or \\)"
  | .openBrace => "Unmatched \\\x7b"
  | .badBrace => "Invalid content of \\\x7b\\\x7d"
  | .badRange => "Invalid range end"
  | .badClass => "Invalid character class name"
  | .badReference => "Invalid back reference"
  | .trailingBackslash => "Trailing backslash"

/-- A part of the text of a regular expression. -/
inductive RegularToken where
  | atom (expression : Regular)
  | opening
  | closing
  | bar
  | repetition (least : Nat) (most : Option Nat)
  deriving Repr

namespace Regular

/-! ## Brackets -/

/-- A single character between signs, as in `[.x.]`, at the start of a text after `[`. -/
def bracketedChar? (text : ByteText) : Option (Char × ByteText) :=
  match text with
  | '.' :: c :: '.' :: ']' :: rest => some (c, rest)
  | '=' :: c :: '=' :: ']' :: rest => some (c, rest)
  | _ => none

/-- A character between brackets and what is left after it. -/
def bracketChar (text : ByteText) : Option (Char × ByteText) :=
  match text with
  | [] => none
  | '[' :: rest => some ((bracketedChar? rest).getD ('[', rest))
  | c :: rest => some (c, rest)

/-- The range at the start of a text between brackets, and what is left after it. -/
def bracketRange (text : ByteText) :
    Except RegularFault (BracketPart × ByteText) := do
  match bracketChar text with
  | none => throw .openBracket
  | some (low, rest) =>
      let (high, rest) :=
        match rest with
        | '-' :: ']' :: _ => (low, rest)
        | '-' :: others => (bracketChar others).getD (low, rest)
        | _ => (low, rest)
      if high < low then throw .badRange else return (.range low high, rest)

/-- The class or the range at the start of a text between brackets, and what is left after it. -/
def bracketPart (text : ByteText) :
    Except RegularFault (BracketPart × ByteText) :=
  match text with
  | '[' :: ':' :: rest =>
      match Pattern.class? (':' :: rest) with
      | some (name, taken) => .ok (.named name, (':' :: rest).drop taken)
      | none =>
          .error (if Text.occursIn [':', ']'] rest then .badClass else .openBracket)
  | text => bracketRange text

/-- The parts between brackets and what is left after them; the first argument bounds the steps. -/
def bracketParts :
    Nat → Bool → ByteText → Except RegularFault (List BracketPart × ByteText)
  | 0, _, _ => .error .openBracket
  | steps + 1, isFirst, text => do
      if text.head? = some ']' && !isFirst then
        return ([], text.drop 1)
      else
        let (part, rest) ← bracketPart text
        let (parts, rest) ← bracketParts steps false rest
        return (part :: parts, rest)

/-- An expression between brackets, after the bracket that opens it. -/
def bracket (text : ByteText) : Except RegularFault (Regular × ByteText) := do
  let (isNegated, body) :=
    match text with
    | '^' :: rest => (true, rest)
    | rest => (false, rest)
  if body.isEmpty then
    throw .emptyBracket
  let (parts, rest) ← bracketParts (body.length + 1) true body
  return (.oneOf isNegated parts, rest)

/-! ## Tokens -/

/-- What a letter after a backslash stands for. -/
def escaped (c : Char) : Regular :=
  let word : List BracketPart := [.named "alnum", .range '_' '_']
  match c with
  | 'w' => .oneOf false word
  | 'W' => .oneOf true word
  | 's' => .oneOf false [.named "space"]
  | 'S' => .oneOf true [.named "space"]
  | 'b' => .place .wordEdge
  | 'B' => .place .noWordEdge
  | '<' => .place .wordStart
  | '>' => .place .wordEnd
  | '\x60' => .place .textStart
  | '\'' => .place .textEnd
  | c => if '1' ≤ c && c ≤ '9' then .again (c.toNat - '0'.toNat) else .exactly c

/-- The bounds of a repetition after its opening brace, and what is left after them. -/
def bounds? (text : ByteText) : Option (Nat × Option Nat × ByteText) := do
  let low := text.takeWhile Char.isDigit
  let rest := text.drop low.length
  let close := fun (least : Nat) (most : Option Nat) (rest : ByteText) =>
    match rest with
    | '\\' :: '\x7d' :: rest => some (least, most, rest)
    | _ => none
  match rest with
  | ',' :: rest =>
      let high := rest.takeWhile Char.isDigit
      let least ← if low.isEmpty then pure 0 else Text.decimal? low
      let most ← if high.isEmpty then pure none else (Text.decimal? high).map some
      close least most (rest.drop high.length)
  | rest => do
      let count ← Text.decimal? low
      close count (some count) rest

/-- Whether an expression may end at a text, so that a dollar sign before it is an anchor. -/
def mayEndAt (text : ByteText) : Bool :=
  match text with
  | [] | '\\' :: ')' :: _ | '\\' :: '|' :: _ => true
  | _ => false

/-- The token at the start of a text, and what is left after it. -/
def token (isStart : Bool) (text : ByteText) :
    Except RegularFault (Option (RegularToken × ByteText)) :=
  let found := fun (token : RegularToken) (rest : ByteText) => .ok (some (token, rest))
  let repetition := fun (least : Nat) (most : Option Nat) (c : Char) (rest : ByteText) =>
    if isStart then found (.atom (.exactly c)) rest else found (.repetition least most) rest
  match text with
  | [] => .ok none
  | ['\\'] => .error .trailingBackslash
  | '[' :: rest => do
      let (expression, rest) ← bracket rest
      return some (.atom expression, rest)
  | '.' :: rest => found (.atom .anyChar) rest
  | '*' :: rest => repetition 0 none '*' rest
  | '\\' :: '+' :: rest => repetition 1 none '+' rest
  | '\\' :: '?' :: rest => repetition 0 (some 1) '?' rest
  | '\\' :: '(' :: rest => found .opening rest
  | '\\' :: ')' :: rest => found .closing rest
  | '\\' :: '|' :: rest => found .bar rest
  | '\\' :: '\x7b' :: rest =>
      match bounds? rest with
      | some (least, most, rest) => repetition least most '\x7b' rest
      | none => .error (if Text.occursIn ['\\', '\x7d'] rest then .badBrace else .openBrace)
  | '^' :: rest => found (.atom (if isStart then .place .textStart else .exactly '^')) rest
  | '$' :: rest => found (.atom (if mayEndAt rest then .place .textEnd else .exactly '$')) rest
  | '\\' :: c :: rest => found (.atom (escaped c)) rest
  | c :: rest => found (.atom (.exactly c)) rest

/-- Whether a token leaves the text after it at the start of an expression. -/
def startsAfter (isStart : Bool) : RegularToken → Bool
  | .opening | .bar => true
  | .atom (.place .textStart) => isStart
  | _ => false

/-- All tokens of a text; the first argument bounds the steps. -/
def tokens :
    Nat → Bool → ByteText → Except RegularFault (List RegularToken)
  | 0, _, _ => .ok []
  | steps + 1, isStart, text => do
      match ← token isStart text with
      | none => return []
      | some (token, rest) =>
          let others ← tokens steps (startsAfter isStart token) rest
          return token :: others

/-! ## Expressions -/

/-- A group that is being read: its number, its finished choices and the one that it is at. -/
structure OpenGroup where
  number : Nat
  choices : List Regular := []
  present : List Regular := []
  deriving Repr

/-- What a group stands for; what is last in it has been read first. -/
def OpenGroup.close (frame : OpenGroup) : Regular :=
  choice ((sequence frame.present.reverse :: frame.choices).reverse)

/-- Read tokens, with the open groups from the inside out and the number of groups so far. -/
def readTokens : List RegularToken → OpenGroup → List OpenGroup → Nat → Except RegularFault Regular
  | [], frame, outside, _ =>
      if outside.isEmpty then .ok frame.close else .error .openParenthesis
  | .atom (.again number) :: rest, frame, outside, count =>
      if number ≤ count && !(frame :: outside).any (·.number = number) then
        readTokens rest { frame with present := .again number :: frame.present } outside count
      else
        .error .badReference
  | .atom expression :: rest, frame, outside, count =>
      readTokens rest { frame with present := expression :: frame.present } outside count
  | .repetition least most :: rest, frame, outside, count =>
      match frame.present with
      | [] => readTokens rest frame outside count
      | last :: before =>
          let present := .repeated last least most :: before
          readTokens rest { frame with present } outside count
  | .opening :: rest, frame, outside, count =>
      readTokens rest ⟨count + 1, [], []⟩ (frame :: outside) (count + 1)
  | .bar :: rest, frame, outside, count =>
      let choices := sequence frame.present.reverse :: frame.choices
      readTokens rest { frame with choices, present := [] } outside count
  | .closing :: _, _, [], _ => .error .closingParenthesis
  | .closing :: rest, frame, above :: outside, count =>
      let present := .group frame.number frame.close :: above.present
      readTokens rest { above with present } outside count

/-- Read a regular expression. -/
def read (text : ByteText) : Except RegularFault Regular := do
  readTokens (← tokens (text.length + 1) true text) ⟨0, [], []⟩ [] 0

/-- The number of groups in an expression. -/
def groupCount : Regular → Nat
  | .group _ inner => inner.groupCount + 1
  | .inOrder first second | .either first second => first.groupCount + second.groupCount
  | .repeated inner _ _ => inner.groupCount
  | _ => 0

end Regular

end Provision.Shell
