import Provision.Shell.Syntax
import Provision.Text.Decimal
import Provision.Text.Fields

namespace Provision.Shell

/-!
# The text of a script

A script is read character by character.  A backslash at the end of a line joins it with the next
one.  An alias is replaced by its text, which is then read in its place; while that lasts the alias
is not replaced again.
-/

/-- Why a script cannot be read on, and at which line. -/
structure SyntaxFault where
  line : Nat
  reason : String
  deriving Repr, DecidableEq

/-- A kind of redirection: what is given after it. -/
inductive RedirectionKind where
  | target (direction : Direction)
  | document (dropsTabs : Bool)
  deriving Repr, DecidableEq

/-- A part of a command. -/
inductive Token where
  | word (word : Word)
  | keyword (text : String)
  | operator (text : String)
  | redirection (descriptor : Nat) (kind : RedirectionKind)
  | lineEnd
  | textEnd

/-- An alias whose text is being read: what is left after it has the given length. -/
structure OpenAlias where
  name : ByteText
  rest : Nat
  endsBlank : Bool
  deriving Repr, DecidableEq

/-- A document that has been announced: its number, its last line, and how it is read. -/
structure Announcement where
  number : Nat
  ending : ByteText
  isLiteral : Bool
  dropsTabs : Bool
  deriving Repr, DecidableEq

/--
What is left of a script.  A token that has been looked at but not used is held back.  The documents
are those that have been read so far, by their numbers.
-/
structure Source where
  text : List Char
  line : Nat := 1
  held : Option Token := none
  aliases : List (ByteText × ByteText) := []
  openAliases : List OpenAlias := []
  announced : List Announcement := []
  documents : List (Nat × Word) := []
  nextDocument : Nat := 0

/-- Reading from a script. -/
abbrev Reading := ExceptT SyntaxFault (StateM Source)

namespace Reading

/-- Stop with a fault at the present line. -/
def fail {α : Type} (reason : String) : Reading α := do
  throw ⟨(← get).line, reason⟩

/-- Drop joined line ends at the start of a text; the answer counts them. -/
def dropJoined : List Char → Nat × List Char
  | '\\' :: '\n' :: rest =>
      let (count, rest) := dropJoined rest
      (count + 1, rest)
  | text => (0, text)

/-- Whether the text is over, and the next character otherwise, which stays. -/
def peek : Reading (Option Char) := do
  let source ← get
  let (count, text) := dropJoined source.text
  if count > 0 then
    set { source with text, line := source.line + count }
  return text.head?

/-- The next character of the text, with nothing joined. -/
def takePlain : Reading (Option Char) := do
  let source ← get
  match source.text with
  | [] => return none
  | c :: text => do
      set { source with text, line := if c = '\n' then source.line + 1 else source.line }
      return some c

/-- The next character. -/
def take : Reading (Option Char) := do
  let _ ← peek
  takePlain

/-- Skip the next character. -/
def skip : Reading Unit := do
  let _ ← take

/-- Skip the next character if it is the given one. -/
def skipIf (expected : Char) : Reading Bool := do
  if (← peek) = some expected then
    skip
    return true
  else
    return false

/-- The next characters that fulfil a condition; the first argument bounds the steps. -/
def takeWhile (holds : Char → Bool) : Nat → Reading ByteText
  | 0 => return []
  | steps + 1 => do
      match ← peek with
      | some c =>
          if holds c then
            skip
            return c :: (← takeWhile holds steps)
          else
            return []
      | none => return []

/-- How many steps there are at most in what is left. -/
def bound : Reading Nat := do
  return (← get).text.length + 1

/-- Put text in front of what is left, in the place of an alias. -/
def openAlias (name value : ByteText) : Reading Unit :=
  modify fun source =>
    let isBlank := fun c => c = ' ' || c = '\t'
    { source with
      text := value ++ source.text
      openAliases :=
        ⟨name, source.text.length, value.getLast?.any isBlank⟩ :: source.openAliases }

/--
Forget the aliases of which the text has been read; the answer tells whether one of them ended with
a blank, after which the next word may be an alias as well.
-/
def closeAliases : Reading Bool := do
  let source ← get
  if source.openAliases.isEmpty then
    return false
  else
    let left := source.text.length
    let (finished, others) := source.openAliases.partition fun item => left ≤ item.rest
    set { source with openAliases := others }
    return finished.any OpenAlias.endsBlank

/-- The text of an alias, unless it is being read just now. -/
def aliasFor? (name : ByteText) : Reading (Option ByteText) := do
  let source ← get
  if source.openAliases.any (·.name = name) then return none
  else return source.aliases.lookup name

end Reading

namespace Token

/-- Words that have a meaning of their own where a command may start. -/
def keywords : List String :=
  ["!", "\x7b", "\x7d", "case", "do", "done", "elif", "else", "esac", "fi", "for", "if", "in",
    "then", "until", "while"]

/-- Words and operators that end a list of commands. -/
def closing : List String :=
  ["\x7d", "do", "done", "elif", "else", "esac", "fi", "then", ")", ";;"]

/-- The keyword that a text is. -/
def keyword? (text : ByteText) : Option String :=
  keywords.find? fun word => word.toList = text

/-- Whether a token is a given word or operator. -/
def isText (text : String) : Token → Bool
  | .keyword other => other = text
  | .operator other => other = text
  | _ => false

/-- Whether a list of commands ends before a token. -/
def endsList : Token → Bool
  | .keyword text => text ∈ closing
  | .operator text => text ∈ closing
  | .textEnd => true
  | _ => false

/-- How the shell names a token. -/
def description : Token → String
  | .word _ => "word"
  | .keyword text => "\"" ++ text ++ "\""
  | .operator text => "\"" ++ text ++ "\""
  | .redirection _ _ => "redirection"
  | .lineEnd => "newline"
  | .textEnd => "end of file"

end Token

namespace Reading

/-- The fault of a token that does not fit, and what was expected in its place if that is known. -/
def unexpected {α : Type} (token : Token) (expected : Option String := none) : Reading α :=
  let hint := expected.elim "" fun text => " (expecting " ++ text ++ ")"
  fail (token.description ++ " unexpected" ++ hint)

/-- Hold a token back, so that it is the next one again. -/
def holdBack (token : Token) : Reading Unit :=
  modify fun source => { source with held := some token }

end Reading

end Provision.Shell
