import Provision.Shell.ByteText
import Provision.Text.Fields

namespace Provision.Shell

/-!
# The syntax of scripts

A script is made of commands, commands are made of words, and a word is made of pieces: text that
stands for itself, and places where a value is put in.  Such a place may hold words or a script of
its own.
-/

/-- How a descriptor is redirected. -/
inductive Direction where
  | read
  | write
  | overwrite
  | append
  | readWrite
  | copy
  deriving Repr, DecidableEq

mutual

/-- A piece of a word. -/
inductive Piece where
  | plain (text : ByteText)
  | quoted (text : ByteText)
  | parameter (name : ByteText) (use : ParameterUse) (isQuoted : Bool)
  | output (script : Statement) (isQuoted : Bool)
  | arithmetic (expression : List Piece) (isQuoted : Bool)

/-- What is done with the value of a parameter. -/
inductive ParameterUse where
  | value
  | length
  | orWord (operator : Char) (coversEmpty : Bool) (word : List Piece)
  | without (isBeginning isLongest : Bool) (pattern : List Piece)
  | none

/--
What a descriptor of a command is connected with: what a word names, or a document, of which the
text is kept apart under a number.
-/
inductive Redirection where
  | toTarget (descriptor : Nat) (direction : Direction) (target : List Piece)
  | toDocument (descriptor number : Nat)

/-- A command of a script.  A simple command has the line that it starts on. -/
inductive Statement where
  | simple
      (line : Nat)
      (assignments : List (ByteText × List Piece))
      (words : List (List Piece))
      (redirections : List Redirection)
  | pipeline (parts : List Statement)
  | negated (body : Statement)
  | both (first second : Statement)
  | either (first second : Statement)
  | sequence (parts : List Statement)
  | subshell (body : Statement)
  | background (body : Statement)
  | branch (condition body otherwise : Statement)
  | loop (isUntil : Bool) (condition body : Statement)
  | each (line : Nat) (name : ByteText) (words : Option (List (List Piece))) (body : Statement)
  | choice (line : Nat) (word : List Piece) (clauses : List (List (List Piece) × Statement))
  | function (name : ByteText) (body : Statement)
  | redirected (line : Nat) (body : Statement) (redirections : List Redirection)

end

/-- A word of a command. -/
abbrev Word := List Piece

/-- Whether a command does nothing at all. -/
def Statement.isEmpty : Statement → Bool
  | .sequence [] => true
  | _ => false

/-- The command of several ones that are run one after the other. -/
def Statement.ofList : List Statement → Statement
  | [only] => only
  | parts => .sequence parts

namespace Word

/-- Put a plain text in front of a word. -/
def consPlain (text : ByteText) : Word → Word
  | .plain other :: rest => .plain (text ++ other) :: rest
  | word => .plain text :: word

/-- Put a quoted text in front of a word. -/
def consQuoted (text : ByteText) : Word → Word
  | .quoted other :: rest => .quoted (text ++ other) :: rest
  | word => .quoted text :: word

/-- Put pieces in front of a word. -/
def after (pieces word : Word) : Word :=
  pieces.foldr
    (fun piece word =>
      match piece with
      | .plain text => consPlain text word
      | .quoted text => consQuoted text word
      | piece => piece :: word)
    word

/-- The text of a word in which everything stands for itself without quotes. -/
def plainText? : Word → Option ByteText
  | [] => some []
  | [.plain text] => some text
  | _ => none

/-- The text of a word, with the places in it left out. -/
def literalText (word : Word) : ByteText :=
  word.flatMap fun
    | .plain text => text
    | .quoted text => text
    | _ => []

/-- Whether a part of a word is quoted. -/
def isQuoted (word : Word) : Bool :=
  word.any fun
    | .quoted _ => true
    | _ => false

/-- The variable and the value of a word that assigns. -/
def assignment? (word : Word) : Option (ByteText × Word) :=
  match word with
  | .plain text :: rest =>
      match Text.cut? '=' text with
      | some (name, value) =>
          if ByteText.isName name then
            some (name, if value.isEmpty then rest else .plain value :: rest)
          else
            none
      | none => none
  | _ => none

end Word

/-- Commands of which a fault ends the shell, and after which assignments for them stay. -/
def specialCommands : List String :=
  [".", ":", "break", "continue", "eval", "exec", "exit", "export", "local", "readonly", "return",
    "set", "shift", "times", "trap", "unset"]

end Provision.Shell
