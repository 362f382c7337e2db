import Provision.Disk.Calls
import Provision.Shell.ByteText

namespace Provision.Shell

/-!
# Tools

A tool is a small program that works on a disk: it gets arguments and an input, and it leaves a
status, a disk, and what it printed to its output and to its errors in the order of printing.
-/

/--
What a tool is called with.  The mask holds the permission bits that new files do not get.  The
nicer a process is, the more it lets others have their turn.  The size of the input is known if the
input is a file, and so is the place of the output.  There may be a fault that keeps the input from
being read.
-/
structure Call where
  name : ByteText
  arguments : List ByteText
  input : ByteText
  inputSize? : Option Nat := none
  inputFault? : Option DiskFault := none
  outputPlace? : Option Location := none
  disk : Disk
  workingDirectory : Location
  mask : Nat := 0o022
  niceness : Nat := 0
  environment : List (ByteText × ByteText) := []

/-- A text that a tool prints, to its errors or to its output. -/
structure Print where
  isError : Bool
  text : ByteText
  deriving Repr, DecidableEq

/--
How long a program may run, and the signal that it gets then.  Its status may be kept if it ends
like that, the signal may be told of, and it may be sent to the program alone.
-/
structure TimeLimit where
  time : Nat
  signal : Nat
  keepsStatus : Bool := false
  isTold : Bool := false
  isAlone : Bool := false

/--
A program that a tool wants to be run in its place: its name and its arguments, the variables that
it gets, the directory where it starts if that is another one, how long it may run, how nice it is
to others, what is said if it cannot be run, and what else is said if it is missing.
-/
structure Launch where
  name : ByteText
  arguments : List ByteText
  environment : List (ByteText × ByteText)
  directory? : Option Location := none
  limit? : Option TimeLimit := none
  niceness? : Option Nat := none
  fault : ByteText
  hint : ByteText := []

/--
What a tool leaves, with what it has not read of its input.  It may go on for as long as it is let.
-/
structure Outcome where
  status : Nat
  prints : List Print
  disk : Disk
  unread : ByteText
  launch? : Option Launch := none
  isEndless : Bool := false

/-- What a tool has printed to its output. -/
def Outcome.output (outcome : Outcome) : ByteText :=
  outcome.prints.flatMap fun print => if print.isError then [] else print.text

/-- What a tool has printed to its errors. -/
def Outcome.errors (outcome : Outcome) : ByteText :=
  outcome.prints.flatMap fun print => if print.isError then print.text else []

/-- A tool. -/
abbrev Tool := Call → Outcome

/-- The wording of a refusal of the operating system. -/
def faultText (fault : DiskFault) : ByteText :=
  match fault with
  | .refused errno => errno.wording.toList
  | other => other.message.toList

/-! ## Work of a tool -/

/-- What a tool has done so far; the last print comes first. -/
structure Progress where
  disk : Disk
  unread : ByteText
  prints : List Print := []
  status : Nat := 0
  launch? : Option Launch := none
  isEndless : Bool := false

/-- A part of what a tool does, which may stop it. -/
abbrev Work := ReaderT Call (ExceptT Unit (StateM Progress))

namespace Work

/-- The tool that does some work. -/
def toTool (work : Work Unit) : Tool := fun call =>
  let (_, done) := (work.run call).run.run { disk := call.disk, unread := call.input }
  { status := done.status
    prints := done.prints.reverse
    disk := done.disk
    unread := done.unread
    launch? := done.launch?
    isEndless := done.isEndless }

/-- Print to the output. -/
def print (text : ByteText) : Work Unit :=
  modify fun done => { done with prints := ⟨false, text⟩ :: done.prints }

/-- Print to the errors. -/
def printError (text : ByteText) : Work Unit :=
  modify fun done => { done with prints := ⟨true, text⟩ :: done.prints }

/-- Print a line. -/
def printLine (line : ByteText) : Work Unit :=
  print (line ++ ['\n'])

/-- Remember a status. -/
def finish (status : Nat) : Work Unit :=
  modify fun done => { done with status }

/-- Stop. -/
def stop {α : Type} : Work α :=
  throw ()

/-- Have a program run in the place of the tool. -/
def launch (program : Launch) : Work Unit :=
  modify fun done => { done with launch? := some program }

/-- Go on for as long as one is let. -/
def goOn : Work Unit :=
  modify fun done => { done with isEndless := true }

/-- Print a line to the output that starts with the name of the tool. -/
def announce (text : ByteText) : Work Unit := do
  printLine ((← read).name ++ ": ".toList ++ text)

/-- Print a line about the tool itself. -/
def remark (text : ByteText) : Work Unit := do
  printError ((← read).name ++ ": ".toList ++ text ++ ['\n'])

/-- Print a line about something that went wrong, and go on. -/
def complain (text : ByteText) (status : Nat := 1) : Work Unit := do
  remark text
  finish status

/-- Print a line about something that went wrong, and stop. -/
def refuse {α : Type} (text : ByteText) (status : Nat := 1) : Work α := do
  complain text status
  stop

/-- Complain about a fault, after a text that tells what it kept from being done. -/
def complainOf (text : ByteText) (fault : DiskFault) (status : Nat := 1) : Work Unit :=
  complain (text ++ ": ".toList ++ faultText fault) status

/-- Point out where help is to be had, and stop. -/
def giveUp {α : Type} (status : Nat := 1) : Work α := do
  printError ("Try '".toList ++ (← read).name ++ " --help' for more information.\n".toList)
  finish status
  stop

/-- Refuse a call that is not made as the tool wants it. -/
def misuse {α : Type} (text : ByteText) (status : Nat := 1) : Work α := do
  remark text
  giveUp status

/-- Change the disk, or tell why that cannot be done. -/
def change (call : Disk → Location → Except DiskFault Disk) : Work (Option DiskFault) := do
  let done ← get
  match call done.disk (← read).workingDirectory with
  | .ok disk => do
      set { done with disk }
      return none
  | .error fault => return some fault

/-- Ask the disk. -/
def ask {α : Type} (call : Disk → Location → α) : Work α := do
  return call (← get).disk (← read).workingDirectory

/-- Change the disk, or complain with the fault after a text. -/
def changeOr (text : ByteText) (call : Disk → Location → Except DiskFault Disk) : Work Bool := do
  match ← change call with
  | none => return true
  | some fault => do
      complainOf text fault
      return false

/-- All that has not been read of the input. -/
def takeInput : Work ByteText := do
  let done ← get
  set { done with unread := [] }
  return done.unread

/-- Put something back that has been taken from the input, which has to be a file for that. -/
def putBack (text : ByteText) : Work Unit := do
  if (← read).inputSize?.isSome then
    modify fun done => { done with unread := text ++ done.unread }

/-- The next line of the input, which is empty at the end. -/
def takeLine : Work ByteText := do
  let done ← get
  let (line, unread) := (Text.cut? '\n' done.unread).getD (done.unread, [])
  set { done with unread }
  return line

/-- Whether a question is answered with yes. -/
def confirms (question : ByteText) : Work Bool := do
  printError ((← read).name ++ ": ".toList ++ question ++ "? ".toList)
  return (← takeLine).head?.any fun c => c = 'y' || c = 'Y'

/-- Whether a question is answered with anything but yes, if it is asked at all. -/
def declines (isAsked : Bool) (question : ByteText) : Work Bool := do
  if isAsked then
    return !(← confirms question)
  else
    return false

/-- The permission bits of a new file or directory, of which the mask takes some away. -/
def masked (mode : Nat) : Work Nat := do
  let mask := (← read).mask
  return mode - (mode &&& mask)

end Work

end Provision.Shell

namespace Provision.Shell.Tool

/-!
# Names in messages

Tools put names between single quotes, so that they could be read back by a shell: a quote inside is
written outside of the quotes with a backslash, and what cannot be printed as a code in octal digits
after a dollar sign.  Some messages show a name without quotes where it needs none.
-/

/-- Characters that need quotes wherever they stand. -/
def isSpecial (c : Char) : Bool :=
  c ∈ [' ', '!', '"', '$', '&', '(', ')', '*', ';', '<', '=', '>', '[', '^', '\x60', '|', '\\',
      '\'',
    '?']

/-- Whether a character can be printed. -/
def isPrintable (c : Char) : Bool :=
  ' ' ≤ c && c ≤ '~'

/-- Whether a name needs quotes. -/
def needsQuotes (name : ByteText) : Bool :=
  match name with
  | [] => true
  | ['\x7b'] | ['\x7d'] => true
  | '#' :: _ | '~' :: _ => true
  | name => name.any fun c => isSpecial c || !isPrintable c

/-- The letter that stands for a control character after a backslash. -/
def controlLetter? (c : Char) : Option Char :=
  match c with
  | '\x07' => some 'a'
  | '\x08' => some 'b'
  | '\x0c' => some 'f'
  | '\n' => some 'n'
  | '\r' => some 'r'
  | '\t' => some 't'
  | '\x0b' => some 'v'
  | _ => none

/-- A character that cannot be printed as it is written after a dollar sign. -/
def controlText (c : Char) : ByteText :=
  match controlLetter? c with
  | some letter => ['\\', letter]
  | none =>
      let digits := Nat.toDigits 8 c.toNat
      '\\' :: List.replicate (3 - digits.length) '0' ++ digits

/-- The inside of a quoted name; `isCode` tells whether it goes on after a dollar sign. -/
def quotedInside : Bool → ByteText → ByteText
  | isCode, [] => if isCode then ['\''] else []
  | isCode, c :: rest =>
      if !isPrintable c then
        (if isCode then [] else "'$'".toList) ++ controlText c ++ quotedInside true rest
      else
        let start := if isCode then "''".toList else []
        let text := if c = '\'' then "'\\''".toList else [c]
        start ++ text ++ quotedInside false rest

/-- Characters that keep a name with a single quote from being put between double quotes. -/
def isSpecialInDoubleQuotes (c : Char) : Bool :=
  c ∈ ['!', '"', '$', '&', '(', ')', '*', ';', '<', '=', '>', '[', '^', '\x60', '|', '\\', '?',
    '\x7b', '\x7d', '#', '~'] || !isPrintable c

/-- A name between quotes. -/
def quoted (name : ByteText) : ByteText :=
  if name.contains '\'' && !name.any isSpecialInDoubleQuotes then
    '"' :: name ++ ['"']
  else
    let endsInCode := name.getLast?.any fun c => !isPrintable c
    '\'' :: quotedInside false name ++ (if endsInCode then [] else ['\''])

/-- A name as it is, or between quotes if it needs them. -/
def quotedIfNeeded (name : ByteText) : ByteText :=
  if needsQuotes name then quoted name else name

end Provision.Shell.Tool
