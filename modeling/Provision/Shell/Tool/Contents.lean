import Provision.Shell.Tool.Options
import Provision.Shell.Tool.Places
import Provision.Text.Decimal

namespace Provision.Shell.Tool

/-!
# Joining and showing contents

Contents are joined, with marks for what cannot be seen or with numbers if that is asked for, and
written to several files.
-/

end Provision.Shell.Tool

namespace Provision.Shell.Work

open Tool

/-- Do something with the content of each operand, or of the input if there is none. -/
def forContents (operands : List ByteText) (work : ByteText → ByteText → Work Unit)
    (complaint : ByteText → ByteText := quotedIfNeeded) : Work Unit := do
  for operand in if operands.isEmpty then [['-']] else operands do
    match ← content operand with
    | .ok text => work operand text
    | .error fault => complainOf (complaint operand) fault

/-- The contents of all operands, joined. -/
def joinedContents (operands : List ByteText)
    (complaint : ByteText → ByteText := quotedIfNeeded) : Work ByteText := do
  let parts ← (if operands.isEmpty then [['-']] else operands).mapM fun operand => do
    match ← content operand with
    | .ok text => return text
    | .error fault => do
        complainOf (complaint operand) fault
        return []
  return parts.flatten

end Provision.Shell.Work

namespace Provision.Shell.Tool

open Work

/-! ## Showing what cannot be seen -/

/-- How contents are shown. -/
structure Showing where
  numbers : Bool
  onlyFilled : Bool
  squeezes : Bool
  marksEnds : Bool
  marksTabs : Bool
  marksOthers : Bool

/-- Where showing contents has come to. -/
structure ShowingState where
  line : Nat := 1
  isStart : Bool := true
  blanks : Nat := 0

/-- A character of the lower half as it is shown. -/
def visibleLow (c : Char) : ByteText :=
  if c.toNat < 0x20 then ['^', Char.ofNat (c.toNat + 0x40)]
  else if c = '\x7f' then ['^', '?']
  else [c]

/-- A character as it is shown. -/
def visible (c : Char) : ByteText :=
  if c.toNat < 0x80 then visibleLow c else ['M', '-'] ++ visibleLow (Char.ofNat (c.toNat - 0x80))

/-- A character inside a line as it is shown. -/
def shownChar (setting : Showing) (c : Char) (next : Option Char) : ByteText :=
  if c = '\t' then (if setting.marksTabs then ['^', 'I'] else [c])
  else if setting.marksOthers then visible c
  else if c = '\r' && next = some '\n' && setting.marksEnds then ['^', 'M']
  else [c]

/-- The number in front of a line. -/
def lineNumber (line : Nat) : ByteText :=
  let digits := ByteText.ofNat line
  List.replicate (6 - digits.length) ' ' ++ digits ++ ['\t']

/-- Show a content; the answer comes with the state for the next one. -/
def showContent (setting : Showing) : ShowingState → ByteText → ByteText × ShowingState
  | state, [] => ([], state)
  | state, c :: rest =>
      let isEmptyLine := state.isStart && c = '\n'
      let blanks := if isEmptyLine then state.blanks + 1 else if state.isStart then 0
        else state.blanks
      if setting.squeezes && isEmptyLine && blanks > 1 then
        showContent setting { state with blanks } rest
      else
        let isNumbered := state.isStart && setting.numbers && !(setting.onlyFilled && isEmptyLine)
        let number := if isNumbered then lineNumber state.line else []
        let text :=
          if c = '\n' then (if setting.marksEnds then ['$', '\n'] else ['\n'])
          else shownChar setting c rest.head?
        let line := if isNumbered then state.line + 1 else state.line
        let (others, last) := showContent setting { line, isStart := c = '\n', blanks } rest
        (number ++ text ++ others, last)

/-- Whether an operand is the file that the output goes to, which is not empty. -/
def isOwnOutput (operand : ByteText) : Work Bool := do
  match (← read).outputPlace?, ← entry true operand with
  | some place, .ok (location, .file file) =>
      return place = location && !file.content.isEmpty && operand ≠ ['-']
  | _, _ => return false

/-- Show contents one after the other. -/
def showAll (setting : Showing) : ShowingState → List ByteText → Work Unit
  | _, [] => return ()
  | state, operand :: rest => do
      match ← content operand with
      | .error fault => do
          complainOf (quotedIfNeeded operand) fault
          showAll setting state rest
      | .ok text =>
          if ← isOwnOutput operand then do
            complain (quotedIfNeeded operand ++ ": input file is output file".toList)
            showAll setting state rest
          else do
            let (shown, state) := showContent setting state text
            print shown
            showAll setting state rest

/-- Join contents. -/
def cat : Tool := toTool do
  let arguments ← arguments [flag 'A' "show-all", flag 'b' "number-nonblank",
      letterOnly 'e' "ends-others",
    flag 'E' "show-ends", flag 'n' "number", flag 's' "squeeze-blank", letterOnly 't' "tabs-others",
    flag 'T' "show-tabs", letterOnly 'u' "ignored", flag 'v' "show-nonprinting"]
  let hasAny := fun (words : List String) => words.any arguments.has
  let setting : Showing := {
    numbers := hasAny ["number", "number-nonblank"], onlyFilled := arguments.has "number-nonblank"
    squeezes := arguments.has "squeeze-blank"
    marksEnds := hasAny ["show-all", "ends-others", "show-ends"]
    marksTabs := hasAny ["show-all", "tabs-others", "show-tabs"]
    marksOthers := hasAny ["show-all", "ends-others", "tabs-others", "show-nonprinting"] }
  showAll setting {} (if arguments.operands.isEmpty then [['-']] else arguments.operands)

/-! ## Writing to several files -/

/-- Write the input to files as well. -/
def tee : Tool := toTool do
  let arguments ← arguments [flag 'a' "append", flag 'i' "ignore-interrupts",
      letterOnly 'p' "pipes",
    optionOf [] "output-error" .perhaps]
  for value in (arguments.values "output-error").filter (!·.isEmpty) do
    let _ ← chosen [["warn"], ["warn-nopipe"], ["exit"], ["exit-nopipe"]] "output-error" value
  let text ← takeInput
  for operand in arguments.operands do
    if let some fault ← write (arguments.has "append") operand text then
      complainOf (quotedIfNeeded operand) fault
  print text

/-! ## Lines -/

/-- The lines of a text with their ends. -/
def endedLines (ending : Char) : ByteText → List ByteText
  | [] => []
  | c :: rest =>
      if c = ending then
        [c] :: endedLines ending rest
      else
        match endedLines ending rest with
        | [] => [[c]]
        | first :: others => (c :: first) :: others

end Provision.Shell.Tool
