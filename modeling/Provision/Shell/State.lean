import Provision.Plan.Basic
import Provision.Shell.Syntax
import Provision.Shell.Tool.Places
import Provision.Text.Decimal

namespace Provision.Shell

/-!
# The state of a shell

A shell has variables, functions, options and descriptors.  A descriptor is connected with an open
file, which knows how far it has been read and written; open files and buffers belong to all shells
of a run together.
-/

/-- What an open file gives and takes. -/
inductive Stream where
  | buffer (number : Nat)
  | file (location : Location)
  | directory
  | nothing
  | zeros
  | full
  deriving DecidableEq

/-- An open file: what it stands for, how far it has been used, and what it may be used for. -/
structure OpenFile where
  stream : Stream
  offset : Nat := 0
  appends : Bool := false
  isReadable : Bool := true
  isWritable : Bool := true
  deriving DecidableEq

/-- Why a shell does not go on with the next command. -/
inductive Halt where
  | exited (status : Nat)
  | failed
  | killed (signal : Nat)
  | returned (status? : Option Nat)
  | broken (levels : Nat)
  | continued (levels : Nat)
  | exhausted
  deriving Repr, DecidableEq

/-- What a variable held before a function made it its own. -/
structure SavedVariable where
  name : ByteText
  value? : Option ByteText
  isExported : Bool
  isFixed : Bool

/--
A part of a script that runs, or has run, beside the rest of it.  One that starts with sleeping is
run when it wakes up; a signal may end it before that.  The number of one that has been waited for
may be given to another one.
-/
structure Job where
  number : Nat
  processId : Nat
  status : Nat := 0
  wakesAt : Nat := 0
  sleeping? : Option Statement := none
  signal? : Option Nat := none
  isAwaited : Bool := false

/-- A moment by which a process has to be at its end, or else it gets a signal. -/
structure Deadline where
  time : Nat
  signal : Nat

/--
The state of a shell.  The place is the text of the working directory as the shell came to it.  The
command is the one that the shell carries out itself just now.  A buffer holds its parts with the
last one first.  A shell for a part of a script knows what the shell around it does about signals.
An option place is the argument that is next to be looked at for options, with the letters of the
one before it that are left.  The trap status is the one that the shell had when the signal arrived
about which it does something just now.  The clock counts the time that has been slept, in parts of
a second; at some moment there may be a signal that ends the process.  What was captured last is the
status of the script whose output has been put into a word.
-/
structure State where
  disk : Disk
  workingDirectory : Location
  place : ByteText := []
  mask : Nat := 0o022
  bindings : List (ByteText × ByteText) := []
  exported : List ByteText := []
  fixed : List ByteText := []
  locals : List SavedVariable := []
  options : List Char := []
  optionPlace : Nat × ByteText := (1, [])
  traps : List (Nat × ByteText) := []
  outerTraps? : Option (List (Nat × ByteText)) := none
  pending : List Nat := []
  trapStatus? : Option Nat := none
  loops : Nat := 0
  depth : Nat := 0
  name : ByteText := []
  arguments : List ByteText := []
  functions : List (ByteText × Statement) := []
  aliases : List (ByteText × ByteText) := []
  known : List ByteText := []
  jobs : List Job := []
  lastJob? : Option Nat := none
  clock : Nat := 0
  deadline? : Option Deadline := none
  niceness : Nat := 0
  descriptors : List (Nat × Nat) := []
  openFiles : List (Nat × OpenFile) := []
  buffers : List (Nat × List ByteText) := []
  documents : List (Nat × Word) := []
  nextDocument : Nat := 0
  status : Nat := 0
  captured : Nat := 0
  ended : ExitStatus := .exited 0
  line : Nat := 1
  command : ByteText := []
  processId : Nat := 0
  nextProcess : Nat := 0

/-- A part of a run of a shell, which may halt it. -/
abbrev Run (α : Type) := ExceptT Halt (StateM State) α

/-- The order in which a table of some size holds names. -/
def tableRank (size : Nat) (name : ByteText) : Nat :=
  (name.foldl (fun sum c => sum + c.toNat) (16 * (name.head?.elim 0 Char.toNat))) % size

/-- Insert an item into a list in the order of a rank, after those of the same rank. -/
def insertRanked {α : Type} (rank : α → Nat) (item : α) : List α → List α
  | [] => [item]
  | first :: rest =>
      if rank first ≤ rank item then first :: insertRanked rank item rest
      else item :: first :: rest

/-- Items in the order of a rank. -/
def ranked {α : Type} (rank : α → Nat) (items : List α) : List α :=
  items.foldl (fun sorted item => insertRanked rank item sorted) []

namespace State

/-! ## Variables -/

/-- The value of a variable. -/
def valueOf? (state : State) (name : ByteText) : Option ByteText :=
  state.bindings.lookup name

/-- Set a variable. -/
def setVariable (state : State) (name value : ByteText) : State :=
  { state with bindings := Keyed.update name value state.bindings }

/-- A variable holds the value that it was set to. -/
theorem valueOf?_setVariable
    (state : State)
    (name value : ByteText) :
    (state.setVariable name value).valueOf? name = some value := by
  simp [valueOf?, setVariable]

/-- Setting a variable changes no other. -/
theorem valueOf?_setVariable_of_ne
    (state : State)
    {name other : ByteText}
    (value : ByteText)
    (different : other ≠ name) :
    (state.setVariable name value).valueOf? other = state.valueOf? other :=
  Keyed.lookup_update_of_ne value state.bindings different

/-- Forget a variable. -/
def dropVariable (state : State) (name : ByteText) : State :=
  { state with
    bindings := Keyed.drop name state.bindings
    exported := state.exported.filter (· ≠ name) }

/-- Show a variable to child processes. -/
def showVariable (state : State) (name : ByteText) : State :=
  if name ∈ state.exported then state else { state with exported := name :: state.exported }

/-- Set a variable that child processes see. -/
def exportVariable (state : State) (name value : ByteText) : State :=
  (state.setVariable name value).showVariable name

/-- The variables that child processes see. -/
def environment (state : State) : List (ByteText × ByteText) :=
  ranked (fun (name, _) => tableRank 39 name)
    (state.bindings.filter fun (name, _) => name ∈ state.exported)

/-- What a variable holds, so that it can be restored. -/
def saved (state : State) (name : ByteText) : SavedVariable :=
  ⟨name, state.valueOf? name, name ∈ state.exported, name ∈ state.fixed⟩

/-- The letters of the options as one value. -/
def optionsName : ByteText := ['-']

/-- Give a variable back what it held. -/
def restore (state : State) (held : SavedVariable) : State :=
  if held.name = optionsName then
    { state with options := held.value?.getD [] }
  else
    let dropped := state.dropVariable held.name
    let restored := held.value?.elim dropped (dropped.setVariable held.name)
    let shown := if held.isExported then restored.showVariable held.name else restored
    let fixed := shown.fixed.filter (· ≠ held.name)
    { shown with fixed := if held.isFixed then held.name :: fixed else fixed }

/-- Give variables back what they held in another state. -/
def restoreVariables (names : List ByteText) (before after : State) : State :=
  names.foldl (fun state name => state.restore (before.saved name)) after

/-- Make a variable one of the running function, unless it is one already. -/
def makeLocal (state : State) (name : ByteText) : State :=
  if state.locals.any (·.name = name) then
    state
  else
    let held :=
      if name = optionsName then ⟨name, some state.options, false, false⟩ else state.saved name
    { state with locals := held :: state.locals }

/-- Give the variables of a function back what they held before it. -/
def restoreLocals (state : State) : State :=
  state.locals.foldl restore state

/-- Whether an option is set. -/
def has (state : State) (option : Char) : Bool :=
  state.options.contains option

/-- The characters at which values are cut into fields. -/
def separators (state : State) : ByteText :=
  (state.valueOf? "IFS".toList).getD [' ', '\t', '\n']

/-- What stands between arguments that are joined. -/
def joint (state : State) : ByteText :=
  state.separators.take 1

/-- All arguments as one text. -/
def joinedArguments (state : State) : ByteText :=
  state.joint.intercalate state.arguments

/-! ## Buffers -/

/-- The content of a buffer. -/
def buffer (state : State) (number : Nat) : ByteText :=
  ((state.buffers.lookup number).getD []).reverse.flatten

/-- Set the content of a buffer. -/
def setBuffer (state : State) (number : Nat) (content : ByteText) : State :=
  { state with buffers := Keyed.put number [content] state.buffers }

/-- A buffer holds the content that it was given. -/
theorem buffer_setBuffer
    (state : State)
    (number : Nat)
    (content : ByteText) :
    (state.setBuffer number content).buffer number = content := by
  simp [buffer, setBuffer]

/-- Add a text to a buffer. -/
def fillBuffer (state : State) (number : Nat) (text : ByteText) : State :=
  { state with
    buffers := Keyed.put number (text :: (state.buffers.lookup number).getD []) state.buffers }

/-- What is added to a buffer comes after what it holds. -/
theorem buffer_fillBuffer
    (state : State)
    (number : Nat)
    (text : ByteText) :
    (state.fillBuffer number text).buffer number = state.buffer number ++ text := by
  simp [fillBuffer, buffer]

/-- Forget a buffer that nothing is connected with. -/
def dropBuffer (state : State) (number : Nat) : State :=
  { state with buffers := Keyed.drop number state.buffers }

/-- A buffer that is not in use. -/
def freshBuffer (state : State) : Nat :=
  state.buffers.foldl (fun bound (number, _) => max bound (number + 1)) 0

/-! ## Descriptors -/

/-- Connect a descriptor with a file that is opened for it. -/
def connect (state : State) (descriptor : Nat) (file : OpenFile) : State :=
  let number := state.openFiles.foldl (fun bound (number, _) => max bound (number + 1)) 0
  { state with
    openFiles := (number, file) :: state.openFiles
    descriptors := Keyed.put descriptor number state.descriptors }

/-- Connect a descriptor with what another one is connected with. -/
def copyDescriptor (state : State) (descriptor number : Nat) : State :=
  { state with descriptors := Keyed.put descriptor number state.descriptors }

/-- Close a descriptor. -/
def disconnect (state : State) (descriptor : Nat) : State :=
  { state with descriptors := Keyed.drop descriptor state.descriptors }

/-- The open file that a descriptor is connected with, and its number. -/
def openFile? (state : State) (descriptor : Nat) : Option (Nat × OpenFile) := do
  let number ← state.descriptors.lookup descriptor
  let file ← state.openFiles.lookup number
  return (number, file)

/-- Whether a descriptor can be written to. -/
def canWrite (state : State) (descriptor : Nat) : Bool :=
  (state.openFile? descriptor).any fun (_, file) => file.isWritable && file.stream ≠ .full

/-- Set how far an open file has been used. -/
def setOffset (state : State) (number offset : Nat) : State :=
  match state.openFiles.lookup number with
  | some file =>
      { state with openFiles := Keyed.put number { file with offset } state.openFiles }
  | none => state

/-- The content of a file after a text has been written at a position in it. -/
def writtenAt (offset : Nat) (text : Bytes) (file : File) : File :=
  if offset = file.content.length then
    file.extended text
  else
    let gap := List.replicate (offset - file.content.length) 0
    file.rewritten
      (file.content.take offset ++ gap ++ text ++ file.content.drop (offset + text.length))

/-- Write to a descriptor. -/
def write (state : State) (descriptor : Nat) (text : ByteText) : State :=
  match state.openFile? descriptor with
  | some (number, ⟨stream, offset, appends, _, true⟩) =>
      match stream with
      | .buffer buffer => state.fillBuffer buffer text
      | .file location =>
          if text.isEmpty then
            state
          else
            let size :=
              match state.disk.get? location with
              | some (.file file) => file.content.length
              | _ => 0
            let start := if appends then size else offset
            let disk := state.disk.updateFile location (writtenAt start text.toBytes)
            { state with disk }.setOffset number (start + text.length)
      | _ => state
  | _ => state

/-- What is written to a descriptor comes after what its buffer holds. -/
theorem buffer_write
    (state : State)
    (descriptor number buffer : Nat)
    (file : OpenFile)
    (text : ByteText)
    (connected : state.openFile? descriptor = some (number, file))
    (isBuffer : file.stream = .buffer buffer)
    (isWritable : file.isWritable = true) :
    (state.write descriptor text).buffer buffer = state.buffer buffer ++ text := by
  obtain ⟨stream, offset, appends, isReadable, isWritable'⟩ := file
  subst isBuffer isWritable
  simp [write, connected, buffer_fillBuffer]

/-- All that can still be read from an open file. -/
def rest (state : State) (file : OpenFile) : ByteText :=
  match file.stream with
  | .buffer number => if file.isReadable then state.buffer number else []
  | .file location =>
      match state.disk.get? location with
      | some (.file content) =>
          if file.isReadable then .ofBytes (content.content.drop file.offset) else []
      | _ => []
  | .zeros | .full => if file.isReadable then zeros else []
  | _ => []

/-- All that can still be read from a descriptor. -/
def unread (state : State) (descriptor : Nat) : ByteText :=
  (state.openFile? descriptor).elim [] fun (_, file) => state.rest file

/-- Leave so much of what can be read from a descriptor; the rest of it has been read. -/
def leave (state : State) (descriptor : Nat) (before left : ByteText) : State :=
  match state.openFile? descriptor with
  | some (number, file) =>
      match file.stream with
      | .buffer buffer =>
          if left.length = before.length then state else state.setBuffer buffer left
      | .file _ => state.setOffset number (file.offset + (before.length - left.length))
      | _ => state
  | none => state

/-- Why nothing can be read from a descriptor. -/
def readFault? (state : State) (descriptor : Nat) : Option DiskFault :=
  match state.openFile? descriptor with
  | none => some (.refused .badDescriptor)
  | some (_, file) =>
      if !file.isReadable then some (.refused .badDescriptor)
      else if file.stream = .directory then some (.refused .isDirectory)
      else none

/-! ## Parameters -/

/-- The options in the order in which the shell names them. -/
def optionOrder : List Char :=
  ['u', 'b', 'a', 'C', 'E', 'V', 'v', 'x', 's', 'n', 'm', 'i', 'I', 'f', 'e']

/-- The values of special parameters. -/
def special? (state : State) (name : ByteText) : Option ByteText :=
  match name with
  | ['@'] | ['*'] => some state.joinedArguments
  | ['#'] => some (.ofNat state.arguments.length)
  | ['?'] => some (.ofNat state.status)
  | ['$'] => some (.ofNat state.processId)
  | ['!'] => state.lastJob?.map .ofNat
  | ['-'] => some (optionOrder.filter state.has)
  | _ =>
      match Text.decimal? name with
      | some 0 => some state.name
      | some position => state.arguments[position - 1]?
      | none => none

/-- The value of a parameter. -/
def parameter? (state : State) (name : ByteText) : Option ByteText :=
  (state.special? name).orElse fun _ => state.valueOf? name

/-! ## Commands -/

/-- How a line of the shell starts: its name and a line number. -/
def heading (state : State) : ByteText :=
  state.name ++ ": ".toList ++ ByteText.ofNat state.line ++ ": ".toList

/-- A line of the shell about what it does, with the command that it carries out. -/
def complaint (state : State) (text : ByteText) : ByteText :=
  let command := if state.command.isEmpty then [] else state.command ++ ": ".toList
  state.heading ++ command ++ text ++ ['\n']

/-- The place of the file that a descriptor is connected with. -/
def placeOf? (state : State) (descriptor : Nat) : Option Location :=
  match state.openFile? descriptor with
  | some (_, ⟨.file location, _, _, _, _⟩) => some location
  | _ => none

/-- The size of the file that a descriptor is connected with. -/
def sizeOf? (state : State) (descriptor : Nat) : Option Nat :=
  match state.placeOf? descriptor with
  | some location =>
      match state.disk.get? location with
      | some (.file file) => some file.content.length
      | _ => none
  | none => none

/-- The call of a tool. -/
def call (state : State) (name : ByteText) (arguments : List ByteText) : Call where
  name := name
  arguments := arguments
  input := state.unread 0
  inputSize? := state.sizeOf? 0
  inputFault? := state.readFault? 0
  outputPlace? := state.placeOf? 1
  disk := state.disk
  workingDirectory := state.workingDirectory
  mask := state.mask
  niceness := state.niceness
  environment := state.environment

end State

end Provision.Shell

namespace Provision.Shell.Run

/-!
# Parts of a run

What commands do to the shell that carries them out: they set the status, print, complain, set
variables and halt it.
-/

/-- Set the status. -/
def finish (status : Nat) : Run Unit :=
  modify fun state => { state with status }

/-- Complain, and set the status. -/
def complain (status : Nat) (text : ByteText) : Run Unit :=
  modify fun state => { state.write 2 (state.complaint text) with status }

/-- Halt. -/
def halt {α : Type} (reason : Halt) : Run α :=
  throw reason

/-- Complain and fail. -/
def fail {α : Type} (text : ByteText) : Run α := do
  complain 2 text
  halt .failed

/-- Write to the output. -/
def print (text : ByteText) : Run Unit :=
  modify fun state => { state.write 1 text with status := 0 }

/-- The wording of a text that is no number. -/
def illegalNumber (text : ByteText) : ByteText :=
  "Illegal number: ".toList ++ text

/-- What setting a variable does besides. -/
def noteAssignment (name value : ByteText) : Run Unit := do
  if name = "OPTIND".toList then
    match Text.decimal? value with
    | some place => modify fun state => { state with optionPlace := (max place 1, []) }
    | none => fail (illegalNumber value)
  else if name = "PATH".toList then
    modify fun state => { state with known := [] }

/-- Set a variable, unless it is to keep its value. -/
def assign (name value : ByteText) : Run Unit := do
  let state ← get
  if name ∈ state.fixed then
    fail (name ++ ": is read only".toList)
  else
    noteAssignment name value
    modify fun state =>
      let assigned := state.setVariable name value
      if state.has 'a' then assigned.showVariable name else assigned

/-- Forget a variable, unless it is to keep its value. -/
def forget (name : ByteText) : Run Unit := do
  if name ∈ (← get).fixed then
    fail (name ++ ": is read only".toList)
  else
    modify fun state => state.dropVariable name

/-- Refuse a name that no variable can have. -/
def requireName (name : ByteText) : Run Unit := do
  if !ByteText.isName name then
    fail (name ++ ": bad variable name".toList)

/-- The letters of options in front of arguments, and the arguments after them. -/
def takeOptions (allowed : List Char) : List ByteText → Run (List Char × List ByteText)
  | [] => return ([], [])
  | argument :: rest =>
      match argument with
      | ['-', '-'] => return ([], rest)
      | '-' :: first :: letters => do
          match (first :: letters).find? (!allowed.contains ·) with
          | some letter => fail ("Illegal option -".toList ++ [letter])
          | none => do
              let (others, rest) ← takeOptions allowed rest
              return (first :: letters ++ others, rest)
      | _ => return ([], argument :: rest)

end Provision.Shell.Run
