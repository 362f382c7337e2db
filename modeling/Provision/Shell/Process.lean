import Provision.Shell.Builtin.Directories
import Provision.Shell.Builtin.Names
import Provision.Shell.Builtin.Signals
import Provision.Shell.Builtin.Variables

namespace Provision.Shell

/-!
# Commands that the shell carries out itself

Most of them work on the state of the shell alone, some are tools, and a few run scripts or
programs.
-/

/-- How the shell carries out a command itself. -/
inductive Builtin where
  | plain (act : List ByteText → Run Unit)
  | tool (tool : Tool)
  | evaluate
  | readScript
  | replace

namespace Builtin

open Run

/-! ## Leaving -/

/-- Leave a number of loops, as far as there are so many. -/
def leave (reason : Nat → Halt) (arguments : List ByteText) : Run Unit := do
  let count ← countOf 1 arguments
  let loops := (← get).loops
  finish 0
  if count = 0 then
    fail (illegalNumber (arguments.head?.getD []))
  else if loops ≠ 0 then
    halt (reason (min count loops))

/-- Leave the shell. -/
def exit (arguments : List ByteText) : Run Unit := do
  let state ← get
  halt (.exited (← countOf (state.trapStatus?.getD state.status) arguments))

/-- Leave a function or a script that has been included. -/
def leaveFunction (arguments : List ByteText) : Run Unit := do
  if arguments.isEmpty then
    halt (.returned none)
  else
    halt (.returned (some (← countOf 0 arguments)))

/-! ## Commands in front of others -/

/--
The command that comes after options of which only one is known, and whether that one is there; it
says that programs are looked for at the usual places.
-/
def plainCommand? (isUsual : Bool) : List ByteText → Option (Bool × List ByteText)
  | [] => none
  | argument :: rest =>
      match argument with
      | ['-', '-'] => if rest.isEmpty then none else some (isUsual, rest)
      | '-' :: c :: letters =>
          if (c :: letters).all (· = 'p') then plainCommand? true rest else none
      | _ => some (isUsual, argument :: rest)

/-- Tell what the first of some names stands for. -/
def describeFirst (arguments : List ByteText) : Run Unit := do
  let (letters, names) ← takeOptions ['p', 'v', 'V'] arguments
  let state ← get
  let path := if letters.contains 'p' then usualPath else state.searchPath
  match names with
  | name :: _ =>
      if letters.any (· ≠ 'p') then
        finish (← describe (letters.contains 'V') path name)
      else
        finish 0
  | [] => finish 0

/-- Whether the first arguments are names with values, which are no fields to be cut. -/
def isAssigning (name : ByteText) : Bool :=
  ["alias", "export", "local", "readonly"].any (·.toList = name)

/-! ## All of them -/

/-- The commands by name, but for the one that is put in front of others. -/
def all : List (String × Builtin) := [
  (".", .readScript), (":", .plain fun _ => finish 0), ("[", .tool Tool.shellBracket),
  ("alias", .plain setAliases), ("bg", .plain resume), ("break", .plain (leave .broken)),
  ("cd", .plain cd), ("chdir", .plain cd), ("command", .plain describeFirst),
  ("continue", .plain (leave .continued)), ("echo", .tool Tool.shellEcho), ("eval", .evaluate),
  ("exec", .replace), ("exit", .plain exit), ("export", .plain exportVariables),
  ("false", .plain fun _ => finish 1), ("fg", .plain resume), ("getopts", .plain getopts),
  ("hash", .plain hash), ("jobs", .plain jobs), ("kill", .plain kill),
  ("local", .plain declareLocals), ("printf", .tool Tool.shellPrintf), ("pwd", .plain pwd),
  ("read", .plain read), ("readonly", .plain protect), ("return", .plain leaveFunction),
  ("set", .plain setOptions), ("shift", .plain shift), ("test", .tool Tool.shellTest),
  ("times", .plain times), ("trap", .plain trap), ("true", .plain fun _ => finish 0),
  ("type", .plain describeAll), ("ulimit", .plain fun _ => print "unlimited\n".toList),
  ("umask", .plain umask), ("unalias", .plain dropAliases), ("unset", .plain unset),
  ("wait", .plain wait)]

/-- The command with a name. -/
def ofName? (name : ByteText) : Option Builtin :=
  (all.find? fun (other, _) => other.toList = name).map Prod.snd

end Builtin

end Provision.Shell

namespace Provision.Shell

/-!
# Processes of a shell

A shell starts processes with a part of its own state, and takes over what they leave when they end.
A part of a script may run in a shell of its own, which starts with all that the shell around it
has.
-/

open Run

/-! ## Ends -/

/-- How a shell that halts has ended. -/
def statusOf (state : State) : Except Halt Unit → ExitStatus
  | .error (.exited status) => .exited (status % 256)
  | .error (.killed signal) => .killed signal
  | .error (.returned status?) => .exited (status?.getD state.status % 256)
  | .error .failed => .exited 2
  | .error .exhausted => .killed 9
  | _ => .exited (state.status % 256)

/-- The status that a shell gives to a process that has ended. -/
def shellStatus : ExitStatus → Nat
  | .exited code => code
  | .killed signal => 128 + signal

/-- Do something to the state after a part of a run, however that part ends. -/
def Run.thenAlways {α : Type} (part : Run α) (change : State → State) : Run α := do
  let (outcome, after) := part.run.run (← get)
  set (change after)
  liftExcept outcome

/-! ## Tools -/

/-- Texts that are printed to the same place one after the other, as one text. -/
def mergePrints (prints : List Print) : List Print :=
  prints.foldr
    (fun print merged =>
      match merged with
      | next :: rest =>
          if next.isError = print.isError then ⟨print.isError, print.text ++ next.text⟩ :: rest
          else print :: merged
      | [] => [print])
    []

/-- Take the outcome of a call of a tool over. -/
def takeOutcome (call : Call) (outcome : Outcome) : Run Unit := do
  modify fun state => { state with disk := outcome.disk }.leave 0 call.input outcome.unread
  for print in mergePrints outcome.prints do
    modify fun state => state.write (if print.isError then 2 else 1) print.text
  modify fun state =>
    { state with status := outcome.status, ended := .exited outcome.status }

/-- Carry out a tool in the shell, which complains if its output has been closed. -/
def runOwnTool (tool : Tool) (name : ByteText) (arguments : List ByteText) : Run Unit := do
  let state ← get
  let call := state.call (state.heading ++ name) arguments
  let outcome := tool call
  takeOutcome call outcome
  if !outcome.output.isEmpty && !state.canWrite 1 then
    complain 1 (name ++ ": I/O error".toList)

/-- Carry out a tool in a process of its own; the answer is what it leaves. -/
def runToolProcess (tool : Tool) (call : Call) : Run Outcome := do
  let state ← get
  let outcome := tool call
  takeOutcome call outcome
  if !outcome.output.isEmpty && !state.canWrite 1 then
    let isOpen := (state.openFile? 1).any fun (_, file) => file.isWritable
    let reason := if isOpen then "No space left on device\n" else "Bad file descriptor\n"
    let line := call.name ++ ": write error: ".toList ++ reason.toList
    modify fun state => { state.write 2 line with status := 1, ended := .exited 1 }
  return outcome

/-! ## New shells -/

/-- The variables that every shell has. -/
def initialVariables : List (ByteText × ByteText) :=
  [("IFS", " \t\n"), ("PATH", String.ofList usualPath), ("PS1", "# "), ("PS2", "> "),
    ("PS4", "+ "), ("OPTIND", "1")].map fun (name, value) => (name.toList, value.toList)

/-- The variables that a shell starts with. -/
def startVariables (parent : Nat) (environment : List (ByteText × ByteText)) :
    List (ByteText × ByteText) :=
  let own := fun (name, _) => name ∈ ["IFS".toList, "OPTIND".toList]
  let imported := environment.filter fun item => ByteText.isName item.1 && !own item
  let all := imported.foldl (fun all (name, value) => Keyed.update name value all) initialVariables
  Keyed.update "PPID".toList (.ofNat parent) all

/-- Where a process starts, as far as the variable for that tells the truth. -/
def startingPlace (state : State) : ByteText :=
  let here := ByteText.ofPath (Disk.pathOf state.workingDirectory)
  match state.valueOf? "PWD".toList with
  | some place =>
      let isTrue :=
        match state.disk.entryAt state.workingDirectory true place.toPath with
        | .ok (location, _) => place.head? = some '/' && location = state.workingDirectory
        | .error _ => false
      if isTrue then place else here
  | none => here

/-- The state of a new shell. -/
def newShell (state : State) (environment : List (ByteText × ByteText)) (options : List Char)
    (name : ByteText) (arguments : List ByteText) : State :=
  let child : State :=
    { disk := state.disk
      workingDirectory := state.workingDirectory
      mask := state.mask
      bindings := startVariables state.processId environment
      exported := environment.map Prod.fst
      traps := state.traps.filter fun item => item.2.isEmpty
      descriptors := state.descriptors
      openFiles := state.openFiles
      buffers := state.buffers
      clock := state.clock
      deadline? := state.deadline?
      niceness := state.niceness
      processId := state.nextProcess
      nextProcess := state.nextProcess + 1
      name, arguments, options }
  let place := startingPlace child
  { child.exportVariable "PWD".toList place with place }

/-- The signals that have arrived at a process, and another one that has just arrived at a child. -/
def State.pendingWith (state child : State) : List Nat :=
  match state.deadline?, child.deadline? with
  | some deadline, none => state.pending ++ [deadline.signal]
  | _, _ => state.pending

/-- What stays of a shell that has ended. -/
def afterShell (state child : State) (ended : ExitStatus) : State :=
  { state with
    clock := child.clock
    deadline? := child.deadline?
    pending := state.pendingWith child
    disk := child.disk
    buffers := child.buffers
    openFiles := child.openFiles
    nextProcess := child.nextProcess
    status := shellStatus ended
    ended }

/-- Read the text of a script in a file. -/
def readScriptFile (path : ByteText) : Run (Except DiskFault ByteText) := do
  let state ← get
  if namesInput path then
    let text := state.unread 0
    set (state.leave 0 text [])
    return .ok text
  else
    match Device.ofPath? path with
    | some _ => return .ok []
    | none =>
        match state.disk.readFile state.workingDirectory path.toPath with
        | .ok bytes => return .ok ((ByteText.ofBytes bytes).filter (· ≠ '\x00'))
        | .error (.refused .isDirectory) => return .ok []
        | .error fault => return .error fault

/-! ## Parts of a script -/

/-- Remember the program that a part of a pipeline is, as far as its name is plain. -/
def noteProgram : Statement → Run Unit
  | .simple _ _ (word :: _) _ => do
      let state ← get
      let name := (Word.plainText? word).getD []
      let isOther := (state.functions.lookup name).isSome || Builtin.isBuiltin name
      if ByteText.isName name && !isOther && (state.programPaths state.searchPath name).isOk then
        remember name
  | _ => return ()

/-- The state of a part of the script that runs in a shell of its own. -/
def subshellState (state : State) : State :=
  { state with
    traps := state.traps.filter fun item => item.2.isEmpty
    outerTraps? := some (state.outerTraps?.getD state.traps)
    pending := []
    trapStatus? := none
    jobs := [] }

/-- What stays of a part of the script that ran in a shell of its own. -/
def afterSubshell (state inner : State) (status : Nat) : State :=
  { state with
    disk := inner.disk
    buffers := inner.buffers
    openFiles := inner.openFiles
    clock := inner.clock
    deadline? := inner.deadline?
    pending := state.pending ++ inner.pending
    nextProcess := inner.nextProcess
    status }

/-- Have a part of a script write to a buffer. -/
def withOutput (number : Nat) (state : State) : State :=
  state.connect 1 { stream := .buffer number, isReadable := false }

/-- Have a part of a script read from a buffer. -/
def withInput (number : Nat) (state : State) : State :=
  state.connect 0 { stream := .buffer number, isWritable := false }

/-- Have a part of a script read nothing. -/
def withoutInput (state : State) : State :=
  state.connect 0 { stream := .nothing, isWritable := false }

/-- Give some descriptors back what they were connected with before. -/
def restoreDescriptors (which : List Nat) (before after : State) : State :=
  which.foldl
    (fun state descriptor =>
      match before.descriptors.lookup descriptor with
      | some number => state.copyDescriptor descriptor number
      | none => state.disconnect descriptor)
    after

/-! ## Sleeping -/

/-- A number for another part of a script that runs beside the rest. -/
def State.freshJob (state : State) : Nat :=
  let isFree := fun number => state.jobs.all fun job =>
    job.number ≠ number || (job.isAwaited && job.sleeping?.isNone)
  ((List.range (state.jobs.length + 1)).find? fun i => isFree (i + 1)).getD 0 + 1

/-- The time that a command with the given words sleeps. -/
def sleepOfWords (words : List Word) : Option Nat :=
  match words.mapM Word.plainText? with
  | some (name :: operands) =>
      if name = "sleep".toList then
        (operands.mapM Tool.duration?).bind fun times =>
          let total := times.foldl (· + ·) 0
          if total = 0 then none else some total
      else
        none
  | _ => none

/-- The time that a part of a script sleeps before it does anything else, looked for to a depth. -/
def sleepOf : Nat → Statement → Option Nat
  | 0, _ => none
  | depth + 1, statement =>
      match statement with
      | .simple _ [] words _ => sleepOfWords words
      | .sequence (first :: _) => sleepOf depth first
      | .both first _ => sleepOf depth first
      | .either first _ => sleepOf depth first
      | .subshell body => sleepOf depth body
      | .redirected _ body _ => sleepOf depth body
      | _ => none

/-- The parts of a script that sleep and wake up until some time, with the first one in front. -/
def State.dueJobs (state : State) (time : Nat) : List Job :=
  ranked Job.wakesAt (state.jobs.filter fun job => job.sleeping?.isSome && job.wakesAt ≤ time)

/-- The time until which some jobs sleep, or all of them if none is named. -/
def State.wakingTime (state : State) (operands : List ByteText) : Nat :=
  let named := fun (job : Job) =>
    operands.isEmpty || operands.any fun operand =>
      operand = .ofNat job.processId || operand = '%' :: ByteText.ofNat job.number ||
        operand ∈ [['%', '%'], ['%', '+'], ['%']]
  (state.jobs.filter named).foldl (fun time job => max time job.wakesAt) state.clock

/-! ## Deadlines -/

/-- A process that has come to its deadline, just after which it has been ended. -/
def State.expired (state : State) (deadline : Deadline) : State :=
  { state with
    clock := max state.clock (deadline.time + 1)
    deadline? := none
    status := 128 + deadline.signal
    ended := .killed deadline.signal }

/-- Give a deadline to what is run next, unless another one comes earlier. -/
def State.withLimit (state : State) (limit : TimeLimit) : State :=
  let time := state.clock + limit.time
  if !Signal.endsProcess limit.signal || state.deadline?.any (·.time ≤ time) then
    state
  else
    { state with deadline? := some ⟨time, limit.signal⟩ }

/-- What the tool that has set a limit leaves after the program has ended in another state. -/
def State.afterLimit (state : State) (limit : TimeLimit) (name : ByteText) (command : ByteText)
    (after : State) : State :=
  let time := state.clock + limit.time
  let isOver := state.deadline?.any (·.time < after.clock)
  let after := { after with
    deadline? := if isOver then none else state.deadline?
    pending := state.pending ++
      if isOver then (state.deadline?.map Deadline.signal).toList else [] }
  if after.clock ≤ time then
    after
  else
    let line := name ++ ": sending signal ".toList ++ Signal.eventName limit.signal ++
      " to command ".toList ++ Tool.quoted command ++ ['\n']
    let after := if limit.isTold then after.write 2 line else after
    if limit.signal = 9 && !limit.isAlone then
      { after with status := 137, ended := .killed 9 }
    else
      let status := if limit.keepsStatus || limit.signal = 9 then after.status else 124
      { after with status, ended := .exited status }

/-- Whether the shell is about to be ended by a signal. -/
def State.isEnding (state : State) (signal : Nat) : Bool :=
  state.pending.contains signal && (state.traps.lookup signal).isNone

end Provision.Shell
