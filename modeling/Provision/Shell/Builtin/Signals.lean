import Provision.Shell.Builtin.Variables
import Provision.Shell.Signal

namespace Provision.Shell.Builtin

/-!
# Signals and jobs

Signals are sent and waited for, and what is done when they arrive is chosen.  A part of a script
that runs beside the rest has ended when it is waited for.
-/

open Run Signal

/-! ## Sending -/

/-- How the command that sends signals is used. -/
def killUsage : ByteText :=
  ("Usage: kill [-s sigspec | -signum | -sigspec] [pid | job]... or\n" ++
    "kill -l [exitstatus]").toList

/-- The name of the signal that a status stands for. -/
def describeStatus (text : ByteText) : Run ByteText := do
  match Text.decimal? text with
  | none => fail (illegalNumber text)
  | some status =>
      let signal := if status > 128 then status - 128 else status
      if 1 ≤ signal && signal < 65 then return eventName signal
      else fail ("invalid signal number or exit status: ".toList ++ text)

/-- The job that a text with a percent sign names. -/
def jobOf (text : ByteText) : Run Job := do
  let jobs := (← get).jobs
  let found :=
    match text with
    | ['%', '%'] | ['%', '+'] | ['%'] => jobs.getLast?
    | '%' :: digits =>
        (Text.decimal? digits).bind fun number => jobs.find? (·.number = number)
    | _ => none
  match found with
  | some job => return job
  | none => fail ("No such job: ".toList ++ text)

/--
Receive a signal, which a part of the script in a shell of its own leaves to the shell around it.
-/
def receive (signal : Nat) : Run Unit := do
  let state ← get
  match if signal = 9 then none else (state.outerTraps?.getD state.traps).lookup signal with
  | some [] => return ()
  | action =>
      if action.isSome || state.outerTraps?.isSome then
        set { state with pending := state.pending ++ [signal] }
      else if endsProcess signal then
        halt (.killed signal)

/-- Change what is known of a part of a script that runs beside the rest. -/
def updateJob (number : Nat) (change : Job → Job) : Run Unit :=
  modify fun state =>
    { state with
      jobs := state.jobs.map fun job => if job.number = number then change job else job }

/-- Send a signal to a process; only the shell itself and what sleeps is still there to get it. -/
def sendTo (signal : Nat) (target : ByteText) : Run Unit := do
  let state ← get
  if target.head? = some '%' then
    let _ ← jobOf target
    complain 1 "No such process\n".toList
  else
    match Text.decimal? (if target.head? = some '-' then target.drop 1 else target) with
    | none => fail (illegalNumber target)
    | some number =>
        if number = state.processId || number = 0 then
          if signal ≠ 0 then
            receive signal
        else
          match state.jobs.find? fun job => job.processId = number && job.sleeping?.isSome with
          | none => complain 1 "No such process\n".toList
          | some job =>
              if signal ≠ 0 && endsProcess signal then
                updateJob job.number fun job =>
                  { job with sleeping? := none, status := 128 + signal, signal? := some signal }

/-- Send a signal. -/
def kill (arguments : List ByteText) : Run Unit := do
  let (signal, targets) ← match arguments with
    | [] => fail killUsage
    | ['-', '-'] :: rest => pure (15, rest)
    | ['-', 'l'] :: rest => do
        if rest.isEmpty then
          let names := (List.range 64).map fun i => eventName (i + 1)
          print (.unlines (['0'] :: names))
        else
          let names ← rest.mapM describeStatus
          print (.unlines (names.take 1))
        return ()
    | ['-', 's'] :: [] => fail "No arg for -s option".toList
    | ['-', 's'] :: name :: rest =>
        match signal? name with
        | some signal => pure (signal, rest)
        | none => fail ("invalid signal number or name: ".toList ++ name)
    | ('-' :: c :: name) :: rest =>
        match signal? (c :: name), c with
        | some signal, _ => pure (signal, rest)
        | none, 's' =>
            match signal? name with
            | some signal => pure (signal, rest)
            | none => fail ("invalid signal number or name: ".toList ++ name)
        | none, c => fail ("Illegal option -".toList ++ [c])
    | rest => pure (15, rest)
  if targets.isEmpty then
    fail killUsage
  finish 0
  for target in targets do
    sendTo signal target

/-- Choose what is done when each of some events arrives. -/
def setTraps (action : Option ByteText) : List ByteText → Run Unit
  | [] => finish 0
  | name :: names => do
      match event? name with
      | none =>
          modify fun state =>
            { state.write 2 ("trap: ".toList ++ name ++ ": bad trap\n".toList) with status := 1 }
      | some event => do
          modify fun state =>
            { state with
              traps := action.elim (Keyed.drop event state.traps) fun action =>
                Keyed.put event action state.traps }
          setTraps action names

/-- Choose what is done when a signal arrives or the shell ends, or list that. -/
def trap (arguments : List ByteText) : Run Unit := do
  let (_, operands) ← takeOptions [] arguments
  match operands with
  | [] => do
      let traps := ranked Prod.fst (← get).traps
      print (.unlines (traps.map fun (event, action) =>
        "trap -- ".toList ++ shellQuoted action ++ ' ' :: eventName event))
  | first :: others =>
      if others.isEmpty || (Text.decimal? first).any (· < 65) then setTraps none operands
      else setTraps (if first = ['-'] then none else some first) others

/-! ## Waiting -/

/-- Take the status of a part of a script over that has run beside the rest. -/
def finishJob (job : Job) : Run Unit := do
  if let some signal := job.signal? then
    let text := endOf signal
    if !job.isAwaited && !text.isEmpty then
      modify fun state => state.write 2 (text ++ ['\n'])
  updateJob job.number fun job => { job with isAwaited := true }
  finish job.status

/-- Wait for parts of a script that run beside the rest, of which none sleeps any more. -/
def wait (arguments : List ByteText) : Run Unit := do
  let (_, operands) ← takeOptions [] arguments
  finish 0
  if operands.isEmpty then
    modify fun state =>
      { state with jobs := state.jobs.map fun job => { job with isAwaited := true } }
  for operand in operands do
    if operand.head? = some '%' then
      finishJob (← jobOf operand)
    else
      match Text.decimal? operand with
      | none => fail (illegalNumber operand)
      | some number =>
          match (← get).jobs.find? (·.processId = number) with
          | some job => finishJob job
          | none => finish 127

/-- How a part of a script is doing. -/
def conditionOf (job : Job) : ByteText :=
  match job.sleeping?, job.signal? with
  | some _, _ => "Running".toList
  | none, some signal => endOf signal
  | none, none =>
      if job.status = 0 then "Done".toList
      else "Done(".toList ++ ByteText.ofNat job.status ++ [')']

/-- List parts of a script, with the last one first; those that have ended are forgotten then. -/
def listJobs (letters : List Char) : List Job → ByteText
  | [] => []
  | job :: others =>
      let isLast := others.all fun other => other.sleeping?.isNone
      let processId := ByteText.ofNat job.processId
      let mark := if isLast then '+' else '-'
      let opening := '[' :: ByteText.ofNat job.number ++ [']', ' ', mark, ' ']
      let line := opening ++ (if letters.contains 'l' then processId ++ [' '] else []) ++
        conditionOf job
      let line := if letters.contains 'p' then processId
        else line ++ List.replicate (33 - line.length) ' '
      line ++ '\n' :: listJobs letters others

/-- List the parts of a script that run, or have run, beside the rest. -/
def jobs (arguments : List ByteText) : Run Unit := do
  let (letters, _) ← takeOptions ['l', 'p'] arguments
  let all := (← get).jobs
  modify fun state => { state with jobs := all.filter fun job => job.sleeping?.isSome }
  print (listJobs letters all.reverse)

/-- Take a part of a script up again, of which there is none. -/
def resume (_ : List ByteText) : Run Unit :=
  fail "No current job".toList

/-- The times that have been used. -/
def times (_ : List ByteText) : Run Unit :=
  let line := "0m0.000000s 0m0.000000s".toList
  print (.unlines [line, line])

end Provision.Shell.Builtin
