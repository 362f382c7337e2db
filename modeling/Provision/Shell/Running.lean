import Provision.Shell.Arithmetic
import Provision.Shell.Descriptor
import Provision.Shell.Parameter
import Provision.Shell.Process
import Provision.Shell.Script

namespace Provision.Shell

/-!
# Running scripts

A script is run command by command.  The first argument of each function bounds the steps; a script
that takes more of them is halted.
-/

open Run

/-! ## Commands to run -/

/-- What a simple command stands for. -/
inductive CommandKind where
  | empty
  | function (body : Statement)
  | builtin (name : ByteText) (builtin : Builtin)
  | program (name : ByteText)

/--
A simple command with its arguments.  A fault of a special one ends the shell.  It may ask for
programs to be looked for at the usual places.
-/
structure ResolvedCommand where
  kind : CommandKind
  arguments : List ByteText := []
  isSpecial : Bool := false
  isUsual : Bool := false

/-- Whether the next word of a command may be an assignment, which is not cut into fields. -/
def takesAssignments : List ByteText → Bool
  | [] => false
  | name :: rest =>
      if name = "command".toList then
        takesAssignments (rest.dropWhile fun argument => argument ∈ [['-', 'p'], ['-', '-']])
      else
        Builtin.isAssigning name
termination_by fields => fields.length
decreasing_by
  have := (List.dropWhile_suffix (l := rest)
    fun argument => decide (argument ∈ [['-', 'p'], ['-', '-']])).length_le
  simp only [List.length_cons]
  omega

/-- What fields stand for; the first argument bounds the commands in front of others. -/
def resolve (state : State) : Nat → ResolvedCommand → List ByteText → ResolvedCommand
  | 0, found, _ => found
  | _ + 1, found, [] => found
  | steps + 1, found, name :: arguments =>
      let isFirst := match found.kind with
        | .empty => true
        | _ => false
      match if isFirst then state.functions.lookup name else none with
      | some body => { found with kind := .function body, arguments }
      | none =>
          match Builtin.ofName? name with
          | none => { found with kind := .program name, arguments }
          | some builtin =>
              let isSpecial :=
                if isFirst then Builtin.isSpecial name else found.isSpecial
              let found := { found with kind := .builtin name builtin, arguments, isSpecial }
              if name = "command".toList then
                match Builtin.plainCommand? found.isUsual arguments with
                | some (isUsual, rest) => resolve state steps { found with isUsual } rest
                | none => found
              else
                found

/-- What is left of the state after a command with assignments in front of it. -/
def afterAssignments (names : List ByteText) (before after : State) : State :=
  let restored := State.restoreVariables names before after
  if "PATH".toList ∈ names then { restored with known := [] } else restored

/-- The descriptor that a redirection is about. -/
def Redirection.descriptor : Redirection → Nat
  | .toTarget descriptor _ _ => descriptor
  | .toDocument descriptor _ => descriptor

/-- What a descriptor is redirected to, after values have been put in. -/
inductive RedirectionTarget where
  | target (descriptor : Nat) (direction : Direction) (target : ByteText)
  | text (descriptor : Nat) (text : ByteText)

/-- Redirect a descriptor; the answer tells whether that went well. -/
def applyRedirection : RedirectionTarget → Run Bool
  | .text descriptor text => do
      let state ← get
      let number := state.freshBuffer
      set ((state.setBuffer number text).connect descriptor
        { stream := .buffer number, isWritable := false })
      return true
  | .target descriptor direction target => do
      match redirect (← get) descriptor direction target with
      | .ok state => do
          set state
          return true
      | .error text => do
          complain 2 text
          return false

/-- Redirect descriptors as long as that goes well. -/
def applyRedirections : List RedirectionTarget → Run Bool
  | [] => return true
  | first :: rest => do
      if ← applyRedirection first then applyRedirections rest else return false

/-- The lengths of all arguments, with what would part them. -/
def argumentsLength (arguments : List ByteText) : Nat :=
  (arguments.foldl (fun length argument => length + argument.length + 1) 0) - 1

/-- Tell of the end of a process by a signal, unless the shell is about to end by it as well. -/
def noteEnd (signal : Nat) : Run Unit :=
  modify fun state =>
    let text := Signal.endOf signal
    if text.isEmpty || state.isEnding signal then state else state.write 2 (text ++ ['\n'])

/-- What a turn of a loop leads to. -/
inductive Turn where
  | done
  | again
  | over
  deriving DecidableEq

/-- The value of a parameter, which the shell may require to have one. -/
def valueIn (name : ByteText) : Run ByteText := do
  let state ← get
  match state.parameter? name with
  | some value => return value
  | none =>
      if state.has 'u' then
        fail (name ++ ": parameter not set".toList)
      else
        return []

mutual

-- Words

/-- The items of a piece of a word; its plain text may be cut into fields. -/
def expandPiece : Nat → Bool → Piece → Run (List FieldItem)
  | 0, _, _ => halt .exhausted
  | steps + 1, isCut, piece =>
      match piece with
      | .plain text => return Field.charItems false isCut text
      | .quoted text => return .mark :: Field.charItems true false text
      | .parameter name use isQuoted => expandParameter steps name use isQuoted
      | .output script isQuoted => do
          let text ← capture steps script
          return valueItems isQuoted (outputValue text)
      | .arithmetic expression isQuoted => do
          let text ← expandJoined steps expression
          let state ← get
          let held := fun name => (state.valueOf? name).getD []
          let computed := do
            let expression ← Expression.ofText text
            let (value, after) ← expression.value held
            return (value, expression.assigned.filter (fun name => after name ≠ held name), after)
          match computed with
          | .ok (value, names, after) => do
              for name in names do
                assign name (after name)
              return valueItems isQuoted (.ofInt value)
          | .error fault => fail (fault.message text)

/-- The items of a parameter. -/
def expandParameter : Nat → ByteText → ParameterUse → Bool → Run (List FieldItem)
  | 0, _, _, _ => halt .exhausted
  | steps + 1, name, use, isQuoted => do
      let state ← get
      let isWhole := name = ['@'] || (name = ['*'] && !isQuoted)
      match use with
      | .none => fail "Bad substitution".toList
      | .value =>
          if isWhole then
            return argumentItems isQuoted state.arguments
          else
            return valueItems isQuoted (← valueIn name)
      | .length =>
          if isWhole then
            return valueItems isQuoted (.ofNat (argumentsLength state.arguments))
          else
            return valueItems isQuoted (.ofNat (← valueIn name).length)
      | .without isBeginning isLongest pattern => do
          let (text, isSeveral) := wholeText state name isQuoted (← valueIn name)
          let items ← expandPieces steps false (expandTilde state pattern)
          let pattern := Field.patternOf (← get).joint items
          let left :=
            if isBeginning then pattern.withoutBeginning isLongest text
            else pattern.withoutEnding isLongest text
          return wholeItems isQuoted (left, isSeveral)
      | .orWord operator coversEmpty word => do
          let value := state.parameter? name
          let isThere := value.any fun value => !(coversEmpty && value.isEmpty)
          let word' := if isQuoted then word else expandTilde state word
          if operator = '+' then
            if isThere then expandPieces steps (!isQuoted) word'
            else return valueItems isQuoted []
          else if isThere then
            if isWhole then return argumentItems isQuoted state.arguments
            else return valueItems isQuoted (value.getD [])
          else if operator = '-' then
            expandPieces steps (!isQuoted) word'
          else
            let text ← expandJoined steps word'
            if operator = '=' then do
              requireName name
              assign name text
              return valueItems isQuoted text
            else
              let usual := "parameter not set" ++ if coversEmpty then " or null" else ""
              fail (name ++ ": ".toList ++ if word.isEmpty then usual.toList else text)

/-- The items of the pieces of a word. -/
def expandPieces : Nat → Bool → Word → Run (List FieldItem)
  | 0, _, _ => halt .exhausted
  | _ + 1, _, [] => return []
  | steps + 1, isCut, piece :: rest => do
      let items ← expandPiece steps isCut piece
      let others ← expandPieces steps isCut rest
      return items ++ others

/-- The text of a word as one field. -/
def expandJoined : Nat → Word → Run ByteText
  | 0, _ => halt .exhausted
  | steps + 1, word => do
      let items ← expandPieces steps false word
      return Field.joined (← get).joint items

/-- The fields of a word. -/
def expandFields : Nat → Word → Run (List ByteText)
  | 0, _ => halt .exhausted
  | steps + 1, word => do
      let items ← expandPieces steps false (expandTilde (← get) word)
      let state ← get
      let fields := Field.split state.separators items
      if state.has 'f' then
        return fields.map Field.text
      else
        return fields.flatMap (Field.paths state.disk state.workingDirectory)

/-- The fields of words. -/
def expandWords : Nat → List Word → Run (List ByteText)
  | 0, _ => halt .exhausted
  | _ + 1, [] => return []
  | steps + 1, word :: rest => do
      let fields ← expandFields steps word
      let others ← expandWords steps rest
      return fields ++ others

/-- The fields of a command, after those that have been found already. -/
def expandCommand : Nat → List ByteText → List Word → Run (List ByteText)
  | 0, _, _ => halt .exhausted
  | _ + 1, found, [] => return found
  | steps + 1, found, word :: rest => do
      let fields ←
        if takesAssignments found && word.assignment?.isSome then do
          let text ← expandJoined steps (expandAssigned (← get) word)
          pure [text]
        else
          expandFields steps word
      expandCommand steps (found ++ fields) rest

/-- What a script writes to its output; its status is remembered. -/
def capture : Nat → Statement → Run ByteText
  | 0, _ => halt .exhausted
  | steps + 1, script => do
      if script.isEmpty then
        return []
      else
        let state ← get
        let number := state.freshBuffer
        set (state.setBuffer number [])
        runSubshell steps false (withOutput number) script
        let after ← get
        set { after.dropBuffer number with status := state.status, captured := after.status }
        return after.buffer number

-- Redirections and assignments

/-- Put values into what descriptors are redirected to. -/
def expandRedirections : Nat → List Redirection → Run (List RedirectionTarget)
  | 0, _ => halt .exhausted
  | _ + 1, [] => return []
  | steps + 1, redirection :: rest => do
      let first ← match redirection with
        | .toTarget descriptor direction target => do
            let text ← expandJoined steps (expandTilde (← get) target)
            if direction = .copy && !namesDescriptor text then
              fail "Syntax error: Bad fd number".toList
            pure (.target descriptor direction text)
        | .toDocument descriptor number => do
            let text ← expandJoined steps (((← get).documents.lookup number).getD [])
            pure (.text descriptor text)
      let others ← expandRedirections steps rest
      return first :: others

/-- Set variables, which child processes see if so asked; the answer tells what they hold then. -/
def applyAssignments :
    Nat → Bool → List (ByteText × Word) → Run (List (ByteText × ByteText))
  | 0, _, _ => halt .exhausted
  | _ + 1, _, [] => return []
  | steps + 1, isShown, (name, word) :: rest => do
      let text ← expandJoined steps (expandTildes (← get) true word)
      assign name text
      if isShown then
        modify fun state => state.showVariable name
      let others ← applyAssignments steps isShown rest
      return (name, text) :: others

/-- Write a command down before it is run, to where errors went before it, if so asked. -/
def trace : Nat → State → List (ByteText × ByteText) → List ByteText → Run Unit
  | 0, _, _, _ => halt .exhausted
  | steps + 1, before, values, fields => do
      let state ← get
      if state.has 'x' then
        let opening := (state.valueOf? "PS4".toList).getD []
        let (outcome, _) := (expandJoined steps ((Word.ofQuotedText? opening).getD [])).run.run
          { state with options := state.options.filter (· ≠ 'x') }
        let words := values.map (fun (name, value) => name ++ '=' :: value) ++ fields
        let line := outcome.toOption.getD [] ++ Text.join ' ' words ++ ['\n']
        let written := { state with descriptors := before.descriptors }.write 2 line
        set { written with descriptors := state.descriptors }

-- Scripts

/--
Run a script line by line; the answer tells whether there was a command in it.  The lines may be
written down as they are read.
-/
def runLines : Nat → Bool → Bool → Source → Run Bool
  | 0, _, _, _ => halt .exhausted
  | steps + 1, isGuarded, isShown, source => do
      let state ← get
      let source := { source with
        aliases := state.aliases, nextDocument := state.nextDocument, documents := [] }
      let (outcome, rest) := source.readLine
      let taken := source.text.take (source.text.length - rest.text.length)
      let shown := if isShown && state.has 'v' then state.write 2 taken else state
      set { shown with
        documents := rest.documents ++ shown.documents, nextDocument := rest.nextDocument }
      match outcome with
      | .error fault => do
          modify fun state => { state with line := fault.line }
          fail ("Syntax error: " ++ fault.reason).toList
      | .ok none => return false
      | .ok (some statements) => do
          runAll steps isGuarded statements
          let hasMore ← runLines steps isGuarded isShown rest
          return hasMore || !statements.isEmpty

/-- Run a script. -/
def runScript : Nat → Bool → Bool → ByteText → Run Unit
  | 0, _, _, _ => halt .exhausted
  | steps + 1, isGuarded, isShown, text => do
      let hasRun ← runLines steps isGuarded isShown { text }
      if !hasRun then
        finish 0

/-- Run a part of a script, and then what the shell is to do at its end. -/
def runToEnd : Nat → Run Unit → Run Unit
  | 0, _ => halt .exhausted
  | steps + 1, part => do
      let (outcome, after) := part.run.run (← get)
      match outcome, statusOf after outcome with
      | .error .exhausted, _ => do
          set after
          halt .exhausted
      | _, .killed signal => do
          set after
          halt (.killed signal)
      | _, .exited status => do
          set { after with status, command := [], loops := 0 }
          runEndTrap steps
          let ended ← get
          wake steps (ended.wakingTime [])
          modify fun after => { after with clock := ended.clock }

/-- Do what is to be done at the end of the shell. -/
def runEndTrap : Nat → Run Unit
  | 0 => halt .exhausted
  | steps + 1 => do
      let state ← get
      match state.traps.lookup 0 with
      | none => return ()
      | some action => do
          let (outcome, after) := (runScript steps false false action).run.run
            { state with traps := Keyed.drop 0 state.traps, trapStatus? := some state.status }
          set after
          match outcome with
          | .error (.exited status) => finish status
          | .error .failed => finish 2
          | .error (.killed signal) => halt (.killed signal)
          | .error .exhausted => halt .exhausted
          | _ => finish state.status

/-- Do what is to be done when a signal arrives. -/
def runTrap : Nat → Nat → Run Unit
  | 0, _ => halt .exhausted
  | steps + 1, signal => do
      let state ← get
      match state.traps.lookup signal with
      | none => if Signal.endsProcess signal then halt (.killed signal)
      | some [] => return ()
      | some action => do
          let status := state.trapStatus?.getD state.status
          let (outcome, after) := (runScript steps false false action).run.run
            { state with trapStatus? := some status }
          set { after with status := state.status, trapStatus? := state.trapStatus? }
          liftExcept outcome

/-- Do what is to be done when each of some signals arrives. -/
def runTraps : Nat → List Nat → Run Unit
  | 0, _ => halt .exhausted
  | _ + 1, [] => return ()
  | steps + 1, signal :: rest => do
      runTrap steps signal
      runTraps steps rest

/--
Do what is to be done about the signals that have arrived, unless the shell around sees to it.
-/
def heedSignals : Nat → Run Unit
  | 0 => halt .exhausted
  | steps + 1 => do
      let state ← get
      if state.outerTraps?.isNone && !state.pending.isEmpty then
        set { state with pending := [] }
        runTraps steps (ranked (fun signal => signal) state.pending.eraseDups)

-- Shells of their own

/-- Run a part of a script in a shell of its own, which is prepared for it. -/
def runSubshell : Nat → Bool → (State → State) → Statement → Run Unit
  | 0, _, _, _ => halt .exhausted
  | steps + 1, isGuarded, prepare, body => do
      let state ← get
      let (outcome, inner) := (runToEnd steps (run steps isGuarded body)).run.run
        (prepare (subshellState state))
      match outcome, statusOf inner outcome with
      | .error .exhausted, _ => halt .exhausted
      | _, .exited code => set (afterSubshell state inner code)
      | _, .killed signal => do
          set (afterSubshell state inner (128 + signal))
          noteEnd signal

/-- Run the parts of a pipeline from left to right; the first one may read from a buffer. -/
def runPipes : Nat → Bool → Option Nat → List Statement → Run Unit
  | 0, _, _, _ => halt .exhausted
  | _ + 1, _, _, [] => return ()
  | steps + 1, isGuarded, input?, first :: others => do
      let read := input?.elim (fun state => state) withInput
      noteProgram first
      if others.isEmpty then
        runSubshell steps isGuarded read first
      else
        let state ← get
        let number := state.freshBuffer
        set (state.setBuffer number [])
        runSubshell steps isGuarded (fun state => withOutput number (read state)) first
        modify fun after =>
          let isOver := state.deadline?.isSome && after.deadline?.isNone
          { after with
            status := state.status, clock := if isOver then after.clock else state.clock }
        runPipes steps isGuarded (some number) others
        modify fun state => state.dropBuffer number

/-- Run a part of a script beside the rest, or have it sleep first. -/
def runBeside : Nat → Statement → Run Unit
  | 0, _ => halt .exhausted
  | steps + 1, body => do
      let state ← get
      let number := state.freshJob
      let processId := state.nextProcess
      let jobs := state.jobs.filter fun job => job.number ≠ number
      let noted := { state with jobs, nextProcess := processId + 1, lastJob? := some processId }
      match sleepOf 32 body with
      | some time =>
          let job := { number, processId, wakesAt := state.clock + time, sleeping? := some body }
          set { noted with jobs := jobs ++ [job], status := 0 }
      | none => do
          set noted
          runSubshell steps false withoutInput body
          modify fun after =>
            let job := { number, processId, status := after.status }
            { after with jobs := after.jobs ++ [job], status := 0, clock := state.clock }

/-- Let time pass, and run what wakes up until then. -/
def wake : Nat → Nat → Run Unit
  | 0, _ => halt .exhausted
  | steps + 1, time => do
      let state ← get
      match state.dueJobs time with
      | [] => set { state with clock := max state.clock time }
      | job :: _ => do
          Builtin.updateJob job.number fun job => { job with sleeping? := none }
          runSubshell steps false withoutInput (job.sleeping?.getD (.sequence []))
          let status := (← get).status
          Builtin.updateJob job.number fun job => { job with status }
          modify fun after =>
            { after with status := state.status, clock := max state.clock job.wakesAt }
          wake steps time

/-- Let time pass, unless the process has to be at its end before. -/
def passTime : Nat → Nat → Run Unit
  | 0, _ => halt .exhausted
  | steps + 1, time => do
      match (← get).deadline? with
      | none => wake steps time
      | some deadline =>
          let action? := (← get).traps.lookup deadline.signal
          if time ≤ deadline.time || action? = some [] then
            wake steps time
          else do
            wake steps deadline.time
            modify fun state =>
              let expired := state.expired deadline
              { expired with pending := expired.pending ++ [deadline.signal] }
            if action?.isNone then
              halt (.killed deadline.signal)

-- Programs

/-- Run a program with its name and its arguments in an environment. -/
def runProgram :
    Nat → ByteText → Program → ByteText → List ByteText → List (ByteText × ByteText) → Run Unit
  | 0, _, _, _, _, _ => halt .exhausted
  | steps + 1, path, program, name, arguments, environment => do
      let state ← get
      match program with
      | .tool tool =>
          if Tool.shellNames.any (·.toList = tool) then
            runShell steps name arguments environment
          else
            match Tool.ofName? tool with
            | none => complain 127 (name ++ ": not found".toList)
            | some work => do
                let outcome ←
                  runToolProcess work { state.call name arguments with environment }
                if tool = "sleep".toList && outcome.status = 0 then
                  let times := arguments.filterMap Tool.duration?
                  passTime steps (state.clock + times.foldl (· + ·) 0)
                if outcome.isEndless && state.deadline?.isSome then
                  passTime steps (state.clock + Tool.forever)
                match outcome.launch? with
                | some launch => runLaunch steps name launch
                | none => return ()
      | .script interpreter argument =>
          match Program.load state.disk state.workingDirectory interpreter.toPath with
          | .error _ => complain 127 (name ++ ": not found".toList)
          | .ok program =>
              runProgram steps interpreter program interpreter
                (argument.toList ++ path :: arguments) environment

/-- Run what a tool wants to be run in its place. -/
def runLaunch : Nat → ByteText → Launch → Run Unit
  | 0, _, _ => halt .exhausted
  | steps + 1, tool, launch => do
      let state ← get
      let limited := launch.limit?.elim state state.withLimit
      let moved := { limited with
        workingDirectory := launch.directory?.getD state.workingDirectory
        niceness := launch.niceness?.getD state.niceness }
      let path := (launch.environment.lookup "PATH".toList).getD "/bin:/usr/bin".toList
      let paths :=
        if launch.name.isEmpty then []
        else if launch.name.contains '/' then [launch.name]
        else candidates path launch.name
      match moved.firstProgram (.refused .noEntry) paths with
      | .ok (path, program) =>
          let (outcome, after) :=
            (runProgram steps path program launch.name launch.arguments launch.environment).run.run
              moved
          let after := { after with
            workingDirectory := state.workingDirectory, niceness := state.niceness }
          match outcome, launch.limit? with
          | .error .exhausted, none => halt .exhausted
          | .error .exhausted, some limit =>
              let late := limited.deadline?.elim after after.expired
              set (state.afterLimit limit tool launch.name late)
          | _, some limit => set (state.afterLimit limit tool launch.name after)
          | outcome, none => do
              set after
              liftExcept outcome
      | .error fault => do
          let isMissing := (startFault fault).1 = 127
          let line := launch.fault ++ ": ".toList ++ faultText fault ++ ['\n']
          let status := if isMissing then 127 else 126
          modify fun state =>
            { state.write 2 (line ++ if isMissing then launch.hint else []) with
              status, ended := .exited status }

/-- Find a program by name and run it. -/
def runNamed : Nat → Bool → ByteText → List ByteText → Run Unit
  | 0, _, _, _ => halt .exhausted
  | steps + 1, isUsual, name, arguments => do
      let state ← get
      match state.programPaths (if isUsual then usualPath else state.searchPath) name with
      | .error fault => complainMissing name fault
      | .ok paths => do
          remember name
          match state.firstProgram (.refused .noEntry) paths with
          | .error fault =>
              let (status, text) := startFault fault
              complain status (name ++ ": ".toList ++ text)
          | .ok (path, program) => do
              modify fun state => { state with ended := .exited 0 }
              runProgram steps path program name arguments state.environment
              match (← get).ended with
              | .exited _ => return ()
              | .killed signal => noteEnd signal

/-- Run a program in the place of the shell. -/
def replaceShell : Nat → List ByteText → Run Unit
  | 0, _ => halt .exhausted
  | _ + 1, [] => finish 0
  | steps + 1, name :: arguments => do
      let state ← get
      let paths := if name.contains '/' then [name] else candidates state.searchPath name
      match state.firstProgram (.refused .noEntry) paths with
      | .ok (path, program) => do
          set { state with ended := .exited 0 }
          runProgram steps path program name arguments state.environment
          let after ← get
          set { after with traps := [] }
          match after.ended with
          | .killed signal => halt (.killed signal)
          | .exited _ => halt (.exited after.status)
      | .error fault => do
          let (status, text) := startFault fault
          complain status (name ++ ": ".toList ++ text)
          halt (.exited status)

/-- Run a script in a new shell, to which the lines may be shown as they are read. -/
def runText :
    Nat → Bool → List Char → ByteText → List ByteText → List (ByteText × ByteText) → ByteText →
      Run Unit
  | 0, _, _, _, _, _, _ => halt .exhausted
  | steps + 1, isShown, options, name, arguments, environment, text => do
      let state ← get
      let (outcome, child) := (runToEnd steps (runScript steps false isShown text)).run.run
        (newShell state environment options name arguments)
      match outcome, state.deadline? with
      | .error .exhausted, some deadline =>
          set (afterShell state (child.expired deadline) (.killed deadline.signal))
      | _, _ => set (afterShell state child (statusOf child outcome))

/-- Run a new shell with its arguments. -/
def runShell : Nat → ByteText → List ByteText → List (ByteText × ByteText) → Run Unit
  | 0, _, _, _ => halt .exhausted
  | steps + 1, name, arguments, environment => do
      let state ← get
      let refuse := fun (text : ByteText) =>
        modify fun (state : State) =>
          { state.write 2 (name ++ ": 0: ".toList ++ text ++ ['\n']) with
            status := 2, ended := .exited 2 }
      match Builtin.readOptions ['c', 'l', 'p'] [] arguments with
      | .error option => refuse ("Illegal option ".toList ++ option)
      | .ok reading => do
          let letters := reading.options
          let options := letters.filter fun letter => letter ∉ ['c', 'l', 'p']
          match letters.contains 'c', letters.contains 's', reading.rest with
          | true, _, [] => refuse "-c requires an argument".toList
          | true, _, text :: rest =>
              runText steps false options (rest.head?.getD name) (rest.drop 1) environment text
          | false, false, script :: rest =>
              match ← readScriptFile script with
              | .ok text => runText steps true options script rest environment text
              | .error fault =>
                  refuse ("cannot open ".toList ++ script ++ ": ".toList ++ openFault false fault)
          | false, _, rest => do
              let text := state.unread 0
              set (state.leave 0 text [])
              let options := if options.contains 's' then options else options ++ ['s']
              runText steps true options name rest environment text

-- Commands of the shell

/-- Run a function with its arguments. -/
def runFunction : Nat → Bool → Statement → List ByteText → Run Unit
  | 0, _, _, _ => halt .exhausted
  | steps + 1, isGuarded, body, arguments => do
      let state ← get
      let (outcome, after) := (run steps isGuarded body).run.run
        { state with
          arguments, locals := [], loops := 0, depth := state.depth + 1, optionPlace := (1, []) }
      set { after.restoreLocals with
        arguments := state.arguments
        locals := state.locals
        loops := state.loops
        depth := state.depth
        optionPlace := state.optionPlace }
      match outcome with
      | .error (.returned none) => return ()
      | .error (.returned (some status)) => finish status
      | outcome => liftExcept outcome

/-- Run the commands of another script in this shell. -/
def runFile : Nat → Bool → List ByteText → Run Unit
  | 0, _, _ => halt .exhausted
  | _ + 1, _, [] => finish 0
  | steps + 1, isGuarded, name :: _ => do
      let state ← get
      let paths := if name.contains '/' then [name] else candidates state.searchPath name
      let found := paths.find? fun path =>
        name.contains '/' ||
          match state.disk.entryAt state.workingDirectory true path.toPath with
          | .ok (_, entry) => entry.isFile
          | .error _ => false
      match found with
      | none => fail (name ++ ": not found".toList)
      | some path =>
          match ← readScriptFile path with
          | .ok text => do
              let (outcome, after) := (runScript steps isGuarded true text).run.run
                { ← get with command := path }
              set after
              match outcome with
              | .error (.returned none) => return ()
              | .error (.returned (some status)) => finish status
              | outcome => liftExcept outcome
          | .error fault =>
              fail ("cannot open ".toList ++ path ++ ": ".toList ++ openFault false fault)

/-- Carry out a command of the shell; one that fails ends the shell if it is special. -/
def runBuiltin : Nat → Bool → Bool → ByteText → Builtin → List ByteText → Run Unit
  | 0, _, _, _, _, _ => halt .exhausted
  | steps + 1, isGuarded, isSpecial, name, builtin, arguments => do
      let state ← get
      let work := match builtin with
        | .plain act => do
            if name = "wait".toList then
              passTime steps (state.wakingTime arguments)
            act arguments
        | .tool tool => runOwnTool tool name arguments
        | .evaluate => runScript steps isGuarded false (Text.join ' ' arguments)
        | .readScript => runFile steps isGuarded arguments
        | .replace => replaceShell steps arguments
      let (outcome, after) := work.run.run { state with command := name }
      set { after with command := state.command }
      match outcome, isSpecial with
      | .error .failed, false => finish 2
      | outcome, _ => liftExcept outcome

/-- Run a command that has been resolved. -/
def runResolved : Nat → Bool → ResolvedCommand → Run Unit
  | 0, _, _ => halt .exhausted
  | steps + 1, isGuarded, command => do
      match command.kind with
      | .empty => finish (← get).captured
      | .function body => runFunction steps isGuarded body command.arguments
      | .builtin name builtin =>
          runBuiltin steps isGuarded command.isSpecial name builtin command.arguments
      | .program name => runNamed steps command.isUsual name command.arguments

/-- Run a simple command; redirections hold for it alone, unless it only redirects. -/
def runSimple :
    Nat → Bool → Nat → List (ByteText × Word) → List Word → List Redirection → Run Unit
  | 0, _, _, _, _, _ => halt .exhausted
  | steps + 1, isGuarded, line, assignments, words, redirections => do
      modify fun state => { state with line, captured := 0 }
      let fields ← expandCommand steps [] words
      let targets ← expandRedirections steps redirections
      let before ← get
      let command := resolve before (fields.length + 1) { kind := .empty } fields
      let keeps := match command.kind with
        | .builtin _ .replace => command.arguments.isEmpty
        | _ => false
      let which := if keeps then [] else redirections.map Redirection.descriptor
      let work : Run Unit := do
        if ← applyRedirections targets then
          let isLocal := match command.kind with
            | .empty => false
            | _ => !command.isSpecial
          let isShown := isLocal || match command.kind with
            | .builtin _ .replace => !command.arguments.isEmpty
            | _ => false
          let held ← get
          let names := if isLocal then assignments.map Prod.fst else []
          let act : Run Unit := do
            let values ← applyAssignments steps isShown assignments
            trace steps before values fields
            runResolved steps isGuarded command
          act.thenAlways (afterAssignments names held)
        else if command.isSpecial then
          halt .failed
      work.thenAlways (restoreDescriptors which before)

/-- Run one turn of a loop. -/
def runTurn : Nat → Run Unit → Run Turn
  | 0, _ => halt .exhausted
  | _ + 1, part => do
      let state ← get
      let (outcome, after) := part.run.run { state with loops := state.loops + 1 }
      set { after with loops := state.loops }
      match outcome with
      | .ok () => return .done
      | .error (.broken levels) =>
          if levels ≤ 1 then return .over else halt (.broken (levels - 1))
      | .error (.continued levels) =>
          if levels ≤ 1 then return .again else halt (.continued (levels - 1))
      | .error reason => halt reason

/-- Run a loop until its condition or something in it ends it; a status is that of the last turn. -/
def runLoop : Nat → Bool → Bool → Statement → Statement → Nat → Run Unit
  | 0, _, _, _, _, _ => halt .exhausted
  | steps + 1, isGuarded, isUntil, condition, body, status => do
      let turn ← runTurn steps (run steps true condition)
      let holds := ((← get).status = 0) != isUntil
      if turn = .again then
        runLoop steps isGuarded isUntil condition body status
      else if turn = .over || !holds then
        finish status
      else
        let turn ← runTurn steps (run steps isGuarded body)
        if turn ≠ .over then
          runLoop steps isGuarded isUntil condition body (← get).status

/-- Run the body of a loop for each of some fields. -/
def runEach : Nat → Bool → ByteText → Statement → List ByteText → Run Unit
  | 0, _, _, _, _ => halt .exhausted
  | _ + 1, _, _, _, [] => return ()
  | steps + 1, isGuarded, name, body, field :: rest => do
      assign name field
      let turn ← runTurn steps (run steps isGuarded body)
      if turn ≠ .over then
        runEach steps isGuarded name body rest

/-- Whether one of some patterns matches a text. -/
def matchesAny : Nat → ByteText → List Word → Run Bool
  | 0, _, _ => halt .exhausted
  | _ + 1, _, [] => return false
  | steps + 1, text, word :: rest => do
      let items ← expandPieces steps false (expandTilde (← get) word)
      if (Field.patternOf (← get).joint items).accepts text then
        return true
      else
        matchesAny steps text rest

/-- Run the first clause that matches a text. -/
def runChoice : Nat → Bool → ByteText → List (List Word × Statement) → Run Unit
  | 0, _, _, _ => halt .exhausted
  | _ + 1, _, _, [] => finish 0
  | steps + 1, isGuarded, text, (words, body) :: rest => do
      if ← matchesAny steps text words then
        if body.isEmpty then finish 0 else run steps isGuarded body
      else
        runChoice steps isGuarded text rest

/-- Run commands in order. -/
def runAll : Nat → Bool → List Statement → Run Unit
  | 0, _, _ => halt .exhausted
  | _ + 1, _, [] => return ()
  | steps + 1, isGuarded, first :: rest => do
      run steps isGuarded first
      runAll steps isGuarded rest

/-- Heed signals, and halt after a failure if the shell is to do so. -/
def checkFailure : Nat → Bool → Run Unit
  | 0, _ => halt .exhausted
  | steps + 1, isGuarded => do
      let status := (← get).status
      heedSignals steps
      if (← get).has 'e' && !isGuarded && status ≠ 0 then
        halt (.exited status)

/-- Run a command; a guarded one may fail. -/
def run : Nat → Bool → Statement → Run Unit
  | 0, _, _ => halt .exhausted
  | steps + 1, isGuarded, statement => do
      if (← get).has 'n' then
        return ()
      match statement with
      | .simple line assignments words redirections => do
          runSimple steps isGuarded line assignments words redirections
          checkFailure steps isGuarded
      | .pipeline parts => do
          runPipes steps isGuarded none parts
          checkFailure steps isGuarded
      | .negated body => do
          run steps true body
          finish (if (← get).status = 0 then 1 else 0)
      | .both first second => do
          run steps true first
          if (← get).status = 0 then
            run steps isGuarded second
      | .either first second => do
          run steps true first
          if (← get).status ≠ 0 then
            run steps isGuarded second
      | .sequence parts => runAll steps isGuarded parts
      | .subshell body => do
          runSubshell steps isGuarded (fun state => state) body
          checkFailure steps isGuarded
      | .background body => do
          runBeside steps body
          checkFailure steps isGuarded
      | .branch condition body otherwise => do
          run steps true condition
          if (← get).status = 0 then
            run steps isGuarded body
          else if otherwise.isEmpty then
            finish 0
          else
            run steps isGuarded otherwise
      | .loop isUntil condition body => runLoop steps isGuarded isUntil condition body 0
      | .each line name words body => do
          modify fun state => { state with line }
          let fields ← match words with
            | some words => expandWords steps words
            | none => pure (← get).arguments
          if fields.isEmpty then
            finish 0
          runEach steps isGuarded name body fields
      | .choice line word clauses => do
          modify fun state => { state with line }
          let text ← expandJoined steps (expandTilde (← get) word)
          runChoice steps isGuarded text clauses
      | .function name body =>
          modify fun state =>
            { state with functions := Keyed.put name body state.functions, status := 0 }
      | .redirected line body redirections => do
          modify fun state => { state with line }
          let targets ← expandRedirections steps redirections
          let before ← get
          let work : Run Unit := do
            if ← applyRedirections targets then
              run steps isGuarded body
            else
              checkFailure steps isGuarded
          work.thenAlways (restoreDescriptors (redirections.map Redirection.descriptor) before)

end

end Provision.Shell
