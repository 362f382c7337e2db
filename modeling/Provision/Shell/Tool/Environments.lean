import Provision.Keyed
import Provision.Shell.Signal
import Provision.Shell.Tool.Amounts
import Provision.Shell.Tool.Options

namespace Provision.Shell.Tool

/-!
# Who and where

Tools that tell which user runs them and on what kind of machine.
-/

open Work

/-- The users with their numbers and with the groups that they are in. -/
def users : List (String × Nat × String) :=
  [("root", 0, "root"), ("nobody", 65534, "nogroup")]

/-- A user or a group with its number. -/
def numbered (kind : String) (name : String) (number : Nat) : ByteText :=
  kind.toList ++ '=' :: ByteText.ofNat number ++ '(' :: name.toList ++ [')']

/-- What options say about how a user is described. -/
def describeUser (arguments : Arguments) (name : String) (number : Nat) (group : String) :
    Work ByteText := do
  let isName := arguments.has "name"
  match arguments.last? ["user", "group", "groups"] with
  | some "user" => return if isName then name.toList else .ofNat number
  | some _ => return if isName then group.toList else .ofNat number
  | none => do
      if isName || arguments.has "real" then
        refuse "cannot print only names or real IDs in default format".toList
      if arguments.has "zero" then
        refuse "option --zero not permitted in default format".toList
      return Text.join ' ' [numbered "uid" name number, numbered "gid" group number,
        numbered "groups" group number]

/-- Describe a user. -/
def identify : Tool := toTool do
  let arguments ← arguments
    [flag 'u' "user", flag 'g' "group", flag 'G' "groups", flag 'n' "name", flag 'r' "real",
      flag 'z' "zero", flag 'Z' "context", letterOnly 'a' "ignored"]
  if (["user", "group", "groups"].filter arguments.has).length > 1 then
    refuse "cannot print \"only\" of more than one choice".toList
  let wanted := if arguments.operands.isEmpty then ["root".toList] else arguments.operands
  for operand in wanted do
    match users.find? fun (name, _) => name.toList = operand with
    | some (name, number, group) => do
        let text ← describeUser arguments name number group
        print (text ++ [if arguments.has "zero" then '\x00' else '\n'])
    | none => complain (quoted operand ++ ": no such user".toList)

/-- Name the user. -/
def whoami : Tool := toTool do
  refuseMore 0 (← arguments [])
  printLine "root".toList

/-- Name the groups of users. -/
def listGroups : Tool := toTool do
  let arguments ← arguments []
  if arguments.operands.isEmpty then
    printLine "root".toList
  for operand in arguments.operands do
    match users.find? fun (name, _) => name.toList = operand with
    | some (_, _, group) => printLine (operand ++ " : ".toList ++ group.toList)
    | none => complain (quoted operand ++ ": no such user".toList)

/-- Name the user who has logged in, which nobody has. -/
def logname : Tool := toTool do
  refuseMore 0 (← arguments [])
  refuse "no login name".toList

/-- The properties of a system by option, in the order in which they are printed. -/
def systemProperties : List (OptionKind × String) :=
  [(flag 's' "kernel-name", "Linux"), (flag 'n' "nodename", "localhost"),
    (flag 'r' "kernel-release", "6.8.0"), (flag 'v' "kernel-version", "#1 SMP"),
    (flag 'm' "machine", "x86_64"), (flag 'p' "processor", "x86_64"),
    (flag 'i' "hardware-platform", "x86_64"), (flag 'o' "operating-system", "GNU/Linux")]

/-- Describe the system. -/
def uname : Tool := toTool do
  let kinds := flag 'a' "all" :: systemProperties.map Prod.fst
  let arguments ← arguments kinds
  refuseMore 0 arguments
  let chosen := systemProperties.filter fun (kind, _) =>
    arguments.has "all" || arguments.has kind.word
  let chosen := if chosen.isEmpty then systemProperties.take 1 else chosen
  printLine (Text.join ' ' (chosen.map fun (_, text) => text.toList))

/-- Name the kind of machine. -/
def arch : Tool := toTool do
  refuseMore 0 (← arguments [])
  printLine "x86_64".toList

/-- Tell how many processors there are. -/
def nproc : Tool := toTool do
  refuseMore 0 (← arguments [wordOnly "all", valued 'i' "ignore"])
  printLine ['1']

/-- Name the machine. -/
def hostname : Tool := toTool (printLine "localhost".toList)

/-- Name the terminal of the input, which never is one. -/
def tty : Tool := toTool do
  let arguments ← arguments [flag 's' "silent", wordOnly "quiet"]
  if !(arguments.has "silent" || arguments.has "quiet") then
    printLine "not a tty".toList
  finish 1

/-!
# Environments

The variables of the environment are printed, or a program is run with others of them.
-/

/-- The variables of an environment as texts. -/
def assignmentTexts (environment : List (ByteText × ByteText)) : List ByteText :=
  environment.map fun (name, value) => name ++ '=' :: value

/-- Print texts with the same ending after each. -/
def printEnded (hasNulls : Bool) (texts : List ByteText) : Work Unit :=
  print (texts.flatMap fun text => text ++ [if hasNulls then '\x00' else '\n'])

/-- Print the values of variables, or the whole environment. -/
def printenv : Tool := toTool do
  let arguments ← arguments [flag '0' "null"] true 2
  let environment := (← read).environment
  let hasNulls := arguments.has "null"
  if arguments.operands.isEmpty then
    printEnded hasNulls (assignmentTexts environment)
  else
    let values := arguments.operands.map fun name => environment.lookup name
    printEnded hasNulls (values.filterMap id)
    if !values.all Option.isSome then
      finish 1

/-! ## Running a program in another environment -/

/-- The name of the variable between braces at the start of a text, and the text after it. -/
def bracedName? (text : ByteText) : Option (ByteText × ByteText) :=
  match text with
  | '\x7b' :: rest =>
      match Text.cut? '\x7d' rest with
      | some (name, rest) => if ByteText.isName name then some (name, rest) else none
      | none => none
  | _ => none

/-- The character that a backslash and a letter stand for. -/
def splitEscape (c : Char) : Char :=
  (([('n', '\n'), ('t', '\t'), ('r', '\r'), ('f', '\x0c'), ('v', '\x0b')] :
    List (Char × Char)).lookup c).getD c

/--
The words of a text, which may be quoted and hold variables.  The word that is being read is given,
with its last character first, and the quote that is open; the first argument bounds the steps.
-/
def splitWords (valueOf : ByteText → ByteText) :
    Nat → Option ByteText → Option Char → ByteText → List ByteText
  | 0, current, _, _ => (current.map List.reverse).toList
  | _ + 1, current, _, [] => (current.map List.reverse).toList
  | steps + 1, current, quote?, c :: rest =>
      let word := current.getD []
      match quote?, c, rest with
      | some quote, c, rest =>
          if c = quote then splitWords valueOf steps (some word) none rest
          else if c = '$' && quote = '"' then
            match bracedName? rest with
            | some (name, rest) =>
                splitWords valueOf steps (some ((valueOf name).reverse ++ word)) quote? rest
            | none => splitWords valueOf steps (some (c :: word)) quote? rest
          else
            match c, rest with
            | '\\', next :: rest =>
                let added := if quote = '"' then splitEscape next else next
                splitWords valueOf steps (some (added :: word)) quote? rest
            | c, rest => splitWords valueOf steps (some (c :: word)) quote? rest
      | none, '\\', next :: rest =>
          if next = 'c' then (current.map List.reverse).toList
          else splitWords valueOf steps (some (splitEscape next :: word)) none rest
      | none, c, rest =>
          if c = '\'' || c = '"' then splitWords valueOf steps (some word) (some c) rest
          else if ByteText.isBlank c then
            (current.map List.reverse).toList ++ splitWords valueOf steps none none rest
          else
            match if c = '$' then bracedName? rest else none with
            | some (name, rest) =>
                splitWords valueOf steps (some ((valueOf name).reverse ++ word)) none rest
            | none => splitWords valueOf steps (some (c :: word)) none rest

/-- The text that is to be split in an argument, where options come before it without a value. -/
def splitOption? (argument : ByteText) (next : Option ByteText) : Option (ByteText × Bool) :=
  match Text.after? "--split-string=".toList argument with
  | some text => some (text, false)
  | none =>
      let letters := (argument.drop 1).takeWhile fun c => c ∈ ['i', '0', 'v']
      match argument, argument.drop (letters.length + 1) with
      | '-' :: _, ['S'] => next.map fun text => (text, true)
      | '-' :: _, 'S' :: text => some (text, false)
      | _, _ => none

/-- A text that has been split into words. -/
structure SplitText where
  text : ByteText
  words : List ByteText

/--
Arguments with the words of the text that is to be split in its place, and what has been split.  The
first one may be the value of the option before it.
-/
def withSplitWords (valueOf : ByteText → ByteText) :
    Bool → List ByteText → List ByteText × Option SplitText
  | _, [] => ([], none)
  | true, value :: rest =>
      let (others, split?) := withSplitWords valueOf false rest
      (value :: others, split?)
  | false, argument :: rest =>
      match splitOption? argument rest.head? with
      | some (text, isNext) =>
          let letters := (argument.drop 1).takeWhile fun c => c ∈ ['i', '0', 'v']
          let words := splitWords valueOf (2 * text.length + 2) none none text
          ((if letters.isEmpty then [] else ['-' :: letters]) ++ words ++
            (if isNext then rest.drop 1 else rest), some ⟨text, words⟩)
      | none =>
          if argument.head? = some '-' && argument ∉ [['-'], ['-', '-']] then
            let (others, split?) :=
              withSplitWords valueOf (argument ∈ [['-', 'u'], ['-', 'C']]) rest
            (argument :: others, split?)
          else
            (argument :: rest, none)

/-- The assignments in front of arguments, and the arguments after them. -/
def leadingAssignments : List ByteText → List (ByteText × ByteText) × List ByteText
  | [] => ([], [])
  | argument :: rest =>
      match Text.cut? '=' argument with
      | some item =>
          let (others, rest) := leadingAssignments rest
          (item :: others, rest)
      | none => ([], argument :: rest)

/-- The options of a call that runs a program in another environment. -/
def environmentOptions : List OptionKind :=
  [flag 'i' "ignore-environment", flag '0' "null", valued 'u' "unset", valued 'C' "chdir",
    valued 'S' "split-string", flag 'v' "debug"]

/-- Run a program in the environment that options and assignments lead to. -/
def launchIn (explain : ByteText → Work Unit) (arguments : Arguments)
    (environment : List (ByteText × ByteText)) : List ByteText → Work Unit
  | [] => do
      if arguments.has "chdir" then
        misuse "must specify command with --chdir (-C)".toList 125
      printEnded (arguments.has "null") (assignmentTexts environment)
  | name :: operands => do
      if arguments.has "null" then
        misuse "cannot specify --null (-0) with command".toList 125
      let directory? ← match arguments.value? "chdir" with
        | none => pure none
        | some directory => do
            match ← ask fun disk here => disk.entryAt here true directory.toPath with
            | .ok (location, .directory _) => pure (some location)
            | .ok _ =>
                refuse ("cannot change directory to ".toList ++ quoted directory ++
                  ": Not a directory".toList) 125
            | .error fault =>
                refuse ("cannot change directory to ".toList ++ quoted directory ++
                  ": ".toList ++ faultText fault) 125
      let call ← read
      let hint :=
        if name.any ByteText.isBlank then
          call.name ++ ": use -[v]S to pass options in shebang lines\n".toList
        else
          []
      if let some directory := arguments.value? "chdir" then
        explain ("chdir:    ".toList ++ quoted directory)
      explain ("executing: ".toList ++ name)
      for (argument, number) in (name :: operands).zipIdx do
        explain ("   arg[".toList ++ ByteText.ofNat number ++ "]= ".toList ++ quoted argument)
      launch {
        name, arguments := operands, environment, directory?, hint
        fault := call.name ++ ": ".toList ++ quoted name }

/-- Print a line to the errors that tells what is done. -/
def explainLine (line : ByteText) : Work Unit :=
  printError (line ++ ['\n'])

/-- Tell how a text has been split. -/
def explainSplit (split : SplitText) : Work Unit := do
  explainLine ("split -S:  ".toList ++ quoted split.text)
  for (word, number) in split.words.zipIdx do
    explainLine ((if number = 0 then " into:    " else "     &    ").toList ++ quoted word)

/-- Run a program in another environment, or print that. -/
def env : Tool := fun call =>
  let valueOf := fun name => (call.environment.lookup name).getD []
  let (given, split?) := withSplitWords valueOf false call.arguments
  toTool (do
    let arguments ← arguments environmentOptions true 125
    let explain := fun line => if arguments.has "debug" then explainLine line else pure ()
    if let some split := split? then
      if arguments.has "debug" then
        explainSplit split
    let startsEmpty := arguments.has "ignore-environment" || arguments.operands.head? = some ['-']
    let dropped := arguments.values "unset"
    if startsEmpty then
      explain "cleaning environ".toList
    else
      for name in dropped do
        explain ("unset:    ".toList ++ name)
        if name.isEmpty || name.contains '=' then
          refuse ("cannot unset ".toList ++ quoted name ++ ": Invalid argument".toList) 125
    let operands :=
      if arguments.operands.head? = some ['-'] then arguments.operands.drop 1
      else arguments.operands
    let (assignments, operands) := leadingAssignments operands
    for (name, value) in assignments do
      explain ("setenv:   ".toList ++ name ++ '=' :: value)
    let start :=
      if startsEmpty then [] else call.environment.filter fun (name, _) => name ∉ dropped
    let environment := assignments.foldl
      (fun environment (name, value) => Keyed.update name value environment) start
    launchIn explain arguments environment operands) { call with arguments := given }

/-!
# Doing nothing, waiting and running

Some tools only have a status or take time; others run a program in their place.
-/

/-- Succeed. -/
def succeed : Tool := toTool (return ())

/-- Fail. -/
def failing : Tool := toTool (finish 1)

/-- A length of time that never ends for anyone who waits. -/
def forever : Nat := 1000000000000000000000000000000

/-- The seconds that a length of time stands for, in millionths. -/
def duration? (text : ByteText) : Option Nat := do
  let units : List (ByteText × Nat) :=
    [([], 1), (['s'], 1), (['m'], 60), (['h'], 3600), (['d'], 86400)]
  let (number, rest) ← Floating.read? 64 text
  let factor ← units.lookup rest
  match number with
  | .finite isNegative numerator denominator =>
      if isNegative && numerator ≠ 0 then none
      else some ((numerator * factor * 1000000 + denominator - 1) / denominator)
  | .infinite false => some forever
  | _ => none

/-- Wait. -/
def sleep : Tool := toTool do
  let arguments ← arguments []
  requireOperands arguments
  let wrong := arguments.operands.filter fun operand => (duration? operand).isNone
  for operand in wrong do
    complain ("invalid time interval ".toList ++ quoted operand)
  if !wrong.isEmpty then
    giveUp

/-- Say the same again and again, for as long as anyone may want to hear it. -/
def yes : Tool := toTool do
  let arguments ← arguments []
  let operands := if arguments.operands.isEmpty then [['y']] else arguments.operands
  let line := Text.join ' ' operands ++ ['\n']
  print (List.replicate (600000 / line.length + 1) line).flatten
  goOn

/-! ## Running programs -/

/-- Run a program in the place of a tool that has come to its last words. -/
def launchOperands (fault : ByteText → ByteText) (limit? : Option TimeLimit)
    (niceness? : Option Nat) : List ByteText → Work Unit
  | [] => return ()
  | name :: operands => do
      let call ← read
      launch {
        name, arguments := operands, environment := call.environment, limit?, niceness?
        fault := call.name ++ ": ".toList ++ fault name }

/-- The wording of a program that cannot be run. -/
def failedToRun (name : ByteText) : ByteText :=
  "failed to run command ".toList ++ quoted name

/-- The number of the signal that a text stands for, with or without its usual beginning. -/
def signalOf? (text : ByteText) : Option Nat :=
  let text := text.map Char.toUpper
  (Signal.event? text).or ((Text.after? "SIG".toList text).bind Signal.event?)

/-- The length of time that a text has to stand for. -/
def requireDuration (text : ByteText) : Work Nat := do
  match duration? text with
  | some time => return time
  | none => misuse ("invalid time interval ".toList ++ quoted text) 125

/-- Run a program for some time. -/
def timeout : Tool := toTool do
  let arguments ← arguments
    [wordOnly "preserve-status", wordOnly "foreground", valued 'k' "kill-after",
      valued 's' "signal", flag 'v' "verbose"] true 125
  for (word, text) in arguments.options do
    if word = "kill-after" then
      let _ ← requireDuration text
    if word = "signal" && (signalOf? text).isNone then
      misuse (quoted text ++ ": invalid signal".toList) 125
  match arguments.operands with
  | limit :: program :: operands => do
      let time ← requireDuration limit
      let limit : TimeLimit :=
        { time
          signal := ((arguments.value? "signal").bind signalOf?).getD 15
          keepsStatus := arguments.has "preserve-status"
          isTold := arguments.has "verbose"
          isAlone := arguments.has "foreground" }
      launchOperands failedToRun (if time = 0 then none else some limit) none (program :: operands)
  | _ => giveUp 125

/-- Run a program that does not mind when others hang up. -/
def nohup : Tool := toTool do
  let arguments ← arguments [] true 125
  if arguments.operands.isEmpty then
    misuse "missing operand".toList 125
  launchOperands failedToRun none none arguments.operands

/-- How much of a stream is kept before it is passed on, as a variable tells a program. -/
def requireBuffering (word : String) (text : ByteText) : Work ByteText := do
  if text = ['L'] then
    if word = "input" then
      misuse "line buffering stdin is meaningless".toList 125
    else
      return text
  else
    match readAmount sizeUnits text with
    | .ok size => return .ofNat size
    | .error fault => refuse ("invalid mode ".toList ++ quoted text ++ fault.remark) 125

/-- Run a program that keeps more or less of its streams before it passes them on. -/
def stdbuf : Tool := toTool do
  let arguments ← arguments [valued 'i' "input", valued 'o' "output", valued 'e' "error"] true 125
  let settings ← arguments.options.mapM fun (word, text) => do
    let name := if word = "input" then 'I' else if word = "output" then 'O' else 'E'
    return ("_STDBUF_".toList ++ [name], ← requireBuffering word text)
  match arguments.operands with
  | [] => misuse "missing operand".toList 125
  | name :: operands => do
      if settings.isEmpty then
        misuse "you must specify a buffering mode option".toList 125
      let call ← read
      let library := "/usr/libexec/coreutils/libstdbuf.so".toList
      launch {
        name, arguments := operands, fault := call.name ++ ": ".toList ++ failedToRun name
        environment := (settings ++ [("LD_PRELOAD".toList, library)]).foldl
          (fun environment (name, value) => Keyed.update name value environment)
          call.environment }

/-- Arguments with an adjustment that is written as a mere number given to its letter. -/
def withAdjustment (arguments : List ByteText) : List ByteText :=
  match arguments with
  | ('-' :: text) :: rest =>
      let digits := if text.head?.any fun c => c = '-' || c = '+' then text.drop 1 else text
      if digits.head?.any Char.isDigit then
        ['-', 'n'] :: text :: withAdjustment rest
      else if text = ['n'] then
        match rest with
        | value :: rest => ['-', 'n'] :: value :: withAdjustment rest
        | [] => arguments
      else if text = ['-'] then arguments
      else ('-' :: text) :: withAdjustment rest
  | arguments => arguments

/-- The adjustment that a text stands for. -/
def requireAdjustment (text : ByteText) : Work Int := do
  let trimmed := text.dropWhile ByteText.isBlank
  let isSigned := trimmed.head?.any fun c => c = '-' || c = '+'
  match Text.decimal? (if isSigned then trimmed.drop 1 else trimmed) with
  | some value => return if trimmed.head? = some '-' then -value else value
  | none => refuse ("invalid adjustment ".toList ++ quoted text) 125

/-- Run a program that is nicer to others, or tell how nice the tool is itself. -/
def nice : Tool := toTool do
  match Arguments.read [valued 'n' "adjustment"] true (withAdjustment (← read).arguments) with
  | .error text => misuse text 125
  | .ok arguments => do
      let adjustment? ← match arguments.value? "adjustment" with
        | some text => pure (some (← requireAdjustment text))
        | none => pure none
      let own := (← read).niceness
      if arguments.operands.isEmpty then
        if adjustment?.isSome then
          misuse "a command must be given with an adjustment".toList 125
        printLine (.ofNat own)
      else
        let adjustment := adjustment?.getD 10
        if adjustment < 0 then
          remark "cannot set niceness: Permission denied".toList
        launchOperands quoted none (some (min 19 (own + adjustment.toNat))) arguments.operands

end Provision.Shell.Tool
