import Provision.Plan.Basic
import Provision.Text.Fields

namespace Provision

/-!
# Commands

A command is a program with its arguments, its working directory and what it needs in its
environment.  Directories can be put in front of the search path of the child; everything else of
the search path stays as it is.
-/

/-- A program to run and how to run it. -/
structure Command where
  program : String
  arguments : List String := []
  workingDirectory : Option Path := none
  bindings : List (String × String) := []
  leadingPaths : List Path := []
  deriving DecidableEq

/-- Why a command fails: its process cannot start, or it starts and does not succeed. -/
inductive CommandFault where
  | notStarted (command : String) (cause : DiskFault)
  | failed (command output : String)
  deriving DecidableEq

namespace CommandFault

/-- The wording of a fault. -/
def message : CommandFault → String
  | .notStarted command cause => s!"Failed to start {command}: {cause.message}"
  | .failed command output => s!"Command {command} failed:\n{output}"

end CommandFault

namespace Command

/-- The program and its arguments on one line. -/
def display (command : Command) : String :=
  " ".intercalate (command.program :: command.arguments)

/-- The name of the variable that holds the search path. -/
def searchPathName : String := "PATH"

/-- The search path that the variables of a command give, of which the last one counts. -/
def ownSearchPath? (command : Command) : Option String :=
  (command.bindings.reverse.find? fun (key, _) => key = searchPathName).map Prod.snd

/-- Join the directories of a search path, none of which may hold the separator. -/
def joinSearchPath (directories : List String) : Option String :=
  if directories.any fun directory => directory.toList.contains ':' then
    none
  else
    some (":".intercalate directories)

/-- The directories of a search path. -/
def splitSearchPath (text : String) : List String :=
  (Text.fields ':' text.toList).map String.ofList

/--
The search path that a child gets, if it differs from the inherited one: the directories in front
and then those of its own or of the inherited search path.
-/
def childSearchPath? (command : Command) (inherited : Option String) : Option String :=
  if command.leadingPaths.isEmpty && command.ownSearchPath?.isNone then
    none
  else
    let base := (command.ownSearchPath?.orElse fun _ => inherited).getD ""
    joinSearchPath (command.leadingPaths.map Path.display ++ splitSearchPath base)

/-- The child process of a command. -/
def child (command : Command) (inherited : Option String) : ChildProcess where
  program := command.program
  arguments := command.arguments
  workingDirectory := command.workingDirectory
  bindings :=
    (command.bindings.filter fun (key, _) => key ≠ searchPathName) ++
      (command.childSearchPath? inherited).toList.map fun path => (searchPathName, path)

/-- Start the child process of a command and wait for its end. -/
def start (command : Command) : Plan (Except DiskFault ProcessOutput) := do
  let environment ← Plan.ask .environment
  Plan.ask (.spawn (command.child environment.searchPath))

/-- The text of what a process wrote, without blanks around it and without what is no text. -/
def decode (bytes : Bytes) : String :=
  String.ofList (Text.trim (Text.Utf8.decodeDropping bytes))

/-- The outcome of a process that has ended. -/
def outcome (command : Command) (result : ProcessOutput) : Except CommandFault String :=
  let output := decode result.output
  let errors := decode result.errors
  if result.status = .exited 0 then
    .ok (if output = "" then errors else output)
  else
    .error (.failed command.display
      ("\n".intercalate ([output, errors].filter fun text => text ≠ "")))

/-- Run a command to its end: what it wrote to its output, or else to its errors. -/
def run (command : Command) : Procedure CommandFault String :=
  ExceptT.mk do
    match ← command.start with
    | .ok result => return command.outcome result
    | .error cause => return .error (.notStarted command.display cause)

end Command

end Provision

namespace Provision.Search

/-!
# Finding programs

A program is looked for in the directories of a search path, in order.  It has to be a regular file
that its owner may execute.
-/

/-- Whether a path leads to a regular file that can be executed. -/
def isProgram (path : Path) : Plan Bool := do
  match ← Plan.ask (.status path) with
  | .ok status => return status.kind = .file && status.allows .execute
  | .error _ => return false

/-- A directory of a search path; a leading tilde stands for the home directory. -/
def expandHome (home : Option String) (directory : Path) : Path :=
  if directory.first = .text "~" then
    (directory.rest.filter fun name => !name.isHere).foldl Path.child (home.getD "" : String)
  else
    directory

/-- The first program among paths. -/
def firstProgram : List Path → Plan (Option Path)
  | [] => return none
  | path :: others => do
      if ← isProgram path then return some path else firstProgram others

/-- Find a program by name, in the given search path or in that of the process itself. -/
def find? (name : String) (searchPath : Option String) : Plan (Option Path) := do
  let environment ← Plan.ask .environment
  match searchPath.orElse fun _ => environment.searchPath with
  | none => return none
  | some directories =>
      firstProgram ((Command.splitSearchPath directories).map fun directory =>
        expandHome environment.homeDirectory (Path.ofString directory) / name)

end Provision.Search
