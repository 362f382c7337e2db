import Provision.Host.Web
import Provision.Plan.Basic
import Provision.Shell.Running

namespace Provision

/-!
# A host in memory

A host has a disk, a web and programs for the shell.  It answers every action, so that whole plans
can be run on it.
-/

/-- The surroundings of a process: a disk, a web, an environment and a working directory. -/
structure Host where
  disk : Disk
  web : Web
  environment : List (String × String)
  workingDirectory : Location
  processId : Nat := 1000

namespace Host

/-- The search path of a process whose own programs are in its home directory. -/
def searchPathOfHome (home : Path) : String :=
  (home / "bin").display ++ ":/usr/bin:/bin"

/--
A host with little more than the programs for the shell, for a process that works in its home
directory.
-/
def ofHome (home : Location) (web : Web) : Host where
  disk :=
    let opened := (List.range home.length).foldl
      (fun disk depth => disk.set (home.take (depth + 1)) (.directory 0o755))
      (Shell.Tool.install Disk.blank)
    (opened.set [.text "tmp"] (.directory 0o1777)).set [.text "dev"] (.directory 0o755)
  web := web
  environment :=
    [("PATH", searchPathOfHome (Disk.pathOf home)), ("HOME", (Disk.pathOf home).display),
      ("LC_ALL", "C")]
  workingDirectory := home

/-- The value of a variable of the environment. -/
def valueOf? (host : Host) (name : String) : Option String :=
  host.environment.lookup name

/-- What a process sees of its surroundings. -/
def view (host : Host) : Environment where
  processId := host.processId
  searchPath := host.valueOf? "PATH"
  homeDirectory := host.valueOf? "HOME"

/-! ## Child processes -/

/-- How many steps a script may take. -/
def maxSteps : Nat := 20000

/-- Whether a byte text can be handed to another process. -/
def isPassable (child : ChildProcess) : Bool :=
  let texts := child.program :: child.arguments ++
    child.bindings.flatMap (fun (name, value) => [name, value]) ++
    (child.workingDirectory.map Path.display).toList
  texts.all fun text => !text.toList.contains '\x00'

/-- The directory that a child process starts in. -/
def enter (host : Host) (child : ChildProcess) : Except DiskFault Location :=
  match child.workingDirectory with
  | none => .ok host.workingDirectory
  | some path =>
      match host.disk.entryAt host.workingDirectory true path with
      | .ok (location, .directory mode) =>
          if (Entry.directory mode).allows .execute then
            .ok location
          else
            .error (.refused .permission)
      | .ok _ => .error (.refused .notDirectory)
      | .error fault => .error fault

/-- A variable as another process reads it: its name ends where the first sign of equality is. -/
def passedVariable (name value : String) : Shell.ByteText × Shell.ByteText :=
  let text := Shell.ByteText.ofString name ++ '=' :: Shell.ByteText.ofString value
  (text.takeWhile (· ≠ '='), (text.dropWhile (· ≠ '=')).drop 1)

/-- The variables of a child process, in order if some of them are its own. -/
def childEnvironment (host : Host) (child : ChildProcess) :
    List (Shell.ByteText × Shell.ByteText) :=
  let all := child.bindings.foldl
    (fun environment (name, value) => Keyed.update name value environment)
    host.environment
  let all :=
    if child.bindings.isEmpty then all else all.mergeSort fun a b => decide (a.1 ≤ b.1)
  all.map fun (name, value) => passedVariable name value

/-- The search path for the program of a child process, and whether it is the child's own. -/
def searchPathOf (host : Host) (child : ChildProcess) : String × Bool :=
  match child.bindings.lookup "PATH" with
  | some path => (path, true)
  | none => ((host.valueOf? "PATH").getD "/bin:/usr/bin", false)

/-- The paths at which a program may be that is looked for in a search path. -/
def programPaths (searchPath name : Shell.ByteText) : List Shell.ByteText :=
  (Text.fields ':' searchPath).map fun directory =>
    if directory.isEmpty then name else directory ++ '/' :: name

/--
The first of some paths with a program, or why there is none.  A file that is no program is read by
the shell if so asked.
-/
def searchProgram (disk : Disk) (directory : Location) (readsPlainFiles : Bool) :
    DiskFault → List Shell.ByteText → Except DiskFault (Shell.ByteText × Shell.Program)
  | fault, [] => .error fault
  | fault, path :: others =>
      match Shell.Program.loadRunnable disk directory 5 path with
      | .ok program => .ok (path, program)
      | .error (.refused .notExecutable) =>
          if readsPlainFiles then
            .ok (path, .script "/bin/sh".toList none)
          else
            .error (.refused .notExecutable)
      | .error (.refused .permission) =>
          searchProgram disk directory readsPlainFiles (.refused .permission) others
      | .error (.refused .noEntry) => searchProgram disk directory readsPlainFiles fault others
      | .error (.refused .notDirectory) =>
          searchProgram disk directory readsPlainFiles fault others
      | .error other => .error other

/-- The program of a child process, or why it cannot be run. -/
def findProgram (host : Host) (directory : Location) (child : ChildProcess) :
    Except DiskFault (Shell.ByteText × Shell.Program) :=
  let name := Shell.ByteText.ofString child.program
  if name.isEmpty then
    .error (.refused .noEntry)
  else if name.contains '/' then
    (Shell.Program.loadRunnable host.disk directory 5 name).map fun program => (name, program)
  else
    let (searchPath, isOwn) := host.searchPathOf child
    searchProgram host.disk directory isOwn (.refused .noEntry)
      (programPaths (Shell.ByteText.ofString searchPath) name)

/-- The state from which the shell runs a program. -/
def shellState (host : Host) (directory : Location) : Shell.State where
  disk := host.disk
  workingDirectory := directory
  descriptors := [(0, 0), (1, 1), (2, 2)]
  openFiles :=
    [(0, { stream := .nothing, isWritable := false }), (1, { stream := .buffer 1 }),
      (2, { stream := .buffer 2 })]
  buffers := [(1, []), (2, [])]
  processId := host.processId
  nextProcess := host.processId + 1

/-- Run a child process to its end. -/
def spawn (host : Host) (child : ChildProcess) : Except DiskFault ProcessOutput × Host :=
  if !isPassable child then
    (.error (.damaged "nul byte found in provided data"), host)
  else
    match host.enter child with
    | .error fault => (.error fault, host)
    | .ok directory =>
        match host.findProgram directory child with
        | .error fault => (.error fault, host)
        | .ok (path, program) =>
            let running := Shell.runProgram maxSteps path program
              (.ofString child.program) (child.arguments.map .ofString)
              (host.childEnvironment child)
            let (outcome, state) := running.run.run (host.shellState directory)
            let status :=
              match outcome, state.ended with
              | .ok (), .killed signal => .killed signal
              | .ok (), _ => .exited state.status
              | .error _, _ => .killed 9
            (.ok ⟨status, (state.buffer 1).toBytes, (state.buffer 2).toBytes⟩,
              { host with disk := state.disk })

/-! ## Actions -/

/-- The answer of a call that changes the disk, or not if it fails. -/
def change (host : Host) : Except DiskFault Disk → Except DiskFault Unit × Host
  | .ok disk => (.ok (), { host with disk })
  | .error fault => (.error fault, host)

/-- The answer to an action, and the host after it. -/
def perform : (action : Action) → Host → action.Reply × Host
  | .status path, host => (host.disk.status host.workingDirectory true path, host)
  | .linkStatus path, host => (host.disk.status host.workingDirectory false path, host)
  | .readFile path, host => (host.disk.readFile host.workingDirectory path, host)
  | .listDirectory path, host => (host.disk.listDirectory host.workingDirectory path, host)
  | .realPath path, host => (host.disk.realPath host.workingDirectory path, host)
  | .writeFile path content, host =>
      host.change (host.disk.writeFile host.workingDirectory path content)
  | .appendFile path content, host =>
      host.change (host.disk.appendFile host.workingDirectory path content)
  | .copyFile source target, host =>
      host.change (host.disk.copyFile host.workingDirectory source target)
  | .makeDirectory path, host =>
      host.change (host.disk.makeDirectory host.workingDirectory path 0o755)
  | .makeTemporary parent opening, host =>
      match host.disk.makeTemporary host.workingDirectory parent opening with
      | .ok (path, disk) => (.ok path, { host with disk })
      | .error fault => (.error fault, host)
  | .makeLink target path, host =>
      host.change (host.disk.makeLink host.workingDirectory target path)
  | .makeHardLink existing path, host =>
      host.change (host.disk.makeHardLink host.workingDirectory existing path)
  | .changeMode path mode, host =>
      host.change (host.disk.changeMode host.workingDirectory path mode)
  | .setTimes path time, host =>
      host.change (host.disk.setTimes host.workingDirectory path time)
  | .rename source target, host =>
      host.change (host.disk.rename host.workingDirectory source target)
  | .removeFile path, host => host.change (host.disk.removeFile host.workingDirectory path)
  | .removeTree path, host =>
      match host.disk.removeTree host.workingDirectory path with
      | .ok disk => (.ok (), { host with disk })
      | .error fault =>
          (.error fault, { host with disk := host.disk.leftOver host.workingDirectory path })
  | .environment, host => (host.view, host)
  | .fetch url, host =>
      let (answer, web) := host.web.fetch url
      (answer, { host with web })
  | .spawn child, host => host.spawn child

/-- Run a plan on a host. -/
def run {α : Type} (host : Host) (plan : Plan α) : α × Host :=
  plan.run perform host

end Host

end Provision
