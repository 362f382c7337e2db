import Provision.Command.Basic
import Provision.Node.Electron
import Provision.Requirement.Basic

namespace Provision

/-!
# Node.js runtimes

A runtime is what language servers written in JavaScript run on.  It is found on a search path, or
it is a release of Node.js or of Electron in the storage.  A runtime is asked for its version once;
the answer is kept with it.
-/

/-- A package manager: a program, and the script that it runs if it needs one. -/
structure PackageManager where
  program : Path
  script : Option Path := none
  deriving DecidableEq

namespace PackageManager

/-- The program and the script. -/
def parts (manager : PackageManager) : List Path :=
  manager.program :: manager.script.toList

end PackageManager

/-- Where a runtime comes from. -/
inductive NodePlace where
  | found (node npm : Option Path)
  | stored (node : StoredNode)
  | electron (electron : StoredElectron)
  deriving DecidableEq

/-- A runtime, with its version if that has been asked for. -/
structure NodeRuntime where
  place : NodePlace
  version? : Option Version := none

namespace NodeRuntime

/-- Look for a runtime in a search path, or in that of the process itself. -/
def search (searchPath : Option String) : Plan NodeRuntime := do
  let node ← Search.find? "node" searchPath
  let npm ← Search.find? "npm" searchPath
  return { place := .found node npm }

/-- A short name for the place of a runtime. -/
def kind (runtime : NodeRuntime) : String :=
  match runtime.place with
  | .found .. => "PATH"
  | .stored _ => "local"
  | .electron _ => "electron"

/-- The program that runs JavaScript. -/
def program? (runtime : NodeRuntime) : Plan (Option Path) :=
  match runtime.place with
  | .found node _ => return node
  | .stored node => node.program?
  | .electron electron => electron.program?

/-- A program with a script for it, if both are there. -/
def scripted (program script : Plan (Option Path)) : Plan (Option PackageManager) := do
  match ← program with
  | none => return none
  | some program => return (← script).map fun script => { program, script := some script }

/-- The package manager of the runtime. -/
def packageManager? (runtime : NodeRuntime) : Plan (Option PackageManager) :=
  match runtime.place with
  | .found _ npm => return npm.map fun program => { program }
  | .stored node => scripted node.program? node.npmScript?
  | .electron electron => scripted electron.program? electron.yarnScript?

/-- What the runtime needs in the environment of its processes. -/
def bindings (runtime : NodeRuntime) : List (String × String) :=
  match runtime.place with
  | .electron _ => [("ELECTRON_RUN_AS_NODE", "true")]
  | _ => []

/-- The directories that its processes need in front of their search path. -/
def leadingPaths (runtime : NodeRuntime) : Plan (List Path) :=
  match runtime.place with
  | .stored node => node.leadingPaths
  | _ => return []

/-- How the fault of a missing program names it. -/
def programName : String := "\"node\""

/-- How the fault of a missing package manager names it. -/
def packageManagerName (runtime : NodeRuntime) : String :=
  match runtime.place with
  | .electron _ => "\"yarn.js\""
  | _ => "\"npm\""

/-- Require that both the program and the package manager are there. -/
def checkPrograms (runtime : NodeRuntime) : Provisioning Unit := do
  let program ← (runtime.program? : Plan (Option Path))
  if program.isNone then
    throw (.missingProgram programName)
  let packageManager ← (runtime.packageManager? : Plan (Option PackageManager))
  if packageManager.isNone then
    throw (.missingProgram runtime.packageManagerName)

/-- The program of the runtime, which has to be there. -/
def program (runtime : NodeRuntime) : Provisioning Path := do
  match ← (runtime.program? : Plan (Option Path)) with
  | some program => return program
  | none => throw (.missingProgram programName)

/-- A command in the environment that the runtime needs. -/
def command (runtime : NodeRuntime) (program : Path) (arguments : List String) : Plan Command := do
  let leadingPaths ← runtime.leadingPaths
  return { program := program.display, arguments, bindings := runtime.bindings, leadingPaths }

/-- The command that runs a script. -/
def scriptCommand (runtime : NodeRuntime) (arguments : List String) : Provisioning Command := do
  let program ← runtime.program
  (runtime.command program arguments : Plan Command)

/-- The version that a text gives. -/
def readVersion (text : String) : Except RuntimeFault Version :=
  (Version.ofString text).mapError fun fault => .badVersion text fault.message

/-- The requirement that a text gives. -/
def readRequirement (text : String) : Except RuntimeFault Requirement :=
  (Requirement.ofString text).mapError fun fault => .badRequirement text fault.message

/-- Ask the runtime for its version. -/
def askVersion (runtime : NodeRuntime) : Provisioning Version := do
  let command ← runtime.scriptCommand ["--version"]
  let output ← Provisioning.running command
  Provisioning.require (readVersion output)

/-- The version of the runtime, which is asked for it only once. -/
def resolveVersion : Session NodeRuntime RuntimeFault Version := do
  let runtime ← get
  match runtime.version? with
  | some version => return version
  | none => do
      let version ← Procedure.within runtime.askVersion
      set { runtime with version? := some version }
      return version

/-- Require that a version is accepted. -/
def requireVersion (requirement : Requirement) (version : Version) : Except RuntimeFault Unit :=
  if requirement.accepts version then
    .ok ()
  else
    .error (.versionMismatch requirement.text version.toText)

/-- Require that the version of the runtime is accepted. -/
def checkVersion (requirement : Requirement) : Session NodeRuntime RuntimeFault Unit := do
  let version ← resolveVersion
  Procedure.within (Provisioning.require (requireVersion requirement version))

/-- The arguments for each step of installing the dependencies of a package. -/
def dependencySteps (runtime : NodeRuntime) : List (List String) :=
  match runtime.place with
  | .electron electron =>
      [["import"],
        ["install", "--production", "--frozen-lockfile",
          "--cache-folder=" ++ electron.yarnCache.display]]
  | _ => [["ci", "--omit=dev", "--verbose"]]

/-- Run a package manager once for every list of arguments. -/
def runSteps
    (runtime : NodeRuntime)
    (manager : PackageManager)
    (directory : Path) :
    List (List String) → Provisioning Unit
  | [] => return ()
  | arguments :: others => do
      let leading := manager.script.toList.map Path.display
      let command ← (runtime.command manager.program (leading ++ arguments) : Plan Command)
      let _ ← Provisioning.running { command with workingDirectory := some directory }
      runSteps runtime manager directory others

/-- Install the dependencies that a package in a directory declares. -/
def installDependencies (runtime : NodeRuntime) (directory : Path) : Provisioning Unit := do
  let isThere ← (Files.isDirectory directory : Plan Bool)
  if !isThere then
    throw (.missingDirectory directory)
  match ← (runtime.packageManager? : Plan (Option PackageManager)) with
  | none => throw (.missingProgram "Node.js package manager")
  | some manager => runSteps runtime manager directory runtime.dependencySteps

/-- Install the runtime itself, which only one in the storage can be. -/
def install (runtime : NodeRuntime) : Provisioning Unit :=
  match runtime.place with
  | .stored node => node.install
  | .electron electron => electron.install
  | .found .. => throw (.notInstallable "system")

end NodeRuntime

end Provision
