import Provision.Server.Resources
import Provision.Storage.Files
import Provision.Storage.Layout

namespace Provision

/-!
# Environments filled by pip

The environment holds a copy of the list of requirements that it was filled from, and the version of
the interpreter that made it.  It is current as long as both are what they would be now.
-/

/-- A virtual environment that pip fills from a list of requirements. -/
structure PipEnvironment where
  directory : Path
  requirements : String
  python : String
  resources : Resources
  deriving DecidableEq

namespace PipEnvironment

/-- The file name of the copy of the requirements. -/
def requirementsName : String := "requirements.txt"

/-- The directory of the programs of the environment. -/
def programs (environment : PipEnvironment) : Path :=
  Venv.programs environment.directory

/-- The package manager of the environment. -/
def pip (environment : PipEnvironment) : Path :=
  environment.programs / Venv.programName "pip"

/-- The file with the version of the interpreter. -/
def versionMark (environment : PipEnvironment) : Path :=
  environment.directory.within .pythonVersion

/-- The copy of the requirements. -/
def storedRequirements (environment : PipEnvironment) : Path :=
  environment.directory / requirementsName

/-- The command that asks the interpreter for its version. -/
def versionCommand (environment : PipEnvironment) : Command where
  program := environment.python
  arguments := ["--version"]

/-- The command that makes the environment. -/
def makeCommand (environment : PipEnvironment) : Command where
  program := environment.python
  arguments := ["-m", "venv", environment.directory.display]

/-- The command that fills the environment. -/
def fillCommand (environment : PipEnvironment) : Command where
  program := environment.pip.display
  arguments := ["install", "-r", environment.storedRequirements.display,
    "--disable-pip-version-check"]
  workingDirectory := some environment.directory

/-- The version of the interpreter, in its own words. -/
def pythonVersion (environment : PipEnvironment) : Serving String :=
  Serving.running environment.versionCommand

/-- Whether the copy of the requirements is the same as the list in the package. -/
def hasCurrentRequirements (environment : PipEnvironment) : Serving Bool := do
  let isThere ← (environment.resources.exists? environment.requirements : Plan Bool)
  if !isThere then
    throw (.missingManifest requirementsName environment.requirements)
  let source ← environment.resources.readBytes environment.requirements
  Serving.storing (Checksum.matchesFile source environment.storedRequirements)

/-- Whether the environment is current. -/
def isCurrent (environment : PipEnvironment) : Serving Bool := do
  let hasPip ← (Files.isFile environment.pip : Plan Bool)
  if !hasPip then
    return false
  else do
    let stored ← Serving.storing (Files.readText? environment.versionMark)
    let version ← environment.pythonVersion
    if stored.map Text.trimmed = some version then
      environment.hasCurrentRequirements
    else
      return false

/-- Make the environment anew; what cannot be removed of the old one stays. -/
def install (environment : PipEnvironment) : Serving Unit := do
  (Files.discardTree environment.directory : Plan Unit)
  let _ ← Serving.running environment.makeCommand
  environment.resources.copyFile environment.requirements environment.storedRequirements
  let _ ← Serving.running environment.fillCommand
  let version ← environment.pythonVersion
  Serving.storing (Files.writeText environment.versionMark version)

/-- A description of the environment on one line. -/
def describe (environment : PipEnvironment) : String :=
  "PipVenvManager \x7b venv_path: " ++ Text.quote environment.directory.display ++
    ", requirements_path: " ++ Text.quote environment.requirements ++
    ", python_binary: " ++ Text.quote environment.python ++ ", .. \x7d"

end PipEnvironment

end Provision
