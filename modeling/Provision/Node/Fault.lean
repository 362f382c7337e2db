import Provision.Command.Basic
import Provision.Platform
import Provision.Storage.Files

namespace Provision

/-!
# Faults of runtimes

The causes for which a runtime cannot be found, installed or run, each with its wording.
-/

/-- Why a runtime cannot be found, installed or run. -/
inductive RuntimeFault where
  | storage (fault : StorageFault)
  | command (fault : CommandFault)
  | missingProgram (program : String)
  | badVersion (input reason : String)
  | badRequirement (text reason : String)
  | versionMismatch (required actual : String)
  | unresolved (package : String) (log : List String)
  | unresolvedBefore (message : String)
  | unsupportedPlatform (platform : Platform)
  | notInstallable (source : String)
  | missingDirectory (path : Path)
  | installFailed (runtime reason : String)
  deriving DecidableEq

namespace RuntimeFault

/-- The wording of a fault. -/
def message : RuntimeFault → String
  | .storage fault => s!"Filesystem error: {fault.message}"
  | .command fault => fault.message
  | .missingProgram program => s!"{program} binary not found"
  | .badVersion input reason => s!"Invalid version '{input}': {reason}"
  | .badRequirement text reason => s!"Invalid version requirement '{text}': {reason}"
  | .versionMismatch required actual =>
      s!"Node.js version requirement failed. Expected {required}, got {actual}"
  | .unresolved package log =>
      s!"Failed resolving Node.js runtime for {package}. Attempts:\n" ++ "\n".intercalate log
  | .unresolvedBefore message =>
      s!"Node.js runtime resolution failed earlier in this session: {message}"
  | .unsupportedPlatform platform =>
      s!"Unsupported platform: {platform.system.name} {platform.processor.name}"
  | .notInstallable source => s!"Runtime source '{source}' cannot install a runtime"
  | .missingDirectory path =>
      s!"Specified working directory \"{path.display}\" does not exist"
  | .installFailed runtime reason => s!"Installation of {runtime} failed: {reason}"

end RuntimeFault

/-- A procedure on runtimes. -/
abbrev Provisioning (α : Type) := Procedure RuntimeFault α

namespace Provisioning

/-- Use a procedure on the package storage. -/
def storing {α : Type} (procedure : Storing α) : Provisioning α :=
  procedure.adapt .storage

/-- Go on with the value of a computation that may have failed. -/
def require {α : Type} (outcome : Except RuntimeFault α) : Provisioning α :=
  ExceptT.mk (pure outcome)

/-- Run a command. -/
def running (command : Command) : Provisioning String :=
  command.run.adapt .command

end Provisioning

end Provision
