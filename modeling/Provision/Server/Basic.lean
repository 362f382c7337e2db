import Provision.Node.Fault

namespace Provision

/-!
# Faults of language servers

The causes for which a language server cannot be set up or installed, each with its wording.
-/

/-- What is wrong with the description of a server. -/
inductive ConfigFault where
  | missingField (name : String)
  | missingManifest (path : String)
  | leavesPackages (path : String)
  | incompleteExtension
  | badItemName (item : String)
  deriving Repr, DecidableEq

namespace ConfigFault

/-- The wording of a fault. -/
def message : ConfigFault → String
  | .missingField name => s!"Missing required \"{name}\""
  | .missingManifest path => s!"Expected \"{path}\" resource not found"
  | .leavesPackages path => s!"Resource path \"{path}\" leaves the packages directory"
  | .incompleteExtension => "Marketplace resource needs a package name, version and binary path"
  | .badItemName item => s!"Invalid extension item name \"{item}\", expected \"vendor.name\""

end ConfigFault

/-- Why a language server cannot be set up or installed. -/
inductive ServerFault where
  | runtime (fault : RuntimeFault)
  | storage (fault : StorageFault)
  | badConfig (fault : ConfigFault)
  | missingManifest (manifest location : String)
  | missingResource (path : String)
  | installFailed (package : String) (cause : ServerFault)
  deriving DecidableEq

namespace ServerFault

/-- The wording of a fault. -/
def message : ServerFault → String
  | .runtime fault => s!"Runtime error: {fault.message}"
  | .storage fault => s!"Filesystem error: {fault.message}"
  | .badConfig fault => fault.message
  | .missingManifest manifest location => s!"Missing required \"{manifest}\" in {location}"
  | .missingResource path => s!"Resource not found: {path}"
  | .installFailed package cause => s!"Error installing the server {package}:\n{cause.message}"

end ServerFault

/-- A procedure on language servers. -/
abbrev Serving (α : Type) := Procedure ServerFault α

namespace Serving

/-- Use a procedure on the package storage. -/
def storing {α : Type} (procedure : Storing α) : Serving α :=
  procedure.adapt .storage

/-- Use a procedure on runtimes. -/
def provisioning {α : Type} (procedure : Provisioning α) : Serving α :=
  procedure.adapt .runtime

/-- Run a command. -/
def running (command : Command) : Serving String :=
  provisioning (Provisioning.running command)

/-- Go on with the value of a computation that may have failed. -/
def require {α : Type} (outcome : Except ServerFault α) : Serving α :=
  ExceptT.mk (pure outcome)

end Serving

/-!
# Language servers

Every kind of language server can tell whether what is installed is current, and can be installed.
What follows for its status is the same for all kinds: it is ready once it is found current or has
been installed, and has failed once an installation has failed.
-/

/-- What is known of the installation of a server. -/
inductive ServerStatus where
  | uninitialized
  | failed
  | ready
  deriving Repr, DecidableEq

namespace ServerStatus

/-- The name of a status. -/
def name : ServerStatus → String
  | .uninitialized => "Uninitialized"
  | .failed => "Error"
  | .ready => "Ready"

end ServerStatus

/-- A kind of language server. -/
class Server (σ : Type) where
  package : σ → String
  binary : σ → Path
  directory : σ → Path
  isCurrent : Session σ ServerFault Bool
  installSteps : Session σ ServerFault Unit

/-- A language server with what is known of its installation. -/
structure Managed (σ : Type) where
  server : σ
  status : ServerStatus := .uninitialized

namespace Managed

variable {σ : Type}

/-- Let a session of the server take place. -/
def onServer {α : Type} (session : Session σ ServerFault α) : Session (Managed σ) ServerFault α :=
  ExceptT.mk fun managed => do
    let (outcome, server) ← session.run.run managed.server
    return (outcome, { managed with server })

/-- Set the status. -/
def settle (status : ServerStatus) : Session (Managed σ) ServerFault Unit :=
  modify fun managed => { managed with status }

variable [Server σ]

/-- Whether the server has to be installed; if not, it is ready. -/
def needsInstallation : Session (Managed σ) ServerFault Bool := do
  let isCurrent ← onServer Server.isCurrent
  if isCurrent then
    settle .ready
  return !isCurrent

/-- Install the server, and set its status by the outcome. -/
def install : Session (Managed σ) ServerFault Unit := do
  let managed ← get
  try
    onServer Server.installSteps
  catch fault =>
    settle .failed
    throw (.installFailed (Server.package managed.server) fault)
  settle .ready

/-- Install the server if it has to be. -/
def ensureInstalled : Session (Managed σ) ServerFault Unit := do
  let needed ← needsInstallation
  if needed then
    install

end Managed

end Provision
