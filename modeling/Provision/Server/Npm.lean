import Provision.Node.Context
import Provision.Server.Basic
import Provision.Server.Resources
import Provision.Storage.Files

namespace Provision

/-!
# Servers installed with npm

The source of the server is copied from the resources of its package to the storage, and its
dependencies are installed there.  A mark stands in the storage until that is finished; the version
of the runtime is written down beside the copy.
-/

/-- The description of a server that is installed with npm. -/
structure NpmOptions where
  package : String
  directory : String
  binary : String
  storage : Path
  minimumVersion : UInt64 × UInt64 × UInt64
  requiredVersion : String
  skipDependencies : Bool
  deriving DecidableEq

namespace NpmOptions

/-- The requirement on the runtime: the given one, or else at least the minimum version. -/
def requirement (options : NpmOptions) : Except ServerFault Requirement :=
  let required := Text.trimmed options.requiredVersion
  if required = "" || required = "0.0.0" then
    let (major, minor, patch) := options.minimumVersion
    .ok (Requirement.atLeast major minor patch)
  else
    (NodeRuntime.readRequirement required).mapError .runtime

/-- Refuse a description in which something is missing. -/
def validate (options : NpmOptions) : Except ServerFault Unit :=
  let missing := [("package_name", options.package), ("server_directory", options.directory),
    ("server_binary_path", options.binary)].find? fun (_, value) => Text.trimmed value = ""
  match missing with
  | some (name, _) => .error (.badConfig (.missingField name))
  | none =>
      if options.storage = Path.empty then
        .error (.badConfig (.missingField "package_storage"))
      else
        .ok ()

/-- The directory of the server inside its package. -/
def directoryName (options : NpmOptions) : String :=
  Text.withoutAround '/' options.directory

/-- The resource path of the server. -/
def source (options : NpmOptions) : String :=
  s!"Packages/{options.package}/{options.directoryName}/"

/-- The resource path of the manifest of the server. -/
def manifest (options : NpmOptions) : String :=
  options.source ++ StorageName.packageManifest.text

/-- The place of the copy of the server. -/
def copy (options : NpmOptions) : Path :=
  options.storage / options.directoryName

end NpmOptions

/-- A server that is installed with npm. -/
structure NpmServer where
  options : NpmOptions
  resources : Resources
  runtime : NodeRuntime

namespace NpmServer

/-- The server with a runtime that has been resolved before. -/
def withRuntime
    (options : NpmOptions)
    (resources : Resources)
    (runtime : NodeRuntime) :
    Except ServerFault NpmServer := do
  options.validate
  return { options, resources, runtime }

/-- The server with the runtime of the session. -/
def create
    {σ : Type}
    (options : NpmOptions)
    (resources : Resources)
    (context : NodeContext σ) :
    Session (NodeCell × σ) ServerFault NpmServer := do
  Procedure.within (Serving.require options.validate)
  let requirement ← Procedure.within (Serving.require options.requirement)
  let runtime ← (context.nodeRuntime options.package requirement).adapt .runtime
  Procedure.within (Serving.require (withRuntime options resources runtime))

/-- The program that runs the server. -/
def nodeProgram (server : NpmServer) : Serving Path :=
  Serving.provisioning server.runtime.program

/-- Let a session of the runtime take place. -/
def onRuntime
    {α : Type}
    (session : Session NodeRuntime RuntimeFault α) :
    Session NpmServer ServerFault α :=
  ExceptT.mk fun server => do
    let (outcome, runtime) ← session.run.run server.runtime
    return (outcome.mapError .runtime, { server with runtime })

/-- The text of the version of the runtime. -/
def versionText : Session NpmServer ServerFault String := do
  return (← onRuntime NodeRuntime.resolveVersion).toText

/-- The place of a fixed name in the storage. -/
def inStorage (server : NpmServer) (name : StorageName) : Path :=
  server.options.storage.within name

/-- Whether the dependencies are there, if the server has any, and no mark says otherwise. -/
def isComplete (server : NpmServer) : Plan Bool := do
  let hasModules ← Files.isDirectory (server.options.copy.within .nodeModules)
  if !server.options.skipDependencies && !hasModules then
    return false
  else
    return !(← Files.exists? (server.inStorage .installing))

/-- Whether the copy in the storage was made with this version and from this manifest. -/
def isCurrentFor (manifest : Bytes) : Session NpmServer ServerFault Bool := do
  let server ← get
  let isComplete ← Procedure.within (server.isComplete : Plan Bool)
  if !isComplete then
    return false
  else do
    let stored ← Procedure.within
      (Serving.storing (Files.readText? (server.inStorage .nodeVersion)))
    let version ← versionText
    if stored.map Text.trimmed ≠ some version then
      return false
    else
      Procedure.within
        (Serving.storing
          (Checksum.matchesFile manifest (server.options.copy.within .packageManifest)))

/-- The manifest of the server, which its package has to have. -/
def readManifest (server : NpmServer) : Serving Bytes := do
  let isThere ← (server.resources.exists? server.options.manifest : Plan Bool)
  if !isThere then
    throw (.missingManifest StorageName.packageManifest.text server.options.source)
  server.resources.readBytes server.options.manifest

/-- Whether the copy in the storage is current. -/
def isCurrent : Session NpmServer ServerFault Bool := do
  let server ← get
  let manifest ← Procedure.within server.readManifest
  isCurrentFor manifest

/-- Copy the server to the storage, install its dependencies, and write the version down. -/
def fill (server : NpmServer) (version : String) : Serving Unit := do
  let marker := server.inStorage .installing
  Serving.storing do
    Files.reporting server.options.storage (Files.makeDirectories server.options.storage)
    Files.createMarker marker
  server.resources.copyTree server.options.source server.options.copy
  if !server.options.skipDependencies then
    Serving.provisioning (server.runtime.installDependencies server.options.copy)
  Serving.storing do
    Files.writeText (server.inStorage .nodeVersion) version
    Files.removeMarker marker

/-- Install the server in place of what is in the storage. -/
def installSteps : Session NpmServer ServerFault Unit := do
  let server ← get
  Procedure.within (Serving.storing (Files.removeTree server.options.storage))
  let version ← versionText
  Procedure.within (server.fill version)

instance : Server NpmServer where
  package := fun server => server.options.package
  binary := fun server => server.options.storage / server.options.binary
  directory := fun server => server.options.copy
  isCurrent := isCurrent
  installSteps := installSteps

end NpmServer

end Provision
