import Provision.Node.Basic
import Provision.Settings.Basic

namespace Provision

/-!
# Sources of runtimes

A source is a place where a runtime may be found.  Some sources can also install one.  A source may
keep a state of its own, or ask somebody; `σ` is the state of whoever owns the sources.
-/

/-- A place where a runtime may be found. -/
structure NodeSource (σ : Type) where
  name : String
  announcement : String → String
  probe : StateT σ Plan NodeRuntime
  canInstall : StateT σ Plan Bool := return false
  install : Session σ RuntimeFault NodeRuntime := throw (.notInstallable name)

namespace NodeSource

/-- The source of runtimes on a search path. -/
def onSearchPath {σ : Type} (searchPath : Option String) : NodeSource σ where
  name := Settings.systemName
  announcement := fun package =>
    s!"Resolving Node.js Runtime in env PATH for package {package}..."
  probe := StateT.lift (NodeRuntime.search searchPath)

end NodeSource

/-- The runtimes in the storage and which of them is wanted. -/
structure NodeStore where
  directory : Path
  useElectron : Bool := false
  nodeRelease : NodeRelease := {}
  electronRelease : ElectronRelease := {}
  platform : Platform := .host
  deriving DecidableEq

namespace NodeStore

/-- The runtime that is wanted, whether or not it is there. -/
def runtime (store : NodeStore) : NodeRuntime :=
  if store.useElectron then
    { place :=
        .electron (StoredElectron.ofRelease store.directory store.electronRelease store.platform) }
  else
    { place := .stored (StoredNode.ofRelease store.directory store.nodeRelease store.platform) }

/-- Remove those of the entries of a directory that lead to a directory. -/
def removeDirectories (directory : Path) : List (Name × Disk.Kind) → Plan Unit
  | [] => return ()
  | (name, _) :: others => do
      let place := directory.child name
      if ← Files.isDirectory place then
        Files.discardTree place
      removeDirectories directory others

/-- Remove every runtime in the storage. -/
def removeRuntimes (store : NodeStore) : Plan Unit := do
  match ← Plan.ask (.listDirectory store.directory) with
  | .ok entries => removeDirectories store.directory entries
  | .error _ => return ()

/-- Install the runtime that is wanted in place of all others. -/
def install (store : NodeStore) : Provisioning NodeRuntime := do
  (store.removeRuntimes : Plan Unit)
  store.runtime.install
  return store.runtime

/-- The source of the runtime in the storage. -/
def source {σ : Type} (store : NodeStore) : NodeSource σ where
  name := Settings.localName
  announcement := fun package =>
    s!"Resolving Node.js Runtime from lsp_utils for package {package}..."
  probe := return store.runtime
  canInstall := return true
  install := Procedure.within store.install

end NodeStore

/-!
# Resolving a runtime

The sources are tried in order, and the first runtime that is fit for the requirement is taken.  A
source that lacks its runtime may install it, once the user agrees; no agreement is needed where the
runtime in the storage is the preferred one.  What stands in the way of each source is written to a
log.
-/

/-- What stands in the way of a source. -/
inductive Setback where
  | unusable (fault : RuntimeFault)
  | incomplete (fault : RuntimeFault)
  | declined
  | installFailed (fault : RuntimeFault)
  | unfit (fault : RuntimeFault)
  deriving DecidableEq

namespace Setback

/-- The line of the log for a setback. -/
def line : Setback → String
  | .unusable fault => s!" * Failed: {fault.message}"
  | .incomplete fault => s!" * Binaries check failed: {fault.message}"
  | .declined => " * Download skipped"
  | .installFailed fault => s!" * Failed downloading: {fault.message}"
  | .unfit fault => s!" * {fault.message}"

end Setback

/-- Resolves a runtime for one package. -/
structure NodeResolver (σ : Type) where
  package : String
  sources : List (NodeSource σ)
  confirm : String → StateT σ Plan Bool
  prefersLocal : Bool

namespace NodeResolver

variable {σ : Type}

/-- Whether the first of the sources is the storage. -/
def startsLocal (sources : List (NodeSource σ)) : Bool :=
  (sources.head?.map NodeSource.name) = some Settings.localName

/-- A description of the resolver on one line. -/
def describe (resolver : NodeResolver σ) : String :=
  "RuntimeResolver \x7b package: " ++ Text.quote resolver.package ++
    ", sources: " ++ Text.quoteList (resolver.sources.map NodeSource.name) ++
    s!", local_preferred: {resolver.prefersLocal}, .. " ++ "\x7d"

/-- Whether a download is allowed; the user is asked only where that matters. -/
def mayDownload (resolver : NodeResolver σ) : StateT σ Plan Bool :=
  if resolver.prefersLocal then return true else resolver.confirm resolver.package

/-- Take a runtime if its version is fit; the setbacks so far are given. -/
def takeFit
    (requirement : Requirement)
    (runtime : NodeRuntime)
    (setbacks : List Setback) :
    StateT σ Plan (Except (List Setback) NodeRuntime) := do
  match ← StateT.lift ((NodeRuntime.checkVersion requirement).run.run runtime) with
  | (.ok (), runtime) => return .ok runtime
  | (.error fault, _) => return .error (setbacks ++ [.unfit fault])

/-- Install the runtime of a source that lacks it, and take it if it is fit. -/
def installFit
    (resolver : NodeResolver σ)
    (requirement : Requirement)
    (source : NodeSource σ)
    (fault : RuntimeFault) :
    StateT σ Plan (Except (List Setback) NodeRuntime) := do
  if ← resolver.mayDownload then
    match ← source.install.run with
    | .error failure => return .error [.incomplete fault, .installFailed failure]
    | .ok runtime => do
        match ← StateT.lift runtime.checkPrograms.run with
        | .error failure => return .error [.incomplete fault, .unusable failure]
        | .ok () => takeFit requirement runtime [.incomplete fault]
  else
    return .error [.incomplete fault, .declined]

/-- Try one source: its runtime, or what stands in the way. -/
def trySource
    (resolver : NodeResolver σ)
    (requirement : Requirement)
    (source : NodeSource σ) :
    StateT σ Plan (Except (List Setback) NodeRuntime) := do
  let runtime ← source.probe
  match ← StateT.lift runtime.checkPrograms.run with
  | .ok () => takeFit requirement runtime []
  | .error fault => do
      if ← source.canInstall then
        resolver.installFit requirement source fault
      else
        return .error [.unusable fault]

/-- The lines of the log for a source and what stood in its way. -/
def sourceLines
    (resolver : NodeResolver σ)
    (source : NodeSource σ)
    (setbacks : List Setback) :
    List String :=
  source.announcement resolver.package :: setbacks.map Setback.line

/-- Try sources in order: the first fit runtime, or the lines of the log for all of them. -/
def trySources
    (resolver : NodeResolver σ)
    (requirement : Requirement) :
    List (NodeSource σ) → StateT σ Plan (Except (List String) NodeRuntime)
  | [] => return .error []
  | source :: others => do
      match ← resolver.trySource requirement source with
      | .ok runtime => return .ok runtime
      | .error setbacks => do
          match ← resolver.trySources requirement others with
          | .ok runtime => return .ok runtime
          | .error lines => return .error (resolver.sourceLines source setbacks ++ lines)

/-- The first line of a log. -/
def opening : String := "--- lsp_utils Node.js resolving start ---"

/-- The last line of a log. -/
def closing : String := "--- lsp_utils Node.js resolving end ---"

/-- The first runtime that is fit for a requirement. -/
def resolve
    (resolver : NodeResolver σ)
    (requirement : Requirement) :
    Session σ RuntimeFault NodeRuntime :=
  ExceptT.mk do
    match ← resolver.trySources requirement resolver.sources with
    | .ok runtime => return .ok runtime
    | .error lines =>
        return .error (.unresolved resolver.package (opening :: (lines ++ [closing])))

end NodeResolver

end Provision
