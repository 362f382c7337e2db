import Provision.Node.Resolution

namespace Provision

/-!
# The runtime of a session

All packages of a session share one runtime.  It is resolved when it is first asked for, and the
outcome is kept, be it a runtime or a failure.
-/

/-- What a session knows of its runtime. -/
inductive NodeCell where
  | unresolved
  | resolved (runtime : NodeRuntime)
  | failed (message : String)

namespace NodeCell

/-- Whether a resolution has been tried. -/
def isResolved : NodeCell → Bool
  | .unresolved => false
  | _ => true

/-- The runtime of the session, if it has one. -/
def runtime? : NodeCell → Option NodeRuntime
  | .resolved runtime => some runtime
  | _ => none

end NodeCell

/-- What a session needs to resolve its runtime. -/
structure NodeContext (σ : Type) where
  layout : StorageLayout
  settings : Settings
  confirm : String → StateT σ Plan Bool := fun _ => return true
  searchPath : Option String := none
  nodeRelease : NodeRelease := {}
  electronRelease : ElectronRelease := {}

namespace NodeContext

variable {σ : Type}

/-- The runtimes in the storage of a session. -/
def store (context : NodeContext σ) : NodeStore where
  directory := context.layout.nodeRuntimes
  useElectron := context.settings.useElectron
  nodeRelease := context.nodeRelease
  electronRelease := context.electronRelease

/-- The source that a name in the settings stands for. -/
def source? (context : NodeContext σ) (name : String) : Option (NodeSource σ) :=
  if name = Settings.systemName then some (NodeSource.onSearchPath context.searchPath)
  else if name = Settings.localName then some context.store.source
  else none

/-- The sources that the settings name; unknown names stand for nothing. -/
def sources (context : NodeContext σ) : List (NodeSource σ) :=
  context.settings.sources.filterMap context.source?

/-- The resolver for a package. -/
def resolver (context : NodeContext σ) (package : String) : NodeResolver σ where
  package := package
  sources := context.sources
  confirm := context.confirm
  prefersLocal := context.settings.prefersLocal

/-- Resolve the runtime of the session for the first time, and keep the outcome. -/
def resolveFirst
    (context : NodeContext σ)
    (package : String)
    (requirement : Requirement) :
    StateT σ Plan (Except RuntimeFault NodeRuntime × NodeCell) := do
  match ← ((context.resolver package).resolve requirement).run with
  | .ok runtime => return (.ok runtime, .resolved runtime)
  | .error fault => return (.error fault, .failed fault.message)

/-- Check the runtime that a session has, which may have to be asked for its version. -/
def recheck
    (runtime : NodeRuntime)
    (requirement : Requirement) :
    StateT σ Plan (Except RuntimeFault NodeRuntime × NodeCell) := do
  match ← StateT.lift ((NodeRuntime.checkVersion requirement).run.run runtime) with
  | (.ok (), runtime) => return (.ok runtime, .resolved runtime)
  | (.error fault, runtime) => return (.error fault, .resolved runtime)

/-- The runtime of the session, or why a package cannot have it. -/
def answer
    (context : NodeContext σ)
    (package : String)
    (requirement : Requirement) :
    NodeCell → StateT σ Plan (Except RuntimeFault NodeRuntime × NodeCell)
  | .unresolved => do
      match ← context.resolveFirst package requirement with
      | (.ok runtime, _) => recheck runtime requirement
      | outcome => return outcome
  | .resolved runtime => recheck runtime requirement
  | .failed message => return (.error (.unresolvedBefore message), .failed message)

/-- The runtime of the session for a package with a requirement. -/
def nodeRuntime
    (context : NodeContext σ)
    (package : String)
    (requirement : Requirement) :
    Session (NodeCell × σ) RuntimeFault NodeRuntime :=
  ExceptT.mk fun (cell, host) => do
    let ((outcome, cell), host) ← (context.answer package requirement cell).run host
    return (outcome, (cell, host))

end NodeContext

end Provision
