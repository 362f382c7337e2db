import Provision.Path.Basic

namespace Provision

/-!
# Layout of the storage

Every package has a directory of its own under the storage root.  What packages share stands under
one more directory.
-/

/-- The fixed names inside the storage. -/
inductive StorageName where
  | installing
  | nodeVersion
  | pythonVersion
  | shared
  | nodeRuntime
  | uv
  | release
  | cache
  | nodeModules
  | packageManifest
  deriving Repr, DecidableEq

namespace StorageName

/-- Every fixed name. -/
def all : List StorageName :=
  [.installing, .nodeVersion, .pythonVersion, .shared, .nodeRuntime, .uv, .release, .cache,
    .nodeModules, .packageManifest]

/-- The text of a fixed name. -/
def text : StorageName → String
  | .installing => ".installing"
  | .nodeVersion => ".node-version"
  | .pythonVersion => "python_version"
  | .shared => "lsp_utils"
  | .nodeRuntime => "node-runtime"
  | .uv => "uv"
  | .release => "VERSION"
  | .cache => "cache"
  | .nodeModules => "node_modules"
  | .packageManifest => "package.json"

end StorageName

namespace Path

/-- A fixed name inside a directory. -/
def within (directory : Path) (name : StorageName) : Path :=
  directory.child (.text name.text)

end Path

/-- The storage of all packages. -/
structure StorageLayout where
  root : Path
  deriving DecidableEq

namespace StorageLayout

/-- The directory of one package. -/
def packageStorage (layout : StorageLayout) (package : String) : Path :=
  layout.root / package

/-- The directory of what packages share. -/
def shared (layout : StorageLayout) : Path :=
  layout.root.within .shared

/-- The directory of Node.js runtimes. -/
def nodeRuntimes (layout : StorageLayout) : Path :=
  layout.shared.within .nodeRuntime

/-- The directory of the uv tool. -/
def uv (layout : StorageLayout) : Path :=
  layout.shared.within .uv

end StorageLayout

end Provision

namespace Provision.Venv

/-!
# Virtual environments

A virtual environment is a directory with programs of its own.  This module says where they stand.
-/

/-- The program that makes virtual environments unless another one is given. -/
def defaultProgram : String := "python3"

/-- The directory of the programs of a virtual environment. -/
def programs (environment : Path) : Path :=
  environment / "bin"

/-- The file name of a program, which has no ending of its own. -/
def programName (name : String) : String :=
  name

end Provision.Venv
