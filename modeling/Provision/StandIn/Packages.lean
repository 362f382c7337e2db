import Provision.Storage.Files

namespace Provision.StandIn

/-!
# Scripts that stand in for programs

For trials without the real programs there are shell scripts in their place.  A script answers to
`--version`, and it makes the files that an installation by the real program would make.
-/

/-- The text of lines, each of them ended. -/
def ofLines (lines : List String) : String :=
  String.join (lines.map fun line => line ++ "\n")

/-- A script that can be executed. -/
def executable (body : String) : String :=
  "#!/bin/sh\n" ++ body

/-- The commands of a package manager that installs dependencies. -/
def installing : String :=
  ofLines ["mkdir -p node_modules", "echo \"added 0 packages\""]

/-- The commands of a package manager that fails. -/
def failing : String :=
  ofLines ["echo 'npm ERR! code EUSAGE' >&2", "exit 1"]

/-- A script in place of Node.js: it tells its version, and otherwise installs or fails. -/
def node (version : String) (failsToInstall : Bool) : String :=
  ofLines [
    "if [ \"$1\" = \"--version\" ]; then",
    "  echo v" ++ version,
    "  exit 0",
    "fi"] ++
  if failsToInstall then failing else installing

/-- A script in place of a Python interpreter that makes an environment with one more program. -/
def python (version program : String) : String :=
  ofLines [
    "if [ \"$1\" = \"--version\" ]; then",
    "  echo \"Python " ++ version ++ "\"",
    "  exit 0",
    "fi",
    "if [ \"$1\" = \"-m\" ] && [ \"$2\" = \"venv\" ]; then",
    "  mkdir -p \"$3/bin\"",
    "  printf '#!/bin/sh\\necho \"Successfully installed\"\\n' > \"$3/bin/pip\"",
    "  chmod 755 \"$3/bin/pip\"",
    "  printf '#!/bin/sh\\n' > \"$3/bin/" ++ program ++ "\"",
    "  chmod 755 \"$3/bin/" ++ program ++ "\"",
    "  exit 0",
    "fi",
    "echo \"unexpected arguments: $*\" >&2",
    "exit 2"]

/-- A script in place of uv that makes an environment with one more program. -/
def uv (program : String) : String :=
  ofLines [
    "if [ \"$1\" = \"--version\" ]; then",
    "  echo \"uv 0.9.26\"",
    "  exit 0",
    "fi",
    "if [ \"$1\" = \"sync\" ]; then",
    "  mkdir -p .venv/bin",
    "  printf '#!/bin/sh\\n' > .venv/bin/python",
    "  printf '#!/bin/sh\\n' > .venv/bin/" ++ program,
    "  chmod 755 .venv/bin/python .venv/bin/" ++ program,
    "  echo \"Resolved 1 package\"",
    "  exit 0",
    "fi",
    "exit 2"]

/-!
# Files that stand in for installations

The scripts and the few other files that make a directory look like an installation.
-/

/-- Write a file, in a directory that is made if it is missing. -/
def writeFile (path : Path) (content : Bytes) : Storing Unit := do
  Files.makeParents path
  Files.reporting path (Plan.ask (.writeFile path content))

/-- Write a script that can be executed. -/
def writeScript (path : Path) (body : String) : Storing Unit := do
  writeFile path (Text.Utf8.ofString (executable body))
  Files.reporting path (Plan.ask (.changeMode path 0o755))

/-- Lay out an unpacked distribution of Node.js. -/
def layOutNode (directory : Path) (version : String) : Storing Unit := do
  writeScript (directory / "bin/node") (node version false)
  writeFile (directory / "lib/node_modules/npm/bin/npm-cli.js") (Text.Utf8.ofString "// npm\n")

/-- Lay out Node.js and its package manager in a directory of a search path. -/
def layOutPrograms (directory : Path) (version : String) : Storing Unit := do
  writeScript (directory / "node") (node version false)
  writeScript (directory / "npm") installing

end Provision.StandIn

namespace Provision.StandIn

/-!
# A surrounding for trials

A directory with the resources of packages, a storage and a cache beside each other, which goes away
after the trial.
-/

/-- The surrounding of a trial. -/
structure Packages where
  root : Path
  deriving DecidableEq

namespace Packages

/-- The directory of the resources of packages. -/
def resources (packages : Packages) : Path :=
  packages.root / "Packages"

/-- The storage. -/
def storage (packages : Packages) : Path :=
  packages.root / "Storage"

/-- The cache. -/
def cache (packages : Packages) : Path :=
  packages.root / "Cache"

/-- Make a surrounding below a directory for temporary files. -/
def make (temporary : Path) : Storing Packages := do
  let root ← Files.reporting temporary (Plan.ask (.makeTemporary temporary ".tmp"))
  let packages : Packages := ⟨root⟩
  Files.reporting packages.resources (Files.makeDirectories packages.resources)
  Files.reporting packages.storage (Files.makeDirectories packages.storage)
  Files.reporting packages.cache (Files.makeDirectories packages.cache)
  return packages

/-- Write a resource, and tell where it stands. -/
def writeResource (packages : Packages) (name : String) (content : Bytes) : Storing Path := do
  let path := packages.resources / name
  writeFile path content
  return path

/-- Whether something is in the storage. -/
def isStored (packages : Packages) (name : String) : Plan Bool :=
  Files.exists? (packages.storage / name)

/-- Remove the surrounding. -/
def discard (packages : Packages) : Plan Unit :=
  Files.discardTree packages.root

end Packages

end Provision.StandIn
