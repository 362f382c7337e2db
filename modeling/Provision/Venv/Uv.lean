import Provision.Archive.Extract
import Provision.Command.Basic
import Provision.Server.Basic
import Provision.Server.Resources
import Provision.Storage.Download
import Provision.Storage.Files
import Provision.Storage.Layout
import Provision.Text.Fields

namespace Provision

/-!
# The uv tool

The tool is taken from the search path if it is there.  Otherwise one release of it is kept in the
storage, with a file that names the release; a release with another name is downloaded anew and put
in place only when it has been unpacked.
-/

/-- Which release of uv to keep and where it is offered. -/
structure UvRelease where
  tag : String := "0.9.26"
  baseUrl : String := "https://github.com/astral-sh/uv/releases/download"
  deriving Repr, DecidableEq

namespace UvRelease

/-- How the archives name a processor. -/
def processorName? : Processor → Option String
  | .x64 => some "x86_64"
  | .arm64 => some "aarch64"
  | .x32 => none

/-- How the archives name an operating system, and their ending for it. -/
def systemName : OperatingSystem → String
  | .windows => "pc-windows-msvc.zip"
  | .osx => "apple-darwin.tar.gz"
  | .linux => "unknown-linux-gnu.tar.gz"

/-- The name of the archive for a platform. -/
def archiveName (platform : Platform) : Except RuntimeFault String :=
  match processorName? platform.processor with
  | some processor => .ok s!"uv-{processor}-{systemName platform.system}"
  | none => .error (.unsupportedPlatform platform)

/-- The address of an archive. -/
def url (release : UvRelease) (archiveName : String) : String :=
  Text.addressBelow release.baseUrl s!"{release.tag}/{archiveName}"

end UvRelease

/-- The uv tool. -/
structure UvTool where
  program : Path
  deriving DecidableEq

namespace UvTool

/-- The file name of the tool. -/
def programName (platform : Platform) : String :=
  match platform.system with
  | .windows => "uv.exe"
  | _ => "uv"

/-- The opening of the name of the directory for a download. -/
def stagingOpening : String := ".download"

/-- Download and unpack a release, and find the tool in it. -/
def unpack
    (release : UvRelease)
    (archiveName programName : String)
    (staging : Path) :
    Serving Path := do
  let archive := staging / archiveName
  let target := staging / "extracted"
  Serving.storing (Download.toFile (release.url archiveName) archive)
  let root ← Serving.storing (Archive.extract archive target)
  match ← (Files.firstFile [root / programName, target / programName] : Plan (Option Path)) with
  | some program => return program
  | none => throw (.missingResource s!"{archiveName}/{programName}")

/-- Put an unpacked tool in place, and name its release. -/
def settle (release : UvRelease) (unpacked program mark : Path) : Storing Unit := do
  Files.removeFile program
  Files.reporting program (Plan.ask (.rename unpacked program))
  Files.setExecutable program
  Files.writeText mark release.tag

/-- Download a release to a directory of its own, and put the tool in place. -/
def download
    (directory : Path)
    (release : UvRelease)
    (platform : Platform) :
    Serving Unit := do
  let archiveName ← Serving.provisioning (Provisioning.require (UvRelease.archiveName platform))
  let staging ← Serving.storing do
    Files.reporting directory (Files.makeDirectories directory)
    Files.reporting directory (Plan.ask (.makeTemporary directory stagingOpening))
  let name := programName platform
  Procedure.closedBy
    (Procedure.closedBy
      (do
        let unpacked ← unpack release archiveName name staging
        Serving.storing
          (settle release unpacked (directory / name) (directory.within .release)))
      (Files.discardFile (staging / archiveName)))
    (Files.discardTree staging)

/-- The tool that is kept in a directory, of the given release. -/
def managed
    (directory : Path)
    (release : UvRelease)
    (platform : Platform) :
    Serving UvTool := do
  let program := directory / programName platform
  let stored ← Serving.storing (Files.readText? (directory.within .release))
  let isThere ← (Files.isFile program : Plan Bool)
  if !(isThere && stored.map Text.trimmed = some release.tag) then
    download directory release platform
  return ⟨program⟩

/-- The tool on the search path, or else the one that is kept in the storage. -/
def locate
    (layout : StorageLayout)
    (searchPath : Option String)
    (release : UvRelease) :
    Serving UvTool := do
  match ← (Search.find? "uv" searchPath : Plan (Option Path)) with
  | some program => return ⟨program⟩
  | none => managed layout.uv release .host

/-- Run the tool in a directory. -/
def run (tool : UvTool) (arguments : List String) (directory : Path) : Serving String :=
  Serving.running
    { program := tool.program.display, arguments, workingDirectory := some directory }

/-- A description of the tool on one line. -/
def describe (tool : UvTool) : String :=
  "UvRunner \x7b binary: " ++ Text.quote tool.program.display ++ " \x7d"

end UvTool

/-!
# Environments filled by uv

The storage of a package holds copies of the project file and of the lock file beside it, if there
is one.  The environment is current as long as the copies are the same as the files of the package.
-/

/-- A virtual environment that uv fills from a project file. -/
structure UvProject where
  package : String
  manifest : String
  layout : StorageLayout
  resources : Resources
  tool : Option UvTool := none
  deriving DecidableEq

namespace UvProject

/-- The file name of the copy of the project file. -/
def manifestName : String := "pyproject.toml"

/-- The file name of a lock file. -/
def lockName : String := "uv.lock"

/-- The environment for a project file, which the package has to have. -/
def create
    (package manifest : String)
    (layout : StorageLayout)
    (resources : Resources) :
    Serving UvProject := do
  let isThere ← (resources.exists? manifest : Plan Bool)
  if isThere then
    return { package, manifest, layout, resources }
  else
    throw (.badConfig (.missingManifest manifest))

/-- The storage of the package. -/
def storage (project : UvProject) : Path :=
  project.layout.packageStorage project.package

/-- The directory of the environment. -/
def environment (project : UvProject) : Path :=
  project.storage / ".venv"

/-- The directory of the programs of the environment. -/
def programs (project : UvProject) : Path :=
  Venv.programs project.environment

/-- The interpreter of the environment. -/
def python (project : UvProject) : Path :=
  project.programs / Venv.programName "python"

/-- The resource path of the lock file, beside the project file. -/
def lock (project : UvProject) : String :=
  match Text.cutLast? '/' project.manifest.toList with
  | some (directory, _) => String.ofList directory ++ "/" ++ lockName
  | none => lockName

/-- The resource paths of the files that the environment is filled from, with their copies. -/
def sources (project : UvProject) : List (String × Path) :=
  [(project.manifest, project.storage / manifestName), (project.lock, project.storage / lockName)]

/-- Whether copies are the same as the files of the package; files that are missing do not count. -/
def areCurrent (resources : Resources) : List (String × Path) → Serving Bool
  | [] => return true
  | (resource, copy) :: others => do
      let isThere ← (resources.exists? resource : Plan Bool)
      if !isThere then
        areCurrent resources others
      else do
        let source ← resources.readBytes resource
        let isSame ← Serving.storing (Checksum.matchesFile source copy)
        if isSame then areCurrent resources others else return false

/-- Whether the environment is current. -/
def isCurrent (project : UvProject) : Serving Bool := do
  let isThere ← (Files.isDirectory project.environment : Plan Bool)
  if isThere then areCurrent project.resources project.sources else return false

/-- Remove files. -/
def removeFiles : List Path → Storing Unit
  | [] => return ()
  | path :: others => do
      Files.removeFile path
      removeFiles others

/-- Copy those of the files of the package that are there. -/
def copySources (resources : Resources) : List (String × Path) → Serving Unit
  | [] => return ()
  | (resource, copy) :: others => do
      let isThere ← (resources.exists? resource : Plan Bool)
      if isThere then
        resources.copyFile resource copy
      copySources resources others

/-- Remove the environment and the copies, and copy the files of the package. -/
def prepare (project : UvProject) : Serving Unit := do
  Serving.storing do
    removeFiles (project.sources.map Prod.snd)
    Files.removeTree project.environment
    Files.reporting project.storage (Files.makeDirectories project.storage)
  copySources project.resources project.sources

/-- The tool, which is located when it is needed for the first time. -/
def locateTool : Session UvProject ServerFault UvTool := do
  let project ← get
  match project.tool with
  | some tool => return tool
  | none => do
      let tool ← Procedure.within (UvTool.locate project.layout none {})
      set { project with tool := some tool }
      return tool

/-- Make the environment anew. -/
def install : Session UvProject ServerFault Unit := do
  let project ← get
  Procedure.within project.prepare
  let tool ← locateTool
  let _ ← Procedure.within (tool.run ["sync"] project.storage)

/-- A description of the environment on one line. -/
def describe (project : UvProject) : String :=
  let tool :=
    match project.tool with
    | none => "None"
    | some tool => "Some(" ++ tool.describe ++ ")"
  "UvVenvManager \x7b package_name: " ++ Text.quote project.package ++
    ", pyproject_path: " ++ Text.quote project.manifest ++
    ", storage: " ++ Text.quote project.storage.display ++ ", uv: " ++ tool ++ ", .. \x7d"

end UvProject

end Provision
