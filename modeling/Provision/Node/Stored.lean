import Provision.Archive.Extract
import Provision.Node.Fault
import Provision.Storage.Download
import Provision.Storage.Layout
import Provision.Text.Fields

namespace Provision

/-!
# Releases

A release is a version of Node.js or of Electron together with the place that offers it.  Which
archive to download follows from the release and the platform; not every platform has one.
-/

/-- Which Node.js to install and where it is offered. -/
structure NodeRelease where
  version : String := "22.18.0"
  baseUrl : String := "https://nodejs.org/dist"
  deriving Repr, DecidableEq

namespace NodeRelease

/-- The name of the archive for a platform. -/
def archiveName (release : NodeRelease) (platform : Platform) : Except RuntimeFault String :=
  let named := fun system extension =>
    .ok s!"node-v{release.version}-{system}-{platform.processor.name}.{extension}"
  match platform.system, platform.processor with
  | .windows, .x64 => named "win" "zip"
  | .linux, .x64 | .linux, .arm64 => named "linux" "tar.gz"
  | .osx, .x64 | .osx, .arm64 => named "darwin" "tar.gz"
  | _, _ => .error (.unsupportedPlatform platform)

/-- The address of an archive. -/
def url (release : NodeRelease) (archiveName : String) : String :=
  Text.addressBelow release.baseUrl s!"v{release.version}/{archiveName}"

end NodeRelease

/-- Which Electron to install, the Node.js version in it, and where it and yarn are offered. -/
structure ElectronRelease where
  version : String := "37.3.1"
  nodeVersion : String := "22.18.0"
  baseUrl : String := "https://github.com/electron/electron/releases/download"
  yarnUrl : String := "https://github.com/yarnpkg/yarn/releases/download/v1.22.22/yarn-1.22.22.js"
  deriving Repr, DecidableEq

namespace ElectronRelease

/-- How the archives name an operating system. -/
def systemName : OperatingSystem → String
  | .windows => "win32"
  | .linux => "linux"
  | .osx => "darwin"

/-- The name of the archive for a platform. -/
def archiveName (release : ElectronRelease) (platform : Platform) : Except RuntimeFault String :=
  if platform.processor = .x32 then
    .error (.unsupportedPlatform platform)
  else
    .ok s!"electron-v{release.version}-{systemName platform.system}-{platform.processor.name}.zip"

/-- The address of an archive. -/
def url (release : ElectronRelease) (archiveName : String) : String :=
  Text.addressBelow release.baseUrl s!"v{release.version}/{archiveName}"

end ElectronRelease

end Provision

namespace Provision

/-!
# Node.js in the storage

A release of Node.js is kept in a directory that is named for its version.  While it is being
installed a mark stands beside it, and as long as the mark is there nothing of it is shown.
-/

/-- A release of Node.js that is kept, or will be kept, in a directory of its own. -/
structure StoredNode where
  directory : Path
  release : NodeRelease
  platform : Platform
  deriving DecidableEq

namespace StoredNode

/-- The place of a release among all runtimes. -/
def ofRelease (runtimes : Path) (release : NodeRelease) (platform : Platform) : StoredNode where
  directory := runtimes / release.version
  release := release
  platform := platform

/-- The mark of an installation that is not finished. -/
def marker (node : StoredNode) : Path :=
  node.directory.within .installing

/-- The directory with the unpacked release. -/
def content (node : StoredNode) : Path :=
  node.directory / "node"

/-- The directory for the downloaded archive. -/
def cache (node : StoredNode) : Path :=
  node.directory.within .cache

/-- The program that runs JavaScript. -/
def program? (node : StoredNode) : Plan (Option Path) := do
  if ← Files.isFile node.marker then
    return none
  else
    Files.firstFile [node.content / "node.exe", node.content / "bin" / "node"]

/-- The script of the package manager. -/
def npmScript? (node : StoredNode) : Plan (Option Path) := do
  if ← Files.isFile node.marker then
    return none
  else do
    let library := (node.content / "lib").within .nodeModules
    let hasLibrary ← Files.isDirectory library
    let modules := if hasLibrary then library else node.content.within .nodeModules
    Files.firstFile [modules / "npm" / "bin" / "npm-cli.js"]

/-- The directories that scripts of the package manager need on their search path. -/
def leadingPaths (node : StoredNode) : Plan (List Path) := do
  return ((← node.program?).bind Path.parent?).toList

/-- Unpack an archive, and put its one top directory in the place of the release. -/
def unpack (node : StoredNode) (archiveName : String) (archive : Path) : Provisioning Unit := do
  let unpacked ← Provisioning.storing (Archive.extract archive node.directory)
  if unpacked.matchesPath node.directory then
    throw (.installFailed s!"Node.js {node.release.version}"
      s!"{archiveName} has no single top-level directory")
  Provisioning.storing (Files.removeTree node.content)
  Provisioning.storing (Files.reporting unpacked (Plan.ask (.rename unpacked node.content)))
  Provisioning.storing (Files.removeMarker node.marker)

/-- Download the release and unpack it; the archive does not stay. -/
def install (node : StoredNode) : Provisioning Unit := do
  Provisioning.storing (Files.createMarker node.marker)
  let archiveName ← Provisioning.require (node.release.archiveName node.platform)
  Provisioning.storing (Files.reporting node.cache (Files.makeDirectories node.cache))
  let archive := node.cache / archiveName
  Procedure.closedBy
    (do
      let isCached ← (Files.isFile archive : Plan Bool)
      if !isCached then
        Provisioning.storing (Download.toFile (node.release.url archiveName) archive)
      node.unpack archiveName archive)
    (Files.discardFile archive)

end StoredNode

end Provision
