import Provision.Node.Stored

namespace Provision

/-!
# Electron in the storage

Electron runs JavaScript as Node.js does, but it has no package manager of its own.  A release of it
is kept together with the script of yarn.
-/

/-- A release of Electron that is kept, or will be kept, in a directory of its own. -/
structure StoredElectron where
  directory : Path
  release : ElectronRelease
  platform : Platform
  deriving DecidableEq

namespace StoredElectron

/-- The place of a release among all runtimes. -/
def ofRelease
    (runtimes : Path)
    (release : ElectronRelease)
    (platform : Platform) :
    StoredElectron where
  directory := runtimes / release.nodeVersion
  release := release
  platform := platform

/-- The mark of an installation that is not finished. -/
def marker (electron : StoredElectron) : Path :=
  electron.directory.within .installing

/-- The directory for the downloaded archive. -/
def cache (electron : StoredElectron) : Path :=
  electron.directory.within .cache

/-- The directory where yarn keeps what it downloads. -/
def yarnCache (electron : StoredElectron) : Path :=
  electron.cache / "yarn"

/-- The place of the script of yarn. -/
def yarnPlace (electron : StoredElectron) : Path :=
  electron.directory / "yarn.js"

/-- The place of the program. -/
def programPlace (electron : StoredElectron) : Path :=
  match electron.platform.system with
  | .osx => electron.directory / "Electron.app" / "Contents" / "MacOS" / "Electron"
  | .windows => electron.directory / "electron.exe"
  | .linux => electron.directory / "electron"

/-- A file of the release, which is hidden while it is being installed. -/
def shown? (electron : StoredElectron) (place : Path) : Plan (Option Path) := do
  if ← Files.isFile electron.marker then
    return none
  else
    Files.firstFile [place]

/-- The program that runs JavaScript. -/
def program? (electron : StoredElectron) : Plan (Option Path) :=
  electron.shown? electron.programPlace

/-- The script of the package manager. -/
def yarnScript? (electron : StoredElectron) : Plan (Option Path) :=
  electron.shown? electron.yarnPlace

/-- The command that unpacks an archive and keeps the links in it. -/
def unzipCommand (electron : StoredElectron) (archive : Path) : Command where
  program := "unzip"
  arguments := ["-o", archive.display, "-d", electron.directory.display]
  workingDirectory := some electron.cache

/-- Unpack an archive with the means of the platform. -/
def unpack (electron : StoredElectron) (archive : Path) : Provisioning Unit :=
  match electron.platform.system with
  | .windows => do
      let _ ← Provisioning.storing (Archive.extract archive electron.directory)
  | _ => do
      let _ ← (electron.unzipCommand archive).run.adapt fun fault =>
        RuntimeFault.installFailed s!"Electron {electron.release.version}"
          s!"Error unzipping electron archive: {fault.message}"

/-- Download the release and yarn; the archive does not stay. -/
def install (electron : StoredElectron) : Provisioning Unit := do
  Provisioning.storing (Files.createMarker electron.marker)
  let archiveName ← Provisioning.require (electron.release.archiveName electron.platform)
  Provisioning.storing (Files.reporting electron.cache (Files.makeDirectories electron.cache))
  let archive := electron.cache / archiveName
  Procedure.closedBy
    (do
      let isCached ← (Files.isFile archive : Plan Bool)
      if !isCached then
        Provisioning.storing (Download.toFile (electron.release.url archiveName) archive)
      electron.unpack archive)
    (Files.discardFile archive)
  Provisioning.storing (Download.toFile electron.release.yarnUrl electron.yarnPlace)
  Provisioning.storing (Files.removeMarker electron.marker)

end StoredElectron

end Provision
