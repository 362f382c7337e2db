import Provision.Digest.Sha
import Provision.Disk.Fault
import Provision.Path.Basic
import Provision.Plan.Basic
import Provision.Text.Quoted

namespace Provision

/-!
# Faults of the package storage

The causes for which files, settings, downloads and archives fail, each with its wording.
-/

/-- Why a download fails: the server refused it, or the transfer broke. -/
inductive DownloadFault where
  | refused (address : String) (origin? : Option String) (status : Nat)
  | transfer (reason : String)
  deriving Repr, DecidableEq

/-- Why an operation on the package storage fails. -/
inductive StorageFault where
  | file (path : Path) (cause : DiskFault)
  | badSettings (path : Path) (reason : String)
  | unknownFormat (extension : String)
  | download (url : String) (cause : DownloadFault)
  | unknownArchive (name : String)
  | badArchive (path : Path) (reason : String)
  | lockedArchive (path : Path)
  | maliciousArchive (members : List String)
  deriving DecidableEq

namespace StorageFault

/-- The wording of a fault. -/
def message : StorageFault → String
  | .file path cause => s!"I/O error at {path.display}: {cause.message}"
  | .badSettings path reason => s!"Failed to parse JSON config at {path.display}: {reason}"
  | .unknownFormat extension => s!"Unsupported config format: {extension}"
  | .download url (.refused address origin? status) =>
      let detour := origin?.elim "" fun origin => s!" (redirected from {origin})"
      s!"Failed downloading {url}: {address}: status code {status}{detour}"
  | .download url (.transfer reason) => s!"Failed downloading {url}: {reason}"
  | .unknownArchive name => s!"Unsupported archive \"{name}\""
  | .badArchive path reason => s!"Failed reading archive {path.display}: {reason}"
  | .lockedArchive path => s!"Failed reading archive {path.display}: a member needs a key"
  | .maliciousArchive members =>
      s!"Archive appears to be malicious, bad filenames: {Text.quoteList members}"

end StorageFault

/-!
# Files of the package storage

Procedures on files and directories.  Content is written to a temporary file beside its target and
then renamed, so a reader sees the old content or the new one.  Removing what is already gone is no
failure.
-/

/-- A procedure on the package storage. -/
abbrev Storing (α : Type) := Procedure StorageFault α

namespace Files

/-- Ask for an action and report its failure at a path. -/
def reporting {α : Type} (path : Path) (plan : Plan (Except DiskFault α)) : Storing α :=
  Procedure.attempt plan (.file path)

/-- Whether a path leads to something. -/
def exists? (path : Path) : Plan Bool := do
  return (← Plan.ask (.status path)).isOk

/-- Whether a path leads to a regular file. -/
def isFile (path : Path) : Plan Bool := do
  match ← Plan.ask (.status path) with
  | .ok status => return status.kind = .file
  | .error _ => return false

/-- Whether a path leads to a directory. -/
def isDirectory (path : Path) : Plan Bool := do
  match ← Plan.ask (.status path) with
  | .ok status => return status.kind = .directory
  | .error _ => return false

/-- The first of the paths that leads to a regular file. -/
def firstFile : List Path → Plan (Option Path)
  | [] => return none
  | path :: others => do
      if ← Files.isFile path then return some path else firstFile others

/-- A path followed by the directories that it stands in, at most as many as given. -/
def lineage : Nat → Path → List Path
  | 0, _ => []
  | steps + 1, path =>
      path ::
        match path.parent? with
        | some parent => lineage steps parent
        | none => []

/-- Make the first directory of a list; what it stands in comes next in the list. -/
def makeLineage : List Path → Plan (Except DiskFault Unit)
  | [] => return .error (.damaged "failed to create whole tree")
  | path :: above => do
      if path = Path.empty then
        return .ok ()
      match ← Plan.ask (.makeDirectory path) with
      | .ok () => return .ok ()
      | .error fault =>
          if fault.isMissing then
            match ← makeLineage above with
            | .error fault => return .error fault
            | .ok () =>
                match ← Plan.ask (.makeDirectory path) with
                | .ok () => return .ok ()
                | .error fault =>
                    if ← isDirectory path then return .ok () else return .error fault
          else if ← isDirectory path then
            return .ok ()
          else
            return .error fault

/-- Make a directory and all that it stands in, unless they are there. -/
def makeDirectories (path : Path) : Plan (Except DiskFault Unit) :=
  makeLineage (lineage (path.segments.length + 1) path)

/-- Make the directory that a path stands in. -/
def makeParents (path : Path) : Storing Unit :=
  match path.parent? with
  | some parent => reporting parent (makeDirectories parent)
  | none => return ()

/-- The name of the temporary file beside a path. -/
def temporaryName (path : Path) (processId : Nat) : String :=
  s!".{path.fileNameText}.{processId}.tmp"

/-- Try again what fails, at most as often as given. -/
def retrying :
    Nat → Plan (Except DiskFault Unit) → Plan (Except DiskFault Unit)
  | 0, plan => plan
  | retries + 1, plan => do
      match ← plan with
      | .ok () => return .ok ()
      | .error _ => retrying retries plan

/--
Write a file so that readers see its old content or its new one.  Where it cannot take its place at once,
that is tried again as often as given.
-/
def writeRetrying (retries : Nat) (path : Path) (content : Bytes) : Storing Unit := do
  makeParents path
  let environment ← (Plan.ask .environment : Plan Environment)
  let temporary := path.withFileName (.text (temporaryName path environment.processId))
  reporting temporary (Plan.ask (.writeFile temporary content))
  reporting path (retrying retries (Plan.ask (.rename temporary path)))

/-- Write a file so that readers see its old content or its new one. -/
def writeAtomically (path : Path) (content : Bytes) : Storing Unit :=
  writeRetrying 0 path content

/-- Write a text file so that readers see its old content or its new one. -/
def writeText (path : Path) (text : String) : Storing Unit :=
  writeAtomically path (Text.Utf8.ofString text)

/-- The content of a file. -/
def content (path : Path) : Storing Bytes :=
  reporting path (Plan.ask (.readFile path))

/-- The text of a file. -/
def tryReadText (path : Path) : Plan (Except DiskFault String) := do
  match ← Plan.ask (.readFile path) with
  | .error fault => return .error fault
  | .ok bytes =>
      match Text.Utf8.toString? bytes with
      | some text => return .ok text
      | none => return .error .notText

/-- The text of a file, which has to be there. -/
def readText (path : Path) : Storing String :=
  reporting path (tryReadText path)

/-- The text of a file, or nothing where there is no file. -/
def readText? (path : Path) : Storing (Option String) :=
  reporting path do
    match ← tryReadText path with
    | .ok text => return .ok (some text)
    | .error fault => if fault.isMissing then return .ok none else return .error fault

/-- Leave an empty file as a mark, in a directory that is made if it is missing. -/
def createMarker (path : Path) : Storing Unit := do
  makeParents path
  reporting path (Plan.ask (.appendFile path []))

/-- Take missing things for removed. -/
def forgiveMissing (plan : Plan (Except DiskFault Unit)) : Plan (Except DiskFault Unit) := do
  match ← plan with
  | .ok () => return .ok ()
  | .error fault => if fault.isMissing then return .ok () else return .error fault

/-- Remove a file unless it is gone. -/
def removeFile (path : Path) : Storing Unit :=
  reporting path (forgiveMissing (Plan.ask (.removeFile path)))

/-- Remove a mark unless it is gone. -/
def removeMarker (path : Path) : Storing Unit :=
  removeFile path

/-- Remove a directory with all that it holds unless it is gone. -/
def removeTree (path : Path) : Storing Unit :=
  reporting path (forgiveMissing (Plan.ask (.removeTree path)))

/-- Remove a file, and let failures pass. -/
def discardFile (path : Path) : Plan Unit := do
  let _ ← Plan.ask (.removeFile path)
  return ()

/-- Remove a directory with all that it holds, and let failures pass. -/
def discardTree (path : Path) : Plan Unit := do
  let _ ← Plan.ask (.removeTree path)
  return ()

/-- Let the owner execute a file. -/
def setExecutable (path : Path) : Storing Unit :=
  reporting path (Plan.ask (.changeMode path 0o744))

/-- Copy the entries of one directory to another; `copyBelow` copies a directory. -/
def copyEntries
    (copyBelow : Path → Path → Storing Unit)
    (source target : Path) :
    List (Name × Disk.Kind) → Storing Unit
  | [] => return ()
  | (name, kind) :: rest => do
      let place := target.child name
      if kind = .directory then
        copyBelow (source.child name) place
      else
        reporting place (Plan.ask (.copyFile (source.child name) place))
      copyEntries copyBelow source target rest

/-- Copy a directory of at most the given depth. -/
def copyTreeWithin : Nat → Path → Path → Storing Unit
  | 0, _, target => throw (.file target (.refused .nameTooLong))
  | depth + 1, source, target => do
      reporting target (makeDirectories target)
      let entries ← reporting source (Plan.ask (.listDirectory source))
      copyEntries (copyTreeWithin depth) source target entries

/-- Copy a directory with all that it holds; no path is longer than the bound on its depth. -/
def copyTree (source target : Path) : Storing Unit :=
  copyTreeWithin (Disk.maxPathBytes + 1) source target

end Files

end Provision

namespace Provision.Checksum

/-!
# Checksums

A checksum names its algorithm and gives the hash in hexadecimal.  Two contents count as the same if
their checksums are.
-/

/-- The checksum of a content. -/
def ofBytes (content : Bytes) : String :=
  "sha256:" ++ Digest.Sha256.hex content

/-- The checksum of the content of a file. -/
def ofFile (path : Path) : Storing String := do
  return ofBytes (← Files.content path)

/-- Whether a file holds the given content; a missing file does not. -/
def matchesFile (content : Bytes) (path : Path) : Storing Bool :=
  Files.reporting path do
    match ← Plan.ask (.readFile path) with
    | .ok stored => return .ok (ofBytes content = ofBytes stored)
    | .error fault => if fault.isMissing then return .ok false else return .error fault

end Provision.Checksum
