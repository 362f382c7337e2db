import Provision.Disk.Listing
import Provision.Disk.Walk

namespace Provision.Disk

/-!
# File system calls

Each call takes a disk, a working directory and paths, and gives an answer together with the disk
that it leaves.  A call that fails leaves the disk as it was; only a directory that is removed with all
that it holds may be left with a part of that.  New files get the bits `644` and new directories the
bits `755`.
-/

/-- What kind of thing an entry is. -/
inductive Kind where
  | file
  | directory
  | link
  deriving Repr, DecidableEq

/-- The kind and the permission bits of an entry. -/
structure Status where
  kind : Kind
  mode : Nat
  deriving Repr, DecidableEq

/-- Whether the owner may do something with what has a status. -/
def Status.allows (status : Status) (access : Access) : Bool :=
  status.mode &&& access.bit ≠ 0

/-- The kind of an entry. -/
def kindOf : Entry → Kind
  | .directory _ => .directory
  | .file _ => .file
  | .link _ => .link

/-- The status of an entry. -/
def statusOf (entry : Entry) : Status :=
  ⟨kindOf entry, entry.mode⟩

/-- The permission bits that a mode may hold. -/
def modeBits : Nat := 0o10000

/-- The status of what a path leads to. -/
def status
    (disk : Disk)
    (workingDirectory : Location)
    (followLast : Bool)
    (path : Path) :
    Except DiskFault Status :=
  (entryAt disk workingDirectory followLast path).map fun (_, entry) => statusOf entry

/-- The content of the file that a path leads to. -/
def readFile
    (disk : Disk)
    (workingDirectory : Location)
    (path : Path) :
    Except DiskFault Bytes :=
  match entryAt disk workingDirectory true path with
  | .ok (_, .file file) =>
      if (Entry.file file).allows .read then .ok file.content else .error (.refused .permission)
  | .ok (_, .directory _) => .error (.refused .isDirectory)
  | .ok (_, .link _) => .error (.refused .tooManyLinks)
  | .error fault => .error fault

/-- The names in the directory that a path leads to, in byte order, each with its kind. -/
def listDirectory
    (disk : Disk)
    (workingDirectory : Location)
    (path : Path) :
    Except DiskFault (List (Name × Kind)) :=
  match entryAt disk workingDirectory true path with
  | .ok (location, .directory mode) =>
      if (Entry.directory mode).allows .read then
        .ok ((disk.sortedChildren location).map fun (name, entry) => (name, kindOf entry))
      else
        .error (.refused .permission)
  | .ok _ => .error (.refused .notDirectory)
  | .error fault => .error fault

/-- The path of a location. -/
def pathOf (location : Location) : Path :=
  match location with
  | [] => ⟨.text "", [.text ""]⟩
  | names => ⟨.text "", names⟩

/-- The path of the place that a path leads to, free of links and of `..`. -/
def realPath
    (disk : Disk)
    (workingDirectory : Location)
    (path : Path) :
    Except DiskFault Path :=
  (entryAt disk workingDirectory true path).map fun (location, _) => pathOf location

/-- Open a file for writing: the file at a path, made with the given content if it is missing. -/
def openFile
    (disk : Disk)
    (workingDirectory : Location)
    (path : Path)
    (fresh : File)
    (change : File → File) :
    Except DiskFault Disk :=
  match locate disk workingDirectory true path with
  | .error fault => .error fault
  | .ok ⟨location, some (.file file)⟩ =>
      if (Entry.file file).allows .write then
        .ok (disk.updateFile location change)
      else
        .error (.refused .permission)
  | .ok ⟨_, some (.directory _)⟩ => .error (.refused .isDirectory)
  | .ok ⟨_, some (.link _)⟩ => .error (.refused .tooManyLinks)
  | .ok ⟨location, none⟩ =>
      if path.endsOpen then
        .error (.refused .isDirectory)
      else if disk.mayChange location then
        .ok (disk.set location (.file fresh))
      else
        .error (.refused .permission)

/-- Give a file new content; a file that exists keeps its permission bits. -/
def writeFile
    (disk : Disk)
    (workingDirectory : Location)
    (path : Path)
    (content : Bytes) :
    Except DiskFault Disk :=
  openFile disk workingDirectory path { mode := 0o644, content } fun file => file.rewritten content

/-- Add bytes to the end of a file. -/
def appendFile
    (disk : Disk)
    (workingDirectory : Location)
    (path : Path)
    (content : Bytes) :
    Except DiskFault Disk :=
  openFile disk workingDirectory path { mode := 0o644, content } fun file => file.extended content

/-- Copy content and permission bits of a file. -/
def copyFile
    (disk : Disk)
    (workingDirectory : Location)
    (original copy : Path) :
    Except DiskFault Disk :=
  match entryAt disk workingDirectory true original with
  | .error fault => .error fault
  | .ok (place, .file source) =>
      if !(Entry.file source).allows .read then
        .error (.refused .permission)
      else do
        -- The target is emptied first, so a file that is copied onto itself ends up empty.
        let opened : File := { mode := source.mode, content := [] }
        let emptied ← openFile disk workingDirectory copy opened fun file =>
          { file with mode := source.mode, content := [], stamp := none }
        match emptied.get? place, locate emptied workingDirectory true copy with
        | some (.file remaining), .ok found =>
            .ok (emptied.updateFile found.location fun file => file.extended remaining.content)
        | _, _ => .ok emptied
  | .ok _ => .error .notRegular

/-- Make a directory. -/
def makeDirectory
    (disk : Disk)
    (workingDirectory : Location)
    (path : Path)
    (mode : Nat) :
    Except DiskFault Disk :=
  match locate disk workingDirectory false path with
  | .error fault => .error fault
  | .ok ⟨_, some _⟩ => .error (.refused .exists)
  | .ok ⟨location, none⟩ =>
      if disk.mayChange location then
        .ok (disk.set location (.directory mode))
      else
        .error (.refused .permission)

/-- Whether a path ends open after the name of a link. -/
def endsOpenAtLink (disk : Disk) (workingDirectory : Location) (path : Path) : Bool :=
  let closed := Path.ofSegments (Path.dropOpen path.segments)
  match path.endsOpen, entryAt disk workingDirectory false closed with
  | true, .ok (_, .link _) => true
  | _, _ => false

/-- Remove a file or a link. -/
def removeFile
    (disk : Disk)
    (workingDirectory : Location)
    (path : Path) :
    Except DiskFault Disk :=
  if endsOpenAtLink disk workingDirectory path then
    .error (.refused .notDirectory)
  else
    match entryAt disk workingDirectory false path with
    | .error fault => .error fault
    | .ok (location, entry) =>
        if !disk.mayChange location then .error (.refused .permission)
        else if entry.isDirectory then .error (.refused .isDirectory)
        else .ok (disk.erase location)

/--
Why a directory is not removed by a path, if it is a path that does not name what it leads to.
-/
def unnamedRefusal? (path : Path) : Option Errno :=
  match path.segments.reverse.dropWhile (· = .text "") with
  | [] => some .busy
  | last :: _ =>
      if last.isHere then some .invalidArgument
      else if last.isUp then some .notEmpty
      else none

/-- Remove an empty directory. -/
def removeDirectory
    (disk : Disk)
    (workingDirectory : Location)
    (path : Path) :
    Except DiskFault Disk :=
  if endsOpenAtLink disk workingDirectory path then
    .error (.refused .notDirectory)
  else
    match entryAt disk workingDirectory false path, unnamedRefusal? path with
    | .error fault, _ => .error fault
    | .ok _, some errno => .error (.refused errno)
    | .ok (location, entry), none =>
        if !disk.mayChange location then .error (.refused .permission)
        else if !entry.isDirectory then .error (.refused .notDirectory)
        else if !(disk.children location).isEmpty then .error (.refused .notEmpty)
        else .ok (disk.erase location)

/-- Whether one location is removed before another one: content before its directory. -/
def goesBefore : Location → Location → Bool
  | [], rest => rest.isEmpty
  | _ :: _, [] => true
  | first :: rest, other :: others =>
      if first = other then goesBefore rest others else first.before other

/-- What is below a location, in the order in which it is removed, by the names that lead there. -/
def clearing (disk : Disk) (location : Location) : List (Location × Entry) :=
  (disk.listing location).mergeSort fun a b => goesBefore a.1 b.1

/-- Whether something below a location may be found and removed. -/
def mayClear (disk : Disk) (location : Location) (item : Location × Entry) : Bool :=
  disk.allowsBetween location .read item.1 && disk.allowsBetween location .execute item.1 &&
    (!item.2.isDirectory || item.2.allows .read) && disk.mayChange (location ++ item.1)

/-- The disk without what is below a location, as far as it is removed before something stays. -/
def emptied (disk : Disk) (location : Location) : Disk :=
  ((disk.clearing location).takeWhile (disk.mayClear location)).foldl
    (fun left item => left.erase (location ++ item.1)) disk

/-- Whether all that a directory holds may be found and removed. -/
def mayEmpty (disk : Disk) (location : Location) : Bool :=
  (disk.get? location).any (fun entry => entry.allows .read) &&
    (disk.clearing location).all (disk.mayClear location)

/-- Remove a directory with all that it holds, or a link. -/
def removeTree
    (disk : Disk)
    (workingDirectory : Location)
    (path : Path) :
    Except DiskFault Disk :=
  match entryAt disk workingDirectory false path with
  | .error fault => .error fault
  | .ok (location, .directory _) =>
      if disk.mayEmpty location then
        removeDirectory (disk.emptied location) workingDirectory path
      else
        .error (.refused .permission)
  | .ok (location, .link _) =>
      if disk.mayChange location then
        .ok (disk.erase location)
      else
        .error (.refused .permission)
  | .ok (_, .file _) => .error (.refused .notDirectory)

/-- What is left where a directory could not be removed with all that it holds. -/
def leftOver (disk : Disk) (workingDirectory : Location) (path : Path) : Disk :=
  match entryAt disk workingDirectory false path with
  | .ok (location, .directory _) => disk.emptied location
  | _ => disk

/-- Set the permission bits of what a path leads to. -/
def changeMode
    (disk : Disk)
    (workingDirectory : Location)
    (path : Path)
    (mode : Nat) :
    Except DiskFault Disk :=
  match entryAt disk workingDirectory true path with
  | .error fault => .error fault
  | .ok (location, .directory _) => .ok (disk.set location (.directory (mode % modeBits)))
  | .ok (location, _) =>
      .ok (disk.updateFile location fun file => { file with mode := mode % modeBits })

/-- Give the file that a path leads to one time as that of its last change and of the last look. -/
def setTimes
    (disk : Disk)
    (workingDirectory : Location)
    (path : Path)
    (time : Int) :
    Except DiskFault Disk :=
  match entryAt disk workingDirectory true path with
  | .error fault => .error fault
  | .ok (location, _) =>
      .ok (disk.updateFile location fun file =>
        { file with stamp := some time, lookStamp := some time })

/-- Make a symbolic link with the given target. -/
def makeLink
    (disk : Disk)
    (workingDirectory : Location)
    (target path : Path) :
    Except DiskFault Disk :=
  match locate disk workingDirectory false path with
  | .error fault => .error fault
  | .ok ⟨_, some _⟩ => .error (.refused .exists)
  | .ok ⟨location, none⟩ =>
      if path.endsOpen || target = Path.empty then
        .error (.refused .noEntry)
      else if disk.mayChange location then
        .ok (disk.set location (.link target))
      else
        .error (.refused .permission)

/-- Make another name for a file. -/
def makeHardLink
    (disk : Disk)
    (workingDirectory : Location)
    (existing path : Path) :
    Except DiskFault Disk :=
  match entryAt disk workingDirectory false existing, locate disk workingDirectory false path with
  | .error fault, _ => .error fault
  | _, .error fault => .error fault
  | _, .ok ⟨_, some _⟩ => .error (.refused .exists)
  | .ok (source, entry), .ok ⟨location, none⟩ =>
      if !disk.mayChange location then
        .error (.refused .permission)
      else
        match entry with
        | .directory _ => .error (.refused .notPermitted)
        | .file file =>
            let shared := { file with group := some (file.group.getD disk.freshGroup) }
            .ok ((disk.set source (.file shared)).set location (.file shared))
        | .link target => .ok (disk.set location (.link target))

/-- Move everything at and below one location to another. -/
def moveTree (disk : Disk) (source target : Location) : Disk :=
  ⟨(disk.eraseTree target).entries.map fun (place, entry) =>
    if source.isPrefixOf place then
      (target ++ place.drop source.length, entry)
    else
      (place, entry)⟩

/-- Whether two entries are hard links of one file. -/
def sameFile : Entry → Entry → Bool
  | .file a, .file b => a.group.isSome && a.group = b.group
  | _, _ => false

/-- Why a rename onto an entry that exists is refused, if it is. -/
def renameRefusal? (disk : Disk) (source : Entry) (target : Location) : Entry → Option Errno
  | .directory _ =>
      if !source.isDirectory then some .isDirectory
      else if (disk.children target).isEmpty then none
      else some .notEmpty
  | _ => if source.isDirectory then some .notDirectory else none

/-- Whether an entry may be moved: a directory that gets another parent has to be writable. -/
def mayMove (disk : Disk) (origin goal : Location) (entry : Entry) : Bool :=
  disk.mayChange origin && disk.mayChange goal &&
    (!entry.isDirectory || above origin = above goal || entry.allows .write)

/-- Give a file, a link or a directory another name, in place of what stands there. -/
def rename
    (disk : Disk)
    (workingDirectory : Location)
    (source target : Path) :
    Except DiskFault Disk :=
  match entryAt disk workingDirectory false source, locate disk workingDirectory false target with
  | .error fault, _ => .error fault
  | _, .error fault => .error fault
  | .ok (origin, entry), .ok ⟨goal, existing?⟩ =>
      if source.endsUnnamed || target.endsUnnamed then
        .error (.refused .busy)
      else if endsOpenAtLink disk workingDirectory source then
        .error (.refused .notDirectory)
      else if origin = goal then
        .ok disk
      else if origin.isPrefixOf goal then
        .error (.refused .invalidArgument)
      else if existing?.isNone && target.endsOpen && !entry.isDirectory then
        .error (.refused .notDirectory)
      else
        match existing? with
        | none =>
            if mayMove disk origin goal entry then
              .ok (disk.moveTree origin goal)
            else
              .error (.refused .permission)
        | some existing =>
            if sameFile entry existing then
              .ok disk
            else if !mayMove disk origin goal entry then
              .error (.refused .permission)
            else
              match renameRefusal? disk entry goal existing with
              | some errno => .error (.refused errno)
              | none => .ok (disk.moveTree origin goal)

/-- Six digits that number a temporary name. -/
def sixDigits (number : Nat) : String :=
  let digits := Nat.toDigits 10 number
  String.ofList (List.replicate (6 - digits.length) '0' ++ digits)

/-- Make a directory with a name of its own, readable by the owner only. -/
def makeTemporary
    (disk : Disk)
    (workingDirectory : Location)
    (parent : Path)
    (opening : String) :
    Except DiskFault (Path × Disk) := do
  let free := (List.range (disk.entries.length + 1)).find? fun number =>
    match locate disk workingDirectory false (parent / (opening ++ sixDigits number)) with
    | .ok ⟨_, some _⟩ => false
    | _ => true
  let path := parent / (opening ++ sixDigits (free.getD 0))
  return (path, ← makeDirectory disk workingDirectory path 0o700)

end Provision.Disk
