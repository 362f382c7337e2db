import Provision.Disk.Basic
import Provision.Disk.Fault

namespace Provision.Disk

/-!
# Looking up paths

A path is followed name by name.  Every name that is followed has to be looked up in a directory
that may be searched; a symbolic link is replaced by its target, at most forty times.  The last name
may be missing, which is where a new entry can be made, and whether a link at the end is followed is
up to the caller.
-/

/-- The number of symbolic links that are followed for one path. -/
def maxLinks : Nat := 40

/-- The number of bytes that a name may have. -/
def maxNameBytes : Nat := 255

/-- The number of bytes that a path may have. -/
def maxPathBytes : Nat := 4095

/-- Where a path leads: a location, and the entry there if there is one. -/
structure Found where
  location : Location
  entry? : Option Entry
  deriving DecidableEq

/--
Follow names from a location.  `follow` says what to do with a link: it gets the place of the link
and the names that are left, the names of its target first.
-/
def walkWith
    (disk : Disk)
    (followLast : Bool)
    (follow : Location → List Name → Except Errno Found)
    (here : Location) :
    List Name → Except Errno Found
  | [] => .ok ⟨here, disk.get? here⟩
  | name :: rest =>
      match disk.get? here with
      | some (.directory mode) =>
          if name = .text "" then
            walkWith disk followLast follow here rest
          else if !(Entry.directory mode).allows .execute then
            .error .permission
          else if name.isHere then
            walkWith disk followLast follow here rest
          else if name.isUp then
            walkWith disk followLast follow (above here) rest
          else if name.toBytes.length > maxNameBytes then
            .error .nameTooLong
          else
            let place := here ++ [name]
            match disk.get? place with
            | none =>
                if rest.all (· = .text "") then .ok ⟨place, none⟩ else .error .noEntry
            | some (.link target) =>
                if rest.isEmpty && !followLast then
                  .ok ⟨place, some (.link target)⟩
                else if target.isAbsolute then
                  follow [] (target.rest ++ rest)
                else
                  follow here (target.segments ++ rest)
            | some _ => walkWith disk followLast follow place rest
      | some _ => .error .notDirectory
      | none => .error .noEntry

/-- Follow names from a location through at most the given number of links. -/
def walk
    (disk : Disk)
    (followLast : Bool) :
    Nat → Location → List Name → Except Errno Found
  | 0 => walkWith disk followLast fun _ _ => .error .tooManyLinks
  | links + 1 => walkWith disk followLast (walk disk followLast links)

/-- The number of bytes of a path text. -/
def pathBytes (path : Path) : Nat :=
  (path.segments.flatMap Name.toBytes).length + path.rest.length

/--
Where a path leads from a working directory.  The empty path leads nowhere, and a path with a zero
byte is refused before it is looked up.
-/
def locate
    (disk : Disk)
    (workingDirectory : Location)
    (followLast : Bool)
    (path : Path) :
    Except DiskFault Found :=
  if path.segments.any Name.hasZero then
    .error .zeroInPath
  else if path = Path.empty then
    .error (.refused .noEntry)
  else if pathBytes path > maxPathBytes then
    .error (.refused .nameTooLong)
  else
    let found :=
      if path.isAbsolute then
        walk disk followLast maxLinks [] path.rest
      else
        walk disk followLast maxLinks workingDirectory path.segments
    found.mapError .refused

/-- The entry that a path leads to, which has to exist. -/
def entryAt
    (disk : Disk)
    (workingDirectory : Location)
    (followLast : Bool)
    (path : Path) :
    Except DiskFault (Location × Entry) :=
  match locate disk workingDirectory followLast path with
  | .error fault => .error fault
  | .ok ⟨location, some entry⟩ => .ok (location, entry)
  | .ok ⟨_, none⟩ => .error (.refused .noEntry)

end Provision.Disk
