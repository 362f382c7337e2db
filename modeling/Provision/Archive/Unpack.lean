import Provision.Archive.Tar
import Provision.Archive.Zip.Directory
import Provision.Storage.Files

namespace Provision.Archive

/-!
# Unpacking archives

Tar members are unpacked in order, directories last and the deepest first, so the bits of a
directory never keep its own members out.  Every place is checked to lie below the target when its
parents are made.  Zip members are unpacked strictly in order.
-/

/-! ## Tar -/

/-- A step of unpacking a tar archive; any failure spoils the archive as a whole. -/
abbrev Unpacking (α : Type) := Procedure String α

/-- Turn a failure of an action into the reason why an archive cannot be unpacked. -/
def orSpoil {α : Type} (plan : Plan (Except DiskFault α)) : Unpacking α :=
  Procedure.attempt plan DiskFault.message

/-- The names that a member name leads through, or nothing if it leads upwards. -/
def namesOf? (name : Bytes) : Option (List Name) :=
  let names := (Path.ofBytes name).segments.filter fun segment => !segment.isHere
  if names.any Name.isUp then none else some names

/-- The path of names below a directory. -/
def below (directory : Path) (names : List Name) : Path :=
  names.foldl Path.child directory

/-- Refuse a path that does not lie at or below a directory once links are followed. -/
def requireInside (directory path : Path) : Unpacking Unit := do
  let place ← orSpoil (Plan.ask (.realPath path))
  let root ← orSpoil (Plan.ask (.realPath directory))
  let rootNames := root.segments.filter fun segment => !segment.isHere
  let placeNames := place.segments.filter fun segment => !segment.isHere
  if rootNames.isPrefixOf placeNames then
    return ()
  else
    throw "trying to unpack outside of destination path"

/-- Make the directories that are missing on the way to a place below a directory. -/
def makeWay (directory : Path) : Path → List Name → Unpacking Unit
  | _, [] => return ()
  | reached, name :: rest => do
      let next := reached.child name
      match ← (Plan.ask (.linkStatus next) : Plan (Except DiskFault Disk.Status)) with
      | .ok _ => makeWay directory next rest
      | .error _ => do
          requireInside directory reached
          orSpoil (Files.makeDirectories next)
          makeWay directory next rest

/-- Set the permission bits that a member asks for. -/
def setMode (path : Path) (member : Tar.Member) : Unpacking Unit :=
  match member.mode? with
  | some mode => orSpoil (Plan.ask (.changeMode path mode))
  | none => return ()

/-- Set the time of a file to that of its member, which is never the very start of 1970. -/
def setTime (path : Path) (member : Tar.Member) : Unpacking Unit :=
  match member.time? with
  | some time => orSpoil (Plan.ask (.setTimes path (max time 1 * 1000000000)))
  | none => return ()

/-- Whether a directory itself, and not a link to one, stands at a path. -/
def isRealDirectory (path : Path) : Plan Bool := do
  match ← Plan.ask (.linkStatus path) with
  | .ok status => return status.kind = .directory
  | .error _ => return false

/-- Make a directory member, unless the directory is there. -/
def unpackDirectory (path : Path) (member : Tar.Member) : Unpacking Unit := do
  match ← (Plan.ask (.makeDirectory path) : Plan (Except DiskFault Unit)) with
  | .ok () => setMode path member
  | .error fault => do
      if ← isRealDirectory path then
        setMode path member
      else
        throw fault.message

/-- Make a symbolic link, in place of what is there unless that is a directory. -/
def unpackLink (path target : Path) : Unpacking Unit := do
  match ← (Plan.ask (.makeLink target path) : Plan (Except DiskFault Unit)) with
  | .ok () => return ()
  | .error (.refused .exists) => do
      orSpoil (Plan.ask (.removeFile path))
      orSpoil (Plan.ask (.makeLink target path))
  | .error fault => throw fault.message

/-- Write a file, in place of what is there unless that is a directory. -/
def unpackFile (path : Path) (member : Tar.Member) : Unpacking Unit := do
  match ← (Plan.ask (.linkStatus path) : Plan (Except DiskFault Disk.Status)) with
  | .ok _ => orSpoil (Plan.ask (.removeFile path))
  | .error _ => pure ()
  orSpoil (Plan.ask (.writeFile path member.content))
  setTime path member
  setMode path member

/-- The link target of a member, which has to name something. -/
def requireTarget (member : Tar.Member) : Unpacking Path :=
  match member.linkTarget? with
  | some [] => throw "symlink destination is empty"
  | some target => return Path.ofBytes target
  | none => throw "link listed but no link name found"

/-- Make what a member describes at a path, of which the parents are there. -/
def unpackAt (directory path : Path) (member : Tar.Member) : Unpacking Unit := do
  if member.kind = 0x35 then
    unpackDirectory path member
  else if member.kind = 0x31 then do
    let target := directory.join (← requireTarget member)
    requireInside directory target
    orSpoil (Plan.ask (.makeHardLink target path))
  else if member.kind = 0x32 then do
    unpackLink path (← requireTarget member)
  else if member.kind = Tar.globalKind || member.kind = Tar.extendedKind ||
      member.kind = Tar.longNameKind || member.kind = Tar.longLinkKind then
    return ()
  else if !member.isPosix && member.name.getLast? = some 0x2f then
    unpackDirectory path member
  else
    unpackFile path member

/-- Unpack a member below a directory; names that lead upwards or nowhere are passed over. -/
def unpackMember (directory : Path) (member : Tar.Member) : Unpacking Unit :=
  match namesOf? member.name with
  | none => return ()
  | some [] => return ()
  | some names => do
      makeWay directory directory names.dropLast
      requireInside directory (below directory names.dropLast)
      unpackAt directory (below directory names) member

/-- Unpack members in order. -/
def unpackMembers (directory : Path) : List Tar.Member → Unpacking Unit
  | [] => return ()
  | member :: rest => do
      unpackMember directory member
      unpackMembers directory rest

/-- Whether a member is a directory by its kind. -/
def isDirectoryMember (member : Tar.Member) : Bool :=
  member.kind = 0x35

/-- Directory members, the one with the greatest name first. -/
def deepestFirst (members : List Tar.Member) : List Tar.Member :=
  (members.filter isDirectoryMember).mergeSort fun a b => decide (b.name ≤ a.name)

/-- The place of a directory, free of links where that can be found out. -/
def realOrSame (directory : Path) : Plan Path := do
  match ← Plan.ask (.realPath directory) with
  | .ok place => return place
  | .error _ => return directory

/-- Unpack all members of a tar archive into a directory. -/
def unpackTar (target : Path) (members : List Tar.Member) : Unpacking Unit := do
  let directory ← (realOrSame target : Plan Path)
  unpackMembers directory (members.filter fun member => !isDirectoryMember member)
  unpackMembers directory (deepestFirst members)

/-! ## Zip -/

/-- How far names lead down, or nothing once they lead above the start. -/
def depth? : Nat → List (List Char) → Option Nat
  | depth, [] => some depth
  | depth, segment :: rest =>
      if segment = [] || segment = ['.'] then depth? depth rest
      else if segment = ['.', '.'] then
        match depth with
        | 0 => none
        | depth + 1 => depth? depth rest
      else depth? (depth + 1) rest

/-- Whether a name stays below the directory that it is resolved in. -/
def isEnclosed (name : List Char) : Bool :=
  !name.contains '\x00' &&
    name.head? ≠ some '/' &&
    (depth? 0 (Text.fields '/' name)).isSome

/-- Write the content of a zip member, as much of it as there is. -/
def unpackContent (path : Path) (content : Bytes) (isWhole : Bool) : Storing Unit := do
  Files.reporting path (Plan.ask (.writeFile path content))
  if isWhole then
    return ()
  else
    throw (.file path (.damaged "corrupt member"))

/-- Unpack a zip member. -/
def unpackZipMember (archive target : Path) (bytes : Bytes) (member : Zip.Member) : Storing Unit :=
  match member.content bytes with
  | .error .unreadable => throw (.badArchive archive "unreadable member")
  | .error .locked => throw (.lockedArchive archive)
  | .ok (content, isWhole) => do
      if isEnclosed member.name then
        let path := target / String.ofList member.name
        if member.isDirectory then
          Files.reporting path (Files.makeDirectories path)
        else do
          Files.makeParents path
          unpackContent path content isWhole
          match member.mode? with
          | some mode => Files.reporting path (Plan.ask (.changeMode path mode))
          | none => return ()
      else
        throw (.maliciousArchive [String.ofList member.name])

/-- Unpack zip members in order. -/
def unpackZip (archive target : Path) (bytes : Bytes) : List Zip.Member → Storing Unit
  | [] => return ()
  | member :: rest => do
      unpackZipMember archive target bytes member
      unpackZip archive target bytes rest

end Provision.Archive
