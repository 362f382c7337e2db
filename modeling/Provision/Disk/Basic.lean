import Provision.Keyed
import Provision.Path.Basic

namespace Provision

/-!
# Disks

A disk maps locations to entries: directories, files and symbolic links.  A location is the list of
names from the root; it holds no empty name, no `.` and no `..`.  Files that are hard links of each
other carry the same group number and are written together.  Everything belongs to the one user
there is, so of the permission bits those of the owner count.
-/

/-- A place on a disk: the names from the root down. -/
abbrev Location := List Name

/--
A regular file: permission bits, content, the group of its hard links if it has any, and the times
that it was given: of its last change, if it has not been written since, and of the last look at it.
Times are billionths of a second since the start of 1970.
-/
structure File where
  mode : Nat
  content : Bytes
  group : Option Nat := none
  stamp : Option Int := none
  lookStamp : Option Int := none
  deriving DecidableEq

/-- The bits that make a program run for the owner or the group of its file. -/
def File.modeOnceWritten (mode : Nat) : Nat :=
  let mode := if mode &&& 0o4000 ≠ 0 then mode - 0o4000 else mode
  if mode &&& 0o2010 = 0o2010 then mode - 0o2000 else mode

/-- A file with other content; a program in it no longer runs for its owner or group. -/
def File.rewritten (file : File) (content : Bytes) : File :=
  { file with content, mode := File.modeOnceWritten file.mode, stamp := none }

/-- A file with bytes at its end. -/
def File.extended (file : File) (content : Bytes) : File :=
  if content.isEmpty then file else file.rewritten (file.content ++ content)

/-- What stands at a location. -/
inductive Entry where
  | directory (mode : Nat)
  | file (file : File)
  | link (target : Path)
  deriving DecidableEq

/-- What the owner of an entry may want to do with it. -/
inductive Access where
  | read
  | write
  | execute
  deriving Repr, DecidableEq

/-- The permission bit that lets the owner do something. -/
def Access.bit : Access → Nat
  | .read => 0o400
  | .write => 0o200
  | .execute => 0o100

namespace Entry

/-- Whether an entry is a directory. -/
def isDirectory : Entry → Bool
  | .directory _ => true
  | _ => false

/-- Whether an entry is a regular file. -/
def isFile : Entry → Bool
  | .file _ => true
  | _ => false

/-- Whether an entry is a symbolic link. -/
def isLink : Entry → Bool
  | .link _ => true
  | _ => false

/-- Whether an entry is a file that is a hard link of others. -/
def hasOtherNames : Entry → Bool
  | .file content => content.group.isSome
  | _ => false

/-- The number of bytes that an entry takes. -/
def size : Entry → Nat
  | .directory _ => 4096
  | .file content => content.content.length
  | .link target => target.display.utf8ByteSize

/-- The permission bits of an entry. -/
def mode : Entry → Nat
  | .directory bits => bits
  | .file content => content.mode
  | .link _ => 0o777

/-- Whether the owner may do something with an entry. -/
def allows (entry : Entry) (access : Access) : Bool :=
  entry.mode &&& access.bit ≠ 0

end Entry

/-- A disk: its entries by location. -/
structure Disk where
  entries : List (Location × Entry)
  deriving DecidableEq

namespace Disk

/-- The entry at a location. -/
def get? (disk : Disk) (location : Location) : Option Entry :=
  disk.entries.lookup location

/-- Put an entry at a location, in place of what stands there. -/
def set (disk : Disk) (location : Location) (entry : Entry) : Disk :=
  ⟨Keyed.put location entry disk.entries⟩

/-- Take the entry at a location away. -/
def erase (disk : Disk) (location : Location) : Disk :=
  ⟨Keyed.drop location disk.entries⟩

/-- Take everything at and below a location away. -/
def eraseTree (disk : Disk) (location : Location) : Disk :=
  ⟨disk.entries.filter fun item => !location.isPrefixOf item.1⟩

/-- The location above, which for the root is the root. -/
def above (location : Location) : Location :=
  location.dropLast

/-- Whether names may be added to and taken from the directory above a location. -/
def mayChange (disk : Disk) (location : Location) : Bool :=
  (disk.get? (above location)).any fun entry => entry.allows .write && entry.allows .execute

/-- The names directly below a location with their entries. -/
def children (disk : Disk) (location : Location) : List (Name × Entry) :=
  disk.entries.filterMap fun (place, entry) =>
    match place.getLast? with
    | some name => if place.dropLast = location then some (name, entry) else none
    | none => none

/-- Insert a child into a list that is sorted by name. -/
def insertChild (child : Name × Entry) : List (Name × Entry) → List (Name × Entry)
  | [] => [child]
  | first :: rest =>
      if child.1.before first.1 then child :: first :: rest else first :: insertChild child rest

/-- The children of a location, sorted by name in byte order. -/
def sortedChildren (disk : Disk) (location : Location) : List (Name × Entry) :=
  (disk.children location).foldr insertChild []

/-- A disk with nothing but a root directory. -/
def blank : Disk :=
  ⟨[([], .directory 0o755)]⟩

/-- Change the file at a location, and with it all files of its group. -/
def updateFile (disk : Disk) (location : Location) (change : File → File) : Disk :=
  match disk.get? location with
  | some (.file file) =>
      match file.group with
      | none => disk.set location (.file (change file))
      | some group =>
          ⟨disk.entries.map fun (place, entry) =>
            match entry with
            | .file other =>
                if other.group = some group then (place, .file (change other)) else (place, entry)
            | entry => (place, entry)⟩
  | _ => disk

/-- A group number that no file has. -/
def freshGroup (disk : Disk) : Nat :=
  disk.entries.foldl
    (fun bound (_, entry) =>
      match entry with
      | .file file => max bound (file.group.elim 0 (· + 1))
      | _ => bound)
    0

/-- What was put at a location stands there. -/
theorem get?_set_self
    (disk : Disk)
    (location : Location)
    (entry : Entry) :
    (disk.set location entry).get? location = some entry := by
  simp [get?, set]

/-- Putting an entry at one location changes no other. -/
theorem get?_set_of_ne
    (disk : Disk)
    {location other : Location}
    (entry : Entry)
    (different : other ≠ location) :
    (disk.set location entry).get? other = disk.get? other :=
  Keyed.lookup_put_of_ne entry disk.entries different

/-- Nothing stands where an entry was taken away. -/
theorem get?_erase_self
    (disk : Disk)
    (location : Location) :
    (disk.erase location).get? location = none := by
  simp [get?, erase]

/-- Taking an entry away changes no other location. -/
theorem get?_erase_of_ne
    (disk : Disk)
    {location other : Location}
    (different : other ≠ location) :
    (disk.erase location).get? other = disk.get? other :=
  Keyed.lookup_drop_of_ne disk.entries different

/-- Taking a tree away leaves exactly what is not at or below its root. -/
theorem get?_eraseTree
    (disk : Disk)
    (location other : Location) :
    (disk.eraseTree location).get? other =
      if location.isPrefixOf other then none else disk.get? other := by
  split
  · rename_i below
    exact Keyed.lookup_filter_dropped disk.entries (fun place => !location.isPrefixOf place) other
      (by simp [below])
  · rename_i outside
    exact Keyed.lookup_filter disk.entries (fun place => !location.isPrefixOf place) other
      (by simp [outside])

end Disk

end Provision
