import Provision.Disk.Calls

namespace Provision.Disk

/-!
# Canonical paths

A path is followed to a location even if there is nothing, as far as that is allowed: everything on
the way has to be there, or everything but the last name, or nothing at all.  Links may also be
taken for what they are, so that dots after their names lead to where the names stand.
-/

/-- What has to be there on the way of a path. -/
inductive Existence where
  | all
  | allButLast
  | nothing
  deriving Repr, DecidableEq

/-- The fault of a name that is followed in a directory, and of the place that it leads to. -/
def stepFault? (disk : Disk) (existence : Existence) (here : Location) (name : Name)
    (rest : List Name) : Option Errno :=
  let entersFile := (disk.get? here).any fun entry => !entry.isDirectory
  let isBarred := (disk.get? here).any fun entry => !(entry.allows .execute)
  let isLast := rest.all Name.isHere
  match existence, disk.get? (here ++ [name]) with
  | .nothing, _ => none
  | _, found =>
      if entersFile then some .notDirectory
      else if isBarred then some .permission
      else
        match found with
        | some entry => if entry.isDirectory || rest.isEmpty then none else some .notDirectory
        | none => if existence = .allButLast && isLast then none else some .noEntry

/--
The links that have been followed: how many, and which ones once there are so many that they may go
round in a circle, each with what comes after it.
-/
structure FollowedLinks where
  count : Nat := 0
  seen : List (Location × List Name) := []

/-- The number of links after which a circle is looked for. -/
def unsuspectedLinks : Nat := 20

/-- Follow one more link, unless that has been done before from the same place. -/
def FollowedLinks.follow? (links : FollowedLinks) (place : Location) (rest : List Name) :
    Option FollowedLinks :=
  if links.count < unsuspectedLinks then some { links with count := links.count + 1 }
  else if (place, rest) ∈ links.seen then none
  else some { links with seen := (place, rest) :: links.seen }

/--
The location that names lead to from another one.  A link that leads round in a circle counts as a
name if nothing has to be there.  The first argument bounds the steps.
-/
def canonicalFrom (disk : Disk) (existence : Existence) :
    Nat → FollowedLinks → Location → List Name → Except Errno Location
  | 0, _, _, _ => .error .tooManyLinks
  | _ + 1, _, here, [] => .ok here
  | steps + 1, links, here, name :: rest =>
      if name.isHere then
        canonicalFrom disk existence steps links here rest
      else if name.isUp then
        canonicalFrom disk existence steps links (above here) rest
      else
        let place := here ++ [name]
        match disk.get? place with
        | some (.link target) =>
            if existence ≠ .nothing && (disk.get? here).any fun entry => !entry.allows .execute then
              .error .permission
            else
              match links.follow? place rest with
              | none =>
                  if existence = .nothing then canonicalFrom disk existence steps links place rest
                  else .error .tooManyLinks
              | some links =>
                  if target.isAbsolute then
                    canonicalFrom disk existence steps links [] (target.rest ++ rest)
                  else
                    canonicalFrom disk existence steps links here (target.segments ++ rest)
        | _ =>
            match stepFault? disk existence here name rest with
            | some errno => .error errno
            | none => canonicalFrom disk existence steps links place rest

/-- Whether names after a name need a directory there. -/
def needDirectory (rest : List Name) : Bool :=
  match rest, rest.dropWhile Name.isHere with
  | [], _ => false
  | _, [] => true
  | _, next :: _ => next.isUp

/-- The location that names stand for where links are taken for what they are. -/
def plainFrom (disk : Disk) (existence : Existence) :
    Location → List Name → Except DiskFault Location
  | here, [] => .ok here
  | here, name :: rest =>
      if name.isHere then
        plainFrom disk existence here rest
      else if name.isUp then
        plainFrom disk existence (above here) rest
      else
        let place := here ++ [name]
        let path := pathOf place
        let tested := if needDirectory rest then path / "." else path
        let isTested := existence ≠ .nothing && (rest.isEmpty || needDirectory rest)
        match isTested, disk.status [] true tested with
        | true, .error fault =>
            if existence = .allButLast && fault = .refused .noEntry && rest.all Name.isHere then
              .ok place
            else
              .error fault
        | _, _ => plainFrom disk existence place rest

/-- The location that a path stands for where links are taken for what they are. -/
def plain (disk : Disk) (workingDirectory : Location) (existence : Existence) (path : Path) :
    Except DiskFault Location :=
  if path = Path.empty then
    .error (.refused .noEntry)
  else if path.isAbsolute then
    plainFrom disk existence [] path.rest
  else
    plainFrom disk existence workingDirectory path.segments

/-- The location that a path leads to. -/
def canonical (disk : Disk) (workingDirectory : Location) (existence : Existence) (path : Path) :
    Except DiskFault Location :=
  if path = Path.empty then
    .error (.refused .noEntry)
  else
    let steps := 100 * (maxLinks + path.segments.length + 1)
    let found :=
      if path.isAbsolute then canonicalFrom disk existence steps {} [] path.rest
      else canonicalFrom disk existence steps {} workingDirectory path.segments
    found.mapError .refused

/-- The names that lead from one location to another one. -/
def wayBetween : Location → Location → List Name
  | first :: source, other :: target =>
      if first = other then wayBetween source target
      else (first :: source).map (fun _ => .text "..") ++ other :: target
  | source, target => source.map (fun _ => .text "..") ++ target

/-- The path that leads from one location to another one. -/
def relativePath (source target : Location) : Path :=
  match wayBetween source target with
  | [] => .ofString "."
  | names => .ofSegments names

end Provision.Disk
