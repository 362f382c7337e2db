import Provision.Disk.Canonical
import Provision.Shell.Tool.Copying

namespace Provision.Shell.Tool

/-!
# Linking files

Links are made to files and paths, and are read again.  A link may take the place of what stands
where it is to be made.
-/

open Work

/-! ## Making links -/

/-- How links are made. -/
structure Linking where
  isSymbolic : Bool
  isRelative : Bool
  isForced : Bool
  asks : Bool
  isLoud : Bool
  followsSource : Bool
  takesDirectories : Bool
  backup : Option Backup

/-- The fault of the source of a hard link, if it has one. -/
def sourceFault? (setting : Linking) (source : ByteText) : Work (Option ByteText) := do
  if setting.isSymbolic then
    return none
  else
    match ← entry setting.followsSource source with
    | .error fault =>
        return some ("failed to access ".toList ++ quoted source ++ ": ".toList ++ faultText fault)
    | .ok (_, .directory _) =>
        if setting.takesDirectories then return none
        else return some (quotedIfNeeded source ++ ": hard link not allowed for directory".toList)
    | .ok _ => return none

/-- The text of a symbolic link from a place to a source. -/
def linkText (setting : Linking) (source target : ByteText) : Work ByteText := do
  if setting.isRelative then
    let above := (target.take (target.length - (lastName target).length))
    let start : ByteText := if above.isEmpty then ['.'] else above
    let origin ← ask fun disk place => disk.canonical place .nothing start.toPath
    let goal ← ask fun disk place => disk.canonical place .nothing source.toPath
    match origin, goal with
    | .ok origin, .ok goal => return .ofPath (Disk.relativePath origin goal)
    | _, _ => return source
  else
    return source

/-- The wording of a link that cannot be made. -/
def linkComplaint (setting : Linking) (text target : ByteText) (fault : DiskFault) : ByteText :=
  if setting.isSymbolic then
    "failed to create symbolic link ".toList ++ quoted target ++
      if text.isEmpty then " -> ".toList ++ quoted text else []
  else
    "failed to create hard link ".toList ++ quoted target ++
      if fault = .refused .exists then [] else " => ".toList ++ quoted text

/-- Whether a link would take the place of its own source. -/
def isOwnPlace (setting : Linking) (source : ByteText) (goal : Location × Entry) : Work Bool := do
  let mayBe := setting.backup.isNone && setting.isForced ||
    (!setting.isSymbolic && setting.backup.isSome)
  if !mayBe then
    return false
  else
    match ← entry (setting.isSymbolic || setting.followsSource) source with
    | .error _ => return false
    | .ok place => return place.1 = goal.1

/-- Make room for a link: the answer is the name of the backup, or nothing if no link is made. -/
def makeRoomForLink (setting : Linking) (made : List Location) (source target : ByteText) :
    Work (Option (Option ByteText)) := do
  if !(setting.isForced || setting.asks || setting.backup.isSome) then
    return some none
  else
    match ← entry false target with
    | .error (.refused .noEntry) => return some none
    | .error fault => do
        complainOf ("failed to access ".toList ++ quoted target) fault
        return none
    | .ok goal =>
        if goal.2.isDirectory then do
          complain (quotedIfNeeded target ++ ": cannot overwrite directory".toList)
          return none
        else if made.contains goal.1 then do
          complain ("will not overwrite just-created ".toList ++ quoted target ++
            " with ".toList ++ quoted source)
          return none
        else if ← isOwnPlace setting source goal then do
          complain (quoted source ++ " and ".toList ++ quoted target ++
            " are the same file".toList)
          return none
        else if ← declines setting.asks ("replace ".toList ++ quoted target) then do
          finish 1
          return none
        else
          match setting.backup with
          | some backup => return some (← backup.take target)
          | none => do
              let fault ← change fun disk directory => disk.removeFile directory target.toPath
              if let some fault := fault then
                complainOf (linkComplaint setting source target fault) fault
                return none
              return some none

/-- Make a link; the answer is the location that it has got. -/
def linkPath (setting : Linking) (made : List Location) (source target : ByteText) :
    Work (List Location) := do
  match ← sourceFault? setting source with
  | some text => do
      complain text
      return made
  | none => do
      let text ← linkText setting source target
      match ← makeRoomForLink setting made source target with
      | none => return made
      | some backup => do
          let followed ← if setting.followsSource && !setting.isSymbolic then
              ask fun disk directory => (disk.entryAt directory true source.toPath).toOption
            else pure none
          let origin := followed.elim source.toPath fun found => Disk.pathOf found.1
          let fault ← change fun disk directory =>
            if setting.isSymbolic then disk.makeLink directory text.toPath target.toPath
            else disk.makeHardLink directory origin target.toPath
          match fault with
          | some fault => do
              complainOf (linkComplaint setting source target fault) fault
              return made
          | none => do
              if setting.isLoud then
                print (backup.elim [] fun name => quoted name ++ " ~ ".toList)
                let arrow := if setting.isSymbolic then " -> " else " => "
                printLine (quoted target ++ arrow.toList ++ quoted text)
              return (((← entry false target).toOption.map Prod.fst).toList) ++ made

/-- Make several links in order. -/
def linkAll (setting : Linking) : List (ByteText × ByteText) → List Location → Work Unit
  | [], _ => return ()
  | (source, target) :: rest, made => do
      linkAll setting rest (← linkPath setting made source target)

/-- Make links. -/
def ln : Tool := toTool do
  let arguments ← arguments (backupOptions ++ targetOptions ++
    [flag 'd' "directory", letterOnly 'F' "directories", flag 'f' "force", flag 'i' "interactive",
      flag 'L' "logical", flag 'n' "no-dereference", flag 'P' "physical", flag 'r' "relative",
      flag 's' "symbolic", flag 'v' "verbose"])
  let isSymbolic := arguments.has "symbolic"
  if arguments.has "relative" && !isSymbolic then
    refuse "cannot do --relative without --symbolic".toList
  let backup ← requestedBackup arguments
  let targets ← targets arguments (!arguments.has "no-dereference") (some ['.'])
  let setting : Linking := {
    isSymbolic, isRelative := arguments.has "relative"
    isForced := arguments.last? ["force", "interactive"] = some "force"
    asks := arguments.last? ["force", "interactive"] = some "interactive"
    isLoud := arguments.has "verbose"
    followsSource := arguments.last? ["logical", "physical"] = some "logical"
    takesDirectories := arguments.has "directory" || arguments.has "directories", backup }
  linkAll setting targets.pairs []

/-- Make another name for a file. -/
def link : Tool := toTool do
  let arguments ← arguments []
  refuseMore 2 arguments
  match arguments.operands with
  | [source, target] =>
      let _ ← changeOr ("cannot create link ".toList ++ quoted target ++ " to ".toList ++
        quoted source) fun disk directory =>
          disk.makeHardLink directory source.toPath target.toPath
  | [only] => misuse ("missing operand after ".toList ++ quoted only)
  | _ => misuse "missing operand".toList

/-! ## Reading links -/

/-- The text of the link at a path. -/
def linkedPath (operand : ByteText) : Work (Except DiskFault ByteText) := do
  return match ← entry false operand with
    | .ok (_, .link target) => .ok (.ofPath target)
    | .ok _ => .error (.refused .invalidArgument)
    | .error fault => .error fault

/-- What has to be there on the way of a path, as far as the options say. -/
def existenceOf? (arguments : Arguments) : Option Disk.Existence :=
  match arguments.last? ["canonicalize", "canonicalize-existing", "canonicalize-missing"] with
  | some "canonicalize" => some .allButLast
  | some "canonicalize-existing" => some .all
  | some _ => some .nothing
  | none => none

/-- The canonical path of an operand. -/
def canonicalPath (existence : Disk.Existence) (operand : ByteText) :
    Work (Except DiskFault Location) :=
  ask fun disk place => disk.canonical place existence operand.toPath

/-- The options for what has to be there. -/
def existenceOptions : List OptionKind :=
  [flag 'e' "canonicalize-existing", flag 'm' "canonicalize-missing"]

/-- Print the targets of links, or canonical paths. -/
def readlink : Tool := toTool do
  let arguments ← arguments (existenceOptions ++
    [flag 'f' "canonicalize", flag 'n' "no-newline", flag 'q' "quiet", flag 's' "silent",
      flag 'v' "verbose", flag 'z' "zero"])
  requireOperands arguments
  let isSingle := arguments.operands.length = 1
  if arguments.has "no-newline" && !isSingle then
    remark "ignoring --no-newline with multiple arguments".toList
  let ending := if arguments.has "zero" then ['\x00'] else ['\n']
  for operand in arguments.operands do
    let found ← match existenceOf? arguments with
      | some existence =>
          pure ((← canonicalPath existence operand).map fun place => .ofPath (Disk.pathOf place))
      | none => linkedPath operand
    match found with
    | .ok text =>
        print (text ++ if arguments.has "no-newline" && isSingle then [] else ending)
    | .error fault =>
        if arguments.has "verbose" then complainOf (quotedIfNeeded operand) fault else finish 1

/-- A location as it is printed, from a place to which it is relative. -/
def shownPlace (origin bound : Option Location) (place : Location) : ByteText :=
  let isBelow := bound.all (·.isPrefixOf place)
  match origin with
  | some origin =>
      if isBelow then .ofPath (Disk.relativePath origin place) else .ofPath (Disk.pathOf place)
  | none => .ofPath (Disk.pathOf place)

/-- The location of an operand, where the last option for links tells how they are treated. -/
def resolvedPath (existence : Disk.Existence) (treatment : Option String) (operand : ByteText) :
    Work (Except DiskFault Location) := do
  match treatment with
  | none | some "physical" => canonicalPath existence operand
  | some "logical" =>
      match ← ask fun disk place => disk.plain place existence operand.toPath with
      | .ok place => canonicalPath existence (.ofPath (Disk.pathOf place))
      | .error fault => return .error fault
  | some _ => ask fun disk place => disk.plain place existence operand.toPath

/-- Print canonical paths. -/
def realpath : Tool := toTool do
  let arguments ← arguments (existenceOptions ++
    [flag 'E' "canonicalize", flag 'L' "logical", flag 'P' "physical", flag 'q' "quiet",
      flag 's' "strip", wordOnly "no-symlinks", flag 'z' "zero", optionOf [] "relative-to" .always,
      optionOf [] "relative-base" .always])
  requireOperands arguments
  let existence := (existenceOf? arguments).getD .allButLast
  let treatment := arguments.last? ["logical", "physical", "strip", "no-symlinks"]
  let resolve := fun (operand : ByteText) => do
    match ← resolvedPath existence treatment operand with
    | .ok place => return some place
    | .error fault => do
        if arguments.has "quiet" then finish 1 else complainOf (quotedIfNeeded operand) fault
        return none
  let base ← match arguments.value? "relative-base" with
    | some base => do pure (← resolve base)
    | none => pure none
  let origin ← match arguments.value? "relative-to" with
    | some origin => do pure (← resolve origin)
    | none => pure base
  let ending := if arguments.has "zero" then ['\x00'] else ['\n']
  for operand in arguments.operands do
    if let some place ← resolve operand then
      print (shownPlace origin base place ++ ending)

end Provision.Shell.Tool
