import Provision.Shell.Tool.Targets
import Provision.Shell.Tool.TimeFormat

namespace Provision.Shell.Tool

/-!
# Copying files

Files are copied with their content, and directories with all that they hold if that is asked for.
Links are copied as what they lead to, or as links.  What stands at the target may be kept, written
over, taken away, or given another name.
-/

open Work

/-- What is done where something stands already. -/
inductive Overwriting where
  | always
  | ask
  | never
  | skip
  | ifNewer
  deriving Repr, DecidableEq

/-- Which links are followed. -/
inductive Following where
  | all
  | operands
  | never
  deriving Repr, DecidableEq

/-- What a copy is made of. -/
inductive CopyKind where
  | content
  | hardLink
  | symbolicLink
  deriving Repr, DecidableEq

/--
How copying is done.  The content of a file at the target may stay as it is; directories that are
not copied are left out with some words.
-/
structure Copying where
  kind : CopyKind
  isDeep : Bool
  keepsContent : Bool := false
  omission : String := "-r not specified; omitting directory "
  isForced : Bool
  isLoud : Bool
  removesTarget : Bool
  follows : Following
  keepsMode : Bool
  dropsMode : Bool
  keepsTime : Bool
  keepsLinks : Bool
  overwriting : Overwriting
  backup : Option Backup

/-- What has been copied for one call. -/
structure Copied where
  sources : List (Location × Option Nat) := []
  targets : List Location := []
  links : List (Nat × ByteText) := []

/-- The location of an entry and the group of its links. -/
def identity (found : Location × Entry) : Location × Option Nat :=
  match found.2 with
  | .file file => (found.1, file.group)
  | _ => (found.1, none)

/-- Whether two entries are one and the same file. -/
def isSame (a b : Location × Option Nat) : Bool :=
  a.1 = b.1 || (a.2.isSome && a.2 = b.2)

/-- The options that say what is done where something stands already. -/
def overwritingOptions : List OptionKind :=
  [flag 'f' "force", flag 'i' "interactive", flag 'n' "no-clobber", optionOf [] "update" .perhaps,
    letterOnly 'u' "update-older"]

/-- What is to be done where something stands already. -/
def requestedOverwriting (arguments : Arguments) (words : List String) : Work Overwriting := do
  let updates := arguments.options.filter fun option =>
    option.1 ∈ ["update", "update-older"]
  let update ← match updates.getLast? with
    | none => pure "all"
    | some (_, []) => pure "older"
    | some (_, value) => chosen [["all"], ["none"], ["older"]] "update" value
  return match arguments.last? words, update with
    | some "no-clobber", _ => .never
    | some "interactive", _ => .ask
    | _, "none" => .skip
    | _, "older" => .ifNewer
    | _, _ => .always

/-- Whether something is not to be written over, which may be asked. -/
def isKept (overwriting : Overwriting) (target : ByteText) : Work Bool :=
  declines (overwriting = .ask) ("overwrite ".toList ++ quoted target)

/-- Say that one thing has become another one. -/
def tellCopy (source target : ByteText) (backup : Option ByteText) : Work Unit := do
  let kept := backup.elim [] fun name => " (backup: ".toList ++ quoted name ++ [')']
  printLine (quoted source ++ " -> ".toList ++ quoted target ++ kept)

/-- Whether the source and the target of a copy are one file that would be lost. -/
def isLost (setting : Copying) (source target : ByteText) (place goal : Location × Entry) :
    Work Bool := do
  if !isSame (identity place) (identity goal) || setting.kind = .hardLink then
    return false
  else
    match ← entry false source, ← entry false target with
    | .ok own, .ok other => do
        let sameName := own.1 = other.1
        let isLink := other.2.isLink
        if setting.backup.isSome then
          return sameName || (setting.follows ≠ .never && own.2.isLink && !isLink)
        else if own.2.isLink && isLink && setting.follows = .never then
          return sameName
        else if setting.kind = .symbolicLink then
          return false
        else
          return !(setting.removesTarget && isLink)
    | _, _ => return false

/-- Take away what stands at a target. -/
def clearTarget (setting : Copying) (target : ByteText) : Work Bool := do
  match ← change fun disk directory => disk.removeFile directory target.toPath with
  | none => do
      if setting.isLoud then
        printLine ("removed ".toList ++ quoted target)
      return true
  | some (.refused .noEntry) => return true
  | some fault => do
      complainOf ("cannot remove ".toList ++ quoted target) fault
      return false

/-- Give a copy the properties of its source that it is to keep. -/
def keepProperties (setting : Copying) (source : Entry) (target : ByteText) : Work Unit := do
  if setting.keepsMode then
    let _ ← change fun disk directory => disk.changeMode directory target.toPath source.mode
  if setting.keepsTime then
    if let .file file := source then
      if let .ok (location, _) ← entry true target then
        let _ ← change fun disk _ =>
          .ok (disk.updateFile location fun copy =>
            { copy with stamp := file.stamp, lookStamp := file.lookStamp })

/-- Copy the content of a file to a target, which may be there already. -/
def copyContent (setting : Copying) (source target : ByteText) (found : Entry) (isNew : Bool) :
    Work Bool := do
  match ← content source with
  | .error fault => do
      complainOf ("cannot open ".toList ++ quoted source ++ " for reading".toList) fault
      return false
  | .ok text => do
      if (Device.ofPath? target).isSome then
        return true
      let path := target.toPath
      let bytes := if setting.keepsContent then [] else text.toBytes
      let mode ← masked (if setting.dropsMode then 0o666 else found.mode &&& 0o777)
      let fresh : File := { mode, content := bytes }
      let put := fun (disk : Disk) directory =>
        disk.openFile directory path fresh fun file =>
          if setting.keepsContent then file else file.rewritten bytes
      let first ← if isNew then pure none else change put
      let isOpen ←
        if isNew then pure true
        else if first.isSome && setting.isForced then clearTarget setting target
        else pure false
      let fault ←
        if !isOpen then pure first
        else if (← isThere target) && !(← status true target).isOk then do
          complain ("not writing through dangling symlink ".toList ++ quoted target)
          return false
        else change put
      match fault with
      | none => do
          keepProperties setting found target
          return true
      | some fault => do
          let isSlash := target.getLast? = some '/' && fault = .refused .isDirectory
          complainOf ("cannot create regular file ".toList ++ quoted target)
            (if isSlash then .refused .notDirectory else fault)
          return false

/-- Put a link at a target, in place of what stands there if that is to be done by force. -/
def putLink (setting : Copying) (target text : ByteText)
    (make : Disk → Location → Except DiskFault Disk) : Work Bool := do
  match ← change make with
  | none => return true
  | some (.refused .exists) =>
      if setting.isForced then
        let _ ← change fun disk directory => disk.removeFile directory target.toPath
        changeOr text make
      else do
        complainOf text (.refused .exists)
        return false
  | some fault => do
      complainOf text fault
      return false

/-- Whether a path has no directory in it other than the working directory. -/
def isHere (path : ByteText) : Bool :=
  !path.contains '/' || Text.after? ['.', '/'] path = some (lastName path)

/-- Copy something that is no directory to a target. -/
def copyLeaf (setting : Copying) (source target : ByteText) (found : Entry) (isNew : Bool) :
    Work Bool := do
  match setting.kind, found with
  | .symbolicLink, _ =>
      if source.head? ≠ some '/' && !isHere target then do
        complain (quotedIfNeeded target ++
          ": can make relative symbolic links only in current directory".toList)
        return false
      else
        putLink setting target ("cannot create symbolic link ".toList ++ quoted target ++
          " to ".toList ++ quoted source) fun disk directory =>
            disk.makeLink directory source.toPath target.toPath
  | .hardLink, _ =>
      putLink setting target ("cannot create hard link ".toList ++ quoted target ++
        " to ".toList ++ quoted source) fun disk directory =>
          disk.makeHardLink directory source.toPath target.toPath
  | .content, .link linked =>
      putLink setting target ("cannot create symbolic link ".toList ++ quoted target)
        fun disk directory => disk.makeLink directory linked target.toPath
  | .content, found => copyContent setting source target found isNew

/-- Whether a copy is made at a target where something stands. -/
inductive Decision where
  | goOn
  | leave
  deriving Repr, DecidableEq

/-- Decide what is to be done at a target where something stands. -/
def decideCopy (setting : Copying) (isOperand : Bool) (copied : Copied) (source target : ByteText)
    (place goal : Location × Entry) : Work Decision := do
  let isDirectory := place.2.isDirectory
  let mayLeave := setting.overwriting = .never || setting.overwriting = .skip
  if !mayLeave && (← isLost setting source target place goal) then do
    complain (quoted source ++ " and ".toList ++ quoted target ++ " are the same file".toList)
    return .leave
  else if setting.kind = .hardLink && isSame (identity place) (identity goal) then
    return .leave
  else if setting.overwriting = .ifNewer && !isDirectory &&
      timeOf place.2 ≤ timeOf goal.2 then
    return .leave
  else if !isDirectory && mayLeave then
    return .leave
  else if ← (if isDirectory then pure false else isKept setting.overwriting target) then
    finish 1
    return .leave
  else if isDirectory && !goal.2.isDirectory then do
    complain ("cannot overwrite non-directory ".toList ++ quoted target ++
      " with directory ".toList ++ quoted source)
    return .leave
  else if isOperand && !goal.2.isDirectory && copied.targets.contains goal.1 then do
    complain ("will not overwrite just-created ".toList ++ quoted target ++ " with ".toList ++
      quoted source)
    return .leave
  else if !isDirectory && goal.2.isDirectory then do
    complain ("cannot overwrite directory ".toList ++ quoted target ++
      " with non-directory".toList)
    return .leave
  else
    return .goOn

/-- Whether what stands at a target is taken away before a copy is made. -/
def isReplaced (setting : Copying) (source goal : Entry) : Bool :=
  !goal.isDirectory && (setting.removesTarget || (setting.kind = .content &&
    ((setting.follows = .never && !source.isFile) || (setting.keepsLinks && goal.hasOtherNames))))

/-- The fault that is met at a target, if it is more than that nothing stands there. -/
def targetFault? (goal : Except DiskFault (Location × Entry)) : Option DiskFault :=
  match goal with
  | .error (.refused .noEntry) => none
  | .error fault => some fault
  | .ok _ => none

/-- Remember that a target has been made for a source. -/
def remember (setting : Copying) (place : Location × Entry) (target : ByteText)
    (copied : Copied) : Work Copied := do
  let made ← entry false target
  let targets := match made with
    | .ok (location, _) => location :: copied.targets
    | .error _ => copied.targets
  let links := match place.2 with
    | .file { group := some group, .. } =>
        if setting.keepsLinks then (group, target) :: copied.links else copied.links
    | _ => copied.links
  return { copied with targets, links }

/-- The target that an earlier link of the same file has been copied to. -/
def earlierCopy? (setting : Copying) (place : Location × Entry) (copied : Copied) :
    Option ByteText :=
  match place.2 with
  | .file { group := some group, .. } =>
      if setting.keepsLinks && setting.kind = .content then copied.links.lookup group else none
  | _ => none

/-!
# Copying trees

Copying goes down into directories.  A directory that is copied into itself is left out of the
copy, which is told by the location of the first directory that has been made.
-/

/-- The first directory that has been made for an operand, with the operand and the target. -/
structure OuterCopy where
  location : Location
  source : ByteText
  target : ByteText

/-- What is copied to where; the outer copy is missing for an operand itself. -/
structure CopyJob where
  outer : Option OuterCopy := none
  source : ByteText
  target : ByteText

/-- The entry that is to be copied, if it can be found. -/
def CopyJob.place (setting : Copying) (job : CopyJob) :
    Work (Except DiskFault (Location × Entry)) := do
  if (Device.ofPath? job.source).isSome then
    return .ok ([], .file Device.file)
  else
    entry (setting.follows = .all || (job.outer.isNone && setting.follows = .operands)) job.source

/-- What stands at the target of a job. -/
def CopyJob.goal (setting : Copying) (place : Entry) (job : CopyJob) :
    Work (Except DiskFault (Location × Entry)) := do
  let follow := place.isFile && setting.kind = .content && setting.backup.isNone &&
    !setting.removesTarget
  if (Device.ofPath? job.target).isSome then
    return .ok ([], .file Device.file)
  else
    entry follow job.target

/-- Give a directory its permission bits after its content has been copied. -/
def finishDirectory (setting : Copying) (place : Entry) (target : ByteText) (mode : Nat)
    (isNew : Bool) : Work Unit := do
  if isNew then
    let _ ← change fun disk directory => disk.changeMode directory target.toPath mode
  keepProperties setting place target

/-- Make the directory that a directory is copied to. -/
def startDirectory (setting : Copying) (job : CopyJob) (mode : Nat) : Work Bool := do
  let isMade ← changeOr ("cannot create directory ".toList ++ quoted job.target)
    fun disk directory => disk.makeDirectory directory job.target.toPath (mode ||| 0o700)
  if isMade && setting.isLoud then
    tellCopy job.source job.target none
  return isMade

/-- Copy something that is no directory, as a link of an earlier copy if there is one. -/
def copyOne (setting : Copying) (job : CopyJob) (place : Location × Entry) (isNew : Bool)
    (backup : Option ByteText) (copied : Copied) : Work Copied := do
  if setting.isLoud then
    tellCopy job.source job.target backup
  let isMade ← match earlierCopy? setting place copied with
    | some earlier =>
        putLink { setting with isForced := true } job.target
          ("cannot create hard link ".toList ++ quoted job.target ++ " to ".toList ++
            quoted earlier)
          fun disk directory => disk.makeHardLink directory earlier.toPath job.target.toPath
    | none => copyLeaf setting job.source job.target place.2 isNew
  if isMade then remember setting place job.target copied else return copied

/--
Make room for a copy where something stands.  The answer tells whether there is nothing left, and
the name of the backup; there is none if the copy is not to be made.
-/
def makeRoom (setting : Copying) (job : CopyJob) (place : Location × Entry) (copied : Copied) :
    Work (Option (Bool × Option ByteText)) := do
  match ← job.goal setting place.2 with
  | .error (.refused .noEntry) => return some (true, none)
  | .error fault =>
      if setting.isForced && fault = .refused .tooManyLinks then
        return some (true, none)
      else do
        complainOf ("cannot stat ".toList ++ quoted job.target) fault
        return none
  | .ok goal => do
      let decision ← decideCopy setting job.outer.isNone copied job.source job.target place goal
      if decision ≠ .goOn then
        return none
      else
        match setting.backup with
        | some backup =>
            if goal.2.isDirectory || isDots (lastName job.source) then
              return some (false, none)
            else
              return some (true, ← backup.take job.target)
        | none =>
            if isReplaced setting place.2 goal.2 then do
              let isClear ← clearTarget setting job.target
              return if isClear then some (true, none) else none
            else
              return some (false, none)

mutual

/-- Do a job; the first argument bounds the steps. -/
def copyPath (setting : Copying) : Nat → CopyJob → Copied → Work Copied
  | 0, _, copied => return copied
  | steps + 1, job, copied => do
      match ← job.place setting with
      | .error fault => do
          complainOf ("cannot stat ".toList ++ quoted job.source) fault
          return copied
      | .ok place => do
          let isDirectory := place.2.isDirectory
          let isRepeated := job.outer.isNone && !isDirectory && setting.backup.isNone &&
            copied.sources.any (isSame (identity place))
          if isDirectory && !setting.isDeep then do
            complain (setting.omission.toList ++ quoted job.source)
            return copied
          else if isRepeated then do
            remark ("warning: source file ".toList ++ quoted job.source ++
              " specified more than once".toList)
            return copied
          else do
            let copied := if job.outer.isSome then copied else
              { copied with sources := identity place :: copied.sources }
            match ← makeRoom setting job place copied with
            | none => return copied
            | some (isNew, backup) =>
                if isDirectory then copyDirectory setting steps job place isNew copied
                else copyOne setting job place isNew backup copied

/-- Copy a directory with what it holds. -/
def copyDirectory (setting : Copying) :
    Nat → CopyJob → Location × Entry → Bool → Copied → Work Copied
  | 0, _, _, _, copied => return copied
  | steps + 1, job, place, isNew, copied => do
      match job.outer.filter fun outer => outer.location = place.1 with
      | some outer => do
          complain ("cannot copy a directory, ".toList ++ quoted outer.source ++
            ", into itself, ".toList ++ quoted outer.target)
          return copied
      | none => do
          let mode ← masked (if setting.dropsMode then 0o777 else place.2.mode &&& 0o1777)
          let isReady ← if isNew then startDirectory setting job mode else pure true
          if !isReady then
            return copied
          else do
            let location := ((← entry true job.target).toOption.map Prod.fst).getD []
            let outer := job.outer.getD ⟨location, job.source, job.target⟩
            let names ← ask fun disk directory => disk.listDirectory directory job.source.toPath
            let copied ← match names with
              | .ok names =>
                  copyJobs setting steps (names.map fun (name, _) =>
                    ⟨some outer, pathBelow job.source (.ofName name),
                      pathBelow job.target (.ofName name)⟩) copied
              | .error fault => do
                  complainOf ("cannot access ".toList ++ quoted job.source) fault
                  pure copied
            finishDirectory setting place.2 job.target mode isNew
            return copied

/-- Do some jobs in order. -/
def copyJobs (setting : Copying) : Nat → List CopyJob → Copied → Work Copied
  | 0, _, copied => return copied
  | _ + 1, [], copied => return copied
  | steps + 1, job :: rest, copied => do
      let copied ← copyPath setting steps job copied
      copyJobs setting steps rest copied

end

/-- The options of copying. -/
def copyingOptions : List OptionKind :=
  backupOptions ++ targetOptions ++ overwritingOptions ++
    [flag 'a' "archive", letterOnly 'd' "keep-links", optionOf ['r', 'R'] "recursive" .never,
      letterOnly 'H' "follow", flag 'L' "dereference", flag 'P' "no-dereference", flag 'l' "link",
      flag 's' "symbolic-link", letterOnly 'p' "keep-properties", optionOf [] "preserve" .perhaps,
      optionOf [] "no-preserve" .always, flag 'v' "verbose", flag 'x' "one-file-system",
      wordOnly "remove-destination", wordOnly "parents", wordOnly "copy-contents",
      optionOf [] "reflink" .perhaps, optionOf [] "sparse" .always, wordOnly "attributes-only"] ++
    contextOptions

/-- The properties that the value of an option names. -/
def propertiesOf (value : ByteText) : Work (List String) := do
  let groups := [["mode"], ["timestamps"], ["ownership"], ["links"], ["context"], ["xattr"],
    ["all"]]
  if value.isEmpty then
    return ["mode", "ownership", "timestamps"]
  else
    (Text.fields ',' value).mapM (chosen groups "preserve")

/-- Which links are followed, as far as the options say. -/
def followingOf (arguments : Arguments) (isDeep : Bool) : Following :=
  match arguments.last? ["archive", "keep-links", "follow", "dereference", "no-dereference"] with
  | some "dereference" => .all
  | some "follow" => .operands
  | some _ => .never
  | none => if isDeep && !arguments.has "link" then .never else .all

/-- How a call wants files to be copied. -/
def requestedCopying (arguments : Arguments) : Work Copying := do
  let kept ← (arguments.values "preserve").mapM propertiesOf
  let dropped ← (arguments.values "no-preserve").mapM propertiesOf
  let isArchive := arguments.has "archive"
  let usual := arguments.has "keep-properties"
  let keeps := fun (property : String) => isArchive ||
    kept.flatten.any fun other => other = property || other = "all"
  let drops := fun (property : String) => dropped.flatten.any fun other =>
    other = property || other = "all"
  let isDeep := arguments.has "recursive" || isArchive
  warnOfContext arguments
  let overwriting ← requestedOverwriting arguments ["interactive", "no-clobber"]
  if arguments.has "no-clobber" && overwriting = .never then
    remark ("warning: behavior of -n is non-portable and may change in future; " ++
      "use --update=none instead").toList
  return {
    kind := match arguments.last? ["link", "symbolic-link"] with
      | some "link" => .hardLink
      | some _ => .symbolicLink
      | none => .content
    isDeep, keepsContent := arguments.has "attributes-only"
    isForced := arguments.has "force", isLoud := arguments.has "verbose"
    removesTarget := arguments.has "remove-destination"
    follows := followingOf arguments isDeep
    keepsMode := (usual || keeps "mode") && !drops "mode", dropsMode := drops "mode"
    keepsTime := (usual || keeps "timestamps") && !drops "timestamps"
    keepsLinks := (arguments.has "keep-links" || keeps "links") && !drops "links"
    overwriting, backup := ← requestedBackup arguments }

/-- The beginnings of a path that end before a slash, the shortest first. -/
def stepsOf (path : ByteText) : List ByteText :=
  (List.range path.length).filterMap fun length =>
    let step := path.take length
    if path[length]? = some '/' && !step.isEmpty && step.getLast? ≠ some '/' then some step
    else none

/-- Make the directories below a target that a source stands in. -/
def copyParents (setting : Copying) (target source : ByteText) : Work Bool := do
  for step in stepsOf (withoutSlashes source) do
    let place := pathBelow target step
    match ← status true step with
    | .error fault => do
        complainOf ("failed to get attributes of ".toList ++ quoted step) fault
        return false
    | .ok found => do
        if !(← isDirectory place) then
          let mode ← masked (found.mode &&& 0o1777)
          let isMade ← changeOr ("cannot make directory ".toList ++ quoted place)
            fun disk directory => disk.makeDirectory directory place.toPath (mode ||| 0o300)
          if !isMade then
            return false
          if setting.isLoud then
            printLine (step ++ " -> ".toList ++ place)
  return true

/-- The jobs of a call that keeps the directories of its sources. -/
def parentJobs (setting : Copying) (arguments : Arguments) : Work (List CopyJob) := do
  let sources := sourcesOf arguments arguments.operands
  let (sources, target) := match arguments.value? "target-directory", sources.reverse with
    | none, last :: others => (others.reverse, last)
    | some directory, _ => (sources, directory)
    | none, [] => ([], [])
  if (← directoryFault? true target).isSome then
    misuse "with --parents, the destination must be a directory".toList
  let jobs ← sources.mapM fun source => do
    if ← copyParents setting target source then
      return some ({ source, target := pathBelow target (withoutSlashes source) } : CopyJob)
    else
      return none
  return jobs.filterMap id

/-- Jobs that copy a file onto itself by force are to make its backup instead. -/
def forcedJobs (setting : Copying) (pairs : List (ByteText × ByteText)) :
    Work (Copying × List CopyJob) := do
  let jobs := pairs.map fun (source, target) => ({ source, target } : CopyJob)
  match setting.isForced, setting.backup, pairs with
  | true, some backup, [(source, target)] =>
      if source = target && (← entry true source).isOk then do
        let name ← backup.nameOf target
        return ({ setting with backup := none }, [{ source, target := name }])
      else
        return (setting, jobs)
  | _, _, _ => return (setting, jobs)

/-- Copy files, and directories if asked to. -/
def cp : Tool := toTool do
  let arguments ← arguments copyingOptions
  let setting ← requestedCopying arguments
  let (setting, jobs) ←
    if arguments.has "parents" && arguments.operands.length > 1 then do
      pure (setting, ← parentJobs setting arguments)
    else do
      let targets ← targets arguments
      let pairs := targets.pairs.map fun (source, target) =>
        if lastName source = ['.', '.'] && targets.directory.isSome then
          (source, targets.directory.getD target)
        else
          (source, target)
      forcedJobs setting pairs
  let steps ← ask fun disk _ => 8 * disk.entries.length + 4 * jobs.length + 64
  let _ ← copyJobs setting steps jobs {}

/-!
# Moving files

Files and directories get another name, in place of what stands there if it may be replaced.
-/

/-- How moving is done. -/
structure Moving where
  isLoud : Bool
  overwriting : Overwriting
  backup : Option Backup

/-- Whether a move would lose its source, which is what stands at the target already. -/
def isLostMove (setting : Moving) (source : ByteText) (place goal : Location × Entry) :
    Work Bool := do
  if place.1 = goal.1 then
    return true
  else if setting.backup.isSome || goal.2.isLink then
    return false
  else if isSame (identity place) (identity goal) then
    return true
  else
    match ← entry true source with
    | .ok referent => return place.2.isLink && isSame (identity referent) (identity goal)
    | .error _ => return false

/-- Decide what is to be done at a target where something stands. -/
def decideMove (setting : Moving) (copied : Copied) (source target : ByteText)
    (place goal : Location × Entry) : Work Decision := do
  let isDirectory := place.2.isDirectory
  if setting.overwriting = .never then do
    complain ("not replacing ".toList ++ quoted target)
    return .leave
  else if setting.overwriting = .skip then
    return .leave
  else if ← isLostMove setting source place goal then do
    complain (quoted source ++ " and ".toList ++ quoted target ++ " are the same file".toList)
    return .leave
  else if setting.overwriting = .ifNewer && !isDirectory && timeOf place.2 ≤ timeOf goal.2 then
    return .leave
  else if ← isKept setting.overwriting target then do
    finish 1
    return .leave
  else if isDirectory && !goal.2.isDirectory && setting.backup.isNone then do
    complain ("cannot overwrite non-directory ".toList ++ quoted target ++
      " with directory ".toList ++ quoted source)
    return .leave
  else if !goal.2.isDirectory && copied.targets.contains goal.1 then do
    complain ("will not overwrite just-created ".toList ++ quoted target ++ " with ".toList ++
      quoted source)
    return .leave
  else if !isDirectory && goal.2.isDirectory && setting.backup.isNone then do
    complain ("cannot overwrite directory ".toList ++ quoted target ++
      " with non-directory".toList)
    return .leave
  else
    return .goOn

/-- Complain about a move that is refused. -/
def complainOfMove (source target : ByteText) (fault : DiskFault) : Work Unit :=
  match fault with
  | .refused .invalidArgument =>
      complain ("cannot move ".toList ++ quoted source ++ " to a subdirectory of itself, ".toList ++
        quoted target)
  | .refused .notEmpty | .refused .isDirectory | .refused .exists =>
      complainOf ("cannot overwrite ".toList ++ quoted target) fault
  | fault =>
      complainOf ("cannot move ".toList ++ quoted source ++ " to ".toList ++ quoted target) fault

/-- Give something another name, once what stands there may be replaced. -/
def renamePath (setting : Moving) (source target : ByteText) (backup : Option ByteText)
    (copied : Copied) : Work Copied := do
  match ← change fun disk directory => disk.rename directory source.toPath target.toPath with
  | some fault => do
      complainOfMove source target fault
      return copied
  | none => do
      if setting.isLoud then
        print "renamed ".toList
        tellCopy source target backup
      return match ← entry false target with
        | .ok (location, _) => { copied with targets := location :: copied.targets }
        | .error _ => copied

/-- Move what is at a path to a target. -/
def movePath (setting : Moving) (source target : ByteText) (copied : Copied) : Work Copied := do
  match ← entry false source with
  | .error fault => do
      complainOf ("cannot stat ".toList ++ quoted source) fault
      return copied
  | .ok place =>
      match ← entry false target with
      | .error (.refused .noEntry) => renamePath setting source target none copied
      | .error fault => do
          complainOf ("cannot stat ".toList ++ quoted target) fault
          return copied
      | .ok goal =>
          let isInside := place.1.isPrefixOf goal.1 && place.1 ≠ goal.1
          if isInside then do
            complainOfMove source target (.refused .invalidArgument)
            return copied
          else if (← decideMove setting copied source target place goal) ≠ .goOn then
            return copied
          else do
            let backup ← match setting.backup with
              | some backup => if isDots (lastName source) then pure none else backup.take target
              | none => pure none
            renamePath setting source target backup copied

/-- Move several things in order. -/
def moveAll (setting : Moving) : List (ByteText × ByteText) → Copied → Work Unit
  | [], _ => return ()
  | (source, target) :: rest, copied => do
      moveAll setting rest (← movePath setting source target copied)

/-- Move files and directories. -/
def mv : Tool := toTool do
  let arguments ← arguments (backupOptions ++ targetOptions ++ overwritingOptions ++
    [flag 'v' "verbose", flag 'Z' "context", wordOnly "debug"])
  let overwriting ← requestedOverwriting arguments ["force", "interactive", "no-clobber"]
  let backup ← requestedBackup arguments
  let targets ← targets arguments
  moveAll { isLoud := arguments.has "verbose", overwriting, backup } targets.pairs {}

end Provision.Shell.Tool
