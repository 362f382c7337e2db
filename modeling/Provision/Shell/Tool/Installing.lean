import Provision.Shell.Tool.Copying
import Provision.Shell.Tool.Directories
import Provision.Shell.Tool.Names
import Provision.Shell.Tool.Permissions

namespace Provision.Shell.Tool

/-!
# Installing files

Files are copied to where they are to be used, with the permission bits that they need there.  What
stands there is taken away first.  Directories can be made the same way.
-/

open Work

/-- The options of installing. -/
def installingOptions : List OptionKind :=
  backupOptions ++
    [letterOnly 'c' "ignored", flag 'C' "compare", flag 'd' "directory",
      letterOnly 'D' "make-parents", valued 'g' "group", valued 'm' "mode", valued 'o' "owner",
      flag 'p' "preserve-timestamps", flag 's' "strip", optionOf [] "strip-program" .always,
      valued 't' "target-directory", flag 'T' "no-target-directory", flag 'v' "verbose",
      wordOnly "preserve-context"] ++
    contextOptions

/-- How files are installed. -/
structure Installing where
  copying : Copying
  fileMode : Nat
  directoryMode : Nat
  makesWay : Bool
  comparesFirst : Bool

/-- The words for a directory that is made, if they are wanted. -/
def Installing.words? (setting : Installing) : Option String :=
  if setting.copying.isLoud then some "creating directory " else none

/-- Whether a file is at a target already, as it would be there after installing. -/
def isInstalled (setting : Installing) (source target : ByteText) : Work Bool := do
  match ← entry false source, ← entry false target with
  | .ok (_, .file file), .ok (_, .file other) =>
      return setting.comparesFirst && file.content = other.content &&
        other.mode = setting.fileMode && (file.mode ||| other.mode) &&& 0o7000 = 0
  | _, _ => return false

/-- Install a file, and remember which targets have been made. -/
def installFile (setting : Installing) (source target : ByteText) (copied : Copied) :
    Work Copied := do
  if ← isInstalled setting source target then
    return copied
  else do
    let steps ← ask fun disk _ => 8 * disk.entries.length + 64
    let after ← copyPath setting.copying steps { source, target } { copied with sources := [] }
    if copied.targets.length < after.targets.length then
      let _ ← changeOr ("cannot change permissions of ".toList ++ quoted target)
        fun disk directory => disk.changeMode directory target.toPath setting.fileMode
    return after

/-- Make the directories on the way to a path, if that is asked for. -/
def makeWayTo (setting : Installing) (path : ByteText) : Work Bool := do
  let before := (← get).status
  finish 0
  if setting.makesWay && withoutSlashes path ≠ lastName path then
    let making : WayMaking := {
      words? := setting.words?, mode := 0o755, wayMode := 0o755, fault := .refused .notDirectory }
    makeAll making (way (directoryOf path).toPath)
  let isThere := (← get).status = 0
  finish (if isThere then before else 1)
  return isThere

/-- Install files into a directory. -/
def installInto (setting : Installing) (directory : ByteText) (sources : List ByteText) :
    Work Unit := do
  let isReady ← makeWayTo setting (pathBelow directory ['.', '.', '.'])
  if isReady then
    let _ ← sources.foldlM
      (fun copied source =>
        installFile setting source (pathBelow directory (lastName source)) copied)
      {}

/-- Make a directory with the bits of installed ones, and the ones on the way to it. -/
def installDirectory (setting : Installing) (operand : ByteText) : Work Unit := do
  let mode := setting.directoryMode
  if operand.isEmpty then
    complainOf ("cannot create directory ".toList ++ quoted operand) (.refused .noEntry)
  else
    makeAll { words? := setting.words?, mode, wayMode := 0o755 } (way operand.toPath)
    if ← isDirectory operand then
      let _ ← changeOr ("cannot change permissions of ".toList ++ quoted operand)
        fun disk directory => disk.changeMode directory operand.toPath mode

/-- Install files where the operands say. -/
def installOperands (setting : Installing) (arguments : Arguments) : Work Unit := do
  let isPlain := arguments.has "no-target-directory"
  match arguments.value? "target-directory", arguments.operands.reverse with
  | some directory, _ => do
      if isPlain then
        refuse ("cannot combine --target-directory (-t) and " ++
          "--no-target-directory (-T)").toList
      match ← directoryFault? true directory with
      | none => installInto setting directory arguments.operands
      | some fault =>
          if setting.makesWay && fault = .refused .noEntry then
            installInto setting directory arguments.operands
          else
            refuse ("failed to access ".toList ++ quoted directory ++ ": ".toList ++
              faultText fault)
  | none, target :: sources => do
      if isPlain then
        refuseMore 2 arguments
      let isInto ← if isPlain then pure false else isDirectory target
      if isInto then
        installInto { setting with makesWay := false } target sources.reverse
      else
        match sources with
        | [source] =>
            if ← makeWayTo setting target then
              let _ ← installFile setting source target {}
        | _ => do
            let fault := (← directoryFault? true target).getD (.refused .notDirectory)
            refuse ("target ".toList ++ quoted target ++ ": ".toList ++ faultText fault)
  | none, [] => return ()

/-- Refuse a call without enough operands. -/
def requireInstalled (arguments : Arguments) : Work Unit := do
  let takesOne := arguments.has "directory" || arguments.has "target-directory"
  match arguments.operands with
  | [] => misuse "missing file operand".toList
  | [only] =>
      if !takesOne then
        misuse ("missing destination file operand after ".toList ++ quoted only)
  | _ => return ()

/-- Refuse a user or a group that there is not. -/
def requireOwner (arguments : Arguments) (word kind : String) : Work Unit := do
  for name in arguments.values word do
    if !isOwnerName name then
      refuse ("invalid ".toList ++ kind.toList ++ [' '] ++ quoted name)

/-- Install files, or make directories. -/
def installFiles : Tool := toTool do
  let arguments ← arguments installingOptions
  warnOfContext arguments
  let backup ← requestedBackup arguments
  requireInstalled arguments
  let modes ← match arguments.value? "mode" with
    | none => pure (0o755, 0o755)
    | some text =>
        match ModeChange.read? text with
        | some changes =>
            let bits := fun isDirectory => ModeChange.applyAll changes isDirectory 0 0
            pure (bits false, bits true)
        | none => refuse ("invalid mode ".toList ++ quoted text)
  if arguments.has "strip-program" && !arguments.has "strip" then
    remark ("WARNING: ignoring --strip-program option as -s option was not specified").toList
  requireOwner arguments "owner" "user"
  requireOwner arguments "group" "group"
  let copying : Copying := {
    kind := .content, isDeep := false, omission := "omitting directory ", isForced := false
    isLoud := arguments.has "verbose", removesTarget := true, follows := .all
    keepsMode := false, dropsMode := false, keepsTime := arguments.has "preserve-timestamps"
    keepsLinks := false, overwriting := .always, backup }
  let setting : Installing := {
    copying, fileMode := modes.1, directoryMode := modes.2
    makesWay := arguments.has "make-parents", comparesFirst := arguments.has "compare" }
  if arguments.has "directory" then
    for operand in arguments.operands do
      installDirectory setting operand
  else
    installOperands setting arguments

end Provision.Shell.Tool
