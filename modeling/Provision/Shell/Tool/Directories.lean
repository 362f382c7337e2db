import Provision.Shell.Mode
import Provision.Shell.Tool.Options
import Provision.Shell.Tool.Places
import Provision.Shell.Tool.Targets

namespace Provision.Shell.Tool

/-!
# Making and removing directories
-/

open Work

/-- Every path on the way to a path, the shortest first. -/
def way (path : Path) : List Path :=
  let longer := (List.range path.rest.length).map fun count =>
    (⟨path.first, path.rest.take (count + 1)⟩ : Path)
  (if path.isAbsolute then longer else ⟨path.first, []⟩ :: longer).filter fun step =>
    !step.endsUnnamed

/-- Make one directory, and tell of it in some words if that is asked for. -/
def makeDirectory (words? : Option String) (mode : Nat) (operand : ByteText) : Work Bool := do
  let isMade ← changeOr ("cannot create directory ".toList ++ quoted operand)
    fun disk directory => disk.makeDirectory directory operand.toPath mode
  if let (true, some words) := (isMade, words?) then
    announce (words.toList ++ quoted operand)
  return isMade

/--
How the directories on a way are made: the words that tell of each, the mode of the last one and of
those before it, and what is wrong if something else stands at the end of the way.
-/
structure WayMaking where
  words? : Option String
  mode : Nat
  wayMode : Nat
  fault : DiskFault := .refused .exists

/-- Make the directories on a way as far as they are missing. -/
def makeAll (making : WayMaking) : List Path → Work Unit
  | [] => return ()
  | step :: further => do
      let operand := ByteText.ofPath step
      match ← status true operand with
      | .ok ⟨.directory, _⟩ => makeAll making further
      | .ok _ =>
          let fault := if further.isEmpty then making.fault else .refused .notDirectory
          complainOf ("cannot create directory ".toList ++ quoted operand) fault
      | .error _ => do
          let mode := if further.isEmpty then making.mode else making.wayMode
          if ← makeDirectory making.words? mode operand then
            makeAll making further
termination_by steps => steps.length

/-- Make directories. -/
def mkdir : Tool := toTool do
  let arguments ← arguments
    ([valued 'm' "mode", flag 'p' "parents", flag 'v' "verbose"] ++ contextOptions)
  warnOfContext arguments "SELinux/SMACK"
  requireOperands arguments
  let mask := (← read).mask
  let mode ← match arguments.value? "mode" with
    | none => masked 0o777
    | some mode =>
        match ModeChange.read? mode with
        | some changes => pure (ModeChange.applyAll changes true mask 0o777)
        | none => refuse ("invalid mode ".toList ++ quoted mode)
  let words? := if arguments.has "verbose" then some "created directory " else none
  for operand in arguments.operands do
    if arguments.has "parents" && !operand.isEmpty then
      let wayMode := (← masked 0o777) ||| 0o300
      makeAll { words?, mode, wayMode } (way operand.toPath)
    else
      let _ ← makeDirectory words? mode operand

/-- Why a directory stays: a slash after a link does not make it a directory. -/
def stayReason (operand : ByteText) (fault : DiskFault) : Work ByteText := do
  let isLink := match ← entry false (withoutSlashes operand) with
    | .ok (_, .link _) => true
    | _ => false
  let isFile := match ← status true operand with
    | .error fault => fault = .refused .notDirectory
    | .ok _ => false
  if fault = .refused .notDirectory && operand.getLast? = some '/' && isLink && !isFile then
    return "Symbolic link not followed".toList
  else
    return faultText fault

/-- Remove one directory, which may be kept if it is not empty. -/
def removeDirectory (isLoud mayStay : Bool) (text : String) (operand : ByteText) : Work Bool := do
  if isLoud then
    announce ("removing directory, ".toList ++ quoted operand)
  match ← change fun disk directory => disk.removeDirectory directory operand.toPath with
  | none => return true
  | some fault => do
      if !(mayStay && fault = .refused .notEmpty) then
        complain (text.toList ++ quoted operand ++ ": ".toList ++ (← stayReason operand fault))
      return false

/-- Remove the directories on a way, the longest first. -/
def removeAll (isLoud mayStay : Bool) : List Path → Work Unit
  | [] => return ()
  | step :: shorter => do
      if ← removeDirectory isLoud mayStay "failed to remove directory " (.ofPath step) then
        removeAll isLoud mayStay shorter

/-- Remove empty directories. -/
def rmdir : Tool := toTool do
  let arguments ← arguments
    [flag 'p' "parents", flag 'v' "verbose", wordOnly "ignore-fail-on-non-empty"]
  requireOperands arguments
  let isLoud := arguments.has "verbose"
  let mayStay := arguments.has "ignore-fail-on-non-empty"
  for operand in arguments.operands do
    let isGone ← removeDirectory isLoud mayStay "failed to remove " operand
    if isGone && arguments.has "parents" then
      removeAll isLoud mayStay ((way operand.toPath).reverse.drop 1)

/-!
# Removing files

Files, links and directories are taken away, directories with all that they hold if that is asked
for.  A directory stays if something in it does.
-/

/-- How removing is done. -/
structure Removal where
  isForced : Bool
  isDeep : Bool
  takesEmpty : Bool
  isLoud : Bool
  asks : Bool

/-- Whether a fault says that there is nothing at a path. -/
def isAbsence (fault : DiskFault) : Bool :=
  fault = .refused .noEntry || fault = .refused .notDirectory

/-- How a question names a kind of entry. -/
def kindName : Entry → ByteText
  | .directory _ => "directory".toList
  | .file file => (if file.content.isEmpty then "regular empty file" else "regular file").toList
  | .link _ => "symbolic link".toList

/-- Ask whether an entry is to be removed, if that is to be asked. -/
def mayRemove (removal : Removal) (entry : Entry) (operand : ByteText) : Work Bool := do
  if removal.asks then
    let isProtected := !(entry.allows .write)
    confirms ("remove ".toList ++ (if isProtected then "write-protected ".toList else []) ++
      kindName entry ++ ' ' :: quoted operand)
  else
    return true

/-- Complain that something cannot be removed. -/
def keep (operand : ByteText) (fault : DiskFault) : Work Bool := do
  complainOf ("cannot remove ".toList ++ quoted operand) fault
  return false

/-- Remove a file or a link, or a directory that is empty. -/
def removeEntry (removal : Removal) (entry : Entry) (operand : ByteText) : Work Bool := do
  if ← mayRemove removal entry operand then
    let path := operand.toPath
    match ← change fun disk directory =>
      if entry.isDirectory then disk.removeDirectory directory path
      else disk.removeFile directory path with
    | some fault =>
        if removal.isForced && isAbsence fault then
          return true
        let isUnknown := entry.isDirectory && !(entry.allows .read) && fault = .refused .notEmpty
        keep operand (if isUnknown then .refused .permission else fault)
    | none => do
        if removal.isLoud then
          let kind := if entry.isDirectory then "directory ".toList else []
          printLine ("removed ".toList ++ kind ++ quoted operand)
        return true
  else
    return false

mutual

/--
Remove what is at a path; the answer tells whether it is gone.  The first argument bounds the depth.
-/
def removePath (removal : Removal) : Nat → Bool → ByteText → Work Bool
  | 0, _, _ => return false
  | depth + 1, isOperand, operand => do
      match ← entry false operand with
      | .error fault =>
          if removal.isForced && isAbsence fault then return true else keep operand fault
      | .ok (location, .directory mode) => do
          let isEmpty ← ask fun disk _ => (disk.children location).isEmpty
          if !removal.isDeep && !(removal.takesEmpty && isEmpty) then
            keep operand (.refused (if removal.takesEmpty then .notEmpty else .isDirectory))
          else if isOperand && isDots (lastName operand) then do
            complain ("refusing to remove '.' or '..' directory: skipping ".toList ++
              quoted operand)
            return false
          else if ← declines (removal.asks && !isEmpty)
              ("descend into directory ".toList ++ quoted operand) then
            return false
          else do
            match ← ask fun disk directory => disk.listDirectory directory operand.toPath with
            | .error _ => removeEntry removal (.directory mode) operand
            | .ok names =>
                let below := names.map fun (name, _) => pathBelow operand (.ofName name)
                if ← removePaths removal depth below then
                  removeEntry removal (.directory mode) operand
                else
                  return false
      | .ok (_, found) => removeEntry removal found operand

/-- Remove what is at some paths; the answer tells whether all is gone. -/
def removePaths (removal : Removal) : Nat → List ByteText → Work Bool
  | 0, _ => return false
  | _ + 1, [] => return true
  | depth + 1, first :: rest => do
      let isGone ← removePath removal depth false first
      let areGone ← removePaths removal depth rest
      return isGone && areGone

end

/-- The options of removing. -/
def removingOptions : List OptionKind :=
  [flag 'f' "force", letterOnly 'i' "ask", letterOnly 'I' "ask-once",
      optionOf [] "interactive" .perhaps,
    wordOnly "one-file-system", wordOnly "no-preserve-root", optionOf [] "preserve-root" .perhaps,
    optionOf ['r', 'R'] "recursive" .never, flag 'd' "dir", flag 'v' "verbose"]

/-- Whether an option makes removing ask: always, once, or never. -/
def askingOf (option : String × ByteText) : Work (Option String) := do
  match option with
  | ("force", _) => return some "never"
  | ("ask", _) => return some "always"
  | ("ask-once", _) => return some "once"
  | ("interactive", []) => return some "always"
  | ("interactive", value) => do
      return some (← chosen [["never", "no", "none"], ["once"], ["always", "yes"]] "interactive"
        value)
  | _ => return none

/-- How files are named whose names start with a dash, for those that an argument names. -/
def hintAtDashes : Work Unit := do
  for argument in (← read).arguments do
    if argument.length > 1 && argument.head? = some '-' && (← isThere argument) then
      printError ("Try '".toList ++ (← read).name ++
        ' ' :: quotedIfNeeded ("./".toList ++ argument) ++
        "' to remove the file ".toList ++ quoted argument ++ ".\n".toList)

/-- Slashes at the end of a path, but for one of them, say nothing. -/
def withOneSlash (path : ByteText) : ByteText :=
  let named := withoutSlashes path
  if named.length + 1 < path.length && named ≠ ['/'] then named ++ ['/'] else path

/-- Remove files, and directories if asked to. -/
def rm : Tool := toTool do
  let arguments ← arguments removingOptions false 1 hintAtDashes
  let asking := ((← arguments.options.mapM askingOf).filterMap id).getLast?
  let isForced := arguments.last? ["force", "ask"] = some "force"
  if !isForced then
    requireOperands arguments
  let isDeep := arguments.has "recursive"
  let removal : Removal := {
    isForced, isDeep, takesEmpty := arguments.has "dir", isLoud := arguments.has "verbose"
    asks := asking = some "always" }
  let count := arguments.operands.length
  let asksOnce := asking = some "once" && (isDeep || count > 3)
  let noun := if count = 1 then " argument".toList else " arguments".toList
  let question := "remove ".toList ++ ByteText.ofNat count ++ noun ++
    if isDeep then " recursively".toList else []
  if !(← declines asksOnce question) then
    for operand in arguments.operands do
      if isDeep && operand ≠ [] && withoutSlashes operand = ['/'] &&
          !arguments.has "no-preserve-root" then
        complain "it is dangerous to operate recursively on '/'".toList
        complain "use --no-preserve-root to override this failsafe".toList
      else
        let depth ← ask fun disk _ => 2 * disk.entries.length + 2
        let _ ← removePath removal depth true (withOneSlash operand)

/-- Remove one file. -/
def unlink : Tool := toTool do
  let arguments ← arguments []
  requireOperands arguments
  refuseMore 1 arguments
  for operand in arguments.operands do
    let _ ← changeOr ("cannot unlink ".toList ++ quoted operand) fun disk directory =>
      disk.removeFile directory operand.toPath

end Provision.Shell.Tool
