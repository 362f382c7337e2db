import Provision.Shell.Tool.Options
import Provision.Shell.Tool.Places
import Provision.Text.Decimal

namespace Provision.Shell.Tool

/-!
# Backups

Before something takes the place of a file, the file may get another name: its own with an ending,
or its own with a number that no backup has yet.
-/

open Work

/-- How backups are named. -/
structure Backup where
  isNumbered : Bool
  startsNumbers : Bool
  ending : ByteText

/-- The options for backups. -/
def backupOptions : List OptionKind :=
  [letterOnly 'b' "backup-usual", optionOf [] "backup" .perhaps, valued 'S' "suffix"]

/-- The number of a backup of a file, if a name is that of one. -/
def backupNumber? (base name : ByteText) : Option Nat := do
  let after ← Text.after? (base ++ ".~".toList) name
  let (digits, ending) ← Text.cut? '~' after
  if ending.isEmpty then Text.decimal? digits else none

/-- The highest number of the backups of a file. -/
def lastBackup (path : ByteText) : Work Nat := do
  let base := lastName path
  let directory := (path.take (path.length - base.length))
  let above : ByteText := if directory.isEmpty then ['.'] else directory
  let names ← ask fun disk place => disk.listDirectory place above.toPath
  match names with
  | .ok names =>
      return names.foldl
        (fun last (name, _) => max last ((backupNumber? base (.ofName name)).getD 0)) 0
  | .error _ => return 0

/-- The name of the backup of a file. -/
def Backup.nameOf (backup : Backup) (path : ByteText) : Work ByteText := do
  let last ← lastBackup path
  if backup.isNumbered && (backup.startsNumbers || 0 < last) then
    return path ++ ".~".toList ++ ByteText.ofNat (last + 1) ++ ['~']
  else
    return path ++ backup.ending

/-- The backups that a call asks for. -/
def requestedBackup (arguments : Arguments) : Work (Option Backup) := do
  let groups := [["none", "off"], ["simple", "never"], ["existing", "nil"], ["numbered", "t"]]
  let isGiven := arguments.has "backup-usual" || arguments.has "backup" || arguments.has "suffix"
  if !isGiven then
    return none
  else
    let usual := ((← read).environment.lookup "VERSION_CONTROL".toList).getD "existing".toList
    let control := ((arguments.values "backup").filter (!·.isEmpty)).getLast?.getD usual
    let kind ← chosenFor groups "backup type".toList control
    let ending := (arguments.value? "suffix").getD
      (((← read).environment.lookup "SIMPLE_BACKUP_SUFFIX".toList).getD ['~'])
    return match kind with
      | "none" => none
      | "simple" => some ⟨false, false, ending⟩
      | "existing" => some ⟨true, false, ending⟩
      | _ => some ⟨true, true, ending⟩

/-- Give a file the name of its backup; the answer is that name. -/
def Backup.take (backup : Backup) (path : ByteText) : Work (Option ByteText) := do
  let name ← backup.nameOf path
  match ← change fun disk directory => disk.rename directory path.toPath name.toPath with
  | none => return some name
  | some fault => do
      complainOf ("cannot backup ".toList ++ quoted path) fault
      return none

/-!
# Sources and targets

Tools that copy, move or link take sources and a target.  If the target is a directory, each source
gets its own name there.
-/

/-- The options for labels of security, of which nobody here makes use. -/
def contextOptions : List OptionKind :=
  [letterOnly 'Z' "own-context", optionOf [] "context" .perhaps]

/-- Where the sources of a call go. -/
structure Targets where
  pairs : List (ByteText × ByteText)
  directory : Option ByteText

/-- The options for targets. -/
def targetOptions : List OptionKind :=
  [valued 't' "target-directory", flag 'T' "no-target-directory",
    wordOnly "strip-trailing-slashes"]

/-- Sources as they are to be taken. -/
def sourcesOf (arguments : Arguments) (operands : List ByteText) : List ByteText :=
  if arguments.has "strip-trailing-slashes" then operands.map withoutSlashes else operands

/-- Sources that go to a directory. -/
def intoDirectory (directory : ByteText) (sources : List ByteText) : Targets :=
  ⟨sources.map fun source => (source, pathBelow directory (lastName source)), some directory⟩

end Provision.Shell.Tool

namespace Provision.Shell.Work

open Tool

/-- Say that a label of security is not made use of, if there is one. -/
def warnOfContext (arguments : Arguments) (system : String := "SELinux") : Work Unit := do
  if (arguments.values "context").any (!·.isEmpty) then
    remark ("warning: ignoring --context; it requires an ".toList ++ system.toList ++
      "-enabled kernel".toList)

/-- Why a path is not that of a directory, if it is not. -/
def directoryFault? (follow : Bool) (operand : ByteText) : Work (Option DiskFault) := do
  return match ← status follow operand with
    | .ok ⟨.directory, _⟩ => none
    | .ok _ => some (.refused .notDirectory)
    | .error fault => some fault

/-- The targets of a call with at least two operands. -/
def targetsOfSeveral (follow : Bool) (sources : List ByteText) (target : ByteText) :
    Work Targets := do
  match ← directoryFault? follow target, sources with
  | none, sources => return intoDirectory target sources
  | some _, [source] => return ⟨[(source, target)], none⟩
  | some fault, _ =>
      refuse ("target ".toList ++ quoted target ++ ": ".toList ++ faultText fault)

/--
The targets of a call.  A single operand is refused, unless a tool has a target for it.  Links to
directories may be taken for what they are.
-/
def targets (arguments : Arguments) (follow : Bool := true) (single : Option ByteText := none) :
    Work Targets := do
  let isPlain := arguments.has "no-target-directory"
  match arguments.value? "target-directory", sourcesOf arguments arguments.operands with
  | _, [] => misuse "missing file operand".toList
  | some directory, sources =>
      if isPlain then
        refuse ("cannot combine --target-directory (-t) and " ++
          "--no-target-directory (-T)").toList
      else
        match ← directoryFault? true directory with
        | none => return intoDirectory directory sources
        | some fault =>
            refuse ("target directory ".toList ++ quoted directory ++ ": ".toList ++
              faultText fault)
  | none, [only] =>
      match isPlain, single with
      | false, some target => return intoDirectory target [only]
      | _, _ => misuse ("missing destination file operand after ".toList ++ quoted only)
  | none, first :: second :: rest =>
      if isPlain then do
        if let third :: _ := rest then
          misuse ("extra operand ".toList ++ quoted third)
        return ⟨[(first, second)], none⟩
      else
        let target := (arguments.operands.getLast?).getD second
        targetsOfSeveral follow ((first :: second :: rest).dropLast) target

end Provision.Shell.Work
