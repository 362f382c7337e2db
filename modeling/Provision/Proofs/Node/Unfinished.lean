import Provision.Proofs.Disk.Answering
import Provision.Proofs.Disk.Guarding
import Provision.Proofs.Node.Checks
import Provision.Proofs.Node.Installing

namespace Provision

/-!
# Runtimes that are not shown

While a directory has the mark of an installation that is not finished, no runtime in it shows a program
or a package manager.  Each place that is asked for honours the mark on its own.
-/

namespace Host

variable (host : Host)

/-- Whether a host has a file at a path. -/
def hasFile (path : Path) : Bool :=
  match host.disk.status host.workingDirectory true path with
  | .ok status => status.kind = .file
  | .error _ => false

/-- The question for a file is answered by what stands at the path. -/
theorem run_isFile (path : Path) :
    host.run (Files.isFile path) = (host.hasFile path, host) := by
  simp only [run, Files.isFile, Plan.run_bind, Plan.ask, Plan.run,
    perform_status, hasFile]
  cases host.disk.status host.workingDirectory true path <;> rfl

/-- The question for a directory changes nothing. -/
theorem exists_run_isDirectory (path : Path) :
    ∃ isThere, host.run (Files.isDirectory path) = (isThere, host) := by
  simp only [run, Files.isDirectory, Plan.run_bind, Plan.ask, Plan.run,
    perform_status]
  cases host.disk.status host.workingDirectory true path <;> exact ⟨_, rfl⟩

/-- A plan that goes on with what another one gives. -/
theorem run_bind
    {α β : Type}
    {plan : Plan α}
    {next : α → Plan β}
    {value : α}
    {after : Host}
    (runs : host.run plan = (value, after)) :
    host.run (plan >>= next) = after.run (next value) :=
  Plan.run_bind_of_run perform runs

/-- None of some paths is found if none of them is a file. -/
theorem run_firstFile_of_none
    {paths : List Path}
    (isNone : ∀ path ∈ paths, host.hasFile path = false) :
    host.run (Files.firstFile paths) = (none, host) := by
  induction paths with
  | nil => rfl
  | cons path others inductionHypothesis =>
      rw [Files.firstFile, host.run_bind (host.run_isFile path),
        isNone path (.head _)]
      exact inductionHypothesis fun other member =>
        isNone other (.tail _ member)

/-- Nothing below a directory is a file, unless the directory has its mark. -/
def ShowsNothing (directory : Path) : Prop :=
  ∀ path,
    directory.IsBelow path →
    host.hasFile (directory.within .installing) = false →
    host.hasFile path = false

variable {host}

/-- A directory that has its mark shows nothing. -/
theorem showsNothing_of_marks
    {directory : Path}
    (marks : host.disk.Marks host.workingDirectory directory)
    (isUsable : (directory.within .installing).isUsable = true) :
    host.ShowsNothing directory := by
  intro path isBelow noMark
  cases isFile : host.hasFile path with
  | false => rfl
  | true =>
      rw [hasFile] at isFile
      split at isFile
      · rename_i status hasStatus
        rw [Disk.status] at hasStatus
        cases finds :
            host.disk.entryAt host.workingDirectory true path with
        | error fault =>
            rw [finds] at hasStatus
            simp [Except.map] at hasStatus
        | ok found =>
            obtain ⟨mode, isMarked⟩ :=
              marks.status_eq isUsable isBelow
                (Disk.entryAt_eq_ok_iff.mp finds)
            have isMark : host.hasFile (directory.within .installing) = true := by
              rw [hasFile]
              exact isMarked ▸ rfl
            rw [noMark] at isMark
            simp at isMark
      · simp at isFile

/-- What is hidden by a mark is not found in a directory that shows nothing. -/
theorem run_unlessMarked
    {directory : Path}
    {paths : List Path}
    (shows : host.ShowsNothing directory)
    (isBelow : ∀ path ∈ paths, directory.IsBelow path) :
    host.run (do
      if ← Files.isFile (directory.within .installing) then
        return none
      else
        Files.firstFile paths) = (none, host) := by
  rw [host.run_bind (host.run_isFile _)]
  cases isMarked : host.hasFile (directory.within .installing) with
  | true => rfl
  | false =>
      exact host.run_firstFile_of_none fun path member =>
        shows path (isBelow path member) isMarked

end Host

namespace StoredNode

variable {host : Host}
variable {node : StoredNode}

/-- The unpacked release is below the directory. -/
theorem isBelow_content (node : StoredNode) :
    node.directory.IsBelow node.content :=
  .child (show Name.text "node" ≠ .text "" by decide)

/-- What is in the unpacked release is below the directory. -/
theorem isBelow_in_content
    (node : StoredNode)
    {name : Name}
    (isNamed : name ≠ .text "") :
    node.directory.IsBelow (node.content.child name) :=
  .deeper node.isBelow_content isNamed

/-- No program is shown in a directory that shows nothing. -/
theorem run_program?_of_showsNothing
    (shows : host.ShowsNothing node.directory) :
    host.run node.program? = (none, host) := by
  refine Host.run_unlessMarked shows fun path member => ?_
  rcases List.mem_cons.mp member with rfl | isLast
  · exact node.isBelow_in_content
      (show Name.text "node.exe" ≠ .text "" by decide)
  · obtain rfl := List.mem_singleton.mp isLast
    exact .deeper
      (node.isBelow_in_content (show Name.text "bin" ≠ .text "" by decide))
      (show Name.text "node" ≠ .text "" by decide)

/-- No script of a package manager is shown in a directory that shows nothing. -/
theorem run_npmScript?_of_showsNothing
    (shows : host.ShowsNothing node.directory) :
    host.run node.npmScript? = (none, host) := by
  have isBelowModules
      {modules : Path}
      (isBelow : node.directory.IsBelow modules) :
      node.directory.IsBelow (modules / "npm" / "bin" / "npm-cli.js") :=
    .deeper
      (.deeper
        (.deeper isBelow (show Name.text "npm" ≠ .text "" by decide))
        (show Name.text "bin" ≠ .text "" by decide))
      (show Name.text "npm-cli.js" ≠ .text "" by decide)
  have hasName : Name.text StorageName.nodeModules.text ≠ .text "" := by
    decide
  have isBelowLibrary :
      node.directory.IsBelow ((node.content / "lib").within .nodeModules) :=
    .deeper
      (node.isBelow_in_content (show Name.text "lib" ≠ .text "" by decide))
      hasName
  rw [npmScript?, host.run_bind (host.run_isFile _)]
  cases isMarked : host.hasFile node.marker with
  | true => rfl
  | false =>
      obtain ⟨hasLibrary, runs⟩ :=
        host.exists_run_isDirectory
          ((node.content / "lib").within .nodeModules)
      refine (host.run_bind runs).trans ?_
      refine host.run_firstFile_of_none fun path member => ?_
      obtain rfl := List.mem_singleton.mp member
      refine shows _ ?_ isMarked
      cases hasLibrary with
      | true => exact isBelowModules isBelowLibrary
      | false => exact isBelowModules (node.isBelow_in_content hasName)

/-- No directory goes in front of the search path for a directory that shows nothing. -/
theorem run_leadingPaths_of_showsNothing
    (shows : host.ShowsNothing node.directory) :
    host.run node.leadingPaths = ([], host) := by
  rw [leadingPaths, host.run_bind (run_program?_of_showsNothing shows)]
  rfl

end StoredNode

namespace StoredElectron

variable {host : Host}
variable {electron : StoredElectron}

/-- The program is below the directory. -/
theorem isBelow_programPlace (electron : StoredElectron) :
    electron.directory.IsBelow electron.programPlace := by
  unfold programPlace
  split
  · exact .deeper
      (.deeper
        (.deeper
          (.child (show Name.text "Electron.app" ≠ .text "" by decide))
          (show Name.text "Contents" ≠ .text "" by decide))
        (show Name.text "MacOS" ≠ .text "" by decide))
      (show Name.text "Electron" ≠ .text "" by decide)
  · exact .child (show Name.text "electron.exe" ≠ .text "" by decide)
  · exact .child (show Name.text "electron" ≠ .text "" by decide)

/-- No program is shown in a directory that shows nothing. -/
theorem run_program?_of_showsNothing
    (shows : host.ShowsNothing electron.directory) :
    host.run electron.program? = (none, host) := by
  refine Host.run_unlessMarked shows fun path member => ?_
  obtain rfl := List.mem_singleton.mp member
  exact electron.isBelow_programPlace

/-- No script of a package manager is shown in a directory that shows nothing. -/
theorem run_yarnScript?_of_showsNothing
    (shows : host.ShowsNothing electron.directory) :
    host.run electron.yarnScript? = (none, host) := by
  refine Host.run_unlessMarked shows fun path member => ?_
  obtain rfl := List.mem_singleton.mp member
  exact .child (show Name.text "yarn.js" ≠ .text "" by decide)

end StoredElectron

namespace NodePlace

/-- The directory in the storage that a runtime is kept in, if it is kept there. -/
def directory? : NodePlace → Option Path
  | .found .. => none
  | .stored kept => some kept.directory
  | .electron kept => some kept.directory

end NodePlace

/-- A host shows nothing of any runtime that is kept in a directory. -/
structure Host.Hides (host : Host) (directory : Path) : Prop where
  program :
    ∀ runtime : NodeRuntime,
      runtime.place.directory? = some directory →
      (host.run runtime.program?).1 = none
  npmScript :
    ∀ node : StoredNode,
      node.directory = directory →
      (host.run node.npmScript?).1 = none
  yarnScript :
    ∀ electron : StoredElectron,
      electron.directory = directory →
      (host.run electron.yarnScript?).1 = none
  packageManager :
    ∀ runtime : NodeRuntime,
      runtime.place.directory? = some directory →
      (host.run runtime.packageManager?).1 = none
  leadingPaths :
    ∀ runtime : NodeRuntime,
      runtime.place.directory? = some directory →
      (host.run runtime.leadingPaths).1 = []
  checkPrograms :
    ∀ runtime : NodeRuntime,
      runtime.place.directory? = some directory →
      (host.run runtime.checkPrograms.run).1 =
        .error (.missingProgram NodeRuntime.programName)

/-- A directory that shows nothing hides every runtime. -/
theorem Host.hides_of_showsNothing
    {host : Host}
    {directory : Path}
    (shows : host.ShowsNothing directory) :
    host.Hides directory := by
  have program
      (runtime : NodeRuntime)
      (isPlace : runtime.place.directory? = some directory) :
      host.run runtime.program? = (none, host) := by
    obtain ⟨place, version?⟩ := runtime
    cases place with
    | found node npm => simp [NodePlace.directory?] at isPlace
    | stored node =>
        obtain rfl := Option.some.inj isPlace
        exact StoredNode.run_program?_of_showsNothing shows
    | electron electron =>
        obtain rfl := Option.some.inj isPlace
        exact StoredElectron.run_program?_of_showsNothing shows
  have scripted
      {programs scripts : Plan (Option Path)}
      (runs : host.run programs = (none, host)) :
      (host.run (NodeRuntime.scripted programs scripts)).1 = none := by
    rw [NodeRuntime.scripted, host.run_bind runs]
    rfl
  constructor
  case program =>
    intro runtime isPlace
    rw [program runtime isPlace]
  case npmScript =>
    rintro node rfl
    rw [StoredNode.run_npmScript?_of_showsNothing shows]
  case yarnScript =>
    rintro electron rfl
    rw [StoredElectron.run_yarnScript?_of_showsNothing shows]
  case packageManager =>
    intro runtime isPlace
    obtain ⟨place, version?⟩ := runtime
    cases place with
    | found node npm => simp [NodePlace.directory?] at isPlace
    | stored node =>
        obtain rfl := Option.some.inj isPlace
        exact scripted (StoredNode.run_program?_of_showsNothing shows)
    | electron electron =>
        obtain rfl := Option.some.inj isPlace
        exact scripted (StoredElectron.run_program?_of_showsNothing shows)
  case leadingPaths =>
    intro runtime isPlace
    obtain ⟨place, version?⟩ := runtime
    cases place with
    | found node npm => simp [NodePlace.directory?] at isPlace
    | stored node =>
        obtain rfl := Option.some.inj isPlace
        exact congrArg Prod.fst
          (StoredNode.run_leadingPaths_of_showsNothing shows)
    | electron electron => rfl
  case checkPrograms =>
    intro runtime isPlace
    rw [NodeRuntime.checkPrograms_run,
      host.run_bind (program runtime isPlace)]
    rfl

end Provision

namespace Provision

/-!
# Installations that are not finished

An installation may stop at any point, with a fault or because its process ends.  Nothing of what it has
left is shown then: from the moment that the mark is made until it is removed, a runtime in the same
directory has no program and no package manager.
-/

open Plan

namespace NodeRuntime

variable {workingDirectory : Location}
variable {children : Disk.Children}
variable {directory : Path}
variable {runtime : NodeRuntime}

/-- A runtime is installed in its directory under a mark. -/
theorem ensures_install
    {trace : Trace Disk}
    (isPlace : runtime.place.directory? = some directory)
    (isFirst : trace.past = [])
    (standing : trace.state.Standing (directory.start workingDirectory))
    (arePlain : ∀ name ∈ workingDirectory, name.isPlain = true)
    (unzips : Disk.UnzipsBeside workingDirectory children directory) :
    Ensures
      (tracing (Disk.AnswersInstall workingDirectory children directory))
      (fun later => later.IsCovered workingDirectory directory)
      (ending
        (fun _ last =>
          last.state.IsGone workingDirectory (directory.within .installing))
        (fun _ _ => True))
      runtime.install.run trace := by
  obtain ⟨place, version?⟩ := runtime
  cases place with
  | found node npm => simp [NodePlace.directory?] at isPlace
  | stored node =>
      obtain rfl := Option.some.inj isPlace
      exact StoredNode.ensures_install isFirst standing arePlain
  | electron electron =>
      obtain rfl := Option.some.inj isPlace
      exact StoredElectron.ensures_install isFirst standing arePlain unzips

/-- A location starts standing if a working directory stands. -/
theorem standing_start
    {disk : Disk}
    (standing : disk.Standing workingDirectory) :
    disk.Standing (directory.start workingDirectory) := by
  unfold Path.start
  split
  · exact Disk.standing_root
  · exact standing

/--
Whatever an installation is answered and wherever it stops, nothing in its directory is shown from the
moment that the mark was made until it is removed; and an installation that succeeds leaves no mark.
-/
theorem unfinished_install_is_hidden
    {start : Disk}
    {last : Trace Disk}
    {outcome? : Option (Except RuntimeFault Unit)}
    (isPlace : runtime.place.directory? = some directory)
    (arePlain : ∀ name ∈ workingDirectory, name.isPlain = true)
    (standing : start.Standing workingDirectory)
    (unzips : Disk.UnzipsBeside workingDirectory children directory)
    (run :
      Runs
        (tracing (Disk.AnswersInstall workingDirectory children directory))
        runtime.install.run ⟨start, []⟩ last outcome?) :
    (last.MarkMade directory →
      ¬last.MarkRemoved directory →
      ∀ host : Host,
        host.disk = last.state →
        host.workingDirectory = workingDirectory →
        host.Hides directory) ∧
    (outcome? = some (.ok ()) →
      last.state.IsGone workingDirectory (directory.within .installing)) := by
  have noneMade :
      (⟨start, []⟩ : Trace Disk).IsCovered workingDirectory directory := by
    rintro ⟨after, member⟩
    simp at member
  obtain ⟨isCovered, isEnded⟩ :=
    Ensures.of_runs run
      (ensures_install isPlace rfl (standing_start standing) arePlain unzips)
      noneMade
  constructor
  · rintro isMade notRemoved host isDisk rfl
    obtain ⟨isUsable, removed | marks⟩ := isCovered isMade
    · exact absurd removed notRemoved
    · rw [← isDisk] at marks
      exact Host.hides_of_showsNothing
        (Host.showsNothing_of_marks marks isUsable)
  · exact fun isOk => isEnded _ isOk

/-! ## A release that is installed again -/

/-- A release in a directory at the root. -/
def keptNode : StoredNode where
  directory := "/r"
  release := {}
  platform := ⟨.linux, .x64⟩

/-- A disk with the program of the release. -/
def keptDisk : Disk :=
  ⟨[
    ([], .directory 0o755),
    ([.text "r"], .directory 0o755),
    ([.text "r", .text "node"], .directory 0o755),
    ([.text "r", .text "node", .text "bin"], .directory 0o755),
    ([.text "r", .text "node", .text "bin", .text "node"],
      .file { mode := 0o755, content := [] })]⟩

/-- The disk once the mark was made. -/
def markedDisk : Disk :=
  keptDisk.set [.text "r", .text ".installing"]
    (.file { mode := 0o644, content := [] })

/-- A host with a disk and little more. -/
def hostOf (disk : Disk) : Host where
  disk := disk
  web := { base := "", isOnline := false }
  environment := []
  workingDirectory := []

/-- The trace of an installation that stops once the mark was made. -/
def markedTrace : Trace Disk where
  state := markedDisk
  past := [
    ⟨.makeDirectory "/r",
      (.error (.refused .exists) : Except DiskFault Unit), keptDisk⟩,
    ⟨.status "/r", (.ok ⟨.directory, 0o755⟩ : Except DiskFault Disk.Status),
      keptDisk⟩,
    ⟨.appendFile keptNode.marker [], (.ok () : Except DiskFault Unit),
      markedDisk⟩]

/-- An installation of the release by a process that starts no other one. -/
abbrev keptStepping : Stepping (Trace Disk) :=
  tracing (Disk.AnswersInstall [] (fun _ _ _ _ => False) keptNode.directory)

/-- The trace is that of a run. -/
theorem runs_markedTrace :
    Runs keptStepping keptNode.install.run ⟨keptDisk, []⟩ markedTrace none := by
  have isThere :
      keptStepping (.makeDirectory "/r") ⟨keptDisk, []⟩
        (.error (.refused .exists) : Except DiskFault Unit)
        ⟨keptDisk, markedTrace.past.take 1⟩ :=
    ⟨⟨.refused (by decide +kernel), trivial⟩, rfl⟩
  have tells :
      Disk.Tells (keptDisk.status [] true "/r") (.ok ⟨.directory, 0o755⟩) := by
    have isStatus :
        keptDisk.status [] true "/r" = .ok ⟨.directory, 0o755⟩ := by
      decide +kernel
    exact isStatus ▸ .told
  have isDirectory :
      keptStepping (.status "/r") ⟨keptDisk, markedTrace.past.take 1⟩
        (.ok ⟨.directory, 0o755⟩ : Except DiskFault Disk.Status)
        ⟨keptDisk, markedTrace.past.take 2⟩ :=
    ⟨⟨⟨tells, rfl⟩, trivial⟩, rfl⟩
  have isMade :
      keptStepping (.appendFile keptNode.marker [])
        ⟨keptDisk, markedTrace.past.take 2⟩
        (.ok () : Except DiskFault Unit) markedTrace :=
    ⟨⟨.done (by decide +kernel), fun _ _ => ⟨0o644, by decide +kernel⟩⟩, rfl⟩
  exact .act isThere (.act isDirectory (.act isMade (.stopped _ _)))

/-- The program that was shown before the mark was made is hidden once it is. -/
theorem kept_program_is_hidden :
    ((hostOf keptDisk).run keptNode.program?).1 =
        some (keptNode.content / "bin" / "node") ∧
      (hostOf markedDisk).Hides keptNode.directory := by
  have isShown :
      ((hostOf keptDisk).run keptNode.program?).1 =
        some (keptNode.content / "bin" / "node") := by
    decide +kernel
  have isMade : markedTrace.MarkMade keptNode.directory :=
    ⟨markedDisk, .tail _ (.tail _ (.head _))⟩
  have notRemoved : ¬markedTrace.MarkRemoved keptNode.directory := by
    rintro ⟨after, member⟩
    have isAsked := List.mem_map_of_mem (f := Asked.action) member
    simp [markedTrace] at isAsked
  have unzips :
      Disk.UnzipsBeside [] (fun _ _ _ _ => False) keptNode.directory :=
    ⟨fun _ _ _ _ spawns => spawns.elim,
      fun _ _ _ _ _ _ _ _ spawns => spawns.elim⟩
  have run :
      Runs keptStepping
        (NodeRuntime.install { place := .stored keptNode }).run
        ⟨keptDisk, []⟩ markedTrace none :=
    runs_markedTrace
  have hidden :=
    (unfinished_install_is_hidden rfl (by simp) Disk.standing_root unzips
      run).1 isMade notRemoved
  exact ⟨isShown, hidden (hostOf markedDisk) rfl rfl⟩

/-! ## A mark that is a link -/

/-- A disk where a link to the place of the archive stands in place of the mark. -/
def linkedDisk : Disk :=
  (keptDisk.set [.text "r", .text "cache"] (.directory 0o755)).set
    [.text "r", .text ".installing"]
    (.link "cache/node-v22.18.0-linux-x64.tar.gz")

/--
A mark that was made through a link goes when the archive is discarded: the installation made it and
failed, and the program from before is shown.
-/
theorem linked_mark_hides_nothing :
    ((hostOf linkedDisk).run (Files.createMarker keptNode.marker).run).1 =
        .ok () ∧
      ((hostOf linkedDisk).run keptNode.install.run).1 =
        .error
          (.storage
            (.badArchive
              (keptNode.cache / "node-v22.18.0-linux-x64.tar.gz")
              "damaged archive")) ∧
      (((hostOf linkedDisk).run keptNode.install.run).2.run
          keptNode.program?).1 =
        some (keptNode.content / "bin" / "node") := by
  refine ⟨?_, ?_, ?_⟩
  · decide +kernel
  · decide +kernel
  · decide +kernel

end NodeRuntime

end Provision
