import Provision.Proofs.Storage.Overwriting
import Provision.Proofs.Text.Words
import Provision.Proofs.Venv.Staleness
import Provision.Venv.Pip

namespace Provision

/-!
# Traces of an installation with pip

An environment that pip fills tells by two traces whether it is current: a copy of the requirements, and the
version of the interpreter.  After an installation both say what a check compares them with, if no process
touches them on the way.
-/

open Plan

/-- What a command answers has no blanks around it. -/
theorem Command.trimmed_of_ends
    {State : Type}
    {step : Stepping State}
    {state last : State}
    {command : Command}
    {output : String}
    (ends : Ends step command.run.run state (.ok output) last) :
    Text.trimmed output = output := by
  have isTrimmed (bytes : Bytes) :
      Text.trimmed (decode bytes) = decode bytes := by
    rw [Text.trimmed, decode, String.toList_ofList, Text.trim_trim]
  obtain ⟨_, _, result, -, -, isOutcome⟩ := ends_command_iff.mp ends
  unfold outcome at isOutcome
  dsimp only at isOutcome
  split at isOutcome
  · obtain rfl := Except.ok.inj isOutcome
    split
    · exact isTrimmed result.errors
    · exact isTrimmed result.output
  · simp at isOutcome

/--
A resource that is copied to a name that is no link afterwards is found there with the content that the resource
has then.
-/
theorem Resources.ends_copyFile_unlinked
    {resources : Resources}
    {path : String}
    {workingDirectory : Location}
    {children : Disk.Children}
    {step : Stepping Disk}
    {disk last : Disk}
    {directory : Path}
    {name : Name}
    (answersBy : Disk.AnswersBy workingDirectory children step)
    (isPlain : name.isPlain = true)
    (notLink : last.LacksLink workingDirectory (directory.child name))
    (ends :
      Ends step (resources.copyFile path (directory.child name)).run disk
        (.ok ()) last) :
    ∃ content location file,
      resources.content? workingDirectory last path = some content ∧
        last.entryAt workingDirectory false (directory.child name) =
            .ok (location, .file file) ∧
          (Entry.file file).allows .read = true ∧
            file.content = content := by
  unfold copyFile at ends
  obtain ⟨place, _, finds, stores⟩ := ends_bindProcedure_iff.mp ends
  obtain ⟨resolves, rfl⟩ := ends_existing answersBy finds
  obtain ⟨_, made, -, copies⟩ :=
    ends_bindProcedure_iff.mp (ends_adapt_iff.mp stores)
  have answers :=
    answersBy _ _ _ _ (ends_ask_iff.mp (ends_attempt_iff.mp copies))
  cases answers with
  | done isDone =>
      have wasNoLink :=
        notLink.of_later isPlain (Disk.stays_copyFile isDone)
      obtain ⟨content, _, _, reads, -, file, isFound, mayRead, isContent⟩ :=
        Disk.findsFile_of_copyFile isPlain wasNoLink isDone
      exact ⟨content, _, file,
        content?_eq_some_iff.mpr ⟨place, resolves, reads⟩,
        Disk.entryAt_of_unlinked isPlain notLink isFound, mayRead, isContent⟩

theorem Files.readText?_asksOnly (path : Path) :
    (readText? path).run.AsksOnly Action.looks := by
  have triesToRead : (tryReadText path).AsksOnly Action.looks := by
    refine .bind (.ask rfl) fun reply => ?_
    cases reply with
    | error fault => exact .done _
    | ok bytes =>
        dsimp only
        split <;> exact .done _
  refine AsksOnly.attempt (triesToRead.bind fun outcome => ?_) _
  cases outcome with
  | ok text => exact .done _
  | error fault =>
      dsimp only
      split <;> exact .done _

namespace PipEnvironment

/-! ## The steps of an installation -/

/-- Discard what is there, make the environment, and copy the requirements. -/
def stock (environment : PipEnvironment) : Serving Unit := do
  (Files.discardTree environment.directory : Plan Unit)
  let _ ← Serving.running environment.makeCommand
  environment.resources.copyFile environment.requirements
    environment.storedRequirements

/-- Let the package manager fill the environment, and note the version of the interpreter. -/
def fill (environment : PipEnvironment) : Serving Unit := do
  let _ ← Serving.running environment.fillCommand
  let version ← environment.pythonVersion
  Serving.storing (Files.writeText environment.versionMark version)

/-- An environment is installed by stocking and then filling it. -/
theorem install_eq (environment : PipEnvironment) :
    environment.install = environment.stock >>= fun _ => environment.fill := by
  simp [install, stock, fill]

theorem storedRequirements_eq (environment : PipEnvironment) :
    environment.storedRequirements =
      environment.directory.child (.text requirementsName) := by
  have isName :
      Path.ofString requirementsName = ⟨.text requirementsName, []⟩ := by
    decide +kernel
  exact congrArg environment.directory.join isName

/-- The temporary file of the version mark. -/
def temporaryMark (environment : PipEnvironment) (processId : Nat) : Path :=
  environment.versionMark.withFileName
    (.text (Files.temporaryName environment.versionMark processId))

/-- The copy of the requirements, the version mark, and the temporary files of that. -/
inductive IsTrace (environment : PipEnvironment) : Path → Prop where
  | requirements : IsTrace environment environment.storedRequirements
  | version : IsTrace environment environment.versionMark
  | temporary
      (processId : Nat) :
      IsTrace environment (environment.temporaryMark processId)

/-- A process has left a tree and the traces in it alone. -/
structure LeavesTraces
    (environment : PipEnvironment)
    (workingDirectory : Location)
    (disk later : Disk) :
    Prop where
  isTree : disk.IsTree → later.IsTree
  isSame :
    ∀ path,
      environment.IsTrace path →
      later.entryAt workingDirectory false path =
        disk.entryAt workingDirectory false path

/-- The traces are no links, and nothing stands where the version mark is written first. -/
structure HasPlainTraces
    (environment : PipEnvironment)
    (workingDirectory : Location)
    (disk : Disk) :
    Prop where
  isTree : disk.IsTree
  noLinks :
    ∀ path,
      environment.IsTrace path → disk.LacksLink workingDirectory path
  noTemporary :
    ∀ processId found,
      disk.entryAt workingDirectory false
          (environment.temporaryMark processId) ≠
        .ok found

/--
The processes of an installation are stable: the interpreter tells one version, the package manager stays the
file that it is, and the traces are left alone.
-/
structure IsStable
    (environment : PipEnvironment)
    (workingDirectory : Location)
    (step : Stepping Disk)
    (version : String) :
    Prop where
  fills :
    ∀ disk output last,
      Ends step (Serving.running environment.fillCommand).run disk
          (.ok output) last →
      environment.LeavesTraces workingDirectory disk last ∧
        ∃ mode,
          last.status workingDirectory true environment.pip =
            .ok ⟨.file, mode⟩
  tells :
    ∀ disk text last,
      Ends step environment.pythonVersion.run disk (.ok text) last →
      text = version ∧
        environment.LeavesTraces workingDirectory disk last ∧
          last.status workingDirectory true environment.pip =
            disk.status workingDirectory true environment.pip

variable {environment : PipEnvironment}
variable {workingDirectory : Location}
variable {disk middle later : Disk}

theorem LeavesTraces.refl (disk : Disk) :
    environment.LeavesTraces workingDirectory disk disk :=
  ⟨id, fun _ _ => rfl⟩

theorem LeavesTraces.trans
    (leaves : environment.LeavesTraces workingDirectory disk middle)
    (again : environment.LeavesTraces workingDirectory middle later) :
    environment.LeavesTraces workingDirectory disk later where
  isTree := fun tree => again.isTree (leaves.isTree tree)
  isSame := fun path isTrace =>
    (again.isSame path isTrace).trans (leaves.isSame path isTrace)

theorem HasPlainTraces.of_leaves
    (plain : environment.HasPlainTraces workingDirectory disk)
    (leaves : environment.LeavesTraces workingDirectory disk later) :
    environment.HasPlainTraces workingDirectory later where
  isTree := leaves.isTree plain.isTree
  noLinks := fun path isTrace location target finds =>
    plain.noLinks path isTrace location target
      ((leaves.isSame path isTrace).symm.trans finds)
  noTemporary := fun processId found finds =>
    plain.noTemporary processId found
      ((leaves.isSame _ (.temporary processId)).symm.trans finds)

/-- The copy of the requirements is a file that holds a content. -/
def HoldsRequirements
    (environment : PipEnvironment)
    (workingDirectory : Location)
    (disk : Disk)
    (content : Bytes) :
    Prop :=
  ∃ location file,
    disk.entryAt workingDirectory false environment.storedRequirements =
        .ok (location, .file file) ∧
      (Entry.file file).allows .read = true ∧ file.content = content

theorem HoldsRequirements.of_leaves
    {content : Bytes}
    (holds : environment.HoldsRequirements workingDirectory disk content)
    (leaves : environment.LeavesTraces workingDirectory disk later) :
    environment.HoldsRequirements workingDirectory later content := by
  obtain ⟨location, file, finds, isHeld⟩ := holds
  exact ⟨location, file,
    (leaves.isSame _ .requirements).trans finds, isHeld⟩

/-- What an installation leaves: the package manager, the version, and the requirements. -/
structure IsInstalled
    (environment : PipEnvironment)
    (workingDirectory : Location)
    (disk : Disk)
    (version : String)
    (content : Bytes) :
    Prop where
  hasPip :
    ∃ mode,
      disk.status workingDirectory true environment.pip = .ok ⟨.file, mode⟩
  readsVersion :
    disk.readFile workingDirectory environment.versionMark =
      .ok (Text.Utf8.ofString version)
  readsRequirements :
    disk.readFile workingDirectory environment.storedRequirements =
      .ok content

section

variable {children : Disk.Children}
variable {step : Stepping Disk}
variable {start copied installed : Disk}
variable {version : String}
variable {content : Bytes}
variable (answersBy : Disk.AnswersBy workingDirectory children step)

include answersBy

/-- A stocked environment has a copy of the requirements that holds what these hold. -/
theorem ends_stock
    (plain : environment.HasPlainTraces workingDirectory copied)
    (ends : Ends step environment.stock.run start (.ok ()) copied) :
    ∃ content,
      environment.resources.content? workingDirectory copied
          environment.requirements =
        some content ∧
        environment.HoldsRequirements workingDirectory copied content := by
  obtain ⟨_, discarded, -, makes⟩ := ends_bindLift_iff.mp ends
  obtain ⟨_, made, -, copies⟩ := ends_bindProcedure_iff.mp makes
  have notLink := plain.noLinks _ .requirements
  rw [storedRequirements_eq] at copies notLink
  obtain ⟨content, location, file, isContent, isHeld⟩ :=
    Resources.ends_copyFile_unlinked answersBy (by decide +kernel) notLink
      copies
  rw [← storedRequirements_eq] at isHeld
  exact ⟨content, isContent, location, file, isHeld⟩

/-- Once the version is noted in an environment with plain traces, it is installed. -/
theorem ends_note
    (plain : environment.HasPlainTraces workingDirectory disk)
    (holds : environment.HoldsRequirements workingDirectory disk content)
    (hasPip :
      ∃ mode,
        disk.status workingDirectory true environment.pip =
          .ok ⟨.file, mode⟩)
    (ends :
      Ends step (Files.writeText environment.versionMark version).run disk
        (.ok ()) later) :
    environment.IsInstalled workingDirectory later version content := by
  obtain ⟨location, file, isCopy, mayRead, isContent⟩ := holds
  rw [storedRequirements_eq] at isCopy
  obtain ⟨findsCopy, left, there, leads, isDirectory, rfl⟩ :=
    Disk.entryAt_of_itself (by decide +kernel) isCopy
  obtain ⟨puts, stays, mark⟩ :=
    Files.ends_writeAtomically_unlinked answersBy plain.isTree
      (by decide +kernel) leads isDirectory (plain.noLinks _ .version)
      plain.noTemporary ends
  have isElsewhere :
      there ++ [Name.text requirementsName] ≠
        there ++ [Name.text StorageName.pythonVersion.text] := by
    simp [requirementsName, StorageName.text]
  have copy :
      disk.FindsFile workingDirectory
        (environment.directory.child (.text requirementsName))
        (there ++ [.text requirementsName]) content :=
    ⟨file, findsCopy, mayRead, isContent⟩
  have copyNow := copy.of_stays stays (puts.isSame _ isElsewhere)
  rw [← storedRequirements_eq] at copyNow
  obtain ⟨mode, isFile⟩ := hasPip
  exact ⟨puts.exists_status stays isFile, mark.readFile, copyNow.readFile⟩

/-- Filling a stocked environment installs the version that the interpreter tells. -/
theorem ends_fill
    (stable : environment.IsStable workingDirectory step version)
    (plain : environment.HasPlainTraces workingDirectory copied)
    (holds : environment.HoldsRequirements workingDirectory copied content)
    (ends : Ends step environment.fill.run copied (.ok ()) installed) :
    environment.IsInstalled workingDirectory installed version content ∧
      Text.trimmed version = version := by
  obtain ⟨_, filled, runs, goesOn⟩ := ends_bindProcedure_iff.mp ends
  obtain ⟨text, told, asks, notes⟩ := ends_bindProcedure_iff.mp goesOn
  obtain ⟨leaves, mode, isPip⟩ := stable.fills _ _ _ runs
  obtain ⟨rfl, leavesAgain, samePip⟩ := stable.tells _ _ _ asks
  have leavesBoth := leaves.trans leavesAgain
  have isTrimmed :=
    Command.trimmed_of_ends (ends_adapt_iff.mp (ends_adapt_iff.mp asks))
  refine ⟨?_, isTrimmed⟩
  exact ends_note answersBy (plain.of_leaves leavesBoth)
    (holds.of_leaves leavesBoth) ⟨mode, samePip.trans isPip⟩
    (ends_adapt_iff.mp notes)

end

/-! ## Checking an environment -/

/-- Whether the requirements are current is found out by looking. -/
theorem hasCurrentRequirements_asksOnly (environment : PipEnvironment) :
    environment.hasCurrentRequirements.run.AsksOnly Action.looks := by
  have looksFor :
      (environment.resources.exists? environment.requirements).AsksOnly
        Action.looks := by
    unfold Resources.exists?
    split
    · exact .bind (.ask rfl) fun _ => .done _
    · exact .done _
  have reads :
      (environment.resources.readBytes environment.requirements).run.AsksOnly
        Action.looks := by
    refine .bindProcedure ?_ fun place => ?_
    · refine .bindProcedure (.done _) fun place => ?_
      refine .bindProcedure
        (.liftProcedure (.bind (.ask rfl) fun _ => .done _)) fun isThere => ?_
      split <;> exact .done _
    · exact (AsksOnly.attempt (.ask rfl) _).adaptProcedure _
  have compares (content : Bytes) :
      (Checksum.matchesFile content
        environment.storedRequirements).run.AsksOnly Action.looks := by
    refine AsksOnly.attempt (.bind (.ask rfl) fun reply => ?_) _
    cases reply with
    | ok stored => exact .done _
    | error fault =>
        dsimp only
        split <;> exact .done _
  refine .bindProcedure (.liftProcedure looksFor) fun isThere => ?_
  have goesOn :
      (do
        let source ←
          environment.resources.readBytes environment.requirements
        Serving.storing
          (Checksum.matchesFile source environment.storedRequirements) :
        Serving Bool).run.AsksOnly Action.looks :=
    reads.bindProcedure fun content => (compares content).adaptProcedure _
  cases isThere with
  | false => exact .bindProcedure (.done _) fun _ => goesOn
  | true => exact goesOn

section

variable {perform : Surroundings Host}
variable {host after : Host}
variable {version : String}
variable {content : Bytes}
variable
  (asHost :
    ∀ action host,
      action.looks = true →
      perform action host = Host.perform action host)

/-- The requirements of a host are current if the copy holds what they hold. -/
theorem ends_hasCurrentRequirements
    (isContent :
      environment.resources.content? host.workingDirectory host.disk
          environment.requirements =
        some content)
    (reads :
      host.disk.readFile host.workingDirectory
          environment.storedRequirements =
        .ok content) :
    Ends (answersOf Host.perform) environment.hasCurrentRequirements.run host
      (.ok true) host := by
  have isThere := Resources.isThere_of_content isContent
  unfold hasCurrentRequirements
  refine ends_bindLift_iff.mpr ⟨true, host, ?_, ?_⟩
  · rw [ends_answersOf_iff, Resources.run_exists?, isThere]
  · refine ends_bindProcedure_iff.mpr ⟨content, host, ?_, ?_⟩
    · rw [ends_answersOf_iff, Resources.run_readBytes_of_content isContent]
    · exact ends_adapt_iff.mpr
        (Checksum.ends_matchesFile_iff.mpr
          ⟨rfl, Or.inl ⟨content, reads, (decide_eq_true rfl).symm⟩⟩)

include asHost

/-- An installed environment is current as long as the interpreter tells the version that is noted there. -/
theorem run_isCurrent
    (installed :
      environment.IsInstalled host.workingDirectory host.disk version
        content)
    (isTrimmed : Text.trimmed version = version)
    (tells :
      environment.pythonVersion.run.run perform host = (.ok version, after))
    (isContent :
      environment.resources.content? after.workingDirectory after.disk
          environment.requirements =
        some content)
    (reads :
      after.disk.readFile after.workingDirectory
          environment.storedRequirements =
        .ok content) :
    environment.isCurrent.run.run perform host = (.ok true, after) := by
  obtain ⟨mode, isPip⟩ := installed.hasPip
  have hasPip :
      Ends (answersOf perform) (Files.isFile environment.pip) host true
        host := by
    refine ends_bind_iff.mpr
      ⟨.ok ⟨.file, mode⟩, host, ends_ask_iff.mpr ?_,
        ends_pure_iff.mpr ⟨rfl, rfl⟩⟩
    exact (asHost _ _ rfl).trans (Prod.ext isPip rfl)
  have readsMark :
      (Files.readText? environment.versionMark).run.run perform host =
        (.ok (some version), host) := by
    rw [(Files.readText?_asksOnly _).run_congr asHost,
      ← ends_answersOf_iff]
    exact Files.ends_readText? installed.readsVersion
  have isSame :
      environment.hasCurrentRequirements.run.run perform after =
        (.ok true, after) := by
    rw [environment.hasCurrentRequirements_asksOnly.run_congr asHost,
      ← ends_answersOf_iff]
    exact ends_hasCurrentRequirements isContent reads
  -- The interpreter is asked between two looks at the disk, so that the second one is of what it leaves.
  rw [← ends_answersOf_iff] at *
  unfold isCurrent
  refine ends_bindLift_iff.mpr ⟨true, host, hasPip, ?_⟩
  refine ends_bindProcedure_iff.mpr
    ⟨some version, host, ends_adapt_iff.mpr readsMark, ?_⟩
  refine ends_bindProcedure_iff.mpr ⟨version, after, tells, ?_⟩
  rw [Option.map_some, isTrimmed, if_pos rfl]
  exact isSame

end

/-! ## From an installation on -/

/-- An environment stays as it was installed, and its package has the requirements that were copied. -/
structure StaysInstalled
    (environment : PipEnvironment)
    (workingDirectory : Location)
    (copied installed now : Disk) :
    Prop where
  samePip :
    now.status workingDirectory true environment.pip =
      installed.status workingDirectory true environment.pip
  sameVersion :
    now.readFile workingDirectory environment.versionMark =
      installed.readFile workingDirectory environment.versionMark
  sameCopy :
    now.readFile workingDirectory environment.storedRequirements =
      installed.readFile workingDirectory environment.storedRequirements
  sameRequirements :
    environment.resources.content? workingDirectory now
        environment.requirements =
      environment.resources.content? workingDirectory copied
        environment.requirements

theorem StaysInstalled.isInstalled
    {copied installed now : Disk}
    {version : String}
    {content : Bytes}
    (stays :
      environment.StaysInstalled workingDirectory copied installed now)
    (isInstalled :
      environment.IsInstalled workingDirectory installed version content) :
    environment.IsInstalled workingDirectory now version content where
  hasPip := isInstalled.hasPip.imp fun _ => stays.samePip.trans
  readsVersion := stays.sameVersion.trans isInstalled.readsVersion
  readsRequirements := stays.sameCopy.trans isInstalled.readsRequirements

/--
An environment is found current wherever the interpreter tells a version and everything else that a check looks
at is as it was installed.
-/
def RemainsCurrent
    (environment : PipEnvironment)
    (workingDirectory : Location)
    (version : String)
    (copied installed : Disk) :
    Prop :=
  ∀ (perform : Surroundings Host) (host after : Host),
    (∀ action host,
      action.looks = true →
      perform action host = Host.perform action host) →
    host.workingDirectory = workingDirectory →
    after.workingDirectory = workingDirectory →
    environment.StaysInstalled workingDirectory copied installed host.disk →
    environment.StaysInstalled workingDirectory copied installed
      after.disk →
    environment.pythonVersion.run.run perform host = (.ok version, after) →
    environment.isCurrent.run.run perform host = (.ok true, after)

/-- Once an environment has been installed with plain traces, it remains current. -/
theorem ends_install
    {children : Disk.Children}
    {step : Stepping Disk}
    {start installed : Disk}
    {version : String}
    (answersBy : Disk.AnswersBy workingDirectory children step)
    (stable : environment.IsStable workingDirectory step version)
    (plain :
      ∀ copied,
        Ends step environment.stock.run start (.ok ()) copied →
        environment.HasPlainTraces workingDirectory copied)
    (installs :
      Ends step environment.install.run start (.ok ()) installed) :
    ∃ copied,
      Ends step environment.stock.run start (.ok ()) copied ∧
        Ends step environment.fill.run copied (.ok ()) installed ∧
          environment.RemainsCurrent workingDirectory version copied
            installed := by
  rw [install_eq] at installs
  obtain ⟨_, copied, stocks, fills⟩ := ends_bindProcedure_iff.mp installs
  have plain := plain copied stocks
  obtain ⟨content, isContent, holds⟩ := ends_stock answersBy plain stocks
  obtain ⟨isInstalled, isTrimmed⟩ :=
    ends_fill answersBy stable plain holds fills
  refine ⟨copied, stocks, fills, ?_⟩
  rintro perform host after asHost rfl isSamePlace stays staysAfter tells
  have isInstalledAfter := staysAfter.isInstalled isInstalled
  have isContentAfter := staysAfter.sameRequirements.trans isContent
  rw [← isSamePlace] at isInstalledAfter isContentAfter
  exact run_isCurrent asHost (stays.isInstalled isInstalled) isTrimmed tells
    isContentAfter isInstalledAfter.readsRequirements

end PipEnvironment

end Provision
