import Provision.Proofs.Venv.Traces

namespace Provision

/-!
# Environments that stay current

Once an environment has been installed, it is current as long as everything stays that an installation goes by:
the version of the interpreter, for pip, and the manifests of the package.
-/

open Plan

namespace Resources

variable {resources : Resources}
variable {workingDirectory : Location}
variable {path : String}
variable {disk later : Disk}

/-- What is read where something is there is read on a disk with more. -/
theorem readFile_of_within
    {place : Path}
    (within : disk.Within later)
    (isThere : (disk.status workingDirectory true place).isOk = true) :
    later.readFile workingDirectory place =
      disk.readFile workingDirectory place := by
  cases finds : disk.entryAt workingDirectory true place with
  | error fault =>
      rw [Disk.status, finds] at isThere
      simp [Except.map, Except.isOk, Except.toBool] at isThere
  | ok found =>
      have findsLater := Disk.entryAt_mono finds within
      rw [Disk.readFile, Disk.readFile, finds, findsLater]

/-- A resource that is there on a disk is there on a disk with more, and holds the same. -/
theorem content?_of_within
    (within : disk.Within later)
    (isThere : resources.isThere workingDirectory disk path = true) :
    resources.isThere workingDirectory later path = true ∧
      resources.content? workingDirectory later path =
        resources.content? workingDirectory disk path := by
  unfold Resources.isThere at isThere ⊢
  unfold content?
  cases resolves : resources.resolve path with
  | error fault => simp [resolves] at isThere
  | ok place =>
      rw [resolves] at isThere
      dsimp only at isThere ⊢
      refine ⟨?_, by rw [readFile_of_within within isThere]⟩
      cases finds : disk.entryAt workingDirectory true place with
      | error fault =>
          rw [Disk.status, finds] at isThere
          simp [Except.map, Except.isOk, Except.toBool] at isThere
      | ok found =>
          rw [Disk.status, Disk.entryAt_mono finds within]
          rfl

end Resources

namespace UvProject

variable {project after : UvProject}
variable {workingDirectory : Location}

/-! ## Copies that are made anew -/

section

variable {children : Disk.Children}
variable {step : Stepping Disk}
variable {disk last : Disk}
variable {directory : Path}
variable {resources : Resources}
variable (answersBy : Disk.AnswersBy workingDirectory children step)
variable
  (tells :
    ∀ path disk reply after,
      step (.status path) disk reply after →
      reply = disk.status workingDirectory true path)

include answersBy tells

/-- Whether a resource is there is told as it is. -/
theorem ends_exists
    {path : String}
    {isThere : Bool}
    (ends : Ends step (resources.exists? path) disk isThere last) :
    isThere = resources.isThere workingDirectory disk path ∧
      last = disk := by
  refine ⟨?_, Resources.ends_exists answersBy ends⟩
  unfold Resources.exists? at ends
  unfold Resources.isThere
  split at ends
  · rename_i place resolves
    obtain ⟨reply, _, asks, told⟩ := ends_bind_iff.mp ends
    obtain ⟨rfl, -⟩ := ends_pure_iff.mp told
    rw [resolves, tells _ _ _ _ (ends_ask_iff.mp asks)]
  · rename_i fault resolves
    rw [resolves]
    exact (ends_pure_iff.mp ends).1

/--
Every manifest that is there when the copies are made anew is copied as it is, and nothing on the disk is
changed.
-/
theorem ends_copySources_anew
    {items : List (String × Name)}
    (upFirst : directory.UpFirst)
    (areDifferent : (items.map Prod.snd).Nodup)
    (ready : disk.ReadyFor workingDirectory directory (items.map Prod.snd))
    (ends :
      Ends step
        (copySources resources
          (items.map fun item => (item.1, directory.child item.2))).run
        disk (.ok ()) last) :
    disk.Within last ∧
      ∀ item ∈ items,
        resources.isThere workingDirectory disk item.1 = true →
        ∃ content,
          resources.content? workingDirectory disk item.1 = some content ∧
            last.readFile workingDirectory (directory.child item.2) =
              .ok content := by
  induction items generalizing disk with
  | nil =>
      obtain ⟨-, rfl⟩ := ends_pure_iff.mp ends
      exact ⟨.refl last, by simp⟩
  | cons item rest inductionHypothesis =>
      obtain ⟨isNew, areDifferent⟩ := List.nodup_cons.mp areDifferent
      rw [List.map_cons, copySources] at ends
      obtain ⟨isThere, now, looks, goesOn⟩ := ends_bindLift_iff.mp ends
      obtain ⟨isTold, rfl⟩ := ends_exists answersBy tells looks
      cases isThere with
      | false =>
          obtain ⟨within, areCopied⟩ :=
            inductionHypothesis areDifferent ready.tail goesOn
          refine ⟨within, fun other member isThere => ?_⟩
          rcases List.mem_cons.mp member with rfl | inRest
          · simp [← isTold] at isThere
          · exact areCopied other inRest isThere
      | true =>
          obtain ⟨_, middle, copies, copiesOn⟩ :=
            ends_bindProcedure_iff.mp goesOn
          obtain ⟨tree, stay, made, content, -, withinMade, withinMiddle,
              isContent, reads⟩ :=
            Resources.ends_copyFile_within answersBy ready.isTree upFirst
              (ready.arePlain item.2 (.head _)) (ready.lacks item.2 (.head _))
              copies
          have within := withinMade.trans withinMiddle
          -- The copy that was made is none of the others, so that the rest is ready as before.
          obtain ⟨withinLast, areCopied⟩ :=
            inductionHypothesis areDifferent
              (ready.tail.of_within tree within fun other inRest =>
                stay other fun isItem => isNew (isItem ▸ inRest))
              copiesOn
          refine ⟨within.trans withinLast, fun other member isThere => ?_⟩
          rcases List.mem_cons.mp member with rfl | inRest
          · have isSame :=
              (Resources.content?_of_within withinMade isThere).2
            exact ⟨content, isSame.symm.trans isContent,
              withinLast.readFile reads⟩
          · obtain ⟨isThereNow, isSame⟩ :=
              Resources.content?_of_within within isThere
            obtain ⟨held, isHeld, readsHeld⟩ :=
              areCopied other inRest isThereNow
            exact ⟨held, isSame.symm.trans isHeld, readsHeld⟩

end

/-! ## From an installation on -/

/--
What surrounds an installation is stable: what is looked up is told, the lookup of the tool and its processes
leave the copies of the manifests alone, and the tool makes the environment.
-/
structure IsStable
    (project : UvProject)
    (workingDirectory : Location)
    (step : Stepping Disk) :
    Prop where
  tells :
    ∀ path disk reply last,
      step (.status path) disk reply last →
      reply = disk.status workingDirectory true path
  locates :
    project.tool = none →
    ∀ disk tool last,
      Ends step (UvTool.locate project.layout none {}).run disk (.ok tool)
          last →
      project.SameCopies workingDirectory disk last
  syncs :
    ∀ (tool : UvTool) disk output last,
      Ends step (tool.run ["sync"] project.storage).run disk (.ok output)
          last →
      project.SameCopies workingDirectory disk last ∧
        ∃ mode,
          last.status workingDirectory true project.environment =
            .ok ⟨.directory, mode⟩

/--
An environment and the copies stay as they were installed, and every manifest that the package has is one that it
had then, and holds the same.
-/
structure StaysInstalled
    (project : UvProject)
    (workingDirectory : Location)
    (cleared installed now : Disk) :
    Prop where
  sameEnvironment :
    now.status workingDirectory true project.environment =
      installed.status workingDirectory true project.environment
  sameCopies : project.SameCopies workingDirectory installed now
  sameManifests :
    ∀ source ∈ project.sources,
      project.resources.isThere workingDirectory now source.1 = true →
      project.resources.isThere workingDirectory cleared source.1 = true ∧
        project.resources.content? workingDirectory now source.1 =
          project.resources.content? workingDirectory cleared source.1

/-- A project is found current, with any tool, wherever everything that a check looks at is as it was installed. -/
def RemainsCurrent
    (project : UvProject)
    (workingDirectory : Location)
    (cleared installed : Disk) :
    Prop :=
  ∀ (host : Host) (other : UvProject),
    host.workingDirectory = workingDirectory →
    other = { project with tool := other.tool } →
    project.StaysInstalled workingDirectory cleared installed host.disk →
    host.run other.isCurrent.run = (.ok true, host)

/-- Copies are current if every manifest that is there has a copy that holds the same. -/
theorem areCurrent_eq_true
    {resources : Resources}
    {host : Host}
    {sources : List (String × Path)}
    (areCopied :
      ∀ source ∈ sources,
        resources.isThere host.workingDirectory host.disk source.1 = true →
        ∃ content,
          resources.content? host.workingDirectory host.disk source.1 =
              some content ∧
            host.disk.readFile host.workingDirectory source.2 =
              .ok content) :
    Ends (answersOf Host.perform) (areCurrent resources sources).run host
      (.ok true) host := by
  induction sources with
  | nil => exact ends_pure_iff.mpr ⟨rfl, rfl⟩
  | cons first others inductionHypothesis =>
      have goesOn :=
        inductionHypothesis fun source member =>
          areCopied source (.tail _ member)
      cases isFirst :
          resources.isThere host.workingDirectory host.disk first.1 with
      | false => exact (ends_areCurrent_of_not_isThere isFirst).mpr goesOn
      | true =>
          obtain ⟨content, isContent, reads⟩ :=
            areCopied first (.head _) isFirst
          refine (ends_areCurrent_of_isThere isFirst).mpr
            ⟨content, true, isContent, ?_, goesOn⟩
          exact Checksum.ends_matchesFile_iff.mpr
            ⟨rfl, Or.inl ⟨content, reads, (decide_eq_true rfl).symm⟩⟩

/-- Once a project has been installed in a storage that is not left again on the way, it remains current. -/
theorem ends_install_anew
    {children : Disk.Children}
    {step : Stepping Disk}
    {start installed : Disk}
    (answersBy : Disk.AnswersBy workingDirectory children step)
    (stable : project.IsStable workingDirectory step)
    (tree : start.IsTree)
    (upFirst : project.storage.UpFirst)
    (installs :
      Ends step (install.run.run project) start (.ok (), after) installed) :
    ∃ cleared,
      Ends step project.clear.run start (.ok ()) cleared ∧
        Ends step (fill.run.run project) cleared (.ok (), after) installed ∧
          project.RemainsCurrent workingDirectory cleared installed := by
  obtain ⟨cleared, clears, fills⟩ := ends_clear_of_install installs
  obtain ⟨prepared, tool, located, output, copies, isLocated, runs, -⟩ :=
    ends_fillSteps fills
  have ready := ends_clear answersBy tree upFirst clears
  rw [project.sources_eq_map] at copies
  obtain ⟨-, areCopied⟩ :=
    ends_copySources_anew answersBy stable.tells upFirst
      project.storedNames_arePlain.1 ready copies
  have sameLocated : project.SameCopies workingDirectory prepared located := by
    rcases isLocated with ⟨-, rfl⟩ | ⟨isUnknown, locates⟩
    · exact fun _ _ => rfl
    · exact stable.locates isUnknown _ _ _ locates
  obtain ⟨sameInstalled, mode, isDirectory⟩ := stable.syncs _ _ _ _ runs
  refine ⟨cleared, clears, fills, ?_⟩
  rintro host other rfl isOther stays
  have areCopiedNow :
      ∀ source ∈ project.sources,
        project.resources.isThere host.workingDirectory host.disk source.1 =
          true →
        ∃ content,
          project.resources.content? host.workingDirectory host.disk
              source.1 =
            some content ∧
            host.disk.readFile host.workingDirectory source.2 =
              .ok content := by
    intro source member isThere
    obtain ⟨wasThere, isSame⟩ := stays.sameManifests source member isThere
    have readsSame :=
      ((stays.sameCopies source member).trans
        (sameInstalled source member)).trans (sameLocated source member)
    rw [project.sources_eq_map] at member
    obtain ⟨item, isItem, rfl⟩ := List.mem_map.mp member
    obtain ⟨content, isContent, reads⟩ := areCopied item isItem wasThere
    exact ⟨content, isSame.trans isContent, readsSame.trans reads⟩
  have isThere :
      host.run (Files.isDirectory other.environment) = (true, host) := by
    have isStatus := stays.sameEnvironment.trans isDirectory
    rw [isOther]
    refine ends_answersOf_iff.mp (ends_bind_iff.mpr
      ⟨.ok ⟨.directory, mode⟩, host, ends_ask_iff.mpr ?_,
        ends_pure_iff.mpr ⟨rfl, rfl⟩⟩)
    exact Prod.ext isStatus rfl
  refine ends_answersOf_iff.mp (ends_isCurrent_iff.mpr ⟨true, isThere, ?_⟩)
  rw [if_pos rfl, isOther]
  exact areCurrent_eq_true areCopiedNow

end UvProject

/-- A disk whose names are all short has nothing under a temporary name. -/
theorem Files.not_entryAt_temporaryName
    {workingDirectory : Location}
    {disk : Disk}
    {directory parent : Path}
    {name : Name}
    (isPlain : name.isPlain = true)
    (isParent : (directory.child name).parent? = some parent)
    (areShort :
      ∀ item ∈ disk.entries,
        item.1.getLast?.all fun other =>
          other.display.length < name.display.length + 6)
    (processId : Nat)
    (found : Location × Entry) :
    disk.entryAt workingDirectory false
        ((directory.child name).withFileName
          (.text (temporaryName (directory.child name) processId))) ≠
      .ok found := by
  intro finds
  obtain ⟨-, -, -, notHere, notUp, -⟩ := Disk.not_special_of_isPlain isPlain
  obtain ⟨-, notHereThen, notUpThen⟩ :=
    temporaryName_isOther directory notHere notUp processId
  rw [Path.withFileName_child notHere notUp isParent] at finds
  obtain ⟨_, there, -, -, isFound⟩ :=
    Disk.exists_of_locate_child notHereThen notUpThen
      (Disk.entryAt_eq_ok_iff.mp finds)
  obtain ⟨-, stands⟩ := Disk.Found.mk.inj isFound
  have isShort := areShort _ (Disk.mem_entries_of_get? stands.symm)
  rw [List.getLast?_concat, Option.all_some, decide_eq_true_eq] at isShort
  have isLong := length_temporaryName (directory.child name) processId
  rw [Path.fileNameText, directory.fileName?_child notHere notUp] at isLong
  exact absurd isShort (Nat.not_lt.mpr isLong)

namespace Venv

/-! ## Pip and uv together -/

/--
What has been installed, by pip or for uv, is current until the version of the interpreter or a manifest changes,
or the installation itself.
-/
theorem installed_isCurrent
    {workingDirectory : Location}
    {children : Disk.Children}
    {step : Stepping Disk}
    {start installed : Disk}
    (answersBy : Disk.AnswersBy workingDirectory children step) :
    (∀ (environment : PipEnvironment) (version : String),
      environment.IsStable workingDirectory step version →
      (∀ copied,
        Ends step environment.stock.run start (.ok ()) copied →
        environment.HasPlainTraces workingDirectory copied) →
      Ends step environment.install.run start (.ok ()) installed →
      ∃ copied,
        Ends step environment.stock.run start (.ok ()) copied ∧
          Ends step environment.fill.run copied (.ok ()) installed ∧
            environment.RemainsCurrent workingDirectory version copied
              installed) ∧
      ∀ project after : UvProject,
        project.IsStable workingDirectory step →
        start.IsTree →
        project.storage.UpFirst →
        Ends step (UvProject.install.run.run project) start (.ok (), after)
          installed →
        ∃ cleared,
          Ends step project.clear.run start (.ok ()) cleared ∧
            Ends step (UvProject.fill.run.run project) cleared
                (.ok (), after) installed ∧
              project.RemainsCurrent workingDirectory cleared installed := by
  constructor
  · intro environment version stable plain installs
    exact PipEnvironment.ends_install answersBy stable plain installs
  · intro project after stable tree upFirst installs
    exact UvProject.ends_install_anew answersBy stable tree upFirst installs

/-! ## Stable processes -/

/-- What child processes do: the answer, and the disk after. -/
abbrev Processes :=
  ChildProcess → Disk → Except DiskFault ProcessOutput × Disk

/-- Surroundings in which child processes do what is given, and everything else is as on a host. -/
def withProcesses (processes : Processes) : Surroundings Host
  | .spawn child, host =>
      ((processes child host.disk).1,
        { host with disk := (processes child host.disk).2 })
  | action, host => Host.perform action host

theorem looks_withProcesses
    (processes : Processes)
    (action : Action)
    (host : Host)
    (looks : action.looks = true) :
    withProcesses processes action host = Host.perform action host := by
  cases action <;> first | rfl | simp [Action.looks] at looks

/-- What surroundings do with the disk of a host with little more. -/
def onDisk (perform : Surroundings Host) : Surroundings Disk :=
  fun action disk =>
    ((perform action (Host.ofDisk disk)).1,
      (perform action (Host.ofDisk disk)).2.disk)

/-- The surroundings of child processes answer as a disk may with these. -/
theorem answersBy_onDisk (processes : Processes) :
    Disk.AnswersBy []
      (fun child disk reply later => processes child disk = (reply, later))
      (answersOf (onDisk (withProcesses processes))) := by
  rintro action disk reply later ⟨rfl, rfl⟩
  cases action with
  | spawn child => rfl
  | _ => exact (Host.ofDisk disk).answers _ fun child isSpawn => by cases isSpawn

/-- A command that succeeds in the surroundings of child processes does so by one of these. -/
theorem exists_of_running
    {processes : Processes}
    {command : Command}
    {disk last : Disk}
    {output : String}
    (ends :
      Ends (answersOf (onDisk (withProcesses processes)))
        (Serving.running command).run disk (.ok output) last) :
    ∃ (environment : Environment) (result : ProcessOutput),
      processes (command.child environment.searchPath) disk =
          (.ok result, last) ∧
        command.outcome result = .ok output := by
  obtain ⟨environment, _, result, looks, spawns, isOutcome⟩ :=
    ends_command_iff.mp (ends_adapt_iff.mp (ends_adapt_iff.mp ends))
  obtain ⟨-, rfl⟩ := Prod.mk.inj looks
  exact ⟨environment, result, spawns, isOutcome⟩

/-- An environment beside a package with requirements. -/
def sampleEnvironment (directory : Path) : PipEnvironment where
  directory := directory
  requirements := "p/requirements.txt"
  python := "/python"
  resources := ⟨.ofString "/r"⟩

/-- A disk with a package that has requirements, and with an empty storage. -/
def requiringDisk : Disk :=
  UvProject.unlockedDisk.set [.text "r", .text "p", .text "requirements.txt"]
    (.file { mode := 0o644, content := [0x78] })

/-- A disk on which an environment with a package manager has been made. -/
def withPip (disk : Disk) : Disk :=
  [([.text "s", .text "x"], Entry.directory 0o755),
    ([.text "s", .text "e"], .directory 0o755),
    ([.text "s", .text "e", .text "bin"], .directory 0o755),
    ([.text "s", .text "e", .text "bin", .text "pip"],
      .file { mode := 0o755, content := [] })].foldl
    (fun disk item => disk.set item.1 item.2) disk

/--
An interpreter whose version takes two lines, and which makes an environment with a package manager.  That finds
everything installed.
-/
def interpreting (directory : Path) : Processes := fun child disk =>
  if child.arguments = ["--version"] then
    (.ok ⟨.exited 0, [0x33, 0x0a, 0x31, 0x0a], []⟩, disk)
  else if child.arguments.head? = some "-m" then
    (.ok ⟨.exited 0, [], []⟩, withPip disk)
  else if
      disk.status [] true (sampleEnvironment directory).pip =
        .ok ⟨.file, 0o755⟩ then
    (.ok ⟨.exited 0, [], []⟩, disk)
  else
    (.error (.refused .noEntry), disk)

/-- The surroundings of an environment with this interpreter. -/
def interpreted (directory : Path) : Surroundings Host :=
  withProcesses (interpreting directory)

/-- An environment is stable under this interpreter. -/
theorem sampleEnvironment_isStable (directory : Path) :
    (sampleEnvironment directory).IsStable []
      (answersOf (onDisk (interpreted directory))) "3\n1" where
  fills := by
    intro disk output last ends
    obtain ⟨environment, result, spawns, -⟩ := exists_of_running ends
    generalize isChild :
      (sampleEnvironment directory).fillCommand.child _ = child at spawns
    have isFilling : child.arguments.head? = some "install" := by
      rw [← isChild]
      rfl
    have notVersion : child.arguments ≠ ["--version"] := by
      intro isVersion
      simp [isVersion] at isFilling
    have notMaking : child.arguments.head? ≠ some "-m" := by
      simp [isFilling]
    unfold interpreting at spawns
    rw [if_neg notVersion, if_neg notMaking] at spawns
    by_cases hasPip :
        disk.status [] true (sampleEnvironment directory).pip =
          .ok ⟨.file, 0o755⟩
    · rw [if_pos hasPip] at spawns
      obtain ⟨-, rfl⟩ := Prod.mk.inj spawns
      exact ⟨.refl disk, 0o755, hasPip⟩
    · rw [if_neg hasPip] at spawns
      simp at spawns
  tells := by
    intro disk text last ends
    obtain ⟨environment, result, spawns, isOutcome⟩ := exists_of_running ends
    obtain ⟨isResult, rfl⟩ := Prod.mk.inj spawns
    obtain rfl := Except.ok.inj isResult
    have isText :
        Command.decode [0x33, 0x0a, 0x31, 0x0a] = "3\n1" := by
      decide +kernel
    refine ⟨?_, .refl disk, rfl⟩
    refine Except.ok.inj (isOutcome.symm.trans ?_)
    simp [Command.outcome, isText]

/-- What stocking the environment leaves. -/
def stockedDisk : Disk :=
  (withPip requiringDisk).set
    [.text "s", .text "e", .text "requirements.txt"]
    (.file { mode := 0o644, content := [0x78] })

/-- A disk on which the version has been noted in the environment. -/
def withVersion (disk : Disk) : Disk :=
  disk.set [.text "s", .text "e", .text "python_version"]
    (.file { mode := 0o644, content := [0x33, 0x0a, 0x31] })

/-- What the installation of the environment leaves. -/
def filledDisk : Disk :=
  withVersion stockedDisk

theorem eq_stockedDisk
    {copied : Disk}
    (stocks :
      Ends (answersOf (onDisk (interpreted "/s/e")))
        (sampleEnvironment "/s/e").stock.run requiringDisk (.ok ()) copied) :
    copied = stockedDisk := by
  have isStocked :
      ((sampleEnvironment "/s/e").stock.run.run
          (onDisk (interpreted "/s/e")) requiringDisk).2 =
        stockedDisk := by
    decide +kernel
  exact (congrArg Prod.snd (ends_answersOf_iff.mp stocks)).symm.trans isStocked

theorem stockedDisk_hasPlainTraces :
    (sampleEnvironment "/s/e").HasPlainTraces [] stockedDisk := by
  have noLink (location : Location) (target : Path) :
      stockedDisk.get? location ≠ some (.link target) := by
    intro isLink
    have noLinks :
        ∀ item ∈ stockedDisk.entries, item.2.isLink = false := by
      decide +kernel
    simpa [Entry.isLink] using noLinks _ (Disk.mem_entries_of_get? isLink)
  refine ⟨Disk.isTree_of_entries (by decide +kernel), ?_, ?_⟩
  · intro path _ location target finds
    exact noLink location target (Disk.get?_of_entryAt finds)
  · intro processId found
    have isParent :
        (Path.child "/s/e" (.text StorageName.pythonVersion.text)).parent? =
          some (.ofString "/s/e") := by
      decide +kernel
    exact Files.not_entryAt_temporaryName (by decide +kernel) isParent
      (by decide +kernel) processId found

/-- A disk on which the environment of a project has been made. -/
def withEnvironment (disk : Disk) : Disk :=
  disk.set [.text "s", .text "p", .text ".venv"] (.directory 0o755)

/-- A tool that makes the environment of a project, once that is prepared. -/
def makingEnvironment (prepared : Disk) : Processes := fun _ disk =>
  if disk = prepared then
    (.ok ⟨.exited 0, [], []⟩, withEnvironment prepared)
  else
    (.error (.refused .noEntry), disk)

/-- The surroundings of a project with this tool. -/
def making (prepared : Disk) : Surroundings Host :=
  withProcesses (makingEnvironment prepared)

/-- A project with a tool is stable under it if the environment is none of the copies. -/
theorem isStable_making
    {project : UvProject}
    {prepared : Disk}
    (isKnown : project.tool.isSome = true)
    (keeps : project.SameCopies [] prepared (withEnvironment prepared))
    (makes :
      (withEnvironment prepared).status [] true project.environment =
        .ok ⟨.directory, 0o755⟩) :
    project.IsStable [] (answersOf (onDisk (making prepared))) where
  tells := by
    rintro path disk reply last ⟨rfl, -⟩
    rfl
  locates := fun isUnknown => by simp [isUnknown] at isKnown
  syncs := by
    intro tool disk output last ends
    obtain ⟨environment, result, spawns, -⟩ := exists_of_running ends
    unfold makingEnvironment at spawns
    by_cases isPrepared : disk = prepared
    · rw [if_pos isPrepared] at spawns
      obtain ⟨-, rfl⟩ := Prod.mk.inj spawns
      exact ⟨isPrepared ▸ keeps, 0o755, makes⟩
    · rw [if_neg isPrepared] at spawns
      simp at spawns

/-- What clearing the storage of the project leaves. -/
def clearedDisk : Disk :=
  UvProject.unlockedDisk.set [.text "s", .text "p"] (.directory 0o755)

/-- The environment and the project are installed and then found current. -/
theorem samples_areCurrent :
    ((sampleEnvironment "/s/e").isCurrent.run.run (interpreted "/s/e")
          (Host.ofDisk filledDisk)).1 =
        .ok true ∧
      ((Host.ofDisk UvProject.syncedDisk).run
          ({ UvProject.sampleProject "p" with
              tool := none }).isCurrent.run).1 =
        .ok true := by
  constructor
  · have installs :
        Ends (answersOf (onDisk (interpreted "/s/e")))
          (sampleEnvironment "/s/e").install.run requiringDisk (.ok ())
          filledDisk :=
      ends_answersOf_iff.mpr
        (Prod.ext (by decide +kernel) (by decide +kernel))
    obtain ⟨copied, stocks, -, remains⟩ :=
      (installed_isCurrent (answersBy_onDisk (interpreting "/s/e"))).1
        (sampleEnvironment "/s/e") "3\n1" (sampleEnvironment_isStable _)
        (fun _ stocks => eq_stockedDisk stocks ▸ stockedDisk_hasPlainTraces)
        installs
    obtain rfl := eq_stockedDisk stocks
    have stays :
        (sampleEnvironment "/s/e").StaysInstalled [] stockedDisk filledDisk
          filledDisk :=
      ⟨rfl, rfl, rfl, by decide +kernel⟩
    have tells :
        (sampleEnvironment "/s/e").pythonVersion.run.run (interpreted "/s/e")
            (Host.ofDisk filledDisk) =
          (.ok "3\n1", Host.ofDisk filledDisk) :=
      Prod.ext (by decide +kernel) rfl
    have isCurrent :=
      remains (interpreted "/s/e") (Host.ofDisk filledDisk)
        (Host.ofDisk filledDisk) (looks_withProcesses _) rfl rfl stays stays
        tells
    exact congrArg Prod.fst isCurrent
  · have installs :
        Ends (answersOf (onDisk (making UvProject.preparedDisk)))
          (UvProject.install.run.run (UvProject.sampleProject "p"))
          UvProject.unlockedDisk (.ok (), UvProject.sampleProject "p")
          UvProject.syncedDisk :=
      ends_answersOf_iff.mpr
        (Prod.ext (by decide +kernel) (by decide +kernel))
    obtain ⟨cleared, clears, -, remains⟩ :=
      (installed_isCurrent
            (answersBy_onDisk (makingEnvironment UvProject.preparedDisk))).2
        (UvProject.sampleProject "p") _
        (isStable_making rfl (by decide +kernel) (by decide +kernel))
        (Disk.isTree_of_entries (by decide +kernel)) (by decide +kernel)
        installs
    have isCleared :
        ((UvProject.sampleProject "p").clear.run.run
              (onDisk (making UvProject.preparedDisk))
              UvProject.unlockedDisk).2 =
          clearedDisk := by
      decide +kernel
    obtain rfl :=
      (congrArg Prod.snd (ends_answersOf_iff.mp clears)).symm.trans isCleared
    have stays :
        (UvProject.sampleProject "p").StaysInstalled [] clearedDisk
          UvProject.syncedDisk UvProject.syncedDisk :=
      ⟨rfl, fun _ _ => rfl, by decide +kernel⟩
    have isCurrent :=
      remains (Host.ofDisk UvProject.syncedDisk)
        { UvProject.sampleProject "p" with tool := none } rfl rfl stays
    exact congrArg Prod.fst isCurrent

/-- A disk with an old environment whose copy of the requirements is a link to the version. -/
def linkedRequirements : Disk :=
  [([.text "s", .text "e"], Entry.directory 0o755),
    ([.text "s", .text "e", .text "requirements.txt"],
      .link (.ofString "python_version"))].foldl
    (fun disk item => disk.set item.1 item.2) requiringDisk

/-- A disk with a storage in which the copy of the project file is a link to that of the lock file. -/
def linkedManifest : Disk :=
  [([.text "s", .text "p"], Entry.directory 0o755),
    ([.text "s", .text "p", .text "pyproject.toml"],
      .link (.ofString "uv.lock"))].foldl
    (fun disk item => disk.set item.1 item.2) UvProject.lockedDisk

/-- What the installation of the environment leaves if the link stays. -/
def mixedUpDisk : Disk :=
  withVersion (withPip linkedRequirements)

/-- What is prepared for the project if the link stays. -/
def mixedUpPrepared : Disk :=
  [([.text "s", .text "x"], Entry.directory 0o755),
    ([.text "s", .text "p", .text "uv.lock"],
      .file { mode := 0o644, content := [0x6c] })].foldl
    (fun disk item => disk.set item.1 item.2) linkedManifest

/--
Links that an installation cannot remove, because the way to them leads up from a directory that is not there
yet, make one trace of two.  What has been installed is not current then.
-/
theorem linked_traces_are_mixed_up :
    ((sampleEnvironment "/s/x/../e").IsStable []
          (answersOf (onDisk (interpreted "/s/x/../e"))) "3\n1" ∧
        (sampleEnvironment "/s/x/../e").install.run.run
              (onDisk (interpreted "/s/x/../e")) linkedRequirements =
            (.ok (), mixedUpDisk) ∧
          ((sampleEnvironment "/s/x/../e").isCurrent.run.run
                (interpreted "/s/x/../e") (Host.ofDisk mixedUpDisk)).1 =
              .ok false) ∧
      (UvProject.sampleProject "x/../p").IsStable []
          (answersOf (onDisk (making mixedUpPrepared))) ∧
        (UvProject.install.run.run (UvProject.sampleProject "x/../p")).run
              (onDisk (making mixedUpPrepared)) linkedManifest =
            ((.ok (), UvProject.sampleProject "x/../p"),
              withEnvironment mixedUpPrepared) ∧
          ((Host.ofDisk (withEnvironment mixedUpPrepared)).run
                (UvProject.sampleProject "x/../p").isCurrent.run).1 =
              .ok false := by
  refine ⟨⟨sampleEnvironment_isStable _, Prod.ext ?_ ?_, ?_⟩,
    isStable_making rfl ?_ ?_, Prod.ext ?_ ?_, ?_⟩ <;> decide +kernel

end Venv

end Provision
