import Provision.Proofs.Venv.Staging
import Provision.Proofs.Venv.Traces

namespace Provision

/-!
# A tool that is kept up to date

The tool that is kept in a directory is there with a file that names its release.  A call that finds both
only looks.  Any other call stages a download, and either puts the tool in place or leaves all as it was.
-/

open Plan

namespace UvTool

/-! ## Names in the directory -/

theorem names_programName (platform : Platform) :
    Names (programName platform) ∧ programName platform ≠ "VERSION" := by
  unfold programName
  split <;> exact ⟨⟨by decide, by decide, by decide⟩, by decide⟩

theorem names_archiveName
    {platform : Platform}
    {archiveName : String}
    (isName : UvRelease.archiveName platform = .ok archiveName) :
    Names archiveName ∧ archiveName ≠ "extracted" := by
  obtain ⟨system, processor⟩ := platform
  cases system <;> cases processor <;>
    simp only [UvRelease.archiveName, UvRelease.processorName?,
      UvRelease.systemName, Except.ok.injEq, reduceCtorEq] at isName <;>
    subst isName <;>
    exact ⟨⟨by decide +kernel, by decide +kernel, by decide +kernel⟩,
      by decide +kernel⟩

/-- The name of a directory for a download. -/
def stagingName (number : Nat) : String :=
  stagingOpening ++ Disk.sixDigits number

theorem toList_stagingName (number : Nat) :
    (stagingName number).toList =
      ".download".toList ++ (Disk.sixDigits number).toList := by
  rw [stagingName, stagingOpening, String.toList_append]

theorem names_stagingName (number : Nat) : Names (stagingName number) := by
  have noSlash : '/' ∉ (stagingName number).toList := by
    rw [toList_stagingName, List.mem_append, not_or]
    refine ⟨by decide, fun member => ?_⟩
    simp only [Disk.sixDigits, String.toList_ofList, List.mem_append,
      List.mem_replicate] at member
    rcases member with ⟨-, isZero⟩ | isDigit
    · simp at isZero
    · have isDigit :=
        Nat.isDigit_of_mem_toDigits (by decide) (by decide) isDigit
      simp [Char.isDigit] at isDigit
  have isOther (text : String) (isShort : text.length < 9) :
      stagingName number ≠ text := by
    intro isSame
    have isLength := congrArg List.length (toList_stagingName number)
    rw [isSame, List.length_append, String.length_toList] at isLength
    simp at isLength
    omega
  refine ⟨noSlash, ?_, ?_⟩
  · simp [Name.isHere, isOther "" (by decide), isOther "." (by decide)]
  · simp [Name.isUp, isOther ".." (by decide)]

/-- The directory for a download has a name that nothing else has that comes to the directory around it. -/
theorem stagingName_isOther
    (number : Nat)
    (platform : Platform) :
    stagingName number ≠ programName platform ∧
      stagingName number ≠ "VERSION" ∧
        ∀ text : String,
          text.toList.take 2 = ['.', 'V'] → stagingName number ≠ text := by
  have isStart : (stagingName number).toList.take 2 = ['.', 'd'] := by
    rw [toList_stagingName]
    rfl
  have isOther (text : String) (isElse : text.toList.take 2 ≠ ['.', 'd']) :
      stagingName number ≠ text := by
    rintro rfl
    exact isElse isStart
  refine ⟨?_, isOther _ (by decide), fun text starts => ?_⟩
  · apply isOther
    unfold programName
    split <;> decide
  · apply isOther
    rw [starts]
    decide

/-- A temporary file beside the mark has a name of its own. -/
theorem take_temporaryName
    (directory : Path)
    (processId : Nat) :
    (Files.temporaryName (directory.within .release) processId).toList.take 2 =
      ['.', 'V'] := by
  have isName : (directory.within .release).fileNameText = "VERSION" := by
    rw [Path.fileNameText, Path.within,
      directory.fileName?_child (by decide) (by decide)]
    rfl
  have isTemporary :
      Files.temporaryName (directory.within .release) processId =
        "." ++ "VERSION" ++ "." ++ toString processId ++ ".tmp" := by
    rw [← isName]
    rfl
  rw [isTemporary]
  simp only [String.toList_append]
  rfl

/-! ## A call that finds the tool -/

/-- A tool is there with the mark of its release. -/
structure IsCurrent
    (disk : Disk)
    (workingDirectory : Location)
    (directory : Path)
    (release : UvRelease)
    (platform : Platform) :
    Prop where
  marks :
    ∃ bytes text,
      disk.readFile workingDirectory (directory.within .release) =
          .ok bytes ∧
        Text.Utf8.toString? bytes = some text ∧
          Text.trimmed text = release.tag
  isThere :
    ∃ mode,
      disk.status workingDirectory true (directory / programName platform) =
        .ok ⟨.file, mode⟩

/-- A tool that is current is found by looking. -/
theorem run_managed_of_isCurrent
    {host : Host}
    {directory : Path}
    {release : UvRelease}
    {platform : Platform}
    (isCurrent :
      IsCurrent host.disk host.workingDirectory directory release platform) :
    host.run (managed directory release platform).run =
        (.ok ⟨directory / programName platform⟩, host) ∧
      ∀ action ∈
          (managed directory release platform).run.actions Host.perform host,
        action.looks = true := by
  obtain ⟨⟨bytes, text, reads, isText, isTag⟩, mode, isFile⟩ := isCurrent
  have runsMark :
      (Serving.storing (Files.readText? (directory.within .release))).run.run
          Host.perform host =
        (.ok (some text), host) :=
    ends_answersOf_iff.mp
      (ends_adapt_iff.mpr (Files.ends_readText?_of_bytes reads isText))
  have runsTool :
      (Files.isFile (directory / programName platform)).run Host.perform host =
        (true, host) := by
    refine (host.run_isFile _).trans ?_
    rw [Host.hasFile, isFile]
    rfl
  have looks :
      (Serving.storing
          (Files.readText? (directory.within .release))).run.AsksOnly
        Action.looks :=
    (Files.readText?_asksOnly _).adaptProcedure _
  unfold managed
  dsimp only
  rw [Host.run, ExceptT.run_bind, Plan.run_bind, actions_bind, runsMark]
  dsimp only
  rw [Procedure.run_lift_bind, Plan.run_bind, actions_bind, runsTool]
  simp only [Option.map_some, isTag, decide_true, Bool.and_true, Bool.not_true,
    Bool.false_eq_true, if_false]
  refine ⟨rfl, fun action isAsked => ?_⟩
  rcases List.mem_append.mp isAsked with isAsked | isAsked
  · exact looks.mem_actions host action isAsked
  · rcases List.mem_append.mp isAsked with isAsked | isAsked
    · exact (Files.isFile_asksOnly _).mem_actions host action isAsked
    · exact absurd isAsked List.not_mem_nil

end UvTool

/-! ## Directories that are made on the way -/

namespace Disk

variable {start disk base made last : Disk}
variable {workingDirectory : Location}
variable {directory : Path}

/-- Nothing has come to a disk but directories on the way to a directory, if that was missing. -/
structure GainsOnlyWay
    (start last : Disk)
    (workingDirectory : Location)
    (directory : Path) :
    Prop where
  gains : start.GainsWay last workingDirectory directory
  isSame :
    ∀ left there,
      start.LeadsTo workingDirectory directory left there →
      start.HasDirectory there →
      ∀ location, last.get? location = start.get? location

/--
Nothing has changed but entries of some names in a directory, and directories on the way to it that are made
first.
-/
def ChangesOnlyIn
    (start last : Disk)
    (workingDirectory : Location)
    (directory : Path)
    (names : List Name) :
    Prop :=
  ∃ made,
    start.GainsOnlyWay made workingDirectory directory ∧
      ∀ location,
        last.get? location = made.get? location ∨
          ∃ left there,
            made.LeadsTo workingDirectory directory left there ∧
              ∃ name ∈ names, location = there ++ [name]

theorem GainsOnlyWay.refl
    (disk : Disk)
    (workingDirectory : Location)
    (directory : Path) :
    disk.GainsOnlyWay disk workingDirectory directory :=
  ⟨.refl _ _ _, fun _ _ _ _ _ => rfl⟩

theorem GainsOnlyWay.congr
    (gains : start.GainsOnlyWay made workingDirectory directory)
    (areSame : ∀ location, last.get? location = made.get? location) :
    start.GainsOnlyWay last workingDirectory directory where
  gains := gains.gains.trans fun location => Or.inl (areSame location)
  isSame := fun left there leads isDirectory location =>
    (areSame location).trans (gains.isSame left there leads isDirectory location)

end Disk

open Classical in
theorem Files.ensures_makeDirectories_gainsOnlyWay
    {workingDirectory : Location}
    {children : Disk.Children}
    {step : Stepping Disk}
    {start : Disk}
    (answersBy : Disk.AnswersBy workingDirectory children step)
    (tree : start.IsTree)
    (directory : Path) :
    Ensures step (fun _ => True)
      (fun _ last =>
        last.IsTree ∧ start.GainsOnlyWay last workingDirectory directory)
      (makeDirectories directory) start := by
  by_cases isThere :
      ∃ left there,
        start.LeadsTo workingDirectory directory left there ∧
          start.HasDirectory there
  · obtain ⟨left, there, leads, isDirectory⟩ := isThere
    refine (ensures_makeDirectories_of_leads answersBy leads isDirectory).mono
      (fun _ _ => trivial) ?_
    rintro _ _ rfl
    exact ⟨tree, .refl _ _ _⟩
  · have makes :
        Ensures step _ _ (makeDirectories directory) start :=
      (ensures_makeDirectories tree).of_fewer answersBy
    refine makes.mono (fun _ _ => trivial) ?_
    rintro _ last ⟨⟨isTree, gains⟩, -⟩
    refine ⟨isTree, gains, fun left there leads isDirectory => ?_⟩
    exact absurd ⟨left, there, leads, isDirectory⟩ isThere

namespace UvTool

variable {workingDirectory there : Location}
variable {children : Disk.Children}
variable {step : Stepping Disk}
variable {start base made disk last : Disk}
variable {directory staging : Path}
variable {left number : Nat}

/-! ## The directory for a download -/

/-- A directory has just been made for a download. -/
structure IsStaged
    (start base made : Disk)
    (workingDirectory : Location)
    (directory : Path)
    (left : Nat)
    (there : Location)
    (number : Nat) :
    Prop where
  kept : start.GainsOnlyWay base workingDirectory directory
  tree : base.IsTree
  leads : base.LeadsTo workingDirectory directory left there
  isOpen : base.IsOpen there
  isMissing : base.get? (there ++ [.text (stagingName number)]) = none
  fenced : base.Fenced made (there ++ [.text (stagingName number)])
  leadsStaging :
    ∃ left,
      made.LeadsTo workingDirectory
        (directory.child (.text (stagingName number))) left
        (there ++ [.text (stagingName number)])
  isFresh : made.IsFresh (there ++ [.text (stagingName number)])

theorem isStaged_of_makeTemporary
    (tree : base.IsTree)
    (kept : start.GainsOnlyWay base workingDirectory directory)
    (makes :
      base.makeTemporary workingDirectory directory stagingOpening =
        .ok (staging, made)) :
    ∃ left there number,
      staging = directory.child (.text (stagingName number)) ∧
        IsStaged start base made workingDirectory directory left there
          number := by
  obtain ⟨number, isStaging, makes⟩ := Disk.makeTemporary_eq_ok makes
  change staging = directory / stagingName number at isStaging
  have isNamed := names_stagingName number
  rw [directory.div_eq_child isNamed.noSlash] at isStaging
  subst isStaging
  obtain ⟨-, -, left', place, locates, -, leads', isFresh⟩ :=
    Disk.fresh_of_makeDirectory tree rfl makes
  obtain ⟨left, there, leads, isOpen, isFound⟩ :=
    Disk.exists_of_locate_child isNamed.notHere isNamed.notUp locates
  obtain ⟨rfl, isMissing⟩ := Disk.Found.mk.inj isFound
  have lands :
      base.Lands workingDirectory (there ++ [.text (stagingName number)]) false
        (directory.child (.text (stagingName number))) := by
    intro found locates'
    obtain rfl := Except.ok.inj (locates.symm.trans locates')
    exact List.prefix_rfl
  have same := Disk.fenced_of_missing tree isMissing.symm
  exact ⟨left, there, number, rfl, kept, tree, leads, isOpen, isMissing.symm,
    Disk.fenced_makeDirectory tree same.separates lands makes,
    ⟨left', leads'⟩, isFresh⟩

/-- A directory is made for a download, or nothing has changed. -/
theorem ensures_stage
    (answersBy : Disk.AnswersBy workingDirectory children step)
    (tree : start.IsTree) :
    Ensures step (fun _ => True)
      (ending
        (fun staging made =>
          ∃ base left there number,
            staging = directory.child (.text (stagingName number)) ∧
              IsStaged start base made workingDirectory directory left there
                number)
        (fun _ last => start.GainsOnlyWay last workingDirectory directory))
      (do
        Files.reporting directory (Files.makeDirectories directory)
        Files.reporting directory
          (Plan.ask (.makeTemporary directory stagingOpening)) :
        Storing Path).run
      start := by
  have makes :=
    Files.ensures_makeDirectories_gainsOnlyWay answersBy tree directory
  refine .bindProcedure (.attempt (makes.mono (fun _ => id) ?_))
  rintro (fault | value) base ⟨baseTree, kept⟩
  · exact kept
  · refine .attempt (.ask fun reply made answered => ⟨trivial, ?_⟩)
    rcases answersBy _ _ _ _ answered with
      ⟨staging, makes, rfl⟩ | ⟨fault, rfl, rfl⟩
    · exact ⟨base, isStaged_of_makeTemporary baseTree kept makes⟩
    · exact kept

/-! ## What is put away at the end -/

/-- Directories that are to be removed with all that they hold are removed. -/
def RemovesTrees (step : Stepping Disk) : Prop :=
  ∀ (path : Path) (disk : Disk) reply after,
    step (.removeTree path) disk reply after →
    reply = (.ok () : Except DiskFault Unit)

section

variable {files : List Location}
variable
  (isStaged :
    IsStaged start base made workingDirectory directory left there number)
variable
  (stages :
    base.Stages disk (there ++ [.text (stagingName number)]) files)

include isStaged stages

theorem ensures_discardArchive
    (answersBy : Disk.AnswersBy workingDirectory children step)
    {archiveName : String}
    (isNamed : Names archiveName) :
    Ensures step (fun _ => True)
      (fun _ last =>
        base.Stages last (there ++ [.text (stagingName number)]) files ∧
          ∀ location,
            ¬there ++ [.text (stagingName number)] <+: location →
            last.get? location = disk.get? location)
      (Files.discardFile
        (directory.child (.text (stagingName number)) / archiveName))
      disk := by
  rw [Path.div_eq_child _ isNamed.noSlash]
  refine .bind (.ask fun reply after answered => ⟨trivial, ?_⟩)
  exact stages.of_removeFile isStaged.tree isStaged.leads
    isStaged.isOpen.hasDirectory isStaged.isMissing
    (names_stagingName number).notHere (names_stagingName number).notUp
    isNamed.notHere isNamed.notUp (answersBy _ _ _ _ answered)

theorem ensures_discardStaging
    (answersBy : Disk.AnswersBy workingDirectory children step)
    (removes : RemovesTrees step) :
    Ensures step (fun _ => True)
      (fun _ last =>
        (∀ location,
            last.get? location =
              if there ++ [.text (stagingName number)] <+: location then none
              else disk.get? location) ∧
          last.LeadsTo workingDirectory directory left there ∧
            last.IsOpen there)
      (Files.discardTree (directory.child (.text (stagingName number))))
      disk := by
  refine .bind (.ask fun reply after answered => ⟨trivial, ?_⟩)
  have answers := answersBy _ _ _ _ answered
  rw [removes _ _ _ _ answered] at answers
  cases answers with
  | done isDone =>
      exact stages.of_removeTree isStaged.tree isStaged.leads
        isStaged.isOpen.hasDirectory isStaged.isMissing
        (names_stagingName number).notHere (names_stagingName number).notUp
        isDone

end

/-- What was staged is put away, and all else stays as it is. -/
theorem ensures_putAway
    {files : List Location}
    {archiveName : String}
    {trace : Trace Disk}
    (isStaged :
      IsStaged start base made workingDirectory directory left there number)
    (stages :
      base.Stages trace.state (there ++ [.text (stagingName number)]) files)
    (answersBy : Disk.AnswersBy workingDirectory children step)
    (removes : RemovesTrees step)
    (isNamed : Names archiveName) :
    Ensures (tracing step) (fun _ => True)
      (fun _ discarded =>
        Ensures (tracing step) (fun _ => True)
          (fun _ last =>
            (∀ location,
                last.state.get? location =
                  if there ++ [.text (stagingName number)] <+: location then
                    none
                  else trace.state.get? location) ∧
              last.state.LeadsTo workingDirectory directory left there ∧
                last.state.IsOpen there)
          (Files.discardTree (directory.child (.text (stagingName number))))
          discarded)
      (Files.discardFile
        (directory.child (.text (stagingName number)) / archiveName))
      trace := by
  refine (ensures_discardArchive isStaged stages answersBy
    isNamed).traced.mono (fun _ => id) ?_
  rintro _ discarded ⟨stages, isSame⟩
  refine (ensures_discardStaging isStaged stages answersBy
    removes).traced.mono (fun _ => id) ?_
  rintro _ last ⟨isCleared, leads, isOpen⟩
  refine ⟨fun location => ?_, leads, isOpen⟩
  rw [isCleared]
  split
  · rfl
  · rename_i isOutside
    exact isSame location isOutside

/-- Nothing is left of a download that was put away, if nothing else had changed. -/
theorem gainsOnlyWay_of_discarded
    (isStaged :
      IsStaged start base made workingDirectory directory left there number)
    (stages : base.Stages disk (there ++ [.text (stagingName number)]) [])
    (isCleared :
      ∀ location,
        last.get? location =
          if there ++ [.text (stagingName number)] <+: location then none
          else disk.get? location) :
    start.GainsOnlyWay last workingDirectory directory := by
  refine isStaged.kept.congr fun location => ?_
  rw [isCleared]
  split
  · rename_i isInside
    obtain ⟨below, rfl⟩ := isInside
    exact (isStaged.tree.missing_below isStaged.isMissing below).symm
  · rename_i isOutside
    exact stages.elsewhere location isOutside List.not_mem_nil

/-! ## A call in whatever surroundings -/

/-- A call has put the tool and its mark in a directory, or left them there, and changed nothing else. -/
structure Installs
    (start last : Disk)
    (workingDirectory : Location)
    (directory : Path)
    (release : UvRelease)
    (platform : Platform) :
    Prop where
  changes :
    start.ChangesOnlyIn last workingDirectory directory
      [.text (programName platform), .text "VERSION"]
  isCurrent :
    Text.trimmed release.tag = release.tag →
    IsCurrent last workingDirectory directory release platform

theorem installs_of_settles
    {release : UvRelease}
    {platform : Platform}
    (isStaged :
      IsStaged start base made workingDirectory directory left there number)
    (settles :
      Settles base disk directory there (.text (stagingName number))
        (.text (programName platform)) (.text "VERSION") release)
    (isCleared :
      ∀ location,
        last.get? location =
          if there ++ [.text (stagingName number)] <+: location then none
          else disk.get? location)
    (leads : last.LeadsTo workingDirectory directory left there)
    (isOpen : last.IsOpen there) :
    Installs start last workingDirectory directory release platform := by
  have stays (location : Location) :
      location ∈
          [there ++ [.text (programName platform)], there ++ [.text "VERSION"]] →
      last.get? location = disk.get? location := by
    intro isFile
    rw [isCleared, if_neg (settles.stages.areFiles location isFile).1]
  refine ⟨⟨base, isStaged.kept, fun location => ?_⟩, fun isTrimmed => ⟨?_, ?_⟩⟩
  · by_cases isFile :
        location ∈
          [there ++ [.text (programName platform)], there ++ [.text "VERSION"]]
    · refine Or.inr ⟨left, there, isStaged.leads, ?_⟩
      simpa using isFile
    · refine Or.inl ?_
      rw [isCleared]
      split
      · rename_i isInside
        obtain ⟨below, rfl⟩ := isInside
        exact (isStaged.tree.missing_below isStaged.isMissing below).symm
      · rename_i isOutside
        exact settles.stages.elsewhere location isOutside isFile
  · have stands :=
      (stays (there ++ [.text "VERSION"]) (by simp)).trans settles.marks
    have finds :=
      Disk.entryAt_child_of_file settles.markUsable (by decide) leads isOpen
        stands
    have mayRead :
        (Entry.file
              { mode := 0o644
                content := Text.Utf8.ofString release.tag }).allows
            .read =
          true := by
      simp [Entry.allows, Entry.mode, Access.bit]
    exact ⟨_, release.tag, Disk.FindsFile.readFile ⟨_, finds, mayRead, rfl⟩,
      Text.Utf8.toString?_ofString _, isTrimmed⟩
  · obtain ⟨-, file, isFile⟩ :=
      settles.stages.areFiles (there ++ [.text (programName platform)])
        (by simp)
    have stands :=
      (stays (there ++ [.text (programName platform)]) (by simp)).trans isFile
    have isNamed := (names_programName platform).1
    have isPlain : (Name.text (programName platform)).isPlain = true := by
      unfold programName
      split <;> decide
    have finds :=
      Disk.entryAt_child_of_file settles.programUsable isPlain leads isOpen
        stands
    refine ⟨file.mode, ?_⟩
    rw [directory.div_eq_child isNamed.noSlash, Disk.status, finds]
    rfl

/-! ## The download as a whole -/

section

variable {release : UvRelease}
variable {platform : Platform}
variable (answersBy : Disk.AnswersBy workingDirectory children step)
variable (renamesNew : Disk.RenamesNew start workingDirectory step)

include answersBy renamesNew

/-- The tool is put in place, or the old one was to be removed. -/
theorem ensures_settle
    {unpacked : Path}
    {trace : Trace Disk}
    (isStaged :
      IsStaged start base made workingDirectory directory left there number)
    (fenced :
      made.Fenced trace.state (there ++ [.text (stagingName number)])) :
    Ensures (tracing step) (fun _ => True)
      (ending
        (fun _ last =>
          Settles base last.state directory there (.text (stagingName number))
            (.text (programName platform)) (.text "VERSION") release)
        (fun _ last =>
          last.HasAsked (.removeFile (directory / programName platform))))
      (settle release unpacked (directory / programName platform)
        (directory.within .release)).run
      trace := by
  have asks :
      Ensures (tracing step) _ _
        (settle release unpacked (directory / programName platform)
          (directory.within .release)).run
        trace :=
    ensures_hasAsked _ _ trace
  have ends :
      Ensures (tracing step) _ _
        (settle release unpacked (directory / programName platform)
          (directory.within .release)).run
        trace :=
    (ensures_trivial _ trace.state).ends.traced
  refine (ends.and asks).mono (fun _ _ => trivial) ?_
  rintro (fault | value) last ⟨⟨-, ends⟩, isAsked⟩
  · exact isAsked
  · have isNamed := (names_programName platform).1
    obtain ⟨left', leads'⟩ := isStaged.leadsStaging
    have fencedAll := isStaged.fenced.trans fenced
    rw [directory.div_eq_child isNamed.noSlash] at ends
    obtain ⟨notProgram, notMark, isOther⟩ := stagingName_isOther number platform
    refine settles_of_settle answersBy renamesNew isStaged.kept.gains fencedAll
      (fenced.directories _ isStaged.isFresh.1.hasDirectory)
      (isStaged.leads.mono (fencedAll.within isStaged.tree isStaged.isMissing))
      ⟨isNamed.notHere, isNamed.notUp⟩ ⟨by decide, by decide⟩ ?_ ?_ ends
    · simp [notProgram, notMark, (names_programName platform).2]
    · intro processId
      have starts := take_temporaryName directory processId
      have notStaging := (isOther _ starts).symm
      have notTool :
          Files.temporaryName (directory.within .release) processId ≠
            programName platform := by
        intro isSame
        rw [isSame] at starts
        revert starts
        unfold programName
        split <;> decide
      simpa using ⟨notStaging, notTool⟩

/-- The tool is put in place, or the old one was to be removed, or all is as it was but for what is staged. -/
theorem ensures_body
    {archiveName : String}
    {trace : Trace Disk}
    (isStaged :
      IsStaged start base trace.state workingDirectory directory left there
        number)
    (tellsLinks : Disk.TellsLinks workingDirectory step)
    (isName : UvRelease.archiveName platform = .ok archiveName) :
    Ensures (tracing step) (fun _ => True)
      (ending
        (fun _ last =>
          Settles base last.state directory there (.text (stagingName number))
            (.text (programName platform)) (.text "VERSION") release)
        (fun _ last =>
          last.HasAsked (.removeFile (directory / programName platform)) ∨
            base.Stages last.state (there ++ [.text (stagingName number)]) []))
      (do
        let unpacked ←
          unpack release archiveName (programName platform)
            (directory.child (.text (stagingName number)))
        Serving.storing
          (settle release unpacked (directory / programName platform)
            (directory.within .release)) : Serving Unit).run
      trace := by
  obtain ⟨left', leads'⟩ := isStaged.leadsStaging
  obtain ⟨isNamed, isOther⟩ := names_archiveName isName
  have unpacks :=
    upholds_unpack answersBy tellsLinks isStaged.fenced.isTree leads'
      isStaged.isFresh isNamed isOther release (programName platform)
  refine .bindProcedure (unpacks.ensures.tracedProcedure.mono
    (fun _ _ => trivial) ?_)
  rintro (fault | unpacked) last fenced
  · exact Or.inr (.of_fenced (isStaged.fenced.trans fenced)
      (fenced.directories _ isStaged.isFresh.1.hasDirectory))
  · have settles :
        Ensures (tracing step) _ _
          (settle release unpacked (directory / programName platform)
            (directory.within .release)).run
          last :=
      ensures_settle answersBy renamesNew isStaged fenced
    refine .adaptProcedure (settles.mono (fun _ => id) ?_)
    rintro (fault | value) settled isEnd
    · exact Or.inl isEnd
    · exact isEnd

end

/-! ## The outcome of a call -/

/--
How a disk answers if nothing is in the way of a download: links are told from what they lead to, the
directory for the download can be removed, and the files that are put in place are regular ones that were not
there at the start.
-/
def Favours
    (start : Disk)
    (workingDirectory : Location) :
    (action : Action) → Disk → action.Reply → Prop
  | .linkStatus path, disk, reply =>
      reply = disk.status workingDirectory false path
  | .removeTree _, _, reply => reply = (.ok () : Except DiskFault Unit)
  | .rename source _, disk, _ =>
      ∃ origin file,
        disk.entryAt workingDirectory false source =
            .ok (origin, .file file) ∧
          start.get? origin = none
  | _, _, _ => True

/-- The answers of a disk to a call for which nothing is in the way. -/
def Steps
    (workingDirectory : Location)
    (children : Disk.Children)
    (start : Disk) :
    Stepping Disk :=
  fun action disk reply after =>
    Disk.Answers workingDirectory children action disk reply after ∧
      Favours start workingDirectory action disk reply

/-- A download puts the tool in place, or leaves all as it was until the old one is to be removed. -/
theorem ensures_download
    {release : UvRelease}
    {platform : Platform}
    {past : List (Asked Disk)}
    (tree : start.IsTree) :
    Ensures (tracing (Steps workingDirectory children start))
      (fun _ => True)
      (ending
        (fun _ last =>
          Installs start last.state workingDirectory directory release
            platform)
        (fun _ last =>
          last.HasAsked (.removeFile (directory / programName platform)) ∨
            start.GainsOnlyWay last.state workingDirectory directory))
      (download directory release platform).run ⟨start, past⟩ := by
  have answersBy :
      Disk.AnswersBy workingDirectory children
        (Steps workingDirectory children start) :=
    fun _ _ _ _ answered => answered.1
  have removes : RemovesTrees (Steps workingDirectory children start) :=
    fun _ _ _ _ answered => answered.2
  unfold download
  cases isName : UvRelease.archiveName platform with
  | error fault => exact Or.inr (.refl _ _ _)
  | ok archiveName =>
      refine .bindProcedure (.adaptProcedure (.pureProcedure ?_))
      have stages :
          Ensures (tracing (Steps workingDirectory children start)) _ _
            (do
              Files.reporting directory (Files.makeDirectories directory)
              Files.reporting directory
                (Plan.ask (.makeTemporary directory stagingOpening)) :
              Storing Path).run
            ⟨start, past⟩ :=
        (ensures_stage answersBy tree).tracedProcedure
      refine .bindProcedure (.adaptProcedure (stages.mono (fun _ => id) ?_))
      rintro (fault | staging) staged isStaged
      · exact Or.inr isStaged
      · obtain ⟨base, left, there, number, rfl, isStaged⟩ := isStaged
        have body :
            Ensures (tracing (Steps workingDirectory children start)) _ _
              (do
                let unpacked ←
                  unpack release archiveName (programName platform)
                    (directory.child (.text (stagingName number)))
                Serving.storing
                  (settle release unpacked (directory / programName platform)
                    (directory.within .release)) : Serving Unit).run
              staged :=
          ensures_body answersBy (fun _ _ _ _ _ answered => answered.2) isStaged
            (fun _ _ _ _ answered => answered.2) isName
        have isNamed := (names_archiveName isName).1
        have putsAway {files : List Location} {settled : Trace Disk} :=
          @ensures_putAway workingDirectory there children
            (Steps workingDirectory children start) start base staged.state
            directory left number files archiveName settled isStaged
        refine .closedBy (.closedBy (body.mono (fun _ => id) ?_))
        rintro (fault | value) settled isEnd
        · rcases isEnd with isAsked | stages
          · refine (keeps_hasAsked _ _ settled isAsked).mono
              (fun _ _ => trivial) fun _ discarded isAsked => ?_
            exact (keeps_hasAsked _ _ discarded isAsked).mono
              (fun _ _ => trivial) fun _ _ => Or.inl
          · refine (putsAway stages answersBy removes isNamed).mono
              (fun _ => id) fun _ _ discards => discards.mono (fun _ => id) ?_
            rintro _ last ⟨isCleared, -⟩
            exact Or.inr (gainsOnlyWay_of_discarded isStaged stages isCleared)
        · have settles : Settles base settled.state directory there _ _ _ _ :=
            isEnd
          refine (putsAway settles.stages answersBy removes isNamed).mono
            (fun _ => id) fun _ _ discards => discards.mono (fun _ => id) ?_
          rintro _ last ⟨isCleared, leads, isOpen⟩
          exact installs_of_settles isStaged settles isCleared leads isOpen

/-- What a call that is asked to keep a release does, whatever it is answered. -/
theorem ensures_managed
    {release : UvRelease}
    {platform : Platform}
    {past : List (Asked Disk)}
    (tree : start.IsTree) :
    Ensures (tracing (Steps workingDirectory children start))
      (fun _ => True)
      (ending
        (fun tool last =>
          tool = ⟨directory / programName platform⟩ ∧
            Installs start last.state workingDirectory directory release
              platform)
        (fun _ last =>
          last.HasAsked (.removeFile (directory / programName platform)) ∨
            start.GainsOnlyWay last.state workingDirectory directory))
      (managed directory release platform).run ⟨start, past⟩ := by
  have answersBy :
      Disk.AnswersBy workingDirectory children
        (Steps workingDirectory children start) :=
    fun _ _ _ _ answered => answered.1
  unfold managed
  dsimp only
  have reads :
      Ensures (tracing (Steps workingDirectory children start)) _ _
        (Files.readText? (directory.within .release)).run ⟨start, past⟩ :=
    (Files.ensures_unchanged answersBy
      (Files.readText?_asksOnly _)).ends.traced
  refine .bindProcedure (.adaptProcedure
    (reads.mono (fun _ _ => trivial) ?_))
  rintro (fault | stored?) ⟨disk, past⟩ ⟨isSame, reads⟩ <;>
    obtain rfl : start = disk := isSame.symm
  · exact Or.inr (.refl _ _ _)
  · have tells :
        Ensures (tracing (Steps workingDirectory children start)) _ _
          (Files.isFile (directory / programName platform)) ⟨start, past⟩ :=
      (Files.ensures_unchanged answersBy (Files.isFile_asksOnly _)).ends.traced
    refine .bindLift (tells.mono (fun _ _ => trivial) ?_)
    rintro isThere ⟨later, past⟩ ⟨isSame, tells⟩
    obtain rfl : start = later := isSame.symm
    split
    · have downloads :
          Ensures (tracing (Steps workingDirectory children start)) _ _
            (download directory release platform).run ⟨start, past⟩ :=
        ensures_download tree
      refine .bindProcedure (downloads.mono (fun _ => id) ?_)
      rintro (fault | value) last isEnd
      · exact isEnd
      · exact ⟨rfl, isEnd⟩
    · rename_i isFound
      simp only [Bool.not_eq_true', Bool.not_eq_false, Bool.and_eq_true,
        decide_eq_true_eq] at isFound
      obtain ⟨rfl, isTag⟩ := isFound
      obtain ⟨text, rfl, isSame⟩ := Option.map_eq_some_iff.mp isTag
      obtain ⟨bytes, isRead, isText⟩ :=
        Files.exists_of_ends_readText? answersBy reads
      refine ⟨rfl, ⟨start, .refl _ _ _, fun _ => Or.inl rfl⟩, fun _ => ?_⟩
      exact ⟨⟨bytes, text, isRead, isText, isSame⟩,
        Files.exists_of_ends_isFile answersBy tells⟩

/-- A release that is offered under a short name. -/
def sampleRelease : UvRelease where
  tag := "2"
  baseUrl := "http://s"

/-- A platform whose archives are unpacked without compression. -/
def samplePlatform : Platform := ⟨.windows, .x64⟩

/-- An archive of the tool alone. -/
def sampleArchive : Bytes :=
  [0x50, 0x4b, 0x03, 0x04, 0x14, 0x00, 0x00, 0x00, 0x00, 0x00, 0x00, 0x00,
    0x21, 0x00, 0x3e, 0x6a, 0x6d, 0xf2, 0x01, 0x00, 0x00, 0x00, 0x01, 0x00,
    0x00, 0x00, 0x06, 0x00, 0x00, 0x00, 0x75, 0x76, 0x2e, 0x65, 0x78, 0x65,
    0x75, 0x50, 0x4b, 0x01, 0x02, 0x14, 0x03, 0x14, 0x00, 0x00, 0x00, 0x00,
    0x00, 0x00, 0x00, 0x21, 0x00, 0x3e, 0x6a, 0x6d, 0xf2, 0x01, 0x00, 0x00,
    0x00, 0x01, 0x00, 0x00, 0x00, 0x06, 0x00, 0x00, 0x00, 0x00, 0x00, 0x00,
    0x00, 0x00, 0x00, 0x00, 0x00, 0xed, 0x81, 0x00, 0x00, 0x00, 0x00, 0x75,
    0x76, 0x2e, 0x65, 0x78, 0x65, 0x50, 0x4b, 0x05, 0x06, 0x00, 0x00, 0x00,
    0x00, 0x01, 0x00, 0x01, 0x00, 0x34, 0x00, 0x00, 0x00, 0x25, 0x00, 0x00,
    0x00, 0x00, 0x00]

/-- A host that keeps an older release and may reach a newer one. -/
def olderHost (isOnline : Bool) : Host where
  disk :=
    [([.text "d"], Entry.directory 0o755),
      ([.text "d", .text "uv.exe"], .file { mode := 0o755, content := [0x6f] }),
      ([.text "d", .text "VERSION"],
        .file { mode := 0o644, content := [0x31] })].foldl
      (fun disk item => disk.set item.1 item.2) Disk.blank
  web :=
    { base := "http://s"
      isOnline
      routes :=
        [("/2/uv-x86_64-pc-windows-msvc.zip",
            { body := .whole sampleArchive })] }
  environment := []
  workingDirectory := []

/-- Whether nothing is in the way of a download on a host. -/
def isFavoured (start : Disk) (action : Action) (host : Host) : Bool :=
  decide (host.workingDirectory = []) && !action.isChild &&
    match action with
    | .removeTree path => (host.disk.removeTree [] path).isOk
    | .rename source _ =>
        match host.disk.entryAt [] false source with
        | .ok (origin, .file _) => (start.get? origin).isNone
        | _ => false
    | _ => true

theorem steps_of_isFavoured
    {start : Disk}
    (action : Action)
    (host : Host)
    (favoured : isFavoured start action host = true) :
    Steps [] (fun _ _ _ _ => False) start action host.disk
      (Host.perform action host).1 (Host.perform action host).2.disk := by
  simp only [isFavoured, Bool.and_eq_true, decide_eq_true_eq] at favoured
  obtain ⟨⟨isRoot, notChild⟩, isOwn⟩ := favoured
  have answers :
      Disk.Answers host.workingDirectory (fun _ _ _ _ => False) action
        host.disk (Host.perform action host).1
        (Host.perform action host).2.disk := by
    refine host.answers action fun child isSpawn => ?_
    simp [isSpawn, Action.isChild] at notChild
  rw [isRoot] at answers
  refine ⟨answers, ?_⟩
  cases action with
  | linkStatus path => exact congrArg (host.disk.status · false path) isRoot
  | removeTree path =>
      change (Host.perform (.removeTree path) host).1 = .ok ()
      rw [Host.perform_removeTree, isRoot]
      cases removed : host.disk.removeTree [] path with
      | ok disk => rfl
      | error fault =>
          dsimp only at isOwn
          rw [removed] at isOwn
          cases isOwn
  | rename source target =>
      dsimp only at isOwn
      split at isOwn
      · rename_i origin file finds
        exact ⟨origin, file, finds, Option.isNone_iff_eq_none.mp isOwn⟩
      · cases isOwn
  | _ => trivial

/-- The host after a call that was broken off when it had not yet renamed the mark of its release. -/
def leftoverHost : Host :=
  { olderHost true with
    disk :=
      (olderHost true).disk.set [.text "d", .text ".VERSION.1000.tmp"]
        (.file { mode := 0o644, content := [] }) }

end UvTool

end Provision
