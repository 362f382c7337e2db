import Provision.Proofs.Server.Filling
import Provision.Proofs.Server.Status
import Provision.Proofs.Text.Words
import Provision.Proofs.Venv.Staleness
import Provision.Proofs.Version.Identifiers

namespace Provision

/-!
# Servers that npm installs and finds again

After an installation the storage of a server holds a copy of what its package brings along, the modules that
child processes have added, and the version of the runtime.  From then on the server counts as current for
every runtime of that version.
-/

open Plan

/-! ## Runs -/

namespace NodeRuntime

/-- A runtime keeps the version that is found. -/
theorem ends_resolveVersion
    {step : Stepping Disk}
    {disk last : Disk}
    {runtime after : NodeRuntime}
    {version : Version}
    (ends :
      Ends step (resolveVersion.run.run runtime) disk (.ok version, after)
        last) :
    after = { runtime with version? := some version } := by
  obtain ⟨place, version?⟩ := runtime
  rw [resolveVersion_run] at ends
  cases version? with
  | some known =>
      obtain ⟨isKnown, -⟩ := ends_pure_iff.mp ends
      obtain ⟨isVersion, rfl⟩ := Prod.mk.inj isKnown
      rw [Except.ok.inj isVersion]
  | none =>
      obtain ⟨outcome, middle, asks, tells⟩ := ends_bind_iff.mp ends
      cases outcome with
      | error fault =>
          obtain ⟨isError, -⟩ := ends_pure_iff.mp tells
          simp at isError
      | ok answer =>
          obtain ⟨isAnswer, -⟩ := ends_pure_iff.mp tells
          obtain ⟨isVersion, rfl⟩ := Prod.mk.inj isAnswer
          rw [Except.ok.inj isVersion]

end NodeRuntime

namespace NodeRuntime

variable {State : Type}
variable {step : Stepping State}
variable {state last : State}
variable {runtime : NodeRuntime}
variable {directory : Path}

/-- A package manager that is run at least once, and succeeds, ends with its last child process. -/
theorem ends_runSteps
    {manager : PackageManager}
    {steps : List (List String)}
    (notNil : steps ≠ [])
    (ends :
      Ends step (runtime.runSteps manager directory steps).run state (.ok ())
        last) :
    ∃ child result middle, step (.spawn child) middle (.ok result) last := by
  induction steps generalizing state with
  | nil => exact absurd rfl notNil
  | cons arguments others inductionHypothesis =>
      rw [runSteps] at ends
      obtain ⟨command, _, -, runs⟩ := ends_bindProcedure_iff.mp ends
      obtain ⟨_, _, first, runsOn⟩ := ends_bindProcedure_iff.mp runs
      by_cases isLast : others = []
      · subst isLast
        obtain ⟨-, rfl⟩ := ends_pure_iff.mp runsOn
        obtain ⟨_, middle, result, -, spawns, -⟩ :=
          ends_command_iff.mp (ends_adapt_iff.mp first)
        exact ⟨_, result, middle, spawns⟩
      · exact inductionHypothesis isLast runsOn

/-- Dependencies that are installed are so by a child process in the end. -/
theorem ends_installDependencies
    (ends :
      Ends step (runtime.installDependencies directory).run state (.ok ())
        last) :
    ∃ child result middle, step (.spawn child) middle (.ok result) last := by
  have notNil : runtime.dependencySteps ≠ [] := by
    unfold dependencySteps
    split <;> simp
  unfold installDependencies at ends
  obtain ⟨isThere, _, -, goesOn⟩ := ends_bindLift_iff.mp ends
  cases isThere with
  | false => exact absurd goesOn not_ends_throw
  | true =>
      obtain ⟨manager?, _, -, runs⟩ := ends_bindLift_iff.mp goesOn
      cases manager? with
      | none => exact absurd runs not_ends_throw
      | some manager => exact ends_runSteps notNil runs

end NodeRuntime

namespace NpmServer

variable {server : NpmServer}
variable {workingDirectory : Location}
variable {children : Disk.Children}
variable {step : Stepping Disk}
variable {start disk last : Disk}
variable {source : Path}
variable {origin place : Location}

/-- The version of the runtime is found, and the runtime keeps it. -/
theorem ends_versionText
    {text : String}
    {after : NpmServer}
    (ends :
      Ends step (versionText.run.run server) disk (.ok text, after) last) :
    ∃ version,
      text = version.toText ∧
        after =
          { server with
            runtime := { server.runtime with version? := some version } } ∧
          ∃ value,
            Ends step (NodeRuntime.resolveVersion.run.run server.runtime) disk
              value last := by
  unfold versionText at ends
  obtain ⟨version, between, middle, asks, tells⟩ :=
    ends_bindSession_iff.mp ends
  obtain ⟨rfl, rfl, rfl⟩ := ends_pureSession_iff.mp tells
  obtain ⟨⟨outcome, runtime⟩, _, resolves, settles⟩ :=
    ends_bind_iff.mp asks
  obtain ⟨isSettled, rfl⟩ := ends_pure_iff.mp settles
  obtain ⟨isVersion, rfl⟩ := Prod.mk.inj isSettled
  obtain rfl := Outcome.mapError_eq_ok_iff.mp isVersion.symm
  exact ⟨version, rfl, by rw [NodeRuntime.ends_resolveVersion resolves], _,
    resolves⟩

/--
A server comes with its package, apart from its storage: its directory is found without the storage and has a
manifest that can be read, and it has nothing with a name that the storage needs for itself.
-/
structure ComesAlong
    (server : NpmServer)
    (workingDirectory : Location)
    (disk : Disk)
    (source : Path)
    (origin : Location)
    (manifest : Bytes) :
    Prop where
  resolves : server.resources.resolve server.options.source = .ok source
  leads :
    ∃ left,
      (disk.outside workingDirectory server.options.storage).LeadsTo
        workingDirectory source left origin
  readsManifest :
    (disk.outside workingDirectory server.options.storage).readFile
        workingDirectory (source.within .packageManifest) =
      .ok manifest
  areApart :
    ∀ place,
      disk.IsPlaceOf workingDirectory server.options.storage place →
      Disk.AreApart origin place
  noMark : disk.get? (origin ++ [markName]) = none
  noVersion : disk.get? (origin ++ [versionName]) = none
  noTemporary :
    ∀ processId,
      disk.get?
          (origin ++
            [.text
              (Files.temporaryName
                (server.options.storage.within .nodeVersion) processId)]) =
        none

/-- An installation clears the storage and fills it anew with what comes with the package. -/
theorem ends_installSteps
    {manifest : Bytes}
    {after : NpmServer}
    (answersBy : Disk.AnswersBy workingDirectory children step)
    (childrenAdd :
      ∀ child disk reply later,
        disk.IsTree →
        disk.ListsOnce →
        children child disk reply later →
        disk.AddsModules later workingDirectory server.options.copy)
    (tree : start.IsTree)
    (once : start.ListsOnce)
    (isNamed : server.options.storage ≠ Path.empty)
    (upFirst : server.options.storage.UpFirst)
    (comes :
      server.ComesAlong workingDirectory start source origin manifest)
    (ends :
      Ends step (installSteps.run.run server) start (.ok (), after) last) :
    ∃ version cleared place made marked copied supplied written,
      after =
          { server with
            runtime := { server.runtime with version? := some version } } ∧
        start.ClearsTree cleared workingDirectory server.options.storage ∧
          Fills server.options workingDirectory source origin place
              version.toText cleared made marked copied supplied written
              last ∧
            (server.options.skipDependencies = false →
              Ends step
                (server.runtime.installDependencies
                  server.options.copy).run
                copied (.ok ()) supplied) := by
  unfold installSteps at ends
  obtain ⟨_, _, _, gets, clears⟩ := ends_bindSession_iff.mp ends
  obtain ⟨rfl, rfl, rfl⟩ := ends_getSession_iff.mp gets
  obtain ⟨_, _, emptied, removes, asks⟩ := ends_bindSession_iff.mp clears
  obtain ⟨removesTree, rfl⟩ := ends_within_iff.mp removes
  obtain ⟨text, between, cleared, tells, fillsAll⟩ :=
    ends_bindSession_iff.mp asks
  obtain ⟨fillsStorage, rfl⟩ := ends_within_iff.mp fillsAll
  have emptiesTree :=
    Files.ends_removeTree_clears answersBy tree once isNamed
      (ends_adapt_iff.mp removesTree)
  obtain ⟨version, rfl, isAfter, _, resolvesVersion⟩ := ends_versionText tells
  have adds :=
    Disk.ends_addsModules answersBy childrenAdd
      (server.runtime.resolveVersion_asksOnly.mono
        fun _ => Action.isQuiet_of_runsIn)
      emptiesTree.isTree emptiesTree.listsOnce resolvesVersion
  have clearsTree :=
    emptiesTree.congr adds.isTree adds.listsOnce
      (get?_of_cleared emptiesTree adds)
  have sameOrigin (name : Name) :
      cleared.get? (origin ++ [name]) = start.get? (origin ++ [name]) :=
    clearsTree.get?_of_areApart comes.areApart [name]
  obtain ⟨left, leads⟩ := comes.leads
  obtain ⟨place, made, marked, copied, supplied, written, fills, supplies⟩ :=
    ends_fill answersBy childrenAdd clearsTree isNamed upFirst comes.resolves
      (fun later _ place within leadsLater =>
        (leadsLater.unique
          (leads.mono (clearsTree.outside_within.trans within))).2.symm)
      comes.areApart ((sameOrigin _).trans comes.noMark)
      ((sameOrigin _).trans comes.noVersion)
      (fun processId => (sameOrigin _).trans (comes.noTemporary processId))
      fillsStorage
  exact ⟨version, cleared, place, made, marked, copied, supplied, written,
    isAfter, clearsTree, fills, supplies⟩

/-! ## Checking what is installed -/

section

variable {host : Host}
variable {version : Version}
variable {manifest : Bytes}

/-- A host finds nothing where something is gone. -/
theorem run_exists?_of_isGone
    {path : Path}
    (isGone : host.disk.IsGone host.workingDirectory path) :
    (Files.exists? path).run Host.perform host = (false, host) := by
  change ((host.disk.status host.workingDirectory true path).isOk, host) = _
  rw [Disk.status]
  cases finds : host.disk.entryAt host.workingDirectory true path with
  | error fault => rfl
  | ok found => exact absurd finds (isGone found)

/-- A host finds a server complete that has its modules, if it needs them, and no mark. -/
theorem ends_isComplete
    (hasModules :
      server.options.skipDependencies = false →
      ∃ mode,
        host.disk.status host.workingDirectory true
            (server.options.copy.within .nodeModules) =
          .ok ⟨.directory, mode⟩)
    (isUnmarked :
      host.disk.IsGone host.workingDirectory (server.inStorage .installing)) :
    Ends (answersOf Host.perform) server.isComplete host true host := by
  obtain ⟨isThere, runs⟩ :=
    host.exists_run_isDirectory (server.options.copy.within .nodeModules)
  have notLacking :
      (!server.options.skipDependencies && !isThere) = false := by
    cases skips : server.options.skipDependencies with
    | true => rfl
    | false =>
        obtain ⟨mode, isStatus⟩ := hasModules skips
        rw [Files.isDirectory, Host.run, Plan.run_bind, Plan.ask, Plan.run,
          Host.perform_status, isStatus] at runs
        obtain ⟨rfl, -⟩ := Prod.mk.inj runs
        rfl
  unfold isComplete
  refine ends_bind_iff.mpr ⟨isThere, host, ends_answersOf_iff.mpr runs, ?_⟩
  rw [notLacking, if_neg Bool.false_ne_true]
  exact ends_bind_iff.mpr
    ⟨false, host, ends_answersOf_iff.mpr (run_exists?_of_isGone isUnmarked),
      ends_pure_iff.mpr ⟨rfl, rfl⟩⟩

/-- A host reads the manifest of a server if its content is known. -/
theorem ends_readManifest
    (isContent :
      server.resources.content? host.workingDirectory host.disk
          server.options.manifest =
        some manifest) :
    Ends (answersOf Host.perform) server.readManifest.run host (.ok manifest)
      host := by
  unfold readManifest
  refine ends_bindLift_iff.mpr ⟨true, host, ?_, ?_⟩
  · rw [ends_answersOf_iff, Resources.run_exists?,
      Resources.isThere_of_content isContent]
  · rw [if_neg (by decide)]
    exact ends_answersOf_iff.mpr
      (Resources.run_readBytes_of_content isContent)

/-- A host is told the version of a runtime that has it. -/
theorem ends_versionText_of_hasVersion
    (hasVersion :
      server.runtime.HasVersion Host.perform version host host) :
    Ends (answersOf Host.perform) (versionText.run.run server) host
      (.ok version.toText,
        { server with
          runtime := { server.runtime with version? := some version } })
      host := by
  have resolves :
      Ends (answersOf Host.perform)
        (NodeRuntime.resolveVersion.run.run server.runtime) host
        (.ok version, { server.runtime with version? := some version })
        host := by
    rw [NodeRuntime.resolveVersion_run]
    rcases hasVersion with isKnown | ⟨isUnknown, answers⟩
    · rw [isKnown]
      exact ends_pure_iff.mpr ⟨by rw [← isKnown], rfl⟩
    · rw [isUnknown]
      exact ends_bind_iff.mpr
        ⟨.ok version, host, ends_answersOf_iff.mpr answers,
          ends_pure_iff.mpr ⟨rfl, rfl⟩⟩
  unfold versionText
  refine ends_bindSession_iff.mpr
    ⟨version, _, host, ?_, ends_pureSession_iff.mpr ⟨rfl, rfl, rfl⟩⟩
  exact ends_bind_iff.mpr
    ⟨_, host, resolves, ends_pure_iff.mpr ⟨rfl, rfl⟩⟩

/--
The storage of a server is current if it is complete, the version that is written down there is that of the
runtime, and the copy of the manifest is what the package has.
-/
theorem ends_isCurrent
    (hasVersion :
      server.runtime.HasVersion Host.perform version host host)
    (isContent :
      server.resources.content? host.workingDirectory host.disk
          server.options.manifest =
        some manifest)
    (isComplete :
      Ends (answersOf Host.perform) server.isComplete host true host)
    (readsVersion :
      host.disk.readFile host.workingDirectory
          (server.inStorage .nodeVersion) =
        .ok (Text.Utf8.ofString version.toText))
    (readsCopy :
      host.disk.readFile host.workingDirectory
          (server.options.copy.within .packageManifest) =
        .ok manifest) :
    Ends (answersOf Host.perform) (isCurrent.run.run server) host
      (.ok true,
        { server with
          runtime := { server.runtime with version? := some version } })
      host := by
  have isVisible := version.toText_isVisible
  unfold isCurrent
  refine ends_bindSession_iff.mpr
    ⟨server, server, host, ends_getSession_iff.mpr ⟨rfl, rfl, rfl⟩, ?_⟩
  refine ends_bindSession_iff.mpr ⟨manifest, server, host,
    ends_within_iff.mpr ⟨ends_readManifest isContent, rfl⟩, ?_⟩
  unfold isCurrentFor
  refine ends_bindSession_iff.mpr
    ⟨server, server, host, ends_getSession_iff.mpr ⟨rfl, rfl, rfl⟩, ?_⟩
  refine ends_bindSession_iff.mpr ⟨true, server, host,
    ends_within_iff.mpr ⟨ends_bind_iff.mpr
      ⟨true, host, isComplete, ends_pure_iff.mpr ⟨rfl, rfl⟩⟩, rfl⟩, ?_⟩
  rw [if_neg (by decide)]
  refine ends_bindSession_iff.mpr ⟨some version.toText, server, host,
    ends_within_iff.mpr
      ⟨ends_adapt_iff.mpr (Files.ends_readText? readsVersion), rfl⟩, ?_⟩
  refine ends_bindSession_iff.mpr ⟨version.toText, _, host,
    ends_versionText_of_hasVersion hasVersion, ?_⟩
  rw [Option.map_some, isVisible.trimmed_eq, if_neg (not_not_intro rfl)]
  refine ends_within_iff.mpr ⟨ends_adapt_iff.mpr ?_, rfl⟩
  exact Checksum.ends_matchesFile_iff.mpr
    ⟨rfl, Or.inl ⟨manifest, readsCopy, (decide_eq_true rfl).symm⟩⟩

end

end NpmServer

namespace Managed

/-- An installation that succeeds has gone through its steps, and the server is ready. -/
theorem ends_install
    {σ : Type}
    [Server σ]
    {step : Stepping Disk}
    {managed after : Managed σ}
    {disk last : Disk}
    (ends :
      Ends step (install.run.run managed) disk (.ok (), after) last) :
    Ends step (Server.installSteps.run.run managed.server) disk
        (.ok (), after.server) last ∧
      after.status = .ready := by
  obtain ⟨steps, installs, isOk, isStatus⟩ := exists_steps_of_install ends
  obtain rfl := Outcome.mapError_eq_ok_iff.mp isOk.symm
  exact ⟨installs, isStatus⟩

/-- A server that is found current need not be installed, and is ready. -/
theorem ends_needsInstallation
    {σ : Type}
    [Server σ]
    {State : Type}
    {step : Stepping State}
    {state last : State}
    {managed : Managed σ}
    {server : σ}
    (isCurrent :
      Ends step (Server.isCurrent.run.run managed.server) state
        (.ok true, server) last) :
    Ends step (needsInstallation.run.run managed) state
      (.ok false, { server, status := .ready }) last := by
  unfold needsInstallation
  refine ends_bindSession_iff.mpr
    ⟨true, { managed with server }, last, ?_, ?_⟩
  · exact ends_bind_iff.mpr ⟨_, last, isCurrent, ends_pure_iff.mpr ⟨rfl, rfl⟩⟩
  · exact ends_pure_iff.mpr ⟨rfl, rfl⟩

/-- Check several times in a row whether a server has to be installed. -/
def checks {σ : Type} [Server σ] : Nat → Session (Managed σ) ServerFault (List Bool)
  | 0 => return []
  | times + 1 => do
      let needed ← needsInstallation
      return needed :: (← checks times)

end Managed

namespace NpmServer

variable {server : NpmServer}
variable {workingDirectory : Location}
variable {children : Disk.Children}
variable {step : Stepping Disk}
variable {start disk last : Disk}
variable {source : Path}
variable {origin place : Location}
variable {version : Version}
variable {manifest : Bytes}

/-! ## Installed servers -/

/-- What is installed in a storage is complete, and it is what the package has, for a runtime of a version. -/
structure IsInstalled
    (server : NpmServer)
    (workingDirectory : Location)
    (disk : Disk)
    (version : Version)
    (manifest : Bytes) :
    Prop where
  isUnmarked : disk.IsGone workingDirectory (server.inStorage .installing)
  hasModules :
    server.options.skipDependencies = false →
    ∃ mode,
      disk.status workingDirectory true
          (server.options.copy.within .nodeModules) =
        .ok ⟨.directory, mode⟩
  readsVersion :
    disk.readFile workingDirectory (server.inStorage .nodeVersion) =
      .ok (Text.Utf8.ofString version.toText)
  isContent :
    server.resources.content? workingDirectory disk
        server.options.manifest =
      some manifest
  readsCopy :
    disk.readFile workingDirectory
        (server.options.copy.within .packageManifest) =
      .ok manifest

/-- Checking an installed server again and again finds it current and leaves the host as it is. -/
theorem IsInstalled.ends_checks
    {host : Host}
    (installed :
      server.IsInstalled host.workingDirectory host.disk version manifest)
    (managed : Managed NpmServer)
    (isOptions : managed.server.options = server.options)
    (isResources : managed.server.resources = server.resources)
    (hasVersion :
      managed.server.runtime.HasVersion Host.perform version host host)
    (times : Nat) :
    ∃ checked : Managed NpmServer,
      Ends (answersOf Host.perform) ((Managed.checks times).run.run managed)
          host (.ok (List.replicate times false), checked) host ∧
        (managed.status = .ready ∨ times ≠ 0 → checked.status = .ready) := by
  induction times generalizing managed with
  | zero =>
      exact ⟨managed, ends_pureSession_iff.mpr ⟨rfl, rfl, rfl⟩, by simp⟩
  | succ times inductionHypothesis =>
      obtain ⟨⟨options, resources, runtime⟩, status⟩ := managed
      obtain rfl : options = server.options := isOptions
      obtain rfl : resources = server.resources := isResources
      -- The version is known from the first check on.
      let known : NpmServer :=
        { server with runtime := { runtime with version? := some version } }
      have isCurrent :
          Ends (answersOf Host.perform)
            (NpmServer.isCurrent.run.run { server with runtime }) host
            (.ok true, known) host :=
        ends_isCurrent hasVersion installed.isContent
          (ends_isComplete installed.hasModules installed.isUnmarked)
          installed.readsVersion installed.readsCopy
      have checksOnce :
          Ends (answersOf Host.perform)
            (Managed.needsInstallation.run.run
              ⟨{ server with runtime }, status⟩)
            host (.ok false, ⟨known, .ready⟩) host :=
        Managed.ends_needsInstallation isCurrent
      obtain ⟨checked, checksOn, isReady⟩ :=
        inductionHypothesis ⟨known, .ready⟩ rfl rfl (.known rfl)
      refine ⟨checked, ?_, fun _ => isReady (Or.inl rfl)⟩
      exact ends_bindSession_iff.mpr ⟨false, _, host, checksOnce,
        ends_bindSession_iff.mpr ⟨_, checked, host, checksOn,
          ends_pureSession_iff.mpr ⟨rfl, rfl, rfl⟩⟩⟩

/-! ## Installing and checking -/

/-- A file with a plain name that is read in a directory has an entry there. -/
theorem get?_of_readFile
    {left : Nat}
    {name : Name}
    {content : Bytes}
    (leads : disk.LeadsTo workingDirectory source left origin)
    (isPlain : name.isPlain = true)
    (reads :
      disk.readFile workingDirectory (source.child name) = .ok content) :
    disk.get? (origin ++ [name]) ≠ none := by
  obtain ⟨location, file, finds, -⟩ := Disk.exists_of_readFile_eq_ok reads
  have notEmpty : name ≠ .text "" := by
    rintro rfl
    exact absurd isPlain (by decide)
  obtain ⟨_, there, ledTo, walks⟩ :=
    Disk.leadsTo_of_locate_child notEmpty (Disk.entryAt_eq_ok_iff.mp finds)
  obtain rfl : there = origin := (leads.unique ledTo).2
  obtain ⟨-, ⟨isFound, -⟩ | ⟨-, _, target, -, isLink, -⟩⟩ :=
    walks.cases_of_isPlain isPlain
  · rw [← (Disk.Found.mk.inj isFound).2]
    exact Option.some_ne_none _
  · rw [isLink]
    exact Option.some_ne_none _

/--
The storage of a server has been made anew: it holds a copy of every file that comes with the server, and apart
from what an installation makes there is only what was there before, but nothing of what was in the storage.
-/
structure IsRenewed
    (options : NpmOptions)
    (workingDirectory : Location)
    (source : Path)
    (origin place : Location)
    (start last : Disk) :
    Prop where
  leads : ∃ left, last.LeadsTo workingDirectory options.storage left place
  holdsFiles :
    ∀ below file,
      below ≠ [] →
      start.get? (origin ++ below) = some (.file file) →
      last.FindsFile workingDirectory (options.copy.below below)
        (place ++ options.inner ++ below) file.content
  holdsContents :
    ∀ below content,
      below ≠ [] →
      start.get? (origin ++ below) ≠ none →
      (start.outside workingDirectory options.storage).readFile
          workingDirectory (source.below below) =
        .ok content →
      last.FindsFile workingDirectory (options.copy.below below)
        (place ++ options.inner ++ below) content
  isNew :
    ∀ location entry,
      last.get? location = some entry →
      IsMade options start origin place location ∨
        start.get? location = some entry ∧ ¬place <+: location ∧
          ∀ old root,
            start.entryAt workingDirectory false options.storage =
                .ok (old, root) →
            old <+: location →
            location = old ∧ entry.isDirectory = true

/-- A storage that is cleared and then filled has been made anew. -/
theorem Fills.isRenewed
    {options : NpmOptions}
    {version : String}
    {cleared made marked copied supplied written : Disk}
    (fills :
      Fills options workingDirectory source origin place version cleared made
        marked copied supplied written last)
    (clears : start.ClearsTree cleared workingDirectory options.storage)
    (areApart :
      ∀ place,
        start.IsPlaceOf workingDirectory options.storage place →
        Disk.AreApart origin place) :
    IsRenewed options workingDirectory source origin place start last := by
  have sameOrigin := clears.get?_of_areApart areApart
  refine ⟨fills.leads_last, fun below file notNil stands => ?_,
    fun below content notNil isThere reads => ?_,
    fun location entry stands => ?_⟩
  · rw [← sameOrigin] at stands
    exact fills.findsFile notNil stands
  · rw [← sameOrigin] at isThere
    exact fills.findsContent notNil isThere
      (clears.outside_within.readFile reads)
  · rcases fills.get?_eq_some stands with isMade | ⟨stood, notBelow⟩
    · left
      cases isMade with
      | way isAbove => exact .way isAbove
      | version => exact .version
      | copied notNil isThere =>
          rw [sameOrigin] at isThere
          exact .copied notNil isThere
      | added installs isBelow => exact .added installs isBelow
    · exact Or.inr ⟨clears.within _ _ stood, notBelow,
        fun old root finds isBelow =>
          clears.isCleared old root location entry finds isBelow stood⟩

/-- A storage that is filled is found installed. -/
theorem Fills.isInstalled
    {cleared made marked copied supplied written : Disk}
    (fills :
      Fills server.options workingDirectory source origin place version.toText
        cleared made marked copied supplied written last)
    (clears :
      start.ClearsTree cleared workingDirectory server.options.storage)
    (comes :
      server.ComesAlong workingDirectory start source origin manifest)
    (hasModules :
      server.options.skipDependencies = false →
      ∃ mode,
        supplied.status workingDirectory true
            (server.options.copy.within .nodeModules) =
          .ok ⟨.directory, mode⟩) :
    server.IsInstalled workingDirectory last version manifest := by
  have reads := clears.outside_within.readFile comes.readsManifest
  have isThere :
      cleared.get? (origin ++ [.text StorageName.packageManifest.text]) ≠
        none := by
    obtain ⟨left, leads⟩ := comes.leads
    exact get?_of_readFile (leads.mono clears.outside_within)
      (by decide +kernel) reads
  have findsCopy := fills.findsContent (List.cons_ne_nil _ []) isThere reads
  rw [Path.below_singleton] at findsCopy
  have isContent :
      server.resources.content? workingDirectory last
          server.options.manifest =
        some manifest :=
    Resources.content?_eq_some_iff.mpr
      ⟨_, NpmOptions.resolve_manifest comes.resolves,
        fills.within_last.readFile reads⟩
  exact ⟨fills.isGone,
    fun installs => (hasModules installs).imp fun _ => fills.status_eq,
    fills.findsVersion.readFile, isContent, findsCopy.readFile⟩

/--
A server that is installed is ready, its storage has been made anew, and as long as the disk stays as it is the
server is found current every time, by itself and by every other one with the same package and storage whose
runtime has the same version, without any change to the disk.
-/
theorem install_roundTrip
    {managed after : Managed NpmServer}
    (answersBy : Disk.AnswersBy workingDirectory children step)
    (childrenAdd :
      ∀ child disk reply later,
        disk.IsTree →
        disk.ListsOnce →
        children child disk reply later →
        disk.AddsModules later workingDirectory managed.server.options.copy)
    (modulesCome :
      managed.server.options.skipDependencies = false →
      ∀ disk later,
        Ends step
          (managed.server.runtime.installDependencies
            managed.server.options.copy).run
          disk (.ok ()) later →
        ∃ mode,
          later.status workingDirectory true
              (managed.server.options.copy.within .nodeModules) =
            .ok ⟨.directory, mode⟩)
    (tree : start.IsTree)
    (once : start.ListsOnce)
    (isNamed : managed.server.options.storage ≠ Path.empty)
    (upFirst : managed.server.options.storage.UpFirst)
    (comes :
      managed.server.ComesAlong workingDirectory start source origin manifest)
    (ends :
      Ends step (Managed.install.run.run managed) start (.ok (), after)
        last) :
    ∃ version place,
      after.status = .ready ∧
        after.server =
            { managed.server with
              runtime :=
                { managed.server.runtime with version? := some version } } ∧
          last.IsGone workingDirectory
              (managed.server.inStorage .installing) ∧
            IsRenewed managed.server.options workingDirectory source origin
                place start last ∧
              ∀ (host : Host) (other : Managed NpmServer),
                host.disk = last →
                host.workingDirectory = workingDirectory →
                other = after ∨
                    other.server.options = managed.server.options ∧
                      other.server.resources = managed.server.resources ∧
                        other.server.runtime.HasVersion Host.perform version
                          host host →
                ∀ times,
                  ∃ checked,
                    host.run ((Managed.checks times).run.run other) =
                        ((.ok (List.replicate times false), checked), host) ∧
                      (times ≠ 0 → checked.status = .ready) := by
  obtain ⟨installs, isReady⟩ := Managed.ends_install ends
  obtain ⟨version, cleared, place, made, marked, copied, supplied, written,
    isAfter, clears, fills, supplies⟩ :=
    ends_installSteps answersBy childrenAdd tree once isNamed upFirst comes
      installs
  have installed :=
    fills.isInstalled clears comes fun installs =>
      modulesCome installs _ _ (supplies installs)
  refine ⟨version, place, isReady, isAfter, installed.isUnmarked,
    fills.isRenewed clears comes.areApart, ?_⟩
  rintro host other rfl rfl isKnown times
  obtain ⟨isOptions, isResources, hasVersion⟩ :
      other.server.options = managed.server.options ∧
        other.server.resources = managed.server.resources ∧
          other.server.runtime.HasVersion Host.perform version host host := by
    rcases isKnown with rfl | isKnown
    · rw [isAfter]
      exact ⟨rfl, rfl, .known rfl⟩
    · exact isKnown
  obtain ⟨checked, checks, isReady⟩ :=
    installed.ends_checks other isOptions isResources hasVersion times
  exact ⟨checked, ends_answersOf_iff.mp checks,
    fun isSome => isReady (Or.inr isSome)⟩

/-! ## A server with dependencies -/

/-- A server of a package, for a runtime whose version is known. -/
def sampleServer : NpmServer where
  options := {
    package := "p"
    directory := "/server/"
    binary := "server/main.js"
    storage := "/s/p"
    minimumVersion := (18, 0, 0)
    requiredVersion := ""
    skipDependencies := false }
  resources := ⟨"/r"⟩
  runtime := {
    place := .found (some "/node") (some "/npm")
    version? := some ⟨22, 18, 0, [], []⟩ }

/-- A disk with the package of the server, and with an older file in its storage. -/
def packagedDisk : Disk :=
  ⟨[
    ([], .directory 0o755),
    ([.text "s"], .directory 0o755),
    ([.text "s", .text "p"], .directory 0o755),
    ([.text "s", .text "p", .text "old.txt"],
      .file { mode := 0o644, content := [0x6f] }),
    ([.text "r"], .directory 0o755),
    ([.text "r", .text "p"], .directory 0o755),
    ([.text "r", .text "p", .text "server"], .directory 0o755),
    ([.text "r", .text "p", .text "server", .text "package.json"],
      .file { mode := 0o644, content := [0x7b, 0x7d] }),
    ([.text "r", .text "p", .text "server", .text "main.js"],
      .file { mode := 0o755, content := [0x3b] })]⟩

/-- Where the package manager puts the modules of the server. -/
def sampleModules : Location :=
  [.text "s", .text "p", .text "server", .text "node_modules"]

/-- Child processes make the directory of the modules in the copy of the server. -/
def makesModules : Disk.Children :=
  fun _ disk reply later =>
    disk.entryAt [] true sampleServer.options.copy =
        .ok ([.text "s", .text "p", .text "server"], .directory 0o755) ∧
      disk.get? sampleModules = none ∧
        reply = .ok ⟨.exited 0, [], []⟩ ∧
          later = disk.set sampleModules (.directory 0o755)

/-- Surroundings in which child processes do so. -/
def managing : Surroundings Host
  | .spawn _, host =>
      (.ok ⟨.exited 0, [], []⟩,
        { host with
          disk := host.disk.set sampleModules (.directory 0o755) })
  | action, host => Host.perform action host

/-- Whether child processes find the copy of the server, and no modules there. -/
def isAwaited (action : Action) (host : Host) : Bool :=
  decide (host.workingDirectory = []) &&
    (!action.isChild ||
      decide
          (host.disk.entryAt [] true sampleServer.options.copy =
            .ok ([.text "s", .text "p", .text "server"],
              .directory 0o755)) &&
        decide (host.disk.get? sampleModules = none))

/-- What the surroundings answer then is an answer of the disk. -/
theorem answers_of_isAwaited
    (action : Action)
    (host : Host)
    (awaited : isAwaited action host = true) :
    Disk.Answers [] makesModules action host.disk
      (managing action host).1 (managing action host).2.disk := by
  simp only [isAwaited, Bool.and_eq_true, Bool.or_eq_true,
    decide_eq_true_eq] at awaited
  obtain ⟨isRoot, isReady⟩ := awaited
  rw [← isRoot]
  apply Host.answers_of_performs
  · intro action host isChild
    cases action <;> first | rfl | simp [Action.isChild] at isChild
  · rintro child rfl
    obtain ⟨finds, isMissing⟩ := isReady.resolve_left (by simp [Action.isChild])
    exact ⟨finds, isMissing, rfl, rfl⟩

/-- Child processes that make the directory of the modules add modules. -/
theorem makesModules_adds
    {child : ChildProcess}
    {later : Disk}
    {reply : Except DiskFault ProcessOutput}
    (tree : disk.IsTree)
    (once : disk.ListsOnce)
    (makes : makesModules child disk reply later) :
    disk.AddsModules later [] sampleServer.options.copy := by
  obtain ⟨finds, isMissing, -, rfl⟩ := makes
  have isDirectory :
      disk.HasDirectory [.text "s", .text "p", .text "server"] :=
    ⟨_, Disk.get?_of_entryAt finds⟩
  obtain ⟨left, leads⟩ := Disk.leadsTo_of_entryAt finds
  refine ⟨tree.set isDirectory (by decide +kernel) ?_, once.set _ _,
    Disk.within_set isMissing, fun location => ?_⟩
  · rintro ⟨mode, stands⟩
    exact absurd (stands.symm.trans isMissing) (by simp)
  · by_cases isModules : location = sampleModules
    · exact Or.inr ⟨left, _, leads, isDirectory, isModules ▸ List.prefix_rfl⟩
    · exact Or.inl (Disk.get?_set_of_ne disk _ isModules)

/-- Dependencies of the server that are installed are in the directory of the modules. -/
theorem makesModules_comes
    {later : Disk}
    (ends :
      Ends (Disk.Answers [] makesModules)
        (sampleServer.runtime.installDependencies
          sampleServer.options.copy).run
        disk (.ok ()) later) :
    later.status [] true (sampleServer.options.copy.within .nodeModules) =
      .ok ⟨.directory, 0o755⟩ := by
  obtain ⟨child, result, middle, finds, isMissing, -, rfl⟩ :=
    NodeRuntime.ends_installDependencies ends
  have within : middle.Within (middle.set sampleModules (.directory 0o755)) :=
    Disk.within_set isMissing
  have isOpen :
      (middle.set sampleModules (.directory 0o755)).IsOpen
        [.text "s", .text "p", .text "server"] :=
    ⟨_, within _ _ (Disk.get?_of_entryAt finds), by decide⟩
  have isPlain : Disk.modulesName.isPlain = true := by decide +kernel
  have isUsable :
      (sampleServer.options.copy.child Disk.modulesName).isUsable = true := by
    decide +kernel
  obtain ⟨left, leads⟩ := Disk.leadsTo_of_entryAt finds
  have locates := Disk.locate_child isUsable (leads.mono within) true
  rw [Disk.walk_of_get? isOpen isPlain (Disk.get?_set_self middle _ _)
    (Or.inl rfl)] at locates
  have findsModules := Disk.entryAt_eq_ok_iff.mpr locates
  rw [Path.within, Disk.status]
  exact findsModules ▸ rfl

/-- The package of the server comes with all that is needed, apart from the storage. -/
theorem sampleServer_comesAlong :
    sampleServer.ComesAlong [] packagedDisk "/r/p/server"
      [.text "r", .text "p", .text "server"] [0x7b, 0x7d] := by
  have isShort
      (item : Location × Entry)
      (member : item ∈ packagedDisk.entries)
      (text : String)
      (isLast : item.1.getLast? = some (.text text)) :
      text.length < 19 := by
    have areShort :
        ∀ item ∈ packagedDisk.entries,
          item.1.getLast?.all fun name => name.display.length < 19 := by
      decide +kernel
    have isShort := areShort item member
    rw [isLast] at isShort
    exact of_decide_eq_true isShort
  have noLink (location : Location) (target : Path) :
      packagedDisk.get? location ≠ some (.link target) := by
    intro isLink
    have noLinks :
        ∀ item ∈ packagedDisk.entries, item.2.isLink = false := by
      decide +kernel
    simpa [Entry.isLink] using noLinks _ (Disk.mem_entries_of_get? isLink)
  refine ⟨by decide +kernel, ?_, by decide +kernel, ?_, by decide +kernel,
    by decide +kernel, fun processId => ?_⟩
  · have finds :
        (packagedDisk.outside [] sampleServer.options.storage).entryAt [] true
            "/r/p/server" =
          .ok ([.text "r", .text "p", .text "server"], .directory 0o755) := by
      decide +kernel
    exact Disk.leadsTo_of_entryAt finds
  · intro place isPlace
    have isStorage : place = [.text "s", .text "p"] := by
      cases isPlace with
      | old finds =>
          have isFound :
              packagedDisk.entryAt [] false sampleServer.options.storage =
                .ok ([.text "s", .text "p"], .directory 0o755) := by
            decide +kernel
          exact (Prod.mk.inj (Except.ok.inj (finds.symm.trans isFound))).1
      | new clears makes =>
          obtain ⟨left, leads⟩ := makes.leads
          refine leads.eq_append_filter (by decide +kernel)
            fun below _ _ target isLink => ?_
          rcases makes.gains _ with isSame | ⟨-, ⟨mode, stands⟩, -⟩
          · exact noLink _ target (clears.within _ _ (isSame ▸ isLink))
          · exact absurd (isLink.symm.trans stands) (by simp)
    rw [isStorage]
    exact ⟨by decide, by decide⟩
  · by_contra isThere
    obtain ⟨entry, stands⟩ := Option.ne_none_iff_exists'.mp isThere
    exact temporaryName_ne sampleServer.options.storage processId
      (isShort _ (Disk.mem_entries_of_get? stands) _ List.getLast?_concat) rfl

/-- The installation of the server. -/
def sampleRun : (Except ServerFault Unit × Managed NpmServer) × Host :=
  (Managed.install.run.run ⟨sampleServer, .uninitialized⟩).run managing
    (Host.ofDisk packagedDisk)

/-- The server is installed with its modules and found current from then on. -/
theorem sampleServer_roundTrip :
    Ends (Disk.Answers [] makesModules)
        (Managed.install.run.run ⟨sampleServer, .uninitialized⟩) packagedDisk
        (.ok (), sampleRun.1.2) sampleRun.2.disk ∧
      sampleRun.2.disk.get? sampleModules = some (.directory 0o755) ∧
        sampleRun.2.disk.get? [.text "s", .text "p", .text "old.txt"] =
            none ∧
          ∃ place,
            IsRenewed sampleServer.options [] "/r/p/server"
                [.text "r", .text "p", .text "server"] place packagedDisk
                sampleRun.2.disk ∧
              ∀ times,
                ∃ checked,
                  (Host.ofDisk sampleRun.2.disk).run
                      ((Managed.checks times).run.run sampleRun.1.2) =
                    ((.ok (List.replicate times false), checked),
                      Host.ofDisk sampleRun.2.disk) := by
  have installs :
      Ends (Disk.Answers [] makesModules)
        (Managed.install.run.run ⟨sampleServer, .uninitialized⟩) packagedDisk
        (.ok (), sampleRun.1.2) sampleRun.2.disk := by
    have ends :=
      ends_of_passes Host.disk answers_of_isAwaited
        (show
          (Managed.install.run.run ⟨sampleServer, .uninitialized⟩).passes
              managing isAwaited (Host.ofDisk packagedDisk) =
            true by decide +kernel)
    have succeeds : sampleRun.1.1 = .ok () := by decide +kernel
    rw [← succeeds]
    exact ends
  refine ⟨installs, by decide +kernel, by decide +kernel, ?_⟩
  have tree : packagedDisk.IsTree :=
    Disk.isTree_of_entries (by decide +kernel)
  have once : packagedDisk.ListsOnce := by decide +kernel
  have isNamed : sampleServer.options.storage ≠ Path.empty := by
    decide +kernel
  have upFirst : sampleServer.options.storage.UpFirst := by decide +kernel
  obtain ⟨version, place, -, -, -, isRenewed, checks⟩ :=
    @install_roundTrip [] makesModules (Disk.Answers [] makesModules)
      packagedDisk sampleRun.2.disk "/r/p/server"
      [.text "r", .text "p", .text "server"] [0x7b, 0x7d]
      ⟨sampleServer, .uninitialized⟩ sampleRun.1.2
      (fun _ _ _ _ answered => answered)
      (fun _ _ _ _ tree once makes => makesModules_adds tree once makes)
      (fun _ _ _ ends => ⟨0o755, makesModules_comes ends⟩) tree once isNamed
      upFirst sampleServer_comesAlong installs
  exact ⟨place, isRenewed, fun times =>
    (checks (Host.ofDisk sampleRun.2.disk) sampleRun.1.2 rfl rfl
      (Or.inl rfl) times).imp fun _ => And.left⟩

/-- The server with a storage whose path goes up from a directory that is missing, and no dependencies. -/
def detouredServer : NpmServer where
  options := {
    sampleServer.options with
    storage := "/s/x/../p"
    skipDependencies := true }
  resources := sampleServer.resources
  runtime := sampleServer.runtime

/--
A storage that is not found until a directory on the way to it is made is not cleared: the older file is still in it
when the installation has succeeded.
-/
theorem older_file_survives :
    detouredServer.options.validate = .ok () ∧
      packagedDisk.get? [.text "s", .text "p", .text "old.txt"] =
        some (.file { mode := 0o644, content := [0x6f] }) ∧
      ((Host.ofDisk packagedDisk).run
            (Managed.install.run.run
              ⟨detouredServer, .uninitialized⟩)).1.1 =
        .ok () ∧
      ((Host.ofDisk packagedDisk).run
            (Managed.install.run.run
              ⟨detouredServer, .uninitialized⟩)).2.disk.entryAt []
          true (detouredServer.options.storage.child (.text "old.txt")) =
        .ok
          ([.text "s", .text "p", .text "old.txt"],
            .file { mode := 0o644, content := [0x6f] }) := by
  refine ⟨?_, ?_, ?_, ?_⟩
  · decide +kernel
  · decide +kernel
  · decide +kernel
  · decide +kernel

end NpmServer

end Provision
