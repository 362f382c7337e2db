import Provision.Node.Basic
import Provision.Proofs.Node.Unfinished
import Provision.Proofs.Storage.Downloading

namespace Provision

/-!
# Archives that do not stay

An installation uses an archive that it finds, or else one that it downloads, and it discards the archive however
it ends.  So an archive that is damaged or broken off is used once at most: the next installation finds none and
downloads it again.
-/

open Plan

/-! ## The parts of an installation -/

/-- What an installation does before, with and after its archive. -/
structure Installation where
  directory : Path
  named : Except RuntimeFault String
  address : String → String
  unpack : String → Path → Provisioning Unit
  finish : Provisioning Unit

namespace Installation

/-- The directory for the archive. -/
def cache (installation : Installation) : Path :=
  installation.directory.within .cache

/-- The place of the archive. -/
def archive (installation : Installation) (name : String) : Path :=
  installation.cache / name

/-- Make the mark and the directory for the archive, and tell the name of the archive. -/
def prepare (installation : Installation) : Provisioning String := do
  Provisioning.storing
    (Files.createMarker (installation.directory.within .installing))
  let name ← Provisioning.require installation.named
  Provisioning.storing
    (Files.reporting installation.cache
      (Files.makeDirectories installation.cache))
  return name

/-- Unpack the archive, which is downloaded unless it is there, and which does not stay. -/
def useArchive (installation : Installation) (name : String) :
    Provisioning Unit :=
  Procedure.closedBy
    (do
      let isCached ← (Files.isFile (installation.archive name) : Plan Bool)
      if !isCached then
        Provisioning.storing
          (Download.toFile (installation.address name)
            (installation.archive name))
      installation.unpack name (installation.archive name))
    (Files.discardFile (installation.archive name))

/-- What follows once the name of the archive is known and there is a directory for it. -/
def complete (installation : Installation) (name : String) :
    Provisioning Unit := do
  installation.useArchive name
  installation.finish

/-- The whole installation. -/
def run (installation : Installation) : Provisioning Unit := do
  let name ← installation.prepare
  installation.complete name

end Installation

/-- How Node.js is installed. -/
def StoredNode.installation (node : StoredNode) : Installation where
  directory := node.directory
  named := node.release.archiveName node.platform
  address := node.release.url
  unpack := node.unpack
  finish := return ()

/-- How Electron is installed. -/
def StoredElectron.installation (electron : StoredElectron) :
    Installation where
  directory := electron.directory
  named := electron.release.archiveName electron.platform
  address := electron.release.url
  unpack := fun _ => electron.unpack
  finish := do
    Provisioning.storing
      (Download.toFile electron.release.yarnUrl electron.yarnPlace)
    Provisioning.storing (Files.removeMarker electron.marker)

/-- How a runtime in the storage is installed. -/
def NodePlace.installation? : NodePlace → Option Installation
  | .found .. => none
  | .stored kept => some kept.installation
  | .electron kept => some kept.installation

/-- A runtime in the storage is installed part by part. -/
theorem NodeRuntime.install_eq
    {runtime : NodeRuntime}
    {installation : Installation}
    (isInstallation : runtime.place.installation? = some installation) :
    runtime.install = installation.run := by
  obtain ⟨place, version?⟩ := runtime
  cases place with
  | found => simp [NodePlace.installation?] at isInstallation
  | stored node =>
      obtain rfl := Option.some.inj isInstallation
      simp only [install, StoredNode.install, StoredNode.installation,
        Installation.run,
        Installation.prepare, Installation.complete, Installation.useArchive,
        Installation.archive, Installation.cache, StoredNode.cache, StoredNode.marker, bind_assoc,
        pure_bind, bind_pure_unit]
  | electron electron =>
      obtain rfl := Option.some.inj isInstallation
      simp only [install, StoredElectron.install, StoredElectron.installation,
        Installation.run,
        Installation.prepare, Installation.complete, Installation.useArchive,
        Installation.archive, Installation.cache, StoredElectron.cache, StoredElectron.marker,
        bind_assoc, pure_bind]


/-! ## The place of an archive -/

/-- The names of an archive lead through the directory for archives, and the last one is its own. -/
structure Installation.PlacesArchive
    (installation : Installation)
    (name : String)
    (rest : List Name)
    (own : Name) :
    Prop where
  isNames :
    (installation.archive name).names =
      installation.cache.way ++ (rest ++ [own])
  isStart :
    ∀ here,
      (installation.archive name).start here = installation.cache.start here
  notHere : own.isHere = false
  notUp : own.isUp = false
  notMark : own ≠ markName

/-- An archive whose name starts and ends as one has a place of its own. -/
theorem Installation.exists_placesArchive
    (installation : Installation)
    {name : String}
    (opens : opensName name.toList = true)
    (closes : closesName name.toList = true) :
    ∃ rest own, installation.PlacesArchive name rest own := by
  have isRelative := (Path.ofString_of_opensName opens).1
  have isNames := Path.names_join installation.cache isRelative
  obtain ⟨before, own, isOwn, notHere, notUp, notMark⟩ :=
    Path.exists_of_endsApart
      (Path.endsApart_of_closesName installation.cache opens closes)
  obtain ⟨rest, last, isSegments⟩ :
      ∃ rest last, (Path.ofString name).segments = rest ++ [last] :=
    ⟨_, _, (List.dropLast_concat_getLast (List.cons_ne_nil _ _)).symm⟩
  rw [isSegments] at isNames
  obtain rfl : last = own := by
    have isLast := congrArg List.getLast? (isNames.symm.trans isOwn)
    simpa using isLast
  exact ⟨rest, last, isNames, Path.start_join _ isRelative, notHere, notUp,
    notMark⟩

/-- The archive of a runtime has a place of its own. -/
theorem NodePlace.exists_placesArchive
    {place : NodePlace}
    {installation : Installation}
    {name : String}
    (isInstallation : place.installation? = some installation)
    (isName : installation.named = .ok name) :
    ∃ rest own, installation.PlacesArchive name rest own := by
  have namesArchive :
      opensName name.toList = true ∧ closesName name.toList = true := by
    cases place with
    | found => simp [installation?] at isInstallation
    | stored node =>
        obtain rfl := Option.some.inj isInstallation
        exact NodeRelease.namesArchive isName
    | electron electron =>
        obtain rfl := Option.some.inj isInstallation
        exact ElectronRelease.namesArchive isName
  exact installation.exists_placesArchive namesArchive.1 namesArchive.2

namespace Installation.PlacesArchive

variable {installation : Installation}
variable {name : String}
variable {rest : List Name}
variable {own : Name}

theorem names_of_directory
    (places : installation.PlacesArchive name rest own) :
    (installation.archive name).names =
      installation.directory.way ++
        (.text StorageName.cache.text :: (rest ++ [own])) := by
  have isWay :
      installation.cache.way =
        installation.directory.way ++ [.text StorageName.cache.text] :=
    Path.way_child _ (by decide)
  rw [places.isNames, isWay, List.append_assoc]
  rfl

theorem start_of_directory
    (places : installation.PlacesArchive name rest own)
    (here : Location) :
    (installation.archive name).start here =
      installation.directory.start here :=
  (places.isStart here).trans (Path.start_child _ _ here)

/-- The names after that of the directory for archives lead down. -/
theorem noUps
    (places : installation.PlacesArchive name rest own)
    (upFirst : (installation.archive name).UpFirst) :
    ∀ other ∈ rest ++ [own], other.isUp = false := by
  intro other member
  rw [Path.UpFirst, places.names_of_directory] at upFirst
  have isAfter :=
    (List.pairwise_cons.mp (List.pairwise_append.mp upFirst).2.1).1 other member
  by_contra isUp
  have isSpecial := isAfter (Bool.eq_true_of_not_eq_false isUp)
  simp [Name.isHere, Name.isUp, StorageName.text] at isSpecial

end Installation.PlacesArchive


/-! ## What is left behind -/

namespace Disk

/-- The mark of a directory and the script of yarn in it are no links when they are written. -/
def WritesOwn
    (workingDirectory : Location)
    (directory : Path) :
    Action → Disk → Prop
  | .appendFile path _, disk =>
      path = directory.within .installing →
      disk.LacksLink workingDirectory path
  | .writeFile path _, disk =>
      path = directory / "yarn.js" →
      disk.LacksLink workingDirectory path
  | _, _ => True

/-- How a disk answers an installation that can remove its archive. -/
def AnswersDiscarding
    (workingDirectory : Location)
    (children : Children)
    (directory : Path) :
    Stepping Disk :=
  fun action disk reply after =>
    AnswersRemoving workingDirectory children action disk reply after ∧
      WritesOwn workingDirectory directory action disk

variable {workingDirectory : Location}
variable {children : Children}
variable {directory : Path}

theorem answersBy_discarding :
    AnswersBy workingDirectory children
      (AnswersDiscarding workingDirectory children directory) :=
  fun _ _ _ _ answered => answered.1.1

end Disk

section

variable {workingDirectory : Location}
variable {children : Disk.Children}
variable {installation : Installation}
variable {name : String}
variable {disk last : Disk}

namespace Installation

variable {rest : List Name}
variable {own : Name}

/-- Making the mark and the directory for the archive brings no file to the place of the archive. -/
theorem lacksFile_of_prepare
    (places : installation.PlacesArchive name rest own)
    (upFirst : (installation.archive name).UpFirst)
    (tree : disk.IsTree)
    (lacks : disk.LacksFile workingDirectory (installation.archive name))
    (ends :
      Ends
        (Disk.AnswersDiscarding workingDirectory children
          installation.directory)
        installation.prepare.run disk (.ok name) last) :
    last.LacksFile workingDirectory (installation.archive name) := by
  have isBelow :
      installation.directory.way <+: (installation.archive name).names :=
    places.names_of_directory ▸ List.prefix_append _ _
  have isBelowCache :
      installation.cache.way <+: (installation.archive name).names :=
    places.isNames ▸ List.prefix_append _ _
  have noUps := places.noUps upFirst
  have isOwn : own ∈ rest ++ [own] := by simp
  obtain ⟨_, marked, marks, goesOn⟩ := ends_bindProcedure_iff.mp ends
  obtain ⟨_, middle, parents, appends⟩ :=
    ends_bindProcedure_iff.mp (ends_adapt_iff.mp marks)
  obtain ⟨isTree, -, isNew⟩ :=
    Files.ends_makeParents_child Disk.answersBy_discarding (by decide) tree
      (upFirst.of_prefix isBelow) parents
  have lacksMiddle :
      middle.LacksFile workingDirectory (installation.archive name) := by
    refine lacks.of_isNew places.names_of_directory
      (places.start_of_directory _) ?_ ⟨own, .tail _ isOwn, places.notHere⟩
      (isNew.imp id ?_)
    · intro other member
      rcases List.mem_cons.mp member with rfl | later
      · decide
      · exact noUps other later
    · rintro ⟨left, there, -, leads, isFresh⟩
      exact ⟨left, there, leads, isFresh⟩
  have answered := ends_ask_iff.mp (ends_attempt_iff.mp appends)
  have opens :
      middle.appendFile workingDirectory
          (installation.directory.within .installing) [] =
        .ok marked := by
    generalize isReply : (Except.ok () : Except DiskFault Unit) = reply
      at answered
    cases answered.1.1 with
    | done isDone => exact isDone
    | refused | unchanged | brokenOff => cases isReply
  have lacksMarked :
      marked.LacksFile workingDirectory (installation.archive name) :=
    lacksMiddle.of_openFile
      (places.isNames.trans (List.append_assoc _ _ _).symm) places.notHere
      places.notUp (by decide) places.notMark.symm (answered.2 rfl) opens
  obtain ⟨_, _, isNamed, makesCache⟩ := ends_bindProcedure_iff.mp goesOn
  obtain ⟨-, rfl⟩ := ends_pure_iff.mp isNamed
  obtain ⟨_, _, makes, isDone⟩ := ends_bindProcedure_iff.mp makesCache
  obtain ⟨-, rfl⟩ := ends_pure_iff.mp isDone
  obtain ⟨there, way⟩ :=
    Files.ends_makeDirectories Disk.answersBy_discarding (isTree.openFile opens)
      (upFirst.of_prefix isBelowCache)
      (ends_attempt_iff.mp (ends_adapt_iff.mp makes))
  refine lacksMarked.of_isNew places.isNames (places.isStart _) noUps
    ⟨own, isOwn, places.notHere⟩ (way.isNew.imp And.left ?_)
  rintro ⟨-, isFresh, -⟩
  obtain ⟨left, leads⟩ := way.leads
  exact ⟨left, there, leads, isFresh⟩

end Installation

/-- An installation that prepares tells the name of its archive. -/
theorem Installation.named_of_prepare
    {step : Stepping Disk}
    (ends : Ends step installation.prepare.run disk (.ok name) last) :
    installation.named = .ok name := by
  obtain ⟨_, _, -, goesOn⟩ := ends_bindProcedure_iff.mp ends
  obtain ⟨_, _, isNamed, makesCache⟩ := ends_bindProcedure_iff.mp goesOn
  obtain ⟨isSame, -⟩ := ends_pure_iff.mp isNamed
  obtain ⟨_, _, -, isDone⟩ := ends_bindProcedure_iff.mp makesCache
  obtain ⟨isOk, -⟩ := ends_pure_iff.mp isDone
  obtain rfl := Except.ok.inj isOk
  exact isSame.symm

/-- The name of an archive of Electron ends as those of zip files do. -/
theorem ElectronRelease.getLast?_archiveName
    {release : ElectronRelease}
    {platform : Platform}
    (isName : release.archiveName platform = .ok name) :
    name.toList.getLast? = some 'p' := by
  unfold archiveName at isName
  split at isName
  · contradiction
  · obtain rfl := Except.ok.inj isName
    rw [String.toList_append, List.getLast?_append]
    rfl

/-- The script of yarn comes beside the place of the archive. -/
theorem StoredElectron.ensures_finish_lacks
    {electron : StoredElectron}
    {rest : List Name}
    {own : Name}
    (isName : electron.installation.named = .ok name)
    (places : electron.installation.PlacesArchive name rest own)
    (lacks :
      disk.LacksFile workingDirectory (electron.installation.archive name)) :
    Ensures
      (Disk.AnswersDiscarding workingDirectory children electron.directory)
      (fun _ => True)
      (ending
        (fun _ last =>
          last.LacksFile workingDirectory
            (electron.installation.archive name))
        (fun _ last =>
          last.LacksFile workingDirectory
            (electron.installation.archive name)))
      electron.installation.finish.run disk := by
  obtain ⟨before, last, isNames⟩ :=
    Path.exists_names_concat electron.cache
      (ElectronRelease.namesArchive isName).1
      (ElectronRelease.getLast?_archiveName isName) (by decide)
  obtain ⟨-, rfl⟩ :=
    List.append_singleton_inj.mp
      ((List.append_assoc _ _ _).trans (places.isNames.symm.trans isNames))
  have notYarn :
      Name.text "yarn.js" ≠ .text (String.ofList (last ++ ['p'])) := by
    intro isSame
    have isList := congrArg String.toList (Name.text.inj isSame)
    have isLast := congrArg List.getLast? isList
    simp at isLast
  have fetches :
      Ensures
        (Disk.AnswersDiscarding workingDirectory children electron.directory)
        (fun _ => True)
        (ending
          (fun _ last =>
            last.LacksFile workingDirectory
              (electron.installation.archive name))
          (fun _ last =>
            last.LacksFile workingDirectory
              (electron.installation.archive name)))
        (Download.toFile electron.release.yarnUrl electron.yarnPlace).run
        disk :=
    Download.ensures_toFile_lacks (fun _ _ _ _ answered => answered.1)
      isNames places.notHere places.notUp (by decide) notYarn
      (fun _ _ _ answered => answered.2 rfl) lacks
  refine .bindProcedure (.adaptProcedure (fetches.mono (fun _ => id) ?_))
  rintro (fault | value) fetched lacksFetched
  · exact lacksFetched
  · refine .adaptProcedure (.attempt (.forgiveMissing
      (.ask fun reply removed answered => ?_)))
    have lacksRemoved :
        removed.LacksFile workingDirectory
          (electron.installation.archive name) := by
      rcases answered.1.1.removeFile_cases with rfl | ⟨-, removes⟩
      · exact lacksFetched
      · exact lacksFetched.of_fewer (Disk.get?_of_removeFile removes)
    exact ⟨trivial, fun _ => lacksRemoved, lacksRemoved⟩

namespace Installation

/-- However the archive is used, no file stays at its place. -/
theorem ensures_useArchive
    {step : Stepping Disk}
    (removing :
      ∀ action disk reply after,
        step action disk reply after →
        Disk.AnswersRemoving workingDirectory children action disk reply
          after) :
    Ensures step (fun _ => True)
      (ending
        (fun _ last =>
          last.LacksFile workingDirectory (installation.archive name))
        (fun _ last =>
          last.LacksFile workingDirectory (installation.archive name)))
      (installation.useArchive name).run disk := by
  have discards (used : Disk) :
      Ensures step (fun _ => True)
        (fun _ last =>
          last.LacksFile workingDirectory (installation.archive name))
        (Files.discardFile (installation.archive name)) used := by
    refine (Files.ensures_discardFile removing).mono (fun _ => id) ?_
    rintro - last (isAbsent | ⟨rfl, lacks⟩)
    · exact isAbsent.lacksFile
    · exact lacks
  refine .closedBy ((ensures_trivial _ disk).mono (fun _ => id) ?_)
  rintro (fault | value) used -
  · exact discards used
  · exact discards used

/-- An installation that has prepared leaves no archive. -/
theorem ensures_complete
    {step : Stepping Disk}
    (removing :
      ∀ action disk reply after,
        step action disk reply after →
        Disk.AnswersRemoving workingDirectory children action disk reply
          after)
    (finishes :
      ∀ used : Disk,
        used.LacksFile workingDirectory (installation.archive name) →
        Ensures step (fun _ => True)
          (ending
            (fun _ last =>
              last.LacksFile workingDirectory (installation.archive name))
            (fun _ last =>
              last.LacksFile workingDirectory (installation.archive name)))
          installation.finish.run used) :
    Ensures step (fun _ => True)
      (ending
        (fun _ last =>
          last.LacksFile workingDirectory (installation.archive name))
        (fun _ last =>
          last.LacksFile workingDirectory (installation.archive name)))
      (installation.complete name).run disk := by
  refine .bindProcedure ((ensures_useArchive removing).mono (fun _ => id) ?_)
  rintro (fault | value) used lacks
  · exact lacks
  · exact finishes used lacks

end Installation

end

/-! ## What is fetched first -/

/-- Whether an action hands out what a file holds: to the process itself, to another file or to another process. -/
def Action.opensFile : Action → Bool
  | .readFile _ | .copyFile .. | .spawn _ => true
  | _ => false

namespace Trace

/-- Something was asked for at an address. -/
def Fetched (trace : Trace Disk) (url : String) : Prop :=
  ∃ asked ∈ trace.past, asked.action = .fetch url

/-- No file has been opened, or something was asked for at an address. -/
def FetchesFirst (trace : Trace Disk) (url : String) : Prop :=
  (∃ asked ∈ trace.past, asked.action.opensFile = true) → trace.Fetched url

end Trace

namespace Installation

variable {step : Stepping Disk}
variable {installation : Installation}
variable {name url : String}
variable {trace : Trace Disk}

/-- What was asked for at an address was asked for there ever after. -/
theorem keeps_fetched
    {α : Type}
    (plan : Plan α) :
    Keeps (tracing step) (fun later => later.Fetched url) plan := by
  refine (AsksOnly.always plan).keeps ?_
  rintro action before reply later - ⟨-, isPast⟩ ⟨asked, member, isFetch⟩
  exact ⟨asked, isPast ▸ List.mem_append_left _ member, isFetch⟩

/-- Whatever follows what was asked for at an address comes after it. -/
theorem ensures_of_fetched
    {α : Type}
    (plan : Plan α)
    (fetched : trace.Fetched url) :
    Ensures (tracing step) (fun later => later.FetchesFirst url)
      (fun _ last => last.Fetched url) plan trace :=
  (keeps_fetched plan trace fetched).mono (fun _ isFetched _ => isFetched)
    fun _ _ => id

/-- A plan that starts with a request asks for it first. -/
theorem ensures_fetch
    {α : Type}
    (next : Except String Response → Plan α) :
    Ensures (tracing step) (fun later => later.FetchesFirst url)
      (fun _ last => last.Fetched url) (.act (.fetch url) next) trace := by
  intro reply later answered
  have fetched : later.Fetched url :=
    ⟨_, answered.2 ▸ List.mem_append_right _ (List.mem_singleton.mpr rfl), rfl⟩
  exact ⟨fun _ => fetched, ensures_of_fetched (next reply) fetched⟩

/-- Nothing is opened while an installation prepares. -/
theorem prepare_opensNothing (installation : Installation) :
    installation.prepare.run.AsksOnly (fun action => !action.opensFile) := by
  have makesWay {action : Action} (isWay : action.makesWay = true) :
      (!action.opensFile) = true := by
    cases action <;> first | rfl | simp [Action.makesWay] at isWay
  have makesCache :
      (Files.makeDirectories installation.cache).AsksOnly
        (fun action => !action.opensFile) :=
    (Files.makeLineage_makesWay _).mono fun _ => makesWay
  refine .bindProcedure (.adaptProcedure ?_ _) fun _ => ?_
  · exact .bindProcedure
      ((Files.makeParents_makesWay _).mono fun _ => makesWay)
      fun _ => (AsksOnly.ask rfl).attempt _
  · refine .bindProcedure (.done _) fun _ => ?_
    exact .bindProcedure ((makesCache.attempt _).adaptProcedure _)
      fun _ => .done _

/-- Where no archive is found, it is asked for before any file is opened. -/
theorem ensures_fetchesFirst
    {workingDirectory : Location}
    {children : Disk.Children}
    (answersBy : Disk.AnswersBy workingDirectory children step)
    (areClosed :
      ∀ asked ∈ trace.past, (!asked.action.opensFile) = true)
    (lacks :
      trace.state.LacksFile workingDirectory (installation.archive name)) :
    Ensures (tracing step)
      (fun later => later.FetchesFirst (installation.address name))
      (fun _ last => last.Fetched (installation.address name))
      (installation.useArchive name).run trace := by
  have fetches (checked : Trace Disk) :
      Ensures (tracing step)
        (fun later => later.FetchesFirst (installation.address name))
        (fun _ last => last.Fetched (installation.address name))
        (do
          Provisioning.storing
            (Download.toFile (installation.address name)
              (installation.archive name))
          installation.unpack name (installation.archive name) :
          Provisioning Unit).run
        checked :=
    ensures_fetch _
  have uses :
      Ensures (tracing step)
        (fun later => later.FetchesFirst (installation.address name))
        (fun _ last => last.Fetched (installation.address name))
        (do
          let isCached ← (Files.isFile (installation.archive name) : Plan Bool)
          if !isCached then
            Provisioning.storing
              (Download.toFile (installation.address name)
                (installation.archive name))
          installation.unpack name (installation.archive name) :
          Provisioning Unit).run
        trace := by
    rw [Procedure.run_lift_bind]
    refine .bind (.bind (.ask fun reply checked answered => ⟨?_, ?_⟩))
    · rintro ⟨asked, member, opens⟩
      rw [answered.2] at member
      rcases List.mem_append.mp member with before | isLast
      · have isClosed := areClosed asked before
        simp [opens] at isClosed
      · obtain rfl := List.mem_singleton.mp isLast
        simp [Action.opensFile] at opens
    · obtain ⟨tells, -⟩ := answersBy _ _ _ _ answered.1
      cases reply with
      | error fault => exact fetches checked
      | ok status =>
          have notFile : decide (status.kind = .file) = false :=
            decide_eq_false (lacks.kind_ne tells.eq_ok)
          change Ensures (tracing step) _ _
            ((if !decide (status.kind = .file) then _ else _) :
              Provisioning Unit).run checked
          rw [notFile]
          exact fetches checked
  exact .bind (uses.mono (fun _ => id) fun _ _ => ensures_of_fetched _)

end Installation

namespace NodePlace

variable {workingDirectory : Location}
variable {children : Disk.Children}
variable {place : NodePlace}
variable {installation : Installation}
variable {name : String}

/-- What is done after the archive was used brings no file to its place. -/
theorem ensures_finish
    {disk : Disk}
    (isInstallation : place.installation? = some installation)
    (isName : installation.named = .ok name)
    (lacks :
      disk.LacksFile workingDirectory (installation.archive name)) :
    Ensures
      (Disk.AnswersDiscarding workingDirectory children
        installation.directory)
      (fun _ => True)
      (ending
        (fun _ last =>
          last.LacksFile workingDirectory (installation.archive name))
        (fun _ last =>
          last.LacksFile workingDirectory (installation.archive name)))
      installation.finish.run disk := by
  obtain ⟨rest, own, places⟩ := exists_placesArchive isInstallation isName
  cases place with
  | found => simp [installation?] at isInstallation
  | stored node =>
      obtain rfl := Option.some.inj isInstallation
      exact lacks
  | electron electron =>
      obtain rfl := Option.some.inj isInstallation
      exact StoredElectron.ensures_finish_lacks isName places lacks

/-- An installation that finds no archive asks for one before it opens any file. -/
theorem ensures_run_fetchesFirst
    {between : Disk}
    (isInstallation : place.installation? = some installation)
    (isName : installation.named = .ok name)
    (upFirst : (installation.archive name).UpFirst)
    (tree : between.IsTree)
    (lacks :
      between.LacksFile workingDirectory (installation.archive name)) :
    Ensures
      (tracing
        (Disk.AnswersDiscarding workingDirectory children
          installation.directory))
      (fun later => later.FetchesFirst (installation.address name))
      (ending
        (fun _ last => last.Fetched (installation.address name))
        (fun _ _ => True))
      installation.run.run ⟨between, []⟩ := by
  obtain ⟨rest, own, places⟩ := exists_placesArchive isInstallation isName
  refine .bindProcedure
    (((ensures_trivial _ between).ends.traced.and
      (installation.prepare_opensNothing.traced (by simp))).mono ?_ ?_)
  · rintro later ⟨-, areClosed⟩ ⟨asked, member, opens⟩
    have isClosed := areClosed asked member
    simp [opens] at isClosed
  · rintro (fault | made) prepared ⟨⟨-, ends⟩, areClosed⟩
    · trivial
    obtain rfl : name = made :=
      Except.ok.inj
        (isName.symm.trans (Installation.named_of_prepare ends))
    have lacksPrepared :=
      Installation.lacksFile_of_prepare places upFirst tree lacks ends
    refine .bindProcedure ((Installation.ensures_fetchesFirst
      Disk.answersBy_discarding areClosed lacksPrepared).mono (fun _ => id) ?_)
    rintro (fault | value) used fetched
    · trivial
    · refine (Installation.ensures_of_fetched _ fetched).mono (fun _ => id) ?_
      rintro (fault | result) last stillFetched
      · trivial
      · exact stillFetched

end NodePlace

namespace NodeRuntime

variable {workingDirectory : Location}
variable {children : Disk.Children}
variable {runtime : NodeRuntime}
variable {installation : Installation}
variable {name : String}

/--
However an installation ends once it has prepared, no archive stays.  An installation that finds no
archive asks for one before it opens any file; and a download that fails leaves the disk as it was, or
nothing at its target.
-/
theorem install_discards_archive
    {start : Disk}
    (isInstallation : runtime.place.installation? = some installation)
    (isName : installation.named = .ok name) :
    (runtime.install = installation.prepare >>= installation.complete) ∧
    (∀ outcome last,
      Ends
        (Disk.AnswersDiscarding workingDirectory children
          installation.directory)
        (installation.complete name).run start outcome last →
      last.LacksFile workingDirectory (installation.archive name)) ∧
    (∀ (between : Disk) later outcome?,
      (installation.archive name).UpFirst →
      between.IsTree →
      between.LacksFile workingDirectory (installation.archive name) →
      Runs
        (tracing
          (Disk.AnswersDiscarding workingDirectory children
            installation.directory))
        runtime.install.run ⟨between, []⟩ later outcome? →
      later.FetchesFirst (installation.address name) ∧
        (outcome? = some (.ok ()) →
          later.Fetched (installation.address name))) ∧
    (∀ url target fault last,
      Ends (Disk.AnswersRemoving workingDirectory children)
        (Download.toFile url target).run start (.error fault) last →
      last = start ∨ last.IsAbsent workingDirectory target) := by
  rw [install_eq isInstallation]
  refine ⟨rfl, ?_, ?_, ?_⟩
  · intro outcome last ends
    have isEnd :=
      (Ensures.of_runs ends
        (Installation.ensures_complete (fun _ _ _ _ answered => answered.1)
          fun _ => NodePlace.ensures_finish isInstallation isName)
        trivial).2 outcome rfl
    cases outcome with
    | ok value => exact isEnd
    | error fault => exact isEnd
  · intro between later outcome? upFirst tree lacks runs
    obtain ⟨fetchesFirst, isEnd⟩ :=
      Ensures.of_runs runs
        (NodePlace.ensures_run_fetchesFirst isInstallation isName upFirst tree
          lacks)
        (by simp [Trace.FetchesFirst])
    exact ⟨fetchesFirst, fun isOk => isEnd _ isOk⟩
  · intro url target fault last ends
    exact (Ensures.of_runs ends
      (Download.ensures_toFile_of_error (fun _ _ _ _ answered => answered)
        url target)
      trivial).2 _ rfl

/-! ## A damaged archive -/

/-- Electron for a system on which its archive is unpacked without another process. -/
def sampleElectron : StoredElectron where
  directory := "/r"
  release := { baseUrl := "http://s", yarnUrl := "http://s/yarn.js" }
  platform := ⟨.windows, .x64⟩

/-- The name of its archive. -/
def sampleName : String :=
  "electron-v37.3.1-win32-x64.zip"

/-- An archive with no members. -/
def emptyArchive : Bytes :=
  Archive.Zip.endMark ++ List.replicate 18 0

/-- A disk where an archive with the given content is there. -/
def cachedDisk (content : Bytes) : Disk :=
  [([.text "r"], Entry.directory 0o755),
    ([.text "r", .text "cache"], .directory 0o755),
    ([.text "r", .text "cache", .text sampleName],
      .file { mode := 0o644, content })].foldl
    (fun disk item => disk.set item.1 item.2) Disk.blank

/-- A host with a disk, and with a web that offers the archive and the script of yarn. -/
def servedHost (disk : Disk) : Host where
  disk := disk
  web :=
    { base := "http://s"
      isOnline := true
      routes :=
        [("/v37.3.1/electron-v37.3.1-win32-x64.zip",
            { body := .whole emptyArchive }),
          ("/yarn.js", { body := .whole [0x79] })] }
  environment := []
  workingDirectory := []

/-- A host where an installation is prepared and the archive is damaged. -/
def damagedHost : Host :=
  ((servedHost (cachedDisk [0])).run
    sampleElectron.installation.prepare.run).2

/-- What a host has after the rest of an installation. -/
def completedOn (host : Host) : Host :=
  (host.run (sampleElectron.installation.complete sampleName).run).2

/-- Whether no process starts, nothing is written through a link, and what is to be removed is. -/
def isDiscarding (action : Action) (host : Host) : Bool :=
  decide (host.workingDirectory = []) && !action.isChild &&
    match action with
    | .removeFile path => (host.disk.removeFile [] path).isOk
    | .appendFile path _ | .writeFile path _ =>
        !(host.disk.entryAt [] false path).toOption.any (·.2.isLink)
    | _ => true

/-- What is so answered is answered as by a disk that can remove the archive. -/
theorem answers_of_isDiscarding
    (action : Action)
    (host : Host)
    (discards : isDiscarding action host = true) :
    Disk.AnswersDiscarding [] (fun _ _ _ _ => False) "/r" action host.disk
      (Host.perform action host).1 (Host.perform action host).2.disk := by
  simp only [isDiscarding, Bool.and_eq_true, decide_eq_true_eq] at discards
  obtain ⟨⟨isRoot, notChild⟩, isOwn⟩ := discards
  have answers :
      Disk.Answers host.workingDirectory (fun _ _ _ _ => False) action
        host.disk (Host.perform action host).1
        (Host.perform action host).2.disk := by
    refine host.answers action fun child isSpawn => ?_
    simp [isSpawn, Action.isChild] at notChild
  rw [isRoot] at answers
  have notLink {path : Path} (isOwn :
      (!(host.disk.entryAt [] false path).toOption.any (·.2.isLink)) = true) :
      host.disk.LacksLink [] path := by
    intro location target finds
    simp [finds, Except.toOption, Entry.isLink] at isOwn
  have changes (exact : Except DiskFault Disk) :
      (host.change exact).1 = .ok () ∨
        (host.change exact).2.disk = host.disk := by
    cases exact with
    | ok disk => exact Or.inl rfl
    | error fault => exact Or.inr rfl
  refine ⟨⟨answers, ?_⟩, ?_⟩
  · cases action with
    | removeFile path =>
        intro location entry _ _
        have isDone :
            (host.change
              (host.disk.removeFile host.workingDirectory path)).1 =
              .ok () := by
          rw [isRoot]
          cases removed : host.disk.removeFile [] path with
          | ok disk => rfl
          | error fault => simp [removed, Except.isOk, Except.toBool] at isOwn
        exact isDone
    | writeFile path content =>
        cases content with
        | nil => exact changes _
        | cons => trivial
    | _ => trivial
  · cases action with
    | appendFile | writeFile => exact fun _ => notLink isOwn
    | _ => trivial

/-- A plan that a host runs as its disk may answer has a run there. -/
theorem ends_of_isDiscarding
    {α : Type}
    {plan : Plan α}
    {host : Host}
    (discards : plan.passes Host.perform isDiscarding host = true) :
    Ends (Disk.AnswersDiscarding [] (fun _ _ _ _ => False) "/r") plan
      host.disk (host.run plan).1 (host.run plan).2.disk :=
  ends_of_passes Host.disk answers_of_isDiscarding discards

/-- A damaged archive is used once: it does not stay, and the next installation downloads another one. -/
theorem damaged_archive_is_used_once :
    NodePlace.installation? (.electron sampleElectron) =
        some sampleElectron.installation ∧
      sampleElectron.installation.named = .ok sampleName ∧
      (damagedHost.run
          (sampleElectron.installation.complete sampleName).run).1 =
        .error
          (.storage
            (.badArchive (sampleElectron.cache / sampleName)
              "damaged archive")) ∧
      (completedOn damagedHost).disk.LacksFile []
        (sampleElectron.installation.archive sampleName) ∧
      ∃ later : Trace Disk,
        Runs
            (tracing
              (Disk.AnswersDiscarding [] (fun _ _ _ _ => False) "/r"))
            sampleElectron.install.run
            ⟨(completedOn damagedHost).disk, []⟩ later (some (.ok ())) ∧
          later.Fetched (sampleElectron.installation.address sampleName) := by
  have isName : sampleElectron.installation.named = .ok sampleName := by
    decide +kernel
  have upFirst :
      (sampleElectron.installation.archive sampleName).UpFirst := by
    decide +kernel
  -- The host is hidden behind a name, so that its runs are evaluated once and not unfolded again.
  obtain ⟨host, isHost⟩ : ∃ host, host = damagedHost := ⟨_, rfl⟩
  rw [← isHost]
  have completes :
      (sampleElectron.installation.complete sampleName).run.passes
            Host.perform isDiscarding host = true ∧
        (host.run
              (sampleElectron.installation.complete sampleName).run).1 =
          .error
            (.storage
              (.badArchive (sampleElectron.cache / sampleName)
                "damaged archive")) := by
    rw [isHost]
    decide +kernel
  have installs :
      sampleElectron.install.run.passes Host.perform isDiscarding
            (completedOn host) = true ∧
        ((completedOn host).run sampleElectron.install.run).1 = .ok () := by
    rw [isHost]
    decide +kernel
  have tree : (completedOn host).disk.IsTree := by
    rw [isHost]
    exact Disk.isTree_of_entries (by decide +kernel)
  have discards :=
    @install_discards_archive [] (fun _ _ _ _ => False)
      { place := .electron sampleElectron } sampleElectron.installation
      sampleName host.disk rfl isName
  have lacks :=
    discards.2.1 _ _ (ends_of_isDiscarding completes.1)
  obtain ⟨later, -, runs⟩ :=
    (ends_of_isDiscarding installs.1).traced []
  rw [installs.2] at runs
  have fetched := (discards.2.2.1 _ later _ upFirst tree lacks runs).2 rfl
  exact ⟨rfl, isName, completes.2, lacks, later, runs, fetched⟩

/-! ## Links in the place of the mark and of yarn -/

/-- A host where the archive has no members, and the script of yarn is a link to it. -/
def linkedHost : Host :=
  servedHost
    ((cachedDisk emptyArchive).set [.text "r", .text "yarn.js"]
      (.link "cache/electron-v37.3.1-win32-x64.zip"))

/-- A host where a mark is a link to the place of an archive, after an installation. -/
def remarkedHost : Host :=
  ((hostOf linkedDisk).run keptNode.install.run).2

/--
A script of yarn that is downloaded through a link may come to stand in the place of the archive.  A mark
that is made through a link is taken for an archive by every installation, and none is ever asked for.
-/
theorem linked_files_stay_as_archives :
    (linkedHost.run sampleElectron.install.run).1 = .ok () ∧
      (linkedHost.run sampleElectron.install.run).2.disk.readFile []
          (sampleElectron.installation.archive sampleName) =
        .ok [0x79] ∧
      remarkedHost.disk.readFile []
          (keptNode.cache / "node-v22.18.0-linux-x64.tar.gz") =
        .error (.refused .noEntry) ∧
      (keptNode.install.run.actions Host.perform remarkedHost).any
          Action.opensFile =
        true ∧
      Action.fetch (keptNode.release.url "node-v22.18.0-linux-x64.tar.gz") ∉
        keptNode.install.run.actions Host.perform remarkedHost := by
  decide +kernel

end NodeRuntime

end Provision
