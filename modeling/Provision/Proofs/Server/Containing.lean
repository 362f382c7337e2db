import Provision.Proofs.Server.RoundTrip
import Provision.Proofs.Storage.Sheltering

namespace Provision

/-!
# Installations that stay in their storage

However an installation ends, it has taken away or made anew what the path of its storage stands for, and
directories on the way to that; nothing else has changed.  The path of the copy comes from the text that is
checked when the source is looked up, so that nothing is copied anywhere else.
-/

open Plan

namespace Disk

variable {start cleared made disk later last : Disk}
variable {workingDirectory place : Location}
variable {children : Children}
variable {path : Path}

/--
Nothing has changed but what is at or below a place of a path, and directories have come to where nothing stood,
on the way to the path.
-/
def RenewsOnly
    (start last : Disk)
    (workingDirectory : Location)
    (path : Path) :
    Prop :=
  ∀ location,
    last.get? location = start.get? location ∨
      (∃ place,
        start.IsPlaceOf workingDirectory path place ∧ place <+: location) ∨
        start.get? location = none ∧
          last.HasDirectory location ∧
            ∃ steps above left,
              above ∈ Files.lineage steps path ∧
                last.LeadsTo workingDirectory above left location

/-- What stood outside of the storage stands as it was. -/
theorem RenewsOnly.stands
    {location : Location}
    {entry : Entry}
    (renewsOnly : start.RenewsOnly last workingDirectory path)
    (isOutside :
      ∀ place,
        start.IsPlaceOf workingDirectory path place → ¬place <+: location)
    (stands : start.get? location = some entry) :
    last.get? location = some entry := by
  rcases renewsOnly location with
    isSame | ⟨place, isPlace, isBelow⟩ | ⟨isMissing, -⟩
  · exact isSame.trans stands
  · exact absurd isBelow (isOutside place isPlace)
  · simp [isMissing] at stands

/-- Something has been written only below the directory of a path. -/
def WritesBelow
    (disk later : Disk)
    (workingDirectory : Location)
    (path : Path) :
    Prop :=
  ∀ location,
    later.get? location = disk.get? location ∨
      ∃ left place,
        disk.LeadsTo workingDirectory path left place ∧
          place <+: location ∧ location ≠ place

/-- Each child process writes only below the directory that it works in. -/
def Children.WorkBelow
    (children : Children)
    (workingDirectory : Location) :
    Prop :=
  ∀ child disk reply later,
    children child disk reply later →
    disk.WritesBelow later workingDirectory
      (child.workingDirectory.getD Path.empty)

theorem renewsOnly_of_removeTree
    {reply : Except DiskFault Unit}
    (answers :
      Answers workingDirectory children (.removeTree path) start reply
        later) :
    start.RenewsOnly later workingDirectory path := by
  intro location
  rcases answers.get?_removeTree location with
    isSame | ⟨-, place, entry, finds, isBelow⟩
  · exact Or.inl isSame
  · exact Or.inr (Or.inl ⟨place, .old finds, isBelow⟩)

theorem ClearsTree.renewsOnly
    (clears : start.ClearsTree cleared workingDirectory path)
    (gains : cleared.GainsWay later workingDirectory path) :
    start.RenewsOnly later workingDirectory path := by
  intro location
  rcases clears.elsewhere location with
    isSame | ⟨place, entry, finds, isBelow⟩
  · rcases gains location with wasSame | ⟨wasMissing, isNew, onWay⟩
    · exact Or.inl (wasSame.trans isSame)
    · exact Or.inr (Or.inr ⟨isSame ▸ wasMissing, isNew, onWay⟩)
  · exact Or.inr (Or.inl ⟨place, .old finds, isBelow⟩)

/-- What a path stood for has been cleared, and an empty directory has been made in its place. -/
structure Renews
    (start cleared made : Disk)
    (workingDirectory : Location)
    (path : Path)
    (place : Location) :
    Prop where
  clears : start.ClearsTree cleared workingDirectory path
  makes : cleared.MakesWay made workingDirectory path place
  gains : cleared.GainsWay made workingDirectory path
  isFresh : made.IsFresh place

theorem renews_of_makesWay
    (clears : start.ClearsTree cleared workingDirectory path)
    (isNamed : path ≠ Path.empty)
    (makes : cleared.MakesWay made workingDirectory path place)
    (gains : cleared.GainsWay made workingDirectory path) :
    start.Renews cleared made workingDirectory path place := by
  obtain ⟨left, leads⟩ := makes.leads
  refine ⟨clears, makes, gains, ?_⟩
  rcases makes.isNew with ⟨isSame, isThere⟩ | ⟨-, isFresh, -⟩
  · -- A directory that the path leads to without being made would have been found when it was cleared.
    subst isSame
    obtain ⟨found, finds⟩ :=
      leads.exists_entryAt (isThere.resolve_left isNamed) clears.isUsable
    exact absurd finds (clears.isGone found)
  · exact isFresh

theorem Renews.renewsOnly
    (renews : start.Renews cleared made workingDirectory path place)
    (changes : made.ChangesBelow last place) :
    start.RenewsOnly last workingDirectory path := by
  have within := changes.within renews.isFresh
  intro location
  rcases changes location with isSame | ⟨isBelow, -⟩
  · rcases renews.clears.renewsOnly renews.gains location with
      wasSame | isBelow | ⟨wasMissing, isNew, steps, above, left, member, leads⟩
    · exact Or.inl (isSame.trans wasSame)
    · exact Or.inr (Or.inl isBelow)
    · refine Or.inr (Or.inr ⟨wasMissing, ?_, steps, above, left, member, ?_⟩)
      · exact isNew.imp fun _ => isSame.trans
      · exact leads.mono within
  · exact Or.inr (Or.inl ⟨place, .new renews.clears renews.makes, isBelow⟩)

/-- A place that has been made anew and is empty is enclosed. -/
theorem Renews.encloses
    (renews : start.Renews cleared made workingDirectory path place) :
    made.Encloses place := by
  have isDirectory {location : Location} {entry : Entry} :
      place <+: location →
      made.get? location = some entry →
      ∃ mode, entry = .directory mode := by
    rintro ⟨below, rfl⟩ stands
    by_cases isNil : below = []
    · obtain ⟨mode, standsNow, -⟩ := renews.isFresh.1
      rw [isNil, List.append_nil, standsNow] at stands
      exact ⟨mode, (Option.some.inj stands).symm⟩
    · rw [renews.isFresh.2 below isNil] at stands
      simp at stands
  constructor
  · intro location target isInside isLink
    obtain ⟨mode, isDirectory⟩ := isDirectory isInside isLink
    simp at isDirectory
  · intro inside outside file other group isInside stands
    obtain ⟨mode, isDirectory⟩ := isDirectory isInside stands
    simp at isDirectory

end Disk

namespace NpmServer

variable {server : NpmServer}
variable {options : NpmOptions}
variable {resources : Resources}
variable {workingDirectory : Location}
variable {children : Disk.Children}
variable {start cleared made filled disk later last : Disk}
variable {source : Path}
variable {place : Location}

/-- The name of the temporary file that becomes the file with the version. -/
def temporaryName (options : NpmOptions) (processId : Nat) : Name :=
  .text (Files.temporaryName (options.storage.within .nodeVersion) processId)

/--
The child processes of an installation stay in the copy of the server: they write only below the directory that they
work in, and those that work where the process itself does write nothing.  If the copy is the storage itself, they
leave the temporary file for the version alone.
-/
structure ChildrenStay
    (options : NpmOptions)
    (workingDirectory : Location)
    (children : Disk.Children) :
    Prop where
  workBelow : children.WorkBelow workingDirectory
  writeNothing :
    ∀ {child disk reply later},
      children child disk reply later →
      child.workingDirectory = none →
      later = disk
  spareTemporary :
    ∀ {child disk reply later left place},
      children child disk reply later →
      child.workingDirectory = some options.copy →
      options.inner = [] →
      disk.LeadsTo workingDirectory options.storage left place →
      ∀ processId,
        later.get? (place ++ [temporaryName options processId]) =
          disk.get? (place ++ [temporaryName options processId])

/-! ## Child processes in the copy -/

/-- Child processes have supplied a copy with what they like, but for temporary files in the storage. -/
structure Supplies
    (options : NpmOptions)
    (filled later : Disk)
    (place : Location) :
    Prop where
  changes : filled.ChangesBelow later (place ++ options.inner)
  temporary :
    ∀ processId,
      later.get? (place ++ [temporaryName options processId]) =
        filled.get? (place ++ [temporaryName options processId])

theorem Supplies.changesBelow
    (supplies : Supplies options filled later place) :
    filled.ChangesBelow later place :=
  supplies.changes.of_prefix (List.prefix_append place options.inner)

/-- Temporary files have no names elsewhere, whatever child processes have written. -/
theorem Supplies.isOwn
    (supplies : Supplies options filled later place)
    (encloses : filled.Encloses place)
    (processId : Nat) :
    later.IsOwn place (place ++ [temporaryName options processId]) := by
  have isOwn :=
    encloses.isOwn
      (List.prefix_append place [temporaryName options processId])
  have isTemporary := supplies.temporary processId
  constructor
  · intro target isLink
    exact isOwn.noLink target (isTemporary.symm.trans isLink)
  · intro outside file other group stands standsOutside
    rcases supplies.changesBelow outside with isSame | ⟨isBelow, -⟩
    · exact isOwn.noNames outside file other group
        (isTemporary.symm.trans stands) (isSame.symm.trans standsOutside)
    · exact fun _ _ => isBelow

section

variable (renews : start.Renews cleared made workingDirectory options.storage place)
variable (fillsIn : made.FillsIn filled place)
variable (resolves : resources.resolve options.source = .ok source)

include renews fillsIn

theorem Supplies.changesMade
    (supplies : Supplies options filled later place) :
    made.ChangesBelow later place :=
  (Disk.changesBelow_of_fillsIn fillsIn renews.isFresh.1.hasDirectory).trans
    supplies.changesBelow

include resolves

/-- The path of the copy leads nowhere else while child processes write below the copy. -/
theorem Supplies.eq_of_leadsTo
    {left : Nat}
    {goal : Location}
    (supplies : Supplies options filled later place)
    (leads : later.LeadsTo workingDirectory options.copy left goal) :
    goal = place ++ options.inner := by
  obtain ⟨rest, isWay, areSegments, isInner⟩ := options.exists_way_copy
  obtain ⟨_, leadsMade⟩ := renews.makes.leads
  have ledTo :=
    leadsMade.mono
      ((supplies.changesMade renews fillsIn).within renews.isFresh)
  rw [Disk.LeadsTo, options.start_copy, isWay] at leads
  obtain ⟨_, between, leadsFirst, leadsOn⟩ := Disk.leads_of_leads_append leads
  obtain rfl : place = between := (ledTo.unique leadsFirst).2.symm
  rw [← isInner]
  apply leadsOn.eq_append_filter
  · intro name member
    exact NpmOptions.notUp_of_resolve resolves name (areSegments name member)
  · intro first isPrefix _ target isLink
    rw [isInner] at isPrefix
    have isShort :
        (place ++ first).length ≤ (place ++ options.inner).length :=
      ((List.prefix_append_right_inj place).mpr isPrefix).length_le
    rw [supplies.changes.get?_of_length_le isShort] at isLink
    exact fillsIn.confined.isEnclosed.noLinks _ target
      (List.prefix_append place first) isLink

/-- A child process that works in the copy supplies it. -/
theorem Supplies.answers
    {child : ChildProcess}
    {reply : Except DiskFault ProcessOutput}
    (stay : ChildrenStay options workingDirectory children)
    (supplies : Supplies options filled later place)
    (answered : children child later reply last)
    (worksThere : child.workingDirectory = some options.copy) :
    Supplies options filled last place := by
  have below : later.ChangesBelow last (place ++ options.inner) := by
    intro location
    have writesBelow := stay.workBelow _ _ _ _ answered
    rw [worksThere] at writesBelow
    rcases writesBelow location with isSame | ⟨left, goal, leads, isBelow⟩
    · exact Or.inl isSame
    · rw [supplies.eq_of_leadsTo renews fillsIn resolves leads] at isBelow
      exact Or.inr isBelow
  refine ⟨supplies.changes.trans below, fun processId => ?_⟩
  rw [← supplies.temporary processId]
  by_cases isStorage : options.inner = []
  · obtain ⟨_, leads⟩ := renews.makes.leads
    exact stay.spareTemporary answered worksThere isStorage
      (leads.mono
        ((supplies.changesMade renews fillsIn).within renews.isFresh))
      processId
  · have notNil := List.length_pos_iff.mpr isStorage
    apply below.get?_of_length_le
    simp only [List.length_append, List.length_singleton]
    omega

end

/-! ## Filling the storage -/

/-- A storage that has been cleared is made anew, and a mark is left in it. -/
theorem upholds_store
    (clears :
      start.ClearsTree cleared workingDirectory options.storage)
    (isNamed : options.storage ≠ Path.empty)
    (upFirst : options.storage.UpFirst) :
    Upholds (Disk.Answers workingDirectory children)
      (fun later => start.RenewsOnly later workingDirectory options.storage)
      (fun _ later =>
        ∃ made place,
          start.Renews cleared made workingDirectory options.storage place ∧
            made.FillsIn later place)
      (Serving.storing do
        Files.reporting options.storage
          (Files.makeDirectories options.storage)
        Files.createMarker (options.storage.within .installing))
      cleared := by
  have makesAll :
      Upholds (Disk.Answers workingDirectory children)
        (fun later => start.RenewsOnly later workingDirectory options.storage)
        (fun _ made =>
          made.ListsOnce ∧
            ∃ place,
              start.Renews cleared made workingDirectory options.storage
                place)
        (Files.reporting options.storage
          (Files.makeDirectories options.storage))
        cleared := by
    refine ⟨.attempt (Ensures.mono
      (Files.ensures_makeDirectories clears.isTree).ends ?_ ?_)⟩
    · rintro later ⟨-, gains⟩
      exact clears.renewsOnly gains
    · rintro (fault | _) made ⟨⟨⟨-, gains⟩, -⟩, ends⟩
      · exact clears.renewsOnly gains
      · obtain ⟨place, makes⟩ :=
          Files.ends_makeDirectories (fun _ _ _ _ => id) clears.isTree upFirst
            ends
        exact ⟨Files.listsOnce_of_makeDirectories (fun _ _ _ _ => id)
            clears.listsOnce ends,
          place, Disk.renews_of_makesWay clears isNamed makes gains⟩
  refine Upholds.adapt (makesAll.bind ?_) _
  rintro _ made ⟨once, place, renews⟩
  have isDirectory := renews.isFresh.1.hasDirectory
  obtain ⟨left, leads⟩ := renews.makes.leads
  have fillsIn : made.FillsIn made place :=
    ⟨renews.makes.isTree, once, .refl renews.encloses,
      fun _ _ stands _ => stands⟩
  have marks :
      Keeps (Disk.Answers workingDirectory children)
        (fun later => made.FillsIn later place)
        (Files.createMarker (options.storage.child markName)).run :=
    Files.keeps_createMarker (Disk.enters_of_leadsTo leads isDirectory) leads
      isDirectory markName_isPlain
  refine (marks.upholds fillsIn fun later fillsIn => ?_).mono
    fun _ later fillsIn => ⟨made, place, renews, fillsIn⟩
  exact renews.renewsOnly (Disk.changesBelow_of_fillsIn fillsIn isDirectory)

section

variable
  (renews :
    start.Renews cleared made workingDirectory options.storage place)

include renews

theorem renewsOnly_of_fillsIn
    (fillsIn : made.FillsIn later place) :
    start.RenewsOnly later workingDirectory options.storage :=
  renews.renewsOnly
    (Disk.changesBelow_of_fillsIn fillsIn renews.isFresh.1.hasDirectory)

/-- The source of the server is looked up, which fails if its path goes up. -/
theorem upholds_existing
    (fillsIn : made.FillsIn disk place) :
    Upholds (Disk.Answers workingDirectory children)
      (fun later => start.RenewsOnly later workingDirectory options.storage)
      (fun source later =>
        made.FillsIn later place ∧
          resources.resolve options.source = .ok source)
      (resources.existing options.source) disk := by
  have isHeld := renewsOnly_of_fillsIn renews fillsIn
  have looks (source : Path) :
      Upholds (Disk.Answers workingDirectory children)
        (fun later => start.RenewsOnly later workingDirectory options.storage)
        (fun found later => made.FillsIn later place ∧ found = source)
        (do
          let isThere ← (Files.exists? source : Plan Bool)
          if isThere then return source
          else throw (.missingResource options.source) : Serving Path)
        disk := by
    refine ⟨.bindLift (.bind (.ask fun reply after answered => ?_))⟩
    obtain ⟨-, rfl⟩ := answered
    refine ⟨isHeld, ?_⟩
    cases reply with
    | ok status => exact ⟨fillsIn, rfl⟩
    | error fault => exact isHeld
  unfold Resources.existing
  cases resolves : resources.resolve options.source with
  | error fault => exact ⟨isHeld⟩
  | ok source =>
      refine (looks source).mono fun found later isFound => ?_
      exact ⟨isFound.1, congrArg Except.ok isFound.2.symm⟩

/-- The server is copied to its place in the storage if the path of its source leads there, or not at all. -/
theorem upholds_copyTree
    (fillsIn : made.FillsIn disk place) :
    Upholds (Disk.Answers workingDirectory children)
      (fun later => start.RenewsOnly later workingDirectory options.storage)
      (fun _ later =>
        made.FillsIn later place ∧
          ∃ source, resources.resolve options.source = .ok source)
      (resources.copyTree options.source options.copy) disk := by
  unfold Resources.copyTree
  refine (upholds_existing renews fillsIn).bind ?_
  rintro source later ⟨fillsIn, resolves⟩
  obtain ⟨rest, isWay, areSegments, -⟩ := options.exists_way_copy
  obtain ⟨left, leads⟩ := renews.makes.leads
  -- The directory of the server is part of the path that has been looked up, so it does not go up.
  have goesOn : options.storage.GoesOn options.copy rest :=
    ⟨isWay, options.start_copy, fun name member =>
      NpmOptions.notUp_of_resolve resolves name (areSegments name member)⟩
  have enters := Disk.enters_of_leadsTo leads renews.isFresh.1.hasDirectory
  refine Upholds.adapt (Upholds.mono
    (Files.upholds_copyTree enters goesOn fillsIn ?_) ?_) _
  · exact fun later => renewsOnly_of_fillsIn renews
  · exact fun _ _ fillsIn => ⟨fillsIn, source, resolves⟩

section

variable (fillsIn : made.FillsIn filled place)

include fillsIn

/-- Dependencies are installed by child processes that supply the copy. -/
theorem upholds_installDependencies
    {runtime : NodeRuntime}
    (resolves : resources.resolve options.source = .ok source)
    (stay : ChildrenStay options workingDirectory children) :
    Upholds (Disk.Answers workingDirectory children)
      (fun later => start.RenewsOnly later workingDirectory options.storage)
      (fun _ later => Supplies options filled later place)
      (Serving.provisioning (runtime.installDependencies options.copy))
      filled := by
  have keeps :
      Keeps (Disk.Answers workingDirectory children)
        (fun later => Supplies options filled later place)
        (runtime.installDependencies options.copy).run := by
    refine (runtime.installDependencies_asksOnly options.copy).keeps ?_
    intro action later reply after runsIn answered supplies
    cases action with
    | spawn child =>
        exact supplies.answers renews fillsIn resolves stay answered
          (of_decide_eq_true runsIn)
    | _ =>
        rw [answered.eq_of_looks runsIn]
        exact supplies
  have suppliesAll :=
    keeps.upholds ⟨.refl _ _, fun _ => rfl⟩ fun later supplies =>
      renews.renewsOnly (supplies.changesMade renews fillsIn)
  exact suppliesAll.adapt _

/-- The version is written down, and the mark is removed. -/
theorem upholds_finish
    {version : String}
    (supplies : Supplies options filled later place) :
    Upholds (Disk.Answers workingDirectory children)
      (fun later => start.RenewsOnly later workingDirectory options.storage)
      (fun _ last => start.RenewsOnly last workingDirectory options.storage)
      (Serving.storing do
        Files.writeText (options.storage.within .nodeVersion) version
        Files.removeMarker (options.storage.within .installing))
      later := by
  obtain ⟨left, leads⟩ := renews.makes.leads
  have isFresh := renews.isFresh
  have isPlain : versionName.isPlain = true := by decide +kernel
  refine Upholds.adapt (Upholds.bind (Ensures.upholds
    (Files.ensures_writeAtomically isFresh leads isPlain
      (supplies.changesMade renews fillsIn)
      (supplies.isOwn fillsIn.confined.isEnclosed)) ?_) ?_) _
  · exact fun last => renews.renewsOnly
  intro _ written changes
  refine ((Files.keeps_removeFile isFresh leads markName_isPlain).upholds
    changes fun last => renews.renewsOnly).mono ?_
  exact fun _ last => renews.renewsOnly

end

end

/-- A storage that has been cleared is filled, and nothing changes anywhere else. -/
theorem upholds_fill
    {version : String}
    (stay : ChildrenStay server.options workingDirectory children)
    (clears :
      start.ClearsTree cleared workingDirectory server.options.storage)
    (isNamed : server.options.storage ≠ Path.empty)
    (upFirst : server.options.storage.UpFirst) :
    Upholds (Disk.Answers workingDirectory children)
      (fun later =>
        start.RenewsOnly later workingDirectory server.options.storage)
      (fun _ last =>
        start.RenewsOnly last workingDirectory server.options.storage)
      (server.fill version) cleared := by
  unfold fill
  refine (upholds_store clears isNamed upFirst).bind ?_
  rintro _ later ⟨made, place, renews, fillsIn⟩
  refine (upholds_copyTree renews fillsIn).bind ?_
  rintro _ filled ⟨fillsIn, source, resolves⟩
  dsimp only
  split
  · refine (upholds_installDependencies renews fillsIn resolves stay).bind ?_
    intro _ supplied supplies
    exact upholds_finish renews fillsIn supplies
  · exact upholds_finish renews fillsIn ⟨.refl _ _, fun _ => rfl⟩

/-! ## Installing -/

/-- The text of the version of a runtime is found by child processes that work where the process itself does. -/
theorem versionText_asksOnly (server : NpmServer) :
    (versionText.run.run server).AsksOnly (Action.runsIn none) := by
  unfold versionText
  rw [ExceptT.run_bind, StateT.run_bind]
  refine AsksOnly.bind ?_ fun outcome => ?_
  · exact (server.runtime.resolveVersion_asksOnly).bind fun _ => .done _
  · split <;> exact .done _

/-- The storage is removed, unless it is gone. -/
theorem upholds_removeTree
    (tree : start.IsTree)
    (once : start.ListsOnce)
    (isNamed : options.storage ≠ Path.empty) :
    Upholds (Disk.Answers workingDirectory children)
      (fun later => start.RenewsOnly later workingDirectory options.storage)
      (fun _ cleared =>
        start.ClearsTree cleared workingDirectory options.storage)
      (Serving.storing (Files.removeTree options.storage)) start := by
  have removes :
      Ensures (Disk.Answers workingDirectory children)
        (fun later => start.RenewsOnly later workingDirectory options.storage)
        (fun _ later =>
          start.RenewsOnly later workingDirectory options.storage)
        (Files.removeTree options.storage).run start := by
    refine .bind (.bind (.ask fun reply later answered => ?_))
    have renewsOnly := Disk.renewsOnly_of_removeTree answered
    refine ⟨renewsOnly, ?_⟩
    split
    · exact renewsOnly
    · split <;> exact renewsOnly
  refine Upholds.adapt ⟨removes.ends.mono (fun _ => id) ?_⟩ _
  rintro (fault | _) cleared ⟨renewsOnly, ends⟩
  · exact renewsOnly
  · exact Files.ends_removeTree_clears (fun _ _ _ _ => id) tree once isNamed
      ends

/-- Whatever the outcome of the steps of an installation, nothing has changed anywhere else. -/
theorem ensures_installSteps
    (stay : ChildrenStay server.options workingDirectory children)
    (tree : start.IsTree)
    (once : start.ListsOnce)
    (isNamed : server.options.storage ≠ Path.empty)
    (upFirst : server.options.storage.UpFirst) :
    Ensures (Disk.Answers workingDirectory children)
      (fun later =>
        start.RenewsOnly later workingDirectory server.options.storage)
      (endingSession
        (fun _ last =>
          start.RenewsOnly last workingDirectory server.options.storage)
        (fun _ last =>
          start.RenewsOnly last workingDirectory server.options.storage))
      (installSteps.run.run server) start := by
  unfold installSteps
  refine .bindGet (.bindSession (.within ?_))
  refine (upholds_removeTree tree once isNamed).ensures.mono (fun _ => id) ?_
  rintro (fault | _) cleared isEnd
  · exact isEnd
  intro later
  have renewsOnly :
      start.RenewsOnly cleared workingDirectory server.options.storage :=
    Disk.ClearsTree.renewsOnly isEnd (.refl _ _ _)
  have keeps :
      Keeps (Disk.Answers workingDirectory children) (· = cleared)
        (versionText.run.run later) := by
    refine later.versionText_asksOnly.keeps ?_
    intro action disk reply after runsIn answered isSame
    cases action with
    | spawn child =>
        rw [stay.writeNothing answered (of_decide_eq_true runsIn), isSame]
    | _ => rw [answered.eq_of_looks runsIn, isSame]
  refine .bindSession ((keeps cleared rfl).mono ?_ ?_)
  · rintro _ rfl
    exact renewsOnly
  rintro ⟨fault | version, between⟩ _ rfl
  · exact renewsOnly
  intro after
  exact .within (upholds_fill stay isEnd isNamed upFirst).ensures

end NpmServer

namespace Managed

section

variable {σ State : Type}
variable {step : Stepping State}
variable {always : State → Prop}
variable {state : State}
variable [Server σ]
variable {managed : Managed σ}

/-- An installation ensures what its steps ensure whatever their outcome. -/
theorem ensures_install
    (ensures :
      Ensures step always
        (endingSession (fun _ last => always last) fun _ last => always last)
        (Server.installSteps.run.run managed.server) state) :
    Ensures step always (fun _ last => always last)
      (install.run.run managed) state := by
  change
    Ensures step always _
      (((onServer Server.installSteps).run.run managed >>= _) >>= _) state
  refine .bind (.bind (.bind (ensures.mono (fun _ => id) ?_)))
  rintro ⟨fault | _, server⟩ last holds
  · exact holds
  · exact holds

end

end Managed

theorem NpmOptions.isNamed_of_validate
    {options : NpmOptions}
    (validates : options.validate = .ok ()) :
    options.storage ≠ Path.empty := by
  intro isEmpty
  unfold NpmOptions.validate at validates
  dsimp only at validates
  split at validates
  · cases validates
  · rw [if_pos isEmpty] at validates
    cases validates

namespace NpmServer

variable {workingDirectory : Location}
variable {children : Disk.Children}
variable {start last : Disk}

/--
Whatever becomes of an installation, it has changed nothing but what its storage stands for, and has made directories
on the way there.  The resources of the packages stand as they were, apart from those in the storage.
-/
theorem install_renewsOnly
    {managed : Managed NpmServer}
    {value? : Option (Except ServerFault Unit × Managed NpmServer)}
    (validates : managed.server.options.validate = .ok ())
    (upFirst : managed.server.options.storage.UpFirst)
    (stay :
      ChildrenStay managed.server.options workingDirectory children)
    (tree : start.IsTree)
    (once : start.ListsOnce)
    (run :
      Runs (Disk.Answers workingDirectory children)
        (Managed.install.run.run managed) start last value?) :
    start.RenewsOnly last workingDirectory managed.server.options.storage ∧
      ∀ left top location entry,
        start.LeadsTo workingDirectory managed.server.resources.root left
            top →
        top <+: location →
        (∀ place,
          start.IsPlaceOf workingDirectory managed.server.options.storage
              place →
          ¬place <+: location) →
        start.get? location = some entry →
        last.get? location = some entry := by
  have isNamed := NpmOptions.isNamed_of_validate validates
  have installs :=
    Managed.ensures_install
      (ensures_installSteps stay tree once isNamed upFirst)
  obtain ⟨renewsOnly, -⟩ := installs.of_runs run fun _ => Or.inl rfl
  refine ⟨renewsOnly, ?_⟩
  intro left top location entry _ _ isOutside stands
  exact renewsOnly.stands isOutside stands

/-! ## Child processes that make an entry -/

/-- Child processes that make an entry in the directory that they work in. -/
structure Maker where
  workingDirectory : Location := []
  directory : Option Path
  place : Location
  name : String
  entry : Entry
  output : Bytes := []

namespace Maker

/-- The disk with the entry. -/
def make (maker : Maker) (disk : Disk) : Disk :=
  disk.set (maker.place ++ [.text maker.name]) maker.entry

/-- Whether a child process works in the directory, and finds it. -/
def finds (maker : Maker) (child : ChildProcess) (disk : Disk) : Bool :=
  decide (child.workingDirectory = maker.directory) &&
    match maker.directory with
    | none => decide (maker.place = maker.workingDirectory)
    | some directory =>
        decide
          (disk.entryAt maker.workingDirectory true directory =
            .ok (maker.place, .directory 0o755))

/-- What the child processes do. -/
def processes (maker : Maker) : Disk.Children :=
  fun child disk reply later =>
    maker.finds child disk = true ∧
      reply = .ok ⟨.exited 0, maker.output, []⟩ ∧ later = maker.make disk

/-- Surroundings in which child processes do so. -/
def surroundings (maker : Maker) : Surroundings Host
  | .spawn _, host =>
      (.ok ⟨.exited 0, maker.output, []⟩,
        { host with disk := maker.make host.disk })
  | action, host => Host.perform action host

/-- Whether a child process that is started finds its directory. -/
def isReady (maker : Maker) (action : Action) (host : Host) : Bool :=
  decide (host.workingDirectory = maker.workingDirectory) &&
    match action with
    | .spawn child => maker.finds child host.disk
    | _ => true

/-- The installation of a server in these surroundings. -/
def install
    (maker : Maker)
    (server : NpmServer)
    (disk : Disk) :
    (Except ServerFault Unit × Managed NpmServer) × Host :=
  (Managed.install.run.run ⟨server, .uninitialized⟩).run maker.surroundings
    { Host.ofDisk disk with workingDirectory := maker.workingDirectory }

/-- Whether each child process of the installation finds its directory. -/
def isReadyFor
    (maker : Maker)
    (server : NpmServer)
    (disk : Disk) :
    Bool :=
  (Managed.install.run.run ⟨server, .uninitialized⟩).passes
    maker.surroundings maker.isReady
    { Host.ofDisk disk with workingDirectory := maker.workingDirectory }

variable (maker : Maker)

theorem workBelow : maker.processes.WorkBelow maker.workingDirectory := by
  rintro child disk _ _ ⟨finds, -, rfl⟩ location
  obtain ⟨isDirectory, isFound⟩ := (Bool.and_eq_true _ _).mp finds
  rw [of_decide_eq_true isDirectory]
  by_cases isMade : location = maker.place ++ [.text maker.name]
  · right
    have leads :
        ∃ left,
          disk.LeadsTo maker.workingDirectory
            (maker.directory.getD Path.empty) left maker.place := by
      cases isPath : maker.directory with
      | none =>
          rw [isPath] at isFound
          rw [of_decide_eq_true isFound]
          exact ⟨_, .arrived _ _⟩
      | some directory =>
          rw [isPath] at isFound
          exact Disk.leadsTo_of_entryAt (of_decide_eq_true isFound)
    obtain ⟨left, leads⟩ := leads
    refine ⟨left, maker.place, leads, ?_, ?_⟩
    · exact isMade ▸ List.prefix_append _ _
    · simp [isMade]
  · exact Or.inl (Disk.get?_set_of_ne disk _ isMade)

theorem answers_of_isReady
    (action : Action)
    (host : Host)
    (isReady : maker.isReady action host = true) :
    Disk.Answers maker.workingDirectory maker.processes action host.disk
      (maker.surroundings action host).1
      (maker.surroundings action host).2.disk := by
  obtain ⟨isHere, finds⟩ := (Bool.and_eq_true _ _).mp isReady
  rw [← of_decide_eq_true isHere]
  apply Host.answers_of_performs
  · intro action host isChild
    cases action <;> first | rfl | simp [Action.isChild] at isChild
  · rintro child rfl
    exact ⟨finds, rfl, rfl⟩

/-- The installation is a run whose child processes make the entry. -/
theorem ends_install
    {server : NpmServer}
    {disk : Disk}
    (isReadyFor : maker.isReadyFor server disk = true) :
    Ends (Disk.Answers maker.workingDirectory maker.processes)
      (Managed.install.run.run ⟨server, .uninitialized⟩) disk
      (maker.install server disk).1 (maker.install server disk).2.disk :=
  ends_of_passes Host.disk maker.answers_of_isReady isReadyFor

end Maker

/-- Child processes that make the directory of the modules in the copy of the sample. -/
def modulesMaker : Maker where
  directory := some sampleServer.options.copy
  place := [.text "s", .text "p", .text "server"]
  name := "node_modules"
  entry := .directory 0o755

theorem modulesMaker_stays :
    ChildrenStay sampleServer.options [] modulesMaker.processes where
  workBelow := modulesMaker.workBelow
  writeNothing := by
    rintro child disk _ _ ⟨finds, -⟩ isNone
    obtain ⟨isDirectory, -⟩ := (Bool.and_eq_true _ _).mp finds
    cases isNone.symm.trans (of_decide_eq_true isDirectory)
  spareTemporary := by
    intro _ _ _ _ _ _ _ _ isStorage
    exact absurd isStorage (by decide +kernel)

/-- The sample is installed with its modules, and nothing changes but its storage. -/
theorem sampleServer_renewsOnly :
    (modulesMaker.install sampleServer packagedDisk).2.disk.get?
          sampleModules =
        some (.directory 0o755) ∧
      packagedDisk.RenewsOnly
        (modulesMaker.install sampleServer packagedDisk).2.disk []
        sampleServer.options.storage := by
  have run :=
    modulesMaker.ends_install
      (show modulesMaker.isReadyFor sampleServer packagedDisk = true by
        decide +kernel)
  have validates : sampleServer.options.validate = .ok () := by
    decide +kernel
  have upFirst : sampleServer.options.storage.UpFirst := by decide +kernel
  have tree : packagedDisk.IsTree :=
    Disk.isTree_of_entries (by decide +kernel)
  have once : packagedDisk.ListsOnce := by decide +kernel
  refine ⟨by decide +kernel, ?_⟩
  exact
    (@install_renewsOnly [] modulesMaker.processes packagedDisk _
      ⟨sampleServer, .uninitialized⟩ _ validates upFirst modulesMaker_stays
      tree once run).1

/-! ## What changes elsewhere -/

/--
A server is installed on a tree without links, by child processes that work below their directories, and a file comes
to a location that is not in its storage.
-/
structure Strays
    (maker : Maker)
    (server : NpmServer)
    (disk : Disk)
    (place location : Location)
    (file : File) :
    Prop where
  validates : server.options.validate = .ok ()
  isTree : disk.IsTree
  listsOnce : disk.ListsOnce
  noLinks : ∀ item ∈ disk.entries, item.2.isLink = false
  workBelow : maker.processes.WorkBelow maker.workingDirectory
  ends :
    Ends (Disk.Answers maker.workingDirectory maker.processes)
      (Managed.install.run.run ⟨server, .uninitialized⟩) disk
      (.ok (), (maker.install server disk).1.2)
      (maker.install server disk).2.disk
  isStorage :
    (maker.install server disk).2.disk.entryAt maker.workingDirectory true
        server.options.storage =
      .ok (place, .directory 0o755)
  isOutside : ¬place <+: location
  wasOther : disk.get? location ≠ some (.file file)
  isThere :
    (maker.install server disk).2.disk.get? location = some (.file file)

/-- Whether an installation succeeds and leaves a file at a location, as its run shows. -/
def Maker.leaves
    (maker : Maker)
    (server : NpmServer)
    (disk : Disk)
    (place location : Location)
    (file : File) :
    Bool :=
  let installed := maker.install server disk
  maker.isReadyFor server disk && decide (installed.1.1 = .ok ()) &&
    decide
        (installed.2.disk.entryAt maker.workingDirectory true
            server.options.storage =
          .ok (place, .directory 0o755)) &&
      decide (installed.2.disk.get? location = some (.file file))

theorem Maker.strays_of_leaves
    (maker : Maker)
    {server : NpmServer}
    {disk : Disk}
    {place location : Location}
    {file : File}
    (validates : server.options.validate = .ok ())
    (isTree : disk.IsTree)
    (listsOnce : disk.ListsOnce)
    (noLinks : ∀ item ∈ disk.entries, item.2.isLink = false)
    (isOutside : ¬place <+: location)
    (wasOther : disk.get? location ≠ some (.file file))
    (isLeft : maker.leaves server disk place location file = true) :
    Strays maker server disk place location file := by
  simp only [leaves, Bool.and_eq_true, decide_eq_true_eq] at isLeft
  obtain ⟨⟨⟨isReady, succeeds⟩, isStorage⟩, isThere⟩ := isLeft
  have ends := maker.ends_install isReady
  have isOutcome :
      (maker.install server disk).1 =
        (.ok (), (maker.install server disk).1.2) := by
    rw [← succeeds]
  rw [isOutcome] at ends
  exact ⟨validates, isTree, listsOnce, noLinks, maker.workBelow, ends,
    isStorage, isOutside, wasOther, isThere⟩

/-- A disk on which an older file of the server is known elsewhere, too. -/
def sharedDisk : Disk :=
  ⟨[
    ([], .directory 0o755),
    ([.text "shared.js"],
      .file { mode := 0o644, content := [0x6f], group := some 0 }),
    ([.text "s"], .directory 0o755),
    ([.text "s", .text "p"], .directory 0o755),
    ([.text "s", .text "p", .text "server"], .directory 0o755),
    ([.text "s", .text "p", .text "server", .text "main.js"],
      .file { mode := 0o644, content := [0x6f], group := some 0 }),
    ([.text "r"], .directory 0o755),
    ([.text "r", .text "p"], .directory 0o755),
    ([.text "r", .text "p", .text "server"], .directory 0o755),
    ([.text "r", .text "p", .text "server", .text "package.json"],
      .file { mode := 0o644, content := [0x7b, 0x7d] }),
    ([.text "r", .text "p", .text "server", .text "main.js"],
      .file { mode := 0o755, content := [0x3b] })]⟩

/-- A server that is copied to its storage itself. -/
def rootedServer : NpmServer where
  options := {
    sampleServer.options with
    package := "p/server"
    directory := "." }
  resources := sampleServer.resources
  runtime := sampleServer.runtime

/-- Child processes that put a link in place of the temporary file for the version. -/
def planter : Maker where
  directory := some rootedServer.options.copy
  place := [.text "s", .text "p"]
  name :=
    Files.temporaryName (rootedServer.options.storage.within .nodeVersion) 1000
  entry := .link "/r/p/server/main.js"

/-- A server without dependencies, for a runtime that has to be asked for its version. -/
def askingServer : NpmServer where
  options := { sampleServer.options with skipDependencies := true }
  resources := sampleServer.resources
  runtime := { sampleServer.runtime with version? := none }

/-- Child processes that leave a file where the process itself works. -/
def tracer : Maker where
  workingDirectory := [.text "r"]
  directory := none
  place := [.text "r"]
  name := "trace.log"
  entry := .file { mode := 0o644, content := [] }
  output := Text.Utf8.ofString "v22.18.0"

/--
An older file changes under its other name if the storage is found only once a directory on the way to it is made.  A
resource changes through a link in place of the temporary file for the version.  What tells the version may write
where the process works.
-/
theorem installations_stray :
    Strays modulesMaker detouredServer sharedDisk [.text "s", .text "p"]
        [.text "shared.js"]
        { mode := 0o755, content := [0x3b], group := some 0 } ∧
      Strays planter rootedServer packagedDisk [.text "s", .text "p"]
          [.text "r", .text "p", .text "server", .text "main.js"]
          { mode := 0o755, content := Text.Utf8.ofString "22.18.0" } ∧
        Strays tracer askingServer packagedDisk [.text "s", .text "p"]
          [.text "r", .text "trace.log"] { mode := 0o644, content := [] } := by
  have isTree : packagedDisk.IsTree :=
    Disk.isTree_of_entries (by decide +kernel)
  have sharedIsTree : sharedDisk.IsTree :=
    Disk.isTree_of_entries (by decide +kernel)
  have listsOnce : packagedDisk.ListsOnce := by decide +kernel
  have noLinks : ∀ item ∈ packagedDisk.entries, item.2.isLink = false := by
    decide +kernel
  refine ⟨?_, ?_, ?_⟩
  · apply modulesMaker.strays_of_leaves _ sharedIsTree
    all_goals decide +kernel
  · apply planter.strays_of_leaves _ isTree listsOnce noLinks
    all_goals decide +kernel
  · apply tracer.strays_of_leaves _ isTree listsOnce noLinks
    all_goals decide +kernel

end NpmServer

end Provision
