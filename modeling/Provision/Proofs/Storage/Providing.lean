import Mathlib.Data.List.Basic
import Provision.Proofs.Storage.Trees
import Provision.Proofs.Storage.Writing

namespace Provision

/-!
# Directories that can be made

Where a path leads is known before its directories are made: its first names lead to a directory that is there,
and each of its other names is made in turn.  Nothing else changes on the disk.
-/

open Plan

namespace Path

/-- The names of a path go on after a name of its own, without the slash at the end. -/
theorem exists_way
    {path : Path}
    {before rest : List Name}
    {name : Name}
    (isNames : path.names = before ++ name :: rest)
    (isNamed : name ≠ .text "") :
    ∃ later, path.way = before ++ name :: later := by
  rcases path.names_eq_way with isWay | isWay
  · exact ⟨rest, isWay.symm.trans isNames⟩
  · rw [isNames] at isWay
    rcases List.eq_nil_or_concat' rest with rfl | ⟨later, last, rfl⟩
    · exact absurd (List.append_singleton_inj.mp isWay).2 isNamed
    · refine ⟨later, ?_⟩
      rw [← List.cons_append, ← List.append_assoc] at isWay
      exact (List.append_singleton_inj.mp isWay).1.symm

/-- The empty path is not looked up at all. -/
theorem ne_empty_of_isUsable
    {path : Path}
    (isUsable : path.isUsable = true) :
    path ≠ empty := by
  rintro rfl
  simp [Path.isUsable] at isUsable

/-- A path has no more names to follow than segments. -/
theorem length_way_le (path : Path) :
    path.way.length ≤ path.segments.length := by
  have isShort : path.names.length ≤ path.segments.length := by
    rw [names]
    split
    · exact Nat.le_succ _
    · exact Nat.le_refl _
  rw [way]
  split
  · rw [List.length_dropLast]
    omega
  · exact isShort

end Path

namespace Disk

variable {disk made later : Disk}
variable {workingDirectory place : Location}
variable {path parent : Path}
variable {heres rest names : List Name}
variable {name : Name}

/--
A path leads to a directory by its first names, and nothing has its other names, so that they can be made there
one after the other.
-/
inductive CanMake
    (disk : Disk)
    (workingDirectory place : Location) :
    Path → List Name → Prop where
  | there
      {path : Path}
      {left : Nat}
      (leads : disk.LeadsTo workingDirectory path left place)
      (isDirectory : disk.HasDirectory place)
      (isUsable : path = Path.empty ∨ path.isUsable = true) :
      CanMake disk workingDirectory place path []
  | inside
      {path parent : Path}
      {heres rest names : List Name}
      {name : Name}
      (canMake : CanMake disk workingDirectory place parent names)
      (isParent : path.parent? = some parent)
      (standsIn : path.StandsIn parent heres name rest)
      (isPlain : name.isPlain = true)
      (isLast : rest.all (· = .text "") = true)
      (isUsable : path.isUsable = true)
      (isMissing : disk.get? (place ++ (names ++ [name])) = none)
      (mayChange :
        names = [] → disk.mayChange (place ++ [name]) = true) :
      CanMake disk workingDirectory place path (names ++ [name])

/-- Directories with some names have been made one in the other, and nothing else has changed. -/
structure Makes
    (disk made : Disk)
    (place : Location)
    (names : List Name) :
    Prop where
  isTree : made.IsTree
  listsOnce : made.ListsOnce
  isMade :
    ∀ first,
      first <+: names →
      first ≠ [] →
      disk.get? (place ++ first) = none ∧
        made.get? (place ++ first) = some (.directory 0o755)
  elsewhere :
    ∀ location,
      (∀ first, first <+: names → first ≠ [] → location ≠ place ++ first) →
      made.get? location = disk.get? location

/-- Whether things may be made in a directory depends on the directory alone. -/
theorem mayChange_concat
    (disk : Disk)
    (there : Location)
    (name : Name) :
    disk.mayChange (there ++ [name]) =
      (disk.get? there).any fun entry =>
        entry.allows .write && entry.allows .execute := by
  rw [mayChange, above, List.dropLast_concat]

/-- A directory in which things may be made may be entered. -/
theorem isOpen_of_mayChange
    (isDirectory : disk.HasDirectory place)
    (mayChange : disk.mayChange (place ++ [name]) = true) :
    disk.IsOpen place := by
  obtain ⟨mode, stands⟩ := isDirectory
  rw [mayChange_concat, stands, Option.any_some, Bool.and_eq_true]
    at mayChange
  exact ⟨mode, stands, mayChange.2⟩

/-- A directory is made under a plain name in the directory that a path stands in, and the path leads to it. -/
theorem LeadsTo.makeDirectory
    {left : Nat}
    {there : Location}
    (leads : disk.LeadsTo workingDirectory parent left there)
    (tree : disk.IsTree)
    (standsIn : path.StandsIn parent heres name rest)
    (isPlain : name.isPlain = true)
    (isLast : rest.all (· = .text "") = true)
    (isUsable : path.isUsable = true)
    (isOpen : disk.IsOpen there)
    (isMissing : disk.get? (there ++ [name]) = none)
    (mayChange : disk.mayChange (there ++ [name]) = true) :
    disk.makeDirectory workingDirectory path 0o755 =
        .ok (disk.set (there ++ [name]) (.directory 0o755)) ∧
      (disk.set (there ++ [name]) (.directory 0o755)).IsTree ∧
        ∃ left,
          (disk.set (there ++ [name]) (.directory 0o755)).LeadsTo
            workingDirectory path left (there ++ [name]) := by
  have locates :
      disk.locate workingDirectory false path =
        .ok ⟨there ++ [name], none⟩ := by
    refine locate_eq_ok_iff.mpr ⟨isUsable, ?_⟩
    rw [standsIn.names, standsIn.start]
    exact (Leads.append leads (isOpen.leads_heres standsIn.heres left)).walks_append
      (List.cons_ne_nil name rest) (.missing isOpen isPlain isMissing isLast)
  refine ⟨?_, tree.set isOpen.hasDirectory isPlain ?_,
    (leadsTo_of_locate_none tree locates 0o755).2⟩
  · rw [Disk.makeDirectory, locates]
    exact if_pos mayChange
  · rintro ⟨mode, stands⟩
    simp [isMissing] at stands

/-- A path under which nothing has to be made leads to the directory. -/
theorem CanMake.leadsTo
    (canMake : disk.CanMake workingDirectory place path names)
    (isNil : names = []) :
    ∃ left, disk.LeadsTo workingDirectory path left place := by
  cases canMake with
  | there leads => exact ⟨_, leads⟩
  | inside => simp at isNil

/-- The directory in which others can be made is there. -/
theorem CanMake.hasDirectory
    (canMake : disk.CanMake workingDirectory place path names) :
    disk.HasDirectory place := by
  induction canMake with
  | there _ isDirectory => exact isDirectory
  | inside _ _ _ _ _ _ _ _ isDirectory => exact isDirectory

/-- A path goes on below its directory by a name that is missing there. -/
theorem CanMake.exists_missing
    (canMake : disk.CanMake workingDirectory place path names)
    (notNil : names ≠ []) :
    ∃ before first later left,
      path.way = before ++ first :: later ∧
        disk.Leads maxLinks (path.start workingDirectory) before left place ∧
          disk.IsOpen place ∧ first.isPlain = true ∧
            disk.get? (place ++ [first]) = none := by
  induction canMake with
  | there => exact absurd rfl notNil
  | @inside path parent heres rest names name canMake _ standsIn isPlain _ _
      isMissing mayChange inductionHypothesis =>
      obtain ⟨later, isWay⟩ :=
        Path.exists_way standsIn.names (not_special_of_isPlain isPlain).1
      cases canMake with
      | there leads isDirectory =>
          have isOpen := isOpen_of_mayChange isDirectory (mayChange rfl)
          rw [Disk.LeadsTo, ← standsIn.start] at leads
          exact ⟨_, name, later, _, isWay,
            leads.append (isOpen.leads_heres standsIn.heres _), isOpen,
            isPlain, isMissing⟩
      | inside =>
          obtain ⟨before, first, between, left, isParentWay, leads, isOpen,
            isPlainFirst, isMissingFirst⟩ :=
            inductionHypothesis (by simp)
          rw [isParentWay] at isWay
          rw [← standsIn.start] at leads
          exact ⟨before, first, _, left, by simpa using isWay, leads, isOpen,
            isPlainFirst, isMissingFirst⟩

/-- The names that are to be made are names of the path. -/
theorem CanMake.length_le
    (canMake : disk.CanMake workingDirectory place path names) :
    names.length ≤ path.way.length := by
  induction canMake with
  | there => exact Nat.zero_le _
  | inside _ _ standsIn isPlain _ _ _ _ inductionHypothesis =>
      obtain ⟨later, isWay⟩ :=
        Path.exists_way standsIn.names (not_special_of_isPlain isPlain).1
      rw [isWay]
      simp only [List.length_append, List.length_cons, List.length_nil]
      omega

/-- Where a directory and the one that it stands in are missing, the call tells so. -/
theorem CanMake.makeDirectory_missing
    (canMake : disk.CanMake workingDirectory place parent names)
    (notNil : names ≠ [])
    (standsIn : path.StandsIn parent heres name rest)
    (isPlain : name.isPlain = true)
    (isUsable : path.isUsable = true) :
    disk.makeDirectory workingDirectory path 0o755 =
      .error (.refused .noEntry) := by
  obtain ⟨before, first, later, left, isWay, leads, isOpen, isPlainFirst,
    isMissing⟩ := canMake.exists_missing notNil
  have isLater :
      (later ++ heres ++ name :: rest).all (· = .text "") = false := by
    refine List.all_eq_false.mpr ⟨name, by simp, ?_⟩
    simpa using (not_special_of_isPlain isPlain).1
  have isWalk :
      disk.walk false maxLinks (path.start workingDirectory) path.names =
        .error .noEntry := by
    rw [standsIn.names, isWay, standsIn.start, List.append_assoc,
      List.append_assoc, List.cons_append, walk_of_leads leads (by simp)]
    obtain ⟨follow, isWalk, -⟩ := exists_walkWith disk false left
    rw [isWalk, walkWith_cons_of_isPlain isOpen isPlainFirst, isMissing,
      ← List.append_assoc, isLater]
    rfl
  rw [Disk.makeDirectory, locate_of_isUsable isUsable, isWalk]
  rfl

/-- Nothing has been made yet. -/
theorem makes_nil
    (tree : disk.IsTree)
    (once : disk.ListsOnce) :
    disk.Makes disk place [] where
  isTree := tree
  listsOnce := once
  isMade := fun _ isFirst notNil => absurd (List.prefix_nil.mp isFirst) notNil
  elsewhere := fun _ _ => rfl

/-- What stands in the last directory is as before. -/
theorem Makes.get?_inside
    (makes : disk.Makes made place names)
    (notNil : rest ≠ []) :
    made.get? (place ++ names ++ rest) = disk.get? (place ++ names ++ rest) := by
  refine makes.elsewhere _ fun first isFirst _ isSame => notNil ?_
  have isShort := isFirst.length_le
  rw [List.append_assoc] at isSame
  rw [← List.append_cancel_left isSame] at isShort
  simpa using isShort

/-- One directory more is made in the last one. -/
theorem Makes.inside
    (makes : disk.Makes made place names)
    (isMissing : disk.get? (place ++ (names ++ [name])) = none)
    (tree :
      (made.set (place ++ names ++ [name]) (.directory 0o755)).IsTree) :
    disk.Makes (made.set (place ++ names ++ [name]) (.directory 0o755)) place
      (names ++ [name]) := by
  rw [List.append_assoc] at tree ⊢
  refine ⟨tree, makes.listsOnce.set _ _, fun first isFirst notNil => ?_,
    fun location isElsewhere => ?_⟩
  · rcases List.prefix_concat_iff.mp isFirst with rfl | isFirst
    · exact ⟨isMissing, get?_set_self made _ _⟩
    · refine (makes.isMade first isFirst notNil).imp_right fun isMade => ?_
      rw [get?_set_of_ne made _ fun isSame => ?_]
      · exact isMade
      · have isShort := isFirst.length_le
        rw [List.append_cancel_left isSame] at isShort
        simp at isShort
  · rw [get?_set_of_ne made _ (isElsewhere _ List.prefix_rfl (by simp))]
    exact makes.elsewhere location fun first isFirst =>
      isElsewhere first (isFirst.trans (List.prefix_append _ _))

/-- What has been made last is a directory that may be entered. -/
theorem Makes.isOpen
    (makes : disk.Makes made place names)
    (notNil : names ≠ []) :
    made.IsOpen (place ++ names) :=
  ⟨_, (makes.isMade names List.prefix_rfl notNil).2, rfl⟩

/-- Things may be made in what has been made last. -/
theorem Makes.mayChange
    (makes : disk.Makes made place names)
    (notNil : names ≠ []) :
    made.mayChange (place ++ names ++ [name]) = true := by
  have stands := (makes.isMade names List.prefix_rfl notNil).2
  rw [mayChange_concat, stands]
  rfl

end Disk

/-! ## Runs -/

namespace Files

variable {surroundings : Surroundings Host}
variable {host : Host}
variable {disk now later : Disk}
variable {path : Path}
variable {above : List Path}
variable {place : Location}
variable {names : List Name}
variable
  (performs :
    ∀ action host,
      action.makesWay = true →
      surroundings action host = Host.perform action host)

include performs

/-- The call to make a directory is answered by the disk of a host. -/
theorem ends_askMakeDirectory
    (makes :
      now.makeDirectory host.workingDirectory path 0o755 = .ok later) :
    Ends (answersOf surroundings) (Plan.ask (.makeDirectory path))
      { host with disk := now } (.ok ()) { host with disk := later } := by
  refine ends_ask_iff.mpr ((performs _ _ rfl).trans ?_)
  change Host.change _ _ = _
  rw [makes]
  rfl

/-- The call to make a directory leaves the disk as it is if it is refused. -/
theorem ends_askMakeDirectory_refused
    {fault : DiskFault}
    (isRefused :
      now.makeDirectory host.workingDirectory path 0o755 = .error fault) :
    Ends (answersOf surroundings) (Plan.ask (.makeDirectory path))
      { host with disk := now } (.error fault) { host with disk := now } := by
  refine ends_ask_iff.mpr ((performs _ _ rfl).trans ?_)
  change Host.change _ _ = _
  rw [isRefused]
  rfl

/-- A directory is made by the first call. -/
theorem ends_makeLineage_anew
    (notEmpty : path ≠ Path.empty)
    (makes :
      now.makeDirectory host.workingDirectory path 0o755 = .ok later) :
    Ends (answersOf surroundings) (makeLineage (path :: above))
      { host with disk := now } (.ok ()) { host with disk := later } := by
  rw [makeLineage, if_neg notEmpty]
  exact ends_bind_iff.mpr ⟨.ok (), { host with disk := later },
    ends_askMakeDirectory performs makes, ends_pure_iff.mpr ⟨rfl, rfl⟩⟩

/-- A directory that is there is not made again. -/
theorem ends_makeLineage_there
    {bits : Nat}
    (notEmpty : path ≠ Path.empty)
    (isThere :
      now.makeDirectory host.workingDirectory path 0o755 =
        .error (.refused .exists))
    (isDirectory :
      now.status host.workingDirectory true path = .ok ⟨.directory, bits⟩) :
    Ends (answersOf surroundings) (makeLineage (path :: above))
      { host with disk := now } (.ok ()) { host with disk := now } := by
  rw [makeLineage, if_neg notEmpty]
  refine ends_bind_iff.mpr ⟨.error (.refused .exists),
    { host with disk := now },
    ends_askMakeDirectory_refused performs isThere, ?_⟩
  dsimp only
  rw [if_neg (by decide)]
  refine ends_bind_iff.mpr ⟨true, { host with disk := now },
    ends_bind_iff.mpr ⟨.ok ⟨.directory, bits⟩, { host with disk := now },
      ends_ask_iff.mpr ((performs _ _ rfl).trans ?_),
      ends_pure_iff.mpr ⟨rfl, rfl⟩⟩,
    ends_pure_iff.mpr ⟨rfl, rfl⟩⟩
  exact Prod.ext isDirectory rfl

/-- The directory that a path leads to is not made again. -/
theorem ends_makeLineage_of_leads
    {left : Nat}
    (isUsable : path = Path.empty ∨ path.isUsable = true)
    (isDirectory : now.HasDirectory place)
    (leads : now.LeadsTo host.workingDirectory path left place) :
    Ends (answersOf surroundings) (makeLineage (path :: above))
      { host with disk := now } (.ok ()) { host with disk := now } := by
  rcases isUsable with rfl | isUsable
  · exact ends_pure_iff.mpr ⟨rfl, rfl⟩
  · obtain ⟨mode, stands⟩ := id isDirectory
    obtain ⟨⟨location, entry⟩, finds⟩ :=
      leads.exists_entryAt isDirectory isUsable
    have isStatus :
        now.status host.workingDirectory true path = .ok ⟨.directory, mode⟩ := by
      rw [Disk.status, leads.finds stands isUsable]
      rfl
    refine ends_makeLineage_there performs (Path.ne_empty_of_isUsable isUsable) ?_
      isStatus
    rw [Disk.makeDirectory, Disk.entryAt_eq_ok_iff.mp finds]

/-- A directory is made after the one that it stands in. -/
theorem ends_makeLineage_after
    {middle : Disk}
    (notEmpty : path ≠ Path.empty)
    (isMissing :
      now.makeDirectory host.workingDirectory path 0o755 =
        .error (.refused .noEntry))
    (makesAbove :
      Ends (answersOf surroundings) (makeLineage above)
        { host with disk := now } (.ok ()) { host with disk := middle })
    (makes :
      middle.makeDirectory host.workingDirectory path 0o755 = .ok later) :
    Ends (answersOf surroundings) (makeLineage (path :: above))
      { host with disk := now } (.ok ()) { host with disk := later } := by
  rw [makeLineage, if_neg notEmpty]
  refine ends_bind_iff.mpr ⟨.error (.refused .noEntry),
    { host with disk := now },
    ends_askMakeDirectory_refused performs isMissing, ?_⟩
  dsimp only
  rw [if_pos (by decide)]
  exact ends_bind_iff.mpr ⟨.ok (), { host with disk := middle }, makesAbove,
    ends_bind_iff.mpr ⟨.ok (), { host with disk := later },
      ends_askMakeDirectory performs makes, ends_pure_iff.mpr ⟨rfl, rfl⟩⟩⟩

/-- Directories that can be made are made, and the path leads to the last one. -/
theorem ends_makeLineage_of_canMake
    {steps : Nat}
    (tree : disk.IsTree)
    (once : disk.ListsOnce)
    (canMake : disk.CanMake host.workingDirectory place path names)
    (isLong : names.length < steps) :
    ∃ made,
      Ends (answersOf surroundings) (makeLineage (lineage steps path))
          { host with disk } (.ok ()) { host with disk := made } ∧
        disk.Makes made place names ∧
          ∃ left,
            made.LeadsTo host.workingDirectory path left (place ++ names) := by
  induction canMake generalizing steps with
  | @there path left leads isDirectory isUsable =>
      obtain ⟨fewer, rfl⟩ := Nat.exists_eq_succ_of_ne_zero isLong.ne'
      exact ⟨disk,
        ends_makeLineage_of_leads performs isUsable isDirectory leads,
        Disk.makes_nil tree once, left, by simpa using leads⟩
  | @inside path parent heres rest names name canMake isParent standsIn
      isPlain isLast isUsable isMissing mayChange inductionHypothesis =>
      rw [List.length_append, List.length_singleton] at isLong
      obtain ⟨fewer, rfl⟩ :=
        Nat.exists_eq_succ_of_ne_zero (Nat.zero_lt_of_lt isLong).ne'
      rw [lineage, isParent]
      have notEmpty := Path.ne_empty_of_isUsable isUsable
      by_cases isNil : names = []
      · obtain ⟨left, leads⟩ := canMake.leadsTo isNil
        subst isNil
        have mayChange := mayChange rfl
        obtain ⟨makes, isTree, leadsNow⟩ :=
          leads.makeDirectory tree standsIn isPlain isLast isUsable
            (Disk.isOpen_of_mayChange canMake.hasDirectory mayChange) isMissing
            mayChange
        have isMade :=
          (Disk.makes_nil tree once).inside isMissing
            (by simpa only [List.append_nil] using isTree)
        rw [List.append_nil] at isMade
        exact ⟨_, ends_makeLineage_anew performs notEmpty makes, isMade,
          leadsNow⟩
      · -- What the directory stands in is missing, too, so the first call is refused and the second one makes it.
        obtain ⟨made, makesAbove, makesNames, left, leads⟩ :=
          inductionHypothesis (Nat.lt_of_succ_lt_succ isLong)
        have isMissingNow : made.get? (place ++ names ++ [name]) = none := by
          rw [makesNames.get?_inside (List.cons_ne_nil name []),
            List.append_assoc]
          exact isMissing
        obtain ⟨makes, isTree, leadsNow⟩ :=
          leads.makeDirectory makesNames.isTree standsIn isPlain isLast isUsable
            (makesNames.isOpen isNil) isMissingNow (makesNames.mayChange isNil)
        have isMissingAbove :=
          canMake.makeDirectory_missing isNil standsIn isPlain isUsable
        rw [List.append_assoc] at leadsNow
        exact ⟨_,
          ends_makeLineage_after performs notEmpty isMissingAbove makesAbove
            makes,
          makesNames.inside isMissing isTree, by
            simpa only [List.append_assoc] using leadsNow⟩

/-- A directory that can be made is made with all that it stands in, and nothing else changes. -/
theorem ends_makeDirectories_of_canMake
    (tree : disk.IsTree)
    (once : disk.ListsOnce)
    (canMake : disk.CanMake host.workingDirectory place path names) :
    ∃ made,
      Ends (answersOf surroundings) (makeDirectories path) { host with disk }
          (.ok ()) { host with disk := made } ∧
        disk.Makes made place names ∧
          ∃ left,
            made.LeadsTo host.workingDirectory path left (place ++ names) :=
  ends_makeLineage_of_canMake performs tree once canMake
    (Nat.lt_succ_of_le (canMake.length_le.trans path.length_way_le))

end Files

end Provision
