import Provision.Proofs.Disk.Finding

namespace Provision

/-!
# The way to a file that is written

Before a file is written, the directories that it stands in are made.  Either they were all there, and the disk
stays as it is, or the way to the file comes to a new directory with nothing in it.  The path of the file finds
nothing then, as it found nothing before.
-/

open Plan

namespace Disk

variable {disk now after : Disk}
variable {workingDirectory : Location}
variable {children : Children}
variable {path parent above : Path}

/-- Each `..` in a path comes before all names that lead down, or it can be followed. -/
def FollowsUps
    (disk : Disk)
    (workingDirectory : Location)
    (path : Path) :
    Prop :=
  path.UpFirst ∨
    ∀ before name rest,
      path.names = before ++ name :: rest →
      name.isUp = true →
      ∃ left there,
        disk.Leads maxLinks (path.start workingDirectory) (before ++ [name]) left
          there

/-- The way of a path comes to a directory with nothing in it, and never goes up from there. -/
def HasFreshWay
    (disk : Disk)
    (workingDirectory : Location)
    (parent : Path) :
    Prop :=
  ∃ (above : Path) (rest : List Name) (left : Nat) (there : Location),
    parent.way = above.way ++ rest ∧
      parent.start workingDirectory = above.start workingDirectory ∧
        (∀ name ∈ rest, name.isUp = false) ∧
          disk.LeadsTo workingDirectory above left there ∧
            disk.IsFresh there

/-- A path never goes up after a directory that was missing on its way, if its `..` can be followed. -/
theorem noUps_of_makeDirectory
    {rest : List Name}
    {mode : Nat}
    (followsUps : disk.FollowsUps workingDirectory path)
    (within : disk.Within now)
    (tree : now.IsTree)
    (isNames : path.names = above.way ++ rest)
    (isStart : path.start workingDirectory = above.start workingDirectory)
    (mayPass : (Entry.directory mode).allows .execute = true)
    (makes : now.makeDirectory workingDirectory above mode = .ok after) :
    ∀ name ∈ rest, name.isUp = false := by
  obtain ⟨-, notUp, _, _, locates, -⟩ := fresh_of_makeDirectory tree mayPass makes
  intro name member
  by_contra isUp
  rw [Bool.not_eq_false] at isUp
  obtain ⟨before, later, rfl⟩ := List.append_of_mem member
  rcases followsUps with upFirst | follows
  · -- All names before a `..` would go up, and then the directory would have been there.
    rw [Path.UpFirst, isNames] at upFirst
    have areBefore := (List.pairwise_append.mp upFirst).2.2
    exact notUp (Path.onlyUp_of_way fun earlier inWay =>
      areBefore earlier inWay name member isUp)
  · have isSplit : path.names = (above.way ++ before) ++ name :: later := by
      rw [isNames, List.append_assoc]
    obtain ⟨_, _, leads⟩ := follows _ _ _ isSplit isUp
    rw [isStart, List.append_assoc] at leads
    obtain ⟨_, there, leadsAbove, leadsOn⟩ := leads_of_leads_append leads
    have wasDirectory : disk.HasDirectory there := by
      cases isFirst : before ++ [name] with
      | nil => simp at isFirst
      | cons first others =>
          rw [isFirst] at leadsOn
          cases leadsOn with
          | step steps => exact steps.hasDirectory
    have leadsNow : now.LeadsTo workingDirectory above _ there :=
      Leads.mono leadsAbove within
    have isDirectory : now.HasDirectory there :=
      wasDirectory.imp fun _ stands => within _ _ stands
    have isUsable := (locate_eq_ok_iff.mp locates).1
    obtain ⟨found, finds⟩ := leadsNow.exists_entryAt isDirectory isUsable
    rw [entryAt_of_locate_none locates] at finds
    simp at finds

/-- The names of what has a fresh way come to the fresh directory and go on from there. -/
theorem HasFreshWay.exists_names
    {names : List Name}
    (hasFreshWay : disk.HasFreshWay workingDirectory parent)
    (isNames : path.names = parent.way ++ names)
    (isStart : path.start workingDirectory = parent.start workingDirectory)
    (noUps : ∀ name ∈ names, name.isUp = false) :
    ∃ (above : Path) (rest : List Name) (left : Nat) (there : Location),
      path.names = above.way ++ (rest ++ names) ∧
        path.start workingDirectory = above.start workingDirectory ∧
          (∀ name ∈ rest ++ names, name.isUp = false) ∧
            disk.LeadsTo workingDirectory above left there ∧
              disk.IsFresh there := by
  obtain ⟨above, rest, left, there, isWay, starts, noUpsAbove, leads, isFresh⟩ :=
    hasFreshWay
  refine ⟨above, rest, left, there, ?_, isStart.trans starts,
    List.forall_mem_append.mpr ⟨noUpsAbove, noUps⟩, leads, isFresh⟩
  rw [isNames, isWay, List.append_assoc]

/-- What has a fresh way is not there. -/
theorem HasFreshWay.isAbsent
    {names : List Name}
    (hasFreshWay : disk.HasFreshWay workingDirectory parent)
    (isNames : path.names = parent.way ++ names)
    (isStart : path.start workingDirectory = parent.start workingDirectory)
    (noUps : ∀ name ∈ names, name.isUp = false)
    (isNamed : ∃ name ∈ names, name.isHere = false) :
    disk.IsAbsent workingDirectory path := by
  obtain ⟨above, rest, left, there, isNames, isStart, noUps, leads, isFresh⟩ :=
    hasFreshWay.exists_names isNames isStart noUps
  refine isFresh.isAbsent leads isNames isStart noUps ?_
  obtain ⟨name, member, notHere⟩ := isNamed
  exact ⟨name, List.mem_append_right _ member, notHere⟩

/-- What stands by a name of its own where a path with a fresh way leads is not there. -/
theorem HasFreshWay.isAbsent_child
    {name : Name}
    (hasFreshWay : disk.HasFreshWay workingDirectory parent)
    (notHere : name.isHere = false)
    (notUp : name.isUp = false) :
    disk.IsAbsent workingDirectory (parent.child name) :=
  hasFreshWay.isAbsent (Path.names_child parent name)
    (Path.start_child parent name _) (List.forall_mem_singleton.mpr notUp)
    ⟨name, .head _, notHere⟩

/-- A walk that takes a name from a fresh directory ends where this name is missing, and takes no other one. -/
theorem IsFresh.eq_of_walks
    {followLast : Bool}
    {links : Nat}
    {there location : Location}
    {names : List Name}
    {name : Name}
    {found? : Option Entry}
    (isFresh : disk.IsFresh there)
    (noUps : ∀ name ∈ names, name.isUp = false)
    (member : name ∈ names)
    (notHere : name.isHere = false)
    (walks : disk.Walks followLast links there names ⟨location, found?⟩) :
    location = there ++ [name] := by
  induction names with
  | nil => simp at member
  | cons first rest inductionHypothesis =>
      have isMissing : disk.get? (there ++ [first]) = none :=
        isFresh.2 [first] (List.cons_ne_nil first [])
      have goesOn (isHere : first.isHere = true)
          (later : disk.Walks followLast links there rest ⟨location, found?⟩) :
          location = there ++ [name] := by
        refine inductionHypothesis
          (fun other inRest => noUps other (.tail _ inRest)) ?_ later
        refine (List.mem_cons.mp member).resolve_left ?_
        rintro rfl
        simp [isHere] at notHere
      generalize isFound : (⟨location, found?⟩ : Found) = found at walks
      cases walks with
      | missing _ _ _ areEmpty =>
          obtain ⟨rfl, -⟩ := Found.mk.inj isFound
          rcases List.mem_cons.mp member with rfl | inRest
          · rfl
          · have isEmpty := List.all_eq_true.mp areEmpty name inRest
            simp [of_decide_eq_true isEmpty, Name.isHere] at notHere
      | link _ _ stands => simp [isMissing] at stands
      | step steps _ later =>
          subst isFound
          cases steps with
          | empty _ isEmpty => exact goesOn (by simp [isEmpty, Name.isHere]) later
          | dot _ isDot => exact goesOn (by simp [isDot, Name.isHere]) later
          | up _ isUp =>
              have notUp := noUps first (.head _)
              simp [isUp, Name.isUp] at notUp
          | down _ _ stands | follow _ _ stands => simp [isMissing] at stands

/-- Two names in a directory with a fresh way are not found at one place. -/
theorem HasFreshWay.locate_ne
    {written : Path}
    {names : List Name}
    {name other : Name}
    {followLast followOther : Bool}
    {place : Location}
    {found? other? : Option Entry}
    (hasFreshWay : disk.HasFreshWay workingDirectory parent)
    (isNames : path.names = parent.way ++ names)
    (isStart : path.start workingDirectory = parent.start workingDirectory)
    (noUps : ∀ name ∈ names, name.isUp = false)
    (member : name ∈ names)
    (notHere : name.isHere = false)
    (isOther : other ≠ name)
    (otherNotHere : other.isHere = false)
    (otherNotUp : other.isUp = false)
    (isWritten : written = parent.child other)
    (locates :
      disk.locate workingDirectory followLast path = .ok ⟨place, found?⟩) :
    disk.locate workingDirectory followOther written ≠ .ok ⟨place, other?⟩ := by
  subst isWritten
  intro locatesOther
  obtain ⟨above, rest, left, there, isWay, starts, noUpsAbove, leads, isFresh⟩ :=
    hasFreshWay
  have isPlace {named : Path} {followed : Bool} {further : List Name}
      {last : Name} {thing? : Option Entry}
      (locates :
        disk.locate workingDirectory followed named = .ok ⟨place, thing?⟩)
      (isNames : named.names = parent.way ++ further)
      (isStart : named.start workingDirectory = parent.start workingDirectory)
      (noUps : ∀ name ∈ further, name.isUp = false)
      (member : last ∈ further)
      (notHere : last.isHere = false) :
      place = there ++ [last] := by
    obtain ⟨-, walks⟩ := locate_eq_ok_iff.mp locates
    rw [isNames, isStart, isWay, starts, List.append_assoc] at walks
    have notEmpty : (rest ++ further).all (· = .text "") = false := by
      refine List.all_eq_false.mpr
        ⟨last, List.mem_append_right rest member, ?_⟩
      simpa using Name.ne_empty notHere
    obtain ⟨_, between, leadsFirst, walksOn⟩ :=
      leads_of_walks_append walks notEmpty
    obtain rfl := (leads.unique leadsFirst).2
    exact isFresh.eq_of_walks
      (List.forall_mem_append.mpr ⟨noUpsAbove, noUps⟩)
      (List.mem_append_right rest member) notHere walksOn
  have isHere := isPlace locates isNames isStart noUps member notHere
  have isThere :=
    isPlace locatesOther (Path.names_child parent other)
      (Path.start_child parent other _)
      (List.forall_mem_singleton.mpr otherNotUp) (.head _) otherNotHere
  exact isOther (List.append_singleton_inj.mp (isThere.symm.trans isHere)).2

/-! ## Directories that are made for a file -/

/-- The directories on the way of a path are as they were, or the last one that was made has nothing in it. -/
structure Prepares
    (disk now : Disk)
    (workingDirectory : Location)
    (parent : Path) :
    Prop where
  isTree : now.IsTree
  within : disk.Within now
  isNew : now = disk ∨ now.HasFreshWay workingDirectory parent

theorem Prepares.refl
    (tree : disk.IsTree)
    (workingDirectory : Location)
    (parent : Path) :
    disk.Prepares disk workingDirectory parent :=
  ⟨tree, .refl disk, Or.inl rfl⟩

theorem Prepares.makeDirectory
    {names : List Name}
    {steps : Nat}
    (prepares : disk.Prepares now workingDirectory parent)
    (followsUps : disk.FollowsUps workingDirectory path)
    (isNames : path.names = parent.way ++ names)
    (isStart : ∀ here, path.start here = parent.start here)
    (isAbove : above ∈ Files.lineage steps parent)
    (makes : now.makeDirectory workingDirectory above 0o755 = .ok after) :
    disk.Prepares after workingDirectory parent := by
  obtain ⟨isTree, -, left, there, locates, gains, leads, isFresh⟩ :=
    fresh_of_makeDirectory prepares.isTree rfl makes
  obtain ⟨⟨rest, isWay⟩, starts⟩ := Path.way_prefix_of_mem_lineage isAbove
  have noUps : ∀ name ∈ rest ++ names, name.isUp = false :=
    noUps_of_makeDirectory followsUps prepares.within prepares.isTree
      (by rw [isNames, ← isWay, List.append_assoc])
      ((isStart _).trans (starts _).symm) rfl makes
  refine ⟨isTree, prepares.within.trans fun _ _ => gains.get?, Or.inr ?_⟩
  exact ⟨above, rest, left, there, isWay.symm, (starts _).symm,
    (List.forall_mem_append.mp noUps).1, leads, isFresh⟩

end Disk

namespace Files

variable {disk : Disk}
variable {workingDirectory : Location}
variable {children : Disk.Children}
variable {step : Stepping Disk}
variable {path parent : Path}
variable {names : List Name}

/-- The directories that a path stands in are made one by one, each of them new. -/
theorem keeps_makeParents_prepares
    (answersBy : Disk.AnswersBy workingDirectory children step)
    (followsUps : disk.FollowsUps workingDirectory path)
    (isParent : path.parent? = some parent)
    (isNames : path.names = parent.way ++ names)
    (isStart : ∀ here, path.start here = parent.start here) :
    Keeps step (fun now => disk.Prepares now workingDirectory parent)
      (makeParents path).run := by
  classical
  let allowed (action : Action) : Bool :=
    decide
      (action.looks = true ∨
        ∃ above steps,
          above ∈ lineage steps parent ∧ action = .makeDirectory above)
  have asksOnly : (makeDirectories parent).AsksOnly allowed :=
    makeDirectories_asksOnly (fun _ => decide_eq_true (Or.inl rfl))
      fun steps above member =>
        decide_eq_true (Or.inr ⟨above, steps, member, rfl⟩)
  rw [makeParents, isParent]
  refine Keeps.attempt (asksOnly.keeps ?_) _
  intro action now reply after isAllowed answered prepares
  have answers := answersBy _ _ _ _ answered
  rcases of_decide_eq_true isAllowed with
    looks | ⟨above, steps, member, rfl⟩
  · rwa [answers.eq_of_looks looks]
  · cases answers with
    | done makes =>
        exact prepares.makeDirectory followsUps isNames isStart member makes
    | refused | unchanged => exact prepares
    | brokenOff _ partly => exact partly.elim

end Files

end Provision
