import Mathlib.Data.List.Basic
import Provision.Proofs.Storage.Merging

namespace Provision

/-!
# Directories that are reproduced

A directory is copied to a place that may have to be made first.  Then everything in it is found there again, with
what was there before, and nothing else has changed but the way to the place.
-/

open Plan

namespace File

/--
A file holds what another one holds, and everyone may do the same with it, but what has been written no longer runs as
its owner or group.
-/
structure IsCopyOf (copy file : File) : Prop where
  content : copy.content = file.content
  permissions :
    ∀ bit < 10, copy.mode.testBit bit = file.mode.testBit bit
  mode :
    copy.mode =
      if file.content = [] then file.mode else modeOnceWritten file.mode

/-- A copy is a copy, whatever was there before. -/
theorem isCopyOf_copiedTo
    (file : File)
    (old? : Option Entry) :
    (file.copiedTo old?).IsCopyOf file := by
  refine ⟨file.content_copiedTo old?, fun bit isLower => ?_,
    file.mode_copiedTo old?⟩
  rw [file.mode_copiedTo]
  split
  · rfl
  · exact testBit_modeOnceWritten isLower file.mode

end File

namespace Disk

variable {disk made now later : Disk}
variable {workingDirectory : Location}
variable {source target : Path}
variable {origin place : Location}
variable {below names : List Name}
variable {name : Name}

/-! ## The place is made -/

/-- What lies in a place is not on the way to another one that it is apart from. -/
theorem AreApart.ne_way
    {first : List Name}
    (areApart : AreApart origin (place ++ names))
    (isFirst : first <+: names)
    (below : List Name) :
    origin ++ below ≠ place ++ first := by
  intro isHere
  exact areApart.1
    ((isHere ▸ List.prefix_append origin below).trans
      ((List.prefix_append_right_inj place).mpr isFirst))

section

variable (makes : disk.Makes made place names)

include makes

/-- Making directories changes nothing where something is. -/
theorem Makes.get?_of_ne_none
    {location : Location}
    (isThere : disk.get? location ≠ none) :
    made.get? location = disk.get? location :=
  makes.elsewhere location fun first isFirst notNil isHere =>
    isThere (isHere ▸ (makes.isMade first isFirst notNil).1)

/-- All that is there stays as directories are made. -/
theorem Makes.stays : disk.Stays made := fun _ _ stands _ =>
  (makes.get?_of_ne_none (stands ▸ Option.some_ne_none _)).trans stands

/-- What is new once directories have been made is one of them. -/
theorem Makes.eq_directory
    {location : Location}
    {entry : Entry}
    (isMissing : disk.get? location = none)
    (stands : made.get? location = some entry) :
    entry = .directory 0o755 := by
  by_cases isMade :
      ∃ first, first <+: names ∧ first ≠ [] ∧ location = place ++ first
  · obtain ⟨first, isFirst, notNil, rfl⟩ := isMade
    exact Option.some.inj
      (stands.symm.trans (makes.isMade first isFirst notNil).2)
  · have isSame :=
      makes.elsewhere location fun first isFirst notNil isHere =>
        isMade ⟨first, isFirst, notNil, isHere⟩
    rw [isSame, isMissing] at stands
    simp at stands

/-- The last directory that is made is empty, so nothing in it changes but it may be new itself. -/
theorem Makes.get?_goal
    (below : List Name) :
    made.get? (place ++ names ++ below) = disk.get? (place ++ names ++ below) ∨
      names ≠ [] ∧ below = [] ∧ disk.get? (place ++ names) = none ∧
        made.get? (place ++ names) = some (.directory 0o755) := by
  by_cases isNil : names = []
  · refine Or.inl (makes.elsewhere _ fun first isFirst notNil => ?_)
    exact absurd (List.prefix_nil.mp (isNil ▸ isFirst)) notNil
  · obtain ⟨isMissing, isMade⟩ := makes.isMade names List.prefix_rfl isNil
    cases below with
    | nil => exact Or.inr ⟨isNil, rfl, isMissing, isMade⟩
    | cons name rest => exact Or.inl (makes.get?_inside (List.cons_ne_nil _ _))

/-- A file in the last directory has been there before. -/
theorem Makes.get?_file
    {file : File}
    (stands : made.get? (place ++ names ++ below) = some (.file file)) :
    disk.get? (place ++ names ++ below) = some (.file file) := by
  rcases makes.get?_goal below with isSame | ⟨-, rfl, -, isMade⟩
  · exact isSame ▸ stands
  · rw [List.append_nil, isMade] at stands
    simp at stands

/-- A file keeps to itself as directories are made. -/
theorem Makes.isAlone
    (isAlone : disk.IsAlone (place ++ names ++ below)) :
    made.IsAlone (place ++ names ++ below) := by
  intro file other found isFile isOther isFound
  have wasFile := makes.get?_file isFile
  cases wasFound : disk.get? other with
  | none =>
      rw [makes.eq_directory wasFound isFound]
      rfl
  | some old =>
      rw [makes.get?_of_ne_none (wasFound ▸ Option.some_ne_none _), wasFound]
        at isFound
      exact isAlone file other found wasFile isOther (wasFound.trans isFound)

variable
  (ready :
    disk.MayMerge workingDirectory source target origin (place ++ names))

include ready

/-- Making the place leaves the directory that is to be copied as it is. -/
theorem Makes.get?_source (below : List Name) :
    made.get? (origin ++ below) = disk.get? (origin ++ below) := by
  exact makes.elsewhere _ fun first isFirst _ =>
    ready.areApart.ne_way isFirst below

/-- A directory of the place may be entered and changed as before, or it is new. -/
theorem Makes.mayAdd
    (isThere : disk.get? (origin ++ (below ++ [name])) ≠ none)
    (isMissing : made.get? (place ++ names ++ (below ++ [name])) = none) :
    made.get? (place ++ names ++ below) = none ∨
      made.mayChange (place ++ names ++ (below ++ [name])) = true := by
  have wasMissing : disk.get? (place ++ names ++ (below ++ [name])) = none :=
    (makes.get?_inside (by simp)).symm.trans isMissing
  rcases makes.get?_goal below with isSame | ⟨notNil, rfl, -⟩
  · refine (ready.mayAdd below name isThere wasMissing).imp (isSame.trans ·) ?_
    intro mayChange
    rw [← List.append_assoc, mayChange_concat] at mayChange ⊢
    rwa [isSame]
  · exact Or.inr (makes.mayChange notNil)

/-- A directory can be copied to a place once that has been made. -/
theorem MayMerge.of_makes :
    made.MayMerge workingDirectory source target origin (place ++ names) := by
  have stays := makes.stays
  have isSource := makes.get?_source ready
  obtain ⟨left, leads⟩ := ready.leads
  obtain ⟨mode, isDirectory⟩ := id ready.isDirectory
  exact {
    isTree := makes.isTree
    listsOnce := makes.listsOnce
    leads := ⟨left, leads.of_stays ready.isDirectory stays⟩
    areApart := ready.areApart
    isDirectory := ⟨mode, stays _ _ isDirectory rfl⟩
    areUsable := fun below isThere =>
      ready.areUsable below (isSource below ▸ isThere)
    mayRead := fun below entry stands =>
      ready.mayRead below entry (isSource below ▸ stands)
    mayEnter := by
      intro below name isThere
      obtain ⟨isOpen, mayEnter⟩ :=
        ready.mayEnter below name (isSource _ ▸ isThere)
      refine ⟨isOpen.of_stays stays, ?_⟩
      rcases mayEnter with isNew | isOpenGoal
      · rcases makes.get?_goal below with isSame | ⟨notNil, rfl, -⟩
        · exact Or.inl (isSame.trans isNew)
        · rw [List.append_nil]
          exact Or.inr (makes.isOpen notNil)
      · exact Or.inr (isOpenGoal.of_stays stays)
    mayAdd := fun below name isThere =>
      makes.mayAdd ready (isSource _ ▸ isThere)
    linksLead := by
      intro below link isLink
      obtain ⟨found, file, finds, mayRead, isElsewhere⟩ :=
        ready.linksLead below link (isSource below ▸ isLink)
      have isThere : disk.get? found ≠ none :=
        get?_of_entryAt finds ▸ Option.some_ne_none _
      exact ⟨found, file,
        entryAt_of_stays finds stays (makes.get?_of_ne_none isThere), mayRead,
        fun other isOther => isElsewhere other (isSource other ▸ isOther)⟩
    areAlike := by
      intro below entry old stands wasThere
      rw [isSource] at stands
      rcases makes.get?_goal below with isSame | ⟨-, rfl, -, isMade⟩
      · exact ready.areAlike below entry old stands (isSame ▸ wasThere)
      · rw [List.append_nil] at stands wasThere
        obtain rfl := Option.some.inj (isDirectory.symm.trans stands)
        obtain rfl := Option.some.inj (isMade.symm.trans wasThere)
        exact ⟨rfl, rfl⟩
    mayWrite := fun below file isThere isFile =>
      ready.mayWrite below file (isSource below ▸ isThere)
        (makes.get?_file isFile)
    areAlone := fun below isThere =>
      makes.isAlone (ready.areAlone below (isSource below ▸ isThere)) }

/-- What is to come of a directory is the same once the place has been made. -/
theorem Makes.merged_eq
    (isThere : disk.get? (origin ++ below) ≠ none) :
    made.merged workingDirectory source origin (place ++ names) below =
      disk.merged workingDirectory source origin (place ++ names) below := by
  have readyNow := ready.of_makes makes
  obtain ⟨entry, stands⟩ := Option.ne_none_iff_exists'.mp isThere
  have standsNow := (makes.get?_source ready below).trans stands
  cases isDirectory : entry.isDirectory with
  | true =>
      cases entry with
      | file | link => simp [Entry.isDirectory] at isDirectory
      | directory mode =>
          rw [merged, merged, standsNow, stands]
          rcases makes.get?_goal below with isSame | ⟨-, rfl, isMissing, isMade⟩
          · simp only [isSame]
          · simp only [List.append_nil, isMissing, isMade, Option.getD_some,
              Option.getD_none]
  | false =>
      obtain ⟨found, file, finds, isSupplied, -⟩ :=
        ready.exists_suppliedFile stands isDirectory
      obtain ⟨_, now, findsNow, isSuppliedNow, -⟩ :=
        readyNow.exists_suppliedFile standsNow isDirectory
      have isFound : disk.get? found ≠ none :=
        get?_of_entryAt finds ▸ Option.some_ne_none _
      have findsSame :=
        entryAt_of_stays finds makes.stays (makes.get?_of_ne_none isFound)
      obtain ⟨-, isEntry⟩ :=
        Prod.mk.inj (Except.ok.inj (findsSame.symm.trans findsNow))
      obtain rfl := Entry.file.inj isEntry
      rw [merged_eq_copy standsNow isDirectory isSuppliedNow,
        merged_eq_copy stands isDirectory isSupplied]
      rcases makes.get?_goal below with isSame | ⟨-, rfl, -⟩
      · rw [isSame]
      · obtain ⟨mode, isOrigin⟩ := ready.isDirectory
        rw [List.append_nil, isOrigin] at stands
        obtain rfl := Option.some.inj stands
        simp [Entry.isDirectory] at isDirectory

end

/-! ## What is left -/

section

variable (disk : Disk)
variable (workingDirectory : Location)
variable (source : Path)
variable (origin place : Location)
variable (names : List Name)
variable (later : Disk)

/-- What is left once a directory has been copied to a place for which directories have been made. -/
structure Leaves : Prop where
  covered :
    ∀ below,
      disk.get? (origin ++ below) ≠ none →
      later.get? (place ++ names ++ below) =
        disk.merged workingDirectory source origin (place ++ names) below
  way :
    ∀ first,
      first <+: names →
      first ≠ [] →
      later.get? (place ++ first) = some (.directory 0o755)
  elsewhere :
    ∀ location,
      (∀ first, first <+: names → first ≠ [] → location ≠ place ++ first) →
      (∀ below,
        disk.get? (origin ++ below) ≠ none →
        location ≠ place ++ names ++ below) →
      later.get? location = disk.get? location

/--
A directory is found again in another place: its directories, its files, and the files that its links lead to.
The directories on the way to the place are there, and everything else is as it was.
-/
structure Reproduces : Prop where
  directories :
    ∀ below mode,
      disk.get? (origin ++ below) = some (.directory mode) →
      later.get? (place ++ names ++ below) =
        some ((disk.get? (place ++ names ++ below)).getD (.directory 0o755))
  files :
    ∀ below file,
      disk.get? (origin ++ below) = some (.file file) →
      ∃ copy,
        later.get? (place ++ names ++ below) = some (.file copy) ∧
          copy.IsCopyOf file
  links :
    ∀ below link,
      disk.get? (origin ++ below) = some (.link link) →
      ∃ found file copy,
        disk.entryAt workingDirectory true (source.below below) =
            .ok (found, .file file) ∧
          later.get? (place ++ names ++ below) = some (.file copy) ∧
            copy.IsCopyOf file
  way :
    ∀ first,
      first <+: names →
      first ≠ [] →
      later.get? (place ++ first) = some (.directory 0o755)
  itself : ∀ below, later.get? (origin ++ below) = disk.get? (origin ++ below)
  elsewhere :
    ∀ location,
      (∀ first, first <+: names → first ≠ [] → location ≠ place ++ first) →
      (∀ below,
        disk.get? (origin ++ below) ≠ none →
        location ≠ place ++ names ++ below) →
      later.get? location = disk.get? location

end

/-- What is left does not depend on how it came about. -/
theorem Leaves.get?_eq
    (leaves : disk.Leaves workingDirectory source origin place names now)
    (leavesToo : disk.Leaves workingDirectory source origin place names later)
    (location : Location) :
    now.get? location = later.get? location := by
  by_cases isWay :
      ∃ first, first <+: names ∧ first ≠ [] ∧ location = place ++ first
  · obtain ⟨first, isFirst, notNil, rfl⟩ := isWay
    rw [leaves.way first isFirst notNil, leavesToo.way first isFirst notNil]
  by_cases isCovered :
      ∃ below,
        disk.get? (origin ++ below) ≠ none ∧
          location = place ++ names ++ below
  · obtain ⟨below, isThere, rfl⟩ := isCovered
    rw [leaves.covered below isThere, leavesToo.covered below isThere]
  have notWay : ∀ first, first <+: names → first ≠ [] →
      location ≠ place ++ first := fun first isFirst notNil isHere =>
    isWay ⟨first, isFirst, notNil, isHere⟩
  have notCovered : ∀ below, disk.get? (origin ++ below) ≠ none →
      location ≠ place ++ names ++ below := fun below isThere isHere =>
    isCovered ⟨below, isThere, isHere⟩
  rw [leaves.elsewhere location notWay notCovered,
    leavesToo.elsewhere location notWay notCovered]

/-- A file that is supplied is found again in what is left. -/
theorem Leaves.exists_copy
    {entry : Entry}
    {file : File}
    (leaves : disk.Leaves workingDirectory source origin place names later)
    (stands : disk.get? (origin ++ below) = some entry)
    (notDirectory : entry.isDirectory = false)
    (isSupplied :
      disk.suppliedFile? workingDirectory (source.below below)
          (origin ++ below) =
        some file) :
    ∃ copy,
      later.get? (place ++ names ++ below) = some (.file copy) ∧
        copy.IsCopyOf file :=
  ⟨file.copiedTo (disk.get? (place ++ names ++ below)),
    (leaves.covered below (stands ▸ Option.some_ne_none _)).trans
      (merged_eq_copy stands notDirectory isSupplied),
    file.isCopyOf_copiedTo _⟩

section

variable
  (ready :
    disk.MayMerge workingDirectory source target origin (place ++ names))

include ready

/-- What has been made and then copied is what is left. -/
theorem Merges.leaves
    (makes : disk.Makes made place names)
    (merges :
      made.Merges workingDirectory source origin (place ++ names) later
        fun _ => True) :
    disk.Leaves workingDirectory source origin place names later := by
  have isSource := makes.get?_source ready
  have covered : ∀ below,
      disk.get? (origin ++ below) ≠ none →
      later.get? (place ++ names ++ below) =
        disk.merged workingDirectory source origin (place ++ names) below :=
    fun below isThere =>
      (merges.covered below trivial (isSource below ▸ isThere)).trans
        (makes.merged_eq ready isThere)
  refine ⟨covered, fun first isFirst notNil => ?_,
    fun location notWay notCovered => ?_⟩
  · -- The last directory on the way is the one that the source is copied to; nothing is copied to the others.
    obtain ⟨isMissing, isMade⟩ := makes.isMade first isFirst notNil
    by_cases isLast : first = names
    · subst isLast
      obtain ⟨mode, stands⟩ := ready.isDirectory
      have isGoal := covered [] (by simp [stands])
      rw [merged, List.append_nil, List.append_nil, stands, isMissing] at isGoal
      exact isGoal
    · rw [merges.elsewhere _ fun below _ _ isHere => isLast ?_, isMade]
      rw [List.append_assoc] at isHere
      have isSame := List.append_cancel_left isHere
      exact isFirst.eq_of_length_le (by simp [isSame])
  · rw [merges.elsewhere location fun below _ isThere =>
      notCovered below (isSource below ▸ isThere)]
    exact makes.elsewhere location notWay

/-- The place of a directory that is copied is not in the way that is made. -/
theorem Leaves.get?_source
    (leaves : disk.Leaves workingDirectory source origin place names later)
    (below : List Name) :
    later.get? (origin ++ below) = disk.get? (origin ++ below) := by
  refine leaves.elsewhere _
    (fun first isFirst _ => ready.areApart.ne_way isFirst below)
    fun other _ isHere => ?_
  exact ready.areApart.not_below below
    (isHere ▸ List.prefix_append (place ++ names) other)

/-- A directory is found again in what is left. -/
theorem Leaves.reproduces
    (leaves : disk.Leaves workingDirectory source origin place names later) :
    disk.Reproduces workingDirectory source origin place names later where
  directories := by
    intro below mode stands
    rw [leaves.covered below (stands ▸ Option.some_ne_none _), merged, stands]
  files := by
    intro below file stands
    refine leaves.exists_copy stands rfl ?_
    rw [suppliedFile?, stands]
  links := by
    intro below link stands
    obtain ⟨found, file, finds, isSupplied, -⟩ :=
      ready.exists_suppliedFile stands rfl
    obtain ⟨copy, isThere, isCopy⟩ :=
      leaves.exists_copy stands rfl isSupplied
    exact ⟨found, file, copy, finds, isThere, isCopy⟩
  way := leaves.way
  itself := leaves.get?_source ready
  elsewhere := leaves.elsewhere

end

end Disk

namespace Files

variable {host : Host}
variable {source target : Path}
variable {origin place : Location}
variable {names : List Name}

/-- A directory is copied, and what is left is known beforehand. -/
theorem exists_copyTree_leaves
    {order : Host → Path → List (Name × Disk.Kind) → List (Name × Disk.Kind)}
    (isOrder : ∀ host path items, (order host path items).Perm items)
    (canMake : host.disk.CanMake host.workingDirectory place target names)
    (ready :
      host.disk.MayMerge host.workingDirectory source target origin
        (place ++ names)) :
    ∃ later,
      (copyTree source target).run.run (Host.inOrder order) host =
          (.ok (), { host with disk := later }) ∧
        host.disk.Leaves host.workingDirectory source origin place names
          later := by
  obtain ⟨made, makesWay, makes, leads⟩ :=
    ends_makeDirectories_of_canMake Host.inOrder_of_makesWay ready.isTree
      ready.listsOnce canMake
  have isGoal : made.HasDirectory (place ++ names) := by
    by_cases isNil : names = []
    · obtain ⟨mode, stands⟩ := canMake.hasDirectory
      rw [isNil, List.append_nil]
      exact ⟨mode, makes.stays _ _ stands rfl⟩
    · exact ⟨_, (makes.isMade names List.prefix_rfl isNil).2⟩
  obtain ⟨later, copies, merges⟩ :=
    ends_copyTree_made (ready.of_makes makes) leads isGoal isOrder makesWay
  exact ⟨later, ends_answersOf_iff.mp copies, merges.leaves ready makes⟩

/--
A directory is copied with all that it holds, in whatever order directories are listed: everything in it is found
again, nothing else changes but the way to the place, and what is left does not depend on the order.
-/
theorem copyTree_reproduces
    (canMake : host.disk.CanMake host.workingDirectory place target names)
    (ready :
      host.disk.MayMerge host.workingDirectory source target origin
        (place ++ names)) :
    ∃ result,
      host.disk.Reproduces host.workingDirectory source origin place names
          result ∧
        ∀ order : Host → Path → List (Name × Disk.Kind) → List (Name × Disk.Kind),
          (∀ host path items, (order host path items).Perm items) →
          ∃ later,
            (copyTree source target).run.run (Host.inOrder order) host =
                (.ok (), { host with disk := later }) ∧
              ∀ location, later.get? location = result.get? location := by
  obtain ⟨result, -, leaves⟩ :=
    exists_copyTree_leaves (fun _ _ _ => List.Perm.rfl) canMake ready
  refine ⟨result, leaves.reproduces ready, fun order isOrder => ?_⟩
  obtain ⟨later, copies, leavesToo⟩ :=
    exists_copyTree_leaves isOrder canMake ready
  exact ⟨later, copies, leavesToo.get?_eq leaves⟩

/-- A disk with the directories `/s` and `/t` and some more things. -/
def shelves (things : List (Location × Entry)) : Disk :=
  ⟨([], .directory 0o755) :: ([.text "s"], .directory 0o755) ::
    ([.text "t"], .directory 0o755) :: things⟩

/-- A file with one byte. -/
def leaf (mode : Nat) (byte : UInt8) (group : Option Nat) : Entry :=
  .file { mode, content := [byte], group }

/-- A disk with a tree of a file, a directory and a link, and two files in the place that it is copied to. -/
def plantedDisk : Disk :=
  shelves [([.text "s", .text "a"], leaf 0o600 0x6e none),
    ([.text "s", .text "d"], .directory 0o700),
    ([.text "s", .text "d", .text "l"], .link "../a"),
    ([.text "t", .text "a"], leaf 0o644 0x6f none),
    ([.text "t", .text "k"], leaf 0o644 0x6b none)]

/-- What is in the tree. -/
theorem plantedDisk_holds
    {below : List Name}
    (isThere : plantedDisk.get? ([.text "s"] ++ below) ≠ none) :
    below ∈
      [[], [.text "a"], [.text "d"], [.text "d", .text "l"]] := by
  have areHeld :
      ∀ item ∈ plantedDisk.entries,
        item.1.head? = some (.text "s") →
        item.1.tail ∈
          [[], [.text "a"], [.text "d"], [.text "d", .text "l"]] := by
    decide +kernel
  obtain ⟨entry, stands⟩ := Option.ne_none_iff_exists'.mp isThere
  exact areHeld _ (Disk.mem_entries_of_get? stands) rfl

/-- What is in a directory of the tree. -/
theorem plantedDisk_holds_in
    {below : List Name}
    {name : Name}
    (isThere : plantedDisk.get? ([.text "s"] ++ (below ++ [name])) ≠ none) :
    below = [] ∨ below = [.text "d"] := by
  have areHeld :
      ∀ item ∈ plantedDisk.entries,
        item.1.head? = some (.text "s") →
        item.1.tail.dropLast ∈ [[], [.text "d"]] := by
    decide +kernel
  obtain ⟨entry, stands⟩ := Option.ne_none_iff_exists'.mp isThere
  simpa using areHeld _ (Disk.mem_entries_of_get? stands) rfl

/-- Every directory of the disk may be entered. -/
theorem plantedDisk_isOpen
    {location : Location}
    {mode : Nat}
    (stands : plantedDisk.get? location = some (.directory mode)) :
    plantedDisk.IsOpen location := by
  have areOpen :
      ∀ item ∈ plantedDisk.entries,
        item.2.isDirectory = true → item.2.allows .execute = true := by
    decide +kernel
  exact ⟨mode, stands, areOpen _ (Disk.mem_entries_of_get? stands) rfl⟩

/-- The tree can be copied. -/
theorem plantedDisk_mayMerge :
    plantedDisk.MayMerge [] "/s" "/t" [.text "s"] [.text "t"] where
  isTree := Disk.isTree_of_entries (by decide +kernel)
  listsOnce := by decide +kernel
  leads :=
    Disk.leadsTo_of_entryAt
      (show plantedDisk.entryAt [] true "/s" =
        .ok ([.text "s"], .directory 0o755) by decide +kernel)
  areApart := ⟨by decide, by decide⟩
  isDirectory := ⟨0o755, by decide +kernel⟩
  areUsable := by
    have areUsable :
        ∀ below ∈ [[], [.text "a"], [.text "d"], [.text "d", .text "l"]],
          (Path.below "/s" below).isUsable = true ∧
            (Path.below "/t" below).isUsable = true := by
      decide +kernel
    intro below isThere
    obtain ⟨isUsable, isUsableToo⟩ :=
      areUsable below (plantedDisk_holds isThere)
    exact ⟨isUsable, fun _ => isUsableToo⟩
  mayRead := by
    have areRead :
        ∀ item ∈ plantedDisk.entries,
          item.2.isLink = true ∨ item.2.allows .read = true := by
      decide +kernel
    exact fun below entry stands =>
      areRead _ (Disk.mem_entries_of_get? stands)
  mayEnter := by
    intro below name isThere
    rcases plantedDisk_holds_in isThere with rfl | rfl
    · exact ⟨plantedDisk_isOpen rfl, Or.inr (plantedDisk_isOpen rfl)⟩
    · exact ⟨plantedDisk_isOpen rfl, Or.inl (by decide +kernel)⟩
  mayAdd := by
    intro below name isThere _
    rcases plantedDisk_holds_in isThere with rfl | rfl
    · exact Or.inr rfl
    · exact Or.inl (by decide +kernel)
  linksLead := by
    have areLinks :
        ∀ item ∈ plantedDisk.entries,
          item.2.isLink = true →
          item.1 = [.text "s", .text "d", .text "l"] := by
      decide +kernel
    intro below link isLink
    obtain rfl : below = [.text "d", .text "l"] :=
      (List.cons.inj (areLinks _ (Disk.mem_entries_of_get? isLink) rfl)).2
    refine ⟨[.text "s", .text "a"], { mode := 0o600, content := [0x6e] },
      by decide +kernel, by decide +kernel, fun other _ isThere => ?_⟩
    simp at isThere
  areAlike := by
    have areAlike :
        ∀ below ∈ [[], [.text "a"], [.text "d"], [.text "d", .text "l"]],
          (plantedDisk.get? ([.text "s"] ++ below)).all fun entry =>
            (plantedDisk.get? ([.text "t"] ++ below)).all fun old =>
              old.isDirectory = entry.isDirectory ∧ old.isLink = false := by
      decide +kernel
    intro below entry old stands wasThere
    have isAlike :=
      areAlike below (plantedDisk_holds (stands ▸ Option.some_ne_none _))
    rw [stands, wasThere] at isAlike
    exact of_decide_eq_true isAlike
  mayWrite := by
    have areWritable :
        ∀ item ∈ plantedDisk.entries, item.2.allows .write = true ∨
          item.2.isFile = false := by
      decide +kernel
    exact fun below file _ isFile =>
      (areWritable _ (Disk.mem_entries_of_get? isFile)).resolve_right
        (by simp [Entry.isFile])
  areAlone := by
    have areAlone :
        ∀ item ∈ plantedDisk.entries, ∀ other ∈ plantedDisk.entries,
          Disk.sameFile item.2 other.2 = false := by
      decide +kernel
    exact fun below _ file other found isFile _ isFound =>
      areAlone _ (Disk.mem_entries_of_get? isFile) _
        (Disk.mem_entries_of_get? isFound)

/-- The tree is found again with its file, its directory and the file that its link leads to. -/
theorem plantedDisk_is_reproduced :
    plantedDisk.CanMake [] [.text "t"] "/t" [] ∧
      ∃ result,
        plantedDisk.Reproduces [] "/s" [.text "s"] [.text "t"] [] result ∧
          ∀ order :
              Host → Path → List (Name × Disk.Kind) → List (Name × Disk.Kind),
            (∀ host path items, (order host path items).Perm items) →
            ∃ later,
              (copyTree "/s" "/t").run.run (Host.inOrder order)
                    (Host.ofDisk plantedDisk) =
                  (.ok (), { Host.ofDisk plantedDisk with disk := later }) ∧
                ∀ location, later.get? location = result.get? location := by
  have finds :
      plantedDisk.entryAt [] true "/t" =
        .ok ([.text "t"], .directory 0o755) := by
    decide +kernel
  obtain ⟨left, leads⟩ := Disk.leadsTo_of_entryAt finds
  have canMake : plantedDisk.CanMake [] [.text "t"] "/t" [] :=
    .there leads ⟨0o755, by decide +kernel⟩ (Or.inr (by decide +kernel))
  exact ⟨canMake,
    @copyTree_reproduces (Host.ofDisk plantedDisk) "/s" "/t" [.text "s"]
      [.text "t"] [] canMake plantedDisk_mayMerge⟩

/-- What comes of copying `/s` to a path on a disk. -/
def shelved (disk : Disk) (target : Path) : Except StorageFault Unit × Disk :=
  ((copyTree "/s" target).run.run Host.perform (Host.ofDisk disk)).map id
    Host.disk

/-- The file that is written over has another name outside. -/
def namedTwiceDisk : Disk :=
  shelves [([.text "s", .text "a"], leaf 0o644 0x6e none),
    ([.text "t", .text "a"], leaf 0o644 0x6f (some 0)),
    ([.text "o"], leaf 0o644 0x6f (some 0))]

/-- The file that is copied is a program that runs as its owner. -/
def ownedDisk : Disk :=
  shelves [([.text "s", .text "a"], leaf 0o4755 0x6e none)]

/-- The link that is copied leads to the file that is written over. -/
def circularDisk : Disk :=
  shelves [([.text "s", .text "a"], .link "/t/a"),
    ([.text "t", .text "a"], leaf 0o644 0x6f none)]

/-- A link stands where another one is copied to. -/
def linkedDisk : Disk :=
  shelves [([.text "s", .text "a"], .link "/b"), ([.text "b"], leaf 0o644 0x6e none),
    ([.text "t", .text "a"], .link "/o"), ([.text "o"], leaf 0o644 0x6f none)]

/--
A copy may write to another name of a file, take a mode away, empty the file that is to be copied, write to the file
that a link leads to, make directories on the way, or meet a directory that it has made itself.
-/
theorem entangled_trees_are_not_reproduced :
    ((shelved namedTwiceDisk "/t").1 = .ok () ∧
        (shelved namedTwiceDisk "/t").2.get? [.text "o"] =
          some (leaf 0o644 0x6e (some 0))) ∧
      ((shelved ownedDisk "/t").1 = .ok () ∧
          (shelved ownedDisk "/t").2.get? [.text "t", .text "a"] =
            some (leaf 0o755 0x6e none)) ∧
        ((shelved circularDisk "/t").1 = .ok () ∧
            (shelved circularDisk "/t").2.get? [.text "t", .text "a"] =
              some (.file { mode := 0o644, content := [] })) ∧
          ((shelved linkedDisk "/t").1 = .ok () ∧
              (shelved linkedDisk "/t").2.get? [.text "o"] =
                some (leaf 0o644 0x6e none)) ∧
            ((shelved plantedDisk "/n/t").1 = .ok () ∧
                plantedDisk.get? [.text "n"] = none ∧
                  (shelved plantedDisk "/n/t").2.get? [.text "n"] =
                    some (.directory 0o755)) ∧
              (shelved ownedDisk "/t/a/..").1 =
                .error (.file "/t/a/../a" (.refused .isDirectory)) := by
  decide +kernel

end Files

end Provision
