import Mathlib.Data.List.TakeWhile
import Provision.Proofs.Disk.Effects

namespace Provision

/-!
# What calls take away

A file or a link that is removed is gone from one location.  A directory that is removed takes along what
it holds; where that fails, a part of it is gone.  A directory that is moved takes along what it holds,
and replaces all that was where it goes.
-/

namespace Keyed

variable {α β : Type} [BEq α] [LawfulBEq α]

/-- Looking up a key that only one key becomes finds what that one has. -/
theorem lookup_map_key
    (items : List (α × β))
    (rename : α → α)
    {key origin : α}
    (becomes : rename origin = key)
    (isOnly : ∀ item ∈ items, rename item.1 = key → item.1 = origin) :
    (items.map fun item => (rename item.1, item.2)).lookup key =
      items.lookup origin := by
  induction items with
  | nil => rfl
  | cons item rest inductionHypothesis =>
      obtain ⟨place, value⟩ := item
      have later :=
        inductionHypothesis fun item member => isOnly item (.tail _ member)
      by_cases isSame : origin = place
      · subst isSame
        simp [becomes]
      · have isDifferent : (origin == place) = false := by simp [isSame]
        have isOther : (key == rename place) = false := by
          rw [beq_eq_false_iff_ne]
          intro isKey
          exact isSame (isOnly (place, value) (.head _) isKey.symm).symm
        simpa [List.lookup_cons, isDifferent, isOther] using later

/-- Looking up a key that no key becomes finds nothing. -/
theorem lookup_map_key_of_none
    (items : List (α × β))
    (rename : α → α)
    {key : α}
    (isNone : ∀ item ∈ items, rename item.1 ≠ key) :
    (items.map fun item => (rename item.1, item.2)).lookup key = none := by
  induction items with
  | nil => rfl
  | cons item rest inductionHypothesis =>
      have later :=
        inductionHypothesis fun item member => isNone item (.tail _ member)
      have isOther : (key == rename item.1) = false := by
        rw [beq_eq_false_iff_ne]
        exact (isNone item (.head _)).symm
      simpa [List.lookup_cons, isOther] using later

end Keyed

namespace Disk

variable {disk after : Disk}
variable {workingDirectory : Location}
variable {path : Path}

/-! ## Calls that remove something -/

/-- What was removed by its path is no directory and is gone. -/
theorem removeFile_eq_ok
    (removes : removeFile disk workingDirectory path = .ok after) :
    ∃ location entry,
      entryAt disk workingDirectory false path = .ok (location, entry) ∧
        entry.isDirectory = false ∧ after = disk.erase location := by
  unfold removeFile at removes
  split at removes
  · simp at removes
  · split at removes
    · simp at removes
    · rename_i location entry finds
      split at removes
      · simp at removes
      · split at removes
        · simp at removes
        · rename_i notDirectory
          rw [Except.ok.injEq] at removes
          exact ⟨location, entry, finds, by simpa using notDirectory,
            removes.symm⟩

/-- Why a file is missing that is not removed for that reason. -/
theorem entryAt_of_removeFile_missing
    {fault : DiskFault}
    (removes : disk.removeFile workingDirectory path = .error fault)
    (isMissing : fault.isMissing = true) :
    disk.entryAt workingDirectory false path = .error fault := by
  unfold removeFile at removes
  split at removes
  · obtain rfl := Except.error.inj removes
    simp [DiskFault.isMissing] at isMissing
  · split at removes
    · rename_i found finds
      obtain rfl := Except.error.inj removes
      exact finds
    · repeat
        split at removes
        · obtain rfl := Except.error.inj removes
          simp [DiskFault.isMissing] at isMissing
      simp at removes

/-- A walk that finds an entry finds it on a disk with more entries. -/
theorem Walks.mono
    {later : Disk}
    {followLast : Bool}
    {links : Nat}
    {here location : Location}
    {names : List Name}
    {entry : Entry}
    (walks : disk.Walks followLast links here names ⟨location, some entry⟩)
    (isMore :
      ∀ location entry,
        disk.get? location = some entry →
        later.get? location = some entry) :
    later.Walks followLast links here names ⟨location, some entry⟩ := by
  generalize isFound : (⟨location, some entry⟩ : Found) = found at walks
  induction walks with
  | arrived links here =>
      rw [Found.mk.injEq] at isFound
      obtain ⟨rfl, stands⟩ := isFound
      rw [← stands, ← isMore _ _ stands.symm]
      exact .arrived links location
  | missing => simp at isFound
  | link isOpen isPlain stands stays =>
      obtain ⟨mode, isDirectory, mayPass⟩ := isOpen
      exact .link ⟨mode, isMore _ _ isDirectory, mayPass⟩ isPlain
        (isMore _ _ stands) stays
  | step steps goesOn _ inductionHypothesis =>
      exact .step (steps.mono isMore) goesOn (inductionHypothesis isFound)

/-- A path that finds an entry finds it on a disk with more entries. -/
theorem entryAt_mono
    {later : Disk}
    {followLast : Bool}
    {location : Location}
    {entry : Entry}
    (finds :
      entryAt disk workingDirectory followLast path = .ok (location, entry))
    (isMore :
      ∀ location entry,
        disk.get? location = some entry →
        later.get? location = some entry) :
    entryAt later workingDirectory followLast path =
      .ok (location, entry) := by
  rw [entryAt_eq_ok_iff, locate_eq_ok_iff] at finds ⊢
  exact ⟨finds.1, finds.2.mono isMore⟩

/-- A disk from which entries were taken away has fewer of them. -/
theorem get?_of_get?_erase
    {location other : Location}
    {entry : Entry}
    (stands : (disk.erase location).get? other = some entry) :
    disk.get? other = some entry := by
  by_cases isSame : other = location
  · simp [isSame, get?_erase_self] at stands
  · rwa [get?_erase_of_ne disk isSame] at stands

/-- What is taken away item by item is gone, and nothing else is. -/
theorem get?_foldl_erase
    (disk : Disk)
    (places : List Location)
    (other : Location) :
    (places.foldl erase disk).get? other =
      if other ∈ places then none else disk.get? other := by
  induction places generalizing disk with
  | nil => rfl
  | cons place rest inductionHypothesis =>
      rw [List.foldl_cons, inductionHypothesis]
      by_cases isSame : other = place
      · subst isSame
        simp [get?_erase_self]
      · simp [isSame, get?_erase_of_ne disk isSame]

/-- What is cleared from a directory lies below it. -/
theorem mem_clearing_iff
    {location below : Location}
    {entry : Entry} :
    (below, entry) ∈ disk.clearing location ↔
      below ≠ [] ∧ (location ++ below, entry) ∈ disk.entries := by
  rw [clearing, List.mem_mergeSort, mem_listing_iff]

/-- What is left of a directory that is emptied: some of what is below it is gone. -/
theorem get?_emptied
    (disk : Disk)
    (location other : Location) :
    (disk.emptied location).get? other = disk.get? other ∨
      (disk.emptied location).get? other = none ∧
        ∃ below, below ≠ [] ∧ other = location ++ below := by
  have isFold :
      disk.emptied location =
        (((disk.clearing location).takeWhile (disk.mayClear location)).map
          fun item => location ++ item.1).foldl erase disk := by
    rw [emptied, List.foldl_map]
  rw [isFold, get?_foldl_erase]
  split
  · rename_i isGone
    obtain ⟨⟨below, entry⟩, member, rfl⟩ := List.mem_map.mp isGone
    have isCleared := List.takeWhile_sublist _ |>.subset member
    exact Or.inr ⟨rfl, below, (mem_clearing_iff.mp isCleared).1, rfl⟩
  · exact Or.inl rfl

/-- What is below a directory that may be emptied is gone once it is. -/
theorem get?_emptied_of_mayEmpty
    {location below : Location}
    (mayEmpty : disk.mayEmpty location = true)
    (isBelow : below ≠ []) :
    (disk.emptied location).get? (location ++ below) = none := by
  rw [Disk.mayEmpty, Bool.and_eq_true] at mayEmpty
  have isWhole :
      (disk.clearing location).takeWhile (disk.mayClear location) =
        disk.clearing location :=
    List.takeWhile_eq_self_iff.mpr (List.all_eq_true.mp mayEmpty.2)
  have isFold :
      disk.emptied location =
        ((disk.clearing location).map
          fun item => location ++ item.1).foldl erase disk := by
    rw [emptied, isWhole, List.foldl_map]
  rw [isFold, get?_foldl_erase]
  split
  · rfl
  · rename_i stays
    cases stands : disk.get? (location ++ below) with
    | none => rfl
    | some entry =>
        have member : (location ++ below, entry) ∈ disk.entries :=
          mem_entries_of_get? stands
        exact absurd
          (List.mem_map.mpr
            ⟨(below, entry), mem_clearing_iff.mpr ⟨isBelow, member⟩, rfl⟩)
          stays

/-- An emptied directory is still there. -/
theorem get?_emptied_self
    (disk : Disk)
    (location : Location) :
    (disk.emptied location).get? location = disk.get? location := by
  rcases disk.get?_emptied location location with
    isSame | ⟨-, below, isBelow, isAppend⟩
  · exact isSame
  · exact absurd (List.append_right_eq_self.mp isAppend.symm) isBelow

/-- What stands on an emptied disk stood there before. -/
theorem get?_of_get?_emptied
    {location other : Location}
    {entry : Entry}
    (stands : (disk.emptied location).get? other = some entry) :
    disk.get? other = some entry := by
  rcases disk.get?_emptied location other with isSame | ⟨isNone, -⟩
  · rwa [isSame] at stands
  · simp [isNone] at stands

/-- A directory that was removed by its path is gone. -/
theorem removeDirectory_eq_ok
    (removes : removeDirectory disk workingDirectory path = .ok after) :
    ∃ location entry,
      entryAt disk workingDirectory false path = .ok (location, entry) ∧
        after = disk.erase location := by
  unfold removeDirectory at removes
  split at removes
  · simp at removes
  · split at removes
    · simp at removes
    · simp at removes
    · rename_i location entry finds named
      repeat
        split at removes
        · simp at removes
      rw [Except.ok.injEq] at removes
      exact ⟨location, entry, finds, removes.symm⟩

/-- A directory whose removal tells that it is missing is not found. -/
theorem entryAt_of_removeDirectory_missing
    {fault : DiskFault}
    (removes : removeDirectory disk workingDirectory path = .error fault)
    (isMissing : fault.isMissing = true) :
    entryAt disk workingDirectory false path = .error fault := by
  unfold removeDirectory at removes
  split at removes
  · obtain rfl := Except.error.inj removes
    simp [DiskFault.isMissing] at isMissing
  · split at removes
    · rename_i found finds
      obtain rfl := Except.error.inj removes
      exact finds
    · rename_i errno finds unnamed
      obtain rfl := Except.error.inj removes
      rw [unnamedRefusal?] at unnamed
      split at unnamed
      · obtain rfl := Option.some.inj unnamed
        simp [DiskFault.isMissing] at isMissing
      · split at unnamed
        · obtain rfl := Option.some.inj unnamed
          simp [DiskFault.isMissing] at isMissing
        · split at unnamed
          · obtain rfl := Option.some.inj unnamed
            simp [DiskFault.isMissing] at isMissing
          · simp at unnamed
    · repeat
        split at removes
        · obtain rfl := Except.error.inj removes
          simp [DiskFault.isMissing] at isMissing
      simp at removes

/-- A tree that was removed was a directory, of which nothing is left, or a link. -/
theorem removeTree_eq_ok
    (removes : removeTree disk workingDirectory path = .ok after) :
    ∃ location,
      (∃ mode,
        entryAt disk workingDirectory false path =
            .ok (location, .directory mode) ∧
          ∀ other,
            after.get? other =
              if location.isPrefixOf other then none
              else disk.get? other) ∨
        ∃ target,
          entryAt disk workingDirectory false path =
              .ok (location, .link target) ∧
            after = disk.erase location := by
  unfold removeTree at removes
  split at removes
  · simp at removes
  · rename_i location mode finds
    split at removes
    · rename_i mayEmpty
      obtain ⟨place, entry, found, rfl⟩ := removeDirectory_eq_ok removes
      have isSame :=
        (entryAt_mono found fun _ _ => get?_of_get?_emptied).symm.trans finds
      obtain ⟨rfl, -⟩ := Prod.mk.inj (Except.ok.inj isSame)
      refine ⟨place, Or.inl ⟨mode, finds, fun other => ?_⟩⟩
      by_cases isBelow : place <+: other
      · rw [if_pos (List.isPrefixOf_iff_prefix.mpr isBelow)]
        by_cases isPlace : other = place
        · subst isPlace
          exact get?_erase_self _ other
        · rw [get?_erase_of_ne _ isPlace]
          obtain ⟨below, rfl⟩ := isBelow
          refine get?_emptied_of_mayEmpty mayEmpty ?_
          rintro rfl
          exact isPlace (List.append_nil place)
      · have notPlace : other ≠ place := by
          rintro rfl
          exact isBelow List.prefix_rfl
        rw [if_neg (mt List.isPrefixOf_iff_prefix.mp isBelow),
          get?_erase_of_ne _ notPlace]
        rcases disk.get?_emptied place other with
          isSame | ⟨-, below, -, isAppend⟩
        · exact isSame
        · exact absurd ⟨below, isAppend.symm⟩ isBelow
    · simp at removes
  · rename_i location target finds
    split at removes
    · rw [Except.ok.injEq] at removes
      exact ⟨location, Or.inr ⟨target, finds, removes.symm⟩⟩
    · simp at removes
  · simp at removes

/-- What is left where a tree could not be removed: a part of what was there. -/
theorem get?_leftOver
    (disk : Disk)
    (workingDirectory : Location)
    (path : Path)
    (other : Location) :
    (disk.leftOver workingDirectory path).get? other = disk.get? other ∨
      (disk.leftOver workingDirectory path).get? other = none ∧
        ∃ location entry,
          entryAt disk workingDirectory false path = .ok (location, entry) ∧
            location <+: other := by
  unfold leftOver
  split
  · rename_i location mode finds
    rcases disk.get?_emptied location other with
      isSame | ⟨isNone, below, -, isAppend⟩
    · exact Or.inl isSame
    · exact Or.inr ⟨isNone, location, _, finds, below, isAppend.symm⟩
  · exact Or.inl rfl

/-- A tree whose removal tells that it is missing is not found on what is left. -/
theorem entryAt_leftOver_of_missing
    {fault : DiskFault}
    (removes : removeTree disk workingDirectory path = .error fault)
    (isMissing : fault.isMissing = true) :
    entryAt (disk.leftOver workingDirectory path) workingDirectory false
      path = .error fault := by
  unfold removeTree at removes
  unfold leftOver
  split at removes
  · rename_i found finds
    obtain rfl := Except.error.inj removes
    simp only [finds]
  · rename_i location mode finds
    simp only [finds]
    split at removes
    · exact entryAt_of_removeDirectory_missing removes isMissing
    · obtain rfl := Except.error.inj removes
      simp [DiskFault.isMissing] at isMissing
  · split at removes
    · simp at removes
    · obtain rfl := Except.error.inj removes
      simp [DiskFault.isMissing] at isMissing
  · obtain rfl := Except.error.inj removes
    simp [DiskFault.isMissing] at isMissing

/-! ## Moving -/

/-- Where an entry is after a move. -/
def movedTo (origin goal place : Location) : Location :=
  if origin.isPrefixOf place then
    goal ++ place.drop origin.length
  else
    place

/-- What stands where after a tree was moved. -/
theorem get?_moveTree
    (disk : Disk)
    (origin goal other : Location) :
    (disk.moveTree origin goal).get? other =
      if goal.isPrefixOf other then
        (disk.eraseTree goal).get? (origin ++ other.drop goal.length)
      else if origin.isPrefixOf other then
        none
      else
        disk.get? other := by
  have isMap :
      (disk.moveTree origin goal).entries =
        (disk.eraseTree goal).entries.map
          fun item => (movedTo origin goal item.1, item.2) := by
    rw [moveTree]
    refine List.map_congr_left fun item _ => ?_
    simp only [movedTo]
    split <;> rfl
  have isErased : ∀ item ∈ (disk.eraseTree goal).entries, ¬goal <+: item.1 := by
    intro item member isBelow
    rw [eraseTree, List.mem_filter, List.isPrefixOf_iff_prefix.mpr isBelow]
      at member
    simp at member
  rw [get?, isMap]
  by_cases isGoal : goal <+: other
  · rw [if_pos (List.isPrefixOf_iff_prefix.mpr isGoal)]
    obtain ⟨below, rfl⟩ := isGoal
    rw [List.drop_left]
    refine Keyed.lookup_map_key _ _ ?_ fun item member becomes => ?_
    · simp [movedTo]
    · rw [movedTo] at becomes
      split at becomes
      · rename_i isBelow
        obtain ⟨rest, isRest⟩ := List.isPrefixOf_iff_prefix.mp isBelow
        rw [← isRest, List.drop_left, List.append_cancel_left_eq] at becomes
        rw [← isRest, becomes]
      · exact absurd ⟨below, becomes.symm⟩ (isErased item member)
  · rw [if_neg (mt List.isPrefixOf_iff_prefix.mp isGoal)]
    by_cases isOrigin : origin <+: other
    · rw [if_pos (List.isPrefixOf_iff_prefix.mpr isOrigin)]
      refine Keyed.lookup_map_key_of_none _ _ fun item member becomes => ?_
      rw [movedTo] at becomes
      split at becomes
      · exact isGoal ⟨_, becomes⟩
      · rename_i notBelow
        subst becomes
        exact notBelow (List.isPrefixOf_iff_prefix.mpr isOrigin)
    · rw [if_neg (mt List.isPrefixOf_iff_prefix.mp isOrigin)]
      have stays :
          (disk.eraseTree goal).get? other = disk.get? other := by
        rw [get?_eraseTree, if_neg (mt List.isPrefixOf_iff_prefix.mp isGoal)]
      rw [← stays]
      refine Keyed.lookup_map_key _ _ ?_ fun item member becomes => ?_
      · rw [movedTo, if_neg (mt List.isPrefixOf_iff_prefix.mp isOrigin)]
      · rw [movedTo] at becomes
        split at becomes
        · exact absurd ⟨_, becomes⟩ isGoal
        · exact becomes

/-- A rename that succeeds changes nothing, or moves what it found to a place outside of it. -/
theorem rename_eq_ok
    {source target : Path}
    (renames : rename disk workingDirectory source target = .ok after) :
    ∃ origin entry goal existing?,
      entryAt disk workingDirectory false source = .ok (origin, entry) ∧
        locate disk workingDirectory false target =
            .ok ⟨goal, existing?⟩ ∧
          (after = disk ∧ (origin = goal ∨ existing? ≠ none) ∨
            ¬origin <+: goal ∧ after = disk.moveTree origin goal) := by
  unfold rename at renames
  split at renames
  · simp at renames
  · simp at renames
  · rename_i origin entry goal existing? finds locates
    refine ⟨origin, entry, goal, existing?, finds, locates, ?_⟩
    split at renames
    · simp at renames
    split at renames
    · simp at renames
    split at renames
    · rename_i isSame
      rw [Except.ok.injEq] at renames
      exact Or.inl ⟨renames.symm, Or.inl isSame⟩
    split at renames
    · simp at renames
    rename_i isOutside
    have notBelow : ¬origin <+: goal :=
      mt List.isPrefixOf_iff_prefix.mpr isOutside
    split at renames
    · simp at renames
    split at renames
    · split at renames
      · rw [Except.ok.injEq] at renames
        exact Or.inr ⟨notBelow, renames.symm⟩
      · simp at renames
    · rename_i existing
      split at renames
      · rw [Except.ok.injEq] at renames
        exact Or.inl ⟨renames.symm, Or.inr (by simp)⟩
      split at renames
      · simp at renames
      split at renames
      · simp at renames
      · rw [Except.ok.injEq] at renames
        exact Or.inr ⟨notBelow, renames.symm⟩

end Disk

end Provision
