import Provision.Proofs.Disk.Confining
import Provision.Proofs.Storage.Copying

namespace Provision

/-!
# Changes behind a fence

A place may hold links to anywhere and still not let changes out: what counts is where the path of each
change comes to lie at the moment of the change.  Files that have several names have all of them in
the place, or none.  So nothing outside of the place changes, and directories stay directories.
-/

namespace Disk

/-- No file at or below a place has another name elsewhere. -/
def Separates (disk : Disk) (place : Location) : Prop :=
  ∀ inside outside file other group,
    place <+: inside →
    disk.get? inside = some (.file file) →
    disk.get? outside = some (.file other) →
    file.group = some group →
    other.group = some group →
    place <+: outside

/-- A disk has changed in a place only, and the place still separates its files from all others. -/
structure Fenced (disk later : Disk) (place : Location) : Prop where
  isTree : later.IsTree
  directories :
    ∀ location, disk.HasDirectory location → later.HasDirectory location
  elsewhere :
    ∀ location,
      ¬place <+: location →
      later.get? location = disk.get? location
  separates : later.Separates place

/-- A path comes to lie in a place, whether or not something is there. -/
def Lands
    (disk : Disk)
    (workingDirectory place : Location)
    (followLast : Bool)
    (path : Path) :
    Prop :=
  ∀ found,
    disk.locate workingDirectory followLast path = .ok found →
    place <+: found.location

/-- What is found by a path lies in a place. -/
def FindsIn
    (disk : Disk)
    (workingDirectory place : Location)
    (followLast : Bool)
    (path : Path) :
    Prop :=
  ∀ location entry,
    disk.entryAt workingDirectory followLast path = .ok (location, entry) →
    place <+: location

variable {start disk after last : Disk}
variable {workingDirectory place location above : Location}
variable {path : Path}
variable {name : Name}

theorem Lands.findsIn
    {followLast : Bool}
    (lands : disk.Lands workingDirectory place followLast path) :
    disk.FindsIn workingDirectory place followLast path :=
  fun _ _ finds => lands _ (entryAt_eq_ok_iff.mp finds)

theorem findsIn_of_entryAt
    {followLast : Bool}
    {location : Location}
    {entry : Entry}
    (finds :
      disk.entryAt workingDirectory followLast path = .ok (location, entry))
    (isInside : place <+: location) :
    disk.FindsIn workingDirectory place followLast path := by
  intro other found finds'
  obtain ⟨rfl, -⟩ :=
    Prod.mk.inj (Except.ok.inj (finds.symm.trans finds'))
  exact isInside

/-! ## Places that paths lead into -/

/-- A path leads nowhere but into a place. -/
def LeadsInto
    (disk : Disk)
    (workingDirectory place : Location)
    (path : Path) :
    Prop :=
  ∀ left there,
    disk.LeadsTo workingDirectory path left there →
    place <+: there

theorem LeadsInto.of_within
    (leadsInto : disk.LeadsInto workingDirectory place path)
    (within : last.Within disk) :
    last.LeadsInto workingDirectory place path :=
  fun left there leads => leadsInto left there (leads.mono within)

theorem LeadsTo.leadsInto
    {left : Nat}
    {there : Location}
    (leads : disk.LeadsTo workingDirectory path left there)
    (isInside : place <+: there) :
    disk.LeadsInto workingDirectory place path := by
  intro left' other leads'
  rw [(leads.unique leads').2]
  exact isInside

theorem leadsInto_of_entryAt
    {location : Location}
    {entry : Entry}
    (finds :
      disk.entryAt workingDirectory true path = .ok (location, entry))
    (isInside : place <+: location) :
    disk.LeadsInto workingDirectory place path := by
  obtain ⟨left, leads⟩ := leadsTo_of_entryAt finds
  exact leads.leadsInto isInside

theorem LeadsInto.findsIn
    (leadsInto : disk.LeadsInto workingDirectory place path) :
    disk.FindsIn workingDirectory place true path := by
  intro location entry finds
  obtain ⟨left, leads⟩ := leadsTo_of_entryAt finds
  exact leadsInto left location leads

/-! ## Fences -/

theorem Fenced.refl
    (tree : disk.IsTree)
    (separates : disk.Separates place) :
    disk.Fenced disk place :=
  ⟨tree, fun _ => id, fun _ _ => rfl, separates⟩

theorem Fenced.trans
    (fenced : start.Fenced disk place)
    (again : disk.Fenced last place) :
    start.Fenced last place where
  isTree := again.isTree
  directories := fun location isDirectory =>
    again.directories location (fenced.directories location isDirectory)
  elsewhere := fun location isOutside =>
    (again.elsewhere location isOutside).trans
      (fenced.elsewhere location isOutside)
  separates := again.separates

theorem IsFresh.separates
    (isFresh : disk.IsFresh place) :
    disk.Separates place := by
  rintro inside outside file other group ⟨below, rfl⟩ stands _ _ _
  by_cases isSelf : below = []
  · obtain ⟨mode, isDirectory, -⟩ := isFresh.1
    rw [isSelf, List.append_nil, isDirectory] at stands
    simp at stands
  · rw [isFresh.2 below isSelf] at stands
    simp at stands

/-- A fence inside of a fence keeps out as much as the outer one. -/
theorem Fenced.of_inner
    {inner : Location}
    (fenced : start.Fenced disk place)
    (isInside : place <+: inner)
    (again : disk.Fenced last inner) :
    start.Fenced last place := by
  refine fenced.trans ⟨again.isTree, again.directories, ?_, ?_⟩
  · intro location isOutside
    exact again.elsewhere location fun isBelow =>
      isOutside (isInside.trans isBelow)
  · intro inside outside file other group isBelow stands stands' isGroup
      isGroup'
    by_cases inInner : inner <+: inside
    · exact isInside.trans
        (again.separates inside outside file other group inInner stands
          stands' isGroup isGroup')
    · by_cases outInner : inner <+: outside
      · exact isInside.trans outInner
      · rw [again.elsewhere inside inInner] at stands
        rw [again.elsewhere outside outInner] at stands'
        exact fenced.separates inside outside file other group isBelow stands
          stands' isGroup isGroup'

/-- Changes in a place without links to the outside are behind a fence. -/
theorem Confined.fenced
    (confined : disk.Confined last place)
    (tree : last.IsTree) :
    disk.Fenced last place where
  isTree := tree
  directories := confined.directories
  elsewhere := confined.elsewhere
  separates := confined.isEnclosed.noNames

/-- There is a fence around nothing. -/
theorem fenced_of_missing
    (tree : disk.IsTree)
    (isMissing : disk.get? place = none) :
    disk.Fenced disk place := by
  refine .refl tree ?_
  rintro inside outside file other group ⟨below, rfl⟩ stands
  rw [tree.missing_below isMissing below] at stands
  simp at stands

/-- What stood around nothing still stands around the fence. -/
theorem Fenced.within
    (fenced : disk.Fenced last place)
    (tree : disk.IsTree)
    (isMissing : disk.get? place = none) :
    disk.Within last := by
  intro location entry stands
  rw [fenced.elsewhere location, stands]
  rintro ⟨below, rfl⟩
  rw [tree.missing_below isMissing below] at stands
  simp at stands

/-- There is no link and no file with other names in a new directory. -/
theorem IsFresh.encloses
    (isFresh : disk.IsFresh place) :
    disk.Encloses place := by
  refine ⟨?_, isFresh.separates⟩
  rintro location target ⟨below, rfl⟩ isLink
  by_cases isSelf : below = []
  · obtain ⟨mode, isDirectory, -⟩ := isFresh.1
    rw [isSelf, List.append_nil, isDirectory] at isLink
    simp at isLink
  · rw [isFresh.2 below isSelf] at isLink
    simp at isLink

/-! ## Single changes -/

section

variable (tree : disk.IsTree)
variable (separates : disk.Separates place)
variable (isInside : place <+: location)

include tree separates isInside

/-- Something new is put in a place; a file that is new has no other name. -/
theorem fenced_set
    {entry : Entry}
    (isLast : location = above ++ [name])
    (isDirectory : disk.HasDirectory above)
    (isPlain : name.isPlain = true)
    (isMissing : disk.get? location = none)
    (isAlone : ∀ file, entry = .file file → file.group = none) :
    disk.Fenced (disk.set location entry) place where
  isTree := by
    subst isLast
    refine tree.set isDirectory isPlain ?_
    rintro ⟨mode, stands⟩
    rw [isMissing] at stands
    simp at stands
  directories := by
    rintro other ⟨mode, stands⟩
    exact ⟨mode, within_set isMissing other _ stands⟩
  elsewhere := by
    intro other isOutside
    apply get?_set_of_ne
    rintro rfl
    exact isOutside isInside
  separates := by
    intro inside outside file other group isBelow stands stands' isGroup
      isGroup'
    by_cases isThere : outside = location
    · exact isThere ▸ isInside
    · rw [get?_set_of_ne _ _ isThere] at stands'
      by_cases isHere : inside = location
      · subst isHere
        rw [get?_set_self] at stands
        have noGroup := isAlone file (Option.some.inj stands)
        rw [isGroup] at noGroup
        simp at noGroup
      · rw [get?_set_of_ne _ _ isHere] at stands
        exact separates inside outside file other group isBelow stands stands'
          isGroup isGroup'

theorem fenced_erase
    {entry : Entry}
    (stands : disk.get? location = some entry)
    (notDirectory : entry.isDirectory = false) :
    disk.Fenced (disk.erase location) place where
  isTree := by
    refine tree.erase ?_
    rintro ⟨mode, isDirectory⟩
    rw [Option.some.inj (stands.symm.trans isDirectory)] at notDirectory
    simp [Entry.isDirectory] at notDirectory
  directories := by
    rintro other ⟨mode, isDirectory⟩
    refine ⟨mode, (get?_erase_of_ne _ ?_).trans isDirectory⟩
    rintro rfl
    rw [Option.some.inj (stands.symm.trans isDirectory)] at notDirectory
    simp [Entry.isDirectory] at notDirectory
  elsewhere := by
    intro other isOutside
    apply get?_erase_of_ne
    rintro rfl
    exact isOutside isInside
  separates := by
    intro inside outside file other group isBelow stands stands'
    exact separates inside outside file other group isBelow
      (get?_of_get?_erase stands) (get?_of_get?_erase stands')

theorem fenced_updateFile
    {change : File → File}
    (keepsGroup : ∀ file, (change file).group = file.group) :
    disk.Fenced (disk.updateFile location change) place where
  isTree := tree.updateFile location change
  directories := by
    rintro other ⟨mode, stands⟩
    rcases disk.get?_updateFile location change other with
      isSame | ⟨file, stood, -⟩
    · exact ⟨mode, isSame.trans stands⟩
    · rw [stands] at stood
      simp at stood
  elsewhere := by
    intro other isOutside
    have isOther : other ≠ location := by
      rintro rfl
      exact isOutside isInside
    rcases stands : disk.get? location with - | (mode | file | target)
    · simp [updateFile, stands]
    · simp [updateFile, stands]
    · cases isGroup : file.group with
      | none => exact get?_updateFile_of_ne stands isGroup change isOther
      | some group =>
          -- A file outside of the place that changed along would be another name of this one.
          rw [get?_updateFile_of_group stands isGroup]
          rcases stands' : disk.get? other with - | (mode | found | target)
          · rfl
          · rfl
          · have notShared : found.group ≠ some group := fun isGroup' =>
              isOutside
                (separates location other file found group isInside stands
                  stands' isGroup isGroup')
            simp [changedIn, notShared]
          · rfl
    · simp [updateFile, stands]
  separates := by
    intro inside outside file other group isBelow stands stands' isGroup
      isGroup'
    obtain ⟨before, stood, isSame⟩ := exists_of_updateFile keepsGroup stands
    obtain ⟨before', stood', isSame'⟩ :=
      exists_of_updateFile keepsGroup stands'
    exact separates inside outside before before' group isBelow stood stood'
      (isSame.trans isGroup) (isSame'.trans isGroup')

/-- Another mode of a directory changes nothing else. -/
theorem fenced_setMode
    {old mode : Nat}
    (stands : disk.get? location = some (.directory old)) :
    disk.Fenced (disk.set location (.directory mode)) place where
  isTree := by
    refine tree.of_new ?_ ?_
    · rintro other ⟨bits, isDirectory⟩
      by_cases isHere : other = location
      · exact ⟨mode, isHere ▸ get?_set_self disk location _⟩
      · exact ⟨bits, (get?_set_of_ne _ _ isHere).trans isDirectory⟩
    · intro other entry stands' isMissing
      by_cases isHere : other = location
      · rw [isHere, stands] at isMissing
        simp at isMissing
      · rw [get?_set_of_ne _ _ isHere, isMissing] at stands'
        simp at stands'
  directories := by
    rintro other ⟨bits, isDirectory⟩
    by_cases isHere : other = location
    · exact ⟨mode, isHere ▸ get?_set_self disk location _⟩
    · exact ⟨bits, (get?_set_of_ne _ _ isHere).trans isDirectory⟩
  elsewhere := by
    intro other isOutside
    apply get?_set_of_ne
    rintro rfl
    exact isOutside isInside
  separates := by
    intro inside outside file other group isBelow stood stood'
    have isFile {place : Location} {file : File} :
        (disk.set location (.directory mode)).get? place =
          some (.file file) →
        disk.get? place = some (.file file) := by
      intro isFile
      by_cases isHere : place = location
      · subst isHere
        rw [get?_set_self] at isFile
        simp at isFile
      · rwa [get?_set_of_ne _ _ isHere] at isFile
    exact separates inside outside file other group isBelow (isFile stood)
      (isFile stood')

end

/-! ### Hard links -/

/-- A bound that never falls is above what one of the steps has lifted it over. -/
theorem lt_foldl_of_mem
    {α : Type}
    {raise : Nat → α → Nat}
    {item : α}
    {value : Nat}
    (rises : ∀ bound other, bound ≤ raise bound other)
    (lifts : ∀ bound, value < raise bound item)
    {items : List α}
    (bound : Nat)
    (member : item ∈ items) :
    value < items.foldl raise bound := by
  have isLower (items : List α) (bound : Nat) :
      bound ≤ items.foldl raise bound := by
    induction items generalizing bound with
    | nil => exact Nat.le_refl _
    | cons other rest inductionHypothesis =>
        exact (rises bound other).trans (inductionHypothesis _)
  induction items generalizing bound with
  | nil => simp at member
  | cons other rest inductionHypothesis =>
      rcases List.mem_cons.mp member with rfl | isLater
      · exact Nat.lt_of_lt_of_le (lifts bound) (isLower rest _)
      · exact inductionHypothesis _ isLater

/-- A number for a group is greater than those of all files that have one. -/
theorem group_ne_freshGroup
    {file : File}
    (stands : disk.get? location = some (.file file)) :
    file.group ≠ some disk.freshGroup := by
  intro isFresh
  refine Nat.lt_irrefl disk.freshGroup ?_
  refine lt_foldl_of_mem ?_ ?_ 0 (mem_entries_of_get? stands)
  · rintro bound ⟨_, entry⟩
    cases entry with
    | file other => exact Nat.le_max_left _ _
    | _ => exact Nat.le_refl _
  · intro bound
    simp only [isFresh, Option.elim]
    omega

/-- The group that a file in a place has, or gets with another name, is that of no file elsewhere. -/
theorem Separates.of_linked
    {source outside : Location}
    {file other : File}
    {group : Nat}
    (separates : disk.Separates place)
    (isInside : place <+: source)
    (stands : disk.get? source = some (.file file))
    (stands' : disk.get? outside = some (.file other))
    (isGroup : file.group.getD disk.freshGroup = group)
    (isGroup' : other.group = some group) :
    place <+: outside := by
  cases isOld : file.group with
  | none =>
      rw [isOld, Option.getD_none] at isGroup
      subst isGroup
      exact absurd isGroup' (group_ne_freshGroup stands')
  | some old =>
      rw [isOld, Option.getD_some] at isGroup
      subst isGroup
      exact separates source outside file other old isInside stands stands'
        isOld isGroup'

theorem get?_set_set
    (disk : Disk)
    (first second other : Location)
    (entry : Entry) :
    ((disk.set first entry).set second entry).get? other =
      if other = second ∨ other = first then some entry
      else disk.get? other := by
  by_cases isSecond : other = second
  · subst isSecond
    rw [get?_set_self, if_pos (Or.inl rfl)]
  · rw [get?_set_of_ne _ _ isSecond]
    by_cases isFirst : other = first
    · subst isFirst
      rw [get?_set_self, if_pos (Or.inr rfl)]
    · rw [get?_set_of_ne _ _ isFirst, if_neg (not_or.mpr ⟨isSecond, isFirst⟩)]

/-- A file in a place gets another name there. -/
theorem fenced_hardLink
    {source : Location}
    {file : File}
    (tree : disk.IsTree)
    (separates : disk.Separates place)
    (sourceInside : place <+: source)
    (stands : disk.get? source = some (.file file))
    (isInside : place <+: above ++ [name])
    (isDirectory : disk.HasDirectory above)
    (isPlain : name.isPlain = true)
    (isMissing : disk.get? (above ++ [name]) = none) :
    disk.Fenced
      ((disk.set source
            (.file
              { file with
                group := some (file.group.getD disk.freshGroup) })).set
        (above ++ [name])
        (.file
          { file with group := some (file.group.getD disk.freshGroup) }))
      place := by
  have notOutside {outside : Location} {other : File} {group : Nat} :=
    @Separates.of_linked disk place source outside file other group separates
      sourceInside stands
  generalize isShared :
    ({ file with group := some (file.group.getD disk.freshGroup) } : File) =
      shared
  have directories
      (other : Location)
      (isDirectory : disk.HasDirectory other) :
      ((disk.set source (.file shared)).set (above ++ [name])
        (.file shared)).HasDirectory other := by
    obtain ⟨mode, stands'⟩ := isDirectory
    refine ⟨mode, (get?_set_set ..).trans ((if_neg ?_).trans stands')⟩
    rintro (rfl | rfl)
    · rw [isMissing] at stands'
      simp at stands'
    · rw [stands] at stands'
      simp at stands'
  refine ⟨tree.of_new directories ?_, directories, ?_, ?_⟩
  · intro other entry stands' isNone
    rw [get?_set_set] at stands'
    split at stands'
    · rename_i isEither
      rcases isEither with rfl | rfl
      · exact ⟨above, name, rfl, isDirectory, isPlain⟩
      · rw [stands] at isNone
        simp at isNone
    · rw [isNone] at stands'
      simp at stands'
  · intro other isOutside
    rw [get?_set_set, if_neg]
    rintro (rfl | rfl)
    · exact isOutside isInside
    · exact isOutside sourceInside
  · intro inside outside found other group isBelow stood stood' isGroup
      isGroup'
    rw [get?_set_set] at stood stood'
    split at stood'
    · rename_i isEither
      rcases isEither with rfl | rfl
      · exact isInside
      · exact sourceInside
    · split at stood
      · obtain rfl := Entry.file.inj (Option.some.inj stood)
        subst isShared
        exact notOutside stood' (Option.some.inj isGroup) isGroup'
      · exact separates inside outside found other group isBelow stood stood'
          isGroup isGroup'

/-! ## Calls -/

section

variable (tree : disk.IsTree)
variable (separates : disk.Separates place)

include tree separates

theorem fenced_openFile
    {fresh : File}
    {change : File → File}
    (lands : disk.Lands workingDirectory place true path)
    (isAlone : fresh.group = none)
    (keepsGroup : ∀ file, (change file).group = file.group)
    (opens : disk.openFile workingDirectory path fresh change = .ok after) :
    disk.Fenced after place := by
  rcases openFile_eq_ok opens with
    ⟨location, locates, rfl⟩ | ⟨location, file, locates, rfl⟩
  · obtain ⟨⟨above, name, isLast, isOpen, isPlain⟩, -⟩ :=
      leadsTo_of_locate_none tree locates 0
    refine fenced_set tree separates (lands _ locates) isLast
      isOpen.hasDirectory isPlain (get?_of_locate locates) ?_
    rintro file isFresh
    rw [← Entry.file.inj isFresh, isAlone]
  · exact fenced_updateFile tree separates (lands _ locates) keepsGroup

theorem fenced_makeDirectory
    {mode : Nat}
    (lands : disk.Lands workingDirectory place false path)
    (makes : disk.makeDirectory workingDirectory path mode = .ok after) :
    disk.Fenced after place := by
  obtain ⟨location, locates, rfl⟩ := makeDirectory_eq_ok makes
  obtain ⟨⟨above, name, isLast, isOpen, isPlain⟩, -⟩ :=
    leadsTo_of_locate_none tree locates 0
  exact fenced_set tree separates (lands _ locates) isLast
    isOpen.hasDirectory isPlain (get?_of_locate locates) (by simp)

theorem fenced_makeLink
    {target : Path}
    (lands : disk.Lands workingDirectory place false path)
    (makes : disk.makeLink workingDirectory target path = .ok after) :
    disk.Fenced after place := by
  unfold makeLink at makes
  split at makes
  · simp at makes
  · simp at makes
  · rename_i location locates
    split at makes
    · simp at makes
    · split at makes
      · obtain rfl := Except.ok.inj makes
        obtain ⟨⟨above, name, isLast, isOpen, isPlain⟩, -⟩ :=
          leadsTo_of_locate_none tree locates 0
        exact fenced_set tree separates (lands _ locates) isLast
          isOpen.hasDirectory isPlain (get?_of_locate locates) (by simp)
      · simp at makes

theorem fenced_removeFile
    (findsIn : disk.FindsIn workingDirectory place false path)
    (removes : disk.removeFile workingDirectory path = .ok after) :
    disk.Fenced after place := by
  obtain ⟨location, entry, finds, notDirectory, rfl⟩ :=
    removeFile_eq_ok removes
  exact fenced_erase tree separates (findsIn location entry finds)
    (get?_of_entryAt finds) notDirectory

theorem fenced_changeMode
    {mode : Nat}
    (findsIn : disk.FindsIn workingDirectory place true path)
    (changes : disk.changeMode workingDirectory path mode = .ok after) :
    disk.Fenced after place := by
  rcases changeMode_eq_ok changes with
    ⟨location, old, finds, rfl⟩ | ⟨location, entry, finds, rfl⟩
  · exact fenced_setMode tree separates (findsIn location _ finds)
      (get?_of_entryAt finds)
  · exact fenced_updateFile tree separates (findsIn location entry finds)
      fun _ => rfl

theorem fenced_setTimes
    {time : Int}
    (findsIn : disk.FindsIn workingDirectory place true path)
    (changes : disk.setTimes workingDirectory path time = .ok after) :
    disk.Fenced after place := by
  obtain ⟨location, entry, finds, rfl⟩ := setTimes_eq_ok changes
  exact fenced_updateFile tree separates (findsIn location entry finds)
    fun _ => rfl

/-- A hard link is made to a file in the place, or to a link, which is made anew. -/
theorem fenced_makeHardLink
    {existing : Path}
    (lands : disk.Lands workingDirectory place false path)
    (isOwn :
      ∀ location file,
        disk.entryAt workingDirectory false existing =
          .ok (location, .file file) →
        place <+: location)
    (makes :
      disk.makeHardLink workingDirectory existing path = .ok after) :
    disk.Fenced after place := by
  unfold makeHardLink at makes
  split at makes
  · simp at makes
  · simp at makes
  · simp at makes
  · rename_i source entry location finds locates
    obtain ⟨⟨above, name, isLast, isOpen, isPlain⟩, -⟩ :=
      leadsTo_of_locate_none tree locates 0
    split at makes
    · simp at makes
    · split at makes
      · simp at makes
      · rename_i file
        obtain rfl := Except.ok.inj makes
        subst isLast
        exact fenced_hardLink tree separates (isOwn source file finds)
          (get?_of_entryAt finds) (lands _ locates) isOpen.hasDirectory
          isPlain (get?_of_locate locates)
      · obtain rfl := Except.ok.inj makes
        exact fenced_set tree separates (lands _ locates) isLast
          isOpen.hasDirectory isPlain (get?_of_locate locates) (by simp)

end

end Disk

/-! ## Actions -/

/-- What an action changes lies in a place. -/
def Action.LandsIn
    (disk : Disk)
    (workingDirectory place : Location) :
    Action → Prop
  | .makeDirectory path | .makeLink _ path =>
      disk.Lands workingDirectory place false path
  | .writeFile path _ | .appendFile path _ =>
      disk.Lands workingDirectory place true path
  | .removeFile path => disk.FindsIn workingDirectory place false path
  | .changeMode path _ | .setTimes path _ =>
      disk.FindsIn workingDirectory place true path
  | .makeHardLink existing path =>
      disk.Lands workingDirectory place false path ∧
        ∀ location file,
          disk.entryAt workingDirectory false existing =
            .ok (location, .file file) →
          place <+: location
  | .fetch _ => True
  | action => action.looks = true

namespace Disk

variable {start disk after : Disk}
variable {workingDirectory place : Location}

theorem Answers.fenced
    {children : Children}
    {action : Action}
    {reply : action.Reply}
    (answers : Answers workingDirectory children action disk reply after)
    (lands : action.LandsIn disk workingDirectory place)
    (fenced : start.Fenced disk place) :
    start.Fenced after place := by
  have tree := fenced.isTree
  have separates := fenced.separates
  refine fenced.trans ?_
  have same : disk.Fenced disk place := .refl tree separates
  have reached
      {exact : Except DiskFault Disk}
      {isPart : Disk → Prop}
      {reply : Except DiskFault Unit}
      (does : Does exact disk isPart disk reply after)
      (ofDone : exact = .ok after → disk.Fenced after place)
      (ofPart : isPart after → disk.Fenced after place) :
      disk.Fenced after place := by
    cases does with
    | done isDone => exact ofDone isDone
    | refused | unchanged => exact same
    | brokenOff _ partly => exact ofPart partly
  cases action with
  | status | linkStatus | readFile | listDirectory | realPath | environment =>
      rw [answers.eq_of_looks rfl]
      exact same
  | fetch url =>
      obtain rfl : after = disk := answers
      exact same
  | makeDirectory path =>
      exact reached answers (fenced_makeDirectory tree separates lands) False.elim
  | makeLink target path =>
      exact reached answers (fenced_makeLink tree separates lands) False.elim
  | makeHardLink existing path =>
      exact reached answers
        (fenced_makeHardLink tree separates lands.1 lands.2) False.elim
  | removeFile path =>
      exact reached answers (fenced_removeFile tree separates lands) False.elim
  | changeMode path mode =>
      exact reached answers (fenced_changeMode tree separates lands) False.elim
  | setTimes path time =>
      exact reached answers (fenced_setTimes tree separates lands) False.elim
  | writeFile path content =>
      have writes (part : Bytes) :
          disk.writeFile workingDirectory path part = .ok after →
          disk.Fenced after place := by
        intro opens
        rw [writeFile] at opens
        refine fenced_openFile tree separates lands ?_ ?_ opens
        · rfl
        · exact fun _ => rfl
      refine reached answers (writes content) ?_
      rintro ⟨part, -, opens⟩
      exact writes part opens
  | appendFile path content =>
      have appends (part : Bytes) :
          disk.appendFile workingDirectory path part = .ok after →
          disk.Fenced after place := by
        intro opens
        rw [appendFile] at opens
        refine fenced_openFile tree separates lands ?_ ?_ opens
        · rfl
        · exact fun file => group_extended file part
      refine reached answers (appends content) ?_
      rintro ⟨part, -, opens⟩
      exact appends part opens
  | _ => simp [Action.LandsIn, Action.looks] at lands

/-- What lands anywhere on a tree leaves a tree. -/
theorem Answers.isTree_of_lands
    {children : Children}
    {action : Action}
    {reply : action.Reply}
    (answers : Answers workingDirectory children action disk reply after)
    (lands : action.LandsIn disk workingDirectory [])
    (tree : disk.IsTree) :
    after.IsTree := by
  -- Nothing is outside of the root, so a change that lands somewhere lands behind a fence around it.
  have nothing : disk.Separates [] := fun _ _ _ _ _ _ _ _ _ _ => List.nil_prefix
  exact (answers.fenced lands (.refl tree nothing)).isTree

/-- What adds to a tree leaves a tree. -/
theorem Answers.isTree_of_adds
    {children : Children}
    {action : Action}
    {reply : action.Reply}
    (answers : Answers workingDirectory children action disk reply after)
    (adds : action.adds = true)
    (tree : disk.IsTree) :
    after.IsTree := by
  have landed (lands : action.LandsIn disk workingDirectory []) : after.IsTree :=
    answers.isTree_of_lands lands tree
  cases action with
  | copyFile source target =>
      have answers :
          Does (disk.copyFile workingDirectory source target) disk
            (disk.IsCopiedInto workingDirectory target) disk reply after :=
        answers
      cases answers with
      | done isDone => exact tree.copyFile isDone
      | refused | unchanged => exact tree
      | brokenOff _ partly =>
          obtain ⟨_, _, isOpened⟩ := partly
          exact tree.openFile isOpened
  | makeDirectory | writeFile | appendFile =>
      exact landed fun _ _ => List.nil_prefix
  | changeMode | setTimes => exact landed fun _ _ _ => List.nil_prefix
  | fetch => exact landed trivial
  | status | linkStatus | readFile | listDirectory | realPath | environment =>
      exact landed rfl
  | _ => simp [Action.adds, Action.looks] at adds

end Disk

end Provision
