import Provision.Proofs.Disk.Replacing
import Provision.Proofs.Storage.Trees

namespace Provision

/-!
# Files that are written and removed

A mark that is made, and a text that is written beside its place and then moved there, are files that come to
a directory where nothing stood; nothing else changes.  A tree that is removed is gone, and nothing elsewhere
is missing.
-/

open Plan

namespace Disk

variable {disk later : Disk}
variable {workingDirectory : Location}
variable {directory parent : Path}
variable {left : Nat}
variable {there : Location}
variable {name : Name}
variable {file : File}

/-- A path leads where another one leads that goes on by names that lead nowhere else. -/
theorem LeadsTo.of_way
    {heres : List Name}
    (leads : disk.LeadsTo workingDirectory directory left there)
    (isWay : directory.way = parent.way ++ heres)
    (areHeres : ∀ name ∈ heres, name.isHere = true)
    (starts : ∀ here, parent.start here = directory.start here) :
    ∃ left, disk.LeadsTo workingDirectory parent left there := by
  rw [LeadsTo, isWay, ← starts] at leads
  obtain ⟨middle, between, ledTo, leadsOn⟩ := leads_of_leads_append leads
  rw [← List.append_nil heres] at leadsOn
  cases leadsOn.eq_of_heres areHeres with
  | arrived => exact ⟨_, ledTo⟩

/-- A single name that is walked can be that of an entry, unless it stands for a directory. -/
theorem Walks.isPlain
    {followLast : Bool}
    {links : Nat}
    {here : Location}
    {found : Found}
    (walks : disk.Walks followLast links here [name] found)
    (notHere : name.isHere = false)
    (notUp : name.isUp = false) :
    name.isPlain = true := by
  cases walks with
  | missing _ isPlain | link _ isPlain => exact isPlain
  | step steps =>
      cases steps with
      | empty _ isSpecial | dot _ isSpecial =>
          simp [isSpecial, Name.isHere] at notHere
      | up _ isUp => simp [isUp, Name.isUp] at notUp
      | down _ isPlain | follow _ isPlain => exact isPlain

/-- An entry of an open directory is found by its name. -/
theorem entryAt_child_of_get?
    {entry : Entry}
    (isUsable : (directory.child name).isUsable = true)
    (leads : disk.LeadsTo workingDirectory directory left there)
    (isOpen : disk.IsOpen there)
    (isPlain : name.isPlain = true)
    (stands : disk.get? (there ++ [name]) = some entry) :
    disk.entryAt workingDirectory false (directory.child name) =
      .ok (there ++ [name], entry) := by
  rw [entryAt, locate_child isUsable leads,
    walk_of_get? isOpen isPlain stands (Or.inr rfl)]
  rfl

/-- What is found by a name of its own in a directory stands there under this name. -/
theorem get?_of_entryAt_child
    {location : Location}
    {entry : Entry}
    (notHere : name.isHere = false)
    (notUp : name.isUp = false)
    (leads : disk.LeadsTo workingDirectory directory left there)
    (finds :
      disk.entryAt workingDirectory false (directory.child name) =
        .ok (location, entry)) :
    location = there ++ [name] ∧ disk.get? (there ++ [name]) = some entry := by
  obtain ⟨_, place, ledTo, -, isFound⟩ :=
    exists_of_locate_child notHere notUp (entryAt_eq_ok_iff.mp finds)
  obtain rfl : place = there := (leads.unique ledTo).2
  obtain ⟨rfl, isEntry⟩ := Found.mk.inj isFound
  exact ⟨rfl, isEntry.symm⟩

/-- A file that is opened under a name where at most a directory stands comes there. -/
theorem gainsFile_of_openFile
    {change : File → File}
    (leads : disk.LeadsTo workingDirectory directory left there)
    (notHere : name.isHere = false)
    (notUp : name.isUp = false)
    (isFree :
      ∀ location entry,
        disk.entryAt workingDirectory false (directory.child name) =
          .ok (location, entry) →
        entry.isDirectory = true)
    (opens :
      disk.openFile workingDirectory (directory.child name) file change =
        .ok later) :
    name.isPlain = true ∧ disk.GainsFile later there name file := by
  have notEmpty : name ≠ .text "" := by
    rintro rfl
    simp [Name.isHere] at notHere
  have finds (found : Found) :
      disk.locate workingDirectory true (directory.child name) = .ok found →
      name.isPlain = true ∧ disk.IsOpen there ∧
        found = ⟨there ++ [name], disk.get? (there ++ [name])⟩ ∧
          ∀ entry,
            disk.get? (there ++ [name]) = some entry →
            entry.isDirectory = true := by
    intro locates
    obtain ⟨_, place, ledTo, walks⟩ := leadsTo_of_locate_child notEmpty locates
    obtain rfl : place = there := (leads.unique ledTo).2
    have isPlain := walks.isPlain notHere notUp
    obtain ⟨isOpen, isFound⟩ := walks.cases_of_isPlain isPlain
    have isFreeThere (entry : Entry)
        (stands : disk.get? (place ++ [name]) = some entry) :
        entry.isDirectory = true :=
      isFree _ _
        (entryAt_child_of_get? (locate_eq_ok_iff.mp locates).1 leads isOpen
          isPlain stands)
    rcases isFound with ⟨isFound, -⟩ | ⟨-, _, target, -, isLink, -⟩
    · exact ⟨isPlain, isOpen, isFound, isFreeThere⟩
    · have isDirectory := isFreeThere _ isLink
      simp [Entry.isDirectory] at isDirectory
  rcases openFile_eq_ok opens with
    ⟨location, locates, rfl⟩ | ⟨location, found, locates, -⟩
  · obtain ⟨isPlain, isOpen, isFound, -⟩ := finds _ locates
    obtain ⟨rfl, isMissing⟩ := Found.mk.inj isFound
    exact ⟨isPlain, isOpen, isMissing.symm, get?_set_self disk _ _,
      fun other isOther => get?_set_of_ne disk _ isOther⟩
  · obtain ⟨-, -, isFound, isFreeThere⟩ := finds _ locates
    obtain ⟨-, stands⟩ := Found.mk.inj isFound
    have isDirectory := isFreeThere _ stands.symm
    simp [Entry.isDirectory] at isDirectory

/--
A file that is moved to another place takes the place of what stood there, which is no directory and no other name
of it.
-/
theorem rename_of_otherFile
    {source target : Path}
    {origin goal : Location}
    {existing? : Option Entry}
    (finds :
      disk.entryAt workingDirectory false source = .ok (origin, .file file))
    (locates :
      disk.locate workingDirectory false target = .ok ⟨goal, existing?⟩)
    (isOther : origin ≠ goal)
    (notSame :
      ∀ existing,
        existing? = some existing → sameFile (.file file) existing = false)
    (renames : disk.rename workingDirectory source target = .ok later) :
    later = disk.moveTree origin goal ∧
      (∀ mode, existing? ≠ some (.directory mode)) ∧
        (existing? = none → target.endsOpen = false) ∧
          target.endsUnnamed = false := by
  unfold rename at renames
  rw [finds, locates] at renames
  dsimp only at renames
  rw [if_neg isOther] at renames
  split at renames
  · simp at renames
  rename_i isNamed
  rw [Bool.or_eq_true, not_or, Bool.not_eq_true, Bool.not_eq_true] at isNamed
  split at renames
  · simp at renames
  split at renames
  · simp at renames
  split at renames
  · simp at renames
  rename_i notOpen
  have isClosed : existing? = none → target.endsOpen = false := by
    rintro rfl
    simpa [Entry.isDirectory] using notOpen
  cases existing? with
  | none =>
      dsimp only at renames
      split at renames
      · exact ⟨(Except.ok.inj renames).symm, by simp, isClosed, isNamed.2⟩
      · simp at renames
  | some existing =>
      dsimp only at renames
      rw [notSame existing rfl, if_neg (by decide)] at renames
      split at renames
      · simp at renames
      cases existing with
      | directory mode => simp [renameRefusal?, Entry.isDirectory] at renames
      | file | link =>
          exact ⟨(Except.ok.inj renames).symm, by simp, isClosed, isNamed.2⟩

/--
A file without other names that is moved to another place takes the place of what stood there, which is no
directory.
-/
theorem rename_of_file
    {source target : Path}
    {origin goal : Location}
    {existing? : Option Entry}
    (finds :
      disk.entryAt workingDirectory false source = .ok (origin, .file file))
    (isAlone : file.group = none)
    (locates :
      disk.locate workingDirectory false target = .ok ⟨goal, existing?⟩)
    (isOther : origin ≠ goal)
    (renames : disk.rename workingDirectory source target = .ok later) :
    later = disk.moveTree origin goal ∧
      ∀ mode, existing? ≠ some (.directory mode) := by
  obtain ⟨isMoved, notDirectory, -⟩ :=
    rename_of_otherFile finds locates isOther
      (fun existing _ => by cases existing <;> simp [sameFile, isAlone]) renames
  exact ⟨isMoved, notDirectory⟩

/-- What stands where after a file was moved to where no directory stood. -/
theorem get?_moveTree_of_file
    {origin goal : Location}
    (tree : disk.IsTree)
    (isFile : disk.get? origin = some (.file file))
    (notDirectory : ¬disk.HasDirectory goal)
    (notAbove : ¬goal <+: origin)
    (notBelow : ¬origin <+: goal)
    (other : Location) :
    (disk.moveTree origin goal).get? other =
      if other = goal then some (.file file)
      else if other = origin then none
      else disk.get? other := by
  have notFolder : ¬disk.HasDirectory origin := by
    rintro ⟨mode, stands⟩
    rw [isFile] at stands
    simp at stands
  have isErased (below : Location) :
      (disk.eraseTree goal).get? (origin ++ below) =
        disk.get? (origin ++ below) := by
    rw [get?_eraseTree, if_neg]
    rw [List.isPrefixOf_iff_prefix]
    intro isAbove
    rcases List.prefix_or_prefix_of_prefix isAbove
      (List.prefix_append origin below) with isAbove | isBelow
    · exact notAbove isAbove
    · exact notBelow isBelow
  rw [get?_moveTree]
  split
  · rename_i isBelow
    obtain ⟨below, rfl⟩ := List.isPrefixOf_iff_prefix.mp isBelow
    rw [List.drop_left, isErased]
    by_cases isNil : below = []
    · subst isNil
      rw [List.append_nil, List.append_nil, if_pos rfl, isFile]
    · have isOther : goal ++ below ≠ goal := by simpa using isNil
      have notOrigin : goal ++ below ≠ origin := by
        rintro rfl
        exact notAbove (List.prefix_append _ _)
      rw [if_neg isOther, if_neg notOrigin,
        tree.get?_eq_none notDirectory (List.prefix_append _ _) isOther.symm]
      exact tree.get?_eq_none notFolder (List.prefix_append _ _)
        (by simpa using isNil)
  · rename_i isElsewhere
    have notGoal : other ≠ goal := by
      rintro rfl
      exact isElsewhere (List.isPrefixOf_iff_prefix.mpr List.prefix_rfl)
    rw [if_neg notGoal]
    split
    · rename_i isBelow
      split
      · rfl
      · rename_i notOrigin
        exact (tree.get?_eq_none notFolder
          (List.isPrefixOf_iff_prefix.mp isBelow) (Ne.symm notOrigin)).symm
    · rename_i isOutside
      rw [if_neg]
      rintro rfl
      exact isOutside (List.isPrefixOf_iff_prefix.mpr List.prefix_rfl)

/-- A file was put at a location, and everything else is as it was. -/
structure PutsFile
    (disk later : Disk)
    (location : Location)
    (file : File) :
    Prop where
  stands : later.get? location = some (.file file)
  isSame : ∀ other, other ≠ location → later.get? other = disk.get? other

/-- A file that has come to a directory and is moved there to where no directory stands is put there. -/
theorem GainsFile.putsFile_of_moveTree
    {temporary : Name}
    (gains : disk.GainsFile later there temporary file)
    (tree : disk.IsTree)
    (isPlain : temporary.isPlain = true)
    (isOther : temporary ≠ name)
    (notDirectory : ¬disk.HasDirectory (there ++ [name])) :
    disk.PutsFile
      (later.moveTree (there ++ [temporary]) (there ++ [name]))
      (there ++ [name]) file := by
  have notSibling {one two : Name} :
      one ≠ two → ¬there ++ [one] <+: there ++ [two] := by
    intro isOther isPrefix
    rw [List.prefix_append_right_inj] at isPrefix
    simp [isOther] at isPrefix
  have notDirectoryLater : ¬later.HasDirectory (there ++ [name]) := by
    rintro ⟨mode, stands⟩
    refine notDirectory ⟨mode, ?_⟩
    rwa [gains.isSame _ (by simpa using isOther.symm)] at stands
  have isMoved :=
    get?_moveTree_of_file (tree.of_gainsFile isPlain gains) gains.stands
      notDirectoryLater (notSibling isOther.symm) (notSibling isOther)
  refine ⟨(isMoved _).trans (if_pos rfl), fun other isElsewhere => ?_⟩
  rw [isMoved, if_neg isElsewhere]
  split
  · rename_i isTemporary
    exact isTemporary ▸ gains.wasMissing.symm
  · rename_i notTemporary
    exact gains.isSame other notTemporary

/-- A file that has come to a directory and is renamed there is put in place of what is no directory. -/
theorem GainsFile.putsFile_of_rename
    {last : Disk}
    {temporary : Name}
    {left' : Nat}
    (gains : disk.GainsFile later there temporary file)
    (isAlone : file.group = none)
    (tree : disk.IsTree)
    (leads : disk.LeadsTo workingDirectory directory left there)
    (ledTo : disk.LeadsTo workingDirectory parent left' there)
    (isPlain : temporary.isPlain = true)
    (isOther : temporary ≠ name)
    (notHere : name.isHere = false)
    (notUp : name.isUp = false)
    (renames :
      later.rename workingDirectory (parent.child temporary)
          (directory.child name) =
        .ok last) :
    disk.PutsFile last (there ++ [name]) file ∧
      ¬disk.HasDirectory (there ++ [name]) := by
  obtain ⟨-, -, -, tempNotHere, tempNotUp, -⟩ := not_special_of_isPlain isPlain
  obtain ⟨origin, entry, goal, existing?, finds, locates, -⟩ :=
    rename_eq_ok renames
  obtain ⟨_, place, leadsSource, -, isSource⟩ :=
    exists_of_locate_child tempNotHere tempNotUp (entryAt_eq_ok_iff.mp finds)
  obtain rfl : there = place :=
    ((ledTo.mono gains.within).unique leadsSource).2.symm
  obtain ⟨_, place, leadsTarget, -, isTarget⟩ :=
    exists_of_locate_child notHere notUp locates
  obtain rfl : there = place :=
    ((leads.mono gains.within).unique leadsTarget).2.symm
  obtain ⟨rfl, isEntry⟩ := Found.mk.inj isSource
  obtain ⟨rfl, isExisting⟩ := Found.mk.inj isTarget
  obtain rfl := Option.some.inj (isEntry.trans gains.stands)
  have isElsewhere : there ++ [name] ≠ there ++ [temporary] := by
    simpa using isOther.symm
  obtain ⟨rfl, notDirectory⟩ :=
    rename_of_file finds isAlone locates isElsewhere.symm renames
  rw [gains.isSame _ isElsewhere] at isExisting
  have notThere : ¬disk.HasDirectory (there ++ [name]) :=
    fun ⟨mode, stands⟩ => notDirectory mode (isExisting.trans stands)
  exact ⟨gains.putsFile_of_moveTree tree isPlain isOther notThere, notThere⟩

/-! ## Trees that are taken away -/

/--
What a path led to has been taken away with all that it held, and nothing else has changed.  A directory may be
left where it was, if what it held was needed to find it.
-/
structure ClearsTree
    (disk later : Disk)
    (workingDirectory : Location)
    (path : Path) :
    Prop where
  isTree : later.IsTree
  listsOnce : later.ListsOnce
  within : later.Within disk
  isUsable : path.isUsable = true
  isGone : ∀ found, later.entryAt workingDirectory false path ≠ .ok found
  isCleared :
    ∀ place entry location remaining,
      disk.entryAt workingDirectory false path = .ok (place, entry) →
      place <+: location →
      later.get? location = some remaining →
      location = place ∧ remaining.isDirectory = true
  elsewhere :
    ∀ location,
      later.get? location = disk.get? location ∨
        ∃ place entry,
          disk.entryAt workingDirectory false path = .ok (place, entry) ∧
            place <+: location

/-- A tree that was removed is cleared. -/
theorem clearsTree_of_removeTree
    {path : Path}
    (tree : disk.IsTree)
    (once : disk.ListsOnce)
    (removes : disk.removeTree workingDirectory path = .ok later) :
    disk.ClearsTree later workingDirectory path := by
  obtain ⟨isTree, within⟩ := tree.of_removeTree removes
  obtain ⟨place, entry, finds, isNone, elsewhere⟩ :
      ∃ place entry,
        disk.entryAt workingDirectory false path = .ok (place, entry) ∧
          later.get? place = none ∧
            ∀ location,
              later.get? location = disk.get? location ∨
                place <+: location := by
    obtain ⟨place, ⟨mode, finds, isCleared⟩ | ⟨target, finds, rfl⟩⟩ :=
      removeTree_eq_ok removes
    · refine ⟨place, _, finds, ?_, fun location => ?_⟩
      · rw [isCleared, if_pos (List.isPrefixOf_iff_prefix.mpr List.prefix_rfl)]
      · by_cases isBelow : place <+: location
        · exact Or.inr isBelow
        · left
          rw [isCleared, if_neg (mt List.isPrefixOf_iff_prefix.mp isBelow)]
    · refine ⟨place, _, finds, get?_erase_self disk place, fun location => ?_⟩
      by_cases isPlace : location = place
      · exact Or.inr (isPlace ▸ List.prefix_rfl)
      · exact Or.inl (get?_erase_of_ne disk isPlace)
  have isPlace {other : Location} {found : Entry} :
      disk.entryAt workingDirectory false path = .ok (other, found) →
      other = place := by
    intro isFound
    exact (Prod.mk.inj (Except.ok.inj (isFound.symm.trans finds))).1
  refine ⟨isTree, once.removeTree removes, within,
    (locate_eq_ok_iff.mp (entryAt_eq_ok_iff.mp finds)).1, ?_, ?_,
    fun location => (elsewhere location).imp_right fun isBelow =>
      ⟨place, entry, finds, isBelow⟩⟩
  · rintro ⟨location, found⟩ isFound
    have stands := get?_of_entryAt isFound
    rw [isPlace (entryAt_mono isFound within), isNone] at stands
    simp at stands
  · rintro location found _ remaining isFound ⟨below, rfl⟩ stands
    rw [isPlace isFound, isTree.missing_below isNone below] at stands
    simp at stands

/-- A tree of which it is told on removing that it is missing is cleared. -/
theorem clearsTree_of_missing
    {path : Path}
    {fault : DiskFault}
    (tree : disk.IsTree)
    (once : disk.ListsOnce)
    (isNamed : path ≠ Path.empty)
    (removes : disk.removeTree workingDirectory path = .error fault)
    (isMissing : fault.isMissing = true) :
    disk.ClearsTree (disk.leftOver workingDirectory path) workingDirectory
      path := by
  obtain ⟨isTree, within⟩ := tree.leftOver removes isMissing
  have isNothing := entryAt_leftOver_of_missing removes isMissing
  obtain rfl := DiskFault.eq_of_isMissing fault isMissing
  refine ⟨isTree, once.leftOver _ _, within,
    isUsable_of_missing isNamed isNothing, by simp [isNothing],
    ?_, fun location =>
      (disk.get?_leftOver _ path location).imp_right And.right⟩
  rintro place entry _ remaining finds ⟨below, rfl⟩ stands
  unfold Disk.removeTree at removes
  rw [leftOver, finds] at stands
  rw [finds] at removes
  cases entry with
  | directory mode =>
      dsimp only at removes stands
      split at removes
      · rename_i mayEmpty
        obtain rfl : below = [] := by
          by_contra notNil
          rw [get?_emptied_of_mayEmpty mayEmpty notNil] at stands
          simp at stands
        rw [List.append_nil, get?_emptied_self, get?_of_entryAt finds] at stands
        obtain rfl := Option.some.inj stands
        exact ⟨List.append_nil place, rfl⟩
      · simp at removes
  | file => simp at removes
  | link =>
      dsimp only at removes
      split at removes <;> simp at removes

/-! ### What is apart from a tree -/

variable {last : Disk}
variable {path : Path}
variable {origin : Location}

/-- A disk without what a path leads to and all that this holds. -/
def outside (disk : Disk) (workingDirectory : Location) (path : Path) : Disk :=
  match disk.entryAt workingDirectory false path with
  | .ok (place, _) => disk.eraseTree place
  | .error _ => disk

/-- A place that a path stands for before it is cleared, or once it is made anew. -/
inductive IsPlaceOf
    (disk : Disk)
    (workingDirectory : Location)
    (path : Path) :
    Location → Prop where
  | old
      {place : Location}
      {entry : Entry}
      (finds :
        disk.entryAt workingDirectory false path = .ok (place, entry)) :
      IsPlaceOf disk workingDirectory path place
  | new
      {cleared made : Disk}
      {place : Location}
      (clears : disk.ClearsTree cleared workingDirectory path)
      (makes : cleared.MakesWay made workingDirectory path place) :
      IsPlaceOf disk workingDirectory path place

/-- What is outside of a tree is still there once that is cleared. -/
theorem ClearsTree.outside_within
    (clears : disk.ClearsTree later workingDirectory path) :
    (disk.outside workingDirectory path).Within later := by
  intro location entry stands
  rw [outside] at stands
  cases finds : disk.entryAt workingDirectory false path with
  | error fault =>
      rw [finds] at stands
      rcases clears.elsewhere location with isSame | ⟨_, _, isFound, -⟩
      · exact isSame.trans stands
      · rw [finds] at isFound
        simp at isFound
  | ok found =>
      obtain ⟨place, root⟩ := found
      rw [finds] at stands
      dsimp only at stands
      rw [get?_eraseTree] at stands
      split at stands
      · simp at stands
      · rename_i notBelow
        rcases clears.elsewhere location with
          isSame | ⟨_, _, isFound, isBelow⟩
        · exact isSame.trans stands
        · obtain ⟨rfl, -⟩ :=
            Prod.mk.inj (Except.ok.inj (finds.symm.trans isFound))
          exact absurd (List.isPrefixOf_iff_prefix.mpr isBelow) notBelow

/-- What is apart from a tree stays as it is when that is cleared. -/
theorem ClearsTree.get?_of_areApart
    (clears : disk.ClearsTree later workingDirectory path)
    (areApart :
      ∀ place, disk.IsPlaceOf workingDirectory path place →
        AreApart origin place)
    (below : Location) :
    later.get? (origin ++ below) = disk.get? (origin ++ below) := by
  rcases clears.elsewhere (origin ++ below) with
    isSame | ⟨place, _, finds, isBelow⟩
  · exact isSame
  · exact absurd isBelow ((areApart place (.old finds)).not_below below)

/-- A tree that is cleared on one disk is cleared on every disk with the same entries. -/
theorem ClearsTree.congr
    (clears : disk.ClearsTree later workingDirectory path)
    (tree : last.IsTree)
    (once : last.ListsOnce)
    (isSame : ∀ location, last.get? location = later.get? location) :
    disk.ClearsTree last workingDirectory path where
  isTree := tree
  listsOnce := once
  within := fun location _ stands =>
    clears.within location _ ((isSame location).symm.trans stands)
  isUsable := clears.isUsable
  isGone := fun found finds =>
    clears.isGone found
      (entryAt_mono finds fun location _ stands =>
        (isSame location).symm.trans stands)
  isCleared := fun place entry location _ finds isBelow stands =>
    clears.isCleared place entry location _ finds isBelow
      ((isSame location).symm.trans stands)
  elsewhere := fun location =>
    (clears.elsewhere location).imp_left (isSame location).trans

/-- A path that leads to a directory is walked to it. -/
theorem LeadsTo.walks
    {left mode : Nat}
    {there : Location}
    (leads : disk.LeadsTo workingDirectory path left there)
    (stands : disk.get? there = some (.directory mode)) :
    disk.Walks true maxLinks (path.start workingDirectory) path.names
      ⟨there, some (.directory mode)⟩ := by
  have leadsNames :
      disk.Leads maxLinks (path.start workingDirectory) path.names left
        there := by
    rcases path.names_eq_way with isNames | isNames <;> rw [isNames]
    · exact leads
    · exact leads.append
        (.step (.empty ⟨mode, stands⟩ rfl) (.arrived left there))
  exact stands ▸ leadsNames.walks

/-- A usable path that leads to a directory finds it. -/
theorem LeadsTo.finds
    {left mode : Nat}
    {there : Location}
    (leads : disk.LeadsTo workingDirectory path left there)
    (stands : disk.get? there = some (.directory mode))
    (isUsable : path.isUsable = true) :
    disk.entryAt workingDirectory true path = .ok (there, .directory mode) :=
  entryAt_eq_ok_iff.mpr
    (locate_eq_ok_iff.mpr ⟨isUsable, leads.walks stands⟩)

/-- A usable path that leads to a directory finds something. -/
theorem LeadsTo.exists_entryAt
    {left : Nat}
    {there : Location}
    (leads : disk.LeadsTo workingDirectory path left there)
    (isDirectory : disk.HasDirectory there)
    (isUsable : path.isUsable = true) :
    ∃ found, disk.entryAt workingDirectory false path = .ok found := by
  obtain ⟨mode, stands⟩ := isDirectory
  obtain ⟨place, itself, walksOn⟩ := (leads.walks stands).exists_of_follow
  exact ⟨(place, itself),
    entryAt_eq_ok_iff.mpr (locate_eq_ok_iff.mpr ⟨isUsable, walksOn⟩)⟩

/-- Where a path leads to a directory none is made, and the path is not told to be missing. -/
theorem LeadsTo.makeDirectory_ne
    {left : Nat}
    {there : Location}
    (leads : disk.LeadsTo workingDirectory path left there)
    (isDirectory : disk.HasDirectory there)
    (notEmpty : path ≠ Path.empty)
    (mode : Nat) :
    (∀ made, disk.makeDirectory workingDirectory path mode ≠ .ok made) ∧
      disk.makeDirectory workingDirectory path mode ≠
        .error (.refused .noEntry) := by
  constructor
  · intro made makes
    obtain ⟨location, locates, -⟩ := makeDirectory_eq_ok makes
    obtain ⟨found, finds⟩ :=
      leads.exists_entryAt isDirectory (locate_eq_ok_iff.mp locates).1
    rw [entryAt_of_locate_none locates] at finds
    simp at finds
  · intro isMissing
    unfold makeDirectory at isMissing
    split at isMissing
    · rename_i fault locates
      obtain rfl := Except.error.inj isMissing
      have isNothing :
          disk.entryAt workingDirectory false path =
            .error (.refused .noEntry) := by
        rw [entryAt, locates]
      obtain ⟨found, finds⟩ :=
        leads.exists_entryAt isDirectory
          (isUsable_of_missing notEmpty isNothing)
      rw [isNothing] at finds
      simp at finds
    · simp at isMissing
    · split at isMissing <;> simp at isMissing

end Disk

/-! ## Temporary names -/

/-- The last name of an entry of a directory is the name of the entry. -/
theorem Path.fileName?_child
    (directory : Path)
    {name : Name}
    (notHere : name.isHere = false)
    (notUp : name.isUp = false) :
    (directory.child name).fileName? = some name := by
  obtain ⟨_, isSplit⟩ := directory.exists_splitLast?_child notHere
  simp [fileName?, isSplit, notHere, notUp]

/-- A temporary name is longer than the name that it is made from. -/
theorem Files.length_temporaryName
    (path : Path)
    (processId : Nat) :
    path.fileNameText.length + 6 ≤
      (temporaryName path processId).length := by
  have isName :
      temporaryName path processId =
        "." ++ path.fileNameText ++ "." ++ toString processId ++ ".tmp" :=
    rfl
  have hasDot : ".".length = 1 := rfl
  have hasEnding : ".tmp".length = 4 := rfl
  rw [isName]
  simp only [String.length_append, hasDot, hasEnding]
  omega

/-- A temporary name is a name of its own, other than that which it is made from. -/
theorem Files.temporaryName_differs
    {path : Path}
    {name : Name}
    (isName : path.fileName? = some name)
    (processId : Nat) :
    Name.text (temporaryName path processId) ≠ name ∧
      (Name.text (temporaryName path processId)).isHere = false ∧
        (Name.text (temporaryName path processId)).isUp = false := by
  have isLong := length_temporaryName path processId
  have isText : path.fileNameText = name.display := by
    rw [Path.fileNameText, isName]
  rw [isText] at isLong
  have isOther (text : String) (isShort : text.length < 6) :
      temporaryName path processId ≠ text := by
    rintro rfl
    omega
  refine ⟨?_, ?_, ?_⟩
  · intro isSame
    have isDisplay : temporaryName path processId = name.display :=
      congrArg Name.display isSame
    rw [isDisplay] at isLong
    omega
  · simp [Name.isHere, isOther "" (by decide), isOther "." (by decide)]
  · simp [Name.isUp, isOther ".." (by decide)]

theorem Files.temporaryName_isOther
    (directory : Path)
    {name : Name}
    (notHere : name.isHere = false)
    (notUp : name.isUp = false)
    (processId : Nat) :
    Name.text (temporaryName (directory.child name) processId) ≠ name ∧
      (Name.text
            (temporaryName (directory.child name) processId)).isHere =
          false ∧
        (Name.text
            (temporaryName (directory.child name) processId)).isUp =
          false :=
  temporaryName_differs (directory.fileName?_child notHere notUp) processId

/-! ## Runs -/

namespace Files

variable {workingDirectory : Location}
variable {children : Disk.Children}
variable {step : Stepping Disk}
variable {disk last : Disk}
variable {path directory : Path}
variable {left : Nat}
variable {there : Location}
variable {name : Name}
variable (answersBy : Disk.AnswersBy workingDirectory children step)

include answersBy

/-- Where a directory is there, nothing is made, whatever the process is told. -/
theorem ensures_makeDirectories_of_leads
    (leads : disk.LeadsTo workingDirectory path left there)
    (isDirectory : disk.HasDirectory there) :
    Ensures step (· = disk) (fun _ last => last = disk)
      (makeDirectories path) disk := by
  rw [makeDirectories, lineage, makeLineage]
  split
  · rfl
  rename_i notEmpty
  obtain ⟨notMade, notMissing⟩ :=
    leads.makeDirectory_ne isDirectory notEmpty 0o755
  refine .bind (.ask fun reply after answered => ?_)
  obtain ⟨rfl, fault, rfl, isPresent⟩ :
      after = disk ∧
        ∃ fault, reply = .error fault ∧ fault.isMissing = false := by
    cases answersBy _ _ _ _ answered with
    | done isDone => exact absurd isDone (notMade _)
    | @refused fault isError =>
        refine ⟨rfl, fault, rfl, Bool.eq_false_iff.mpr fun isMissing => ?_⟩
        rw [fault.eq_of_isMissing isMissing] at isError
        exact notMissing isError
    | @unchanged fault isPresent => exact ⟨rfl, fault, rfl, isPresent⟩
    | brokenOff _ partly => exact partly.elim
  refine ⟨rfl, ?_⟩
  dsimp only
  rw [isPresent, if_neg (by decide)]
  refine ensures_unchanged answersBy
    (.bind (isDirectory_asksOnly path) fun isThere => ?_)
  split <;> exact .done _

/-- Where the directory that an entry stands in is there, nothing is made, whatever the process is told. -/
theorem ensures_makeParents_of_leads
    (notHere : name.isHere = false)
    (leads : disk.LeadsTo workingDirectory directory left there)
    (isDirectory : disk.HasDirectory there) :
    Ensures step (· = disk) (fun _ last => last = disk)
      (makeParents (directory.child name)).run disk := by
  obtain ⟨parent, heres, isParent, isWay, areHeres, starts⟩ :=
    directory.exists_parent?_child notHere
  obtain ⟨_, ledTo⟩ := leads.of_way isWay areHeres starts
  rw [makeParents, isParent]
  refine .bind ((ensures_makeDirectories_of_leads answersBy ledTo
    isDirectory).mono (fun _ => id) fun _ _ isSame => isSame)

/-- Where the directory that an entry stands in is there, nothing is made. -/
theorem eq_of_makeParents_child
    (notHere : name.isHere = false)
    (leads : disk.LeadsTo workingDirectory directory left there)
    (isDirectory : disk.HasDirectory there)
    (ends :
      Ends step (makeParents (directory.child name)).run disk (.ok ())
        last) :
    last = disk :=
  ((ensures_makeParents_of_leads answersBy notHere leads isDirectory).of_runs
    ends rfl).1

/-- A mark that is left in an open directory where nothing stood under its name comes there as an empty file. -/
theorem ends_createMarker
    (once : disk.ListsOnce)
    (notHere : name.isHere = false)
    (notUp : name.isUp = false)
    (leads : disk.LeadsTo workingDirectory directory left there)
    (isDirectory : disk.HasDirectory there)
    (isMissing : disk.get? (there ++ [name]) = none)
    (ends :
      Ends step (createMarker (directory.child name)).run disk (.ok ())
        last) :
    last.ListsOnce ∧
      disk.GainsFile last there name { mode := 0o644, content := [] } := by
  obtain ⟨_, _, makes, appends⟩ := ends_bindProcedure_iff.mp ends
  obtain rfl :=
    eq_of_makeParents_child answersBy notHere leads isDirectory makes
  have answers :=
    answersBy _ _ _ _ (ends_ask_iff.mp (ends_attempt_iff.mp appends))
  cases answers with
  | done isDone =>
      refine ⟨once.openFile isDone,
        (Disk.gainsFile_of_openFile leads notHere notUp
          (fun location entry finds => ?_) isDone).2⟩
      obtain ⟨-, stands⟩ :=
        Disk.get?_of_entryAt_child notHere notUp leads finds
      rw [isMissing] at stands
      simp at stands

/-- A content that is written comes to a temporary file beside its place, which is then renamed. -/
theorem exists_of_writeAtomically
    {content : Bytes}
    (notHere : name.isHere = false)
    (notUp : name.isUp = false)
    (leads : disk.LeadsTo workingDirectory directory left there)
    (isDirectory : disk.HasDirectory there)
    (ends :
      Ends step (writeAtomically (directory.child name) content).run disk
        (.ok ()) last) :
    ∃ (processId : Nat) (temporary : Name) (parent : Path) (left' : Nat)
        (written : Disk),
      temporary =
          .text (temporaryName (directory.child name) processId) ∧
        (directory.child name).withFileName temporary =
            parent.child temporary ∧
          disk.LeadsTo workingDirectory parent left' there ∧
            disk.writeFile workingDirectory (parent.child temporary) content =
                .ok written ∧
              step (.rename (parent.child temporary) (directory.child name))
                written (.ok () : Except DiskFault Unit) last := by
  obtain ⟨_, _, makes, writes⟩ := ends_bindProcedure_iff.mp ends
  obtain rfl :=
    eq_of_makeParents_child answersBy notHere leads isDirectory makes
  obtain ⟨environment, _, looks, stores⟩ := ends_bindLift_iff.mp writes
  obtain rfl := answersBy _ _ _ _ (ends_ask_iff.mp looks)
  obtain ⟨parent, heres, isParent, isWay, areHeres, starts⟩ :=
    directory.exists_parent?_child notHere
  obtain ⟨_, ledTo⟩ := leads.of_way isWay areHeres starts
  rw [Path.withFileName_child notHere notUp isParent] at stores
  obtain ⟨_, written, fills, moves⟩ := ends_bindProcedure_iff.mp stores
  have filled :=
    answersBy _ _ _ _ (ends_ask_iff.mp (ends_attempt_iff.mp fills))
  cases filled with
  | done isFilled =>
      exact ⟨environment.processId, _, parent, _, written, rfl,
        Path.withFileName_child notHere notUp isParent _, ledTo, isFilled,
        ends_ask_iff.mp (ends_attempt_iff.mp moves)⟩

/--
A content that is written to an entry of a directory is put there as a file, in place of what is no directory,
if at most directories stand under the names of temporary files.
-/
theorem ends_writeAtomically_over
    {content : Bytes}
    (tree : disk.IsTree)
    (notHere : name.isHere = false)
    (notUp : name.isUp = false)
    (leads : disk.LeadsTo workingDirectory directory left there)
    (isDirectory : disk.HasDirectory there)
    (isFreeBeside :
      ∀ processId location entry,
        disk.entryAt workingDirectory false
            ((directory.child name).withFileName
              (.text (temporaryName (directory.child name) processId))) =
          .ok (location, entry) →
        entry.isDirectory = true)
    (ends :
      Ends step (writeAtomically (directory.child name) content).run disk
        (.ok ()) last) :
    (directory.child name).isUsable = true ∧
      disk.IsOpen there ∧
        ¬disk.HasDirectory (there ++ [name]) ∧
          disk.PutsFile last (there ++ [name])
            { mode := 0o644, content } := by
  obtain ⟨processId, temporary, parent, _, written, isTemporary, isBeside, ledTo,
    isFilled, moves⟩ :=
    exists_of_writeAtomically answersBy notHere notUp leads isDirectory ends
  obtain ⟨isOther, tempNotHere, tempNotUp⟩ :=
    temporaryName_isOther directory notHere notUp processId
  have isFreeTemporary := isFreeBeside processId
  rw [← isTemporary] at isOther tempNotHere tempNotUp isFreeTemporary
  rw [isBeside] at isFreeTemporary
  have moved := answersBy _ _ _ _ moves
  obtain ⟨isPlain, gains⟩ :=
    Disk.gainsFile_of_openFile ledTo tempNotHere tempNotUp isFreeTemporary
      isFilled
  cases moved with
  | done isMoved =>
      obtain ⟨_, _, _, _, -, locates, -⟩ := Disk.rename_eq_ok isMoved
      obtain ⟨puts, notThere⟩ :=
        gains.putsFile_of_rename rfl tree leads ledTo isPlain isOther notHere
          notUp isMoved
      exact ⟨(Disk.locate_eq_ok_iff.mp locates).1, gains.isOpen, notThere,
        puts⟩

/--
A content that is written to an entry of a directory comes there as a file, if at most a directory stood
under its name and under those of temporary files.
-/
theorem ends_writeAtomically
    {content : Bytes}
    (tree : disk.IsTree)
    (notHere : name.isHere = false)
    (notUp : name.isUp = false)
    (leads : disk.LeadsTo workingDirectory directory left there)
    (isDirectory : disk.HasDirectory there)
    (isFree :
      ∀ entry,
        disk.get? (there ++ [name]) = some entry →
        entry.isDirectory = true)
    (isFreeBeside :
      ∀ processId entry,
        disk.get?
            (there ++
              [.text (temporaryName (directory.child name) processId)]) =
          some entry →
        entry.isDirectory = true)
    (ends :
      Ends step (writeAtomically (directory.child name) content).run disk
        (.ok ()) last) :
    (directory.child name).isUsable = true ∧
      disk.GainsFile last there name { mode := 0o644, content } := by
  have isFreeByName (processId : Nat) (location : Location) (entry : Entry) :
      disk.entryAt workingDirectory false
          ((directory.child name).withFileName
            (.text (temporaryName (directory.child name) processId))) =
        .ok (location, entry) →
      entry.isDirectory = true := by
    intro finds
    obtain ⟨parent, heres, isParent, isWay, areHeres, starts⟩ :=
      directory.exists_parent?_child notHere
    obtain ⟨_, ledTo⟩ := leads.of_way isWay areHeres starts
    obtain ⟨-, tempNotHere, tempNotUp⟩ :=
      temporaryName_isOther directory notHere notUp processId
    rw [Path.withFileName_child notHere notUp isParent] at finds
    exact isFreeBeside processId entry
      (Disk.get?_of_entryAt_child tempNotHere tempNotUp ledTo finds).2
  obtain ⟨isUsable, isOpen, notThere, puts⟩ :=
    ends_writeAtomically_over answersBy tree notHere notUp leads isDirectory
      isFreeByName ends
  refine ⟨isUsable, isOpen, ?_, puts.stands, puts.isSame⟩
  cases stands : disk.get? (there ++ [name]) with
  | none => rfl
  | some entry =>
      cases entry with
      | directory mode => exact absurd ⟨mode, stands⟩ notThere
      | file | link =>
          have isAlsoDirectory := isFree _ stands
          simp [Entry.isDirectory] at isAlsoDirectory

/-- An entry in an open directory that is removed is taken away, and its path leads to nothing. -/
theorem ends_removeFile_of_leads
    {entry : Entry}
    (isPlain : name.isPlain = true)
    (leads : disk.LeadsTo workingDirectory directory left there)
    (isOpen : disk.IsOpen there)
    (stands : disk.get? (there ++ [name]) = some entry)
    (ends :
      Ends step (removeFile (directory.child name)).run disk (.ok ())
        last) :
    last = disk.erase (there ++ [name]) ∧
      last.IsGone workingDirectory (directory.child name) := by
  obtain ⟨notEmpty, -, -, notHere, notUp, -⟩ :=
    Disk.not_special_of_isPlain isPlain
  obtain ⟨reply, asked, areMissing⟩ :=
    Ends.of_forgiveMissing (ends_attempt_iff.mp ends)
  have answers := answersBy _ _ _ _ (ends_ask_iff.mp asked)
  refine ⟨?_, Disk.isGone_of_removeFile answers areMissing notHere notUp⟩
  cases answers with
  | done isDone =>
      obtain ⟨location, found, finds, -, rfl⟩ := Disk.removeFile_eq_ok isDone
      obtain ⟨_, place, ledTo, -, isFound⟩ :=
        Disk.exists_of_locate_child notHere notUp
          (Disk.entryAt_eq_ok_iff.mp finds)
      obtain rfl : place = there := (leads.unique ledTo).2
      rw [(Disk.Found.mk.inj isFound).1]
  | refused isRefused =>
      obtain rfl := DiskFault.eq_of_isMissing _ (areMissing _ rfl)
      have isMissing := Disk.entryAt_of_removeFile_missing isRefused rfl
      have isUsable :=
        Disk.isUsable_of_missing (Disk.child_ne_empty directory notEmpty)
          isMissing
      rw [Disk.entryAt, Disk.locate_child isUsable leads,
        Disk.walk_of_get? isOpen isPlain stands (Or.inr rfl)] at isMissing
      cases isMissing
  | unchanged notMissing | brokenOff notMissing =>
      simp [areMissing _ rfl] at notMissing

/-- A tree that is removed unless it is gone is gone, and nothing else has changed. -/
theorem ends_removeTree_clears
    (tree : disk.IsTree)
    (once : disk.ListsOnce)
    (isNamed : path ≠ Path.empty)
    (ends : Ends step (removeTree path).run disk (.ok ()) last) :
    disk.ClearsTree last workingDirectory path := by
  obtain ⟨reply, asked, areMissing⟩ :=
    Ends.of_forgiveMissing (ends_attempt_iff.mp ends)
  have answers := answersBy _ _ _ _ (ends_ask_iff.mp asked)
  cases answers with
  | done isDone => exact Disk.clearsTree_of_removeTree tree once isDone
  | refused isRefused =>
      exact Disk.clearsTree_of_missing tree once isNamed isRefused
        (areMissing _ rfl)
  | unchanged notMissing | brokenOff notMissing =>
      simp [areMissing _ rfl] at notMissing

end Files

end Provision
