import Provision.Proofs.Disk.Removal

namespace Provision.Disk

/-!
# Trees

On a disk that is a tree everything stands in directories, under names that can be those of entries.
What a path leads to on such a disk is there, or it is missing in a directory.  A disk that has no location
twice lists what is in its directories, and each name once.
-/

/-- Everything stands in directories, under names that can be those of entries. -/
def IsTree (disk : Disk) : Prop :=
  ∀ location entry,
    disk.get? location = some entry →
    disk.Standing location ∧ ∀ name ∈ location, name.isPlain = true

/-- What is no file on a disk is the same on a later one. -/
def Stays (disk later : Disk) : Prop :=
  ∀ location entry,
    disk.get? location = some entry →
    entry.isFile = false →
    later.get? location = some entry

variable {disk later after : Disk}
variable {workingDirectory : Location}
variable {path : Path}

/-! ## What stands on a tree -/

/-- What lies above something on a tree is a directory. -/
theorem IsTree.hasDirectory
    {above location : Location}
    {entry : Entry}
    (tree : disk.IsTree)
    (stands : disk.get? location = some entry)
    (isAbove : above <+: location)
    (isOther : above ≠ location) :
    disk.HasDirectory above :=
  (tree location entry stands).1 above isAbove isOther

/-- Nothing stands below what is no directory. -/
theorem IsTree.get?_eq_none
    {place location : Location}
    (tree : disk.IsTree)
    (notDirectory : ¬disk.HasDirectory place)
    (isBelow : place <+: location)
    (isOther : place ≠ location) :
    disk.get? location = none := by
  cases stands : disk.get? location with
  | none => rfl
  | some entry =>
      exact absurd (tree.hasDirectory stands isBelow isOther) notDirectory

/-- Nothing stands below where nothing stands. -/
theorem IsTree.missing_below
    {place : Location}
    (tree : disk.IsTree)
    (isMissing : disk.get? place = none)
    (below : Location) :
    disk.get? (place ++ below) = none := by
  by_cases isNil : below = []
  · rw [isNil, List.append_nil]
    exact isMissing
  · refine tree.get?_eq_none ?_ (List.prefix_append _ _) (by simpa using isNil)
    rintro ⟨mode, stands⟩
    rw [isMissing] at stands
    simp at stands

/-- A disk is a tree if its directories stay, and what comes to it stands in directories. -/
theorem IsTree.of_new
    (tree : disk.IsTree)
    (stay :
      ∀ location, disk.HasDirectory location → later.HasDirectory location)
    (areNew :
      ∀ location entry,
        later.get? location = some entry →
        disk.get? location = none →
        ∃ above name,
          location = above ++ [name] ∧
            disk.HasDirectory above ∧ name.isPlain = true) :
    later.IsTree := by
  intro location entry stands
  cases stood : disk.get? location with
  | some old =>
      obtain ⟨standing, arePlain⟩ := tree location old stood
      exact ⟨fun above isAbove isOther =>
        stay above (standing above isAbove isOther), arePlain⟩
  | none =>
      obtain ⟨above, name, rfl, isDirectory, isPlain⟩ :=
        areNew location entry stands stood
      obtain ⟨mode, standsAbove⟩ := id isDirectory
      obtain ⟨standing, arePlain⟩ := tree above _ standsAbove
      refine ⟨fun higher isAbove isOther => stay higher ?_, ?_⟩
      · exact standing.below isDirectory name higher isAbove isOther
      · intro other member
        rcases List.mem_append.mp member with inAbove | isName
        · exact arePlain other inAbove
        · exact List.mem_singleton.mp isName ▸ isPlain

/-- A disk is still a tree when an entry is put in a directory, not in place of another directory. -/
theorem IsTree.set
    {above : Location}
    {name : Name}
    {entry : Entry}
    (tree : disk.IsTree)
    (isDirectory : disk.HasDirectory above)
    (isPlain : name.isPlain = true)
    (isFree : ¬disk.HasDirectory (above ++ [name])) :
    (disk.set (above ++ [name]) entry).IsTree := by
  refine tree.of_new (fun location wasDirectory => ?_) ?_
  · have isElsewhere : location ≠ above ++ [name] := by
      rintro rfl
      exact isFree wasDirectory
    obtain ⟨mode, stands⟩ := wasDirectory
    exact ⟨mode, (get?_set_of_ne disk entry isElsewhere).trans stands⟩
  · intro location other stands isNone
    by_cases isHere : location = above ++ [name]
    · exact ⟨above, name, isHere, isDirectory, isPlain⟩
    · rw [get?_set_of_ne disk entry isHere, isNone] at stands
      simp at stands

/-- A disk is still a tree when files on it change. -/
theorem IsTree.updateFile
    (tree : disk.IsTree)
    (location : Location)
    (change : File → File) :
    (disk.updateFile location change).IsTree := by
  refine tree.of_new (fun other wasDirectory => ?_) ?_
  · obtain ⟨mode, stands⟩ := wasDirectory
    rcases disk.get?_updateFile location change other with
      isSame | ⟨file, isFile, -⟩
    · exact ⟨mode, isSame.trans stands⟩
    · rw [stands] at isFile
      simp at isFile
  · intro other entry stands isNone
    rcases disk.get?_updateFile location change other with
      isSame | ⟨file, isFile, -⟩
    · rw [isSame, isNone] at stands
      simp at stands
    · rw [isNone] at isFile
      simp at isFile

/-- A disk is still a tree when a tree is taken away from it. -/
theorem IsTree.of_cleared
    {place : Location}
    (tree : disk.IsTree)
    (isCleared :
      ∀ location,
        later.get? location =
          if place <+: location then none else disk.get? location) :
    later.IsTree := by
  intro location entry stands
  have notBelow : ¬place <+: location := by
    intro isBelow
    rw [isCleared, if_pos isBelow] at stands
    simp at stands
  rw [isCleared, if_neg notBelow] at stands
  obtain ⟨standing, arePlain⟩ := tree location entry stands
  refine ⟨fun above isAbove isOther => ?_, arePlain⟩
  obtain ⟨mode, standsAbove⟩ := standing above isAbove isOther
  refine ⟨mode, ?_⟩
  rw [isCleared, if_neg fun isBelow => notBelow (isBelow.trans isAbove)]
  exact standsAbove

/-- A disk is a tree if each of its entries stands in directories. -/
theorem isTree_of_entries
    (areStanding :
      ∀ item ∈ disk.entries,
        (∀ name ∈ item.1, name.isPlain = true) ∧
          ∀ depth < item.1.length,
            (disk.get? (item.1.take depth)).any Entry.isDirectory = true) :
    disk.IsTree := by
  intro location entry stands
  obtain ⟨arePlain, areDirectories⟩ :=
    areStanding _ (mem_entries_of_get? stands)
  refine ⟨fun above isAbove isOther => ?_, arePlain⟩
  have isShorter : above.length < location.length :=
    lt_of_le_of_ne isAbove.length_le fun isSame =>
      isOther (isAbove.eq_of_length isSame)
  have isDirectory := areDirectories above.length isShorter
  rw [← List.prefix_iff_eq_take.mp isAbove] at isDirectory
  cases isFound : disk.get? above with
  | none => simp [isFound] at isDirectory
  | some found =>
      cases found with
      | directory mode => exact ⟨mode, isFound⟩
      | file | link => simp [isFound, Entry.isDirectory] at isDirectory

/-! ## Walks on a tree -/

/-- A step on a tree leads to something that is there. -/
theorem Steps.exists_of_tree
    {links fewer : Nat}
    {here next : Location}
    {name : Name}
    {names : List Name}
    (steps : disk.Steps links here name fewer next names)
    (tree : disk.IsTree) :
    names ≠ [] ∨ ∃ entry, disk.get? next = some entry := by
  cases steps with
  | empty isDirectory =>
      obtain ⟨mode, stands⟩ := isDirectory
      exact Or.inr ⟨_, stands⟩
  | dot isOpen =>
      obtain ⟨mode, stands, -⟩ := isOpen
      exact Or.inr ⟨_, stands⟩
  | up isOpen =>
      obtain ⟨mode, stands, -⟩ := isOpen
      by_cases isRoot : above here = here
      · exact Or.inr ⟨_, isRoot.symm ▸ stands⟩
      · obtain ⟨higher, standsAbove⟩ :=
          tree.hasDirectory stands (List.dropLast_prefix here) isRoot
        exact Or.inr ⟨_, standsAbove⟩
  | down _ _ stands => exact Or.inr ⟨_, stands⟩
  | follow => exact Or.inl (Path.names_ne_nil _)

/-- Empty names lead nowhere else. -/
theorem leads_of_all_empty
    {here : Location}
    {names : List Name}
    (isDirectory : disk.HasDirectory here)
    (areEmpty : names.all (· = .text "") = true)
    (links : Nat) :
    disk.Leads links here names links here := by
  induction names with
  | nil => exact .arrived links here
  | cons name rest inductionHypothesis =>
      simp only [List.all_cons, Bool.and_eq_true, decide_eq_true_eq]
        at areEmpty
      exact .step (.empty isDirectory areEmpty.1)
        (inductionHypothesis (by simpa using areEmpty.2))

/--
What a walk on a tree finds missing is missing in a directory, under a name of its own; once a directory
stands there, the names lead to it.
-/
theorem Walks.of_missing
    {followLast : Bool}
    {links : Nat}
    {here location : Location}
    {names : List Name}
    (walks : disk.Walks followLast links here names ⟨location, none⟩)
    (tree : disk.IsTree)
    (isSomewhere : names ≠ [] ∨ ∃ entry, disk.get? here = some entry)
    (mode : Nat) :
    (∃ above name,
        location = above ++ [name] ∧
          disk.IsOpen above ∧ name.isPlain = true) ∧
      ∃ left,
        (disk.set location (.directory mode)).Leads links here names left
          location := by
  have isMissing : disk.get? location = none := walks.get?_eq
  have isMore (other : Location) (entry : Entry) :
      disk.get? other = some entry →
      (disk.set location (.directory mode)).get? other = some entry := by
    intro stands
    have isElsewhere : other ≠ location := by
      rintro rfl
      simp [isMissing] at stands
    rwa [get?_set_of_ne disk _ isElsewhere]
  generalize isFound : (⟨location, none⟩ : Found) = found at walks
  induction walks with
  | arrived links here =>
      obtain ⟨rfl, isNone⟩ := Found.mk.inj isFound
      rcases isSomewhere with notNil | ⟨entry, stands⟩
      · exact absurd rfl notNil
      · rw [stands] at isNone
        simp at isNone
  | @missing links here name rest isOpen isPlain _ areEmpty =>
      obtain ⟨rfl, -⟩ := Found.mk.inj isFound
      refine ⟨⟨here, name, rfl, isOpen, isPlain⟩, links, ?_⟩
      obtain ⟨bits, stands, mayPass⟩ := isOpen
      have standsNow := get?_set_self disk (here ++ [name]) (.directory mode)
      exact .step
        (.down ⟨bits, isMore _ _ stands, mayPass⟩ isPlain standsNow rfl)
        (leads_of_all_empty ⟨mode, standsNow⟩ areEmpty links)
  | link => simp at isFound
  | @step _ _ _ _ _ names rest _ steps _ walksOn inductionHypothesis =>
      have isSomewhere :
          names ++ rest ≠ [] ∨ ∃ entry, disk.get? _ = some entry :=
        (steps.exists_of_tree tree).imp_left fun notNil => by
          simp [notNil]
      obtain ⟨isIn, left, leads⟩ := inductionHypothesis isSomewhere isFound
      exact ⟨isIn, left, .step (steps.mono isMore) leads⟩

/-- A path that finds nothing leads to a directory once one stands there. -/
theorem leadsTo_of_locate_none
    {followLast : Bool}
    {location : Location}
    (tree : disk.IsTree)
    (locates :
      disk.locate workingDirectory followLast path = .ok ⟨location, none⟩)
    (mode : Nat) :
    (∃ above name,
        location = above ++ [name] ∧
          disk.IsOpen above ∧ name.isPlain = true) ∧
      ∃ left,
        (disk.set location (.directory mode)).LeadsTo workingDirectory path
          left location := by
  obtain ⟨-, walks⟩ := locate_eq_ok_iff.mp locates
  obtain ⟨isIn, left, leads⟩ :=
    walks.of_missing tree (Or.inl path.names_ne_nil) mode
  exact ⟨isIn, leadsTo_of_leads leads⟩

/-- A disk is still a tree when a file is opened for writing. -/
theorem IsTree.openFile
    {fresh : File}
    {change : File → File}
    (tree : disk.IsTree)
    (opens :
      disk.openFile workingDirectory path fresh change = .ok after) :
    after.IsTree := by
  rcases openFile_eq_ok opens with
    ⟨location, locates, rfl⟩ | ⟨location, file, -, rfl⟩
  · have isMissing := get?_of_locate locates
    obtain ⟨⟨above, name, rfl, isOpen, isPlain⟩, -⟩ :=
      leadsTo_of_locate_none tree locates 0
    refine tree.set isOpen.hasDirectory isPlain ?_
    rintro ⟨mode, stands⟩
    rw [isMissing] at stands
    simp at stands
  · exact tree.updateFile location change

/-- A disk is still a tree when a file is copied. -/
theorem IsTree.copyFile
    {original copy : Path}
    (tree : disk.IsTree)
    (copies : disk.copyFile workingDirectory original copy = .ok after) :
    after.IsTree := by
  obtain ⟨_, _, emptied, -, opens, ends⟩ := copyFile_eq_ok copies
  have isEmptied := tree.openFile opens
  rcases ends with ⟨_, _, -, -, rfl⟩ | ⟨-, rfl⟩
  · exact isEmptied.updateFile _ _
  · exact isEmptied

/-- What is found by following links is found without following the last one, too. -/
theorem Walks.exists_of_follow
    {links : Nat}
    {here : Location}
    {names : List Name}
    {location : Location}
    {entry : Entry}
    (walks : disk.Walks true links here names ⟨location, some entry⟩) :
    ∃ place itself,
      disk.Walks false links here names ⟨place, some itself⟩ := by
  generalize isFound : (⟨location, some entry⟩ : Found) = found at walks
  induction walks with
  | arrived links here =>
      obtain ⟨rfl, stands⟩ := Found.mk.inj isFound
      have arrives :
          disk.Walks false links location []
            ⟨location, disk.get? location⟩ :=
        .arrived links location
      rw [← stands] at arrives
      exact ⟨_, _, arrives⟩
  | missing => simp at isFound
  | link _ _ _ stays => simp at stays
  | @step _ _ here _ name names rest _ steps goesOn _ inductionHypothesis =>
      obtain ⟨place, itself, walksOn⟩ := inductionHypothesis isFound
      by_cases stops : rest = [] ∧ names ≠ []
      · obtain ⟨rfl, notNil⟩ := stops
        cases steps with
        | empty | dot | up | down => exact absurd rfl notNil
        | follow isOpen isPlain stands =>
            exact ⟨_, _, .link isOpen isPlain stands rfl⟩
      · refine ⟨place, itself, .step steps ?_ walksOn⟩
        by_cases isEnd : rest = []
        · left
          by_contra notNil
          exact stops ⟨isEnd, notNil⟩
        · exact Or.inr (Or.inl isEnd)

/-- Names lead to the same place as long as a file there is one still and everything but files stays. -/
theorem Leads.of_stays_file
    {links left : Nat}
    {here there : Location}
    {names : List Name}
    (leads : disk.Leads links here names left there)
    (stays : disk.Stays later)
    (staysFile :
      ∀ file,
        disk.get? there = some (.file file) →
        ∃ other, later.get? there = some (.file other)) :
    later.Leads links here names left there := by
  have staysDirectory {location : Location} :
      disk.HasDirectory location → later.HasDirectory location := by
    rintro ⟨mode, stands⟩
    exact ⟨mode, stays _ _ stands rfl⟩
  have staysOpen {location : Location} :
      disk.IsOpen location → later.IsOpen location := by
    rintro ⟨mode, stands, mayPass⟩
    exact ⟨mode, stays _ _ stands rfl, mayPass⟩
  induction leads with
  | arrived links here => exact .arrived links here
  | step steps leadsOn inductionHypothesis =>
      refine .step ?_ (inductionHypothesis staysFile)
      cases steps with
      | empty isDirectory isEmpty =>
          exact .empty (staysDirectory isDirectory) isEmpty
      | dot isOpen isDot => exact .dot (staysOpen isOpen) isDot
      | up isOpen isUp => exact .up (staysOpen isOpen) isUp
      | follow isOpen isPlain stands =>
          exact .follow (staysOpen isOpen) isPlain (stays _ _ stands rfl)
      | @down _ _ _ entry isOpen isPlain stands noLink =>
          cases entry with
          | directory | link =>
              exact .down (staysOpen isOpen) isPlain (stays _ _ stands rfl)
                noLink
          | file file =>
              -- Nothing is looked up in a file, so it is the place that stays one.
              rw [leadsOn.eq_of_file stands] at staysFile
              obtain ⟨other, standsNow⟩ := staysFile file stands
              exact .down (staysOpen isOpen) isPlain standsNow rfl

/-- Names lead to the same place as long as that and everything but files stays. -/
theorem Leads.of_stays
    {links left : Nat}
    {here there : Location}
    {names : List Name}
    (leads : disk.Leads links here names left there)
    (stays : disk.Stays later)
    (isSame : later.get? there = disk.get? there) :
    later.Leads links here names left there :=
  leads.of_stays_file stays fun file stands =>
    ⟨file, isSame.trans stands⟩

/-- A path that finds a file finds the one that stands there later, as long as everything but files stays. -/
theorem entryAt_of_stays_file
    {location : Location}
    {file other : File}
    (finds :
      disk.entryAt workingDirectory true path = .ok (location, .file file))
    (stays : disk.Stays later)
    (stands : later.get? location = some (.file other)) :
    later.entryAt workingDirectory true path =
      .ok (location, .file other) := by
  obtain ⟨isUsable, walks⟩ :=
    locate_eq_ok_iff.mp (entryAt_eq_ok_iff.mp finds)
  obtain ⟨⟨left, leads⟩, -⟩ := walks.leads
  have walksNow :=
    (leads.of_stays_file stays fun _ _ => ⟨other, stands⟩).walks
  rw [stands] at walksNow
  exact entryAt_eq_ok_iff.mpr (locate_eq_ok_iff.mpr ⟨isUsable, walksNow⟩)

/-- A path finds the same entry as long as that and everything but files stays. -/
theorem entryAt_of_stays
    {location : Location}
    {entry : Entry}
    (finds :
      disk.entryAt workingDirectory true path = .ok (location, entry))
    (stays : disk.Stays later)
    (isSame : later.get? location = disk.get? location) :
    later.entryAt workingDirectory true path = .ok (location, entry) := by
  obtain ⟨isUsable, walks⟩ :=
    locate_eq_ok_iff.mp (entryAt_eq_ok_iff.mp finds)
  obtain ⟨⟨left, leads⟩, stands⟩ := walks.leads
  have walksNow := (leads.of_stays stays isSame).walks
  rw [isSame, stands] at walksNow
  exact entryAt_eq_ok_iff.mpr (locate_eq_ok_iff.mpr ⟨isUsable, walksNow⟩)

/-- Everything but files stays when a file is taken away. -/
theorem stays_erase
    {location : Location}
    {file : File}
    (isFile : disk.get? location = some (.file file)) :
    disk.Stays (disk.erase location) := by
  intro other entry stands notFile
  have isElsewhere : other ≠ location := by
    rintro rfl
    rw [isFile] at stands
    obtain rfl := Option.some.inj stands
    simp [Entry.isFile] at notFile
  rwa [get?_erase_of_ne disk isElsewhere]

/-! ## What is listed once -/

/-- No location has more than one entry. -/
def ListsOnce (disk : Disk) : Prop :=
  (disk.entries.map Prod.fst).Nodup

instance (disk : Disk) : Decidable disk.ListsOnce :=
  inferInstanceAs (Decidable (List.Nodup _))

/-- An entry that is listed once is what stands at its location. -/
theorem ListsOnce.get?_eq
    {location : Location}
    {entry : Entry}
    (once : disk.ListsOnce)
    (member : (location, entry) ∈ disk.entries) :
    disk.get? location = some entry := by
  obtain ⟨before, rest, isSplit⟩ := List.append_of_mem member
  refine List.lookup_eq_some_iff.mpr ⟨before, rest, isSplit, ?_⟩
  intro item isBefore
  rw [ListsOnce, isSplit, List.map_append] at once
  have isOther :=
    (List.nodup_append.mp once).2.2 item.1 (List.mem_map_of_mem isBefore)
      location (by simp)
  simpa using isOther.symm

/-- An entry that is put at a location is the only one there. -/
theorem ListsOnce.set
    (once : disk.ListsOnce)
    (location : Location)
    (entry : Entry) :
    (disk.set location entry).ListsOnce := by
  refine List.nodup_cons.mpr ⟨?_, ?_⟩
  · simp [Keyed.drop]
  · exact once.sublist (List.filter_sublist.map _)

/-- What is left after an entry was taken away stands only once. -/
theorem ListsOnce.erase
    (once : disk.ListsOnce)
    (location : Location) :
    (disk.erase location).ListsOnce :=
  once.sublist (List.filter_sublist.map _)

/-- What is left of a directory that is emptied stands only once. -/
theorem ListsOnce.emptied
    (once : disk.ListsOnce)
    (location : Location) :
    (disk.emptied location).ListsOnce := by
  rw [Disk.emptied]
  generalize (disk.clearing location).takeWhile _ = items
  induction items generalizing disk with
  | nil => exact once
  | cons item rest inductionHypothesis =>
      exact inductionHypothesis (once.erase _)

/-- Files that change stand only once. -/
theorem ListsOnce.updateFile
    (once : disk.ListsOnce)
    (location : Location)
    (change : File → File) :
    (disk.updateFile location change).ListsOnce := by
  unfold Disk.updateFile
  split
  · split
    · exact once.set _ _
    · rw [ListsOnce, List.map_map]
      refine cast (congrArg List.Nodup ?_) once
      refine List.map_congr_left fun item _ => ?_
      obtain ⟨place, entry⟩ := item
      cases entry with
      | file other =>
          simp only [Function.comp]
          split <;> rfl
      | directory | link => rfl
  · exact once

/-- What stands on a disk stands there only once after a file was opened. -/
theorem ListsOnce.openFile
    {fresh : File}
    {change : File → File}
    (once : disk.ListsOnce)
    (opens :
      disk.openFile workingDirectory path fresh change = .ok after) :
    after.ListsOnce := by
  rcases openFile_eq_ok opens with ⟨_, -, rfl⟩ | ⟨_, _, -, rfl⟩
  · exact once.set _ _
  · exact once.updateFile _ _

/-- What stands on a disk stands there only once after a file was copied. -/
theorem ListsOnce.copyFile
    {original copy : Path}
    (once : disk.ListsOnce)
    (copies : disk.copyFile workingDirectory original copy = .ok after) :
    after.ListsOnce := by
  obtain ⟨_, _, emptied, -, opens, ⟨_, _, -, -, rfl⟩ | ⟨-, rfl⟩⟩ :=
    copyFile_eq_ok copies
  · exact (once.openFile opens).updateFile _ _
  · exact once.openFile opens

/-- What stands on a disk stands there only once after a directory was made. -/
theorem ListsOnce.makeDirectory
    {mode : Nat}
    (once : disk.ListsOnce)
    (makes : disk.makeDirectory workingDirectory path mode = .ok after) :
    after.ListsOnce := by
  obtain ⟨_, -, rfl⟩ := makeDirectory_eq_ok makes
  exact once.set _ _

/-- What stands on a disk stands there only once after a tree was removed. -/
theorem ListsOnce.removeTree
    (once : disk.ListsOnce)
    (removes : disk.removeTree workingDirectory path = .ok after) :
    after.ListsOnce := by
  unfold Disk.removeTree at removes
  split at removes
  · simp at removes
  · split at removes
    · obtain ⟨_, _, -, rfl⟩ := removeDirectory_eq_ok removes
      exact (once.emptied _).erase _
    · simp at removes
  · split at removes
    · exact Except.ok.inj removes ▸ once.erase _
    · simp at removes
  · simp at removes

/-- What is left where a tree could not be removed stands only once. -/
theorem ListsOnce.leftOver
    (once : disk.ListsOnce)
    (workingDirectory : Location)
    (path : Path) :
    (disk.leftOver workingDirectory path).ListsOnce := by
  unfold Disk.leftOver
  split
  · exact once.emptied _
  · exact once

/-- What is in a directory is what stands one name below it. -/
theorem mem_children_iff
    {location : Location}
    {name : Name}
    {entry : Entry} :
    (name, entry) ∈ disk.children location ↔
      (location ++ [name], entry) ∈ disk.entries := by
  rw [children, List.mem_filterMap]
  constructor
  · rintro ⟨⟨place, found⟩, member, isChild⟩
    dsimp only at isChild
    split at isChild
    · rename_i last isLast
      split at isChild
      · rename_i isHere
        obtain ⟨rfl, rfl⟩ := Prod.mk.inj (Option.some.inj isChild)
        obtain ⟨before, rfl⟩ := List.getLast?_eq_some_iff.mp isLast
        rw [List.dropLast_concat] at isHere
        exact isHere ▸ member
      · simp at isChild
    · simp at isChild
  · intro member
    exact ⟨_, member, by simp⟩

/-- Names that are sorted are the same names. -/
theorem sortedChildren_perm
    (disk : Disk)
    (location : Location) :
    (disk.sortedChildren location).Perm (disk.children location) := by
  have inserts (child : Name × Entry) (items : List (Name × Entry)) :
      (insertChild child items).Perm (child :: items) := by
    induction items with
    | nil => exact .refl _
    | cons first rest inductionHypothesis =>
        rw [insertChild]
        split
        · exact .refl _
        · exact (inductionHypothesis.cons first).trans (.swap child first rest)
  rw [sortedChildren]
  induction disk.children location with
  | nil => exact .refl _
  | cons child rest inductionHypothesis =>
      exact (inserts child _).trans (inductionHypothesis.cons child)

/-- The names in a directory are different. -/
theorem ListsOnce.nodup_children
    (once : disk.ListsOnce)
    (location : Location) :
    ((disk.children location).map Prod.fst).Nodup := by
  have isChildren :
      (disk.children location).map Prod.fst =
        (disk.entries.map Prod.fst).filterMap fun place =>
          if place.dropLast = location then place.getLast? else none := by
    rw [children, List.map_filterMap, List.filterMap_map]
    congr 1
    funext item
    dsimp only [Function.comp]
    cases item.1.getLast? with
    | none => simp
    | some name => exact apply_ite (Option.map Prod.fst) _ _ _
  rw [isChildren]
  refine List.Pairwise.filterMap _ (fun place other isOther => ?_) once
  rintro name isName _ isLast rfl
  simp only [Option.ite_none_right_eq_some, List.getLast?_eq_some_iff]
    at isName isLast
  obtain ⟨rfl, before, rfl⟩ := isName
  obtain ⟨isSame, above, rfl⟩ := isLast
  rw [List.dropLast_concat, List.dropLast_concat] at isSame
  exact isOther (congrArg (· ++ [name]) isSame.symm)

/-- A directory is listed with the kind of each thing in it, and nothing is listed twice. -/
theorem ListsOnce.listDirectory
    {items : List (Name × Kind)}
    (once : disk.ListsOnce)
    (lists : disk.listDirectory workingDirectory path = .ok items) :
    ∃ place mode,
      disk.entryAt workingDirectory true path =
          .ok (place, .directory mode) ∧
        (items.map Prod.fst).Nodup ∧
          ∀ name kind,
            (name, kind) ∈ items ↔
              ∃ entry,
                disk.get? (place ++ [name]) = some entry ∧
                  kindOf entry = kind := by
  unfold Disk.listDirectory at lists
  split at lists
  · rename_i place mode finds
    split at lists
    · obtain rfl := Except.ok.inj lists
      have isPerm := disk.sortedChildren_perm place
      refine ⟨place, mode, finds, ?_, fun name kind => ?_⟩
      · rw [List.map_map]
        exact (isPerm.map Prod.fst).nodup_iff.mpr (once.nodup_children place)
      · rw [List.mem_map]
        constructor
        · rintro ⟨⟨child, entry⟩, member, isItem⟩
          obtain ⟨rfl, rfl⟩ := Prod.mk.inj isItem
          exact ⟨entry,
            once.get?_eq (mem_children_iff.mp (isPerm.mem_iff.mp member)), rfl⟩
        · rintro ⟨entry, stands, rfl⟩
          exact ⟨(name, entry),
            isPerm.mem_iff.mpr
              (mem_children_iff.mpr (mem_entries_of_get? stands)), rfl⟩
    · simp at lists
  · simp at lists
  · simp at lists

end Provision.Disk
