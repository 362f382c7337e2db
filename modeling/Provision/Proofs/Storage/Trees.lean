import Provision.Proofs.Storage.Copying

namespace Provision

/-!
# Trees that are copied

A directory is copied with all that it holds to another one in which none of its names is there.  What has
been copied stays as more is copied, so afterwards each thing in the directory stands in the other one,
too, and every file holds what it held before.
-/

open Plan

namespace Path

/-- The path of something below a directory. -/
def below (directory : Path) (names : List Name) : Path :=
  names.foldl child directory

/-- Something below a directory is in the directory or below an entry of it. -/
theorem below_cons
    (directory : Path)
    (name : Name)
    (rest : List Name) :
    directory.below (name :: rest) = (directory.child name).below rest :=
  rfl

/-- Something directly below a directory is an entry of it. -/
theorem below_singleton
    (directory : Path)
    (name : Name) :
    directory.below [name] = directory.child name :=
  rfl

/-- Something in what is below a directory is below the directory. -/
theorem below_concat
    (directory : Path)
    (names : List Name)
    (name : Name) :
    directory.below (names ++ [name]) = (directory.below names).child name := by
  rw [below, List.foldl_append]
  rfl

/-- Something below a directory has the segments of the directory and its own names. -/
theorem closedSegments_below
    (directory : Path)
    {names : List Name}
    (areNamed : ∀ name ∈ names, name ≠ .text "") :
    (directory.below names).closedSegments =
      directory.closedSegments ++ names := by
  induction names generalizing directory with
  | nil => exact (List.append_nil _).symm
  | cons name rest inductionHypothesis =>
      obtain ⟨isNamed, restIsNamed⟩ := List.forall_mem_cons.mp areNamed
      rw [below_cons, inductionHypothesis _ restIsNamed,
        closedSegments_child directory isNamed, List.append_assoc]
      rfl

/-- Something below a directory is no deeper there than its path is long. -/
theorem length_le_pathBytes
    {directory : Path}
    {names : List Name}
    (notEmpty : directory ≠ empty)
    (areNamed : ∀ name ∈ names, name ≠ .text "") :
    names.length ≤ Disk.pathBytes (directory.below names) := by
  have isLong : 1 ≤ directory.closedSegments.length := by
    rcases directory.closedSegments_cases with
      ⟨isEmpty, -⟩ | ⟨rest, isClosed, -⟩
    · exact absurd isEmpty notEmpty
    · simp [isClosed]
  have isShort :
      (directory.below names).closedSegments.length ≤
        (directory.below names).segments.length := by
    rw [closedSegments]
    split <;> simp
  have isLength :
      (directory.below names).segments.length =
        (directory.below names).rest.length + 1 := by
    simp [segments]
  rw [directory.closedSegments_below areNamed, List.length_append] at isShort
  rw [Disk.pathBytes]
  omega

/-- A path in a directory goes up only at its start if the directory does, and its own names never do. -/
theorem UpFirst.join
    {directory path : Path}
    (upFirst : directory.UpFirst)
    (isRelative : path.isAbsolute = false)
    (noUps : ∀ name ∈ path.segments, name.isUp = false) :
    (directory.join path).UpFirst := by
  have isWay : directory.way <+: directory.names := by
    rcases directory.names_eq_way with isNames | isNames
    · exact isNames ▸ List.prefix_rfl
    · exact isNames ▸ List.prefix_append _ _
  rw [UpFirst, names_join directory isRelative, List.pairwise_append]
  refine ⟨upFirst.sublist isWay.sublist, ?_, ?_⟩
  · refine List.pairwise_of_forall_mem_list fun _ _ name member isUp => ?_
    simp [noUps name member] at isUp
  · intro _ _ name member isUp
    simp [noUps name member] at isUp

/-- An entry of a directory goes up only at its start if the directory does, and its name leads down. -/
theorem UpFirst.child
    {directory : Path}
    {name : Name}
    (upFirst : directory.UpFirst)
    (notUp : name.isUp = false) :
    (directory.child name).UpFirst :=
  upFirst.join (isAbsolute_single name) fun other member => by
    rwa [List.mem_singleton.mp member]

end Path

namespace Disk

variable {disk middle later last : Disk}
variable {workingDirectory : Location}
variable {source target : Path}
variable {origin goal : Location}
variable {name : Name}

/-! ## Entries of directories -/

/-- A name leads down to what stands under it if that is no link. -/
theorem Leads.eq_child
    {links left : Nat}
    {here there : Location}
    (leads : disk.Leads links here [name] left there)
    (isPlain : name.isPlain = true)
    (notLink : ∀ target, disk.get? (here ++ [name]) ≠ some (.link target)) :
    there = here ++ [name] := by
  obtain ⟨-, -, -, notHere, notUp, -⟩ := not_special_of_isPlain isPlain
  refine leads.eq_append_of_no_links ?_ fun first isPrefix notNil => ?_
  · intro other member
    rw [List.mem_singleton.mp member]
    exact ⟨notHere, notUp⟩
  · obtain rfl : first = [name] :=
      isPrefix.eq_of_length
        (le_antisymm isPrefix.length_le (List.length_pos_iff.mpr notNil))
    exact notLink

/-- A name leads nowhere if nothing stands under it. -/
theorem not_leads_of_missing
    {links left : Nat}
    {here there : Location}
    (isPlain : name.isPlain = true)
    (isMissing : disk.get? (here ++ [name]) = none) :
    ¬disk.Leads links here [name] left there := by
  intro leads
  cases leads with
  | step steps =>
      rcases steps.cases_of_isPlain isPlain with
        ⟨-, -, -, _, stands, -⟩ | ⟨_, -, -, -, stands⟩ <;>
      · rw [isMissing] at stands
        simp at stands

/-- The path of an entry that is no link leads to it if the path of its directory leads there. -/
theorem eq_of_leadsTo_child
    {directory : Path}
    {left left' : Nat}
    {there place : Location}
    (leads : disk.LeadsTo workingDirectory directory left there)
    (isPlain : name.isPlain = true)
    (notLink : ∀ target, disk.get? (there ++ [name]) ≠ some (.link target))
    (leadsOn :
      disk.LeadsTo workingDirectory (directory.child name) left' place) :
    place = there ++ [name] := by
  obtain ⟨_, between, ledTo, leadsChild⟩ :=
    (leadsTo_child_iff (not_special_of_isPlain isPlain).1).mp leadsOn
  obtain rfl : between = there := (leads.unique ledTo).2
  exact leadsChild.eq_child isPlain notLink

/-! ## Places apart -/

/-- Neither of two places lies in the other one. -/
def AreApart (place other : Location) : Prop :=
  ¬place <+: other ∧ ¬other <+: place

/-- What lies in one of two places that are apart does not lie in the other one. -/
theorem AreApart.not_below
    {place other : Location}
    (areApart : AreApart place other)
    (below : List Name) :
    ¬other <+: place ++ below := by
  intro isBelow
  rcases List.prefix_or_prefix_of_prefix isBelow
    (List.prefix_append place below) with isAbove | isAbove
  · exact areApart.2 isAbove
  · exact areApart.1 isAbove

/-- Places apart stay apart when names are followed from them. -/
theorem AreApart.append
    {place other : Location}
    (areApart : AreApart place other)
    (below rest : List Name) :
    AreApart (place ++ below) (other ++ rest) :=
  ⟨fun isBelow =>
      AreApart.not_below ⟨areApart.2, areApart.1⟩ rest
        ((List.prefix_append place below).trans isBelow),
    fun isBelow =>
      areApart.not_below below
        ((List.prefix_append other rest).trans isBelow)⟩

/-! ## Copies -/

/-- A path leads to a file with this content at a location, and its owner may read it. -/
def FindsFile
    (disk : Disk)
    (workingDirectory : Location)
    (path : Path)
    (location : Location)
    (content : Bytes) :
    Prop :=
  ∃ file,
    disk.entryAt workingDirectory true path = .ok (location, .file file) ∧
      (Entry.file file).allows .read = true ∧ file.content = content

/-- A file that is found is read. -/
theorem FindsFile.readFile
    {path : Path}
    {location : Location}
    {content : Bytes}
    (findsFile : disk.FindsFile workingDirectory path location content) :
    disk.readFile workingDirectory path = .ok content := by
  obtain ⟨file, finds, mayRead, rfl⟩ := findsFile
  rw [Disk.readFile, finds]
  exact if_pos mayRead

/-- A file that is found is found on a disk with more. -/
theorem FindsFile.of_within
    {path : Path}
    {location : Location}
    {content : Bytes}
    (findsFile : disk.FindsFile workingDirectory path location content)
    (within : disk.Within later) :
    later.FindsFile workingDirectory path location content :=
  findsFile.imp fun _ found => found.imp_left fun finds =>
    entryAt_mono finds within

/-- A file that is found is found as long as it and everything but files stays. -/
theorem FindsFile.of_stays
    {path : Path}
    {location : Location}
    {content : Bytes}
    (findsFile : disk.FindsFile workingDirectory path location content)
    (stays : disk.Stays later)
    (isSame : later.get? location = disk.get? location) :
    later.FindsFile workingDirectory path location content :=
  findsFile.imp fun _ found => found.imp_left fun finds =>
    entryAt_of_stays finds stays isSame

/-- A file that has come and can be read is found. -/
theorem GainsFile.findsFile
    {left : Nat}
    {there : Location}
    {file : File}
    {directory : Path}
    {content : Bytes}
    (gains : disk.GainsFile later there name file)
    (leads : disk.LeadsTo workingDirectory directory left there)
    (isPlain : name.isPlain = true)
    (reads :
      later.readFile workingDirectory (directory.child name) =
        .ok content) :
    later.FindsFile workingDirectory (directory.child name)
      (there ++ [name]) content := by
  obtain ⟨location, found, isFound, -⟩ := exists_of_readFile_eq_ok reads
  have isUsable :=
    (locate_eq_ok_iff.mp (entryAt_eq_ok_iff.mp isFound)).1
  have finds :=
    entryAt_eq_ok_iff.mpr (gains.locate leads isPlain isUsable)
  rw [Disk.readFile, finds] at reads
  dsimp only at reads
  split at reads
  · rename_i mayRead
    exact ⟨file, finds, mayRead, Except.ok.inj reads⟩
  · simp at reads

/-- What stands at and below one place has been copied to another place of a later disk. -/
structure CopiesTo
    (disk later : Disk)
    (workingDirectory : Location)
    (source target : Path)
    (origin goal : Location) :
    Prop where
  areAlike :
    ∀ below,
      (later.get? (goal ++ below)).map Entry.isDirectory =
        (disk.get? (origin ++ below)).map Entry.isDirectory
  holdFiles :
    ∀ below file,
      disk.get? (origin ++ below) = some (.file file) →
      later.FindsFile workingDirectory (target.below below) (goal ++ below)
        file.content
  holdSame :
    ∀ below content,
      disk.get? (origin ++ below) ≠ none →
      disk.readFile workingDirectory (source.below below) = .ok content →
      later.FindsFile workingDirectory (target.below below) (goal ++ below)
        content

/-- Copies are still there on a disk with more, if nothing more is in them. -/
theorem CopiesTo.of_later
    (copies :
      disk.CopiesTo later workingDirectory source target origin goal)
    (within : later.Within last)
    (isSame : ∀ below, last.get? (goal ++ below) = later.get? (goal ++ below)) :
    disk.CopiesTo last workingDirectory source target origin goal where
  areAlike := fun below =>
    (congrArg (Option.map Entry.isDirectory) (isSame below)).trans
      (copies.areAlike below)
  holdFiles := fun below file stands =>
    (copies.holdFiles below file stands).of_within within
  holdSame := fun below content isThere reads =>
    (copies.holdSame below content isThere reads).of_within within

/-- Copies of what has stayed the same are copies of what it was. -/
theorem CopiesTo.of_earlier
    (copies :
      middle.CopiesTo later workingDirectory source target origin goal)
    (within : disk.Within middle)
    (isSame :
      ∀ below, middle.get? (origin ++ below) = disk.get? (origin ++ below)) :
    disk.CopiesTo later workingDirectory source target origin goal where
  areAlike := fun below =>
    (copies.areAlike below).trans
      (congrArg (Option.map Entry.isDirectory) (isSame below))
  holdFiles := fun below file stands =>
    copies.holdFiles below file ((isSame below).trans stands)
  holdSame := fun below content isThere reads =>
    copies.holdSame below content (isSame below ▸ isThere)
      (within.readFile reads)

/-- A file that stands in a directory is what is read there. -/
theorem content_eq_of_readFile
    {file : File}
    {content : Bytes}
    (isPlain : name.isPlain = true)
    (comesFrom :
      ∀ left place,
        disk.LeadsTo workingDirectory source left place → place = origin)
    (stands : disk.get? (origin ++ [name]) = some (.file file))
    (reads :
      disk.readFile workingDirectory (source.child name) = .ok content) :
    content = file.content := by
  obtain ⟨location, found, finds, isContent⟩ := exists_of_readFile_eq_ok reads
  obtain ⟨left, there, leads, walks⟩ :=
    leadsTo_of_locate_child (not_special_of_isPlain isPlain).1
      (entryAt_eq_ok_iff.mp finds)
  obtain rfl := comesFrom left there leads
  obtain ⟨-, ⟨isFound, -⟩ | ⟨-, _, link, -, isLink, -⟩⟩ :=
    walks.cases_of_isPlain isPlain
  · obtain ⟨-, isFile⟩ := Found.mk.inj isFound
    rw [stands] at isFile
    obtain rfl := Entry.file.inj (Option.some.inj isFile)
    exact isContent.symm
  · rw [stands] at isLink
    simp at isLink

/-- A file that is copied to a missing entry is a copy of what is no directory. -/
theorem copiesTo_of_copyFile
    {entry : Entry}
    (tree : disk.IsTree)
    (isPlain : name.isPlain = true)
    (stands : disk.get? (origin ++ [name]) = some entry)
    (notDirectory : entry.isDirectory = false)
    (comesFrom :
      ∀ left place,
        disk.LeadsTo workingDirectory source left place → place = origin)
    (leads : ∃ left, disk.LeadsTo workingDirectory target left goal)
    (lacks : disk.LacksChild workingDirectory target name)
    (copies :
      disk.copyFile workingDirectory (source.child name)
          (target.child name) =
        .ok later) :
    later.IsTree ∧ disk.Within later ∧
      disk.CopiesTo later workingDirectory (source.child name)
          (target.child name) (origin ++ [name]) (goal ++ [name]) ∧
        ∀ location,
          later.get? location = disk.get? location ∨
            goal ++ [name] <+: location := by
  obtain ⟨content, left, there, file, reads, ledTo, gains, readsCopy⟩ :=
    lacks.copyFile isPlain copies
  obtain ⟨_, leads⟩ := leads
  obtain rfl : there = goal := (leads.unique ledTo).2
  have isTree := tree.of_gainsFile isPlain gains
  have noDirectory : ¬disk.HasDirectory (origin ++ [name]) := by
    rintro ⟨mode, isDirectory⟩
    rw [stands] at isDirectory
    obtain rfl := Option.some.inj isDirectory
    simp [Entry.isDirectory] at notDirectory
  have isMissing (below : List Name) (notNil : below ≠ []) :
      disk.get? (origin ++ [name] ++ below) = none :=
    tree.get?_eq_none noDirectory (List.prefix_append _ _)
      (by simpa using notNil)
  refine ⟨isTree, gains.within, ⟨fun below => ?_, ?_, ?_⟩,
    fun location => ?_⟩
  · by_cases isNil : below = []
    · rw [isNil, List.append_nil, List.append_nil, gains.stands, stands,
        Option.map_some, Option.map_some, notDirectory]
      rfl
    · have notFile : ¬later.HasDirectory (there ++ [name]) := by
        rintro ⟨mode, isDirectory⟩
        rw [gains.stands] at isDirectory
        simp at isDirectory
      rw [isMissing below isNil,
        isTree.get?_eq_none notFile (List.prefix_append _ _)
          (by simpa using isNil)]
  · intro below bundled standsBelow
    by_cases isNil : below = []
    · subst isNil
      rw [List.append_nil] at standsBelow
      obtain rfl := content_eq_of_readFile isPlain comesFrom standsBelow reads
      rw [List.append_nil]
      exact gains.findsFile ledTo isPlain readsCopy
    · rw [isMissing below isNil] at standsBelow
      simp at standsBelow
  · intro below other isThere readsBelow
    by_cases isNil : below = []
    · subst isNil
      obtain rfl := Except.ok.inj (reads.symm.trans readsBelow)
      rw [List.append_nil]
      exact gains.findsFile ledTo isPlain readsCopy
    · exact absurd (isMissing below isNil) isThere
  · by_cases isHere : location = there ++ [name]
    · exact Or.inr (isHere ▸ List.prefix_rfl)
    · exact Or.inl (gains.isSame location isHere)

/-! ## Directories that are copied -/

/--
A directory can be copied to another one.  Their paths lead to these places wherever they lead somewhere,
neither place lies in the other one, and no name in the first directory is there in the second one.
-/
structure ReadyToCopy
    (disk : Disk)
    (workingDirectory : Location)
    (source target : Path)
    (origin goal : Location) :
    Prop where
  isTree : disk.IsTree
  listsOnce : disk.ListsOnce
  isNamed : target ≠ Path.empty
  upFirst : target.UpFirst
  comesFrom :
    ∀ later left place,
      disk.Within later →
      later.LeadsTo workingDirectory source left place →
      place = origin
  goesTo :
    ∀ later left place,
      disk.GainsDirectories later place →
      later.LeadsTo workingDirectory target left place →
      place = goal
  areApart : AreApart origin goal
  lacks :
    disk.HasDirectory goal →
    ∀ name,
      disk.get? (origin ++ [name]) ≠ none →
      disk.LacksChild workingDirectory target name

/-- What is in a directory has been copied to another directory, and nothing else has changed. -/
structure CopiesInto
    (disk later : Disk)
    (workingDirectory : Location)
    (source target : Path)
    (origin goal : Location) :
    Prop where
  isTree : later.IsTree
  listsOnce : later.ListsOnce
  within : disk.Within later
  leads : ∃ left, later.LeadsTo workingDirectory target left goal
  isDirectory : later.HasDirectory goal
  copies :
    ∀ name,
      disk.get? (origin ++ [name]) ≠ none →
      disk.CopiesTo later workingDirectory (source.child name)
        (target.child name) (origin ++ [name]) (goal ++ [name])
  elsewhere :
    ∀ location,
      later.get? location = disk.get? location ∨
        (disk.get? location = none ∧ location <+: goal) ∨
          ∃ name,
            disk.get? (origin ++ [name]) ≠ none ∧
              goal ++ [name] <+: location

/-- A directory that has been copied to a new one has a copy there. -/
theorem CopiesInto.copiesTo
    (copies :
      disk.CopiesInto later workingDirectory source target origin goal)
    (tree : disk.IsTree)
    (isDirectory : disk.HasDirectory origin)
    (isNew : disk.get? goal = none)
    (notFile :
      ∀ content, disk.readFile workingDirectory source ≠ .ok content) :
    disk.CopiesTo later workingDirectory source target origin goal := by
  refine ⟨fun below => ?_, fun below file stands => ?_,
    fun below content isThere reads => ?_⟩
  · cases below with
    | nil =>
        obtain ⟨_, stands⟩ := isDirectory
        obtain ⟨_, standsNow⟩ := copies.isDirectory
        rw [List.append_nil, List.append_nil, stands, standsNow]
        rfl
    | cons name rest =>
        rw [List.append_cons, List.append_cons origin]
        by_cases isNone : disk.get? (origin ++ [name]) = none
        · rw [tree.missing_below isNone]
          rcases copies.elsewhere (goal ++ [name] ++ rest) with
            isSame | ⟨-, isAbove⟩ | ⟨other, isOther, isBelow⟩
          · rw [isSame, List.append_assoc, tree.missing_below isNew]
          · have isShort := isAbove.length_le
            simp only [List.length_append, List.length_cons,
              List.length_nil] at isShort
            omega
          · obtain rfl : other = name := by
              rw [List.append_assoc,
                List.prefix_append_right_inj] at isBelow
              exact (List.cons_prefix_cons.mp isBelow).1
            exact absurd isNone isOther
        · exact (copies.copies name isNone).areAlike rest
  · cases below with
    | nil =>
        obtain ⟨_, isOrigin⟩ := isDirectory
        rw [List.append_nil, isOrigin] at stands
        simp at stands
    | cons name rest =>
        rw [List.append_cons] at stands ⊢
        have isThere : disk.get? (origin ++ [name]) ≠ none := by
          intro isNone
          rw [tree.missing_below isNone] at stands
          simp at stands
        exact (copies.copies name isThere).holdFiles rest file stands
  · cases below with
    | nil => exact absurd reads (notFile content)
    | cons name rest =>
        rw [List.append_cons] at isThere
        exact
          List.append_cons goal name rest ▸
            (copies.copies name
                (mt (tree.missing_below · rest) isThere)).holdSame
              rest content isThere reads

/--
Things that are listed in a directory can be copied to another directory, in which none of their names is
there.
-/
structure ReadyForItems
    (disk : Disk)
    (workingDirectory : Location)
    (source target : Path)
    (origin goal : Location)
    (items : List (Name × Kind)) :
    Prop where
  isTree : disk.IsTree
  listsOnce : disk.ListsOnce
  upFirst : target.UpFirst
  comesFrom :
    ∀ later left place,
      disk.Within later →
      later.LeadsTo workingDirectory source left place →
      place = origin
  leads : ∃ left, disk.LeadsTo workingDirectory target left goal
  isDirectory : disk.HasDirectory goal
  areApart : AreApart origin goal
  areListed :
    ∀ name kind,
      (name, kind) ∈ items →
      ∃ entry,
        disk.get? (origin ++ [name]) = some entry ∧ kindOf entry = kind
  areDifferent : (items.map Prod.fst).Nodup
  lacks :
    ∀ name ∈ items.map Prod.fst,
      disk.LacksChild workingDirectory target name

/-- Things with some names have been copied from one directory to another one, and nothing else has changed. -/
structure CopiesEach
    (disk later : Disk)
    (workingDirectory : Location)
    (source target : Path)
    (origin goal : Location)
    (names : List Name) :
    Prop where
  isTree : later.IsTree
  listsOnce : later.ListsOnce
  within : disk.Within later
  copies :
    ∀ name ∈ names,
      disk.CopiesTo later workingDirectory (source.child name)
        (target.child name) (origin ++ [name]) (goal ++ [name])
  elsewhere :
    ∀ location,
      later.get? location = disk.get? location ∨
        ∃ name ∈ names, goal ++ [name] <+: location

/-- What is copied after a thing with another name leaves the copy of that thing as it is. -/
theorem CopiesEach.cons
    {names : List Name}
    (each :
      middle.CopiesEach later workingDirectory source target origin goal
        names)
    (areApart : AreApart origin goal)
    (isOther : name ∉ names)
    (within : disk.Within middle)
    (copies :
      disk.CopiesTo middle workingDirectory (source.child name)
        (target.child name) (origin ++ [name]) (goal ++ [name]))
    (elsewhere :
      ∀ location,
        middle.get? location = disk.get? location ∨
          goal ++ [name] <+: location) :
    disk.CopiesEach later workingDirectory source target origin goal
      (name :: names) where
  isTree := each.isTree
  listsOnce := each.listsOnce
  within := within.trans each.within
  copies := by
    intro other member
    rcases List.mem_cons.mp member with rfl | inRest
    · refine copies.of_later each.within fun below => ?_
      rcases each.elsewhere (goal ++ [other] ++ below) with
        isSame | ⟨another, inRest, isBelow⟩
      · exact isSame
      · rw [List.append_assoc, List.prefix_append_right_inj] at isBelow
        obtain rfl := (List.cons_prefix_cons.mp isBelow).1
        exact absurd inRest isOther
    · refine (each.copies other inRest).of_earlier within fun below => ?_
      refine (elsewhere _).resolve_right fun isBelow => ?_
      rw [List.append_assoc] at isBelow
      exact areApart.not_below ([other] ++ below)
        ((List.prefix_append _ _).trans isBelow)
  elsewhere := by
    intro location
    rcases each.elsewhere location with isSame | ⟨other, inRest, isBelow⟩
    · exact (elsewhere location).imp isSame.trans fun isBelow =>
        ⟨name, .head _, isBelow⟩
    · exact Or.inr ⟨other, .tail _ inRest, isBelow⟩

namespace ReadyForItems

variable {kind : Kind}
variable {items : List (Name × Kind)}

/-- The names of the things in a directory are plain. -/
theorem isPlain
    (ready :
      disk.ReadyForItems workingDirectory source target origin goal
        ((name, kind) :: items)) :
    name.isPlain = true := by
  obtain ⟨entry, stands, -⟩ := ready.areListed name kind (.head _)
  exact (ready.isTree _ _ stands).2 name (by simp)

/-- A directory in the first directory can be copied to the second one. -/
theorem child
    (ready :
      disk.ReadyForItems workingDirectory source target origin goal
        ((name, .directory) :: items)) :
    disk.ReadyToCopy workingDirectory (source.child name) (target.child name)
      (origin ++ [name]) (goal ++ [name]) := by
  have isPlain := ready.isPlain
  obtain ⟨notEmpty, -, -, -, notUp, -⟩ := not_special_of_isPlain isPlain
  obtain ⟨left, leads⟩ := ready.leads
  have isMissing : disk.get? (goal ++ [name]) = none :=
    (ready.lacks name (by simp) left goal leads).2
  refine ⟨ready.isTree, ready.listsOnce, child_ne_empty target notEmpty,
    ready.upFirst.child notUp, ?_, ?_,
    ready.areApart.append [name] [name], ?_⟩
  · intro later left place within leadsOn
    obtain ⟨middle, between, ledTo, -⟩ :=
      (leadsTo_child_iff notEmpty).mp leadsOn
    obtain rfl := ready.comesFrom later middle between within ledTo
    refine eq_of_leadsTo_child ledTo isPlain (fun link isLink => ?_) leadsOn
    obtain ⟨entry, stands, isKind⟩ := ready.areListed name _ (.head _)
    rw [within _ _ stands] at isLink
    obtain rfl := Option.some.inj isLink
    simp [kindOf] at isKind
  · intro later left place gains leadsOn
    have ledTo := leads.mono fun _ _ => gains.get?
    refine eq_of_leadsTo_child ledTo isPlain (fun link isLink => ?_) leadsOn
    rcases gains (goal ++ [name]) with isSame | ⟨-, ⟨mode, stands⟩, -⟩
    · rw [isSame, isMissing] at isLink
      simp at isLink
    · rw [stands] at isLink
      simp at isLink
  · intro _ other _ left place leadsOn
    obtain ⟨_, between, ledTo, leadsChild⟩ :=
      (leadsTo_child_iff notEmpty).mp leadsOn
    obtain rfl : between = goal := (leads.unique ledTo).2
    exact absurd leadsChild (not_leads_of_missing isPlain isMissing)

/-- A directory in the first directory is not read as a file. -/
theorem not_readFile
    (ready :
      disk.ReadyForItems workingDirectory source target origin goal
        ((name, .directory) :: items))
    (content : Bytes) :
    disk.readFile workingDirectory (source.child name) ≠ .ok content := by
  intro reads
  have isPlain := ready.isPlain
  obtain ⟨entry, stands, isKind⟩ := ready.areListed name _ (.head _)
  obtain ⟨location, file, finds, -⟩ := exists_of_readFile_eq_ok reads
  obtain ⟨left, there, leads, walks⟩ :=
    leadsTo_of_locate_child (not_special_of_isPlain isPlain).1
      (entryAt_eq_ok_iff.mp finds)
  obtain rfl := ready.comesFrom disk left there (.refl disk) leads
  obtain ⟨-, ⟨isFound, -⟩ | ⟨-, _, link, -, isLink, -⟩⟩ :=
    walks.cases_of_isPlain isPlain
  · obtain ⟨-, isFile⟩ := Found.mk.inj isFound
    rw [stands] at isFile
    obtain rfl := Option.some.inj isFile
    simp [kindOf] at isKind
  · rw [stands] at isLink
    obtain rfl := Option.some.inj isLink
    simp [kindOf] at isKind

/-- A directory that was copied has its copy at one place, and nothing else has changed. -/
theorem copiesTo_child
    (ready :
      disk.ReadyForItems workingDirectory source target origin goal
        ((name, .directory) :: items))
    (copies :
      disk.CopiesInto later workingDirectory (source.child name)
        (target.child name) (origin ++ [name]) (goal ++ [name])) :
    disk.CopiesTo later workingDirectory (source.child name)
        (target.child name) (origin ++ [name]) (goal ++ [name]) ∧
      ∀ location,
        later.get? location = disk.get? location ∨
          goal ++ [name] <+: location := by
  obtain ⟨left, leads⟩ := ready.leads
  have isMissing : disk.get? (goal ++ [name]) = none :=
    (ready.lacks name (by simp) left goal leads).2
  have isDirectory : disk.HasDirectory (origin ++ [name]) := by
    obtain ⟨entry, stands, isKind⟩ := ready.areListed name _ (.head _)
    cases entry with
    | directory mode => exact ⟨mode, stands⟩
    | file | link => simp [kindOf] at isKind
  refine ⟨copies.copiesTo ready.isTree isDirectory isMissing
    ready.not_readFile, fun location => ?_⟩
  rcases copies.elsewhere location with
    isSame | ⟨isNone, isAbove⟩ | ⟨other, -, isBelow⟩
  · exact Or.inl isSame
  · rcases List.prefix_concat_iff.mp isAbove with rfl | isAbove
    · exact Or.inr List.prefix_rfl
    · obtain ⟨mode, stands⟩ := ready.isDirectory
      by_cases isGoal : location = goal
      · rw [isGoal, stands] at isNone
        simp at isNone
      · obtain ⟨_, standsAbove⟩ :=
          ready.isTree.hasDirectory stands isAbove isGoal
        rw [isNone] at standsAbove
        simp at standsAbove
  · exact Or.inr ((List.prefix_append _ _).trans isBelow)

/-- The other things can still be copied once a directory has got one that was missing there. -/
theorem rest
    (ready :
      disk.ReadyForItems workingDirectory source target origin goal
        ((name, kind) :: items))
    (tree : later.IsTree)
    (once : later.ListsOnce)
    (within : disk.Within later)
    (elsewhere :
      ∀ location,
        later.get? location = disk.get? location ∨
          goal ++ [name] <+: location) :
    later.ReadyForItems workingDirectory source target origin goal items := by
  obtain ⟨left, leads⟩ := ready.leads
  have ledTo := leads.mono within
  refine ⟨tree, once, ready.upFirst, fun last middle place more leadsOn => ?_,
    ⟨left, ledTo⟩, ready.isDirectory.imp fun _ => within _ _, ready.areApart,
    fun other otherKind member => ?_, (List.nodup_cons.mp ready.areDifferent).2,
    fun other member => ?_⟩
  · exact ready.comesFrom last middle place (within.trans more) leadsOn
  · obtain ⟨entry, stands, isKind⟩ :=
      ready.areListed other otherKind (.tail _ member)
    exact ⟨entry, within _ _ stands, isKind⟩
  · have isOther : other ≠ name := fun isName =>
      (List.nodup_cons.mp ready.areDifferent).1 (isName ▸ member)
    intro middle place leadsOn
    obtain rfl : place = goal := (ledTo.unique leadsOn).2
    have lacks := ready.lacks other (.tail _ member) left place leads
    refine ⟨Or.inr ?_, ?_⟩
    · rcases lacks.1 with isNone | ⟨mode, stands, mayPass⟩
      · obtain ⟨mode, stands⟩ := ready.isDirectory
        rw [isNone] at stands
        simp at stands
      · exact ⟨mode, within _ _ stands, mayPass⟩
    · rcases elsewhere (place ++ [other]) with isSame | isBelow
      · rw [isSame]
        exact lacks.2
      · rw [List.prefix_append_right_inj] at isBelow
        exact absurd (List.cons_prefix_cons.mp isBelow).1.symm isOther

end ReadyForItems

end Disk

/-! ## Runs -/

namespace Files

variable {workingDirectory : Location}
variable {children : Disk.Children}
variable {step : Stepping Disk}
variable {disk last : Disk}
variable {path source target : Path}
variable {origin goal : Location}
variable (answersBy : Disk.AnswersBy workingDirectory children step)

include answersBy

/-- No location is listed twice after directories have been made. -/
theorem listsOnce_of_makeDirectories
    {reply : Except DiskFault Unit}
    (once : disk.ListsOnce)
    (ends : Ends step (makeDirectories path) disk reply last) :
    last.ListsOnce := by
  refine ends.preserves Disk.ListsOnce (makeLineage_makesWay _) ?_ once
  intro action first told after makesWay answered once
  cases action with
  | status => exact (answersBy _ _ _ _ answered).2 ▸ once
  | makeDirectory path =>
      rcases ends_makeDirectory answersBy (ends_ask_iff.mpr answered) with
        ⟨rfl, -⟩ | ⟨-, makes⟩
      · exact once
      · exact once.makeDirectory makes
  | _ => simp [Action.makesWay] at makesWay

/-- Things are copied one after the other. -/
theorem ends_copyEntries
    {copyBelow : Path → Path → Storing Unit}
    {items : List (Name × Disk.Kind)}
    (copiesBelow :
      ∀ {disk last source target origin goal},
        Disk.ReadyToCopy disk workingDirectory source target origin goal →
        Ends step (copyBelow source target).run disk (.ok ()) last →
        disk.CopiesInto last workingDirectory source target origin goal)
    (ready :
      disk.ReadyForItems workingDirectory source target origin goal items)
    (ends :
      Ends step (copyEntries copyBelow source target items).run disk (.ok ())
        last) :
    disk.CopiesEach last workingDirectory source target origin goal
      (items.map Prod.fst) := by
  induction items generalizing disk with
  | nil =>
      obtain ⟨-, rfl⟩ := ends_pure_iff.mp ends
      exact ⟨ready.isTree, ready.listsOnce, .refl last, by simp,
        fun _ => Or.inl rfl⟩
  | cons item items inductionHypothesis =>
      obtain ⟨name, kind⟩ := item
      have isOther := (List.nodup_cons.mp ready.areDifferent).1
      rw [copyEntries] at ends
      split at ends
      · rename_i isDirectory
        subst isDirectory
        obtain ⟨_, middle, copiesFirst, copiesRest⟩ :=
          ends_bindProcedure_iff.mp ends
        have copies := copiesBelow ready.child copiesFirst
        obtain ⟨copiesTo, elsewhere⟩ := ready.copiesTo_child copies
        have readyRest :=
          ready.rest copies.isTree copies.listsOnce copies.within elsewhere
        exact (inductionHypothesis readyRest copiesRest).cons ready.areApart
          isOther copies.within copiesTo elsewhere
      · rename_i notDirectory
        obtain ⟨_, middle, copiesFirst, copiesRest⟩ :=
          ends_bindProcedure_iff.mp ends
        have answers :=
          answersBy _ _ _ _ (ends_ask_iff.mp (ends_attempt_iff.mp copiesFirst))
        obtain ⟨entry, stands, isKind⟩ := ready.areListed name _ (.head _)
        have isFile : entry.isDirectory = false := by
          cases entry with
          | directory => exact absurd isKind.symm notDirectory
          | file | link => rfl
        cases answers with
        | done isDone =>
            obtain ⟨tree, within, copies, elsewhere⟩ :=
              Disk.copiesTo_of_copyFile ready.isTree ready.isPlain stands
                isFile (fun left place => ready.comesFrom _ left place (.refl _))
                ready.leads (ready.lacks name (.head _)) isDone
            have readyRest :=
              ready.rest tree (ready.listsOnce.copyFile isDone) within
                elsewhere
            exact (inductionHypothesis readyRest copiesRest).cons
              ready.areApart isOther within copies elsewhere

/-- A directory is copied with all that it holds. -/
theorem ends_copyTreeWithin
    {depth : Nat}
    (ready :
      disk.ReadyToCopy workingDirectory source target origin goal)
    (ends :
      Ends step (copyTreeWithin depth source target).run disk (.ok ())
        last) :
    disk.CopiesInto last workingDirectory source target origin goal := by
  induction depth generalizing disk last source target origin goal with
  | zero => exact absurd ends not_ends_throw
  | succ depth inductionHypothesis =>
      obtain ⟨_, _, makes, lists⟩ := ends_bindProcedure_iff.mp ends
      obtain ⟨items, made, listed, copies⟩ := ends_bindProcedure_iff.mp lists
      obtain ⟨tells, rfl⟩ :=
        answersBy _ _ _ _ (ends_ask_iff.mp (ends_attempt_iff.mp listed))
      have makes' := ends_attempt_iff.mp makes
      obtain ⟨there, way⟩ :=
        ends_makeDirectories answersBy ready.isTree ready.upFirst makes'
      obtain ⟨left, leads⟩ := way.leads
      obtain rfl := ready.goesTo made left there way.gains leads
      have once := listsOnce_of_makeDirectories answersBy ready.listsOnce makes'
      obtain ⟨place, mode, finds, areDifferent, areListed⟩ :=
        once.listDirectory tells.eq_ok
      have within : disk.Within made := fun _ _ => way.gains.get?
      have sameOrigin (below : List Name) :
          made.get? (origin ++ below) = disk.get? (origin ++ below) := by
        refine (way.gains _).resolve_right ?_
        rintro ⟨-, -, isAbove⟩
        exact ready.areApart.1 ((List.prefix_append _ _).trans isAbove)
      obtain ⟨-, walks⟩ :=
        Disk.locate_eq_ok_iff.mp (Disk.entryAt_eq_ok_iff.mp finds)
      obtain ⟨⟨_, leadsSource⟩, -⟩ := walks.leads
      obtain ⟨middle, ledTo⟩ := Disk.leadsTo_of_leads leadsSource
      obtain rfl := ready.comesFrom made middle place within ledTo
      have isDirectory : made.HasDirectory there := by
        rcases way.isNew with ⟨rfl, isEmpty | isDirectory⟩ | ⟨-, isFresh, -⟩
        · exact absurd isEmpty ready.isNamed
        · exact isDirectory
        · exact isFresh.1.hasDirectory
      have readyItems :
          made.ReadyForItems workingDirectory source target place there items := by
        refine ⟨way.isTree, once, ready.upFirst, fun later left origin more =>
            ready.comesFrom later left origin (within.trans more),
          ⟨left, leads⟩, isDirectory, ready.areApart,
          fun name kind => (areListed name kind).mp, areDifferent,
          fun name member => ?_⟩
        rcases way.isNew with ⟨rfl, -⟩ | ⟨-, isFresh, -⟩
        · obtain ⟨⟨_, kind⟩, isItem, rfl⟩ := List.mem_map.mp member
          obtain ⟨entry, stands, -⟩ := (areListed _ kind).mp isItem
          exact ready.lacks isDirectory _ (by simp [stands])
        · exact isFresh.lacksChild leads name
      have each :=
        ends_copyEntries answersBy (fun ready => inductionHypothesis ready)
          readyItems copies
      have isListed (name : Name) :
          name ∈ items.map Prod.fst ↔ disk.get? (place ++ [name]) ≠ none := by
        rw [← sameOrigin [name], List.mem_map]
        constructor
        · rintro ⟨⟨_, kind⟩, isItem, rfl⟩
          obtain ⟨entry, stands, -⟩ := (areListed _ kind).mp isItem
          simp [stands]
        · intro isThere
          obtain ⟨entry, stands⟩ := Option.ne_none_iff_exists'.mp isThere
          exact ⟨(name, Disk.kindOf entry),
            (areListed _ _).mpr ⟨entry, stands, rfl⟩, rfl⟩
      refine ⟨each.isTree, each.listsOnce, within.trans each.within,
        ⟨left, leads.mono each.within⟩,
        isDirectory.imp fun _ => each.within _ _, fun name isThere => ?_,
        fun location => ?_⟩
      · refine (each.copies name ((isListed name).mpr isThere)).of_earlier
          within fun below => ?_
        rw [List.append_assoc]
        exact sameOrigin _
      · rcases each.elsewhere location with
          isSame | ⟨name, member, isBelow⟩
        · rcases way.gains location with wasSame | ⟨wasNone, -, isAbove⟩
          · exact Or.inl (isSame.trans wasSame)
          · exact Or.inr (Or.inl ⟨wasNone, isAbove⟩)
        · exact Or.inr (Or.inr ⟨name, (isListed name).mp member, isBelow⟩)

end Files

end Provision
