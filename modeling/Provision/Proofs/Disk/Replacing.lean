import Provision.Proofs.Disk.Guarding

namespace Provision.Disk

/-!
# Directories that are replaced

Beside the mark of a directory stands what is being installed.  What stood there before is removed, the
new content is moved in its place, and last the mark is removed.  The directory has its mark all along,
and the mark is gone in the end.
-/

variable {start disk later : Disk}
variable {workingDirectory place : Location}
variable {children : Children}
variable {directory : Path}
variable {name : Name}

/-! ## Names in a directory -/

/-- What is found in a directory by a name that stands for no directory. -/
theorem exists_of_locate_child
    {found : Found}
    (notHere : name.isHere = false)
    (notUp : name.isUp = false)
    (locates :
      disk.locate workingDirectory false (directory.child name) = .ok found) :
    ∃ left there,
      disk.LeadsTo workingDirectory directory left there ∧
        disk.IsOpen there ∧
          found = ⟨there ++ [name], disk.get? (there ++ [name])⟩ := by
  obtain ⟨left, there, leads, isOpen, isFound⟩ :=
    exists_of_locate_named (Path.names_child directory name) notHere notUp
      locates
  rw [Path.start_child] at leads
  exact ⟨left, there, leads, isOpen, isFound⟩

/-- What a name finds in a directory is that directory, one above it, or named so. -/
theorem Walks.prefix_or_eq
    {links : Nat}
    {here location : Location}
    {found? : Option Entry}
    (walks : disk.Walks false links here [name] ⟨location, found?⟩) :
    location <+: here ∨ location = here ++ [name] := by
  generalize isFound : (⟨location, found?⟩ : Found) = found at walks
  cases walks with
  | missing | link =>
      obtain ⟨rfl, -⟩ := Found.mk.inj isFound
      exact Or.inr rfl
  | step steps goesOn walksOn =>
      rw [List.append_nil] at walksOn
      cases steps with
      | follow => simp [Path.names_ne_nil] at goesOn
      | empty | dot =>
          cases walksOn
          obtain ⟨rfl, -⟩ := Found.mk.inj isFound
          exact Or.inl List.prefix_rfl
      | up =>
          cases walksOn
          obtain ⟨rfl, -⟩ := Found.mk.inj isFound
          exact Or.inl (List.dropLast_prefix here)
      | down =>
          cases walksOn
          obtain ⟨rfl, -⟩ := Found.mk.inj isFound
          exact Or.inr rfl

/-! ## Removing what stood there -/

/-- However the removal of a tree is answered, entries are gone at most where the tree was. -/
theorem Answers.get?_removeTree
    {path : Path}
    {reply : Except DiskFault Unit}
    (answers :
      Answers workingDirectory children (.removeTree path) disk reply later)
    (other : Location) :
    later.get? other = disk.get? other ∨
      later.get? other = none ∧
        ∃ location entry,
          disk.entryAt workingDirectory false path = .ok (location, entry) ∧
            location <+: other := by
  cases answers with
  | unchanged => exact Or.inl rfl
  | refused => exact disk.get?_leftOver workingDirectory path other
  | brokenOff _ partly =>
      obtain ⟨location, entry, finds, thinned⟩ := partly
      rcases thinned other with isSame | ⟨isNone, isBelow⟩
      · exact Or.inl isSame
      · exact Or.inr ⟨isNone, location, entry, finds, isBelow⟩
  | done removes =>
      obtain ⟨location, ⟨mode, finds, isCleared⟩ | ⟨target, finds, rfl⟩⟩ :=
        removeTree_eq_ok removes
      · by_cases isBelow : location <+: other
        · refine Or.inr ⟨?_, location, _, finds, isBelow⟩
          rw [isCleared, if_pos (List.isPrefixOf_iff_prefix.mpr isBelow)]
        · left
          rw [isCleared, if_neg (mt List.isPrefixOf_iff_prefix.mp isBelow)]
      · by_cases isSame : other = location
        · subst isSame
          exact Or.inr
            ⟨get?_erase_self disk other, other, _, finds, List.prefix_rfl⟩
        · exact Or.inl (get?_erase_of_ne disk isSame)

/-- What stands after the removal of a tree stood there before. -/
theorem Answers.get?_of_removeTree
    {path : Path}
    {reply : Except DiskFault Unit}
    (answers :
      Answers workingDirectory children (.removeTree path) disk reply later)
    (location : Location)
    (entry : Entry)
    (stands : later.get? location = some entry) :
    disk.get? location = some entry := by
  rcases answers.get?_removeTree location with isSame | ⟨isNone, -⟩
  · rwa [isSame] at stands
  · simp [isNone] at stands

/-- A mark is guarded when a tree beside it is removed. -/
theorem Guarded.of_removeTree
    {reply : Except DiskFault Unit}
    (guarded : start.Guarded place disk)
    (marked : start.Marked workingDirectory directory place)
    (notHere : name.isHere = false)
    (notUp : name.isUp = false)
    (notMark : name ≠ markName)
    (answers :
      Answers workingDirectory children (.removeTree (directory.child name))
        disk reply later) :
    start.Guarded place later where
  ways := by
    intro location
    have keeps := guarded.ways location
    rcases answers.get?_removeTree location with isSame | ⟨isNone, -⟩
    · rwa [isSame]
    · rw [isNone]
      rcases start.get? location with - | (mode | file | target)
      · trivial
      · exact fun target => by simp
      · exact fun target => by simp
      · exact Or.inr (Or.inl rfl)
  mark := by
    obtain ⟨file, stands⟩ := guarded.mark
    refine ⟨file, ?_⟩
    rcases answers.get?_removeTree (place ++ [markName]) with
      isSame | ⟨-, location, entry, finds, isBelow⟩
    · rwa [isSame]
    · obtain ⟨left, there, leads, isOpen, isFound⟩ :=
        exists_of_locate_child notHere notUp (entryAt_eq_ok_iff.mp finds)
      obtain ⟨rfl, -⟩ := Found.mk.inj isFound
      obtain rfl :=
        guarded.eq_of_leadsTo marked leads isOpen.hasDirectory
      have isSame := isBelow.eq_of_length (by simp)
      exact absurd (List.append_singleton_inj.mp isSame).2 notMark

/-- What is left of a tree that could not be removed still has its root. -/
theorem get?_leftOver_self
    {path : Path}
    {location : Location}
    {entry : Entry}
    (finds :
      disk.entryAt workingDirectory false path = .ok (location, entry)) :
    (disk.leftOver workingDirectory path).get? location =
      disk.get? location := by
  unfold leftOver
  simp only [finds]
  cases entry with
  | directory mode => exact disk.get?_emptied_self location
  | file | link => rfl

/-- A tree is gone once it was removed, and what the path starts from is standing. -/
theorem cleared_of_removeTree
    {reply : Except DiskFault Unit}
    (answers :
      Answers workingDirectory children (.removeTree (directory.child name))
        disk reply later)
    (isGone :
      ∀ fault, reply = .error fault → fault.isMissing = true)
    (standing : disk.Standing (directory.start workingDirectory))
    (notHere : name.isHere = false)
    (notUp : name.isUp = false)
    {goal : Location}
    {existing? : Option Entry}
    (locates :
      later.locate workingDirectory false (directory.child name) =
        .ok ⟨goal, existing?⟩) :
    existing? = none ∧
      later.Standing (directory.start workingDirectory) := by
  obtain ⟨left, there, leads, -, isFound⟩ :=
    exists_of_locate_child notHere notUp locates
  obtain ⟨rfl, isExisting⟩ := Found.mk.inj isFound
  have ledBefore := leads.mono answers.get?_of_removeTree
  have isPlace
      {location : Location}
      {entry : Entry}
      (finds :
        disk.entryAt workingDirectory false (directory.child name) =
          .ok (location, entry)) :
      location = there ++ [name] := by
    obtain ⟨left', there', leads', -, isFound⟩ :=
      exists_of_locate_child notHere notUp (entryAt_eq_ok_iff.mp finds)
    obtain ⟨rfl, -⟩ := Found.mk.inj isFound
    rw [(ledBefore.unique leads').2]
  have isNone : existing? = none := by
    cases answers with
    | unchanged notMissing | brokenOff notMissing _ =>
        simp [isGone _ rfl] at notMissing
    | refused isRefused =>
        have isMissing :=
          entryAt_leftOver_of_missing isRefused (isGone _ rfl)
        rw [entryAt, locates] at isMissing
        cases existing? with
        | none => rfl
        | some entry => simp at isMissing
    | done removes =>
        rw [isExisting]
        obtain ⟨location, ⟨mode, finds, isCleared⟩ | ⟨target, finds, rfl⟩⟩ :=
          removeTree_eq_ok removes
        · obtain rfl := isPlace finds
          rw [isCleared,
            if_pos (List.isPrefixOf_iff_prefix.mpr List.prefix_rfl)]
        · obtain rfl := isPlace finds
          exact get?_erase_self disk _
  refine ⟨isNone, fun above isAbove isOther => ?_⟩
  obtain ⟨mode, stands⟩ := standing above isAbove isOther
  rcases answers.get?_removeTree above with
    isSame | ⟨-, location, entry, finds, isBelow⟩
  · exact ⟨mode, isSame.trans stands⟩
  · -- The start would lie in the tree that is gone, and the path would lead nowhere.
    exfalso
    obtain rfl := isPlace finds
    have startBelow := isBelow.trans isAbove
    have wasDirectory : disk.HasDirectory (there ++ [name]) := by
      refine standing _ startBelow fun isStart => isOther ?_
      exact isAbove.eq_of_length_le (isStart ▸ isBelow.length_le)
    have isGoneNow : later.get? (there ++ [name]) = none :=
      isExisting.symm.trans isNone
    have startGone :
        later.get? (directory.start workingDirectory) = none := by
      obtain ⟨oldMode, stood⟩ := wasDirectory
      cases answers with
      | unchanged notMissing | brokenOff notMissing _ =>
          simp [isGone _ rfl] at notMissing
      | refused isRefused =>
          rw [get?_leftOver_self finds, stood] at isGoneNow
          simp at isGoneNow
      | done removes =>
          obtain ⟨location, ⟨_, found, isCleared⟩ | ⟨target, found, -⟩⟩ :=
            removeTree_eq_ok removes
          · obtain rfl := isPlace found
            rw [isCleared,
              if_pos (List.isPrefixOf_iff_prefix.mpr startBelow)]
          · obtain rfl := isPlace found
            rw [get?_of_entryAt found] at stood
            simp at stood
    rw [LeadsTo] at leads
    generalize directory.way = way at leads
    cases leads with
    | arrived =>
        have isShorter := startBelow.length_le
        rw [List.length_append, List.length_singleton] at isShorter
        omega
    | step steps =>
        obtain ⟨_, isDirectory⟩ := steps.hasDirectory
        rw [startGone] at isDirectory
        simp at isDirectory

/-! ## Moving the new content in its place -/

/-- A directory keeps its mark when something in it is moved to where nothing stands. -/
theorem marks_of_rename
    {top : Name}
    (guarded : start.Guarded place disk)
    (marked : start.Marked workingDirectory directory place)
    (notHere : name.isHere = false)
    (notUp : name.isUp = false)
    (notMark : name ≠ markName)
    (isNamed : top ≠ .text "")
    (topNotMark : top ≠ markName)
    (cleared :
      ∀ goal existing?,
        disk.locate workingDirectory false (directory.child name) =
            .ok ⟨goal, existing?⟩ →
        existing? = none ∧
          disk.Standing (directory.start workingDirectory))
    (renames :
      disk.rename workingDirectory (directory.child top)
          (directory.child name) =
        .ok later) :
    later.Marks workingDirectory directory := by
  obtain ⟨origin, entry, goal, existing?, finds, locates, isMoved⟩ :=
    rename_eq_ok renames
  rcases isMoved with ⟨rfl, -⟩ | ⟨isOutside, rfl⟩
  · exact guarded.marks marked
  · obtain ⟨isFree, standing⟩ := cleared goal existing? locates
    obtain ⟨left, there, leads, isOpen, isFound⟩ :=
      exists_of_locate_child notHere notUp locates
    obtain ⟨rfl, isExisting⟩ := Found.mk.inj isFound
    have isGone : disk.get? (there ++ [name]) = none :=
      isExisting.symm.trans isFree
    obtain rfl := guarded.eq_of_leadsTo marked leads isOpen.hasDirectory
    -- What is moved is not the mark, and the mark is not in it.
    obtain ⟨left', there', leads', walks⟩ :=
      leadsTo_of_locate_child isNamed (entryAt_eq_ok_iff.mp finds)
    obtain rfl : there' = there := (leads.unique leads').2
    have markOutside : ¬origin <+: there' ++ [markName] := by
      intro isPrefix
      rcases walks.prefix_or_eq with isAbove | rfl
      · exact isOutside (isAbove.trans (List.prefix_append there' [name]))
      · have isSame := isPrefix.eq_of_length (by simp)
        exact topNotMark (List.append_singleton_inj.mp isSame).2
    have markBeside : ¬there' ++ [name] <+: there' ++ [markName] := by
      intro isPrefix
      have isSame := isPrefix.eq_of_length (by simp)
      exact notMark (List.append_singleton_inj.mp isSame).2
    obtain ⟨file, stands⟩ := guarded.mark
    have stillStands :
        (disk.moveTree origin (there' ++ [name])).get?
            (there' ++ [markName]) =
          some (.file file) := by
      rw [get?_moveTree, if_neg (mt List.isPrefixOf_iff_prefix.mp markBeside),
        if_neg (mt List.isPrefixOf_iff_prefix.mp markOutside)]
      exact stands
    refine .of_keepsWays leads standing (fun location isStanding => ?_)
      stillStands
    rw [get?_moveTree]
    split
    · rename_i isBelow
      have isBelow := List.isPrefixOf_iff_prefix.mp isBelow
      by_cases isGoal : there' ++ [name] = location
      · rw [← isGoal, isGone]
        trivial
      · obtain ⟨mode, isDirectory⟩ := isStanding _ isBelow isGoal
        rw [isGone] at isDirectory
        simp at isDirectory
    · split
      · rcases disk.get? location with - | (mode | other | target)
        · trivial
        · exact fun target => by simp
        · exact fun target => by simp
        · exact Or.inr (Or.inl rfl)
      · exact (Grown.refl _).keepsWay

/-! ## Removing the mark -/

/-- A file is removed, or the disk stays as it is. -/
theorem Answers.removeFile_cases
    {path : Path}
    {reply : Except DiskFault Unit}
    (answers :
      Answers workingDirectory children (.removeFile path) disk reply later) :
    later = disk ∨
      reply = .ok () ∧ disk.removeFile workingDirectory path = .ok later := by
  cases answers with
  | refused | unchanged => exact Or.inl rfl
  | brokenOff _ partly => exact partly.elim
  | done removes => exact Or.inr ⟨rfl, removes⟩

/-- What stands after a file was removed stood there before. -/
theorem get?_of_removeFile
    {path : Path}
    (removes : disk.removeFile workingDirectory path = .ok later)
    (location : Location)
    (entry : Entry)
    (stands : later.get? location = some entry) :
    disk.get? location = some entry := by
  obtain ⟨place, removed, -, -, rfl⟩ := removeFile_eq_ok removes
  exact get?_of_get?_erase stands

/-- A directory keeps its mark when a file is removed by a path that ends apart from it. -/
theorem Marks.of_removeFile
    {path : Path}
    (marks : disk.Marks workingDirectory directory)
    (endsApart : path.endsApart = true)
    (removes : disk.removeFile workingDirectory path = .ok later) :
    later.Marks workingDirectory directory :=
  marks.of_fewer (get?_of_removeFile removes) fun _ there _ _ =>
    removeFile_endsApart removes endsApart there

/-- Nothing is found by a path. -/
def IsGone
    (disk : Disk)
    (workingDirectory : Location)
    (path : Path) :
    Prop :=
  ∀ found, disk.entryAt workingDirectory true path ≠ .ok found

/-- What is gone is gone from a disk with fewer entries. -/
theorem IsGone.of_fewer
    {path : Path}
    (isGone : disk.IsGone workingDirectory path)
    (isFewer :
      ∀ location entry,
        later.get? location = some entry →
        disk.get? location = some entry) :
    later.IsGone workingDirectory path :=
  fun _ finds => isGone _ (entryAt_mono finds isFewer)

/-- What a name finds by following it is found without following it, too. -/
theorem exists_entryAt_of_follow
    {found : Location × Entry}
    (notHere : name.isHere = false)
    (notUp : name.isUp = false)
    (finds :
      disk.entryAt workingDirectory true (directory.child name) =
        .ok found) :
    ∃ itself,
      disk.entryAt workingDirectory false (directory.child name) =
        .ok itself := by
  obtain ⟨location, entry⟩ := found
  have locates := entryAt_eq_ok_iff.mp finds
  have isNamed : name ≠ .text "" := by
    rintro rfl
    simp [Name.isHere] at notHere
  obtain ⟨isUsable, -⟩ := locate_eq_ok_iff.mp locates
  obtain ⟨left, there, leads, walks⟩ :=
    leadsTo_of_locate_child isNamed locates
  have finishes
      {itself : Entry}
      (ends : disk.Walks false left there [name] ⟨there ++ [name], some itself⟩) :
      ∃ itself,
        disk.entryAt workingDirectory false (directory.child name) =
          .ok itself := by
    refine ⟨(there ++ [name], itself), ?_⟩
    rw [entryAt_eq_ok_iff, locate_eq_ok_iff, Path.start_child,
      Path.names_child]
    exact ⟨isUsable, leads.walks_append (List.cons_ne_nil name []) ends⟩
  cases walks with
  | link _ _ _ stays => simp at stays
  | step steps =>
      cases steps with
      | empty _ isSpecial | dot _ isSpecial =>
          simp [isSpecial, Name.isHere] at notHere
      | up _ isUp => simp [isUp, Name.isUp] at notUp
      | follow isOpen isPlain stands =>
          exact finishes (.link isOpen isPlain stands rfl)
      | down isOpen isPlain stands noLink =>
          have arrives : disk.Walks false left (there ++ [name]) [] _ :=
            .arrived left (there ++ [name])
          rw [stands] at arrives
          exact finishes
            (.step (.down isOpen isPlain stands noLink) (Or.inl rfl) arrives)

/-- What was removed by its name, or is told to be missing, is gone. -/
theorem isGone_of_removeFile
    {reply : Except DiskFault Unit}
    (answers :
      Answers workingDirectory children (.removeFile (directory.child name))
        disk reply later)
    (isGone :
      ∀ fault, reply = .error fault → fault.isMissing = true)
    (notHere : name.isHere = false)
    (notUp : name.isUp = false) :
    later.IsGone workingDirectory (directory.child name) := by
  rintro found finds
  cases answers with
  | unchanged notMissing => simp [isGone _ rfl] at notMissing
  | brokenOff _ partly => exact partly
  | refused isRefused =>
      have isMissing := entryAt_of_removeFile_missing isRefused (isGone _ rfl)
      obtain ⟨itself, isThere⟩ :=
        exists_entryAt_of_follow notHere notUp finds
      rw [isMissing] at isThere
      simp at isThere
  | done removes =>
      obtain ⟨location, entry, found, -, rfl⟩ := removeFile_eq_ok removes
      obtain ⟨left, there, leads, -, isFound⟩ :=
        exists_of_locate_named (Path.names_child directory name) notHere notUp
          (entryAt_eq_ok_iff.mp found)
      obtain ⟨rfl, -⟩ := Found.mk.inj isFound
      have isNothing :=
        eq_of_locate_erase (Path.names_child directory name) notHere notUp leads
          (entryAt_eq_ok_iff.mp finds)
      simp at isNothing

end Provision.Disk
