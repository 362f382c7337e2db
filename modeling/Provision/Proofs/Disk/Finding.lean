import Provision.Proofs.Storage.Downloading

namespace Provision.Disk

/-!
# What a path finds while a file changes

A file that is written is found by paths that lead to its place, or to another name of it.  Every other path
finds what it found before, and so does a path when directories come to a disk that it does not lead through.
-/

variable {disk later last : Disk}
variable {workingDirectory : Location}
variable {path written : Path}

/-- A path finds the same on two disks, following links. -/
def FindsSame
    (disk later : Disk)
    (workingDirectory : Location)
    (path : Path) :
    Prop :=
  ∀ found,
    later.entryAt workingDirectory true path = .ok found ↔
      disk.entryAt workingDirectory true path = .ok found

theorem FindsSame.refl
    (disk : Disk)
    (workingDirectory : Location)
    (path : Path) :
    disk.FindsSame disk workingDirectory path :=
  fun _ => Iff.rfl

theorem FindsSame.trans
    (same : disk.FindsSame later workingDirectory path)
    (again : later.FindsSame last workingDirectory path) :
    disk.FindsSame last workingDirectory path :=
  fun found => (again found).trans (same found)

/-- A path finds the same when more entries come, if it finds nothing then. -/
theorem findsSame_of_isAbsent
    (isMore :
      ∀ location entry,
        disk.get? location = some entry →
        later.get? location = some entry)
    (isAbsent : later.IsAbsent workingDirectory path) :
    disk.FindsSame later workingDirectory path := by
  have findsNothing (found : Location × Entry) :
      later.entryAt workingDirectory true path ≠ .ok found := by
    intro finds
    obtain ⟨place, itself, unfollowed, -⟩ := exists_entryAt_unfollowed finds
    exact isAbsent _ unfollowed
  exact fun found =>
    iff_of_false (findsNothing found) fun finds =>
      findsNothing found (entryAt_mono finds isMore)

/-- A file that is no other name of the one that changes stays as it is. -/
theorem get?_updateFile_of_notSame
    {location other : Location}
    {file : File}
    {entry : Entry}
    (stands : disk.get? location = some (.file file))
    (isOther : other ≠ location)
    (standsOther : disk.get? other = some entry)
    (notSame : sameFile (.file file) entry = false)
    (change : File → File) :
    (disk.updateFile location change).get? other = some entry := by
  cases isGroup : file.group with
  | none =>
      rw [get?_updateFile_of_ne stands isGroup change isOther, standsOther]
  | some group =>
      rw [get?_updateFile_of_group stands isGroup, standsOther]
      cases entry with
      | directory | link => rfl
      | file otherFile =>
          have notInGroup : otherFile.group ≠ some group := by
            simpa [sameFile, isGroup, eq_comm] using notSame
          simp [changedIn, notInGroup]

/-- Names that lead to a file where nothing stood were walked to the place, and nothing was found there. -/
theorem Leads.walks_of_missing
    {links left : Nat}
    {here there : Location}
    {names : List Name}
    {file : File}
    (leads : later.Leads links here names left there)
    (stays : later.Stays disk)
    (isFile : later.get? there = some (.file file))
    (wasMissing : disk.get? there = none) :
    disk.Walks true links here names ⟨there, none⟩ := by
  induction leads with
  | arrived links here =>
      have arrives : disk.Walks true links here [] ⟨here, disk.get? here⟩ :=
        .arrived links here
      rwa [wasMissing] at arrives
  | @step _ _ _ _ _ there _ _ rest steps leadsOn inductionHypothesis =>
      have walksOn := inductionHypothesis isFile wasMissing
      cases steps with
      | empty isDirectory isEmpty =>
          obtain ⟨mode, stands⟩ := isDirectory
          exact .step (.empty ⟨mode, stays _ _ stands rfl⟩ isEmpty) (Or.inl rfl)
            walksOn
      | dot isOpen isDot =>
          exact .step (.dot (isOpen.of_stays stays) isDot) (Or.inl rfl) walksOn
      | up isOpen isUp =>
          exact .step (.up (isOpen.of_stays stays) isUp) (Or.inl rfl) walksOn
      | follow isOpen isPlain stands =>
          exact .step
            (.follow (isOpen.of_stays stays) isPlain (stays _ _ stands rfl))
            (Or.inr (Or.inr rfl)) walksOn
      | @down _ _ _ entry isOpen isPlain stands noLink =>
          cases entry with
          | link => simp [Entry.isLink] at noLink
          | directory =>
              exact .step
                (.down (isOpen.of_stays stays) isPlain (stays _ _ stands rfl) rfl)
                (Or.inl rfl) walksOn
          | file =>
              -- Nothing is looked up in a file, so this is the place, and no name comes after it.
              obtain rfl := leadsOn.eq_of_file stands
              have isEnd : rest = [] := by
                cases leadsOn with
                | arrived => rfl
                | step steps =>
                    obtain ⟨mode, isDirectory⟩ := steps.hasDirectory
                    simp [stands] at isDirectory
              subst isEnd
              exact .missing (isOpen.of_stays stays) isPlain wasMissing rfl

section

variable {fresh : File}
variable {change : File → File}
variable
  (isElsewhere :
    ∀ place found? other?,
      disk.locate workingDirectory true path = .ok ⟨place, found?⟩ →
      disk.locate workingDirectory true written ≠ .ok ⟨place, other?⟩)
variable
  (notShared :
    ∀ place file otherPlace other,
      disk.entryAt workingDirectory true path = .ok (place, .file file) →
      disk.entryAt workingDirectory true written =
        .ok (otherPlace, .file other) →
      sameFile (.file other) (.file file) = false)
variable
  (opens : disk.openFile workingDirectory written fresh change = .ok later)

include isElsewhere opens

/-- What a path finds has been there while a file is written elsewhere. -/
theorem exists_entryAt_of_openFile
    {location : Location}
    {entry : Entry}
    (finds :
      later.entryAt workingDirectory true path = .ok (location, entry)) :
    ∃ old, disk.entryAt workingDirectory true path = .ok (location, old) := by
  have wasSame := openFile_stays opens
  have stands := get?_of_entryAt finds
  rcases openFile_eq_ok opens with
    ⟨place, locates, rfl⟩ | ⟨place, file, -, rfl⟩
  · by_cases isPlace : location = place
    · subst isPlace
      rw [get?_set_self] at stands
      obtain rfl := Option.some.inj stands
      obtain ⟨isUsable, walks⟩ :=
        locate_eq_ok_iff.mp (entryAt_eq_ok_iff.mp finds)
      obtain ⟨⟨left, leads⟩, isFile⟩ := walks.leads
      have walksBefore :=
        leads.walks_of_missing wasSame isFile (get?_of_locate locates)
      exact absurd locates
        (isElsewhere _ _ _ (locate_eq_ok_iff.mpr ⟨isUsable, walksBefore⟩))
    · exact ⟨entry, entryAt_of_stays finds wasSame
        (get?_set_of_ne disk _ isPlace).symm⟩
  · rcases get?_updateFile disk place change location with
      isSame | ⟨old, stood, isChanged⟩
    · exact ⟨entry, entryAt_of_stays finds wasSame isSame.symm⟩
    · obtain rfl := Option.some.inj (stands.symm.trans isChanged)
      exact ⟨.file old, entryAt_of_stays_file finds wasSame stood⟩

include notShared

/-- What a path finds stays as it is while a file is written elsewhere. -/
theorem entryAt_of_openFile
    {location : Location}
    {entry : Entry}
    (finds :
      disk.entryAt workingDirectory true path = .ok (location, entry)) :
    later.entryAt workingDirectory true path = .ok (location, entry) := by
  have stands := get?_of_entryAt finds
  have isOther (place : Location) (found? : Option Entry)
      (locates :
        disk.locate workingDirectory true written = .ok ⟨place, found?⟩) :
      location ≠ place := by
    rintro rfl
    exact isElsewhere _ _ _ (entryAt_eq_ok_iff.mp finds) locates
  refine entryAt_of_stays finds (stays_openFile opens) ?_
  rw [stands]
  rcases openFile_eq_ok opens with
    ⟨place, locates, rfl⟩ | ⟨place, file, locates, rfl⟩
  · rwa [get?_set_of_ne disk _ (isOther _ _ locates)]
  · refine get?_updateFile_of_notSame (get?_of_locate locates)
      (isOther _ _ locates) stands ?_ change
    cases entry with
    | directory | link => rfl
    | file => exact notShared _ _ _ _ finds (entryAt_eq_ok_iff.mpr locates)

/-- A path that leads neither to the place of a file nor to another name of it finds the same while it is written. -/
theorem findsSame_of_openFile :
    disk.FindsSame later workingDirectory path := by
  rintro ⟨location, entry⟩
  refine ⟨fun finds => ?_, entryAt_of_openFile isElsewhere notShared opens⟩
  obtain ⟨old, foundOld⟩ := exists_entryAt_of_openFile isElsewhere opens finds
  have findsOld := entryAt_of_openFile isElsewhere notShared opens foundOld
  rw [finds, Except.ok.injEq, Prod.mk.injEq] at findsOld
  rwa [findsOld.2]

end

end Provision.Disk
