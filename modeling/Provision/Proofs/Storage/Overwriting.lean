import Provision.Proofs.Storage.Writing

namespace Provision

/-!
# Files that are written over

A file that is copied over another one, and a file that is put in place of another one, change no directory and
no link, so that every path still leads where it led.  A file that was copied reads like its original
afterwards, even if the two are hard links of each other.
-/

open Plan

namespace Disk

variable {disk later : Disk}
variable {workingDirectory : Location}
variable {path directory : Path}
variable {name : Name}

/-! ## What is changed twice -/

theorem stays_updateFile
    (disk : Disk)
    (location : Location)
    (change : File → File) :
    disk.Stays (disk.updateFile location change) := by
  intro other entry stands notFile
  rcases get?_updateFile disk location change other with
    isSame | ⟨file, isFile, -⟩
  · exact isSame.trans stands
  · obtain rfl := Option.some.inj (stands.symm.trans isFile)
    simp [Entry.isFile] at notFile

/-- Two changes of a file change the same other files. -/
theorem get?_updateFile_updateFile
    {location : Location}
    {file : File}
    (stands : disk.get? location = some (.file file))
    (first second : File → File)
    (keepsGroup : ∀ file, (first file).group = file.group)
    (other : Location) :
    (disk.updateFile location first).get? other = disk.get? other ∧
        ((disk.updateFile location first).updateFile location second).get?
            other =
          disk.get? other ∨
      ∃ found,
        disk.get? other = some (.file found) ∧
          (disk.updateFile location first).get? other =
              some (.file (first found)) ∧
            ((disk.updateFile location first).updateFile location
                  second).get? other =
              some (.file (second (first found))) := by
  have standsNow := get?_updateFile_self stands first
  cases isGroup : file.group with
  | none =>
      have isAlone : (first file).group = none :=
        (keepsGroup file).trans isGroup
      by_cases isPlace : other = location
      · subst isPlace
        exact Or.inr ⟨file, stands, standsNow,
          get?_updateFile_self standsNow second⟩
      · have isSame := get?_updateFile_of_ne stands isGroup first isPlace
        exact Or.inl ⟨isSame,
          (get?_updateFile_of_ne standsNow isAlone second isPlace).trans
            isSame⟩
  | some group =>
      have isGroupNow : (first file).group = some group :=
        (keepsGroup file).trans isGroup
      rw [get?_updateFile_of_group standsNow isGroupNow,
        get?_updateFile_of_group stands isGroup]
      cases disk.get? other with
      | none => exact Or.inl ⟨rfl, rfl⟩
      | some entry =>
          cases entry with
          | directory | link => exact Or.inl ⟨rfl, rfl⟩
          | file found =>
              by_cases isIn : found.group = some group
              · refine Or.inr ⟨found, rfl, ?_⟩
                simp [changedIn, isIn, keepsGroup]
              · left
                simp [changedIn, isIn]

/-! ## Copying over a file -/

theorem stays_openFile
    {fresh : File}
    {change : File → File}
    (opens : disk.openFile workingDirectory path fresh change = .ok later) :
    disk.Stays later := by
  rcases openFile_eq_ok opens with
    ⟨location, locates, rfl⟩ | ⟨location, file, -, rfl⟩
  · intro other entry stands _
    exact within_set (get?_of_locate locates) other entry stands
  · exact stays_updateFile disk location change

/-- Everything but files stays when a file is copied. -/
theorem stays_copyFile
    {original copy : Path}
    (copies : disk.copyFile workingDirectory original copy = .ok later) :
    disk.Stays later := by
  obtain ⟨_, _, emptied, -, opens, ends⟩ := copyFile_eq_ok copies
  have stays := stays_openFile opens
  rcases ends with ⟨remaining, found, -, -, rfl⟩ | ⟨-, rfl⟩
  · intro other entry stands notFile
    exact stays_updateFile emptied _ _ other entry
      (stays other entry stands notFile) notFile
  · exact stays

/-- No link is found at a path. -/
def LacksLink
    (disk : Disk)
    (workingDirectory : Location)
    (path : Path) :
    Prop :=
  ∀ location target,
    disk.entryAt workingDirectory false path ≠ .ok (location, .link target)

/-- What is found by a plain name that is no link, following links, is the entry with that name. -/
theorem exists_of_locate_unlinked
    {found : Found}
    (isPlain : name.isPlain = true)
    (notLink : disk.LacksLink workingDirectory (directory.child name))
    (locates :
      disk.locate workingDirectory true (directory.child name) = .ok found) :
    ∃ left there,
      disk.LeadsTo workingDirectory directory left there ∧
        disk.IsOpen there ∧
          found = ⟨there ++ [name], disk.get? (there ++ [name])⟩ := by
  obtain ⟨left, there, leads, walks⟩ :=
    leadsTo_of_locate_child (not_special_of_isPlain isPlain).1 locates
  obtain ⟨isOpen, ⟨isFound, -⟩ | ⟨-, _, target, -, stands, -⟩⟩ :=
    walks.cases_of_isPlain isPlain
  · exact ⟨left, there, leads, isOpen, isFound⟩
  · have findsLink :=
      entryAt_child_of_get? (locate_eq_ok_iff.mp locates).1 leads isOpen
        isPlain stands
    exact absurd findsLink (notLink _ target)

/-- A file that is found by a plain name that is no link stands under that name. -/
theorem entryAt_of_unlinked
    {location : Location}
    {file : File}
    (isPlain : name.isPlain = true)
    (notLink : disk.LacksLink workingDirectory (directory.child name))
    (finds :
      disk.entryAt workingDirectory true (directory.child name) =
        .ok (location, .file file)) :
    disk.entryAt workingDirectory false (directory.child name) =
      .ok (location, .file file) := by
  have locates := entryAt_eq_ok_iff.mp finds
  obtain ⟨_, there, leads, isOpen, isFound⟩ :=
    exists_of_locate_unlinked isPlain notLink locates
  obtain ⟨rfl, stands⟩ := Found.mk.inj isFound
  exact entryAt_child_of_get? (locate_eq_ok_iff.mp locates).1 leads isOpen
    isPlain stands.symm

/-- A file that stands under a plain name in a directory is found by it. -/
theorem entryAt_of_itself
    {location : Location}
    {file : File}
    (isPlain : name.isPlain = true)
    (finds :
      disk.entryAt workingDirectory false (directory.child name) =
        .ok (location, .file file)) :
    disk.entryAt workingDirectory true (directory.child name) =
        .ok (location, .file file) ∧
      ∃ left there,
        disk.LeadsTo workingDirectory directory left there ∧
          disk.HasDirectory there ∧ location = there ++ [name] := by
  obtain ⟨-, -, -, notHere, notUp, -⟩ := not_special_of_isPlain isPlain
  have locates := entryAt_eq_ok_iff.mp finds
  have isUsable := (locate_eq_ok_iff.mp locates).1
  obtain ⟨left, there, leads, isOpen, isFound⟩ :=
    exists_of_locate_child notHere notUp locates
  obtain ⟨rfl, stands⟩ := Found.mk.inj isFound
  refine ⟨?_, left, there, leads, isOpen.hasDirectory, rfl⟩
  rw [entryAt, locate_child isUsable leads,
    walk_of_get? isOpen isPlain stands.symm (Or.inl rfl)]
  rfl

/-- A path leads to the same directory as long as everything but files stays. -/
theorem LeadsTo.of_stays
    {left : Nat}
    {there : Location}
    (leads : disk.LeadsTo workingDirectory directory left there)
    (isDirectory : disk.HasDirectory there)
    (stays : disk.Stays later) :
    later.LeadsTo workingDirectory directory left there := by
  obtain ⟨mode, stands⟩ := isDirectory
  exact Leads.of_stays leads stays
    ((stays _ _ stands rfl).trans stands.symm)

theorem IsOpen.of_stays
    {there : Location}
    (isOpen : disk.IsOpen there)
    (stays : disk.Stays later) :
    later.IsOpen there := by
  obtain ⟨mode, stands, mayPass⟩ := isOpen
  exact ⟨mode, stays _ _ stands rfl, mayPass⟩

/-- A file that is found can be read on a later disk if its owner may still do so. -/
theorem findsFile_of_stays
    {location : Location}
    {file other : File}
    (finds :
      disk.entryAt workingDirectory true path = .ok (location, .file file))
    (stays : disk.Stays later)
    (stands : later.get? location = some (.file other))
    (mayRead : (Entry.file other).allows .read = true) :
    later.FindsFile workingDirectory path location other.content :=
  ⟨other, entryAt_of_stays_file finds stays stands, mayRead, rfl⟩

/-- A file that is copied over another one holds what its original holds afterwards. -/
theorem findsFile_of_copyFile_over
    {original copy : Path}
    {location : Location}
    {file : File}
    (findsCopy :
      disk.entryAt workingDirectory true copy = .ok (location, .file file))
    (copies : disk.copyFile workingDirectory original copy = .ok later) :
    ∃ content place,
      later.FindsFile workingDirectory original place content ∧
        later.FindsFile workingDirectory copy location content := by
  obtain ⟨place, source, finds, mayRead, -⟩ := readFile_of_copyFile copies
  obtain ⟨_, _, emptied, finds', opens, ends⟩ := copyFile_eq_ok copies
  obtain ⟨rfl, isSource⟩ :=
    Prod.mk.inj (Except.ok.inj (finds.symm.trans finds'))
  obtain rfl := Entry.file.inj isSource
  have locates := entryAt_eq_ok_iff.mp findsCopy
  have stays := stays_copyFile copies
  have isEmptied :
      emptied =
        disk.updateFile location fun file =>
          { file with mode := source.mode, content := [], stamp := none } := by
    rcases openFile_eq_ok opens with
      ⟨_, isMissing, -⟩ | ⟨_, _, isFound, isChanged⟩
    · simp [locates] at isMissing
    · obtain ⟨rfl, -⟩ := Found.mk.inj (Except.ok.inj (locates.symm.trans isFound))
      exact isChanged
  set empties : File → File :=
    fun file => { file with mode := source.mode, content := [], stamp := none }
  have stands := get?_of_entryAt findsCopy
  have standsEmpty :
      emptied.get? location = some (.file (empties file)) :=
    isEmptied ▸ get?_updateFile_self stands empties
  have locatesEmptied :=
    entryAt_eq_ok_iff.mp
      (entryAt_of_stays_file findsCopy (stays_openFile opens) standsEmpty)
  -- The original may be a hard link of the copy, and then it is emptied and filled with it.
  have changes (content : Bytes) :=
    get?_updateFile_updateFile stands empties
      (fun file => file.extended content) (fun _ => rfl) place
  rw [← isEmptied, get?_of_entryAt finds] at changes
  rcases ends with
    ⟨remaining, found, standsRemaining, locates', rfl⟩ | ⟨isNever, -⟩
  · obtain rfl := Except.ok.inj (locatesEmptied.symm.trans locates')
    have copied :=
      findsFile_of_stays findsCopy stays
        (get?_updateFile_self standsEmpty _)
        ((File.allows_read_extended _ _).trans mayRead)
    rw [File.content_extended rfl] at copied
    refine ⟨remaining.content, place, ?_, copied⟩
    rcases changes remaining.content with
      ⟨isSame, isSameLater⟩ | ⟨found, isFound, isEmpty, isExtended⟩
    · obtain rfl :=
        Entry.file.inj (Option.some.inj (standsRemaining.symm.trans isSame))
      exact findsFile_of_stays finds stays isSameLater mayRead
    · obtain rfl := Entry.file.inj (Option.some.inj isFound)
      obtain rfl :=
        Entry.file.inj (Option.some.inj (standsRemaining.symm.trans isEmpty))
      exact findsFile_of_stays finds stays isExtended mayRead
  · rcases changes [] with ⟨isSame, -⟩ | ⟨_, -, isEmpty, -⟩
    · exact (isNever _ _ isSame locatesEmptied).elim
    · exact (isNever _ _ isEmpty locatesEmptied).elim

/-- A plain name that is no link afterwards was none before, if everything but files stays. -/
theorem LacksLink.of_later
    (isPlain : name.isPlain = true)
    (stays : disk.Stays later)
    (lacks : later.LacksLink workingDirectory (directory.child name)) :
    disk.LacksLink workingDirectory (directory.child name) := by
  intro location target finds
  obtain ⟨-, -, -, notHere, notUp, -⟩ := not_special_of_isPlain isPlain
  have isUsable := (locate_eq_ok_iff.mp (entryAt_eq_ok_iff.mp finds)).1
  obtain ⟨_, there, leads, isOpen, isFound⟩ :=
    exists_of_locate_child notHere notUp (entryAt_eq_ok_iff.mp finds)
  obtain ⟨rfl, stands⟩ := Found.mk.inj isFound
  have leadsLater := leads.of_stays isOpen.hasDirectory stays
  have standsLater := stays _ _ stands.symm rfl
  have findsLater :=
    entryAt_child_of_get? isUsable leadsLater (isOpen.of_stays stays) isPlain
      standsLater
  exact lacks _ target findsLater

/--
A file that is copied to a name that is no link is found there, with the content that is read from the original
afterwards.
-/
theorem findsFile_of_copyFile
    {original : Path}
    (isPlain : name.isPlain = true)
    (notLink : disk.LacksLink workingDirectory (directory.child name))
    (copies :
      disk.copyFile workingDirectory original (directory.child name) =
        .ok later) :
    ∃ content left there,
      later.readFile workingDirectory original = .ok content ∧
        later.LeadsTo workingDirectory directory left there ∧
          later.FindsFile workingDirectory (directory.child name)
            (there ++ [name]) content := by
  obtain ⟨_, _, _, -, opens, -⟩ := copyFile_eq_ok copies
  rcases openFile_eq_ok opens with
    ⟨location, locates, -⟩ | ⟨location, file, locates, -⟩
  · obtain ⟨left, there, leads, isOpen, isFound⟩ :=
      exists_of_locate_unlinked isPlain notLink locates
    obtain ⟨-, isMissing⟩ := Found.mk.inj isFound
    have lacks : disk.LacksChild workingDirectory directory name := by
      intro _ place ledTo
      obtain rfl := (leads.unique ledTo).2
      exact ⟨Or.inr isOpen, isMissing.symm⟩
    obtain ⟨content, left, there, _, reads, leads, gains, readsCopy⟩ :=
      lacks.copyFile isPlain copies
    exact ⟨content, left, there, gains.within.readFile reads,
      leads.mono gains.within, gains.findsFile leads isPlain readsCopy⟩
  · obtain ⟨left, there, leads, isOpen, isFound⟩ :=
      exists_of_locate_unlinked isPlain notLink locates
    obtain ⟨rfl, -⟩ := Found.mk.inj isFound
    obtain ⟨content, _, original, copied⟩ :=
      findsFile_of_copyFile_over (entryAt_eq_ok_iff.mpr locates) copies
    exact ⟨content, left, there, original.readFile,
      leads.of_stays isOpen.hasDirectory (stays_copyFile copies), copied⟩

/-! ## Files that are put in place of others -/

theorem status_eq_file
    {mode : Nat}
    (isFile :
      disk.status workingDirectory true path = .ok ⟨.file, mode⟩) :
    ∃ place file,
      disk.entryAt workingDirectory true path = .ok (place, .file file) := by
  unfold status at isFile
  cases finds : disk.entryAt workingDirectory true path with
  | error fault =>
      rw [finds] at isFile
      simp [Except.map] at isFile
  | ok found =>
      obtain ⟨place, entry⟩ := found
      rw [finds] at isFile
      cases entry with
      | file file => exact ⟨place, file, rfl⟩
      | directory | link => simp [Except.map, statusOf, kindOf] at isFile

section

variable {location : Location}
variable {file : File}
variable (puts : disk.PutsFile later location file)

include puts

/-- Everything but files stays when a file is put in place of nothing or of a file. -/
theorem PutsFile.stays
    (notDirectory : ¬disk.HasDirectory location)
    (notLink : ∀ target, disk.get? location ≠ some (.link target)) :
    disk.Stays later := by
  intro other entry stands notFile
  by_cases isPlace : other = location
  · subst isPlace
    cases entry with
    | directory mode => exact absurd ⟨mode, stands⟩ notDirectory
    | link target => exact absurd stands (notLink target)
    | file => simp [Entry.isFile] at notFile
  · exact (puts.isSame other isPlace).trans stands

/-- A path that led to a file leads to one. -/
theorem PutsFile.exists_status
    {mode : Nat}
    (stays : disk.Stays later)
    (isFile :
      disk.status workingDirectory true path = .ok ⟨.file, mode⟩) :
    ∃ other,
      later.status workingDirectory true path = .ok ⟨.file, other⟩ := by
  obtain ⟨place, found, finds⟩ := status_eq_file isFile
  have findsNow :
      ∃ other,
        later.entryAt workingDirectory true path =
          .ok (place, .file other) := by
    by_cases isPlace : place = location
    · subst isPlace
      exact ⟨file, entryAt_of_stays_file finds stays puts.stands⟩
    · exact ⟨found, entryAt_of_stays finds stays (puts.isSame place isPlace)⟩
  obtain ⟨other, isOther⟩ := findsNow
  exact ⟨other.mode, by rw [status, isOther]; rfl⟩

end

end Disk

/-- A content that is written to a name that is no link is found there, and everything but that file stays. -/
theorem Files.ends_writeAtomically_unlinked
    {workingDirectory : Location}
    {children : Disk.Children}
    {step : Stepping Disk}
    {disk last : Disk}
    {directory : Path}
    {left : Nat}
    {there : Location}
    {name : Name}
    {content : Bytes}
    (answersBy : Disk.AnswersBy workingDirectory children step)
    (tree : disk.IsTree)
    (isPlain : name.isPlain = true)
    (leads : disk.LeadsTo workingDirectory directory left there)
    (isDirectory : disk.HasDirectory there)
    (notLink : disk.LacksLink workingDirectory (directory.child name))
    (noTemporary :
      ∀ processId found,
        disk.entryAt workingDirectory false
            ((directory.child name).withFileName
              (.text (temporaryName (directory.child name) processId))) ≠
          .ok found)
    (ends :
      Ends step (writeAtomically (directory.child name) content).run disk
        (.ok ()) last) :
    disk.PutsFile last (there ++ [name]) { mode := 0o644, content } ∧
      disk.Stays last ∧
        last.FindsFile workingDirectory (directory.child name)
          (there ++ [name]) content := by
  obtain ⟨-, -, -, notHere, notUp, -⟩ := Disk.not_special_of_isPlain isPlain
  obtain ⟨isUsable, isOpen, notThere, puts⟩ :=
    ends_writeAtomically_over answersBy tree notHere notUp leads isDirectory
      (fun processId location entry finds =>
        absurd finds (noTemporary processId _)) ends
  have stays : disk.Stays last := by
    refine puts.stays notThere fun target stands => ?_
    have findsLink :=
      Disk.entryAt_child_of_get? isUsable leads isOpen isPlain stands
    exact notLink _ target findsLink
  have leadsNow := leads.of_stays isDirectory stays
  have finds :
      last.entryAt workingDirectory true (directory.child name) =
        .ok (there ++ [name], .file { mode := 0o644, content }) := by
    rw [Disk.entryAt, Disk.locate_child isUsable leadsNow,
      Disk.walk_of_get? (isOpen.of_stays stays) isPlain puts.stands
        (Or.inl rfl)]
    rfl
  have mayRead :
      (Entry.file { mode := 0o644, content }).allows .read = true := by
    simp [Entry.allows, Entry.mode, Access.bit]
  exact ⟨puts, stays, _, finds, mayRead, rfl⟩

end Provision
