import Mathlib.Data.Nat.Bitwise
import Provision.Proofs.Storage.Making

namespace Provision

/-!
# Files that are cleared away and copied

An entry of a directory that was removed is missing wherever the path of the directory leads, and it stays
missing while more is removed and directories are made.  A file that is copied to a missing entry holds
what the original holds, and nothing else on the disk changes.
-/

open Plan

/-- That something is missing is told in one way only. -/
theorem DiskFault.eq_of_isMissing
    (fault : DiskFault)
    (isMissing : fault.isMissing = true) :
    fault = .refused .noEntry := by
  unfold DiskFault.isMissing at isMissing
  split at isMissing
  · rfl
  · simp at isMissing

namespace File

/-- A number has a bit exactly if it has something in common with the power of two. -/
theorem and_two_pow_ne_zero_iff (mode bit : Nat) :
    mode &&& 2 ^ bit ≠ 0 ↔ mode.testBit bit = true := by
  rw [Nat.and_two_pow]
  cases mode.testBit bit <;> simp

/-- Taking away a higher bit changes no lower one. -/
theorem testBit_sub_two_pow
    {mode low : Nat}
    (high : Nat)
    (isLower : low < high)
    (isSet : mode.testBit high = true) :
    (mode - 2 ^ high).testBit low = mode.testBit low := by
  obtain ⟨rest, rfl⟩ :=
    Nat.exists_eq_add_of_le (Nat.ge_two_pow_of_testBit isSet)
  rw [Nat.add_sub_cancel_left]
  exact (Nat.testBit_two_pow_add_gt isLower rest).symm

/-- The bits for the owner stay when a file is written. -/
theorem testBit_modeOnceWritten
    {bit : Nat}
    (isLower : bit < 10)
    (mode : Nat) :
    (modeOnceWritten mode).testBit bit = mode.testBit bit := by
  have ofOwner :
      (if mode &&& 0o4000 ≠ 0 then mode - 0o4000 else mode).testBit bit =
        mode.testBit bit := by
    split
    · rename_i isSet
      exact testBit_sub_two_pow 11 (by omega)
        ((and_two_pow_ne_zero_iff mode 11).mp isSet)
    · rfl
  rw [modeOnceWritten]
  generalize
    (if mode &&& 0o4000 ≠ 0 then mode - 0o4000 else mode) = written
    at ofOwner ⊢
  rw [← ofOwner]
  split
  · rename_i areSet
    refine testBit_sub_two_pow 10 isLower ?_
    have areBits :
        (written.testBit 10 && Nat.testBit 0o2010 10) =
          Nat.testBit 0o2010 10 := by
      rw [← Nat.testBit_and, areSet]
    exact (Bool.and_eq_true_iff.mp areBits).1
  · rfl

/-- Whether the owner may read a file does not change when it gets other content. -/
theorem allows_read_rewritten
    (file : File)
    (content : Bytes) :
    (Entry.file (file.rewritten content)).allows .read =
      (Entry.file file).allows .read := by
  have isBit (mode : Nat) : decide (mode &&& 0o400 ≠ 0) = mode.testBit 8 :=
    Bool.eq_iff_iff.mpr
      (decide_eq_true_iff.trans (and_two_pow_ne_zero_iff mode 8))
  exact (isBit _).trans
    ((testBit_modeOnceWritten (by omega) file.mode).trans (isBit _).symm)

/-- Whether the owner may read a file does not change when it is written. -/
theorem allows_read_extended
    (file : File)
    (content : Bytes) :
    (Entry.file (file.extended content)).allows .read =
      (Entry.file file).allows .read := by
  rw [extended]
  split
  · rfl
  · exact allows_read_rewritten file _

/-- What is written to an empty file is what it holds. -/
theorem content_extended
    {file : File}
    (isEmpty : file.content = [])
    (content : Bytes) :
    (file.extended content).content = content := by
  rw [extended]
  split
  · rename_i isNil
    rw [isEmpty, List.isEmpty_iff.mp isNil]
  · rw [rewritten, isEmpty, List.nil_append]

end File

namespace Disk

variable {disk later after : Disk}
variable {workingDirectory : Location}
variable {path directory : Path}
variable {name : Name}

/-! ## Disks with less -/

/-- All that stands on a disk stands on another one. -/
def Within (disk other : Disk) : Prop :=
  ∀ location entry,
    disk.get? location = some entry →
    other.get? location = some entry

/-- All that stands on a disk stands on it. -/
theorem Within.refl (disk : Disk) : disk.Within disk :=
  fun _ _ => id

/-- What stands on a disk stands on every disk that has all that is on a third one in between. -/
theorem Within.trans
    (within : disk.Within later)
    (again : later.Within after) :
    disk.Within after :=
  fun location entry stands =>
    again location entry (within location entry stands)

/-- All that stands on a disk still stands when something is put where nothing stood. -/
theorem within_set
    {location : Location}
    {entry : Entry}
    (isMissing : disk.get? location = none) :
    disk.Within (disk.set location entry) := by
  intro other found stands
  have isOther : other ≠ location := by
    rintro rfl
    simp [stands] at isMissing
  rw [get?_set_of_ne disk entry isOther]
  exact stands

/-- What is missing on a disk is missing on one with less. -/
theorem Within.get?_eq_none
    {location : Location}
    (within : disk.Within later)
    (isMissing : later.get? location = none) :
    disk.get? location = none := by
  cases stands : disk.get? location with
  | none => rfl
  | some entry =>
      rw [within location entry stands] at isMissing
      simp at isMissing

/-- What is read on a disk is read on one with more. -/
theorem Within.readFile
    {content : Bytes}
    (within : disk.Within later)
    (reads : disk.readFile workingDirectory path = .ok content) :
    later.readFile workingDirectory path = .ok content := by
  obtain ⟨location, file, finds, -⟩ := exists_of_readFile_eq_ok reads
  rw [Disk.readFile, finds] at reads
  rw [Disk.readFile, entryAt_mono finds within]
  exact reads

/-- A tree stays one if what is above that which stays stays. -/
theorem IsTree.of_within
    (tree : disk.IsTree)
    (within : later.Within disk)
    (stays :
      ∀ location entry above,
        later.get? location = some entry →
        above <+: location →
        above ≠ location →
        disk.HasDirectory above →
        later.get? above = disk.get? above) :
    later.IsTree := by
  intro location entry stands
  obtain ⟨standing, arePlain⟩ :=
    tree location entry (within location entry stands)
  refine ⟨fun above isAbove isOther => ?_, arePlain⟩
  have isDirectory := standing above isAbove isOther
  have isSame := stays location entry above stands isAbove isOther isDirectory
  obtain ⟨mode, standsAbove⟩ := isDirectory
  exact ⟨mode, isSame.trans standsAbove⟩

/-- A tree stays one when something else than a directory is taken away. -/
theorem IsTree.erase
    {location : Location}
    (tree : disk.IsTree)
    (notDirectory : ¬disk.HasDirectory location) :
    (disk.erase location).IsTree := by
  refine tree.of_within (fun _ _ => get?_of_get?_erase) ?_
  intro place entry above _ _ _ isDirectory
  refine get?_erase_of_ne disk ?_
  rintro rfl
  exact notDirectory isDirectory

/-- A tree stays one when a tree is removed from it. -/
theorem IsTree.of_removeTree
    (tree : disk.IsTree)
    (removes : disk.removeTree workingDirectory path = .ok after) :
    after.IsTree ∧ after.Within disk := by
  obtain ⟨location, ⟨mode, -, isCleared⟩ | ⟨target, finds, rfl⟩⟩ :=
    removeTree_eq_ok removes
  · simp only [List.isPrefixOf_iff_prefix] at isCleared
    refine ⟨tree.of_cleared isCleared, fun place entry stands => ?_⟩
    rw [isCleared] at stands
    split at stands
    · simp at stands
    · exact stands
  · refine ⟨tree.erase ?_, fun _ _ => get?_of_get?_erase⟩
    rintro ⟨mode, stands⟩
    rw [get?_of_entryAt finds] at stands
    simp at stands

/-- A tree stays one when all is removed from a directory that is then told to be missing. -/
theorem IsTree.leftOver
    {fault : DiskFault}
    (tree : disk.IsTree)
    (removes : disk.removeTree workingDirectory path = .error fault)
    (isMissing : fault.isMissing = true) :
    (disk.leftOver workingDirectory path).IsTree ∧
      (disk.leftOver workingDirectory path).Within disk := by
  unfold removeTree at removes
  unfold Disk.leftOver
  split
  · rename_i location mode finds
    rw [finds] at removes
    dsimp only at removes
    split at removes
    · rename_i mayEmpty
      refine ⟨tree.of_within (fun _ _ => get?_of_get?_emptied) ?_,
        fun _ _ => get?_of_get?_emptied⟩
      intro place entry above stands isAbove _ _
      rcases disk.get?_emptied location above with
        isSame | ⟨-, below, notNil, rfl⟩
      · exact isSame
      · obtain ⟨rest, rfl⟩ := isAbove
        rw [List.append_assoc,
          get?_emptied_of_mayEmpty mayEmpty (by simp [notNil])] at stands
        simp at stands
    · obtain rfl := Except.error.inj removes
      simp [DiskFault.isMissing] at isMissing
  · exact ⟨tree, .refl disk⟩

/-! ## Missing entries -/

/-- A path that can be used is looked up by its names. -/
theorem locate_of_isUsable
    (isUsable : path.isUsable = true)
    (followLast : Bool) :
    disk.locate workingDirectory followLast path =
      (walk disk followLast maxLinks (path.start workingDirectory)
        path.names).mapError .refused := by
  simp only [Path.isUsable, Bool.and_eq_true, Bool.not_eq_true',
    decide_eq_true_eq] at isUsable
  obtain ⟨⟨noZero, notEmpty⟩, isShort⟩ := isUsable
  rw [locate, noZero, if_neg Bool.false_ne_true, if_neg notEmpty,
    if_neg (Nat.not_lt.mpr isShort), Path.start, Path.names]
  split <;> rfl

/-- A path that is told to lead to nothing can be used, unless it is empty. -/
theorem isUsable_of_missing
    {followLast : Bool}
    (notEmpty : path ≠ Path.empty)
    (isMissing :
      disk.entryAt workingDirectory followLast path =
        .error (.refused .noEntry)) :
    path.isUsable = true := by
  by_contra notUsable
  rw [entryAt, locate] at isMissing
  simp only [Path.isUsable, Bool.and_eq_true, Bool.not_eq_true',
    decide_eq_true_eq, not_and, Nat.not_le] at notUsable
  by_cases hasZero : path.segments.any Name.hasZero = true
  · rw [if_pos hasZero] at isMissing
    simp at isMissing
  · have isLong := notUsable ⟨Bool.eq_false_iff.mpr hasZero, notEmpty⟩
    rw [if_neg hasZero, if_neg notEmpty, if_pos isLong] at isMissing
    simp at isMissing

/-- An entry of a directory has a name, so that its path is not empty. -/
theorem child_ne_empty
    (directory : Path)
    (isNamed : name ≠ .text "") :
    directory.child name ≠ Path.empty := by
  intro isEmpty
  have isNames := Path.names_child directory name
  rw [isEmpty] at isNames
  have isLast := congrArg List.getLast? isNames
  rw [List.getLast?_concat] at isLast
  exact isNamed (Option.some.inj isLast).symm

/-- An entry of a directory is looked up where the directory leads. -/
theorem locate_child
    {left : Nat}
    {there : Location}
    (isUsable : (directory.child name).isUsable = true)
    (leads : disk.LeadsTo workingDirectory directory left there)
    (followLast : Bool) :
    disk.locate workingDirectory followLast (directory.child name) =
      (walk disk followLast left there [name]).mapError .refused := by
  rw [locate_of_isUsable isUsable, Path.start_child, Path.names_child,
    walk_of_leads leads (List.cons_ne_nil name [])]

/-- An entry that is there is found in a directory that may be searched. -/
theorem walk_of_get?
    {links : Nat}
    {here : Location}
    {entry : Entry}
    (isOpen : disk.IsOpen here)
    (isPlain : name.isPlain = true)
    (stands : disk.get? (here ++ [name]) = some entry)
    {followLast : Bool}
    (stays : entry.isLink = false ∨ followLast = false) :
    walk disk followLast links here [name] =
      .ok ⟨here ++ [name], some entry⟩ := by
  refine walk_of_walks ?_
  cases isLink : entry.isLink with
  | false =>
      rw [← stands]
      exact .step (.down isOpen isPlain stands isLink) (Or.inl rfl)
        (.arrived links _)
  | true =>
      cases entry with
      | link target =>
          exact .link isOpen isPlain stands
            (stays.resolve_left (by simp [Entry.isLink]))
      | directory | file => simp [Entry.isLink] at isLink

/-- Nothing is looked up where there is nothing, or no directory that may be searched. -/
theorem walk_of_not_isOpen
    {followLast : Bool}
    {links : Nat}
    {here : Location}
    {entry : Entry}
    (notEmpty : name ≠ .text "")
    (stands : disk.get? here = some entry)
    (notOpen : ¬disk.IsOpen here) :
    walk disk followLast links here [name] = .error .permission ∨
      walk disk followLast links here [name] = .error .notDirectory := by
  obtain ⟨follow, isWalk, -⟩ := exists_walkWith disk followLast links
  rw [isWalk, walkWith, stands]
  cases entry with
  | file | link => exact Or.inr rfl
  | directory mode =>
      have mayNot : (Entry.directory mode).allows .execute = false :=
        Bool.eq_false_iff.mpr fun mayPass => notOpen ⟨mode, stands, mayPass⟩
      simp [notEmpty, mayNot]

/--
No entry with a name stands where a path leads, and it is a directory that may be searched if anything is
there.
-/
def LacksChild
    (disk : Disk)
    (workingDirectory : Location)
    (directory : Path)
    (name : Name) :
    Prop :=
  ∀ left there,
    disk.LeadsTo workingDirectory directory left there →
    (disk.get? there = none ∨ disk.IsOpen there) ∧
      disk.get? (there ++ [name]) = none

/-- An entry that is missing is missing on a disk with less. -/
theorem LacksChild.of_within
    (lacks : disk.LacksChild workingDirectory directory name)
    (within : later.Within disk) :
    later.LacksChild workingDirectory directory name := by
  intro left there leads
  obtain ⟨isThere, isMissing⟩ := lacks left there (leads.mono within)
  refine ⟨?_, within.get?_eq_none isMissing⟩
  cases stands : later.get? there with
  | none => exact Or.inl rfl
  | some entry =>
      refine Or.inr ?_
      have stood := within there entry stands
      rcases isThere with isNone | ⟨mode, isDirectory, mayPass⟩
      · rw [stood] at isNone
        simp at isNone
      · exact ⟨mode, stands.trans (stood.symm.trans isDirectory), mayPass⟩

/-- An entry is missing in a fresh directory. -/
theorem IsFresh.lacksChild
    {left : Nat}
    {there : Location}
    (isFresh : disk.IsFresh there)
    (leads : disk.LeadsTo workingDirectory directory left there)
    (name : Name) :
    disk.LacksChild workingDirectory directory name := by
  intro _ place leadsTo
  obtain rfl : place = there := (leads.unique leadsTo).2
  exact ⟨Or.inr isFresh.1, isFresh.2 [name] (List.cons_ne_nil name [])⟩

/-- An entry is missing if it is not found. -/
theorem lacksChild_of_missing
    (tree : disk.IsTree)
    (isPlain : name.isPlain = true)
    (isMissing :
      disk.entryAt workingDirectory false (directory.child name) =
        .error (.refused .noEntry)) :
    disk.LacksChild workingDirectory directory name := by
  intro left there leads
  have isUsable :=
    isUsable_of_missing
      (child_ne_empty directory (not_special_of_isPlain isPlain).1) isMissing
  rw [entryAt, locate_child isUsable leads] at isMissing
  cases stands : disk.get? there with
  | none =>
      refine ⟨Or.inl rfl,
        tree.get?_eq_none ?_ (List.prefix_append there [name]) (by simp)⟩
      rintro ⟨mode, isDirectory⟩
      rw [stands] at isDirectory
      simp at isDirectory
  | some entry =>
      by_cases isOpen : disk.IsOpen there
      · refine ⟨Or.inr isOpen, ?_⟩
        cases isChild : disk.get? (there ++ [name]) with
        | none => rfl
        | some child =>
            rw [walk_of_get? isOpen isPlain isChild (Or.inr rfl)] at isMissing
            cases isMissing
      · have notEmpty := (not_special_of_isPlain isPlain).1
        rcases walk_of_not_isOpen notEmpty stands isOpen with
          isFault | isFault <;>
        · rw [isFault] at isMissing
          cases isMissing

/-- An entry that was removed is missing. -/
theorem lacksChild_of_removeFile
    (tree : disk.IsTree)
    (isPlain : name.isPlain = true)
    (removes :
      disk.removeFile workingDirectory (directory.child name) = .ok after) :
    after.IsTree ∧ after.Within disk ∧
      after.LacksChild workingDirectory directory name := by
  obtain ⟨location, entry, finds, notDirectory, rfl⟩ :=
    removeFile_eq_ok removes
  have within : (disk.erase location).Within disk :=
    fun _ _ => get?_of_get?_erase
  have stands := get?_of_entryAt finds
  refine ⟨tree.erase ?_, within, fun left place leads => ?_⟩
  · rintro ⟨mode, isDirectory⟩
    rw [stands] at isDirectory
    obtain rfl := Option.some.inj isDirectory
    simp [Entry.isDirectory] at notDirectory
  · obtain ⟨_, there, leadsTo, walks⟩ :=
      leadsTo_of_locate_child (not_special_of_isPlain isPlain).1
        (entryAt_eq_ok_iff.mp finds)
    obtain rfl : there = place := ((leads.mono within).unique leadsTo).2
    obtain ⟨⟨mode, isDirectory, mayPass⟩, ⟨isFound, -⟩ | ⟨isError, -⟩⟩ :=
      walks.cases_of_isPlain isPlain
    · obtain ⟨rfl, -⟩ := Found.mk.inj isFound
      have isElsewhere : there ≠ there ++ [name] := by simp
      exact ⟨Or.inr ⟨mode, (get?_erase_of_ne disk isElsewhere).trans
        isDirectory, mayPass⟩, get?_erase_self disk _⟩
    · simp at isError

/-- The path of what was removed can be used. -/
theorem isUsable_of_removeFile
    (removes : disk.removeFile workingDirectory path = .ok after) :
    path.isUsable = true := by
  obtain ⟨_, _, finds, -, -⟩ := removeFile_eq_ok removes
  exact (locate_eq_ok_iff.mp (entryAt_eq_ok_iff.mp finds)).1

/-- Nothing is read where an entry is missing. -/
theorem LacksChild.readFile
    {left : Nat}
    {there : Location}
    (lacks : disk.LacksChild workingDirectory directory name)
    (leads : disk.LeadsTo workingDirectory directory left there)
    (isPlain : name.isPlain = true)
    (isUsable : (directory.child name).isUsable = true) :
    disk.readFile workingDirectory (directory.child name) =
      .error (.refused .noEntry) := by
  have isMissing :
      disk.entryAt workingDirectory true (directory.child name) =
        .error (.refused .noEntry) := by
    rw [entryAt, locate_child isUsable leads]
    obtain ⟨isNone | isOpen, isNone'⟩ := lacks left there leads
    · obtain ⟨follow, isWalk, -⟩ := exists_walkWith disk true left
      rw [isWalk, walkWith, isNone]
      rfl
    · rw [walk_of_walks (.missing isOpen isPlain isNone' rfl)]
      rfl
  rw [Disk.readFile, isMissing]

/-- What is looked for under the name of a missing entry is not there. -/
theorem LacksChild.of_locate
    {found : Found}
    (lacks : disk.LacksChild workingDirectory directory name)
    (isPlain : name.isPlain = true)
    (locates :
      disk.locate workingDirectory true (directory.child name) =
        .ok found) :
    ∃ left there,
      disk.LeadsTo workingDirectory directory left there ∧
        disk.IsOpen there ∧ disk.get? (there ++ [name]) = none ∧
          found = ⟨there ++ [name], none⟩ := by
  obtain ⟨left, there, leads, walks⟩ :=
    leadsTo_of_locate_child (not_special_of_isPlain isPlain).1 locates
  have isMissing := (lacks left there leads).2
  obtain ⟨isOpen, ⟨isFound, -⟩ | ⟨-, _, target, -, stands, -⟩⟩ :=
    walks.cases_of_isPlain isPlain
  · exact ⟨left, there, leads, isOpen, isMissing, isMissing ▸ isFound⟩
  · rw [isMissing] at stands
    simp at stands

/-! ## Copies -/

/-- What a disk is after a file was put where nothing stood in a directory. -/
structure GainsFile
    (disk later : Disk)
    (directory : Location)
    (name : Name)
    (file : File) :
    Prop where
  isOpen : disk.IsOpen directory
  wasMissing : disk.get? (directory ++ [name]) = none
  stands : later.get? (directory ++ [name]) = some (.file file)
  isSame : ∀ other, other ≠ directory ++ [name] → later.get? other = disk.get? other

/-- All that stood stands when a file has come. -/
theorem GainsFile.within
    {there : Location}
    {file : File}
    (gains : disk.GainsFile later there name file) :
    disk.Within later := by
  intro location entry stands
  have isElsewhere : location ≠ there ++ [name] := by
    rintro rfl
    rw [gains.wasMissing] at stands
    simp at stands
  exact (gains.isSame location isElsewhere).trans stands

/-- Another entry is missing in a directory that a file has come to if it was missing before. -/
theorem LacksChild.of_gainsFile
    {left : Nat}
    {there : Location}
    {file : File}
    {other : Name}
    (lacks : disk.LacksChild workingDirectory directory other)
    (leads : disk.LeadsTo workingDirectory directory left there)
    (gains : disk.GainsFile later there name file)
    (isOther : other ≠ name) :
    later.LacksChild workingDirectory directory other := by
  intro _ place leadsTo
  obtain rfl : place = there :=
    ((leads.mono gains.within).unique leadsTo).2
  obtain ⟨mode, stands, mayPass⟩ := gains.isOpen
  refine ⟨Or.inr ⟨mode, gains.within _ _ stands, mayPass⟩, ?_⟩
  rw [gains.isSame _ (by simpa using isOther)]
  exact (lacks left place leads).2

/-- A file that has come is found. -/
theorem GainsFile.locate
    {left : Nat}
    {there : Location}
    {file : File}
    (gains : disk.GainsFile later there name file)
    (leads : disk.LeadsTo workingDirectory directory left there)
    (isPlain : name.isPlain = true)
    (isUsable : (directory.child name).isUsable = true) :
    later.locate workingDirectory true (directory.child name) =
      .ok ⟨there ++ [name], some (.file file)⟩ := by
  obtain ⟨mode, stands, mayPass⟩ := gains.isOpen
  rw [locate_child isUsable (leads.mono gains.within),
    walk_of_get? ⟨mode, gains.within _ _ stands, mayPass⟩ isPlain gains.stands
      (Or.inl rfl)]
  rfl

/-- A file that has come is read if its owner may do so. -/
theorem GainsFile.readFile
    {left : Nat}
    {there : Location}
    {file : File}
    (gains : disk.GainsFile later there name file)
    (leads : disk.LeadsTo workingDirectory directory left there)
    (isPlain : name.isPlain = true)
    (isUsable : (directory.child name).isUsable = true)
    (mayRead : (Entry.file file).allows .read = true) :
    later.readFile workingDirectory (directory.child name) =
      .ok file.content := by
  rw [Disk.readFile,
    entryAt_eq_ok_iff.mpr (gains.locate leads isPlain isUsable)]
  exact if_pos mayRead

/-- A tree stays one when a file comes to it. -/
theorem IsTree.of_gainsFile
    {there : Location}
    {file : File}
    (tree : disk.IsTree)
    (isPlain : name.isPlain = true)
    (gains : disk.GainsFile later there name file) :
    later.IsTree := by
  refine tree.of_new (fun location wasDirectory => ?_) ?_
  · obtain ⟨mode, stands⟩ := wasDirectory
    exact ⟨mode, gains.within _ _ stands⟩
  · intro location entry stands isNone
    by_cases isHere : location = there ++ [name]
    · exact ⟨there, name, isHere, gains.isOpen.hasDirectory, isPlain⟩
    · rw [gains.isSame location isHere, isNone] at stands
      simp at stands

/-- A file that was copied could be read. -/
theorem readFile_of_copyFile
    {original copy : Path}
    (copies : disk.copyFile workingDirectory original copy = .ok after) :
    ∃ location file,
      disk.entryAt workingDirectory true original =
          .ok (location, .file file) ∧
        (Entry.file file).allows .read = true ∧
          disk.readFile workingDirectory original = .ok file.content := by
  unfold copyFile at copies
  split at copies
  · simp at copies
  · rename_i location file finds
    split at copies
    · simp at copies
    · rename_i mayRead
      have mayRead : (Entry.file file).allows .read = true := by
        simpa using mayRead
      exact ⟨location, file, finds, mayRead,
        by rw [readFile, finds]; exact if_pos mayRead⟩
  · simp at copies

/-- A file that is copied to a missing entry comes there with the content of the original. -/
theorem LacksChild.copyFile
    {original : Path}
    (lacks : disk.LacksChild workingDirectory directory name)
    (isPlain : name.isPlain = true)
    (copies :
      disk.copyFile workingDirectory original (directory.child name) =
        .ok after) :
    ∃ content left there file,
      disk.readFile workingDirectory original = .ok content ∧
        disk.LeadsTo workingDirectory directory left there ∧
          disk.GainsFile after there name file ∧
            after.readFile workingDirectory (directory.child name) =
              .ok content := by
  obtain ⟨place, source, finds, mayRead, reads⟩ :=
    readFile_of_copyFile copies
  obtain ⟨_, _, emptied, finds', opens, ends⟩ := copyFile_eq_ok copies
  obtain ⟨rfl, isSource⟩ :=
    Prod.mk.inj (Except.ok.inj (finds.symm.trans finds'))
  obtain rfl := Entry.file.inj isSource
  rcases openFile_eq_ok opens with
    ⟨location, locates, rfl⟩ | ⟨location, file, locates, -⟩
  · obtain ⟨left, there, leads, isOpen, isMissing, isFound⟩ :=
      lacks.of_locate isPlain locates
    obtain ⟨rfl, -⟩ := Found.mk.inj isFound
    have isUsable := (locate_eq_ok_iff.mp locates).1
    -- Once it is opened the copy is an empty file, and the original is as it was.
    set opened : File := { mode := source.mode, content := [] }
    have gainsEmpty :
        disk.GainsFile (disk.set (there ++ [name]) (.file opened)) there name
          opened :=
      ⟨isOpen, isMissing, get?_set_self disk _ _,
        fun other isOther => get?_set_of_ne disk _ isOther⟩
    have standsThere := gainsEmpty.within _ _ (get?_of_entryAt finds)
    have locatesNow := gainsEmpty.locate leads isPlain isUsable
    rcases ends with ⟨remaining, found, stands, locates', rfl⟩ | ⟨isNever, -⟩
    · obtain rfl := Except.ok.inj (locatesNow.symm.trans locates')
      obtain rfl :=
        Entry.file.inj (Option.some.inj (standsThere.symm.trans stands))
      have gains :
          disk.GainsFile
            ((disk.set (there ++ [name]) (.file opened)).updateFile
              (there ++ [name]) fun file => file.extended source.content)
            there name (opened.extended source.content) :=
        ⟨isOpen, isMissing, get?_updateFile_self gainsEmpty.stands _,
          fun other isOther =>
            (get?_updateFile_of_ne gainsEmpty.stands rfl _ isOther).trans
              (gainsEmpty.isSame other isOther)⟩
      refine ⟨source.content, left, there, _, reads, leads, gains, ?_⟩
      have isContent : (opened.extended source.content).content = source.content :=
        File.content_extended rfl source.content
      have mayReadCopy :
          (Entry.file (opened.extended source.content)).allows .read = true :=
        (File.allows_read_extended opened source.content).trans mayRead
      exact (gains.readFile leads isPlain isUsable mayReadCopy).trans
        (congrArg Except.ok isContent)
    · exact (isNever _ _ standsThere locatesNow).elim
  · obtain ⟨_, _, _, _, _, isFound⟩ := lacks.of_locate isPlain locates
    simp at isFound

end Disk

/-! ## Runs -/

namespace Files

variable {workingDirectory : Location}
variable {children : Disk.Children}
variable {step : Stepping Disk}
variable {disk last : Disk}
variable {path directory : Path}
variable {name : Name}
variable (answersBy : Disk.AnswersBy workingDirectory children step)

include answersBy

/-- An entry of a directory that is removed unless it is gone is missing. -/
theorem ends_removeFile_child
    (tree : disk.IsTree)
    (isPlain : name.isPlain = true)
    (ends :
      Ends step (removeFile (directory.child name)).run disk (.ok ()) last) :
    last.IsTree ∧ last.Within disk ∧
      last.LacksChild workingDirectory directory name ∧
        (directory.child name).isUsable = true := by
  obtain ⟨reply, asked, areMissing⟩ :=
    Ends.of_forgiveMissing (ends_attempt_iff.mp ends)
  have answers := answersBy _ _ _ _ (ends_ask_iff.mp asked)
  cases answers with
  | done isDone =>
      obtain ⟨isTree, within, lacks⟩ :=
        Disk.lacksChild_of_removeFile tree isPlain isDone
      exact ⟨isTree, within, lacks, Disk.isUsable_of_removeFile isDone⟩
  | refused isRefused =>
      obtain rfl := DiskFault.eq_of_isMissing _ (areMissing _ rfl)
      have isMissing := Disk.entryAt_of_removeFile_missing isRefused rfl
      have notEmpty :=
        Disk.child_ne_empty directory
          (Disk.not_special_of_isPlain isPlain).1
      exact ⟨tree, .refl _, Disk.lacksChild_of_missing tree isPlain isMissing,
        Disk.isUsable_of_missing notEmpty isMissing⟩
  | unchanged notMissing | brokenOff notMissing =>
      simp [areMissing _ rfl] at notMissing

/-- A tree that is removed unless it is gone leaves a tree. -/
theorem ends_removeTree
    (tree : disk.IsTree)
    (ends : Ends step (removeTree path).run disk (.ok ()) last) :
    last.IsTree ∧ last.Within disk := by
  obtain ⟨reply, asked, areMissing⟩ :=
    Ends.of_forgiveMissing (ends_attempt_iff.mp ends)
  have answers := answersBy _ _ _ _ (ends_ask_iff.mp asked)
  cases answers with
  | done isDone => exact tree.of_removeTree isDone
  | refused isRefused => exact tree.leftOver isRefused (areMissing _ rfl)
  | unchanged notMissing | brokenOff notMissing =>
      simp [areMissing _ rfl] at notMissing

end Files

end Provision
