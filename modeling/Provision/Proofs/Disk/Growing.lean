import Provision.Proofs.Disk.Answering

namespace Provision

/-!
# Disks that grow and disks that wear

A disk grows under actions that only add to it: directories and files stay what they are, a link stays
or a file takes its place, and no link is made.  It wears under actions that make no directory: all but
directories may go.  Ways that led somewhere are kept under both, or they are cut off.
-/

namespace Disk

/-- What stands at a location, and what stands there once something was added to the disk. -/
def Grown : Option Entry → Option Entry → Prop
  | none, later => ∀ target, later ≠ some (.link target)
  | some (.directory _), later => ∃ mode, later = some (.directory mode)
  | some (.file _), later => ∃ file, later = some (.file file)
  | some (.link target), later =>
      later = some (.link target) ∨ ∃ file, later = some (.file file)

/-- What stands at a location, and what stands there once something went or was written. -/
def Worn : Option Entry → Option Entry → Prop
  | none, later => later = none ∨ ∃ file, later = some (.file file)
  | some (.directory _), later => ∃ mode, later = some (.directory mode)
  | some (.file _), later => later = none ∨ ∃ file, later = some (.file file)
  | some (.link target), later =>
      later = some (.link target) ∨ later = none ∨
        ∃ file, later = some (.file file)

/-- Something was added to a disk at most. -/
def Grows (disk later : Disk) : Prop :=
  ∀ location, Grown (disk.get? location) (later.get? location)

/-- Something went or was written on a disk at most. -/
def Wears (disk later : Disk) : Prop :=
  ∀ location, Worn (disk.get? location) (later.get? location)

/-- Ways on a disk are kept, or they are cut off. -/
def KeepsWays (disk later : Disk) : Prop :=
  ∀ location, KeepsWay (disk.get? location) (later.get? location)

/-! ## What stands at one location -/

/-- What stays has grown. -/
theorem Grown.refl (standing? : Option Entry) : Grown standing? standing? := by
  rcases standing? with - | (mode | file | target)
  · exact fun target => by simp
  · exact ⟨mode, rfl⟩
  · exact ⟨file, rfl⟩
  · exact Or.inl rfl

/-- What grows twice has grown. -/
theorem Grown.trans
    {first middle last : Option Entry}
    (grown : Grown first middle)
    (again : Grown middle last) :
    Grown first last := by
  rcases first with - | (mode | file | target)
  · intro target isLink
    subst isLink
    rcases middle with - | (mode | file | other)
    · exact again target rfl
    · simp [Grown] at again
    · simp [Grown] at again
    · exact grown other rfl
  · obtain ⟨mode, rfl⟩ := grown
    exact again
  · obtain ⟨file, rfl⟩ := grown
    exact again
  · rcases grown with rfl | ⟨file, rfl⟩
    · exact again
    · exact Or.inr again

/-- Nothing that has grown is a link, unless it was that link. -/
theorem Grown.eq_link_of_link
    {first last : Option Entry}
    (grown : Grown first last)
    {target : Path}
    (isLink : last = some (.link target)) :
    first = some (.link target) := by
  subst isLink
  rcases first with - | (mode | file | other)
  · exact absurd rfl (grown target)
  · simp [Grown] at grown
  · simp [Grown] at grown
  · simpa [Grown, eq_comm] using grown

/-- No entry grows to a directory, unless it was one. -/
theorem Grown.directory
    {first last : Option Entry}
    (grown : Grown first last)
    {entry : Entry}
    (stood : first = some entry)
    {mode : Nat}
    (isDirectory : last = some (.directory mode)) :
    ∃ mode, first = some (.directory mode) := by
  subst stood isDirectory
  cases entry with
  | directory mode => exact ⟨mode, rfl⟩
  | file file => simp [Grown] at grown
  | link target => simp [Grown] at grown

/-- What stays has worn. -/
theorem Worn.refl (standing? : Option Entry) : Worn standing? standing? := by
  rcases standing? with - | (mode | file | target)
  · exact Or.inl rfl
  · exact ⟨mode, rfl⟩
  · exact Or.inr ⟨file, rfl⟩
  · exact Or.inl rfl

/-- What wears twice has worn. -/
theorem Worn.trans
    {first middle last : Option Entry}
    (worn : Worn first middle)
    (again : Worn middle last) :
    Worn first last := by
  rcases first with - | (mode | file | target)
  · rcases worn with rfl | ⟨file, rfl⟩ <;> exact again
  · obtain ⟨mode, rfl⟩ := worn
    exact again
  · rcases worn with rfl | ⟨file, rfl⟩ <;> exact again
  · rcases worn with rfl | rfl | ⟨file, rfl⟩
    · exact again
    · exact Or.inr again
    · exact Or.inr again

/-- A way is kept by what has grown. -/
theorem Grown.keepsWay
    {first last : Option Entry}
    (grown : Grown first last) :
    KeepsWay first last := by
  rcases first with - | (mode | file | target)
  · trivial
  · obtain ⟨mode, rfl⟩ := grown
    exact fun target => by simp
  · obtain ⟨file, rfl⟩ := grown
    exact fun target => by simp
  · rcases grown with rfl | isFile
    · exact Or.inl rfl
    · exact Or.inr (Or.inr isFile)

/-- Nothing that has worn is a link, unless it was that link. -/
theorem Worn.ne_link
    {first last : Option Entry}
    (worn : Worn first last)
    {target : Path}
    (isLink : last = some (.link target)) :
    first = last := by
  subst isLink
  rcases first with - | (mode | file | other)
  · simp [Worn] at worn
  · simp [Worn] at worn
  · simp [Worn] at worn
  · simpa [Worn, eq_comm] using worn

/-- A way that was kept is kept by what wears afterwards. -/
theorem KeepsWay.trans_worn
    {first middle last : Option Entry}
    (keeps : KeepsWay first middle)
    (worn : Worn middle last) :
    KeepsWay first last := by
  rcases first with - | (mode | file | target)
  · trivial
  · intro target isLink
    exact keeps target (worn.ne_link isLink ▸ isLink)
  · intro target isLink
    exact keeps target (worn.ne_link isLink ▸ isLink)
  · rcases keeps with rfl | rfl | ⟨file, rfl⟩
    · exact worn
    · exact Or.inr worn
    · exact Or.inr worn

/-! ## Whole disks -/

variable {disk middle later : Disk}

/-- A disk that stays has grown. -/
theorem Grows.refl (disk : Disk) : disk.Grows disk :=
  fun _ => .refl _

/-- A disk that grows twice has grown. -/
theorem Grows.trans
    (grows : disk.Grows middle)
    (again : middle.Grows later) :
    disk.Grows later :=
  fun location => (grows location).trans (again location)

/-- Ways are kept while a disk grows. -/
theorem Grows.keepsWays
    (grows : disk.Grows later) :
    disk.KeepsWays later :=
  fun location => (grows location).keepsWay

/-- A disk that stays has worn. -/
theorem Wears.refl (disk : Disk) : disk.Wears disk :=
  fun _ => .refl _

/-- A disk that wears twice has worn. -/
theorem Wears.trans
    (wears : disk.Wears middle)
    (again : middle.Wears later) :
    disk.Wears later :=
  fun location => (wears location).trans (again location)

/-- Ways that were kept are kept while a disk wears. -/
theorem KeepsWays.trans_wears
    (keeps : disk.KeepsWays middle)
    (wears : middle.Wears later) :
    disk.KeepsWays later :=
  fun location => (keeps location).trans_worn (wears location)

/-- A standing location is still one once the disk has grown. -/
theorem Standing.grows
    {location : Location}
    (standing : disk.Standing location)
    (grows : disk.Grows later) :
    later.Standing location := by
  intro above isAbove isOther
  obtain ⟨mode, isDirectory⟩ := standing above isAbove isOther
  have grown := grows above
  rw [isDirectory] at grown
  exact grown

/-- A disk grows if one entry is put where nothing else grows. -/
theorem grows_set
    {location : Location}
    {entry : Entry}
    (grown : Grown (disk.get? location) (some entry)) :
    disk.Grows (disk.set location entry) := by
  intro other
  by_cases isSame : other = location
  · subst isSame
    rwa [get?_set_self]
  · rw [get?_set_of_ne disk entry isSame]
    exact .refl _

/-- A disk wears if one entry is put where nothing else wears. -/
theorem wears_set
    {location : Location}
    {entry : Entry}
    (worn : Worn (disk.get? location) (some entry)) :
    disk.Wears (disk.set location entry) := by
  intro other
  by_cases isSame : other = location
  · subst isSame
    rwa [get?_set_self]
  · rw [get?_set_of_ne disk entry isSame]
    exact .refl _

/-- A disk grows if files on it change. -/
theorem grows_updateFile
    (disk : Disk)
    (location : Location)
    (change : File → File) :
    disk.Grows (disk.updateFile location change) := by
  intro other
  rcases disk.get?_updateFile location change other with
    isSame | ⟨file, stands, isChanged⟩
  · rw [isSame]
    exact .refl _
  · rw [stands, isChanged]
    exact ⟨_, rfl⟩

/-- A disk wears if files on it change. -/
theorem wears_updateFile
    (disk : Disk)
    (location : Location)
    (change : File → File) :
    disk.Wears (disk.updateFile location change) := by
  intro other
  rcases disk.get?_updateFile location change other with
    isSame | ⟨file, stands, isChanged⟩
  · rw [isSame]
    exact .refl _
  · rw [stands, isChanged]
    exact Or.inr ⟨_, rfl⟩

/-- A disk wears if something other than a directory is taken away. -/
theorem wears_erase
    {location : Location}
    {entry : Entry}
    (stands : disk.get? location = some entry)
    (notDirectory : entry.isDirectory = false) :
    disk.Wears (disk.erase location) := by
  intro other
  by_cases isSame : other = location
  · subst isSame
    rw [get?_erase_self, stands]
    cases entry with
    | directory mode => simp [Entry.isDirectory] at notDirectory
    | file file => exact Or.inl rfl
    | link target => exact Or.inr (Or.inl rfl)
  · rw [get?_erase_of_ne disk isSame]
    exact .refl _

/-! ## Actions -/

variable {workingDirectory : Location}
variable {children : Children}

/-- A file that is opened for writing makes a disk grow, and makes it wear. -/
theorem grows_and_wears_of_openFile
    {path : Path}
    {fresh : File}
    {change : File → File}
    (opens : openFile disk workingDirectory path fresh change = .ok later) :
    disk.Grows later ∧ disk.Wears later := by
  rcases openFile_eq_ok opens with
    ⟨location, locates, rfl⟩ | ⟨location, file, locates, rfl⟩
  · have isMissing := get?_of_locate locates
    constructor
    · refine grows_set ?_
      rw [isMissing]
      exact fun target => by simp
    · refine wears_set ?_
      rw [isMissing]
      exact Or.inr ⟨fresh, rfl⟩
  · exact ⟨disk.grows_updateFile _ _, disk.wears_updateFile _ _⟩

/-- A file that is copied makes a disk grow, and makes it wear. -/
theorem grows_and_wears_of_copyFile
    {source target : Path}
    (copies : copyFile disk workingDirectory source target = .ok later) :
    disk.Grows later ∧ disk.Wears later := by
  obtain ⟨place, file, emptied, -, opens, isExtended⟩ := copyFile_eq_ok copies
  obtain ⟨grows, wears⟩ := grows_and_wears_of_openFile opens
  rcases isExtended with ⟨remaining, found, -, -, rfl⟩ | ⟨-, rfl⟩
  · exact ⟨grows.trans (grows_updateFile _ _ _),
      wears.trans (wears_updateFile _ _ _)⟩
  · exact ⟨grows, wears⟩

end Disk

/-- Whether an action adds something to a disk at most. -/
def Action.adds : Action → Bool
  | .writeFile .. | .appendFile .. | .copyFile .. | .makeDirectory _
  | .changeMode .. | .setTimes .. | .fetch _ => true
  | action => action.looks

/-- Whether an action writes files or removes something other than directories at most. -/
def Action.wears : Action → Bool
  | .writeFile .. | .appendFile .. | .copyFile .. | .removeFile _
  | .fetch _ => true
  | action => action.looks

namespace Disk

variable {disk later : Disk}
variable {workingDirectory : Location}
variable {children : Children}

/-- A disk stays as it is when it is asked for something that only looks. -/
theorem Answers.eq_of_looks
    {action : Action}
    {reply : action.Reply}
    (answers :
      Answers workingDirectory children action disk reply later)
    (looks : action.looks = true) :
    later = disk := by
  cases action with
  | status | linkStatus | readFile | listDirectory | realPath =>
      exact answers.2
  | environment => exact answers
  | _ => simp [Action.looks] at looks

/-- What every call that is done, or done in part, leads to is led to by its answers. -/
theorem Does.reaches
    {Reaches : Disk → Prop}
    {exact : Except DiskFault Disk}
    {refusedLeaves : Disk}
    {isPart : Disk → Prop}
    {reply : Except DiskFault Unit}
    (does : Does exact refusedLeaves isPart disk reply later)
    (stays : Reaches disk)
    (ofDone : exact = .ok later → Reaches later)
    (ofRefused : Reaches refusedLeaves)
    (ofPart : isPart later → Reaches later) :
    Reaches later := by
  cases does with
  | done isDone => exact ofDone isDone
  | refused => exact ofRefused
  | unchanged => exact stays
  | brokenOff _ partly => exact ofPart partly

/-- A disk grows under an action that only adds to it. -/
theorem Answers.grows
    {action : Action}
    {reply : action.Reply}
    (answers :
      Answers workingDirectory children action disk reply later)
    (adds : action.adds = true) :
    disk.Grows later := by
  cases action with
  | status | linkStatus | readFile | listDirectory | realPath | environment =>
      rw [answers.eq_of_looks rfl]
      exact .refl disk
  | fetch =>
      obtain rfl : later = disk := answers
      exact .refl later
  | writeFile path content | appendFile path content =>
      refine Does.reaches answers (.refl disk)
        (fun opens => (grows_and_wears_of_openFile opens).1) (.refl disk) ?_
      rintro ⟨part, -, opens⟩
      exact (grows_and_wears_of_openFile opens).1
  | copyFile source target =>
      refine Does.reaches answers (.refl disk)
        (fun copies => (grows_and_wears_of_copyFile copies).1) (.refl disk) ?_
      rintro ⟨mode, content, opens⟩
      exact (grows_and_wears_of_openFile opens).1
  | makeDirectory path =>
      refine Does.reaches answers (.refl disk) (fun makes => ?_) (.refl disk)
        False.elim
      obtain ⟨location, locates, rfl⟩ := makeDirectory_eq_ok makes
      refine grows_set ?_
      rw [get?_of_locate locates]
      exact fun target => by simp
  | changeMode path mode =>
      refine Does.reaches answers (.refl disk) (fun changes => ?_) (.refl disk)
        False.elim
      rcases changeMode_eq_ok changes with
        ⟨location, old, finds, rfl⟩ | ⟨location, entry, -, rfl⟩
      · refine grows_set ?_
        rw [get?_of_entryAt finds]
        exact ⟨_, rfl⟩
      · exact disk.grows_updateFile location _
  | setTimes path time =>
      refine Does.reaches answers (.refl disk) (fun changes => ?_) (.refl disk)
        False.elim
      obtain ⟨location, entry, -, rfl⟩ := setTimes_eq_ok changes
      exact disk.grows_updateFile location _
  | _ => simp [Action.adds, Action.looks] at adds

/-- A disk wears under an action that writes files or removes something other than directories. -/
theorem Answers.wears
    {action : Action}
    {reply : action.Reply}
    (answers :
      Answers workingDirectory children action disk reply later)
    (wears : action.wears = true) :
    disk.Wears later := by
  cases action with
  | status | linkStatus | readFile | listDirectory | realPath | environment =>
      rw [answers.eq_of_looks rfl]
      exact .refl disk
  | fetch =>
      obtain rfl : later = disk := answers
      exact .refl later
  | writeFile path content | appendFile path content =>
      refine Does.reaches answers (.refl disk)
        (fun opens => (grows_and_wears_of_openFile opens).2) (.refl disk) ?_
      rintro ⟨part, -, opens⟩
      exact (grows_and_wears_of_openFile opens).2
  | copyFile source target =>
      refine Does.reaches answers (.refl disk)
        (fun copies => (grows_and_wears_of_copyFile copies).2) (.refl disk) ?_
      rintro ⟨mode, content, opens⟩
      exact (grows_and_wears_of_openFile opens).2
  | removeFile path =>
      refine Does.reaches answers (.refl disk) (fun removes => ?_) (.refl disk)
        False.elim
      obtain ⟨location, entry, finds, notDirectory, rfl⟩ :=
        removeFile_eq_ok removes
      exact wears_erase (get?_of_entryAt finds) notDirectory
  | _ => simp [Action.wears, Action.looks] at wears

end Disk

end Provision
