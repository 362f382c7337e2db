import Provision.Proofs.Disk.Locating
import Provision.Proofs.Outcome

namespace Provision

/-!
# What calls make

A call that makes or changes something does so at one location: the place that its path leads to.  Only
a file that is written takes along its hard links.  Each call is described by the location that it found
and the disk that it leaves.
-/

namespace Keyed

variable {α β γ : Type} [BEq α] [LawfulBEq α]

/-- Looking up in a list whose values are changed finds the changed value. -/
theorem lookup_map_value
    (items : List (α × β))
    (change : α → β → γ)
    (key : α) :
    (items.map fun item => (item.1, change item.1 item.2)).lookup key =
      (items.lookup key).map (change key) := by
  induction items with
  | nil => rfl
  | cons item rest inductionHypothesis =>
      obtain ⟨place, value⟩ := item
      by_cases isSame : key = place
      · subst isSame
        simp
      · have isDifferent : (key == place) = false := by simp [isSame]
        simpa [List.lookup_cons, isDifferent] using inductionHypothesis

end Keyed

namespace Disk

variable {disk after : Disk}
variable {workingDirectory : Location}
variable {path : Path}

/-- What stands at a location is an entry of the disk. -/
theorem mem_entries_of_get?
    {location : Location}
    {entry : Entry}
    (stands : disk.get? location = some entry) :
    (location, entry) ∈ disk.entries := by
  obtain ⟨before, later, isSplit, -⟩ := List.lookup_eq_some_iff.mp stands
  simp [isSplit]

/-! ## What a path finds -/

/-- A walk finds what stands at the location that it comes to. -/
theorem Walks.get?_eq
    {followLast : Bool}
    {links : Nat}
    {here location : Location}
    {names : List Name}
    {found? : Option Entry}
    (walks : disk.Walks followLast links here names ⟨location, found?⟩) :
    disk.get? location = found? := by
  generalize isFound : (⟨location, found?⟩ : Found) = found at walks
  induction walks with
  | arrived links here =>
      obtain ⟨rfl, rfl⟩ := Found.mk.inj isFound
      rfl
  | missing _ _ isMissing =>
      obtain ⟨rfl, rfl⟩ := Found.mk.inj isFound
      exact isMissing
  | link _ _ stands =>
      obtain ⟨rfl, rfl⟩ := Found.mk.inj isFound
      exact stands
  | step _ _ _ inductionHypothesis =>
      exact inductionHypothesis isFound

/-- A path finds what stands at the location that it leads to. -/
theorem get?_of_locate
    {followLast : Bool}
    {location : Location}
    {found? : Option Entry}
    (locates :
      locate disk workingDirectory followLast path =
        .ok ⟨location, found?⟩) :
    disk.get? location = found? :=
  (locate_eq_ok_iff.mp locates).2.get?_eq

/-- A path finds what stands at the location that it leads to. -/
theorem get?_of_entryAt
    {followLast : Bool}
    {location : Location}
    {entry : Entry}
    (finds :
      entryAt disk workingDirectory followLast path =
        .ok (location, entry)) :
    disk.get? location = some entry :=
  get?_of_locate (entryAt_eq_ok_iff.mp finds)

/-- A file that is read is found. -/
theorem exists_of_readFile_eq_ok
    {content : Bytes}
    (reads : readFile disk workingDirectory path = .ok content) :
    ∃ location file,
      entryAt disk workingDirectory true path = .ok (location, .file file) ∧
        file.content = content := by
  unfold readFile at reads
  split at reads
  · rename_i location file finds
    split at reads
    · exact ⟨location, file, finds, Except.ok.inj reads⟩
    · simp at reads
  · simp at reads
  · simp at reads
  · simp at reads

/-- The status of a path is that of an entry that it finds. -/
theorem exists_of_status
    {followLast : Bool}
    {status : Status}
    (isStatus :
      disk.status workingDirectory followLast path = .ok status) :
    ∃ location entry,
      disk.entryAt workingDirectory followLast path = .ok (location, entry) ∧
        statusOf entry = status := by
  rw [Disk.status] at isStatus
  cases finds : disk.entryAt workingDirectory followLast path with
  | error fault =>
      rw [finds] at isStatus
      cases isStatus
  | ok found =>
      rw [finds] at isStatus
      exact ⟨found.1, found.2, rfl, Except.ok.inj isStatus⟩

/-- Nothing is found where only a fault is told. -/
theorem entryAt_of_locate_none
    {followLast : Bool}
    {location : Location}
    (locates :
      locate disk workingDirectory followLast path = .ok ⟨location, none⟩) :
    entryAt disk workingDirectory followLast path =
      .error (.refused .noEntry) := by
  rw [entryAt, locates]

/-! ## Files that change -/

/-- A file with bytes at its end has the other names that it had. -/
theorem group_extended
    (file : File)
    (content : Bytes) :
    (file.extended content).group = file.group := by
  unfold File.extended
  split <;> rfl

/-- An entry after a change of all files of a group. -/
def changedIn (group : Nat) (change : File → File) : Entry → Entry
  | .file file =>
      if file.group = some group then .file (change file) else .file file
  | entry => entry

/-- The files of a group are changed wherever they stand. -/
theorem get?_updateFile_of_group
    {location : Location}
    {file : File}
    {group : Nat}
    (stands : disk.get? location = some (.file file))
    (isGroup : file.group = some group)
    (change : File → File)
    (other : Location) :
    (disk.updateFile location change).get? other =
      (disk.get? other).map (changedIn group change) := by
  rw [get?, get?, ← Keyed.lookup_map_value disk.entries
    (fun _ => changedIn group change) other, updateFile, stands]
  simp only [isGroup]
  congr 1
  refine List.map_congr_left fun item _ => ?_
  obtain ⟨place, entry⟩ := item
  cases entry with
  | file other =>
      simp only [changedIn]
      split <;> rfl
  | directory mode => rfl
  | link target => rfl

/-- The file that is changed holds what the change makes of it. -/
theorem get?_updateFile_self
    {location : Location}
    {file : File}
    (stands : disk.get? location = some (.file file))
    (change : File → File) :
    (disk.updateFile location change).get? location =
      some (.file (change file)) := by
  cases isGroup : file.group with
  | none =>
      rw [updateFile, stands]
      simp only [isGroup]
      exact get?_set_self disk location _
  | some group =>
      rw [get?_updateFile_of_group stands isGroup, stands]
      simp [changedIn, isGroup]

/-- What stands at a location after a file was changed: the same, or a file that was changed. -/
theorem get?_updateFile
    (disk : Disk)
    (location : Location)
    (change : File → File)
    (other : Location) :
    (disk.updateFile location change).get? other = disk.get? other ∨
      ∃ file,
        disk.get? other = some (.file file) ∧
          (disk.updateFile location change).get? other =
            some (.file (change file)) := by
  by_cases isSame : other = location
  · subst isSame
    cases stands : disk.get? other with
    | none => exact Or.inl (by rw [updateFile, stands]; exact stands)
    | some entry =>
        cases entry with
        | file file =>
            exact Or.inr ⟨file, rfl, get?_updateFile_self stands change⟩
        | directory mode =>
            exact Or.inl (by rw [updateFile, stands]; exact stands)
        | link target =>
            exact Or.inl (by rw [updateFile, stands]; exact stands)
  · cases stands : disk.get? location with
    | none => exact Or.inl (by rw [updateFile, stands])
    | some entry =>
        cases entry with
        | directory mode => exact Or.inl (by rw [updateFile, stands])
        | link target => exact Or.inl (by rw [updateFile, stands])
        | file file =>
            cases isGroup : file.group with
            | none =>
                left
                rw [updateFile, stands]
                simp only [isGroup]
                exact get?_set_of_ne disk _ isSame
            | some group =>
                rw [get?_updateFile_of_group stands isGroup]
                cases disk.get? other with
                | none => exact Or.inl rfl
                | some entry =>
                    cases entry with
                    | directory mode => exact Or.inl rfl
                    | link target => exact Or.inl rfl
                    | file otherFile =>
                        by_cases inGroup : otherFile.group = some group
                        · exact Or.inr
                            ⟨otherFile, rfl, by simp [changedIn, inGroup]⟩
                        · exact Or.inl (by simp [changedIn, inGroup])

/-- A file that is no hard link is changed alone. -/
theorem get?_updateFile_of_ne
    {location other : Location}
    {file : File}
    (stands : disk.get? location = some (.file file))
    (isAlone : file.group = none)
    (change : File → File)
    (different : other ≠ location) :
    (disk.updateFile location change).get? other = disk.get? other := by
  rw [updateFile, stands]
  simp only [isAlone]
  exact get?_set_of_ne disk _ different

/-! ## Calls that make or change something -/

/-- A file that was opened for writing was made, or it was there and has been changed. -/
theorem openFile_eq_ok
    {fresh : File}
    {change : File → File}
    (opens :
      openFile disk workingDirectory path fresh change = .ok after) :
    (∃ location,
        locate disk workingDirectory true path = .ok ⟨location, none⟩ ∧
          after = disk.set location (.file fresh)) ∨
      ∃ location file,
        locate disk workingDirectory true path =
            .ok ⟨location, some (.file file)⟩ ∧
          after = disk.updateFile location change := by
  unfold openFile at opens
  split at opens
  · simp at opens
  · rename_i location file locates
    split at opens
    · rw [Except.ok.injEq] at opens
      exact Or.inr ⟨location, file, locates, opens.symm⟩
    · simp at opens
  · simp at opens
  · simp at opens
  · rename_i location locates
    split at opens
    · simp at opens
    · split at opens
      · rw [Except.ok.injEq] at opens
        exact Or.inl ⟨location, locates, opens.symm⟩
      · simp at opens

/-- A file that was copied was opened and emptied, and then got what the other one holds. -/
theorem copyFile_eq_ok
    {original copy : Path}
    (copies : copyFile disk workingDirectory original copy = .ok after) :
    ∃ place source emptied,
      entryAt disk workingDirectory true original =
          .ok (place, .file source) ∧
        openFile disk workingDirectory copy
            { mode := source.mode, content := [] }
            (fun file =>
              { file with
                mode := source.mode, content := [], stamp := none }) =
          .ok emptied ∧
        ((∃ remaining found,
            emptied.get? place = some (.file remaining) ∧
              locate emptied workingDirectory true copy = .ok found ∧
                after =
                  emptied.updateFile found.location
                    (fun file => file.extended remaining.content)) ∨
          (∀ remaining found,
              emptied.get? place = some (.file remaining) →
              locate emptied workingDirectory true copy = .ok found →
              False) ∧
            after = emptied) := by
  unfold copyFile at copies
  split at copies
  · simp at copies
  · rename_i place source finds
    split at copies
    · simp at copies
    · obtain ⟨emptied, opens, copies⟩ := Outcome.bind_eq_ok_iff.mp copies
      refine ⟨place, source, emptied, finds, opens, ?_⟩
      split at copies
      · rename_i remaining found stands locates
        rw [Except.ok.injEq] at copies
        exact Or.inl ⟨remaining, found, stands, locates, copies.symm⟩
      · rename_i isOther
        rw [Except.ok.injEq] at copies
        exact Or.inr ⟨isOther, copies.symm⟩
  · simp at copies

/-- A directory that was made stands where nothing stood. -/
theorem makeDirectory_eq_ok
    {mode : Nat}
    (makes :
      makeDirectory disk workingDirectory path mode = .ok after) :
    ∃ location,
      locate disk workingDirectory false path = .ok ⟨location, none⟩ ∧
        after = disk.set location (.directory mode) := by
  unfold makeDirectory at makes
  split at makes
  · simp at makes
  · simp at makes
  · rename_i location locates
    split at makes
    · rw [Except.ok.injEq] at makes
      exact ⟨location, locates, makes.symm⟩
    · simp at makes

/-- A temporary directory is made as any other one, under a name with a number. -/
theorem makeTemporary_eq_ok
    {parent : Path}
    {opening : String}
    (makes :
      makeTemporary disk workingDirectory parent opening =
        .ok (path, after)) :
    ∃ number,
      path = parent / (opening ++ sixDigits number) ∧
        makeDirectory disk workingDirectory path 0o700 = .ok after := by
  unfold makeTemporary at makes
  dsimp only at makes
  generalize Option.getD _ 0 = number at makes
  refine ⟨number, ?_⟩
  generalize parent / (opening ++ sixDigits number) = place at *
  cases made : makeDirectory disk workingDirectory place 0o700 with
  | error fault =>
      rw [made] at makes
      cases makes
  | ok made =>
      rw [made] at makes
      cases makes
      exact ⟨rfl, made⟩

/-- Other permission bits are those of a directory or of a file that the path leads to. -/
theorem changeMode_eq_ok
    {mode : Nat}
    (changes :
      changeMode disk workingDirectory path mode = .ok after) :
    (∃ location old,
        entryAt disk workingDirectory true path =
            .ok (location, .directory old) ∧
          after = disk.set location (.directory (mode % modeBits))) ∨
      ∃ location entry,
        entryAt disk workingDirectory true path = .ok (location, entry) ∧
          after =
            disk.updateFile location fun file =>
              { file with mode := mode % modeBits } := by
  unfold changeMode at changes
  split at changes
  · simp at changes
  · rename_i location old finds
    rw [Except.ok.injEq] at changes
    exact Or.inl ⟨location, old, finds, changes.symm⟩
  · rename_i location entry notDirectory finds
    rw [Except.ok.injEq] at changes
    exact Or.inr ⟨location, entry, finds, changes.symm⟩

/-- Times are those of a file that the path leads to. -/
theorem setTimes_eq_ok
    {time : Int}
    (changes :
      setTimes disk workingDirectory path time = .ok after) :
    ∃ location entry,
      entryAt disk workingDirectory true path = .ok (location, entry) ∧
        after =
          disk.updateFile location fun file =>
            { file with stamp := some time, lookStamp := some time } := by
  unfold setTimes at changes
  split at changes
  · simp at changes
  · rename_i location entry finds
    rw [Except.ok.injEq] at changes
    exact ⟨location, entry, finds, changes.symm⟩

end Disk

end Provision
