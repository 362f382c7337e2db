import Provision.Proofs.Disk.Growing
import Provision.Storage.Layout

namespace Provision

/-!
# Directories with a mark

A directory has a mark if the file of that name stands wherever the path of the directory leads.  Whoever
finds anything by a path below the directory finds the mark by its path, too.  A mark stays as long as
ways are kept and its file stays.
-/

/-- The name of the mark of an installation that is not finished. -/
def markName : Name :=
  .text StorageName.installing.text

/-- The mark has a name that an entry can have. -/
theorem markName_isPlain : markName.isPlain = true := by
  decide +kernel

namespace Path

/-- A path that leads on from a directory, name by name. -/
inductive IsBelow (directory : Path) : Path → Prop where
  | child
      {name : Name}
      (isNamed : name ≠ .text "") :
      IsBelow directory (directory.child name)
  | deeper
      {path : Path}
      {name : Name}
      (isBelow : IsBelow directory path)
      (isNamed : name ≠ .text "") :
      IsBelow directory (path.child name)

/-- A path that goes the way of a directory first, and then on by a name. -/
def GoesThrough (directory path : Path) : Prop :=
  (∃ name rest,
      name ≠ .text "" ∧ path.names = directory.way ++ name :: rest) ∧
    ∀ here, path.start here = directory.start here

/-- A path that goes through a directory in another one goes through that one. -/
theorem GoesThrough.of_child
    {directory path : Path}
    {name : Name}
    (isNamed : name ≠ .text "")
    (through : (directory.child name).GoesThrough path) :
    directory.GoesThrough path := by
  obtain ⟨⟨next, rest, -, isNames⟩, isStart⟩ := through
  rw [way_child directory isNamed] at isNames
  refine ⟨⟨name, next :: rest, isNamed, ?_⟩, fun here => ?_⟩
  · rw [isNames, List.append_assoc]
    rfl
  · rw [isStart, start_child]

/-- A path that is joined to a directory goes through it. -/
theorem goesThrough_join
    (directory : Path)
    {path : Path}
    (isRelative : path.isAbsolute = false)
    (isNamed : path.first ≠ .text "") :
    directory.GoesThrough (directory.join path) :=
  ⟨⟨path.first, path.rest, isNamed, names_join directory isRelative⟩,
    start_join directory isRelative⟩

/-- A path below a directory goes through it. -/
theorem IsBelow.goesThrough
    {directory path : Path}
    (isBelow : directory.IsBelow path) :
    directory.GoesThrough path := by
  induction isBelow with
  | @child name isNamed =>
      exact goesThrough_join directory (isAbsolute_single name) isNamed
  | @deeper path name isBelow isNamed inductionHypothesis =>
      have isWay : path.way = path.names := by
        cases isBelow with
        | child isNamed => rw [way_child _ isNamed, names_child]
        | deeper _ isNamed => rw [way_child _ isNamed, names_child]
      obtain ⟨⟨first, rest, isFirst, isNames⟩, isStart⟩ := inductionHypothesis
      refine ⟨⟨first, rest ++ [name], isFirst, ?_⟩, fun here => ?_⟩
      · rw [names_child, isWay, isNames, List.append_assoc]
        rfl
      · rw [start_child, isStart]

end Path

namespace Disk

variable {disk later : Disk}
variable {workingDirectory : Location}
variable {directory path : Path}

/-- A walk along a name that is not empty starts in a directory that may be searched. -/
theorem Walks.isOpen
    {followLast : Bool}
    {links : Nat}
    {here : Location}
    {name : Name}
    {rest : List Name}
    {found : Found}
    (walks : disk.Walks followLast links here (name :: rest) found)
    (isNamed : name ≠ .text "") :
    disk.IsOpen here := by
  cases walks with
  | missing isOpen => exact isOpen
  | link isOpen => exact isOpen
  | step steps =>
      cases steps with
      | empty _ isEmpty => exact absurd isEmpty isNamed
      | dot isOpen | up isOpen | down isOpen | follow isOpen => exact isOpen

/-- What is found through a directory is found from where the directory leads. -/
theorem exists_leadsTo_of_locate
    {followLast : Bool}
    {found : Found}
    (through : directory.GoesThrough path)
    (locates :
      locate disk workingDirectory followLast path = .ok found) :
    ∃ left there,
      disk.LeadsTo workingDirectory directory left there ∧
        disk.IsOpen there := by
  obtain ⟨⟨name, rest, isNamed, isNames⟩, isStart⟩ := through
  obtain ⟨-, walks⟩ := locate_eq_ok_iff.mp locates
  rw [isNames, isStart] at walks
  obtain ⟨left, there, leads, walksOn⟩ :=
    leads_of_walks_append walks (by simp [isNamed])
  exact ⟨left, there, leads, walksOn.isOpen isNamed⟩

/-- A file in a directory that may be searched is found by its path. -/
theorem entryAt_child_of_file
    {name : Name}
    {left : Nat}
    {there : Location}
    {file : File}
    (isUsable : (directory.child name).isUsable = true)
    (isPlain : name.isPlain = true)
    (leads : disk.LeadsTo workingDirectory directory left there)
    (isOpen : disk.IsOpen there)
    (stands : disk.get? (there ++ [name]) = some (.file file)) :
    entryAt disk workingDirectory true (directory.child name) =
      .ok (there ++ [name], .file file) := by
  rw [entryAt_eq_ok_iff, locate_eq_ok_iff, Path.start_child,
    Path.names_child]
  refine ⟨isUsable, leads.walks_append (by simp) ?_⟩
  refine .step (.down isOpen isPlain stands rfl) (Or.inl rfl) ?_
  rw [← stands]
  exact .arrived left _

/-- Whatever directory the path of a directory leads to, there is a mark in it. -/
def Marks
    (disk : Disk)
    (workingDirectory : Location)
    (directory : Path) :
    Prop :=
  ∀ left there,
    disk.LeadsTo workingDirectory directory left there →
    disk.HasDirectory there →
    ∃ file, disk.get? (there ++ [markName]) = some (.file file)

/-- The mark of a directory is found if anything below the directory is. -/
theorem Marks.status_eq
    {followLast : Bool}
    {found : Found}
    (marks : disk.Marks workingDirectory directory)
    (isUsable : (directory.child markName).isUsable = true)
    (isBelow : directory.IsBelow path)
    (locates :
      locate disk workingDirectory followLast path = .ok found) :
    ∃ mode,
      disk.status workingDirectory true (directory.child markName) =
        .ok ⟨.file, mode⟩ := by
  obtain ⟨left, there, leads, isOpen⟩ :=
    exists_leadsTo_of_locate isBelow.goesThrough locates
  obtain ⟨file, stands⟩ := marks left there leads isOpen.hasDirectory
  refine ⟨file.mode, ?_⟩
  rw [status, entryAt_child_of_file isUsable markName_isPlain leads isOpen
    stands]
  rfl

/-- A directory has a mark as long as ways are kept and the mark stays. -/
theorem Marks.of_keepsWays
    {left : Nat}
    {there : Location}
    {file : File}
    (leads : disk.LeadsTo workingDirectory directory left there)
    (standing : disk.Standing (directory.start workingDirectory))
    (keeps :
      ∀ location,
        disk.Standing location →
        KeepsWay (disk.get? location) (later.get? location))
    (stands : later.get? (there ++ [markName]) = some (.file file)) :
    later.Marks workingDirectory directory := by
  intro left' there' leads' isDirectory
  rcases leads.agree standing keeps leads' with
    ⟨-, rfl⟩ | ⟨other, isFile⟩
  · exact ⟨file, stands⟩
  · obtain ⟨mode, isDirectory⟩ := isDirectory
    rw [isFile] at isDirectory
    simp at isDirectory

/-- A directory still has a mark when other entries are gone. -/
theorem Marks.of_fewer
    (marks : disk.Marks workingDirectory directory)
    (isFewer :
      ∀ location entry,
        later.get? location = some entry →
        disk.get? location = some entry)
    (stays :
      ∀ left there,
        disk.LeadsTo workingDirectory directory left there →
        disk.HasDirectory there →
        later.get? (there ++ [markName]) =
          disk.get? (there ++ [markName])) :
    later.Marks workingDirectory directory := by
  intro left there leads isDirectory
  have ledBefore := leads.mono isFewer
  obtain ⟨mode, stands⟩ := isDirectory
  have wasDirectory : disk.HasDirectory there := ⟨mode, isFewer _ _ stands⟩
  rw [stays left there ledBefore wasDirectory]
  exact marks left there ledBefore wasDirectory

end Disk

end Provision

namespace Provision

/-!
# Marks that stay

From the moment that a mark was made in a directory, what happens to the disk is compared with that
moment: ways are kept or cut off, and the mark stays.  Then the directory has its mark whenever its path
leads to it.  A file may be removed on the way unless its path ends with the name of the mark.
-/

namespace Path

/-- Whether the last name of a path is that of an entry other than the mark. -/
def endsApart (path : Path) : Bool :=
  match path.names.getLast? with
  | some name => !name.isHere && !name.isUp && name ≠ markName
  | none => false

/-- A path that ends apart from the mark has a last name of its own. -/
theorem exists_of_endsApart
    {path : Path}
    (endsApart : path.endsApart = true) :
    ∃ before name,
      path.names = before ++ [name] ∧
        name.isHere = false ∧ name.isUp = false ∧ name ≠ markName := by
  unfold Path.endsApart at endsApart
  split at endsApart
  · rename_i name isLast
    obtain ⟨before, isNames⟩ := List.getLast?_eq_some_iff.mp isLast
    simp only [Bool.and_eq_true, Bool.not_eq_true', decide_eq_true_eq]
      at endsApart
    exact ⟨before, name, isNames, endsApart.1.1, endsApart.1.2, endsApart.2⟩
  · simp at endsApart

end Path

/-- Whether an action wears a disk and removes no mark. -/
def Action.spares : Action → Bool
  | .removeFile path => path.endsApart
  | action => action.wears

namespace Disk

variable {start disk later : Disk}
variable {workingDirectory place : Location}
variable {children : Children}
variable {directory path : Path}

/-! ## What is found by a name -/

/-- What is found by a name that stands for no directory has that name. -/
theorem Walks.exists_of_named
    {links : Nat}
    {here : Location}
    {name : Name}
    {found : Found}
    (walks : disk.Walks false links here [name] found)
    (notHere : name.isHere = false)
    (notUp : name.isUp = false) :
    disk.IsOpen here ∧ found = ⟨here ++ [name], disk.get? (here ++ [name])⟩ := by
  have isPlain : name.isPlain = true := by
    cases walks with
    | missing _ isPlain => exact isPlain
    | link _ isPlain => exact isPlain
    | step steps =>
        cases steps with
        | empty _ isEmpty | dot _ isEmpty =>
            simp [isEmpty, Name.isHere] at notHere
        | up _ isUp => simp [isUp, Name.isUp] at notUp
        | down _ isPlain | follow _ isPlain => exact isPlain
  obtain ⟨isOpen, isFound | ⟨follows, -⟩⟩ := walks.cases_of_isPlain isPlain
  · exact ⟨isOpen, isFound.1⟩
  · simp at follows

/-- What a path finds without following its last name has that name. -/
theorem exists_of_locate_named
    {before : List Name}
    {name : Name}
    {found : Found}
    (isNames : path.names = before ++ [name])
    (notHere : name.isHere = false)
    (notUp : name.isUp = false)
    (locates : locate disk workingDirectory false path = .ok found) :
    ∃ left there,
      disk.Leads maxLinks (path.start workingDirectory) before left there ∧
        disk.IsOpen there ∧
          found = ⟨there ++ [name], disk.get? (there ++ [name])⟩ := by
  obtain ⟨-, walks⟩ := locate_eq_ok_iff.mp locates
  have isNamed : name ≠ .text "" := by
    rintro rfl
    simp [Name.isHere] at notHere
  rw [isNames] at walks
  obtain ⟨left, there, leads, ends⟩ :=
    leads_of_walks_append walks (by simp [isNamed])
  obtain ⟨isOpen, isFound⟩ := ends.exists_of_named notHere notUp
  exact ⟨left, there, leads, isOpen, isFound⟩

/-- Where something was taken away by its name, its path finds the place and nothing there. -/
theorem eq_of_locate_erase
    {before : List Name}
    {name : Name}
    {left : Nat}
    {there : Location}
    {followLast : Bool}
    {found : Found}
    (isNames : path.names = before ++ [name])
    (notHere : name.isHere = false)
    (notUp : name.isUp = false)
    (leads :
      disk.Leads maxLinks (path.start workingDirectory) before left there)
    (locates :
      (disk.erase (there ++ [name])).locate workingDirectory followLast path =
        .ok found) :
    found = ⟨there ++ [name], none⟩ := by
  obtain ⟨-, walks⟩ := locate_eq_ok_iff.mp locates
  have isNamed : name ≠ .text "" := by
    rintro rfl
    simp [Name.isHere] at notHere
  rw [isNames] at walks
  obtain ⟨left', there', leads', ends⟩ :=
    leads_of_walks_append walks (by simp [isNamed])
  obtain rfl : there' = there :=
    (leads.unique (leads'.mono fun _ _ => get?_of_get?_erase)).2
  have isMissing :
      (disk.erase (there' ++ [name])).get? (there' ++ [name]) = none :=
    get?_erase_self disk _
  cases ends with
  | missing => rfl
  | link _ _ stands =>
      rw [isMissing] at stands
      simp at stands
  | step steps =>
      cases steps with
      | empty _ isSpecial | dot _ isSpecial =>
          simp [isSpecial, Name.isHere] at notHere
      | up _ isUp => simp [isUp, Name.isUp] at notUp
      | down _ _ stands | follow _ _ stands =>
          rw [isMissing] at stands
          simp at stands

/-! ## From the moment that a mark was made -/

/-- A mark was made in the directory that a path leads to. -/
structure Marked
    (start : Disk)
    (workingDirectory : Location)
    (directory : Path)
    (place : Location) :
    Prop where
  leads : ∃ left, start.LeadsTo workingDirectory directory left place
  standing : start.Standing (directory.start workingDirectory)
  mark : ∃ file, start.get? (place ++ [markName]) = some (.file file)

/-- Ways on a disk are kept on a later one, and the mark in a directory stays. -/
structure Guarded
    (start : Disk)
    (place : Location)
    (disk : Disk) :
    Prop where
  ways : start.KeepsWays disk
  mark : ∃ file, disk.get? (place ++ [markName]) = some (.file file)

/-- A file stays a file while a disk grows. -/
theorem Grows.file
    {location : Location}
    (grows : disk.Grows later)
    (isFile : ∃ file, disk.get? location = some (.file file)) :
    ∃ file, later.get? location = some (.file file) := by
  obtain ⟨file, stands⟩ := isFile
  have grown := grows location
  rw [stands] at grown
  exact grown

/-- A mark is guarded while the disk grows. -/
theorem Marked.guarded
    (marked : start.Marked workingDirectory directory place)
    (grows : start.Grows disk) :
    start.Guarded place disk :=
  ⟨grows.keepsWays, grows.file marked.mark⟩

/-- A directory whose mark is guarded has its mark. -/
theorem Guarded.marks
    (guarded : start.Guarded place disk)
    (marked : start.Marked workingDirectory directory place) :
    disk.Marks workingDirectory directory := by
  obtain ⟨left, leads⟩ := marked.leads
  obtain ⟨file, stands⟩ := guarded.mark
  exact .of_keepsWays leads marked.standing
    (fun location _ => guarded.ways location) stands

/-- A directory is where it was when its mark was made, or its path leads to no directory. -/
theorem Guarded.eq_of_leadsTo
    {left : Nat}
    {there : Location}
    (guarded : start.Guarded place disk)
    (marked : start.Marked workingDirectory directory place)
    (leads : disk.LeadsTo workingDirectory directory left there)
    (isDirectory : disk.HasDirectory there) :
    there = place := by
  obtain ⟨before, ledBefore⟩ := marked.leads
  rcases ledBefore.agree marked.standing
      (fun location _ => guarded.ways location) leads with
    ⟨-, isSame⟩ | ⟨file, isFile⟩
  · exact isSame
  · obtain ⟨mode, isDirectory⟩ := isDirectory
    rw [isFile] at isDirectory
    simp at isDirectory

/-- A mark is guarded while the disk wears, as long as its file stays. -/
theorem Guarded.of_wears
    (guarded : start.Guarded place disk)
    (wears : disk.Wears later)
    (mark : ∃ file, later.get? (place ++ [markName]) = some (.file file)) :
    start.Guarded place later :=
  ⟨guarded.ways.trans_wears wears, mark⟩

/-- What is removed by a path that ends apart from the mark is no mark. -/
theorem removeFile_endsApart
    (removes : removeFile disk workingDirectory path = .ok later)
    (endsApart : path.endsApart = true)
    (there : Location) :
    later.get? (there ++ [markName]) = disk.get? (there ++ [markName]) := by
  obtain ⟨before, name, isNames, notHere, notUp, notMark⟩ :=
    Path.exists_of_endsApart endsApart
  obtain ⟨location, entry, finds, -, rfl⟩ := removeFile_eq_ok removes
  obtain ⟨left, between, -, -, isFound⟩ :=
    exists_of_locate_named isNames notHere notUp
      (entryAt_eq_ok_iff.mp finds)
  obtain ⟨rfl, -⟩ := Found.mk.inj isFound
  refine get?_erase_of_ne disk fun isSame => notMark ?_
  exact (List.append_singleton_inj.mp isSame).2.symm

/-- A mark is guarded under an action that spares it. -/
theorem Guarded.of_spares
    {action : Action}
    {reply : action.Reply}
    (guarded : start.Guarded place disk)
    (answers :
      Answers workingDirectory children action disk reply later)
    (spares : action.spares = true) :
    start.Guarded place later := by
  by_cases adds : action.adds = true
  · refine guarded.of_wears (answers.wears ?_)
      ((answers.grows adds).file guarded.mark)
    cases action with
    | removeFile => rfl
    | _ => exact spares
  · cases action with
    | removeFile path =>
        refine guarded.of_wears (answers.wears rfl) ?_
        obtain ⟨file, stands⟩ := guarded.mark
        have stays :
            later.get? (place ++ [markName]) =
              disk.get? (place ++ [markName]) := by
          cases answers with
          | done removes => exact removeFile_endsApart removes spares place
          | refused | unchanged => rfl
          | brokenOff _ partly => exact partly.elim
        exact ⟨file, stays.trans stands⟩
    | writeFile | appendFile | copyFile | fetch | status | linkStatus
    | readFile | listDirectory | realPath | environment =>
        exact absurd rfl adds
    | _ => simp [Action.spares, Action.wears, Action.looks] at spares

end Disk

end Provision
