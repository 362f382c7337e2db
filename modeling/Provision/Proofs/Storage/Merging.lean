import Mathlib.Data.List.Basic
import Mathlib.Data.List.Induction
import Provision.Proofs.Disk.Finding
import Provision.Proofs.Storage.Overwriting
import Provision.Proofs.Storage.Providing

namespace Provision

/-!
# Trees that are merged

A directory is copied into another one that may hold things already.  What comes of each thing in it is known
beforehand: a directory stays or is made, and a file is written over or made.  So it does not matter in which
order the things are listed.
-/

open Plan

namespace File

/-- The file into which another one is copied, once it has been opened. -/
def opened (file : File) : Option Entry → File
  | some (.file old) =>
      { old with mode := file.mode, content := [], stamp := none }
  | _ => { mode := file.mode, content := [] }

/-- The copy of a file, in place of what was there. -/
def copiedTo (file : File) (old? : Option Entry) : File :=
  (file.opened old?).extended file.content

variable (file : File)
variable (old? : Option Entry)

/-- An opened file is empty and has the mode of the file that is copied. -/
theorem opened_eq :
    (file.opened old?).content = [] ∧ (file.opened old?).mode = file.mode := by
  unfold opened
  split <;> exact ⟨rfl, rfl⟩

/-- A copy holds what the file holds. -/
theorem content_copiedTo : (file.copiedTo old?).content = file.content :=
  content_extended (file.opened_eq old?).1 file.content

/-- A copy has the mode of the file, but a program no longer runs for its owner or group. -/
theorem mode_copiedTo :
    (file.copiedTo old?).mode =
      if file.content = [] then file.mode else modeOnceWritten file.mode := by
  obtain ⟨-, isMode⟩ := file.opened_eq old?
  rw [copiedTo, extended]
  by_cases isEmpty : file.content = []
  · rw [if_pos isEmpty, if_pos (List.isEmpty_iff.mpr isEmpty), isMode]
  · rw [if_neg isEmpty, if_neg (mt List.isEmpty_iff.mp isEmpty), rewritten,
      isMode]

/-- A copy shares a file with another entry only if what was there did. -/
theorem sameFile_copiedTo
    {other : File}
    (notSame :
      ∀ old, old? = some old → Disk.sameFile (.file other) old = false) :
    Disk.sameFile (.file other) (.file (file.copiedTo old?)) = false := by
  have isGroup :
      (file.copiedTo old?).group = (file.opened old?).group := by
    rw [copiedTo, extended]
    split <;> rfl
  rw [Disk.sameFile, isGroup]
  unfold opened
  split
  · exact notSame _ rfl
  · cases other.group <;> rfl

end File

namespace Disk

variable {disk now later : Disk}
variable {workingDirectory : Location}
variable {source target directory : Path}
variable {origin goal there : Location}
variable {below : List Name}
variable {name : Name}

/-! ## Files that are copied -/

/-- The file at a location has no other name. -/
def IsAlone (disk : Disk) (location : Location) : Prop :=
  ∀ file other found,
    disk.get? location = some (.file file) →
    other ≠ location →
    disk.get? other = some found →
    sameFile (.file file) found = false

/-- What changes a file without other names changes nothing else. -/
theorem IsAlone.get?_updateFile
    {location other : Location}
    (isAlone : disk.IsAlone location)
    (isOther : other ≠ location)
    (change : File → File) :
    (disk.updateFile location change).get? other = disk.get? other := by
  rcases disk.get?_updateFile location change other with
    isSame | ⟨found, isFound, -⟩
  · exact isSame
  · cases stands : disk.get? location with
    | none => rw [updateFile, stands]
    | some entry =>
        cases entry with
        | directory | link => rw [updateFile, stands]
        | file file =>
            rw [isFound]
            exact get?_updateFile_of_notSame stands isOther isFound
              (isAlone file other _ stands isOther isFound) change

/-- A file may be written in a directory: there is none and one may be added, or there is one without other names. -/
def MayPut (disk : Disk) (location : Location) : Prop :=
  (disk.get? location = none ∧ disk.mayChange location = true) ∨
    ∃ old,
      disk.get? location = some (.file old) ∧
        (Entry.file old).allows .write = true ∧ disk.IsAlone location

section

variable {left : Nat}
variable (leads : disk.LeadsTo workingDirectory directory left there)
variable (isOpen : disk.IsOpen there)
variable (isPlain : name.isPlain = true)
variable (isUsable : (directory.child name).isUsable = true)

include leads isOpen isPlain isUsable

/-- The path of an entry finds what stands there, unless that is a link. -/
theorem LeadsTo.locate_child
    (notLink : ∀ link, disk.get? (there ++ [name]) ≠ some (.link link))
    (followLast : Bool) :
    disk.locate workingDirectory followLast (directory.child name) =
      .ok ⟨there ++ [name], disk.get? (there ++ [name])⟩ := by
  refine locate_eq_ok_iff.mpr ⟨isUsable, ?_⟩
  rw [Path.start_child, Path.names_child]
  refine Leads.walks_append leads (List.cons_ne_nil name []) ?_
  cases stands : disk.get? (there ++ [name]) with
  | none => exact .missing isOpen isPlain stands rfl
  | some entry =>
      have noLink : entry.isLink = false := by
        cases entry with
        | link link => exact absurd stands (notLink link)
        | directory | file => rfl
      rw [← stands]
      exact .step (.down isOpen isPlain stands noLink) (Or.inl rfl)
        (.arrived _ _)

/-- A file that may be put in a directory is opened there, and nothing else changes. -/
theorem LeadsTo.exists_openFile
    (mayPut : disk.MayPut (there ++ [name]))
    (fresh : File)
    (change : File → File) :
    ∃ opened,
      disk.openFile workingDirectory (directory.child name) fresh change =
          .ok opened ∧
        (∀ other,
            other ≠ there ++ [name] → opened.get? other = disk.get? other) ∧
          ((disk.get? (there ++ [name]) = none ∧
              opened.get? (there ++ [name]) = some (.file fresh)) ∨
            ∃ old,
              disk.get? (there ++ [name]) = some (.file old) ∧
                opened.get? (there ++ [name]) = some (.file (change old))) := by
  have locates := leads.locate_child isOpen isPlain isUsable
  rcases mayPut with ⟨isNone, mayChange⟩ | ⟨old, stands, mayWrite, isAlone⟩
  · have notOpen : (directory.child name).endsOpen = false :=
      Path.endsOpen_child directory (not_special_of_isPlain isPlain).1
    refine ⟨disk.set (there ++ [name]) (.file fresh), ?_,
      fun other isOther => get?_set_of_ne disk _ isOther,
      Or.inl ⟨isNone, get?_set_self disk _ _⟩⟩
    rw [openFile, locates (by simp [isNone]), isNone]
    simp only [notOpen, mayChange, Bool.false_eq_true, if_false, if_true]
  · refine ⟨disk.updateFile (there ++ [name]) change, ?_,
      fun other isOther => isAlone.get?_updateFile isOther change,
      Or.inr ⟨old, stands, get?_updateFile_self stands change⟩⟩
    rw [openFile, locates (by simp [stands]), stands]
    exact if_pos mayWrite

/-- A file is copied to a directory in which it may be put, and nothing else changes. -/
theorem LeadsTo.exists_copyFile
    {original : Path}
    {place : Location}
    {file : File}
    (finds :
      disk.entryAt workingDirectory true original = .ok (place, .file file))
    (mayRead : (Entry.file file).allows .read = true)
    (isElsewhere : place ≠ there ++ [name])
    (mayPut : disk.MayPut (there ++ [name])) :
    ∃ copied,
      disk.copyFile workingDirectory original (directory.child name) =
          .ok copied ∧
        copied.get? (there ++ [name]) =
            some (.file (file.copiedTo (disk.get? (there ++ [name])))) ∧
          ∀ other,
            other ≠ there ++ [name] → copied.get? other = disk.get? other := by
  obtain ⟨opened, opens, isSame, isOpened⟩ :=
    leads.exists_openFile isOpen isPlain isUsable mayPut
      { mode := file.mode, content := [] }
      fun old => { old with mode := file.mode, content := [], stamp := none }
  have standsOpened :
      opened.get? (there ++ [name]) =
        some (.file (file.opened (disk.get? (there ++ [name])))) := by
    rcases isOpened with ⟨isNone, stands⟩ | ⟨old, wasThere, stands⟩
    · rw [isNone, stands]
      rfl
    · rw [wasThere, stands]
      rfl
  have isAlone : opened.IsAlone (there ++ [name]) := by
    intro copy other found isCopy isOther isFound
    obtain rfl := Entry.file.inj (Option.some.inj (standsOpened.symm.trans isCopy))
    rw [isSame other isOther] at isFound
    rcases mayPut with ⟨isNone, -⟩ | ⟨old, wasThere, -, isAlone⟩
    · rw [isNone]
      cases found <;> rfl
    · have notSame := isAlone old other found wasThere isOther isFound
      rw [wasThere]
      cases found <;> exact notSame
  have stays : disk.Stays opened := stays_openFile opens
  have locates :=
    (leads.of_stays isOpen.hasDirectory stays).locate_child
      (isOpen.of_stays stays) isPlain isUsable
      (by simp [standsOpened]) true
  have remains : opened.get? place = some (.file file) :=
    (isSame place isElsewhere).trans (get?_of_entryAt finds)
  refine ⟨_, ?_, get?_updateFile_self standsOpened fun copy =>
      copy.extended file.content,
    fun other isOther =>
      (isAlone.get?_updateFile isOther _).trans (isSame other isOther)⟩
  rw [copyFile, finds]
  simp [mayRead, opens, remains, locates, bind, Except.bind]

end

/-- An entry that is a directory is where its path leads. -/
theorem LeadsTo.enter
    {left : Nat}
    (leads : disk.LeadsTo workingDirectory directory left there)
    (isOpen : disk.IsOpen there)
    (isPlain : name.isPlain = true)
    (isDirectory : disk.HasDirectory (there ++ [name])) :
    disk.LeadsTo workingDirectory (directory.child name) left
      (there ++ [name]) := by
  obtain ⟨mode, stands⟩ := isDirectory
  exact (leadsTo_child_iff (not_special_of_isPlain isPlain).1).mpr
    ⟨left, there, leads,
      .step (.down isOpen isPlain stands rfl) (.arrived left _)⟩

/-- A directory below another one is where its path leads, if it can be reached. -/
theorem LeadsTo.descend
    {left : Nat}
    {names : List Name}
    (leads : disk.LeadsTo workingDirectory directory left there)
    (goesDown :
      ∀ above name,
        above ++ [name] <+: names →
        name.isPlain = true ∧ disk.IsOpen (there ++ above) ∧
          disk.HasDirectory (there ++ (above ++ [name]))) :
    disk.LeadsTo workingDirectory (directory.below names) left
      (there ++ names) := by
  induction names using List.reverseRecOn with
  | nil => exact (List.append_nil there).symm ▸ leads
  | append_singleton above name inductionHypothesis =>
      obtain ⟨isPlain, isOpen, isDirectory⟩ :=
        goesDown above name List.prefix_rfl
      rw [← List.append_assoc] at isDirectory ⊢
      rw [Path.below_concat]
      exact (inductionHypothesis fun higher other isAbove =>
          goesDown higher other (isAbove.trans (List.prefix_append _ _))).enter
        isOpen isPlain isDirectory

/-! ## What comes of a tree -/

section

variable (disk : Disk)
variable (workingDirectory : Location)
variable (source target : Path)
variable (origin goal : Location)

/-- The file at a location, or the one that a path leads to if there is a link at the location. -/
def suppliedFile? (path : Path) (location : Location) : Option File :=
  match disk.get? location with
  | some (.file file) => some file
  | some (.link _) =>
      match disk.entryAt workingDirectory true path with
      | .ok (_, .file file) => some file
      | _ => none
  | _ => none

/-- What is to stand in a directory into which another one is copied. -/
def merged (below : List Name) : Option Entry :=
  match disk.get? (origin ++ below) with
  | none => disk.get? (goal ++ below)
  | some (.directory _) =>
      some ((disk.get? (goal ++ below)).getD (.directory 0o755))
  | some _ =>
      (disk.suppliedFile? workingDirectory (source.below below)
          (origin ++ below)).map
        fun file => .file (file.copiedTo (disk.get? (goal ++ below)))

/--
A directory can be copied into another place: what is in it may be read, and so may the files that its links lead
to, which are not among those that come of it.  What is in the other place is of the same kind, without other
names, and may be changed.
-/
structure MayMerge : Prop where
  isTree : disk.IsTree
  listsOnce : disk.ListsOnce
  leads : ∃ left, disk.LeadsTo workingDirectory source left origin
  areApart : AreApart origin goal
  isDirectory : disk.HasDirectory origin
  areUsable :
    ∀ below,
      disk.get? (origin ++ below) ≠ none →
      (source.below below).isUsable = true ∧
        (below ≠ [] → (target.below below).isUsable = true)
  mayRead :
    ∀ below entry,
      disk.get? (origin ++ below) = some entry →
      entry.isLink = true ∨ entry.allows .read = true
  mayEnter :
    ∀ below name,
      disk.get? (origin ++ (below ++ [name])) ≠ none →
      disk.IsOpen (origin ++ below) ∧
        (disk.get? (goal ++ below) = none ∨ disk.IsOpen (goal ++ below))
  mayAdd :
    ∀ below name,
      disk.get? (origin ++ (below ++ [name])) ≠ none →
      disk.get? (goal ++ (below ++ [name])) = none →
      disk.get? (goal ++ below) = none ∨
        disk.mayChange (goal ++ (below ++ [name])) = true
  linksLead :
    ∀ below link,
      disk.get? (origin ++ below) = some (.link link) →
      ∃ place file,
        disk.entryAt workingDirectory true (source.below below) =
            .ok (place, .file file) ∧
          (Entry.file file).allows .read = true ∧
            ∀ other,
              disk.get? (origin ++ other) ≠ none → place ≠ goal ++ other
  areAlike :
    ∀ below entry old,
      disk.get? (origin ++ below) = some entry →
      disk.get? (goal ++ below) = some old →
      old.isDirectory = entry.isDirectory ∧ old.isLink = false
  mayWrite :
    ∀ below file,
      disk.get? (origin ++ below) ≠ none →
      disk.get? (goal ++ below) = some (.file file) →
      (Entry.file file).allows .write = true
  areAlone :
    ∀ below,
      disk.get? (origin ++ below) ≠ none → disk.IsAlone (goal ++ below)

/-- What is covered of a directory has been copied to another place, and nothing else has changed. -/
structure Merges
    (now : Disk)
    (covers : List Name → Prop) :
    Prop where
  listsOnce : now.ListsOnce
  covered :
    ∀ below,
      covers below →
      disk.get? (origin ++ below) ≠ none →
      now.get? (goal ++ below) =
        disk.merged workingDirectory source origin goal below
  elsewhere :
    ∀ location,
      (∀ below,
        covers below →
        disk.get? (origin ++ below) ≠ none →
        location ≠ goal ++ below) →
      now.get? location = disk.get? location

end

section

variable {covers : List Name → Prop}

/-- What comes of a file or of a link is a copy of the file that it supplies. -/
theorem merged_eq_copy
    {entry : Entry}
    {file : File}
    (stands : disk.get? (origin ++ below) = some entry)
    (notDirectory : entry.isDirectory = false)
    (isSupplied :
      disk.suppliedFile? workingDirectory (source.below below)
          (origin ++ below) =
        some file) :
    disk.merged workingDirectory source origin goal below =
      some (.file (file.copiedTo (disk.get? (goal ++ below)))) := by
  cases entry with
  | directory => simp [Entry.isDirectory] at notDirectory
  | file | link =>
      rw [merged, stands]
      simp only [isSupplied, Option.map_some]

section

variable (ready : disk.MayMerge workingDirectory source target origin goal)

include ready

/-- What is in a directory that can be copied has a plain name, and the directory may be entered. -/
theorem MayMerge.isOpen
    (isThere : disk.get? (origin ++ (below ++ [name])) ≠ none) :
    name.isPlain = true ∧ disk.IsOpen (origin ++ below) := by
  obtain ⟨entry, stands⟩ := Option.ne_none_iff_exists'.mp isThere
  exact ⟨(ready.isTree _ _ stands).2 name (by simp),
    (ready.mayEnter below name isThere).1⟩

/-- Nothing in a directory that can be copied is deeper there than a path can be long. -/
theorem MayMerge.length_le
    (isThere : disk.get? (origin ++ below) ≠ none) :
    below.length ≤ maxPathBytes := by
  obtain ⟨entry, stands⟩ := Option.ne_none_iff_exists'.mp isThere
  have areNamed : ∀ name ∈ below, name ≠ .text "" := fun name member =>
    (not_special_of_isPlain ((ready.isTree _ _ stands).2 name
      (List.mem_append_right origin member))).1
  have notEmpty : source ≠ Path.empty := by
    obtain ⟨mode, isOrigin⟩ := ready.isDirectory
    exact Path.ne_empty_of_isUsable (ready.areUsable [] (by simp [isOrigin])).1
  have isUsable := (ready.areUsable below isThere).1
  rw [Path.isUsable, Bool.and_eq_true, decide_eq_true_eq] at isUsable
  exact (Path.length_le_pathBytes notEmpty areNamed).trans isUsable.2

/-- What is above something in a directory that can be copied is a directory. -/
theorem MayMerge.hasDirectory
    {above rest : List Name}
    (isThere : disk.get? (origin ++ (above ++ rest)) ≠ none)
    (notNil : rest ≠ []) :
    disk.HasDirectory (origin ++ above) := by
  obtain ⟨entry, stands⟩ := Option.ne_none_iff_exists'.mp isThere
  rw [← List.append_assoc] at stands
  exact ready.isTree.hasDirectory stands (List.prefix_append _ _)
    (by simpa using notNil)

/-- What is above a directory that is copied is a directory. -/
theorem MayMerge.hasDirectory_above
    {above : List Name}
    (isDirectory : disk.HasDirectory (origin ++ below))
    (isAbove : above <+: below) :
    disk.HasDirectory (origin ++ above) := by
  obtain ⟨rest, rfl⟩ := isAbove
  cases rest with
  | nil => rwa [List.append_nil] at isDirectory
  | cons =>
      obtain ⟨mode, stands⟩ := isDirectory
      exact ready.hasDirectory (stands ▸ Option.some_ne_none _)
        (List.cons_ne_nil _ _)

/-- What is below a directory that is copied is the directory, or below something that is listed in it. -/
theorem MayMerge.below_iff_of_listed
    {other : List Name}
    {listed : List Name}
    (isCovered : covers below)
    (isListed :
      ∀ name,
        disk.get? (origin ++ (below ++ [name])) ≠ none → name ∈ listed)
    (isThere : disk.get? (origin ++ other) ≠ none) :
    (covers other ∨ ∃ name ∈ listed, below ++ [name] <+: other) ↔
      covers other ∨ below <+: other := by
  constructor
  · refine Or.imp_right ?_
    rintro ⟨name, -, isBelow⟩
    exact (List.prefix_append _ _).trans isBelow
  · rintro (isCovered | ⟨rest, rfl⟩)
    · exact Or.inl isCovered
    · cases rest with
      | nil => exact Or.inl (by rwa [List.append_nil])
      | cons name rest =>
          refine Or.inr ⟨name, isListed name fun isMissing => ?_, by simp⟩
          rw [List.append_cons, ← List.append_assoc] at isThere
          exact isThere (ready.isTree.missing_below isMissing rest)

/-- A directory that is copied is where its path leads. -/
theorem MayMerge.leadsTo
    (isDirectory : disk.HasDirectory (origin ++ below)) :
    ∃ left,
      disk.LeadsTo workingDirectory (source.below below) left
        (origin ++ below) := by
  obtain ⟨left, leads⟩ := ready.leads
  refine ⟨left, leads.descend fun above name isAbove => ?_⟩
  obtain ⟨mode, stands⟩ := ready.hasDirectory_above isDirectory isAbove
  obtain ⟨isPlain, isOpen⟩ := ready.isOpen (stands ▸ Option.some_ne_none _)
  exact ⟨isPlain, isOpen, mode, stands⟩

/-- A file or a link in a directory that can be copied supplies a file that can be read. -/
theorem MayMerge.exists_suppliedFile
    {entry : Entry}
    (stands : disk.get? (origin ++ below) = some entry)
    (notDirectory : entry.isDirectory = false) :
    ∃ place file,
      disk.entryAt workingDirectory true (source.below below) =
          .ok (place, .file file) ∧
        disk.suppliedFile? workingDirectory (source.below below)
              (origin ++ below) =
            some file ∧
          (Entry.file file).allows .read = true ∧
            ∀ other,
              disk.get? (origin ++ other) ≠ none → place ≠ goal ++ other := by
  cases entry with
  | directory => simp [Entry.isDirectory] at notDirectory
  | link link =>
      obtain ⟨place, file, finds, mayRead, isElsewhere⟩ :=
        ready.linksLead below link stands
      refine ⟨place, file, finds, ?_, mayRead, isElsewhere⟩
      rw [suppliedFile?, stands]
      simp only [finds]
  | file file =>
      refine ⟨origin ++ below, file, ?_, ?_, ?_, fun other _ isSame => ?_⟩
      · rcases List.eq_nil_or_concat' below with rfl | ⟨above, name, rfl⟩
        · obtain ⟨mode, isDirectory⟩ := ready.isDirectory
          rw [List.append_nil, isDirectory] at stands
          simp at stands
        · have isThere : disk.get? (origin ++ (above ++ [name])) ≠ none := by
            simp [stands]
          obtain ⟨isPlain, isOpen⟩ := ready.isOpen isThere
          obtain ⟨left, leads⟩ := ready.leadsTo isOpen.hasDirectory
          have isUsable := (ready.areUsable _ isThere).1
          rw [← List.append_assoc] at stands ⊢
          rw [Path.below_concat] at isUsable ⊢
          rw [entryAt_eq_ok_iff,
            leads.locate_child isOpen isPlain isUsable (by rw [stands]; simp),
            stands]
      · rw [suppliedFile?, stands]
      · exact (ready.mayRead below _ stands).resolve_left (by simp [Entry.isLink])
      · exact ready.areApart.not_below below
          (isSame ▸ List.prefix_append goal other)

/-- What comes of a directory is a directory, and what comes of anything else is a file. -/
theorem MayMerge.exists_merged
    {entry : Entry}
    (stands : disk.get? (origin ++ below) = some entry) :
    ∃ made,
      disk.merged workingDirectory source origin goal below = some made ∧
        made.isDirectory = entry.isDirectory ∧ made.isLink = false := by
  cases isDirectory : entry.isDirectory with
  | true =>
      cases entry with
      | file | link => simp [Entry.isDirectory] at isDirectory
      | directory mode =>
          refine ⟨(disk.get? (goal ++ below)).getD (.directory 0o755), ?_, ?_⟩
          · rw [merged, stands]
          · cases wasThere : disk.get? (goal ++ below) with
            | none => exact ⟨rfl, rfl⟩
            | some old => exact ready.areAlike below _ old stands wasThere
  | false =>
      obtain ⟨place, file, -, isSupplied, -⟩ :=
        ready.exists_suppliedFile stands isDirectory
      exact ⟨_, merged_eq_copy stands isDirectory isSupplied, rfl, rfl⟩

/-- What comes of a thing shares a file with another entry only if what was there did. -/
theorem MayMerge.not_sameFile_merged
    {file : File}
    {made : Entry}
    (isThere : disk.get? (origin ++ below) ≠ none)
    (isMade :
      disk.merged workingDirectory source origin goal below = some made)
    (notSame :
      ∀ old,
        disk.get? (goal ++ below) = some old →
        sameFile (.file file) old = false) :
    sameFile (.file file) made = false := by
  obtain ⟨entry, stands⟩ := Option.ne_none_iff_exists'.mp isThere
  cases isDirectory : entry.isDirectory with
  | true =>
      obtain ⟨_, isMade', isKind, -⟩ := ready.exists_merged stands
      obtain rfl := Option.some.inj (isMade.symm.trans isMade')
      rw [isDirectory] at isKind
      cases made with
      | directory => rfl
      | file | link => simp [Entry.isDirectory] at isKind
  | false =>
      obtain ⟨_, supplied, -, isSupplied, -⟩ :=
        ready.exists_suppliedFile stands isDirectory
      rw [merged_eq_copy stands isDirectory isSupplied] at isMade
      obtain rfl := Option.some.inj isMade
      exact supplied.sameFile_copiedTo _ notSame

/-- Nothing has been copied but the directory itself. -/
theorem MayMerge.merges_start
    (isDirectory : disk.HasDirectory goal) :
    disk.Merges workingDirectory source origin goal disk (· = []) := by
  refine ⟨ready.listsOnce, ?_, fun _ _ => rfl⟩
  rintro below rfl -
  obtain ⟨_, stands⟩ := ready.isDirectory
  obtain ⟨_, standsGoal⟩ := isDirectory
  rw [merged, List.append_nil, List.append_nil, stands, standsGoal]
  rfl

variable (merges : disk.Merges workingDirectory source origin goal now covers)

include merges

/-- What is copied stays as it is. -/
theorem Merges.source_eq (below : List Name) :
    now.get? (origin ++ below) = disk.get? (origin ++ below) :=
  merges.elsewhere _ fun other _ _ isSame =>
    ready.areApart.not_below below (isSame ▸ List.prefix_append goal other)

omit ready in
/-- What stands at a location has been copied there, or is as it was. -/
theorem Merges.covered_or_same (location : Location) :
    (∃ below,
      covers below ∧ disk.get? (origin ++ below) ≠ none ∧
        location = goal ++ below) ∨
      now.get? location = disk.get? location := by
  refine or_iff_not_imp_left.mpr fun notCovered =>
    merges.elsewhere location fun below isCovered isThere isHere => ?_
  exact notCovered ⟨below, isCovered, isThere, isHere⟩

/-- Everything but files stays. -/
theorem Merges.stays : disk.Stays now := by
  intro location entry stands notFile
  rcases merges.covered_or_same location with
    ⟨below, isCovered, isThere, rfl⟩ | isSame
  · rw [merges.covered below isCovered isThere]
    obtain ⟨itself, standsSource⟩ := Option.ne_none_iff_exists'.mp isThere
    obtain ⟨isKind, notLink⟩ := ready.areAlike below _ _ standsSource stands
    cases itself with
    | directory mode => rw [merged, standsSource, stands]; rfl
    | file | link =>
        cases entry with
        | directory => simp [Entry.isDirectory] at isKind
        | file => simp [Entry.isFile] at notFile
        | link => simp [Entry.isLink] at notLink
  · exact isSame.trans stands

/-- A directory that has been copied is there. -/
theorem Merges.hasDirectory
    (isCovered : covers below)
    (isDirectory : disk.HasDirectory (origin ++ below)) :
    now.HasDirectory (goal ++ below) := by
  obtain ⟨mode, stands⟩ := isDirectory
  obtain ⟨made, isMade, isKind, -⟩ := ready.exists_merged stands
  rw [← merges.covered below isCovered (stands ▸ Option.some_ne_none _)]
    at isMade
  cases made with
  | directory bits => exact ⟨bits, isMade⟩
  | file | link => simp [Entry.isDirectory] at isKind

/-- A directory that has been copied may be entered, and things may be added to it, if something is to come to it. -/
theorem Merges.isOpen
    (isCovered : covers below)
    (isThere : disk.get? (origin ++ (below ++ [name])) ≠ none) :
    now.IsOpen (goal ++ below) ∧
      (disk.get? (goal ++ (below ++ [name])) = none →
        now.mayChange (goal ++ (below ++ [name])) = true) := by
  obtain ⟨mode, stands⟩ := ready.hasDirectory isThere (List.cons_ne_nil _ _)
  have standsNow := merges.covered below isCovered (stands ▸ Option.some_ne_none _)
  have mayAdd := ready.mayAdd below name isThere
  rw [← List.append_assoc, mayChange_concat] at mayAdd ⊢
  rw [merged, stands] at standsNow
  rcases (ready.mayEnter below name isThere).2 with isNew | ⟨bits, wasThere, mayPass⟩
  · rw [isNew, Option.getD_none] at standsNow
    exact ⟨⟨_, standsNow, rfl⟩, fun _ => by rw [standsNow]; rfl⟩
  · rw [wasThere, Option.getD_some] at standsNow
    refine ⟨⟨bits, standsNow, mayPass⟩, fun isMissing => ?_⟩
    rw [standsNow, ← wasThere]
    exact (mayAdd isMissing).resolve_left (by simp [wasThere])

/-- The path of a directory that has been copied leads to it. -/
theorem Merges.leadsTo
    (leads : ∃ left, disk.LeadsTo workingDirectory target left goal)
    (isGoal : disk.HasDirectory goal)
    (isDirectory : disk.HasDirectory (origin ++ below))
    (areCovered : ∀ above, above <+: below → covers above) :
    ∃ left,
      now.LeadsTo workingDirectory (target.below below) left
        (goal ++ below) := by
  obtain ⟨left, leads⟩ := leads
  refine ⟨left, (leads.of_stays isGoal (merges.stays ready)).descend ?_⟩
  intro higher name isAbove
  have isEntry := ready.hasDirectory_above isDirectory isAbove
  have isThere : disk.get? (origin ++ (higher ++ [name])) ≠ none := by
    obtain ⟨mode, stands⟩ := isEntry
    exact stands ▸ Option.some_ne_none _
  have isCovered := areCovered higher ((List.prefix_append _ _).trans isAbove)
  exact ⟨(ready.isOpen isThere).1, (merges.isOpen ready isCovered isThere).1,
    merges.hasDirectory ready (areCovered _ isAbove) isEntry⟩

/-- A file that is to be copied may be put in its directory. -/
theorem Merges.mayPut
    {entry : Entry}
    (isCovered : covers below)
    (notCovered : ¬covers (below ++ [name]))
    (stands : disk.get? (origin ++ (below ++ [name])) = some entry)
    (notDirectory : entry.isDirectory = false) :
    now.MayPut (goal ++ (below ++ [name])) := by
  have isThere : disk.get? (origin ++ (below ++ [name])) ≠ none :=
    stands ▸ Option.some_ne_none _
  have isAsBefore :=
    merges.elsewhere (goal ++ (below ++ [name])) fun other isCovered _ isSame =>
      notCovered (List.append_cancel_left isSame ▸ isCovered)
  rw [MayPut, isAsBefore]
  cases wasThere : disk.get? (goal ++ (below ++ [name])) with
  | none =>
      exact Or.inl ⟨rfl, (merges.isOpen ready isCovered isThere).2 wasThere⟩
  | some old =>
      obtain ⟨isKind, notLink⟩ :=
        ready.areAlike (below ++ [name]) _ _ stands wasThere
      cases old with
      | directory =>
          rw [notDirectory] at isKind
          simp [Entry.isDirectory] at isKind
      | link => simp [Entry.isLink] at notLink
      | file old =>
          refine Or.inr ⟨old, rfl, ready.mayWrite _ old isThere wasThere, ?_⟩
          have isAlone := ready.areAlone _ isThere
          intro file other found isFile isOther isFound
          rw [isAsBefore] at isFile
          rcases merges.covered_or_same other with
            ⟨further, covered, isFurther, rfl⟩ | isSame
          · rw [merges.covered further covered isFurther] at isFound
            exact ready.not_sameFile_merged isFurther isFound fun old wasThere =>
              isAlone file _ old isFile isOther wasThere
          · rw [isSame] at isFound
            exact isAlone file other found isFile isOther isFound

omit ready

/-- What has not been copied is not there, or is as it was. -/
theorem Merges.of_not_covered
    (notCovered : ¬covers below) :
    now.get? (goal ++ below) = disk.get? (goal ++ below) :=
  merges.elsewhere _ fun _ isCovered _ isSame =>
    notCovered (List.append_cancel_left isSame ▸ isCovered)

/-- One thing more is copied. -/
theorem Merges.add
    (isThere : disk.get? (origin ++ below) ≠ none)
    (once : later.ListsOnce)
    (isCopied :
      later.get? (goal ++ below) =
        disk.merged workingDirectory source origin goal below)
    (isSame :
      ∀ location,
        location ≠ goal ++ below → later.get? location = now.get? location) :
    disk.Merges workingDirectory source origin goal later fun other =>
      covers other ∨ other = below := by
  refine ⟨once, fun other isCovered isOther => ?_, fun location notCovered => ?_⟩
  · by_cases isHere : other = below
    · exact isHere ▸ isCopied
    · rw [isSame _ (by simpa using isHere)]
      exact merges.covered other (isCovered.resolve_right isHere) isOther
  · rw [isSame location (notCovered below (Or.inr rfl) isThere)]
    exact merges.elsewhere location fun other isCovered =>
      notCovered other (Or.inl isCovered)

/-- What has been copied may be told in other words. -/
theorem Merges.congr
    {covered : List Name → Prop}
    (areSame :
      ∀ below,
        disk.get? (origin ++ below) ≠ none →
        (covers below ↔ covered below)) :
    disk.Merges workingDirectory source origin goal now covered where
  listsOnce := merges.listsOnce
  covered := fun below isCovered isThere =>
    merges.covered below ((areSame below isThere).mpr isCovered) isThere
  elsewhere := fun location notCovered =>
    merges.elsewhere location fun below isCovered isThere =>
      notCovered below ((areSame below isThere).mp isCovered) isThere

end

section

variable (ready : disk.MayMerge workingDirectory source target origin goal)
variable (merges : disk.Merges workingDirectory source origin goal now covers)
variable (leads : ∃ left, disk.LeadsTo workingDirectory target left goal)
variable (isGoal : disk.HasDirectory goal)
variable (areCovered : ∀ above, above <+: below → covers above)
variable (notCovered : ¬covers (below ++ [name]))

include ready merges leads isGoal areCovered notCovered

/-- A file, or one that a link leads to, is copied. -/
theorem Merges.exists_copyFile
    {entry : Entry}
    (stands : disk.get? (origin ++ (below ++ [name])) = some entry)
    (notDirectory : entry.isDirectory = false) :
    ∃ later,
      now.copyFile workingDirectory ((source.below below).child name)
            ((target.below below).child name) =
          .ok later ∧
        disk.Merges workingDirectory source origin goal later fun other =>
          covers other ∨ other = below ++ [name] := by
  have isThere : disk.get? (origin ++ (below ++ [name])) ≠ none :=
    stands ▸ Option.some_ne_none _
  have isCovered := areCovered below List.prefix_rfl
  obtain ⟨place, file, finds, isSupplied, mayRead, isElsewhere⟩ :=
    ready.exists_suppliedFile stands notDirectory
  obtain ⟨left, leadsNow⟩ :=
    merges.leadsTo ready leads isGoal
      (ready.hasDirectory isThere (List.cons_ne_nil _ _)) areCovered
  have isSamePlace : now.get? place = disk.get? place :=
    merges.elsewhere place fun other _ => isElsewhere other
  have mayPut :=
    merges.mayPut ready isCovered notCovered stands notDirectory
  have isUsable := (ready.areUsable _ isThere).2 (by simp)
  have isOther := isElsewhere _ isThere
  rw [Path.below_concat] at isUsable finds
  rw [← List.append_assoc] at isOther mayPut
  obtain ⟨later, copies, isCopied, isSame⟩ :=
    leadsNow.exists_copyFile (merges.isOpen ready isCovered isThere).1
      (ready.isOpen isThere).1 isUsable
      (entryAt_of_stays finds (merges.stays ready) isSamePlace) mayRead isOther
      mayPut
  rw [List.append_assoc, merges.of_not_covered notCovered,
    ← merged_eq_copy stands notDirectory isSupplied] at isCopied
  rw [List.append_assoc] at isSame
  exact ⟨later, copies,
    merges.add isThere (merges.listsOnce.copyFile copies) isCopied isSame⟩

/-- A directory is made, unless it is there. -/
theorem Merges.exists_makeDirectory
    {mode : Nat}
    (stands :
      disk.get? (origin ++ (below ++ [name])) = some (.directory mode)) :
    ∃ later,
      (disk.Merges workingDirectory source origin goal later fun other =>
          covers other ∨ other = below ++ [name]) ∧
        (now.makeDirectory workingDirectory ((target.below below).child name)
              0o755 =
            .ok later ∨
          later = now ∧
            ∃ left,
              now.LeadsTo workingDirectory ((target.below below).child name)
                left (goal ++ (below ++ [name]))) := by
  have isThere : disk.get? (origin ++ (below ++ [name])) ≠ none :=
    stands ▸ Option.some_ne_none _
  have isCovered := areCovered below List.prefix_rfl
  obtain ⟨left, leadsNow⟩ :=
    merges.leadsTo ready leads isGoal
      (ready.hasDirectory isThere (List.cons_ne_nil _ _)) areCovered
  obtain ⟨isOpen, mayChange⟩ := merges.isOpen ready isCovered isThere
  have isPlain := (ready.isOpen isThere).1
  have isUsable := (ready.areUsable _ isThere).2 (by simp)
  rw [Path.below_concat] at isUsable
  have isAsBefore := merges.of_not_covered notCovered
  have isMerged :
      disk.merged workingDirectory source origin goal (below ++ [name]) =
        some ((disk.get? (goal ++ (below ++ [name]))).getD
          (.directory 0o755)) := by
    rw [merged, stands]
  cases wasThere : disk.get? (goal ++ (below ++ [name])) with
  | none =>
      have locates := leadsNow.locate_child isOpen isPlain isUsable
      rw [List.append_assoc, isAsBefore, wasThere] at locates
      rw [wasThere] at isMerged
      refine ⟨now.set (goal ++ (below ++ [name])) (.directory 0o755),
        merges.add isThere (merges.listsOnce.set _ _)
          ((get?_set_self now _ _).trans isMerged.symm)
          fun other isOther => get?_set_of_ne now _ isOther,
        Or.inl ?_⟩
      rw [makeDirectory, locates (by simp)]
      exact if_pos (mayChange wasThere)
  | some old =>
      obtain ⟨bits, rfl⟩ : ∃ bits, old = .directory bits := by
        obtain ⟨isKind, -⟩ := ready.areAlike _ _ old stands wasThere
        cases old with
        | directory bits => exact ⟨bits, rfl⟩
        | file | link => simp [Entry.isDirectory] at isKind
      rw [wasThere] at isMerged isAsBefore
      refine ⟨now,
        merges.add isThere merges.listsOnce (isAsBefore.trans isMerged.symm)
          fun _ _ => rfl,
        Or.inr ⟨rfl, left, ?_⟩⟩
      rw [← List.append_assoc] at isAsBefore ⊢
      exact leadsNow.enter isOpen isPlain ⟨bits, isAsBefore⟩

end

end

end Disk

/-! ## Runs -/

/-- The surroundings of a host that lists directories in some order. -/
def Host.inOrder
    (order : Host → Path → List (Name × Disk.Kind) → List (Name × Disk.Kind)) :
    Surroundings Host
  | .listDirectory path, host =>
      ((host.disk.listDirectory host.workingDirectory path).map
        (order host path), host)
  | action, host => Host.perform action host

/-- Directories are made whatever the order is. -/
theorem Host.inOrder_of_makesWay
    {order : Host → Path → List (Name × Disk.Kind) → List (Name × Disk.Kind)}
    (action : Action)
    (host : Host)
    (makesWay : action.makesWay = true) :
    Host.inOrder order action host = Host.perform action host := by
  cases action <;> first | rfl | simp [Action.makesWay] at makesWay

namespace Files

variable
  {order : Host → Path → List (Name × Disk.Kind) → List (Name × Disk.Kind)}
variable {host : Host}
variable {disk now later : Disk}
variable {source target : Path}
variable {origin goal : Location}
variable {below : List Name}
variable {covers : List Name → Prop}

/-- A procedure copies each directory in a directory with all that it holds. -/
def CopiesBelow
    (order : Host → Path → List (Name × Disk.Kind) → List (Name × Disk.Kind))
    (host : Host)
    (disk : Disk)
    (source target : Path)
    (origin goal : Location)
    (below : List Name)
    (copyBelow : Path → Path → Storing Unit) :
    Prop :=
  ∀ now covers name mode,
    disk.Merges host.workingDirectory source origin goal now covers →
    (∀ above, above <+: below → covers above) →
    (∀ further, below ++ [name] <+: further → ¬covers further) →
    disk.get? (origin ++ (below ++ [name])) = some (.directory mode) →
    ∃ later,
      Ends (answersOf (Host.inOrder order))
          (copyBelow ((source.below below).child name)
            ((target.below below).child name)).run
          { host with disk := now } (.ok ()) { host with disk := later } ∧
        disk.Merges host.workingDirectory source origin goal later fun other =>
          covers other ∨ below ++ [name] <+: other

section

variable
  (ready :
    disk.MayMerge host.workingDirectory source target origin goal)
variable
  (leads : ∃ left, disk.LeadsTo host.workingDirectory target left goal)
variable (isGoal : disk.HasDirectory goal)

include ready leads isGoal

/-- A thing is copied with all that it holds. -/
theorem ends_copyEntry_merging
    {copyBelow : Path → Path → Storing Unit}
    {name : Name}
    {entry : Entry}
    (copiesBelow :
      CopiesBelow order host disk source target origin goal below copyBelow)
    (stands : disk.get? (origin ++ (below ++ [name])) = some entry)
    (merges :
      disk.Merges host.workingDirectory source origin goal now covers)
    (areCovered : ∀ above, above <+: below → covers above)
    (notCovered : ∀ further, below ++ [name] <+: further → ¬covers further) :
    ∃ later,
      Ends (answersOf (Host.inOrder order))
          (if Disk.kindOf entry = .directory then
            copyBelow ((source.below below).child name)
              ((target.below below).child name)
          else
            reporting ((target.below below).child name)
              (Plan.ask
                (.copyFile ((source.below below).child name)
                  ((target.below below).child name)))).run
          { host with disk := now } (.ok ()) { host with disk := later } ∧
        disk.Merges host.workingDirectory source origin goal later
          fun other => covers other ∨ below ++ [name] <+: other := by
  cases isDirectory : entry.isDirectory with
  | true =>
      cases entry with
      | directory mode =>
          exact copiesBelow now covers name mode merges areCovered notCovered
            stands
      | file | link => simp [Entry.isDirectory] at isDirectory
  | false =>
      obtain ⟨later, copies, mergesLater⟩ :=
        merges.exists_copyFile ready leads isGoal areCovered
          (notCovered _ List.prefix_rfl) stands isDirectory
      have notKind : Disk.kindOf entry ≠ .directory := by
        cases entry with
        | directory => simp [Entry.isDirectory] at isDirectory
        | file | link => simp [Disk.kindOf]
      refine ⟨later, ?_, mergesLater.congr fun other isThere => or_congr_right ?_⟩
      · rw [if_neg notKind]
        refine ends_attempt_iff.mpr (ends_ask_iff.mpr ?_)
        change Host.change _ _ = _
        rw [copies]
        rfl
      · -- Nothing is below what is no directory.
        refine ⟨fun isHere => isHere ▸ List.prefix_rfl, ?_⟩
        rintro ⟨rest, rfl⟩
        by_contra isBelow
        obtain ⟨mode, isThere⟩ :=
          ready.hasDirectory isThere fun isNil => isBelow (by simp [isNil])
        rw [stands] at isThere
        obtain rfl := Option.some.inj isThere
        simp [Entry.isDirectory] at isDirectory

/-- Things are copied one after the other, in whatever order they are listed. -/
theorem ends_copyEntries_merging
    {copyBelow : Path → Path → Storing Unit}
    {items : List (Name × Disk.Kind)}
    (copiesBelow :
      CopiesBelow order host disk source target origin goal below copyBelow)
    (areListed :
      ∀ name kind,
        (name, kind) ∈ items →
        ∃ entry,
          disk.get? (origin ++ (below ++ [name])) = some entry ∧
            Disk.kindOf entry = kind)
    (areDifferent : (items.map Prod.fst).Nodup)
    (merges :
      disk.Merges host.workingDirectory source origin goal now covers)
    (areCovered : ∀ above, above <+: below → covers above)
    (notCovered :
      ∀ name ∈ items.map Prod.fst,
        ∀ further, below ++ [name] <+: further → ¬covers further) :
    ∃ later,
      Ends (answersOf (Host.inOrder order))
          (copyEntries copyBelow (source.below below) (target.below below)
            items).run
          { host with disk := now } (.ok ()) { host with disk := later } ∧
        disk.Merges host.workingDirectory source origin goal later
          fun other =>
            covers other ∨
              ∃ name ∈ items.map Prod.fst, below ++ [name] <+: other := by
  induction items generalizing now covers with
  | nil =>
      exact ⟨now, ends_pure_iff.mpr ⟨rfl, rfl⟩,
        merges.congr fun other _ => by simp⟩
  | cons item items inductionHypothesis =>
      obtain ⟨name, kind⟩ := item
      obtain ⟨isOther, areOthers⟩ := List.nodup_cons.mp areDifferent
      obtain ⟨entry, stands, rfl⟩ := areListed name kind (.head _)
      obtain ⟨middle, copies, mergesFirst⟩ :=
        ends_copyEntry_merging ready leads isGoal copiesBelow stands merges
          areCovered (notCovered name (.head _))
      -- Different names have nothing below them in common, so the first copy covers nothing of the others.
      have notCoveredRest (other : Name)
          (member : other ∈ items.map Prod.fst)
          (further : List Name)
          (isBelow : below ++ [other] <+: further) :
          ¬(covers further ∨ below ++ [name] <+: further) := by
        rintro (isCovered | isHere)
        · exact notCovered other (.tail _ member) further isBelow isCovered
        · have isSame :=
            (List.prefix_of_prefix_length_le isHere isBelow (by simp)).eq_of_length
              (by simp)
          exact isOther ((List.append_singleton_inj.mp isSame).2 ▸ member)
      obtain ⟨later, copiesRest, mergesRest⟩ :=
        inductionHypothesis
          (fun other kind member => areListed other kind (.tail _ member))
          areOthers mergesFirst
          (fun above isAbove => Or.inl (areCovered above isAbove))
          notCoveredRest
      refine ⟨later, ?_, mergesRest.congr fun other _ => ?_⟩
      · rw [copyEntries]
        split
        · rename_i isDirectory
          rw [if_pos isDirectory] at copies
          exact ends_bindProcedure_iff.mpr ⟨(), _, copies, copiesRest⟩
        · rename_i notDirectory
          rw [if_neg notDirectory] at copies
          exact ends_bindProcedure_iff.mpr ⟨(), _, copies, copiesRest⟩
      · simp [or_assoc]

/-- A directory is copied with what is in it, in whatever order that is listed. -/
theorem ends_copyContents
    {copyBelow : Path → Path → Storing Unit}
    (isOrder : ∀ host path items, (order host path items).Perm items)
    (copiesBelow :
      CopiesBelow order host disk source target origin goal below copyBelow)
    (isDirectory : disk.HasDirectory (origin ++ below))
    (merges :
      disk.Merges host.workingDirectory source origin goal now covers)
    (areCovered : ∀ above, above <+: below → covers above)
    (notCovered :
      ∀ further, below <+: further → further ≠ below → ¬covers further) :
    ∃ later,
      Ends (answersOf (Host.inOrder order))
          (do
            let entries ←
              reporting (source.below below)
                (Plan.ask (.listDirectory (source.below below)))
            copyEntries copyBelow (source.below below) (target.below below)
              entries : Storing Unit).run
          { host with disk := now } (.ok ()) { host with disk := later } ∧
        disk.Merges host.workingDirectory source origin goal later
          fun other => covers other ∨ below <+: other := by
  obtain ⟨left, leadsSource⟩ := ready.leadsTo isDirectory
  have leadsNow := leadsSource.of_stays isDirectory (merges.stays ready)
  obtain ⟨mode, stands⟩ := isDirectory
  have isUsable :=
    (ready.areUsable below (stands ▸ Option.some_ne_none _)).1
  have mayRead : (Entry.directory mode).allows .read = true :=
    (ready.mayRead below _ stands).resolve_left (by simp [Entry.isLink])
  have finds :=
    leadsNow.finds ((merges.source_eq ready below).trans stands) isUsable
  obtain ⟨items, lists⟩ :
      ∃ items,
        now.listDirectory host.workingDirectory (source.below below) =
          .ok items := by
    rw [Disk.listDirectory, finds]
    exact ⟨_, if_pos mayRead⟩
  obtain ⟨place, bits, isPlace, areDifferent, areListed⟩ :=
    merges.listsOnce.listDirectory lists
  obtain ⟨rfl, -⟩ := Prod.mk.inj (Except.ok.inj (finds.symm.trans isPlace))
  simp only [List.append_assoc, merges.source_eq ready] at areListed
  obtain ⟨ordered, isOrdered⟩ :
      ∃ ordered,
        order { host with disk := now } (source.below below) items = ordered :=
    ⟨_, rfl⟩
  have isPerm : ordered.Perm items := isOrdered ▸ isOrder _ _ _
  have areStanding (name : Name) (kind : Disk.Kind) :=
    (isPerm.mem_iff.trans (areListed name kind)).mp
  obtain ⟨later, copies, mergesLater⟩ :=
    ends_copyEntries_merging ready leads isGoal copiesBelow areStanding
      ((isPerm.map Prod.fst).nodup_iff.mpr areDifferent) merges areCovered
      fun name _ further isBelow =>
        notCovered further ((List.prefix_append _ _).trans isBelow) (by
          rintro rfl
          simpa using isBelow.length_le)
  have isListed (name : Name)
      (isChild : disk.get? (origin ++ (below ++ [name])) ≠ none) :
      name ∈ ordered.map Prod.fst := by
    obtain ⟨entry, isEntry⟩ := Option.ne_none_iff_exists'.mp isChild
    exact List.mem_map.mpr ⟨(name, Disk.kindOf entry),
      isPerm.mem_iff.mpr ((areListed _ _).mpr ⟨entry, isEntry, rfl⟩), rfl⟩
  refine ⟨later, ends_bindProcedure_iff.mpr ⟨ordered, { host with disk := now },
    ends_attempt_iff.mpr (ends_ask_iff.mpr ?_), copies⟩,
    mergesLater.congr fun other isThere =>
      ready.below_iff_of_listed (areCovered below List.prefix_rfl) isListed
        isThere⟩
  change (Except.map _ _, _) = _
  rw [lists, ← isOrdered]
  rfl

/-- Each directory is copied with all that it holds, as deep as paths can be. -/
theorem copiesBelow_copyTreeWithin
    (isOrder : ∀ host path items, (order host path items).Perm items)
    (depth : Nat)
    (isDeep : below.length + depth = Disk.maxPathBytes) :
    CopiesBelow order host disk source target origin goal below
      (copyTreeWithin depth) := by
  induction depth generalizing below with
  | zero =>
      -- The path of a directory so far down would be too long.
      intro now covers name mode _ _ _ stands
      have isThere : disk.get? (origin ++ (below ++ [name])) ≠ none :=
        stands ▸ Option.some_ne_none _
      have isShort := ready.length_le isThere
      simp only [List.length_append, List.length_singleton] at isShort
      omega
  | succ depth inductionHypothesis =>
      intro now covers name mode merges areCovered notCovered stands
      have isThere : disk.get? (origin ++ (below ++ [name])) ≠ none :=
        stands ▸ Option.some_ne_none _
      have isUsable := (ready.areUsable _ isThere).2 (by simp)
      rw [Path.below_concat] at isUsable
      obtain ⟨made, mergesMade, makes⟩ :=
        merges.exists_makeDirectory ready leads isGoal areCovered
          (notCovered _ List.prefix_rfl) stands
      have makesDirectories :
          Ends (answersOf (Host.inOrder order))
            (makeDirectories ((target.below below).child name))
            { host with disk := now } (.ok ())
            { host with disk := made } := by
        rcases makes with makes | ⟨rfl, _, leadsNow⟩
        · exact ends_makeLineage_anew Host.inOrder_of_makesWay
            (Path.ne_empty_of_isUsable isUsable) makes
        · exact ends_makeLineage_of_leads Host.inOrder_of_makesWay
            (Or.inr isUsable)
            (mergesMade.hasDirectory ready (Or.inr rfl) ⟨mode, stands⟩) leadsNow
      have copiesBelow :
          CopiesBelow order host disk source target origin goal
            (below ++ [name]) (copyTreeWithin depth) :=
        inductionHypothesis (by
          simp only [List.length_append, List.length_singleton]
          omega)
      obtain ⟨later, copies, mergesLater⟩ :=
        ends_copyContents ready leads isGoal isOrder copiesBelow
          ⟨mode, stands⟩ mergesMade
          (fun above isAbove => by
            rcases List.prefix_concat_iff.mp isAbove with rfl | isAbove
            · exact Or.inr rfl
            · exact Or.inl (areCovered above isAbove))
          (fun further isBelow isOther isCovered =>
            isCovered.elim (notCovered further isBelow) isOther)
      rw [Path.below_concat, Path.below_concat] at copies
      refine ⟨later, ends_bindProcedure_iff.mpr
        ⟨(), _, ends_attempt_iff.mpr makesDirectories, copies⟩,
        mergesLater.congr fun other _ => ?_⟩
      rw [or_assoc]
      refine or_congr_right ⟨?_, Or.inr⟩
      rintro (rfl | isBelow)
      · exact List.prefix_rfl
      · exact isBelow

/-- A directory is copied to one that has been made, in whatever order things are listed. -/
theorem ends_copyTree_made
    (isOrder : ∀ host path items, (order host path items).Perm items)
    (makes :
      Ends (answersOf (Host.inOrder order)) (makeDirectories target) host
        (.ok ()) { host with disk }) :
    ∃ later,
      Ends (answersOf (Host.inOrder order)) (copyTree source target).run host
          (.ok ()) { host with disk := later } ∧
        disk.Merges host.workingDirectory source origin goal later
          fun _ => True := by
  have copiesBelow :
      CopiesBelow order host disk source target origin goal []
        (copyTreeWithin Disk.maxPathBytes) :=
    copiesBelow_copyTreeWithin ready leads isGoal isOrder _ (Nat.zero_add _)
  obtain ⟨later, copies, mergesLater⟩ :=
    ends_copyContents ready leads isGoal isOrder copiesBelow
      (by simpa using ready.isDirectory) (ready.merges_start isGoal)
      (fun above isAbove => List.prefix_nil.mp isAbove)
      (fun further _ isOther isNil => isOther isNil)
  exact ⟨later, ends_bindProcedure_iff.mpr
    ⟨(), _, ends_attempt_iff.mpr makes, copies⟩,
    mergesLater.congr fun other _ => by simp⟩

end

end Files

end Provision
