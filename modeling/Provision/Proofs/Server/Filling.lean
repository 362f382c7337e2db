import Provision.Proofs.Node.Looking
import Provision.Proofs.Storage.Writing
import Provision.Proofs.Text.Fields
import Provision.Proofs.Venv.Copies
import Provision.Server.Npm

namespace Provision

/-!
# Filling the storage of a server

A storage that has been cleared is made, marked and filled: the server is copied from its package, child
processes add modules to the copy, and the version of the runtime is written down beside it.  Nothing else
comes to the disk, and what was elsewhere stays.
-/

open Plan

/-! ## Paths of a server -/

namespace Text

/-- What is left of a text without a character around it does not start with that character. -/
theorem head?_withoutAround
    (c : Char)
    (text : String) :
    (withoutAround c text).toList.head? ≠ some c := by
  intro isHead
  have isKept :
      (withoutAround c text).toList <+:
        text.toList.dropWhile (· = c) := by
    rw [withoutAround, withoutTrailing, withoutLeading, String.toList_ofList,
      String.toList_ofList, ← List.reverse_suffix, List.reverse_reverse]
    exact List.dropWhile_suffix _
  obtain ⟨rest, isRest⟩ := isKept
  have notHead :=
    List.head?_dropWhile_not (fun other => decide (other = c)) text.toList
  rw [← isRest] at notHead
  cases isText : (withoutAround c text).toList with
  | nil => simp [isText] at isHead
  | cons first others =>
      rw [isText] at isHead notHead
      obtain rfl := Option.some.inj isHead
      simp at notHead

end Text

namespace Path

/-- The way of a path in a directory goes on from that of the directory, but for a slash at the end. -/
theorem exists_way_join
    (directory : Path)
    {path : Path}
    (isRelative : path.isAbsolute = false) :
    ∃ rest,
      (directory.join path).way = directory.way ++ rest ∧
        (path.segments = rest ∨ path.segments = rest ++ [.text ""]) := by
  have isNames := names_join directory isRelative
  rcases (directory.join path).names_eq_way with isWay | isWay
  · exact ⟨path.segments, isWay.symm.trans isNames, Or.inl rfl⟩
  · have notNil : path.segments ≠ [] := List.cons_ne_nil _ _
    have isSegments := List.dropLast_concat_getLast notNil
    rw [isNames, ← isSegments, ← List.append_assoc] at isWay
    obtain ⟨isRest, isLast⟩ := List.append_singleton_inj.mp isWay
    exact ⟨_, isRest.symm, Or.inr (isLast ▸ isSegments.symm)⟩

end Path

namespace Resources

/-- The names that a text leads through. -/
theorem namesOf_opening (text : String) :
    namesOf (opening ++ text) =
      ((Text.fields '/' text.toList).map String.ofList).filter
        fun name => name ≠ "" && name ≠ "." := by
  rw [namesOf, Text.afterString?, String.toList_append, Text.after?_append,
    Option.map_some, Option.getD_some, String.ofList_toList]

end Resources

namespace NpmOptions

variable {options : NpmOptions}

/-- The directory of the server in the storage is a relative path. -/
theorem isRelative_directoryName (options : NpmOptions) :
    (Path.ofString options.directoryName).isAbsolute = false :=
  Path.isAbsolute_ofString (Text.head?_withoutAround '/' options.directory)

/-- The segments of the directory of the server are its fields. -/
theorem segments_directoryName (options : NpmOptions) :
    (Path.ofString options.directoryName).segments =
      (Text.fields '/' options.directoryName.toList).map fun segment =>
        .text (String.ofList segment) :=
  Path.segments_ofSegments (by simp [Text.fields_ne_nil])

/-- The names of a resource path below the directory of the server. -/
theorem namesOf_append_source
    (options : NpmOptions)
    (text : String) :
    Resources.namesOf (options.source ++ text) =
      (((Text.fields '/' options.package.toList ++
            Text.fields '/' options.directoryName.toList ++
              Text.fields '/' text.toList).map String.ofList).filter
        fun name => name ≠ "" && name ≠ ".") := by
  have isOpening :
      options.source ++ text =
        Resources.opening ++
          (options.package ++ "/" ++ options.directoryName ++ "/" ++ text) := by
    have isSource :
        options.source =
          Resources.opening ++ options.package ++ "/" ++
            options.directoryName ++ "/" :=
      rfl
    rw [isSource]
    simp only [String.append_assoc]
  have isSlash : "/".toList = ['/'] := rfl
  rw [isOpening, Resources.namesOf_opening]
  simp only [String.toList_append, isSlash, List.append_assoc,
    List.cons_append, List.nil_append, Text.fields_append_separator]

/-- The names of the resource path of the server. -/
theorem namesOf_source (options : NpmOptions) :
    Resources.namesOf options.source =
      (((Text.fields '/' options.package.toList ++
            Text.fields '/' options.directoryName.toList).map
          String.ofList).filter
        fun name => name ≠ "" && name ≠ ".") := by
  have isSource := options.namesOf_append_source ""
  rw [String.append_empty] at isSource
  rw [isSource, List.map_append, List.filter_append]
  exact List.append_nil _

/-- The manifest is named by one more name than the directory that it is in. -/
theorem namesOf_manifest (options : NpmOptions) :
    Resources.namesOf options.manifest =
      Resources.namesOf options.source ++
        [StorageName.packageManifest.text] := by
  rw [manifest, namesOf_append_source, namesOf_source, List.map_append,
    List.filter_append]
  rfl

variable {resources : Resources}
variable {source : Path}

/-- If the resource path of a server leads somewhere, the directory of the server does not go up. -/
theorem notUp_of_resolve
    (resolves : resources.resolve options.source = .ok source)
    (name : Name)
    (member : name ∈ (Path.ofString options.directoryName).segments) :
    name.isUp = false := by
  by_contra isUp
  rw [segments_directoryName, List.mem_map] at member
  obtain ⟨segment, isField, rfl⟩ := member
  have isDots : String.ofList segment = ".." := by
    simpa [Name.isUp] using isUp
  have isNamed : ".." ∈ Resources.namesOf options.source := by
    rw [namesOf_source, List.mem_filter, List.mem_map]
    exact ⟨⟨segment, List.mem_append_right _ isField, isDots⟩, by decide⟩
  rw [Resources.resolve, if_pos isNamed] at resolves
  simp at resolves

/-- The manifest is in the directory of the server. -/
theorem resolve_manifest
    (resolves : resources.resolve options.source = .ok source) :
    resources.resolve options.manifest =
      .ok (source.within .packageManifest) := by
  unfold Resources.resolve at resolves ⊢
  rw [namesOf_manifest]
  split at resolves
  · simp at resolves
  · rename_i notUp
    obtain rfl := Except.ok.inj resolves
    have staysBelow :
        ".." ∉
          Resources.namesOf options.source ++
            [StorageName.packageManifest.text] := by
      rw [List.mem_append, not_or]
      exact ⟨notUp, by decide⟩
    rw [if_neg staysBelow, List.foldl_append, List.foldl_cons, List.foldl_nil,
      Path.within]

/-! ## The copy of a server -/

/-- The names that lead from the storage to the copy of the server. -/
def inner (options : NpmOptions) : List Name :=
  (Path.ofString options.directoryName).segments.filter fun name =>
    !name.isHere

/-- The copy of a server is looked for from where the storage is. -/
theorem start_copy
    (options : NpmOptions)
    (here : Location) :
    options.copy.start here = options.storage.start here :=
  Path.start_join options.storage options.isRelative_directoryName here

/-- The way to the copy of a server goes on from that to the storage. -/
theorem exists_way_copy (options : NpmOptions) :
    ∃ rest,
      options.copy.way = options.storage.way ++ rest ∧
        (∀ name ∈ rest,
          name ∈ (Path.ofString options.directoryName).segments) ∧
          (rest.filter fun name => !name.isHere) = options.inner := by
  obtain ⟨rest, isWay, isRest⟩ :=
    options.storage.exists_way_join options.isRelative_directoryName
  refine ⟨rest, isWay, fun name member => ?_, ?_⟩
  · rcases isRest with isRest | isRest <;> rw [isRest]
    · exact member
    · exact List.mem_append_left _ member
  · rw [inner]
    rcases isRest with isRest | isRest <;> rw [isRest]
    rw [List.filter_append]
    exact (List.append_nil _).symm

/-- The path of a copy goes up only at its start if that of the storage does. -/
theorem copy_upFirst
    (upFirst : options.storage.UpFirst)
    (resolves : resources.resolve options.source = .ok source) :
    options.copy.UpFirst := by
  have isJoined :
      options.copy =
        options.storage.join (Path.ofString options.directoryName) :=
    rfl
  rw [isJoined]
  exact upFirst.join options.isRelative_directoryName
    (notUp_of_resolve resolves)

/-- The path of a copy in a storage that has a path is not empty. -/
theorem copy_ne_empty
    (isNamed : options.storage ≠ Path.empty) :
    options.copy ≠ Path.empty := by
  intro isEmpty
  have isJoined :=
    Path.join_of_relative options.storage options.isRelative_directoryName
  rcases options.storage.closedSegments_cases with
    ⟨isStorage, -⟩ | ⟨rest, isCons, -, -⟩
  · exact isNamed isStorage
  · rw [isCons, List.cons_append] at isJoined
    have isRest : rest ++ _ = [] :=
      congrArg Path.rest (isJoined.symm.trans isEmpty)
    simp [Path.segments] at isRest

end NpmOptions

/-! ## Modules that are added -/

namespace Disk

variable {disk later last : Disk}
variable {workingDirectory : Location}
variable {path : Path}

/-- The name of the directory with the dependencies of a server. -/
def modulesName : Name :=
  .text StorageName.nodeModules.text

/-- Nothing has changed but that there is more among the modules in the directory of a path. -/
structure AddsModules
    (disk later : Disk)
    (workingDirectory : Location)
    (path : Path) :
    Prop where
  isTree : later.IsTree
  listsOnce : later.ListsOnce
  within : disk.Within later
  elsewhere :
    ∀ location,
      later.get? location = disk.get? location ∨
        ∃ left place,
          disk.LeadsTo workingDirectory path left place ∧
            disk.HasDirectory place ∧
              place ++ [modulesName] <+: location

/-- No modules are added where a disk stays as it is. -/
theorem AddsModules.refl
    (tree : disk.IsTree)
    (once : disk.ListsOnce) :
    disk.AddsModules disk workingDirectory path where
  isTree := tree
  listsOnce := once
  within := .refl disk
  elsewhere := fun _ => Or.inl rfl

/-- Modules that are added one after the other are added together. -/
theorem AddsModules.trans
    (adds : disk.AddsModules later workingDirectory path)
    (again : later.AddsModules last workingDirectory path) :
    disk.AddsModules last workingDirectory path where
  isTree := again.isTree
  listsOnce := again.listsOnce
  within := adds.within.trans again.within
  elsewhere := by
    intro location
    rcases again.elsewhere location with
      isSame | ⟨left, place, leads, isDirectory, isBelow⟩
    · exact (adds.elsewhere location).imp_left isSame.trans
    · by_cases leadsBefore :
          ∃ left place, disk.LeadsTo workingDirectory path left place ∧ disk.HasDirectory place
      · obtain ⟨before, there, ledTo, wasDirectory⟩ := leadsBefore
        obtain rfl : place = there :=
          (leads.unique (ledTo.mono adds.within)).2.symm
        exact Or.inr ⟨before, place, ledTo, wasDirectory, isBelow⟩
      · -- Nothing has been added before, so the path does not lead anywhere afterwards, either.
        have isSame (other : Location) :
            later.get? other = disk.get? other :=
          (adds.elsewhere other).resolve_right
            fun ⟨before, there, ledTo, wasDirectory, _⟩ =>
              leadsBefore ⟨before, there, ledTo, wasDirectory⟩
        exact absurd
          ⟨left, place,
            leads.mono fun other entry stands =>
              (isSame other).symm.trans stands,
            isDirectory.imp fun _ stands => (isSame place).symm.trans stands⟩
          leadsBefore

end Disk

/-! ## What a storage is filled with -/

namespace NpmServer

/-- The name of the file with the version of the runtime. -/
def versionName : Name :=
  .text StorageName.nodeVersion.text

/-- What is apart from a storage is as it was when the storage has been made and marked. -/
theorem get?_marked
    {disk made marked : Disk}
    {origin place : Location}
    (gains : disk.GainsDirectories made place)
    (marks :
      made.GainsFile marked place markName { mode := 0o644, content := [] })
    (areApart : Disk.AreApart origin place)
    (below : Location) :
    marked.get? (origin ++ below) = disk.get? (origin ++ below) := by
  have notBelow := areApart.not_below below
  have notMark : origin ++ below ≠ place ++ [markName] := by
    intro isMark
    rw [isMark] at notBelow
    exact notBelow (List.prefix_append place [markName])
  rw [marks.isSame _ notMark]
  refine (gains _).resolve_right fun ⟨_, _, isAbove⟩ => ?_
  exact areApart.1 ((List.prefix_append origin below).trans isAbove)

/--
A location where an installation puts something: on the way to the copy, the version, a copy of something in
the directory of the server, or among the modules.
-/
inductive IsMade
    (options : NpmOptions)
    (disk : Disk)
    (origin place : Location) :
    Location → Prop where
  | way
      {location : Location}
      (isAbove : location <+: place ++ options.inner) :
      IsMade options disk origin place location
  | version :
      IsMade options disk origin place (place ++ [versionName])
  | copied
      {below : Location}
      (notNil : below ≠ [])
      (isThere : disk.get? (origin ++ below) ≠ none) :
      IsMade options disk origin place (place ++ options.inner ++ below)
  | added
      {location : Location}
      (installs : options.skipDependencies = false)
      (isBelow : place ++ options.inner ++ [modulesName] <+: location) :
      IsMade options disk origin place location

/--
The disks that a storage goes through while it is filled: it is made and marked, the server is copied, modules
are added, the version is written down, and the mark is removed.
-/
structure Fills
    (options : NpmOptions)
    (workingDirectory : Location)
    (source : Path)
    (origin place : Location)
    (version : String)
    (disk made marked copied supplied written last : Disk) :
    Prop where
  isTree : disk.IsTree
  isMissing : disk.get? place = none
  gains : disk.GainsDirectories made place
  isFresh : made.IsFresh place
  leads : ∃ left, made.LeadsTo workingDirectory options.storage left place
  marks :
    made.GainsFile marked place markName { mode := 0o644, content := [] }
  copies :
    marked.CopiesInto copied workingDirectory source options.copy origin
      (place ++ options.inner)
  adds : copied.AddsModules supplied workingDirectory options.copy
  addsNone : options.skipDependencies = true → supplied = copied
  writes :
    supplied.GainsFile written place versionName
      { mode := 0o644, content := Text.Utf8.ofString version }
  isUsable : (options.storage.within .nodeVersion).isUsable = true
  removes : last = written.erase (place ++ [markName])
  isGone : last.IsGone workingDirectory (options.storage.within .installing)
  areApart : Disk.AreApart origin place
  noMark : disk.get? (origin ++ [markName]) = none

namespace Fills

variable {options : NpmOptions}
variable {workingDirectory : Location}
variable {source : Path}
variable {origin place : Location}
variable {version : String}
variable {disk made marked copied supplied written last : Disk}

section

variable
  (fills :
    Fills options workingDirectory source origin place version disk made marked
      copied supplied written last)

include fills

/-- What was on the disk before the storage was made is there when it is marked. -/
theorem within_marked : disk.Within marked :=
  fun location entry stands =>
    fills.marks.within location entry (fills.gains.get? stands)

/-- All that was there when the storage was made is there when the version has been written down. -/
theorem within_written : made.Within written :=
  fills.marks.within.trans
    (fills.copies.within.trans (fills.adds.within.trans fills.writes.within))

/-- The mark stands until it is removed. -/
theorem mark_stands :
    written.get? (place ++ [markName]) =
      some (.file { mode := 0o644, content := [] }) :=
  (fills.copies.within.trans
    (fills.adds.within.trans fills.writes.within)) _ _ fills.marks.stands

/-- Everything but files stays when the mark is removed. -/
theorem stays : written.Stays last :=
  fills.removes ▸ Disk.stays_erase fills.mark_stands

/-- Everything but the mark is as it was when the mark is removed. -/
theorem get?_last
    {location : Location}
    (notMark : location ≠ place ++ [markName]) :
    last.get? location = written.get? location :=
  fills.removes ▸ Disk.get?_erase_of_ne written notMark

/-- What was on the disk before the storage was filled is there afterwards. -/
theorem within_last : disk.Within last := by
  intro location entry stands
  have stood := fills.gains.get? stands
  have notMark : location ≠ place ++ [markName] := by
    rintro rfl
    rw [fills.marks.wasMissing] at stood
    simp at stood
  rw [fills.get?_last notMark]
  exact fills.within_written location entry stood

/-- A directory on the disk is none of the mark. -/
theorem ne_mark_of_hasDirectory
    {location : Location}
    (isDirectory : written.HasDirectory location) :
    location ≠ place ++ [markName] := by
  rintro rfl
  obtain ⟨mode, stands⟩ := isDirectory
  rw [fills.mark_stands] at stands
  simp at stands

/-- The path of the storage leads to its place. -/
theorem leads_last :
    ∃ left, last.LeadsTo workingDirectory options.storage left place := by
  obtain ⟨left, leads⟩ := fills.leads
  refine ⟨left, (leads.mono fills.within_written).of_stays fills.stays ?_⟩
  exact fills.get?_last (by simp)

/-- What is in the directory of the server is as it was when the copy is made. -/
theorem get?_origin (below : Location) :
    marked.get? (origin ++ below) = disk.get? (origin ++ below) :=
  get?_marked fills.gains fills.marks fills.areApart below

/-- The copy of something that is in the directory of the server is not the mark. -/
theorem copy_ne_mark
    {below : Location}
    (notNil : below ≠ [])
    (isThere : disk.get? (origin ++ below) ≠ none) :
    place ++ options.inner ++ below ≠ place ++ [markName] := by
  intro isMark
  rw [List.append_assoc, List.append_cancel_left_eq] at isMark
  obtain ⟨name, rest, rfl⟩ := List.exists_cons_of_ne_nil notNil
  have isShort := congrArg List.length isMark
  simp only [List.length_append, List.length_cons, List.length_nil]
    at isShort
  have isNil : options.inner = [] := List.length_eq_zero_iff.mp (by omega)
  rw [isNil, List.nil_append] at isMark
  exact isThere (isMark ▸ fills.noMark)

/-- A copy that has been made is found when the storage has been filled. -/
theorem findsFile_of_copied
    {below : Location}
    {content : Bytes}
    (notNil : below ≠ [])
    (isThere : disk.get? (origin ++ below) ≠ none)
    (isCopied :
      copied.FindsFile workingDirectory (options.copy.below below)
        (place ++ options.inner ++ below) content) :
    last.FindsFile workingDirectory (options.copy.below below)
      (place ++ options.inner ++ below) content :=
  (isCopied.of_within
      (fills.adds.within.trans fills.writes.within)).of_stays fills.stays
    (fills.get?_last (fills.copy_ne_mark notNil isThere))

/-- Something that is in the directory of the server is there under its first name. -/
theorem isThere_head
    {name : Name}
    {rest : Location}
    (isThere : disk.get? (origin ++ name :: rest) ≠ none) :
    marked.get? (origin ++ [name]) ≠ none := by
  rw [fills.get?_origin]
  intro isNone
  rw [List.append_cons] at isThere
  exact isThere (fills.isTree.missing_below isNone rest)

/-- A file in the directory of the server has a copy. -/
theorem findsFile
    {below : Location}
    {file : File}
    (notNil : below ≠ [])
    (stands : disk.get? (origin ++ below) = some (.file file)) :
    last.FindsFile workingDirectory (options.copy.below below)
      (place ++ options.inner ++ below) file.content := by
  have isThere : disk.get? (origin ++ below) ≠ none := by simp [stands]
  refine fills.findsFile_of_copied notNil isThere ?_
  obtain ⟨name, rest, rfl⟩ := List.exists_cons_of_ne_nil notNil
  rw [← fills.get?_origin, List.append_cons] at stands
  rw [Path.below_cons, List.append_cons]
  exact (fills.copies.copies name (fills.isThere_head isThere)).holdFiles rest
    file stands

/-- What is read in the directory of the server has a copy. -/
theorem findsContent
    {below : Location}
    {content : Bytes}
    (notNil : below ≠ [])
    (isThere : disk.get? (origin ++ below) ≠ none)
    (reads :
      disk.readFile workingDirectory (source.below below) = .ok content) :
    last.FindsFile workingDirectory (options.copy.below below)
      (place ++ options.inner ++ below) content := by
  refine fills.findsFile_of_copied notNil isThere ?_
  obtain ⟨name, rest, rfl⟩ := List.exists_cons_of_ne_nil notNil
  have isNamed := fills.isThere_head isThere
  rw [← fills.get?_origin, List.append_cons] at isThere
  rw [Path.below_cons] at reads ⊢
  rw [List.append_cons]
  exact (fills.copies.copies name isNamed).holdSame rest content isThere
    (fills.within_marked.readFile reads)

/-- What is there when the server has been copied was made, or it was there before. -/
theorem get?_copied
    {location : Location}
    {entry : Entry}
    (notMark : location ≠ place ++ [markName])
    (stands : copied.get? location = some entry) :
    IsMade options disk origin place location ∨
      disk.get? location = some entry ∧ ¬place <+: location := by
  rcases fills.copies.elsewhere location with
    isSame | ⟨-, isAbove⟩ | ⟨name, isNamed, rest, rfl⟩
  · rw [isSame, fills.marks.isSame location notMark] at stands
    rcases fills.gains location with wasSame | ⟨-, -, isAbove⟩
    · rw [wasSame] at stands
      refine Or.inr ⟨stands, ?_⟩
      rintro ⟨below, rfl⟩
      rw [fills.isTree.missing_below fills.isMissing] at stands
      simp at stands
    · exact Or.inl (.way (isAbove.trans (List.prefix_append _ _)))
  · exact Or.inl (.way isAbove)
  · have isAlike := (fills.copies.copies name isNamed).areAlike rest
    rw [stands, List.append_assoc, fills.get?_origin] at isAlike
    rw [List.append_assoc]
    refine Or.inl (.copied (by simp) fun isNone => ?_)
    rw [isNone] at isAlike
    simp at isAlike

/-- What is there when the storage has been filled was made, or it was there before. -/
theorem get?_eq_some
    {location : Location}
    {entry : Entry}
    (stands : last.get? location = some entry) :
    IsMade options disk origin place location ∨
      disk.get? location = some entry ∧ ¬place <+: location := by
  have notMark : location ≠ place ++ [markName] := by
    rintro rfl
    rw [fills.removes, Disk.get?_erase_self] at stands
    simp at stands
  rw [fills.get?_last notMark] at stands
  by_cases isVersion : location = place ++ [versionName]
  · exact Or.inl (isVersion ▸ .version)
  rw [fills.writes.isSame location isVersion] at stands
  rcases fills.adds.elsewhere location with
    isSame | ⟨_, goal, leads, -, isBelow⟩
  · exact fills.get?_copied notMark (isSame ▸ stands)
  · cases skips : options.skipDependencies with
    | true =>
        rw [fills.addsNone skips] at stands
        exact fills.get?_copied notMark stands
    | false =>
        obtain ⟨_, ledTo⟩ := fills.copies.leads
        rw [(ledTo.unique leads).2] at isBelow
        exact Or.inl (.added skips isBelow)

/-- The version that has been written down is found. -/
theorem findsVersion :
    last.FindsFile workingDirectory (options.storage.within .nodeVersion)
      (place ++ [versionName]) (Text.Utf8.ofString version) := by
  obtain ⟨left, leads⟩ := fills.leads
  have ledTo :=
    leads.mono
      (fills.marks.within.trans
        (fills.copies.within.trans fills.adds.within))
  have isPlain : versionName.isPlain = true := by decide +kernel
  have reads :=
    fills.writes.readFile ledTo isPlain fills.isUsable
      (by simp [Entry.allows, Entry.mode, Access.bit])
  refine (fills.writes.findsFile ledTo isPlain reads).of_stays fills.stays
    (fills.get?_last ?_)
  simp [versionName, markName, StorageName.text]

/-- A directory that is found when the modules have been added is found afterwards. -/
theorem status_eq
    {path : Path}
    {mode : Nat}
    (isStatus :
      supplied.status workingDirectory true path =
        .ok ⟨.directory, mode⟩) :
    last.status workingDirectory true path = .ok ⟨.directory, mode⟩ := by
  rw [Disk.status] at isStatus ⊢
  cases isFound : supplied.entryAt workingDirectory true path with
  | error fault =>
      rw [isFound] at isStatus
      cases isStatus
  | ok found =>
      obtain ⟨location, entry⟩ := found
      rw [isFound] at isStatus
      have isKind : Disk.statusOf entry = ⟨.directory, mode⟩ :=
        Except.ok.inj isStatus
      have found := Disk.entryAt_mono isFound fills.writes.within
      have isDirectory : written.HasDirectory location := by
        have stands := Disk.get?_of_entryAt found
        cases entry with
        | directory bits => exact ⟨bits, stands⟩
        | file | link => simp [Disk.statusOf, Disk.kindOf] at isKind
      rw [Disk.entryAt_of_stays found fills.stays
        (fills.get?_last (fills.ne_mark_of_hasDirectory isDirectory))]
      exact congrArg Except.ok isKind

end

end Fills

end NpmServer

/-! ## Runs -/

/-- Child processes that only add modules do so all along a plan that otherwise only looks. -/
theorem Disk.ends_addsModules
    {α : Type}
    {workingDirectory : Location}
    {children : Disk.Children}
    {step : Stepping Disk}
    {path : Path}
    {plan : Plan α}
    {disk last : Disk}
    {value : α}
    (answersBy : Disk.AnswersBy workingDirectory children step)
    (childrenAdd :
      ∀ child disk reply later,
        disk.IsTree →
        disk.ListsOnce →
        children child disk reply later →
        disk.AddsModules later workingDirectory path)
    (asksOnly : plan.AsksOnly Action.isQuiet)
    (tree : disk.IsTree)
    (once : disk.ListsOnce)
    (ends : Ends step plan disk value last) :
    disk.AddsModules last workingDirectory path := by
  refine ends.preserves
    (fun middle => disk.AddsModules middle workingDirectory path) asksOnly ?_
    (.refl tree once)
  intro action middle reply after isQuiet answered adds
  have answers := answersBy _ _ _ _ answered
  rw [Action.isQuiet, Bool.or_eq_true] at isQuiet
  rcases isQuiet with looks | isChild
  · rw [answers.eq_of_looks looks]
    exact adds
  · cases action with
    | spawn child =>
        exact adds.trans
          (childrenAdd child middle reply after adds.isTree adds.listsOnce
            answers)
    | _ => simp [Action.isChild] at isChild

namespace NpmServer

variable {server : NpmServer}
variable {workingDirectory : Location}
variable {children : Disk.Children}
variable {step : Stepping Disk}
variable {start disk made marked last : Disk}
variable {source : Path}
variable {origin place : Location}

/-- No modules are added to the copy of a server while its storage is cleared. -/
theorem get?_of_cleared
    (clears :
      start.ClearsTree disk workingDirectory server.options.storage)
    (adds : disk.AddsModules last workingDirectory server.options.copy)
    (location : Location) :
    last.get? location = disk.get? location := by
  refine (adds.elsewhere location).resolve_right ?_
  rintro ⟨left, goal, leads, isDirectory, -⟩
  obtain ⟨rest, isWay, -, -⟩ := server.options.exists_way_copy
  rw [Disk.LeadsTo, server.options.start_copy, isWay] at leads
  obtain ⟨_, between, leadsFirst, leadsOn⟩ := Disk.leads_of_leads_append leads
  obtain ⟨found, finds⟩ :=
    Disk.LeadsTo.exists_entryAt leadsFirst (leadsOn.hasDirectory isDirectory)
      clears.isUsable
  exact clears.isGone found finds

/-- A server can be copied to a storage in which there is nothing but the mark. -/
theorem readyToCopy
    {left : Nat}
    (tree : marked.IsTree)
    (once : marked.ListsOnce)
    (isNamed : server.options.storage ≠ Path.empty)
    (upFirst : server.options.storage.UpFirst)
    (resolves :
      server.resources.resolve server.options.source = .ok source)
    (comesFrom :
      ∀ later left place,
        marked.Within later →
        later.LeadsTo workingDirectory source left place →
        place = origin)
    (leads :
      made.LeadsTo workingDirectory server.options.storage left place)
    (isFresh : made.IsFresh place)
    (marks :
      made.GainsFile marked place markName { mode := 0o644, content := [] })
    (areApart : Disk.AreApart origin place)
    (noMark : marked.get? (origin ++ [markName]) = none) :
    marked.ReadyToCopy workingDirectory source server.options.copy origin
      (place ++ server.options.inner) := by
  have noUps := NpmOptions.notUp_of_resolve resolves
  have onlyMark (below : Location) (notNil : below ≠ [])
      (notMark : below ≠ [markName]) :
      marked.get? (place ++ below) = none := by
    rw [marks.isSame _ (by simpa using notMark)]
    exact isFresh.2 below notNil
  have isOpen : marked.IsOpen place :=
    isFresh.1.imp fun _ => And.imp_left (marks.within _ _)
  have goesTo (later : Disk) (left : Nat) (goal : Location)
      (gains : marked.GainsDirectories later goal)
      (leadsTo :
        later.LeadsTo workingDirectory server.options.copy left goal) :
      goal = place ++ server.options.inner := by
    obtain ⟨rest, isWay, areSegments, isInner⟩ :=
      server.options.exists_way_copy
    rw [Disk.LeadsTo, server.options.start_copy, isWay] at leadsTo
    obtain ⟨_, between, leadsFirst, leadsOn⟩ :=
      Disk.leads_of_leads_append leadsTo
    have ledTo := (leads.mono marks.within).mono fun _ _ => gains.get?
    obtain rfl : place = between := (ledTo.unique leadsFirst).2.symm
    rw [← isInner]
    refine leadsOn.eq_append_filter
      (fun name member => noUps name (areSegments name member))
      fun below _ _ target isLink => ?_
    rcases gains (place ++ below) with isSame | ⟨-, ⟨mode, stands⟩, -⟩
    · rw [isSame] at isLink
      by_cases isNil : below = []
      · obtain ⟨mode, stands, -⟩ := isOpen
        rw [isNil, List.append_nil, stands] at isLink
        simp at isLink
      · by_cases isMark : below = [markName]
        · rw [isMark, marks.stands] at isLink
          simp at isLink
        · rw [onlyMark below isNil isMark] at isLink
          simp at isLink
    · rw [stands] at isLink
      simp at isLink
  refine ⟨tree, once, NpmOptions.copy_ne_empty isNamed,
    NpmOptions.copy_upFirst upFirst resolves, comesFrom, goesTo, ?_,
    fun isDirectory name isThere => ?_⟩
  · simpa using areApart.append [] server.options.inner
  · -- The goal is there already only if it is the storage itself.
    have isNil : server.options.inner = [] := by
      by_contra notNil
      obtain ⟨mode, stands⟩ := isDirectory
      by_cases isMark : server.options.inner = [markName]
      · rw [isMark, marks.stands] at stands
        simp at stands
      · rw [onlyMark _ notNil isMark] at stands
        simp at stands
    intro left goal leadsTo
    have isGoal := goesTo marked left goal (.refl marked goal) leadsTo
    rw [isNil, List.append_nil] at isGoal
    subst isGoal
    refine ⟨Or.inr isOpen, onlyMark [name] (by simp) fun isMark => ?_⟩
    rw [List.singleton_inj.mp isMark] at isThere
    exact isThere noMark

/-- A temporary file for the version has another name than the mark and the directory of the modules. -/
theorem temporaryName_ne
    (storage : Path)
    (processId : Nat)
    {text : String}
    (isShort : text.length < 19) :
    Name.text
        (Files.temporaryName (storage.within .nodeVersion) processId) ≠
      .text text := by
  intro isSame
  have isLong :=
    Files.length_temporaryName (storage.within .nodeVersion) processId
  have isName : (storage.within .nodeVersion).fileName? = some versionName :=
    storage.fileName?_child (by decide +kernel) (by decide +kernel)
  have isText : versionName.display.length = 13 := by decide +kernel
  rw [Path.fileNameText, isName] at isLong
  dsimp only at isLong
  rw [isText, Name.text.inj isSame] at isLong
  omega

/-- Beside what the server brings along there are only directories in its storage. -/
theorem isDirectory_of_supplied
    {options : NpmOptions}
    {copied supplied : Disk}
    {name : Name}
    {entry : Entry}
    (isFresh : made.IsFresh place)
    (marks :
      made.GainsFile marked place markName { mode := 0o644, content := [] })
    (copies :
      marked.CopiesInto copied workingDirectory source options.copy origin
        (place ++ options.inner))
    (adds : copied.AddsModules supplied workingDirectory options.copy)
    (notMark : name ≠ markName)
    (notModules : name ≠ Disk.modulesName)
    (isOther : marked.get? (origin ++ [name]) = none)
    (stands : supplied.get? (place ++ [name]) = some entry) :
    entry.isDirectory = true := by
  have isTop {first : Name} :
      place ++ options.inner ++ [first] <+: place ++ [name] →
      first = name := by
    intro isPrefix
    rw [List.append_assoc, List.prefix_append_right_inj] at isPrefix
    have isShort := isPrefix.length_le
    simp only [List.length_append, List.length_singleton] at isShort
    have isNil : options.inner = [] := List.length_eq_zero_iff.mp (by omega)
    rw [isNil, List.nil_append] at isPrefix
    exact (List.cons_prefix_cons.mp isPrefix).1
  rcases adds.elsewhere (place ++ [name]) with
    isSame | ⟨_, goal, leads, -, isBelow⟩
  · rw [isSame] at stands
    rcases copies.elsewhere (place ++ [name]) with
      wasSame | ⟨-, isAbove⟩ | ⟨first, isNamed, isBelow⟩
    · rw [wasSame, marks.isSame _ (by simpa using notMark),
        isFresh.2 [name] (List.cons_ne_nil name [])] at stands
      simp at stands
    · obtain ⟨mode, isDirectory⟩ : copied.HasDirectory (place ++ [name]) := by
        obtain ⟨mode, isGoal⟩ := id copies.isDirectory
        by_cases isLast : place ++ [name] = place ++ options.inner
        · rw [isLast]
          exact copies.isDirectory
        · exact copies.isTree.hasDirectory isGoal isAbove isLast
      rw [isDirectory] at stands
      rw [← Option.some.inj stands]
      rfl
    · rw [isTop isBelow] at isNamed
      exact absurd isOther isNamed
  · obtain ⟨_, ledTo⟩ := copies.leads
    rw [(ledTo.unique leads).2] at isBelow
    exact absurd (isTop isBelow).symm notModules

section

variable (answersBy : Disk.AnswersBy workingDirectory children step)

include answersBy

/-- A server is copied from where its resources are. -/
theorem ends_copyTree
    (resolves :
      server.resources.resolve server.options.source = .ok source)
    (ready :
      disk.ReadyToCopy workingDirectory source server.options.copy origin place)
    (ends :
      Ends step
        (server.resources.copyTree server.options.source
          server.options.copy).run
        disk (.ok ()) last) :
    disk.CopiesInto last workingDirectory source server.options.copy origin
      place := by
  unfold Resources.copyTree at ends
  obtain ⟨found, middle, finds, copies⟩ := ends_bindProcedure_iff.mp ends
  obtain ⟨isFound, rfl⟩ := Resources.ends_existing answersBy finds
  obtain rfl := Except.ok.inj (resolves.symm.trans isFound)
  exact Files.ends_copyTreeWithin answersBy ready (ends_adapt_iff.mp copies)

/-- A storage that has been cleared is filled in these steps. -/
theorem ends_fill
    {version : String}
    (childrenAdd :
      ∀ child disk reply later,
        disk.IsTree →
        disk.ListsOnce →
        children child disk reply later →
        disk.AddsModules later workingDirectory server.options.copy)
    (clears :
      start.ClearsTree disk workingDirectory server.options.storage)
    (isNamed : server.options.storage ≠ Path.empty)
    (upFirst : server.options.storage.UpFirst)
    (resolves :
      server.resources.resolve server.options.source = .ok source)
    (comesFrom :
      ∀ later left place,
        disk.Within later →
        later.LeadsTo workingDirectory source left place →
        place = origin)
    (areApart :
      ∀ place,
        start.IsPlaceOf workingDirectory server.options.storage place →
        Disk.AreApart origin place)
    (noMark : disk.get? (origin ++ [markName]) = none)
    (noVersion : disk.get? (origin ++ [versionName]) = none)
    (noTemporary :
      ∀ processId,
        disk.get?
            (origin ++
              [.text
                (Files.temporaryName
                  (server.options.storage.within .nodeVersion) processId)]) =
          none)
    (ends : Ends step (server.fill version).run disk (.ok ()) last) :
    ∃ place made marked copied supplied written,
      Fills server.options workingDirectory source origin place version disk
          made marked copied supplied written last ∧
        (server.options.skipDependencies = false →
          Ends step
            (server.runtime.installDependencies server.options.copy).run
            copied (.ok ()) supplied) := by
  unfold fill at ends
  obtain ⟨_, marked, stores, fills⟩ := ends_bindProcedure_iff.mp ends
  obtain ⟨_, made, makes, creates⟩ :=
    ends_bindProcedure_iff.mp (ends_adapt_iff.mp stores)
  have makesAll := ends_attempt_iff.mp makes
  obtain ⟨place, way⟩ :=
    Files.ends_makeDirectories answersBy clears.isTree upFirst makesAll
  have once :=
    Files.listsOnce_of_makeDirectories answersBy clears.listsOnce makesAll
  obtain ⟨left, leads⟩ := way.leads
  obtain ⟨isMissing, isFresh, -⟩ := way.isNew.resolve_left fun ⟨isSame, isThere⟩ => by
    subst isSame
    obtain ⟨found, finds⟩ :=
      leads.exists_entryAt (isThere.resolve_left isNamed) clears.isUsable
    exact clears.isGone found finds
  have areApart := areApart place (.new clears way)
  have isOpen := isFresh.1
  obtain ⟨onceMarked, marks⟩ :=
    Files.ends_createMarker answersBy once
      (by decide +kernel) (by decide +kernel) leads isOpen.hasDirectory
      (isFresh.2 [markName] (List.cons_ne_nil _ [])) creates
  have treeMarked := way.isTree.of_gainsFile markName_isPlain marks
  have sameOrigin (name : Name) (isNone : disk.get? (origin ++ [name]) = none) :
      marked.get? (origin ++ [name]) = none := by
    rw [get?_marked way.gains marks areApart]
    exact isNone
  have ready : marked.ReadyToCopy workingDirectory source server.options.copy origin (place ++ server.options.inner) :=
    readyToCopy treeMarked onceMarked isNamed upFirst resolves (fun later left goal more => comesFrom later left goal (Disk.Within.trans (fun _ _ => way.gains.get?) (marks.within.trans more))) leads isFresh marks areApart (sameOrigin _ noMark)
  obtain ⟨_, copied, copiesAll, installs⟩ := ends_bindProcedure_iff.mp fills
  have copies := ends_copyTree answersBy resolves ready copiesAll
  obtain ⟨supplied, adds, addsNone, supplies, writesAll⟩ :
      ∃ supplied,
        copied.AddsModules supplied workingDirectory server.options.copy ∧
          (server.options.skipDependencies = true → supplied = copied) ∧
            (server.options.skipDependencies = false →
              Ends step
                (server.runtime.installDependencies
                  server.options.copy).run
                copied (.ok ()) supplied) ∧
              Ends step
                (Serving.storing do
                  Files.writeText (server.inStorage .nodeVersion) version
                  Files.removeMarker (server.inStorage .installing)).run
                supplied (.ok ()) last := by
    dsimp only at installs
    cases skips : server.options.skipDependencies with
    | true =>
        rw [skips, if_neg (by decide)] at installs
        exact ⟨copied, .refl copies.isTree copies.listsOnce, fun _ => rfl,
          by simp, installs⟩
    | false =>
        rw [skips, if_pos (by decide)] at installs
        obtain ⟨_, supplied, supplies, writes⟩ :=
          ends_bindProcedure_iff.mp installs
        have supplies := ends_adapt_iff.mp supplies
        exact ⟨supplied,
          Disk.ends_addsModules answersBy childrenAdd
            ((server.runtime.installDependencies_asksOnly _).mono
              fun _ => Action.isQuiet_of_runsIn)
            copies.isTree copies.listsOnce supplies,
          by simp, fun _ => supplies, writes⟩
  obtain ⟨_, written, writesText, removes⟩ :=
    ends_bindProcedure_iff.mp (ends_adapt_iff.mp writesAll)
  have withinSupplied := marks.within.trans (copies.within.trans adds.within)
  have ledTo := leads.mono withinSupplied
  have isOpenNow : supplied.IsOpen place :=
    isOpen.imp fun _ => And.imp_left (withinSupplied _ _)
  have isDirectory (name : Name) (notMark : name ≠ markName)
      (notModules : name ≠ Disk.modulesName)
      (isOther : disk.get? (origin ++ [name]) = none) (entry : Entry) :
      supplied.get? (place ++ [name]) = some entry →
      entry.isDirectory = true :=
    isDirectory_of_supplied isFresh marks copies adds notMark notModules
      (sameOrigin name isOther)
  obtain ⟨isUsable, writes⟩ :=
    Files.ends_writeAtomically answersBy adds.isTree
      (by decide +kernel) (by decide +kernel) ledTo isOpenNow.hasDirectory
      (isDirectory versionName (by decide +kernel) (by decide +kernel) noVersion)
      (fun processId => isDirectory _ (temporaryName_ne _ _ (by decide)) (temporaryName_ne _ _ (by decide)) (noTemporary processId)) writesText
  have within := withinSupplied.trans writes.within
  obtain ⟨isLast, isGone⟩ :=
    Files.ends_removeFile_of_leads answersBy markName_isPlain
      (leads.mono within) (isOpen.imp fun _ => And.imp_left (within _ _))
      ((copies.within.trans (adds.within.trans writes.within)) _ _
        marks.stands) removes
  exact ⟨place, made, marked, copied, supplied, written,
    ⟨clears.isTree, isMissing, way.gains, isFresh, ⟨left, leads⟩, marks, copies,
      adds, addsNone, writes, isUsable, isLast, isGone, areApart, noMark⟩,
    supplies⟩

end

end NpmServer

end Provision
