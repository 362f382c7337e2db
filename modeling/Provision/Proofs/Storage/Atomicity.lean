import Provision.Proofs.Storage.Preparing

namespace Provision

/-!
# Files that are replaced at once

A content is written to a temporary file beside its place, and then the temporary file takes the place.  As long
as the temporary file has nothing to do with what a path leads to, the path finds what it found before or the new
content, wherever the process stops, whatever fails, and however often the last step is tried.
-/

open Plan

namespace Path

/-- The last name of a path is that of its text. -/
theorem getLast?_names (path : Path) :
    path.names.getLast? = path.segments.getLast? := by
  obtain ⟨first, rest⟩ := path
  rw [names]
  split
  · rename_i isAbsolute
    cases rest with
    | nil => simp [isAbsolute_single] at isAbsolute
    | cons next others => rw [segments, List.getLast?_cons_cons]
  · rfl

/-- No name comes after that of an entry if a path ends with a name. -/
theorem StandsIn.later_eq_nil
    {path parent : Path}
    {heres later : List Name}
    {name : Name}
    (standsIn : path.StandsIn parent heres name later)
    (isClosed : path.endsOpen = false)
    (isNamed : path.endsUnnamed = false) :
    later = [] := by
  cases isLast : later.getLast? with
  | none => exact List.getLast?_eq_none_iff.mp isLast
  | some last =>
      have isHere := standsIn.later last (List.mem_of_getLast? isLast)
      have isSegment : path.segments.getLast? = some last := by
        rw [← getLast?_names, standsIn.names, List.getLast?_append,
          List.getLast?_cons, isLast]
        rfl
      have notEmpty : last ≠ .text "" := by
        rintro rfl
        rw [endsOpen, isSegment] at isClosed
        simp at isClosed
      obtain ⟨before, isSplit⟩ := List.getLast?_eq_some_iff.mp isSegment
      rw [endsUnnamed, isSplit, List.reverse_append, List.reverse_singleton,
        List.singleton_append, List.dropWhile_cons_of_neg (by simpa using notEmpty)]
        at isNamed
      simp [isHere] at isNamed

/-- The names that a path has beyond that of its directory never go up, if its own name does not. -/
theorem StandsIn.noUps
    {path parent : Path}
    {heres later : List Name}
    {name : Name}
    (standsIn : path.StandsIn parent heres name later)
    (notUp : name.isUp = false) :
    ∀ other ∈ heres ++ name :: later, other.isUp = false := by
  have notUpHere (other : Name) (isHere : other.isHere = true) :
      other.isUp = false := by
    simp only [Name.isHere, Bool.or_eq_true, decide_eq_true_eq] at isHere
    rcases isHere with rfl | rfl <;> simp [Name.isUp]
  intro other member
  rcases List.mem_append.mp member with isBefore | isAfter
  · exact notUpHere other (standsIn.heres other isBefore)
  · rcases List.mem_cons.mp isAfter with rfl | isLater
    · exact notUp
    · exact notUpHere other (standsIn.later other isLater)

end Path

namespace Disk

variable {disk now written last : Disk}
variable {workingDirectory : Location}
variable {path parent temporary : Path}
variable {content : Bytes}

/-- A path that ends with a slash finds a directory, if it finds anything. -/
theorem Walks.isDirectory_of_open
    {followLast : Bool}
    {links : Nat}
    {here location : Location}
    {names : List Name}
    {entry : Entry}
    (walks : disk.Walks followLast links here names ⟨location, some entry⟩)
    (isOpen : names.getLast? = some (.text "")) :
    entry.isDirectory = true := by
  have notPlain : ¬(Name.text "").isPlain = true := by
    simp [Name.isPlain, Name.isHere]
  generalize isFound : (⟨location, some entry⟩ : Found) = found at walks
  induction walks with
  | arrived => simp at isOpen
  | missing => simp at isFound
  | link _ isPlain =>
      rw [List.getLast?_singleton, Option.some.injEq] at isOpen
      exact absurd (isOpen ▸ isPlain) notPlain
  | @step _ _ _ _ name names rest _ steps _ later inductionHypothesis =>
      cases rest with
      | cons next others =>
          refine inductionHypothesis ?_ isFound
          rw [List.getLast?_cons_cons] at isOpen
          rw [List.getLast?_append, isOpen]
          rfl
      | nil =>
          rw [List.getLast?_singleton, Option.some.injEq] at isOpen
          subst isOpen
          cases steps with
          | empty isDirectory =>
              obtain ⟨mode, stands⟩ := isDirectory
              cases later with
              | arrived =>
                  rw [stands] at isFound
                  obtain ⟨-, isEntry⟩ := Found.mk.inj isFound
                  obtain rfl := Option.some.inj isEntry
                  rfl
          | dot _ isSpecial | up _ isSpecial => simp at isSpecial
          | down _ isPlain | follow _ isPlain => exact absurd isPlain notPlain

/-- A regular file with a content stands at a path. -/
def FindsContent
    (disk : Disk)
    (workingDirectory : Location)
    (path : Path)
    (content : Bytes) :
    Prop :=
  ∃ location file,
    disk.entryAt workingDirectory false path = .ok (location, .file file) ∧
      file.content = content

/--
A temporary file has nothing to do with a path: it is no link, and the path leads neither to its place nor to
another name of it.  The path does not lead through a link that stands at the path itself.
-/
structure KeepsApart
    (disk : Disk)
    (workingDirectory : Location)
    (path temporary : Path) :
    Prop where
  noDetour :
    ∀ location target,
      disk.entryAt workingDirectory false path = .ok (location, .link target) →
      (disk.erase location).locate workingDirectory false path =
        .ok ⟨location, none⟩
  notLink : disk.LacksLink workingDirectory temporary
  isElsewhere :
    ∀ place found? other?,
      disk.locate workingDirectory true path = .ok ⟨place, found?⟩ →
      disk.locate workingDirectory true temporary ≠ .ok ⟨place, other?⟩
  notShared :
    ∀ place file otherPlace other,
      disk.entryAt workingDirectory true path = .ok (place, .file file) →
      disk.entryAt workingDirectory true temporary =
        .ok (otherPlace, .file other) →
      sameFile (.file other) (.file file) = false

/-- A temporary file that has been opened stands under its name in its directory. -/
theorem exists_of_openFile_unlinked
    {other : Name}
    {fresh : File}
    {change : File → File}
    (otherNotHere : other.isHere = false)
    (otherNotUp : other.isUp = false)
    (notLink : now.LacksLink workingDirectory (parent.child other))
    (opens :
      now.openFile workingDirectory (parent.child other) fresh change =
        .ok written) :
    ∃ left there old? file,
      now.LeadsTo workingDirectory parent left there ∧
        now.HasDirectory there ∧
          now.locate workingDirectory true (parent.child other) =
              .ok ⟨there ++ [other], old?⟩ ∧
            written.get? (there ++ [other]) = some (.file file) ∧
              (file = fresh ∨
                ∃ old, old? = some (.file old) ∧ file = change old) := by
  have isPlace {found : Found} (locates :
      now.locate workingDirectory true (parent.child other) = .ok found) :
      ∃ left there,
        now.LeadsTo workingDirectory parent left there ∧
          now.IsOpen there ∧
            found = ⟨there ++ [other], now.get? (there ++ [other])⟩ := by
    obtain ⟨_, _, -, walks⟩ :=
      leadsTo_of_locate_child (Name.ne_empty otherNotHere) locates
    exact exists_of_locate_unlinked (walks.isPlain otherNotHere otherNotUp)
      notLink locates
  rcases openFile_eq_ok opens with
    ⟨location, locates, rfl⟩ | ⟨location, old, locates, rfl⟩
  · obtain ⟨left, there, leads, isOpen, isFound⟩ := isPlace locates
    obtain ⟨rfl, -⟩ := Disk.Found.mk.inj isFound
    exact ⟨left, there, none, fresh, leads, isOpen.hasDirectory, locates,
      get?_set_self now _ _, Or.inl rfl⟩
  · obtain ⟨left, there, leads, isOpen, isFound⟩ := isPlace locates
    obtain ⟨rfl, stands⟩ := Found.mk.inj isFound
    exact ⟨left, there, some (.file old), change old, leads,
      isOpen.hasDirectory, locates, get?_updateFile_self stands.symm change,
      Or.inr ⟨old, rfl, rfl⟩⟩

/-- The file that was written has nothing to do with what the path still finds. -/
theorem KeepsApart.notSame_of_writeFile
    {origin goal : Location}
    {old? existing? : Option Entry}
    {file : File}
    (keepsApart : now.KeepsApart workingDirectory path temporary)
    (opens : now.writeFile workingDirectory temporary content = .ok written)
    (isThere : now.locate workingDirectory true temporary = .ok ⟨origin, old?⟩)
    (stands : written.get? origin = some (.file file))
    (isWritten :
      file = { mode := 0o644, content } ∨
        ∃ old, old? = some (.file old) ∧ file = old.rewritten content)
    (locates :
      written.locate workingDirectory false path = .ok ⟨goal, existing?⟩) :
    origin ≠ goal ∧
      ∀ existing,
        existing? = some existing → sameFile (.file file) existing = false := by
  have findsSame : now.FindsSame written workingDirectory path :=
    findsSame_of_openFile keepsApart.isElsewhere keepsApart.notShared opens
  have found (other : File) (isFile : existing? = some (.file other)) :
      now.entryAt workingDirectory true path = .ok (goal, .file other) := by
    subst isFile
    exact (findsSame _).mp (entryAt_followed (entryAt_eq_ok_iff.mpr locates) rfl)
  constructor
  · rintro rfl
    have isFile := (get?_of_locate locates).symm.trans stands
    exact keepsApart.isElsewhere _ _ _ (entryAt_eq_ok_iff.mp (found file isFile))
      isThere
  · intro existing isExisting
    cases existing with
    | directory | link => rfl
    | file other =>
        rcases isWritten with rfl | ⟨old, rfl, rfl⟩
        · rfl
        · -- What is written to a file leaves it in the group that it had.
          have notShared : sameFile (.file old) (.file other) = false :=
            keepsApart.notShared _ _ _ _ (found other isExisting)
              (entryAt_eq_ok_iff.mpr isThere)
          exact notShared

section

variable {heres later : List Name}
variable {name other : Name}
variable (standsIn : path.StandsIn parent heres name later)
variable (notHere : name.isHere = false)
variable (notUp : name.isUp = false)
variable (isOther : other ≠ name)
variable (otherNotHere : other.isHere = false)
variable (otherNotUp : other.isUp = false)

include standsIn notHere notUp

theorem HasFreshWay.isAbsent_of_standsIn
    (hasFreshWay : now.HasFreshWay workingDirectory parent) :
    now.IsAbsent workingDirectory path :=
  hasFreshWay.isAbsent (standsIn.names.trans (List.append_assoc _ _ _))
    (standsIn.start _) (standsIn.noUps notUp) ⟨name, by simp, notHere⟩

/-- What a path finds is not changed by the directories that are made for it. -/
theorem Prepares.findsSame
    (prepares : disk.Prepares now workingDirectory parent) :
    disk.FindsSame now workingDirectory path := by
  rcases prepares.isNew with rfl | hasFreshWay
  · exact .refl _ _ _
  · exact findsSame_of_isAbsent prepares.within
      (hasFreshWay.isAbsent_of_standsIn standsIn notHere notUp)

include isOther otherNotHere otherNotUp

/-- A temporary file has nothing to do with a path, either, when directories have been made for them. -/
theorem Prepares.keepsApart
    (prepares : disk.Prepares now workingDirectory parent)
    (keepsApart :
      disk.KeepsApart workingDirectory path (parent.child other)) :
    now.KeepsApart workingDirectory path (parent.child other) := by
  rcases prepares.isNew with rfl | hasFreshWay
  · exact keepsApart
  have isAbsent := hasFreshWay.isAbsent_of_standsIn standsIn notHere notUp
  have findsNothing (found : Location × Entry) :
      now.entryAt workingDirectory true path ≠ .ok found := by
    intro finds
    obtain ⟨_, _, unfollowed, -⟩ := exists_entryAt_unfollowed finds
    exact isAbsent _ unfollowed
  refine ⟨fun _ _ finds => absurd finds (isAbsent _), fun _ _ finds => ?_, ?_,
    fun _ _ _ _ finds => absurd finds (findsNothing _)⟩
  · exact absurd finds (hasFreshWay.isAbsent_child otherNotHere otherNotUp _)
  · intro place found? other? locates
    exact hasFreshWay.locate_ne (standsIn.names.trans (List.append_assoc _ _ _))
      (standsIn.start _) (standsIn.noUps notUp) (by simp) notHere isOther
      otherNotHere otherNotUp rfl locates

end

/-- A file that is at a path may be read, if there is one. -/
def MayRead
    (disk : Disk)
    (workingDirectory : Location)
    (path : Path) :
    Prop :=
  ∀ place file,
    disk.entryAt workingDirectory true path = .ok (place, .file file) →
    (Entry.file file).allows .read = true

/-- A temporary file may be read, either, when directories have been made for it. -/
theorem Prepares.mayRead
    {other : Name}
    (prepares : disk.Prepares now workingDirectory parent)
    (otherNotHere : other.isHere = false)
    (otherNotUp : other.isUp = false)
    (mayRead : disk.MayRead workingDirectory (parent.child other)) :
    now.MayRead workingDirectory (parent.child other) := by
  rcases prepares.isNew with rfl | hasFreshWay
  · exact mayRead
  · intro place file finds
    obtain ⟨_, _, unfollowed, -⟩ := exists_entryAt_unfollowed finds
    exact absurd unfollowed
      (hasFreshWay.isAbsent_child otherNotHere otherNotUp _)

section

variable {before : List Name}
variable {name : Name}
variable (isNames : path.names = before ++ [name])
variable (notHere : name.isHere = false)
variable (notUp : name.isUp = false)

include isNames notHere notUp

/-- The names before the last one lead where they led, even without what stands at the path. -/
theorem KeepsApart.leads_erase
    {left : Nat}
    {there : Location}
    (keepsApart : now.KeepsApart workingDirectory path temporary)
    (isUsable : path.isUsable = true)
    (isPlain : name.isPlain = true)
    (leads :
      now.Leads maxLinks (path.start workingDirectory) before left there)
    (isOpen : now.IsOpen there)
    (notDirectory : ¬now.HasDirectory (there ++ [name])) :
    ∃ left,
      (now.erase (there ++ [name])).Leads maxLinks
        (path.start workingDirectory) before left there := by
  have isOther : there ≠ there ++ [name] := by simp
  cases stands : now.get? (there ++ [name]) with
  | none =>
      refine ⟨left, leads.mono fun location entry isThere => ?_⟩
      rwa [get?_erase_of_ne]
      rintro rfl
      simp [stands] at isThere
  | some entry =>
      cases entry with
      | directory mode => exact absurd ⟨mode, stands⟩ notDirectory
      | file file =>
          exact ⟨left, leads.of_stays (stays_erase stands)
            (get?_erase_of_ne now isOther)⟩
      | link target =>
          have finds :
              now.entryAt workingDirectory false path =
                .ok (there ++ [name], .link target) :=
            (entryAt_named_iff isNames notHere notUp).mpr
              ⟨⟨isUsable, isPlain⟩, left, there, leads, isOpen, rfl, stands⟩
          obtain ⟨left', place, leadsOn, -, isFound⟩ :=
            exists_of_locate_named isNames notHere notUp
              (keepsApart.noDetour _ _ finds)
          have isPlace : place = there :=
            (leads.unique (leadsOn.mono fun _ _ => get?_of_get?_erase)).2
          exact ⟨left', isPlace ▸ leadsOn⟩

omit notHere notUp isNames in
/-- A path ends in a slash only where a directory is found. -/
theorem Walks.notOpen
    {links : Nat}
    {here goal : Location}
    {existing? : Option Entry}
    (walks : written.Walks false links here path.names ⟨goal, existing?⟩)
    (notDirectory : ∀ mode, existing? ≠ some (.directory mode))
    (isClosed : existing? = none → path.endsOpen = false) :
    path.endsOpen = false := by
  cases existing? with
  | none => exact isClosed rfl
  | some existing =>
      by_contra isOpen
      rw [Bool.not_eq_false] at isOpen
      have isLast : path.names.getLast? = some (.text "") := by
        rw [Path.getLast?_names]
        exact of_decide_eq_true isOpen
      have isFolder := walks.isDirectory_of_open isLast
      cases existing with
      | directory mode => exact notDirectory mode rfl
      | file | link => simp [Entry.isDirectory] at isFolder

/-- A file that is moved to a path stands there, if the way there does not lead through what stood at the path. -/
theorem entryAt_moveTree_of_file
    {left : Nat}
    {there origin : Location}
    {file : File}
    (treeWritten : written.IsTree)
    (stays : now.Stays written)
    (isFile : written.get? origin = some (.file file))
    (notDirectory : ¬written.HasDirectory (there ++ [name]))
    (isOther : origin ≠ there ++ [name])
    (isNear : origin.length = (there ++ [name]).length)
    (isUsable : path.isUsable = true)
    (isPlain : name.isPlain = true)
    (isOpen : written.IsOpen there)
    (leads :
      (now.erase (there ++ [name])).Leads maxLinks
        (path.start workingDirectory) before left there)
    (wasOpen : now.IsOpen there) :
    (written.moveTree origin (there ++ [name])).entryAt workingDirectory false
        path =
      .ok (there ++ [name], .file file) := by
  have isMoved :=
    get?_moveTree_of_file treeWritten isFile notDirectory
      (fun isPrefix => isOther (isPrefix.eq_of_length isNear.symm).symm)
      (fun isPrefix => isOther (isPrefix.eq_of_length isNear))
  have isSame {location : Location} {entry : Entry}
      (stands : written.get? location = some entry)
      (notFile : entry.isFile = false)
      (notGoal : location ≠ there ++ [name]) :
      (written.moveTree origin (there ++ [name])).get? location =
        some entry := by
    rw [isMoved, if_neg notGoal, if_neg, stands]
    rintro rfl
    obtain rfl := Option.some.inj (isFile.symm.trans stands)
    simp [Entry.isFile] at notFile
  have staysOn :
      (now.erase (there ++ [name])).Stays
        (written.moveTree origin (there ++ [name])) := by
    intro location entry stands notFile
    have notGoal : location ≠ there ++ [name] := by
      rintro rfl
      simp [get?_erase_self] at stands
    rw [get?_erase_of_ne now notGoal] at stands
    exact isSame (stays _ _ stands notFile) notFile notGoal
  have notThere : there ≠ there ++ [name] := by simp
  obtain ⟨mode, stands, mayPass⟩ := isOpen
  have standsLast := isSame stands rfl notThere
  obtain ⟨oldMode, stood, -⟩ := wasOpen
  have isSameThere :
      (written.moveTree origin (there ++ [name])).get? there =
        (now.erase (there ++ [name])).get? there := by
    rw [get?_erase_of_ne now notThere, stood, standsLast, ← stands,
      stays _ _ stood rfl]
  exact (entryAt_named_iff isNames notHere notUp).mpr
    ⟨⟨isUsable, isPlain⟩, left, there, leads.of_stays staysOn isSameThere,
      ⟨mode, standsLast, mayPass⟩, rfl, (isMoved _).trans (if_pos rfl)⟩

end

section

variable {heres later : List Name}
variable {name other : Name}
variable (standsIn : path.StandsIn parent heres name later)
variable (notHere : name.isHere = false)
variable (notUp : name.isUp = false)
variable (otherNotHere : other.isHere = false)
variable (otherNotUp : other.isUp = false)

include standsIn notHere notUp otherNotHere otherNotUp

/-- A temporary file that takes the place of a path is found there, with what was written to it. -/
theorem KeepsApart.findsContent_of_rename
    (tree : now.IsTree)
    (keepsApart : now.KeepsApart workingDirectory path (parent.child other))
    (opens :
      now.writeFile workingDirectory (parent.child other) content =
        .ok written)
    (renames :
      written.rename workingDirectory (parent.child other) path = .ok last) :
    ∃ goal file,
      last.entryAt workingDirectory false path = .ok (goal, .file file) ∧
        (file = { mode := 0o644, content } ∨
          ∃ place old,
            now.entryAt workingDirectory true (parent.child other) =
                .ok (place, .file old) ∧
              file = old.rewritten content) := by
  obtain ⟨_, there, old?, file, leadsParent, isDirectory, isThere, stands,
    isWritten⟩ :=
    exists_of_openFile_unlinked otherNotHere otherNotUp keepsApart.notLink opens
  have stays : now.Stays written := stays_openFile opens
  have wasSame : written.Stays now := openFile_stays opens
  have leadsWritten := leadsParent.of_stays isDirectory stays
  obtain ⟨origin, entry, goal, existing?, finds, locates, -⟩ :=
    rename_eq_ok renames
  obtain ⟨rfl, isEntry⟩ :=
    get?_of_entryAt_child otherNotHere otherNotUp leadsWritten finds
  obtain rfl := Option.some.inj (isEntry.symm.trans stands)
  obtain ⟨isElsewhere, notSame⟩ :=
    keepsApart.notSame_of_writeFile opens isThere stands isWritten locates
  obtain ⟨rfl, notDirectory, isClosed, isNamed⟩ :=
    rename_of_otherFile finds locates isElsewhere notSame renames
  obtain ⟨isUsable, walks⟩ := locate_eq_ok_iff.mp locates
  have notOpen := walks.notOpen notDirectory isClosed
  have isNames : path.names = (parent.way ++ heres) ++ [name] := by
    rw [standsIn.names, standsIn.later_eq_nil notOpen isNamed]
  rw [isNames] at walks
  obtain ⟨left, place, leads, ends⟩ :=
    leads_of_walks_append walks (by simpa using Name.ne_empty notHere)
  have isPlain := ends.isPlain notHere notUp
  obtain ⟨isOpen, isFound⟩ := ends.exists_of_named notHere notUp
  obtain ⟨rfl, isExisting⟩ := Found.mk.inj isFound
  -- The temporary file is in the directory that the path stands in.
  obtain rfl : place = there := by
    obtain ⟨_, between, leadsFirst, leadsHeres⟩ := leads_of_leads_append leads
    rw [standsIn.start] at leadsFirst
    obtain rfl := (leadsWritten.unique leadsFirst).2
    rw [← List.append_nil heres] at leadsHeres
    cases leadsHeres.eq_of_heres standsIn.heres
    rfl
  have notFolder : ¬written.HasDirectory (place ++ [name]) := by
    rintro ⟨mode, stands⟩
    exact notDirectory mode (isExisting.trans stands)
  have wasNoFolder : ¬now.HasDirectory (place ++ [name]) := by
    rintro ⟨mode, stood⟩
    exact notFolder ⟨mode, stays _ _ stood rfl⟩
  have wasOpen := isOpen.of_stays wasSame
  have ledTo : now.Leads maxLinks (path.start workingDirectory)
      (parent.way ++ heres) left place := by
    obtain ⟨mode, standsThere, -⟩ := isOpen
    exact leads.of_stays wasSame
      ((wasSame _ _ standsThere rfl).trans standsThere.symm)
  obtain ⟨_, leadsErased⟩ :=
    keepsApart.leads_erase isNames notHere notUp isUsable isPlain ledTo wasOpen
      wasNoFolder
  refine ⟨_, file,
    entryAt_moveTree_of_file isNames notHere notUp (tree.openFile opens) stays
      stands notFolder isElsewhere (by simp) isUsable isPlain isOpen leadsErased
      wasOpen,
    isWritten.imp_right ?_⟩
  rintro ⟨old, rfl, isRewritten⟩
  exact ⟨_, old, entryAt_eq_ok_iff.mpr isThere, isRewritten⟩

end

/-- What is told of itself to a process with a number. -/
def TellsProcess (processId : Nat) : (action : Action) → action.Reply → Prop
  | .environment, environment => environment.processId = processId
  | _, _ => True

/-- How a disk answers a process with a number. -/
def AnswersAs
    (workingDirectory : Location)
    (children : Children)
    (processId : Nat) :
    Stepping Disk :=
  fun action disk reply after =>
    Answers workingDirectory children action disk reply after ∧
      TellsProcess processId action reply

end Disk

/-! ## Runs -/

namespace Files

/-- What is tried again holds on to what each failure leaves. -/
theorem ensures_retrying
    {State : Type}
    {step : Stepping State}
    {always good holds : State → Prop}
    {plan : Plan (Except DiskFault Unit)}
    (ensures :
      ∀ state,
        holds state →
        Ensures step always
          (ending (fun _ last => good last) (fun _ last => holds last)) plan
          state)
    (retries : Nat)
    {state : State}
    (isHeld : holds state) :
    Ensures step always
      (ending (fun _ last => good last) (fun _ last => holds last))
      (retrying retries plan) state := by
  induction retries generalizing state with
  | zero => exact ensures state isHeld
  | succ retries inductionHypothesis =>
      refine .bind ((ensures state isHeld).mono (fun _ => id) ?_)
      intro outcome last isEnd
      cases outcome with
      | ok => exact isEnd
      | error fault => exact inductionHypothesis isEnd

section

variable {disk : Disk}
variable {workingDirectory : Location}
variable {children : Disk.Children}
variable {processId : Nat}
variable {path : Path}
variable {content : Bytes}

/-- A path finds the content, which may be read if a temporary file could be. -/
def FindsWritten
    (disk last : Disk)
    (workingDirectory : Location)
    (path temporary : Path)
    (content : Bytes) :
    Prop :=
  last.FindsContent workingDirectory path content ∧
    (disk.MayRead workingDirectory temporary →
      last.readFile workingDirectory path = .ok content)

section

variable {now : Disk}
variable {parent : Path}
variable {heres later : List Name}
variable {name other : Name}
variable (standsIn : path.StandsIn parent heres name later)
variable (notHere : name.isHere = false)
variable (notUp : name.isUp = false)
variable (isOther : other ≠ name)
variable (otherNotHere : other.isHere = false)
variable (otherNotUp : other.isUp = false)

include standsIn notHere notUp isOther otherNotHere otherNotUp

section

variable (prepares : disk.Prepares now workingDirectory parent)
variable
  (keepsApart : disk.KeepsApart workingDirectory path (parent.child other))

include prepares keepsApart

/-- A path finds what was written to a temporary file once that has taken its place. -/
theorem findsWritten_of_rename
    {written last : Disk}
    (opens :
      now.writeFile workingDirectory (parent.child other) content =
        .ok written)
    (renames :
      written.rename workingDirectory (parent.child other) path = .ok last) :
    FindsWritten disk last workingDirectory path (parent.child other)
      content := by
  have keepsApartNow :=
    prepares.keepsApart standsIn notHere notUp isOther otherNotHere otherNotUp
      keepsApart
  obtain ⟨goal, file, finds, isWritten⟩ :=
    keepsApartNow.findsContent_of_rename standsIn notHere notUp otherNotHere
      otherNotUp prepares.isTree opens renames
  have isContent : file.content = content := by
    rcases isWritten with rfl | ⟨_, _, -, rfl⟩ <;> rfl
  refine ⟨⟨goal, file, finds, isContent⟩, fun mayRead => ?_⟩
  have mayReadNow := prepares.mayRead otherNotHere otherNotUp mayRead
  have isReadable : (Entry.file file).allows .read = true := by
    rcases isWritten with rfl | ⟨place, old, wasThere, rfl⟩
    · simp [Entry.allows, Entry.mode, Access.bit]
    · rw [old.allows_read_rewritten]
      exact mayReadNow place old wasThere
  exact Disk.FindsFile.readFile
    ⟨file, Disk.entryAt_followed finds rfl, isReadable, isContent⟩

/-- A content is written beside a path and takes its place, once there are directories for it. -/
theorem ensures_replace
    (retries : Nat) :
    Ensures (Disk.AnswersAs workingDirectory children processId)
      (fun now =>
        disk.FindsSame now workingDirectory path ∨
          now.FindsContent workingDirectory path content)
      (ending
        (fun _ last =>
          FindsWritten disk last workingDirectory path (parent.child other)
            content)
        (fun _ last => disk.FindsSame last workingDirectory path))
      (do
        reporting (parent.child other)
          (Plan.ask (.writeFile (parent.child other) content))
        reporting path
          (retrying retries (Plan.ask (.rename (parent.child other) path))) :
        Storing Unit).run
      now := by
  have keepsApartNow :=
    prepares.keepsApart standsIn notHere notUp isOther otherNotHere otherNotUp
      keepsApart
  have isSame := prepares.findsSame standsIn notHere notUp
  have isSameWritten {part : Bytes} {written : Disk}
      (opens :
        now.writeFile workingDirectory (parent.child other) part =
          .ok written) :
      disk.FindsSame written workingDirectory path :=
    isSame.trans
      (Disk.findsSame_of_openFile keepsApartNow.isElsewhere
        keepsApartNow.notShared opens)
  refine .bindProcedure (.attempt (.ask fun reply written answered => ?_))
  cases answered.1 with
  | refused | unchanged => exact ⟨Or.inl isSame, isSame⟩
  | brokenOff _ partly =>
      obtain ⟨part, -, opens⟩ := partly
      exact ⟨Or.inl (isSameWritten opens), isSameWritten opens⟩
  | done opens =>
      refine ⟨Or.inl (isSameWritten opens), .attempt ?_⟩
      have tries (state : Disk) (isState : state = written) :
          Ensures (Disk.AnswersAs workingDirectory children processId)
            (fun now =>
              disk.FindsSame now workingDirectory path ∨
                now.FindsContent workingDirectory path content)
            (ending
              (fun _ last =>
                FindsWritten disk last workingDirectory path
                  (parent.child other) content)
              (fun _ last => last = written))
            (Plan.ask (.rename (parent.child other) path)) state := by
        subst isState
        refine .ask fun reply last renamed => ?_
        cases renamed.1 with
        | done renames =>
            have found :=
              findsWritten_of_rename standsIn notHere notUp isOther otherNotHere
                otherNotUp prepares keepsApart opens renames
            exact ⟨Or.inr found.1, found⟩
        | refused | unchanged => exact ⟨Or.inl (isSameWritten opens), rfl⟩
        | brokenOff _ partly => exact partly.elim
      refine (ensures_retrying tries retries rfl).mono (fun _ => id) ?_
      intro outcome last isEnd
      cases outcome with
      | ok => exact isEnd
      | error fault =>
          obtain rfl : last = written := isEnd
          exact isSameWritten opens

end

end

/--
A path finds the content where the writing of it succeeds.  It finds what it found before where it fails, and
one or the other all along.
-/
theorem ensures_writeRetrying
    (tree : disk.IsTree)
    (isNamed : path.fileName? ≠ none)
    (followsUps : disk.FollowsUps workingDirectory path)
    (keepsApart :
      disk.KeepsApart workingDirectory path
        (path.withFileName (.text (temporaryName path processId))))
    (retries : Nat) :
    Ensures (Disk.AnswersAs workingDirectory children processId)
      (fun now =>
        disk.FindsSame now workingDirectory path ∨
          now.FindsContent workingDirectory path content)
      (ending
        (fun _ last =>
          FindsWritten disk last workingDirectory path
            (path.withFileName (.text (temporaryName path processId))) content)
        (fun _ last => disk.FindsSame last workingDirectory path))
      (writeRetrying retries path content).run disk := by
  obtain ⟨name, isName⟩ := Option.ne_none_iff_exists'.mp isNamed
  obtain ⟨parent, heres, later, isParent, standsIn, notHere, notUp⟩ :=
    Path.exists_of_fileName? isName
  have isTemporary (other : Name) :
      path.withFileName other = parent.child other := by
    rw [Path.withFileName, isName, isParent]
  obtain ⟨isOther, otherNotHere, otherNotUp⟩ :=
    temporaryName_differs isName processId
  rw [isTemporary] at keepsApart ⊢
  refine .bindProcedure ((keeps_makeParents_prepares (fun _ _ _ _ => And.left)
    followsUps isParent (standsIn.names.trans (List.append_assoc _ _ _))
    standsIn.start disk (.refl tree _ parent)).mono ?_ ?_)
  · exact fun now prepares =>
      Or.inl (prepares.findsSame standsIn notHere notUp)
  intro outcome now prepares
  have isSame := prepares.findsSame standsIn notHere notUp
  cases outcome with
  | error fault => exact isSame
  | ok =>
      refine .bindLift (.ask fun environment after looked => ?_)
      obtain ⟨rfl, isProcess⟩ := looked
      obtain rfl : environment.processId = processId := isProcess
      rw [isTemporary]
      refine ⟨Or.inl isSame, ?_⟩
      exact ensures_replace standsIn notHere notUp isOther otherNotHere
        otherNotUp prepares keepsApart retries

end

/--
Whatever becomes of the process and of its calls, a path finds the file that it found before, or one with the new
content.  It finds the new content if the writing of it succeeds, which is read back as the text that was
written, and what it found before if the writing fails.
-/
theorem replaces_at_once
    {disk last : Disk}
    {workingDirectory : Location}
    {children : Disk.Children}
    {processId retries : Nat}
    {path : Path}
    {content : Bytes}
    {outcome? : Option (Except StorageFault Unit)}
    (tree : disk.IsTree)
    (isNamed : path.fileName? ≠ none)
    (followsUps : disk.FollowsUps workingDirectory path)
    (keepsApart :
      disk.KeepsApart workingDirectory path
        (path.withFileName (.text (temporaryName path processId))))
    (runs :
      Runs (Disk.AnswersAs workingDirectory children processId)
        (writeRetrying retries path content).run disk last outcome?) :
    (disk.FindsSame last workingDirectory path ∨
        last.FindsContent workingDirectory path content) ∧
      (outcome? = some (.ok ()) →
        last.FindsContent workingDirectory path content) ∧
        (∀ fault,
          outcome? = some (.error fault) →
          disk.FindsSame last workingDirectory path) ∧
          ∀ text (host : Host),
            outcome? = some (.ok ()) →
            content = Text.Utf8.ofString text →
            disk.MayRead workingDirectory
              (path.withFileName (.text (temporaryName path processId))) →
            host.disk = last →
            host.workingDirectory = workingDirectory →
            (readText? path).run.run Host.perform host =
              (.ok (some text), host) := by
  obtain ⟨isOneOf, isEnd⟩ :=
    (ensures_writeRetrying tree isNamed followsUps keepsApart retries).of_runs
      runs (Or.inl (.refl _ _ _))
  have isWritten (isDone : outcome? = some (.ok ())) :
      FindsWritten disk last workingDirectory path
        (path.withFileName (.text (temporaryName path processId))) content :=
    isEnd _ isDone
  refine ⟨isOneOf, fun isDone => (isWritten isDone).1,
    fun fault isFault => isEnd _ isFault, ?_⟩
  rintro text host isDone rfl mayRead rfl rfl
  exact ends_answersOf_iff.mp
    (ends_readText? ((isWritten isDone).2 mayRead))

/-- Surroundings in which the writing of a file breaks off after the first byte. -/
def breakingOff : Surroundings Host
  | .writeFile path content, host =>
      (.error (.refused .noSpace),
        (Host.perform (.writeFile path (content.take 1)) host).2)
  | action, host => Host.perform action host

/-- A host answers as the disk of a process with its number. -/
theorem answersAs_perform
    (action : Action)
    (host : Host) :
    Disk.AnswersAs host.workingDirectory (fun _ _ _ _ => True) host.processId
      action host.disk (Host.perform action host).1
      (Host.perform action host).2.disk := by
  refine ⟨host.answers action fun _ _ => trivial, ?_⟩
  cases action with
  | environment => exact Eq.refl host.processId
  | _ => trivial

/-- A run on a host, whether what is written breaks off or not, is one of a process with a number. -/
theorem runs_ofDisk
    {α : Type}
    {surroundings : Surroundings Host}
    (isHost : surroundings = Host.perform ∨ surroundings = breakingOff)
    (plan : Plan α)
    (disk : Disk) :
    Runs (Disk.AnswersAs [] (fun _ _ _ _ => True) 1000) plan disk
      (plan.run surroundings (Host.ofDisk disk)).2.disk
      (some (plan.run surroundings (Host.ofDisk disk)).1) := by
  refine runs_of_surroundings Host.disk
    (fun now => now.workingDirectory = [] ∧ now.processId = 1000) ?_ plan
    (Host.ofDisk disk) ⟨rfl, rfl⟩
  rintro action now ⟨isHere, isProcess⟩
  have performs := answersAs_perform action now
  have stays := Host.perform_stays action now
  rw [isHere, isProcess] at performs stays
  rcases isHost with rfl | rfl
  · exact ⟨performs, stays⟩
  cases action with
  | writeFile path content =>
      have stays := Host.perform_stays (.writeFile path (content.take 1)) now
      rw [isHere, isProcess] at stays
      refine ⟨⟨?_, trivial⟩, stays⟩
      change Disk.Does _ _ _ _ _ (now.change _).2.disk
      rw [isHere]
      cases opens : now.disk.writeFile [] path (content.take 1) with
      | ok written =>
          exact .brokenOff rfl ⟨_, List.take_prefix 1 content, opens⟩
      | error fault => exact .unchanged rfl
  | _ => exact ⟨performs, stays⟩

/-- A disk with a directory `/d` and some things in it. -/
def shelf (things : List (String × Entry)) : Disk :=
  ⟨([], .directory 0o755) :: ([.text "d"], .directory 0o755) ::
    things.map fun (name, entry) => ([.text "d", .text name], entry)⟩

/-- A file with one letter. -/
def letter (mode : Nat) (group : Option Nat) : Entry :=
  .file { mode, content := [0x6f], group }

/-- A disk with a file. -/
def notedDisk : Disk :=
  shelf [("x", letter 0o644 none)]

/-- The disk once another letter has been written to the file. -/
def renotedDisk : Disk :=
  ((writeRetrying 2 "/d/x" [0x6e]).run.run Host.perform
    (Host.ofDisk notedDisk)).2.disk

/-- A letter takes the place of another one and is read back. -/
theorem note_is_replaced :
    ((writeRetrying 2 "/d/x" [0x6e]).run.run Host.perform
          (Host.ofDisk notedDisk)).1 =
        .ok () ∧
      renotedDisk.FindsContent [] "/d/x" [0x6e] ∧
        (readText? "/d/x").run.run Host.perform (Host.ofDisk renotedDisk) =
          (.ok (some "n"), Host.ofDisk renotedDisk) := by
  have isWritten :
      ((writeRetrying 2 "/d/x" [0x6e]).run.run Host.perform
          (Host.ofDisk notedDisk)).1 =
        .ok () := by
    decide +kernel
  have finds :
      notedDisk.entryAt [] true "/d/x" =
        .ok ([.text "d", .text "x"], letter 0o644 none) := by
    decide +kernel
  have lacksTemporary (followLast : Bool) :
      notedDisk.entryAt [] followLast
          (Path.withFileName "/d/x" (.text (temporaryName "/d/x" 1000))) =
        .error (.refused .noEntry) := by
    cases followLast <;> decide +kernel
  have keepsApart :
      notedDisk.KeepsApart [] "/d/x"
        (Path.withFileName "/d/x" (.text (temporaryName "/d/x" 1000))) := by
    refine ⟨?_, ?_, ?_, ?_⟩
    · intro location target isLink
      have isFile :
          notedDisk.entryAt [] false "/d/x" =
            .ok ([.text "d", .text "x"], letter 0o644 none) := by
        decide +kernel
      simp [isFile, letter] at isLink
    · intro location target isLink
      simp [lacksTemporary] at isLink
    · intro place found? other? locates isSame
      have isPlace :
          notedDisk.locate [] true "/d/x" =
            .ok ⟨[.text "d", .text "x"], some (letter 0o644 none)⟩ := by
        decide +kernel
      have isOther :
          notedDisk.locate [] true
              (Path.withFileName "/d/x" (.text (temporaryName "/d/x" 1000))) =
            .ok ⟨[.text "d", .text ".x.1000.tmp"], none⟩ := by
        decide +kernel
      rw [isPlace] at locates
      rw [isOther] at isSame
      obtain ⟨rfl, -⟩ := Disk.Found.mk.inj (Except.ok.inj locates)
      simp at isSame
    · intro place file otherPlace other _ isFile
      simp [lacksTemporary] at isFile
  obtain ⟨-, isThere, -, isRead⟩ :=
    replaces_at_once (Disk.isTree_of_entries (by decide +kernel))
      (by decide +kernel) (Or.inl (by decide +kernel)) keepsApart
      (runs_ofDisk (Or.inl rfl) (writeRetrying 2 "/d/x" [0x6e]).run notedDisk)
  refine ⟨isWritten, isThere (congrArg some isWritten), ?_⟩
  refine isRead "n" (Host.ofDisk renotedDisk) (congrArg some isWritten)
    (by decide +kernel) ?_ rfl rfl
  intro place file isFile
  simp [lacksTemporary] at isFile

/-- A disk with a directory that holds a link to itself. -/
def loopedDisk : Disk :=
  shelf [("x", .link ".")]

/-- A disk with a file, and a directory in the place of its temporary file. -/
def blockedDisk : Disk :=
  shelf [("x", letter 0o644 none), (".x.1000.tmp", .directory 0o755)]

/-- A disk with a temporary file that cannot be read. -/
def concealedDisk : Disk :=
  shelf [(".x.1000.tmp", letter 0o200 none)]

/-- A disk with a temporary file that is another name of a file. -/
def sharedDisk : Disk :=
  shelf [("x", letter 0o644 (some 0)), (".x.1000.tmp", letter 0o644 (some 0))]

/-- A disk with a link to where the temporary file will be. -/
def pointedDisk : Disk :=
  shelf [("x", .link ".x.1000.tmp")]

/-- The writing of two letters may end in some way, and a path may then be read in some way. -/
def MayLeave
    (disk : Disk)
    (path : Path)
    (outcome : Except StorageFault Unit)
    (reads : Except DiskFault Bytes) :
    Prop :=
  ∃ last,
    Runs (Disk.AnswersAs [] (fun _ _ _ _ => True) 1000)
        (writeRetrying 0 path [0x6e, 0x6e]).run disk last (some outcome) ∧
      last.readFile [] path = reads

theorem mayLeave_of_run
    {surroundings : Surroundings Host}
    {disk : Disk}
    {path : Path}
    {outcome : Except StorageFault Unit}
    {reads : Except DiskFault Bytes}
    (isHost : surroundings = Host.perform ∨ surroundings = breakingOff)
    (isOutcome :
      ((writeRetrying 0 path [0x6e, 0x6e]).run.run surroundings
          (Host.ofDisk disk)).1 =
        outcome)
    (isRead :
      ((writeRetrying 0 path [0x6e, 0x6e]).run.run surroundings
            (Host.ofDisk disk)).2.disk.readFile [] path =
        reads) :
    MayLeave disk path outcome reads :=
  ⟨_, isOutcome ▸ runs_ofDisk isHost _ disk, isRead⟩

/-- What is written through a link to its own directory takes the place of the link, and the path leads nowhere. -/
theorem loopedDisk_mayLeave :
    MayLeave loopedDisk "/d/x/x" (.ok ()) (.error (.refused .notDirectory)) :=
  mayLeave_of_run (Or.inl rfl) (by decide +kernel) (by decide +kernel)

/-- A directory to go up from is made before the temporary file fails, and then there is a file at the path. -/
theorem blockedDisk_mayLeave :
    MayLeave blockedDisk "/d/new/../x"
      (.error (.file "/d/new/../.x.1000.tmp" (.refused .isDirectory)))
      (.ok [0x6f]) :=
  mayLeave_of_run (Or.inl rfl) (by decide +kernel) (by decide +kernel)

/-- A file is as hard to read as the temporary file was before. -/
theorem concealedDisk_mayLeave :
    MayLeave concealedDisk "/d/x" (.ok ()) (.error (.refused .permission)) :=
  mayLeave_of_run (Or.inl rfl) (by decide +kernel) (by decide +kernel)

/-- Half of what is written is in a file that the temporary file is another name of. -/
theorem sharedDisk_mayLeave :
    MayLeave sharedDisk "/d/x"
      (.error (.file "/d/.x.1000.tmp" (.refused .noSpace))) (.ok [0x6e]) :=
  mayLeave_of_run (Or.inr rfl) (by decide +kernel) (by decide +kernel)

/-- Half of what is written is in the file that a link leads to. -/
theorem pointedDisk_mayLeave :
    MayLeave pointedDisk "/d/x"
      (.error (.file "/d/.x.1000.tmp" (.refused .noSpace))) (.ok [0x6e]) :=
  mayLeave_of_run (Or.inr rfl) (by decide +kernel) (by decide +kernel)

/-- The disks on which a path and its temporary file have to do with each other, and the paths. -/
def tangles : List (Disk × Path) :=
  [(loopedDisk, "/d/x/x"), (blockedDisk, "/d/new/../x"),
    (concealedDisk, "/d/x"), (sharedDisk, "/d/x"), (pointedDisk, "/d/x")]

/--
Though no temporary file is a link, a path may not find what has been written, or find what it did not find
before, or half of what is written.
-/
theorem tangled_paths_are_torn :
    (∀ item ∈ tangles,
        item.2.fileName?.isSome = true ∧
          (item.1.status [] false
                (item.2.withFileName
                  (.text (temporaryName item.2 1000)))).toOption.all
              (fun status => status.kind ≠ .link) =
            true) ∧
      MayLeave loopedDisk "/d/x/x" (.ok ())
          (.error (.refused .notDirectory)) ∧
        (blockedDisk.readFile [] "/d/new/../x" =
              .error (.refused .noEntry) ∧
            MayLeave blockedDisk "/d/new/../x"
              (.error (.file "/d/new/../.x.1000.tmp" (.refused .isDirectory)))
              (.ok [0x6f])) ∧
          MayLeave concealedDisk "/d/x" (.ok ())
              (.error (.refused .permission)) ∧
            (sharedDisk.readFile [] "/d/x" = .ok [0x6f] ∧
                MayLeave sharedDisk "/d/x"
                  (.error (.file "/d/.x.1000.tmp" (.refused .noSpace)))
                  (.ok [0x6e])) ∧
              pointedDisk.readFile [] "/d/x" = .error (.refused .noEntry) ∧
                MayLeave pointedDisk "/d/x"
                  (.error (.file "/d/.x.1000.tmp" (.refused .noSpace)))
                  (.ok [0x6e]) :=
  ⟨by decide +kernel, loopedDisk_mayLeave,
    ⟨by decide +kernel, blockedDisk_mayLeave⟩, concealedDisk_mayLeave,
    ⟨by decide +kernel, sharedDisk_mayLeave⟩, by decide +kernel,
    pointedDisk_mayLeave⟩

end Files

end Provision
