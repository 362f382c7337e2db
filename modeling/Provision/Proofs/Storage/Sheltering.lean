import Provision.Proofs.Archive.Confining
import Provision.Proofs.Storage.Overwriting

namespace Provision

/-!
# Places that are filled

A directory that is new and empty is filled with marks and copies, whose paths go on from that of the directory
and never go up.  Then child processes that work in it write what they like, and at last a text is written
beside.  Whatever fails on the way, nothing changes but what is below the directory.
-/

open Plan

/-- A path that goes on from that of a directory by names that never go up. -/
structure Path.GoesOn (directory path : Path) (names : List Name) : Prop where
  isWay : path.way = directory.way ++ names
  isStart : ∀ here, path.start here = directory.start here
  noUps : ∀ name ∈ names, name.isUp = false

theorem Path.GoesOn.child
    {directory path : Path}
    {names : List Name}
    {name : Name}
    (goesOn : directory.GoesOn path names)
    (isNamed : name ≠ .text "")
    (notUp : name.isUp = false) :
    directory.GoesOn (path.child name) (names ++ [name]) where
  isWay := by
    rw [way_child path isNamed, goesOn.isWay, List.append_assoc]
  isStart := fun here => (start_child path name here).trans (goesOn.isStart here)
  noUps :=
    List.forall_mem_append.mpr
      ⟨goesOn.noUps, List.forall_mem_singleton.mpr notUp⟩

/-- Whether an action looks, makes a directory, or opens a file to write to it. -/
def Action.fills : Action → Bool
  | .makeDirectory _ | .appendFile .. | .copyFile .. => true
  | action => action.looks

namespace Disk

variable {made disk later after last : Disk}
variable {workingDirectory place goal : Location}
variable {children : Children}
variable {directory path target : Path}
variable {name : Name}

theorem Stays.trans
    (stays : disk.Stays later)
    (again : later.Stays last) :
    disk.Stays last :=
  fun location entry stands notFile =>
    again location entry (stays location entry stands notFile) notFile

/-! ## Filling with copies -/

/-- A tree in which a place is being filled: changes stay in the place, and only files change. -/
structure FillsIn (made later : Disk) (place : Location) : Prop where
  isTree : later.IsTree
  listsOnce : later.ListsOnce
  confined : made.Confined later place
  stays : made.Stays later

theorem Answers.stays_of_fills
    {action : Action}
    {reply : action.Reply}
    (answers :
      Answers workingDirectory children action later reply after)
    (fills : action.fills = true)
    (tree : later.IsTree)
    (once : later.ListsOnce) :
    after.IsTree ∧ after.ListsOnce ∧ later.Stays after := by
  let Reaches (last : Disk) : Prop :=
    last.IsTree ∧ last.ListsOnce ∧ later.Stays last
  have isSame : Reaches later := ⟨tree, once, fun _ _ stands _ => stands⟩
  have ofOpened
      {path : Path}
      {fresh : File}
      {change : File → File} :
      later.openFile workingDirectory path fresh change = .ok after →
      Reaches after := by
    intro opens
    exact ⟨tree.openFile opens, once.openFile opens, stays_openFile opens⟩
  change Reaches after
  cases action with
  | status | linkStatus | readFile | listDirectory | realPath | environment =>
      rw [answers.eq_of_looks rfl]
      exact isSame
  | makeDirectory path =>
      refine Does.reaches answers isSame ?_ isSame False.elim
      intro makes
      obtain ⟨isTree, -, left, there, locates, -⟩ :=
        fresh_of_makeDirectory tree rfl makes
      obtain ⟨location, missing, rfl⟩ := makeDirectory_eq_ok makes
      refine ⟨isTree, once.set _ _, ?_⟩
      intro other entry stands _
      exact within_set (get?_of_locate missing) other entry stands
  | appendFile path content =>
      refine Does.reaches answers isSame ?_ isSame ?_
      · exact fun opens => ofOpened opens
      · rintro ⟨part, -, opens⟩
        exact ofOpened opens
  | copyFile original path =>
      refine Does.reaches answers isSame ?_ isSame ?_
      · intro copies
        exact ⟨tree.copyFile copies, once.copyFile copies,
          stays_copyFile copies⟩
      · rintro ⟨mode, content, opens⟩
        exact ofOpened opens
  | _ => simp [Action.fills, Action.looks] at fills

theorem FillsIn.answers
    {action : Action}
    {reply : action.Reply}
    (fillsIn : made.FillsIn later place)
    (answers :
      Answers workingDirectory children action later reply after)
    (fills : action.fills = true)
    (staysIn : action.StaysIn made workingDirectory place) :
    made.FillsIn after place := by
  obtain ⟨isTree, once, stays⟩ :=
    answers.stays_of_fills fills fillsIn.isTree fillsIn.listsOnce
  exact ⟨isTree, once, answers.confined staysIn fillsIn.confined,
    fillsIn.stays.trans stays⟩

/-! ## Changes below a place -/

/-- Nothing changes but what is below a place. -/
def ChangesBelow (disk later : Disk) (place : Location) : Prop :=
  ∀ location,
    later.get? location = disk.get? location ∨
      place <+: location ∧ location ≠ place

theorem ChangesBelow.refl (disk : Disk) (place : Location) :
    disk.ChangesBelow disk place :=
  fun _ => Or.inl rfl

theorem ChangesBelow.trans
    (changes : disk.ChangesBelow later place)
    (again : later.ChangesBelow last place) :
    disk.ChangesBelow last place := by
  intro location
  rcases again location with isSame | isBelow
  · rw [isSame]
    exact changes location
  · exact Or.inr isBelow

/-- What changes below a place below another one changes below that one. -/
theorem ChangesBelow.of_prefix
    (changes : disk.ChangesBelow later goal)
    (isPrefix : place <+: goal) :
    disk.ChangesBelow later place := by
  intro location
  rcases changes location with isSame | ⟨isBelow, isOther⟩
  · exact Or.inl isSame
  · refine Or.inr ⟨isPrefix.trans isBelow, ?_⟩
    rintro rfl
    exact isOther (isPrefix.eq_of_length_le isBelow.length_le)

/-- What is not below a place does not change there. -/
theorem ChangesBelow.get?_of_length_le
    {location : Location}
    (changes : disk.ChangesBelow later place)
    (isShort : location.length ≤ place.length) :
    later.get? location = disk.get? location := by
  refine (changes location).resolve_right ?_
  rintro ⟨isBelow, isOther⟩
  exact isOther (isBelow.eq_of_length_le isShort).symm

theorem changesBelow_of_fillsIn
    (fillsIn : made.FillsIn later place)
    (isDirectory : made.HasDirectory place) :
    made.ChangesBelow later place := by
  intro location
  by_cases isBelow : place <+: location
  · by_cases isPlace : location = place
    · obtain ⟨mode, stands⟩ := isDirectory
      left
      rw [isPlace, stands]
      exact fillsIn.stays place _ stands rfl
    · exact Or.inr ⟨isBelow, isPlace⟩
  · exact Or.inl (fillsIn.confined.elsewhere location isBelow)

/-- What stood when there was nothing below a place still stands. -/
theorem ChangesBelow.within
    (changes : made.ChangesBelow later place)
    (isFresh : made.IsFresh place) :
    made.Within later := by
  intro location entry stands
  rcases changes location with isSame | ⟨⟨below, rfl⟩, isOther⟩
  · exact isSame.trans stands
  · have notNil : below ≠ [] := by
      rintro rfl
      simp at isOther
    rw [isFresh.2 below notNil] at stands
    simp at stands

section

variable {left : Nat}
variable (leads : later.LeadsTo workingDirectory directory left place)
variable (notHere : name.isHere = false)
variable (notUp : name.isUp = false)

include leads notHere notUp

theorem changesBelow_of_removeFile
    (removes :
      later.removeFile workingDirectory (directory.child name) = .ok after) :
    later.ChangesBelow after place := by
  obtain ⟨location, entry, finds, -, rfl⟩ := removeFile_eq_ok removes
  obtain ⟨rfl, -⟩ := get?_of_entryAt_child notHere notUp leads finds
  intro other
  by_cases isName : other = place ++ [name]
  · exact Or.inr (by simp [isName])
  · exact Or.inl (get?_erase_of_ne later isName)

/-- A file that is opened by a name of its own changes below its directory, together with its other names. -/
theorem changesBelow_of_openFile
    {fresh : File}
    {change : File → File}
    (isDirectory : later.HasDirectory place)
    (isOwn : later.IsOwn place (place ++ [name]))
    (opens :
      later.openFile workingDirectory (directory.child name) fresh change =
        .ok after) :
    later.ChangesBelow after place := by
  have isNamed : name ≠ .text "" := by
    rintro rfl
    simp [Name.isHere] at notHere
  have isPlace {found : Found} :
      later.locate workingDirectory true (directory.child name) =
          .ok found →
      found.location = place ++ [name] := by
    intro locates
    obtain ⟨_, there, leadsAgain, walks⟩ :=
      leadsTo_of_locate_child isNamed locates
    obtain rfl := (leads.unique leadsAgain).2
    have isPlain := walks.isPlain notHere notUp
    obtain ⟨-, ⟨rfl, -⟩ | ⟨-, _, target, -, isLink, -⟩⟩ :=
      walks.cases_of_isPlain isPlain
    · rfl
    · exact absurd isLink (isOwn.noLink target)
  rcases openFile_eq_ok opens with
    ⟨location, locates, rfl⟩ | ⟨location, file, locates, rfl⟩
  · obtain rfl : location = place ++ [name] := isPlace locates
    intro other
    by_cases isName : other = place ++ [name]
    · exact Or.inr (by simp [isName])
    · exact Or.inl (get?_set_of_ne later _ isName)
  · obtain rfl : location = place ++ [name] := isPlace locates
    intro other
    by_cases isBelow : place <+: other
    · by_cases isSame : other = place
      · -- The place is a directory, which is changed together with no file.
        obtain ⟨mode, stands⟩ := isDirectory
        left
        rw [isSame, stands]
        exact stays_updateFile later _ change place _ stands rfl
      · exact Or.inr ⟨isBelow, isSame⟩
    · exact Or.inl
        (isOwn.get?_updateFile (List.prefix_append place [name]) isBelow)

/-- A file that is renamed in a directory changes below the directory. -/
theorem changesBelow_of_rename
    {left' : Nat}
    {parent : Path}
    {other : Name}
    (ledTo : later.LeadsTo workingDirectory parent left' place)
    (otherNotHere : other.isHere = false)
    (otherNotUp : other.isUp = false)
    (renames :
      later.rename workingDirectory (parent.child other)
          (directory.child name) =
        .ok after) :
    later.ChangesBelow after place := by
  obtain ⟨origin, entry, goal, existing?, finds, locates, isDone⟩ :=
    rename_eq_ok renames
  obtain ⟨rfl, -⟩ := get?_of_entryAt_child otherNotHere otherNotUp ledTo finds
  obtain ⟨_, there, leadsAgain, -, isFound⟩ :=
    exists_of_locate_child notHere notUp locates
  obtain rfl : place = there := (leads.unique leadsAgain).2.symm
  obtain ⟨rfl, -⟩ := Found.mk.inj isFound
  rcases isDone with ⟨rfl, -⟩ | ⟨-, rfl⟩
  · exact .refl _ _
  have isBelow {first location : Location} (notNil : first ≠ []) :
      (place ++ first).isPrefixOf location = true →
      place <+: location ∧ location ≠ place := by
    intro isPrefix
    obtain ⟨rest, rfl⟩ := List.isPrefixOf_iff_prefix.mp isPrefix
    simp [notNil]
  intro location
  rw [get?_moveTree]
  split
  · rename_i isPrefix
    exact Or.inr (isBelow (List.cons_ne_nil _ _) isPrefix)
  · split
    · rename_i isPrefix
      exact Or.inr (isBelow (List.cons_ne_nil _ _) isPrefix)
    · exact Or.inl rfl

end

end Disk

namespace Files

variable {workingDirectory place : Location}
variable {children : Disk.Children}
variable {made later : Disk}
variable {directory source target : Path}
variable {names : List Name}

theorem keeps_ask
    {action : Action}
    (fills : action.fills = true)
    (staysIn : action.StaysIn made workingDirectory place) :
    Keeps (Disk.Answers workingDirectory children)
      (fun later => made.FillsIn later place) (Plan.ask action) :=
  .ask fun _ _ _ answered fillsIn => fillsIn.answers answered fills staysIn

section

variable (enters : made.Enters workingDirectory directory place)

include enters

/-- A directory whose path goes on from that of an enclosed one is made there. -/
theorem keeps_makeDirectories
    (goesOn : directory.GoesOn target names) :
    Keeps (Disk.Answers workingDirectory children)
      (fun later => made.FillsIn later place) (makeDirectories target) := by
  let allowed (action : Action) : Bool :=
    action.fills && Archive.staysIn made workingDirectory place action
  have isAllowed (action : Action) (fills : action.fills = true)
      (staysIn : action.StaysIn made workingDirectory place) :
      allowed action = true := by
    simp [allowed, fills, Archive.staysIn_iff.mpr staysIn]
  have makes (steps : Nat) (above : Path) :
      above ∈ lineage steps target →
      allowed (.makeDirectory above) = true := by
    intro member
    apply isAllowed _ rfl
    have isPrefix : directory.way ++ names <+: directory.way ++ names :=
      List.prefix_rfl
    rcases target.names_eq_way with isNames | isNames
    · rw [goesOn.isWay, ← List.append_nil (directory.way ++ names)] at isNames
      exact enters.missesIn_of_mem_lineage goesOn.noUps member isPrefix
        (by simp) isNames (goesOn.isStart _)
    · rw [goesOn.isWay] at isNames
      exact enters.missesIn_of_mem_lineage goesOn.noUps member isPrefix
        (by simp [Name.isHere]) isNames (goesOn.isStart _)
  have asksOnly : (makeDirectories target).AsksOnly allowed :=
    makeDirectories_asksOnly (fun path => isAllowed (.status path) rfl rfl)
      makes
  refine asksOnly.keeps fun action state reply after isAsked answered => ?_
  intro fillsIn
  obtain ⟨fills, staysIn⟩ := (Bool.and_eq_true _ _).mp isAsked
  exact fillsIn.answers answered fills (Archive.staysIn_iff.mp staysIn)

/-- What is written to an entry of a directory in an enclosed place is written there. -/
theorem staysIn_child
    {name : Name}
    (goesOn : directory.GoesOn target names)
    (isNamed : name ≠ .text "")
    (notUp : name.isUp = false) :
    made.StaysIn workingDirectory place (target.child name) := by
  have goesToChild := goesOn.child isNamed notUp
  have isNames :
      (target.child name).names = directory.way ++ (names ++ [name]) := by
    rw [Path.names_child, ← Path.way_child target isNamed, goesToChild.isWay]
  exact enters.staysIn isNames (goesToChild.isStart _) (by simp)
    goesToChild.noUps

theorem keeps_copyEntries
    {copyBelow : Path → Path → Storing Unit}
    {items : List (Name × Disk.Kind)}
    (goesOn : directory.GoesOn target names)
    (arePlain : ∀ item ∈ items, item.1.isPlain = true)
    (keepsBelow :
      ∀ name,
        name.isPlain = true →
        Keeps (Disk.Answers workingDirectory children)
          (fun later => made.FillsIn later place)
          (copyBelow (source.child name) (target.child name)).run) :
    Keeps (Disk.Answers workingDirectory children)
      (fun later => made.FillsIn later place)
      (copyEntries copyBelow source target items).run := by
  induction items with
  | nil => exact .pure _
  | cons item rest inductionHypothesis =>
      obtain ⟨name, kind⟩ := item
      have isPlain := arePlain (name, kind) (.head _)
      have copiesRest :=
        inductionHypothesis fun other member => arePlain other (.tail _ member)
      rw [copyEntries]
      dsimp only
      split
      · exact (keepsBelow name isPlain).bindProcedure fun _ => copiesRest
      · obtain ⟨isNamed, -, -, -, notUp, -⟩ :=
          Disk.not_special_of_isPlain isPlain
        have staysIn := staysIn_child enters goesOn isNamed notUp
        have copies :
            Keeps (Disk.Answers workingDirectory children)
              (fun later => made.FillsIn later place)
              (Plan.ask
                (.copyFile (source.child name) (target.child name))) :=
          keeps_ask rfl staysIn
        exact (copies.attempt _).bindProcedure fun _ => copiesRest

/-- A directory is copied into an enclosed place, as far as the copy gets. -/
theorem keeps_copyTreeWithin
    (depth : Nat)
    (goesOn : directory.GoesOn target names) :
    Keeps (Disk.Answers workingDirectory children)
      (fun later => made.FillsIn later place)
      (copyTreeWithin depth source target).run := by
  induction depth generalizing source target names with
  | zero => exact .pure _
  | succ depth inductionHypothesis =>
      rw [copyTreeWithin]
      apply Keeps.bindProcedure
      · exact (keeps_makeDirectories enters goesOn).attempt _
      intro _ later fillsIn
      rw [ExceptT.run_bind]
      refine .bind (.bind (.ask fun reply after answered => ?_))
      obtain ⟨tells, rfl⟩ := answered
      refine ⟨fillsIn, ?_⟩
      cases reply with
      | error fault => exact fillsIn
      | ok items =>
          -- What is listed on a tree has plain names, which never go up.
          obtain ⟨there, _, -, -, areListed⟩ :=
            fillsIn.listsOnce.listDirectory tells.eq_ok
          have arePlain : ∀ item ∈ items, item.1.isPlain = true := by
            rintro ⟨name, kind⟩ member
            obtain ⟨entry, stands, -⟩ := (areListed name kind).mp member
            exact (fillsIn.isTree _ entry stands).2 name (by simp)
          refine keeps_copyEntries enters goesOn arePlain ?_ _ fillsIn
          intro name isPlain
          obtain ⟨isNamed, -, -, -, notUp, -⟩ :=
            Disk.not_special_of_isPlain isPlain
          exact inductionHypothesis (goesOn.child isNamed notUp)

theorem upholds_copyTree
    {always : Disk → Prop}
    (goesOn : directory.GoesOn target names)
    (fillsIn : made.FillsIn later place)
    (isAlways : ∀ later, made.FillsIn later place → always later) :
    Upholds (Disk.Answers workingDirectory children) always
      (fun _ last => made.FillsIn last place)
      (copyTree source target) later :=
  (keeps_copyTreeWithin enters _ goesOn).upholds fillsIn isAlways

/-- A mark is left in an enclosed place. -/
theorem keeps_createMarker
    {left : Nat}
    {name : Name}
    (leads : made.LeadsTo workingDirectory directory left place)
    (isDirectory : made.HasDirectory place)
    (isPlain : name.isPlain = true) :
    Keeps (Disk.Answers workingDirectory children)
      (fun later => made.FillsIn later place)
      (createMarker (directory.child name)).run := by
  obtain ⟨isNamed, -, -, notHere, notUp, -⟩ :=
    Disk.not_special_of_isPlain isPlain
  have goesOn : directory.GoesOn directory [] := ⟨by simp, fun _ => rfl, by simp⟩
  have staysIn := staysIn_child enters goesOn isNamed notUp
  have marks :
      Keeps (Disk.Answers workingDirectory children)
        (fun later => made.FillsIn later place)
        (Plan.ask (.appendFile (directory.child name) [])) :=
    keeps_ask rfl staysIn
  apply Keeps.bindProcedure
  · intro later fillsIn
    have leadsNow := leads.of_stays isDirectory fillsIn.stays
    have isThere := fillsIn.confined.directories place isDirectory
    refine (ensures_makeParents_of_leads (fun _ _ _ _ => id) notHere leadsNow
      isThere).mono ?_ ?_
    · rintro _ rfl
      exact fillsIn
    · rintro _ _ rfl
      exact fillsIn
  · exact fun _ => marks.attempt _

end

/-! ## Files beside copies -/

section

variable {left : Nat}
variable {name : Name}
variable (isFresh : made.IsFresh place)
variable (leads : made.LeadsTo workingDirectory directory left place)
variable (isPlain : name.isPlain = true)

include isFresh leads isPlain

theorem keeps_removeFile :
    Keeps (Disk.Answers workingDirectory children)
      (fun later => made.ChangesBelow later place)
      (removeFile (directory.child name)).run := by
  obtain ⟨-, -, -, notHere, notUp, -⟩ := Disk.not_special_of_isPlain isPlain
  apply Keeps.attempt
  apply Keeps.bind
  · apply Keeps.ask
    intro later reply after answered changes
    rcases answered.removeFile_cases with rfl | ⟨-, removes⟩
    · exact changes
    · have leadsNow := leads.mono (changes.within isFresh)
      exact changes.trans
        (Disk.changesBelow_of_removeFile leadsNow notHere notUp removes)
  · intro reply
    split
    · exact .pure _
    · split <;> exact .pure _

/-- A file is written under another name in a directory first, and then it gets its own name. -/
theorem ensures_writeBeside
    {left' : Nat}
    {parent : Path}
    {other : Name}
    {content : Bytes}
    (ledTo : made.LeadsTo workingDirectory parent left' place)
    (otherNotHere : other.isHere = false)
    (otherNotUp : other.isUp = false)
    (changes : made.ChangesBelow later place)
    (isOwn : later.IsOwn place (place ++ [other])) :
    Ensures (Disk.Answers workingDirectory children)
      (fun last => made.ChangesBelow last place)
      (fun _ last => made.ChangesBelow last place)
      (do
        reporting (parent.child other)
          (Plan.ask (.writeFile (parent.child other) content))
        reporting (directory.child name)
          (Plan.ask (.rename (parent.child other) (directory.child name))) :
        Storing Unit).run
      later := by
  obtain ⟨-, -, -, notHere, notUp, -⟩ := Disk.not_special_of_isPlain isPlain
  let Reaches (last : Disk) : Prop := made.ChangesBelow last place
  rw [ExceptT.run_bind]
  refine .bind (.bind (.ask fun reply written answered => ?_))
  have isWritten : Reaches written := by
    have within := changes.within isFresh
    have isDirectory : later.HasDirectory place :=
      isFresh.1.hasDirectory.imp fun _ stands => within _ _ stands
    have writes (part : Bytes) :
        later.writeFile workingDirectory (parent.child other) part =
            .ok written →
        Reaches written := by
      intro opens
      rw [Disk.writeFile] at opens
      exact changes.trans
        (Disk.changesBelow_of_openFile (ledTo.mono within) otherNotHere
          otherNotUp isDirectory isOwn opens)
    refine Disk.Does.reaches answered changes (writes content) changes ?_
    rintro ⟨part, -, opens⟩
    exact writes part opens
  refine ⟨isWritten, ?_⟩
  cases reply with
  | error fault => exact isWritten
  | ok =>
      refine Keeps.attempt (.ask ?_) _ written isWritten
      intro first reply last answered changes
      change Reaches last
      refine Disk.Does.reaches answered changes ?_ changes False.elim
      intro renames
      have within := changes.within isFresh
      exact changes.trans
        (Disk.changesBelow_of_rename (leads.mono within) notHere notUp
          (ledTo.mono within) otherNotHere otherNotUp renames)

/-- A text is written in a directory if no temporary file there is a link or is known elsewhere. -/
theorem ensures_writeAtomically
    {content : Bytes}
    (changes : made.ChangesBelow later place)
    (areOwn :
      ∀ processId,
        later.IsOwn place
          (place ++
            [.text (temporaryName (directory.child name) processId)])) :
    Ensures (Disk.Answers workingDirectory children)
      (fun last => made.ChangesBelow last place)
      (fun _ last => made.ChangesBelow last place)
      (writeAtomically (directory.child name) content).run later := by
  obtain ⟨-, -, -, notHere, notUp, -⟩ := Disk.not_special_of_isPlain isPlain
  obtain ⟨parent, heres, isParent, isWay, areHeres, starts⟩ :=
    directory.exists_parent?_child notHere
  obtain ⟨left', ledTo⟩ := leads.of_way isWay areHeres starts
  have within := changes.within isFresh
  have isDirectory : later.HasDirectory place :=
    isFresh.1.hasDirectory.imp fun _ stands => within _ _ stands
  unfold writeAtomically writeRetrying
  rw [ExceptT.run_bind]
  refine .bind ((ensures_makeParents_of_leads (fun _ _ _ _ => id) notHere
    (leads.mono within) isDirectory).mono ?_ ?_)
  · rintro _ rfl
    exact changes
  intro outcome middle isSame
  rw [isSame]
  cases outcome with
  | error fault => exact changes
  | ok =>
      dsimp only
      rw [Procedure.run_lift_bind]
      refine .bind (.ask fun environment _ looked => ?_)
      rw [looked.eq_of_looks rfl,
        directory.withFileName_child notHere notUp isParent]
      refine ⟨changes, ?_⟩
      obtain ⟨-, otherNotHere, otherNotUp⟩ :=
        temporaryName_isOther directory notHere notUp environment.processId
      exact ensures_writeBeside isFresh leads isPlain ledTo otherNotHere
        otherNotUp changes (areOwn environment.processId)

end

end Files

end Provision
