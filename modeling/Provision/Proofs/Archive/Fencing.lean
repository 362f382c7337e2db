import Provision.Proofs.Archive.Confining
import Provision.Proofs.Disk.Fencing
import Provision.Proofs.Storage.Downloading

namespace Provision

/-!
# Archives with links behind a fence

Members may be links, hard or symbolic, with any target.  Before anything is made, the directory that it
stands in is looked up, and a member whose directory is not below the target is refused.  So what is
unpacked stays in the target, as long as nobody is deceived about what stands at a path.
-/

open Plan

namespace Disk

/-- Lookups that do not follow links are answered truly. -/
def TellsLinks (workingDirectory : Location) (step : Stepping Disk) : Prop :=
  ∀ (path : Path) (disk : Disk) reply after,
    step (.linkStatus path) disk reply after →
    reply = disk.status workingDirectory false path

variable {disk later : Disk}
variable {workingDirectory place there : Location}
variable {directory path : Path}
variable {left : Nat}
variable {name : Name}

section

variable (leadsInto : disk.LeadsInto workingDirectory place directory)
variable (notHere : name.isHere = false)
variable (notUp : name.isUp = false)

include leadsInto notHere notUp

/-- An entry of a directory in a place lies in it. -/
theorem LeadsInto.lands_child :
    disk.Lands workingDirectory place false (directory.child name) := by
  intro found locates
  obtain ⟨left, there, leads, -, rfl⟩ :=
    exists_of_locate_child notHere notUp locates
  exact (leadsInto left there leads).trans (List.prefix_append _ _)

/-- A new file of a directory in a place lies in it. -/
theorem LeadsInto.lands_absent
    (isAbsent : disk.IsAbsent workingDirectory (directory.child name)) :
    disk.Lands workingDirectory place true (directory.child name) := by
  intro found locates
  have isNamed := Name.ne_empty notHere
  obtain ⟨_, _, -, walks⟩ := leadsTo_of_locate_child isNamed locates
  have notLink : disk.LacksLink workingDirectory (directory.child name) :=
    fun _ _ => isAbsent _
  obtain ⟨left, there, leads, -, rfl⟩ :=
    exists_of_locate_unlinked (walks.isPlain notHere notUp) notLink locates
  exact (leadsInto left there leads).trans (List.prefix_append _ _)

/-- A file that is new in a place is found there. -/
theorem LeadsInto.finds_written
    {content : Bytes}
    (isAbsent : disk.IsAbsent workingDirectory (directory.child name))
    (writes :
      disk.writeFile workingDirectory (directory.child name) content =
        .ok later) :
    ∃ location file,
      later.entryAt workingDirectory true (directory.child name) =
          .ok (location, .file file) ∧
        place <+: location := by
  rw [writeFile] at writes
  obtain ⟨left, there, leads, isUsable⟩ :
      ∃ left there,
        disk.LeadsTo workingDirectory directory left there ∧
          (directory.child name).isUsable = true := by
    have isNamed := Name.ne_empty notHere
    rcases openFile_eq_ok writes with
      ⟨_, locates, -⟩ | ⟨_, _, locates, -⟩ <;>
    · obtain ⟨left, there, leads, -⟩ :=
        leadsTo_of_locate_child isNamed locates
      exact ⟨left, there, leads, (locate_eq_ok_iff.mp locates).1⟩
  obtain ⟨isPlain, gains⟩ :=
    gainsFile_of_openFile leads notHere notUp
      (fun _ _ finds => absurd finds (isAbsent _)) writes
  refine ⟨there ++ [name], { mode := 0o644, content }, ?_, ?_⟩
  · exact entryAt_eq_ok_iff.mpr (gains.locate leads isPlain isUsable)
  · exact (leadsInto left there leads).trans (List.prefix_append _ _)

end

end Disk

namespace Files

variable {workingDirectory : Location}
variable {children : Disk.Children}
variable {step : Stepping Disk}
variable {disk : Disk}

open Classical in
/-- A directory in one that is there is made by its own call, or nothing is made. -/
theorem ensures_makeDirectories_child
    {directory : Path}
    {left : Nat}
    {there : Location}
    {entry : Entry}
    {name : Name}
    (answersBy : Disk.AnswersBy workingDirectory children step)
    (tree : disk.IsTree)
    (notHere : name.isHere = false)
    (leads : disk.LeadsTo workingDirectory directory left there)
    (stands : disk.get? there = some entry) :
    Ensures step
      (fun later =>
        later = disk ∨
          disk.makeDirectory workingDirectory (directory.child name) 0o755 =
            .ok later)
      (fun _ later =>
        later = disk ∨
          disk.makeDirectory workingDirectory (directory.child name) 0o755 =
            .ok later)
      (makeDirectories (directory.child name)) disk := by
  have notEmpty : directory.child name ≠ Path.empty :=
    Disk.child_ne_empty directory (Name.ne_empty notHere)
  have asksOnly :
      (makeDirectories (directory.child name)).AsksOnly fun action =>
        decide (IsOnWay (directory.child name) action) := by
    refine makeDirectories_asksOnly (fun path => ?_) fun steps above member =>
      decide_eq_true ⟨steps, member⟩
    exact decide_eq_true (rfl : Action.looks (.status path) = true)
  refine asksOnly.keeps ?_ disk (Or.inl rfl)
  intro action state reply after isOnWay answered reached
  replace isOnWay := of_decide_eq_true isOnWay
  have answers := answersBy _ _ _ _ answered
  cases action with
  | makeDirectory above =>
      obtain ⟨steps, member⟩ := isOnWay
      cases answers with
      | done makes =>
          obtain ⟨location, locates, -⟩ := Disk.makeDirectory_eq_ok makes
          rcases Path.cases_of_mem_lineage_child notHere member with
            rfl | ⟨isPrefix, starts⟩
          · rcases reached with rfl | madeBefore
            · exact Or.inr makes
            · -- The directory cannot be made for a second time.
              obtain ⟨-, -, left', there', -, -, leads', isFresh⟩ :=
                Disk.fresh_of_makeDirectory tree rfl madeBefore
              exact absurd makes
                ((leads'.makeDirectory_ne isFresh.1.hasDirectory notEmpty
                  0o755).1 after)
          · rcases reached with rfl | madeBefore
            · exact absurd locates
                (leads.finds_above stands isPrefix starts location)
            · obtain ⟨place, locates', rfl⟩ :=
                Disk.makeDirectory_eq_ok madeBefore
              have within :
                  disk.Within (disk.set place (.directory 0o755)) :=
                Disk.within_set (Disk.get?_of_locate locates')
              exact absurd locates
                (Disk.LeadsTo.finds_above (leads.mono within)
                  (within _ _ stands) isPrefix starts location)
      | refused | unchanged => exact reached
      | brokenOff _ partly => exact partly.elim
  | status | linkStatus | readFile | listDirectory | realPath | environment =>
      rw [answers.eq_of_looks rfl]
      exact reached
  | _ => simp [IsOnWay, Action.looks] at isOnWay

end Files

namespace Archive

variable {workingDirectory place : Location}
variable {children : Disk.Children}
variable {step : Stepping Disk}
variable {start disk : Disk}
variable {directory path : Path}

/-- The path of a location has the names of the location. -/
theorem filter_segments_pathOf
    {location : Location}
    (arePlain : ∀ name ∈ location, name.isPlain = true) :
    (Disk.pathOf location).segments.filter (fun segment => !segment.isHere) =
      location := by
  have areNamed : location.filter (fun segment => !segment.isHere) = location :=
    List.filter_eq_self.mpr fun name isName => by
      simp [(Disk.not_special_of_isPlain (arePlain name isName)).2.2.2.1]
  cases location with
  | nil => rfl
  | cons name rest => exact areNamed

/-- The path of a directory in a tree leads to that directory. -/
theorem eq_of_leadsTo_pathOf
    {left : Nat}
    {there : Location}
    (tree : disk.IsTree)
    (isDirectory : disk.HasDirectory place)
    (leads : disk.LeadsTo workingDirectory (Disk.pathOf place) left there) :
    there = place := by
  obtain ⟨mode, stands⟩ := isDirectory
  obtain ⟨standing, arePlain⟩ := tree _ _ stands
  obtain ⟨isWay, isStart⟩ := way_pathOf arePlain
  rw [Disk.LeadsTo, isWay, isStart] at leads
  refine leads.eq_append_of_no_links ?_ ?_
  · intro name isName
    have isPlain := Disk.not_special_of_isPlain (arePlain name isName)
    exact ⟨isPlain.2.2.2.1, isPlain.2.2.2.2.1⟩
  · intro first isPrefix _ target isLink
    rw [List.nil_append] at isLink
    by_cases isSame : first = place
    · rw [isSame, stands] at isLink
      simp at isLink
    · obtain ⟨_, isDirectory⟩ := standing first isPrefix isSame
      rw [isDirectory] at isLink
      simp at isLink

section

variable (answersBy : Disk.AnswersBy workingDirectory children step)

include answersBy

/-- A change that comes to lie behind a fence leaves the fence. -/
theorem ensures_landing
    {action : Action}
    (fenced : start.Fenced disk place)
    (lands : action.LandsIn disk workingDirectory place) :
    Ensures step (fun last => start.Fenced last place)
      (fun reply last =>
        start.Fenced last place ∧
          Disk.Answers workingDirectory children action disk reply last)
      (Plan.ask action) disk := by
  refine .ask fun reply after answered => ?_
  have answers := answersBy _ _ _ _ answered
  have isFenced := answers.fenced lands fenced
  exact ⟨isFenced, isFenced, answers⟩

/-- What is inside of a directory that leads into a place is found there. -/
theorem upholds_requireInside
    (fenced : start.Fenced disk place)
    (leadsInto : disk.LeadsInto workingDirectory place directory) :
    Upholds step (fun last => start.Fenced last place)
      (fun _ last =>
        last = disk ∧
          ∃ location entry,
            disk.entryAt workingDirectory true path = .ok (location, entry) ∧
              place <+: location)
      (requireInside directory path) disk := by
  have looks (path : Path) :
      Upholds step (fun last => start.Fenced last place)
        (fun real last =>
          last = disk ∧ disk.realPath workingDirectory path = .ok real)
        (orSpoil (Plan.ask (.realPath path))) disk := by
    refine .attempt (.ask fun reply after answered => ?_)
    obtain ⟨tells, rfl⟩ := answersBy _ _ _ _ answered
    refine ⟨fenced, ?_⟩
    cases reply with
    | ok real => exact ⟨rfl, tells.eq_ok⟩
    | error fault => exact fenced
  have exists_of_realPath {path real : Path} :
      disk.realPath workingDirectory path = .ok real →
      ∃ location entry,
        disk.entryAt workingDirectory true path = .ok (location, entry) ∧
          real.segments.filter (fun segment => !segment.isHere) = location := by
    intro isReal
    rw [Disk.realPath] at isReal
    cases finds : disk.entryAt workingDirectory true path with
    | error fault =>
        rw [finds] at isReal
        simp [Except.map] at isReal
    | ok found =>
        rw [finds] at isReal
        obtain rfl := Except.ok.inj isReal
        refine ⟨found.1, found.2, rfl, ?_⟩
        exact filter_segments_pathOf
          (fenced.isTree _ _ (Disk.get?_of_entryAt finds)).2
  unfold requireInside
  refine (looks path).bind fun real after isReal => ?_
  obtain ⟨rfl, isReal⟩ := isReal
  refine (looks directory).bind fun root after isRoot => ?_
  obtain ⟨rfl, isRoot⟩ := isRoot
  obtain ⟨location, entry, finds, isLocation⟩ := exists_of_realPath isReal
  obtain ⟨rootLocation, rootEntry, findsRoot, isRootLocation⟩ :=
    exists_of_realPath isRoot
  dsimp only
  rw [isLocation, isRootLocation]
  split
  · rename_i isPrefix
    refine .pure ⟨rfl, location, entry, finds, ?_⟩
    exact (leadsInto.findsIn _ _ findsRoot).trans
      (List.isPrefixOf_iff_prefix.mp isPrefix)
  · exact .throw fenced

/-- Directories on the way to a member are made behind the fence. -/
theorem upholds_makeWay
    (leadsInto :
      ∀ later,
        start.Fenced later place →
        later.LeadsInto workingDirectory place directory)
    {reached : Path}
    {names : List Name}
    (areNamed : ∀ name ∈ names, name.isHere = false ∧ name.isUp = false)
    (fenced : start.Fenced disk place) :
    Upholds step (fun last => start.Fenced last place)
      (fun _ last => start.Fenced last place)
      (makeWay directory reached names) disk := by
  induction names generalizing disk reached with
  | nil => exact .pure fenced
  | cons name rest inductionHypothesis =>
      obtain ⟨notHere, notUp⟩ := areNamed name (.head _)
      have goesOn {disk : Disk} (fenced : start.Fenced disk place) :=
        @inductionHypothesis disk (reached.child name)
          (fun other isMember => areNamed other (.tail _ isMember)) fenced
      refine .bindLift (.ask fun reply after answered => ?_)
      obtain ⟨-, rfl⟩ := answersBy _ _ _ _ answered
      refine ⟨fenced, ?_⟩
      cases reply with
      | ok status => exact goesOn fenced
      | error fault =>
          refine (upholds_requireInside answersBy fenced
            (leadsInto _ fenced)).bind fun _ after isInside => ?_
          obtain ⟨rfl, location, entry, finds, isInside⟩ := isInside
          obtain ⟨left, leads⟩ := Disk.leadsTo_of_entryAt finds
          have lands :=
            (leads.leadsInto isInside).lands_child notHere notUp
          have isKept (later : Disk) :
              (later = after ∨
                after.makeDirectory workingDirectory (reached.child name)
                    0o755 =
                  .ok later) →
              start.Fenced later place := by
            rintro (rfl | makes)
            · exact fenced
            · exact fenced.trans
                (Disk.fenced_makeDirectory fenced.isTree fenced.separates
                  lands makes)
          have makes :=
            Files.ensures_makeDirectories_child answersBy fenced.isTree
              notHere leads (Disk.get?_of_entryAt finds)
          refine (makes.mono isKept fun _ => isKept).upholdsAttempt.bind ?_
          exact fun _ _ isFenced => goesOn isFenced

/-! ### A member in a directory that leads into the place -/

theorem upholds_setMode
    (fenced : start.Fenced disk place)
    (findsIn : disk.FindsIn workingDirectory place true path)
    (member : Tar.Member) :
    Upholds step (fun last => start.Fenced last place)
      (fun _ last => start.Fenced last place) (setMode path member) disk := by
  unfold setMode
  split
  · rename_i mode _
    have changes :
        Ensures step _ _ (Plan.ask (.changeMode path mode)) disk :=
      ensures_landing answersBy fenced findsIn
    exact (changes.mono (fun _ => id) fun _ _ => And.left).upholdsAttempt
  · exact .pure fenced

/-- A file that gets another time is still found. -/
theorem upholds_setTime
    {location : Location}
    {file : File}
    (fenced : start.Fenced disk place)
    (finds :
      disk.entryAt workingDirectory true path = .ok (location, .file file))
    (isInside : place <+: location)
    (member : Tar.Member) :
    Upholds step (fun last => start.Fenced last place)
      (fun _ last =>
        start.Fenced last place ∧
          last.FindsIn workingDirectory place true path)
      (setTime path member) disk := by
  have findsIn := Disk.findsIn_of_entryAt finds isInside
  unfold setTime
  split
  · rename_i time _
    have changes :
        Ensures step _ _
          (Plan.ask (.setTimes path (max time 1 * 1000000000))) disk :=
      ensures_landing answersBy fenced findsIn
    refine .attempt (changes.mono (fun _ => id) ?_)
    rintro reply last ⟨isFenced, answers⟩
    cases answers with
    | done changed =>
        obtain ⟨other, entry, finds', rfl⟩ := Disk.setTimes_eq_ok changed
        obtain ⟨rfl, -⟩ :=
          Prod.mk.inj (Except.ok.inj (finds.symm.trans finds'))
        have findsNow (change : File → File) :=
          Disk.entryAt_of_stays_file finds
            (Disk.stays_updateFile disk location change)
            (Disk.get?_updateFile_self (Disk.get?_of_entryAt finds) change)
        exact ⟨isFenced, Disk.findsIn_of_entryAt (findsNow _) isInside⟩
    | refused | unchanged => exact isFenced
    | brokenOff _ partly => exact partly.elim
  · exact .pure ⟨fenced, findsIn⟩

section

variable {parent : Path}
variable {name : Name}
variable (notHere : name.isHere = false)
variable (notUp : name.isUp = false)
variable (fenced : start.Fenced disk place)
variable (leadsInto : disk.LeadsInto workingDirectory place parent)

include notHere notUp fenced leadsInto

/-- A new file is written behind the fence. -/
theorem upholds_writeFile
    (isAbsent : disk.IsAbsent workingDirectory (parent.child name))
    (content : Bytes) :
    Upholds step (fun last => start.Fenced last place)
      (fun _ last =>
        start.Fenced last place ∧
          ∃ location file,
            last.entryAt workingDirectory true (parent.child name) =
                .ok (location, .file file) ∧
              place <+: location)
      (orSpoil (Plan.ask (.writeFile (parent.child name) content)))
      disk := by
  have writes :
      Ensures step _ _ (Plan.ask (.writeFile (parent.child name) content))
        disk :=
    ensures_landing answersBy fenced
      (leadsInto.lands_absent notHere notUp isAbsent)
  refine .attempt (writes.mono (fun _ => id) ?_)
  rintro reply last ⟨isFenced, answers⟩
  cases answers with
  | done written =>
      exact ⟨isFenced,
        leadsInto.finds_written notHere notUp isAbsent written⟩
  | refused | unchanged | brokenOff => exact isFenced

/-- What stands at the path of a member is removed behind the fence. -/
theorem upholds_removeFile :
    Upholds step (fun last => start.Fenced last place)
      (fun _ last =>
        start.Fenced last place ∧
          last.LeadsInto workingDirectory place parent ∧
            last.IsAbsent workingDirectory (parent.child name))
      (orSpoil (Plan.ask (.removeFile (parent.child name)))) disk := by
  have removes :
      Ensures step _ _ (Plan.ask (.removeFile (parent.child name))) disk :=
    ensures_landing answersBy fenced
      (leadsInto.lands_child notHere notUp).findsIn
  refine .attempt (removes.mono (fun _ => id) ?_)
  rintro reply last ⟨isFenced, answers⟩
  cases answers with
  | done removed =>
      exact ⟨isFenced,
        leadsInto.of_within (Disk.get?_of_removeFile removed),
        Disk.isAbsent_of_removeFile removed⟩
  | refused | unchanged => exact isFenced
  | brokenOff _ partly => exact partly.elim

theorem upholds_unpackDirectory
    (member : Tar.Member) :
    Upholds step (fun last => start.Fenced last place)
      (fun _ last => start.Fenced last place)
      (unpackDirectory (parent.child name) member) disk := by
  have lands := leadsInto.lands_child notHere notUp
  have makes :
      Ensures step _ _ (Plan.ask (.makeDirectory (parent.child name)))
        disk :=
    ensures_landing answersBy fenced lands
  refine .bindLift (makes.mono (fun _ => id) ?_)
  rintro (fault | value) made ⟨isFenced, answers⟩
  · obtain rfl : made = disk := by
      cases answers with
      | refused | unchanged => rfl
      | brokenOff _ partly => exact partly.elim
    refine .bindLift (.bind (.ask fun reply after answered => ?_))
    obtain ⟨tells, rfl⟩ := answersBy _ _ _ _ answered
    refine ⟨fenced, ?_⟩
    cases reply with
    | error fault' => exact .throw fenced
    | ok status =>
        obtain ⟨location, entry, finds, isStatus⟩ :=
          Disk.exists_of_status tells.eq_ok
        change Upholds step _ _ (if decide _ = true then _ else _) after
        split
        · rename_i isDirectory
          have isKind : Disk.kindOf entry = .directory := by
            rw [← of_decide_eq_true isDirectory, ← isStatus]
            rfl
          have noLink : entry.isLink = false := by
            cases entry with
            | directory | file => rfl
            | link => simp [Disk.kindOf] at isKind
          exact upholds_setMode answersBy fenced
            (Disk.findsIn_of_entryAt (Disk.entryAt_followed finds noLink)
              (lands.findsIn _ _ finds))
            member
        · exact .throw fenced
  · cases answers with
    | done makes =>
        obtain ⟨-, -, left, there, locates, -, leads, -⟩ :=
          Disk.fresh_of_makeDirectory fenced.isTree rfl makes
        exact upholds_setMode answersBy isFenced
          (leads.leadsInto (lands _ locates)).findsIn member

/-- A link is made behind the fence, wherever it leads to. -/
theorem upholds_unpackLink
    (target : Path) :
    Upholds step (fun last => start.Fenced last place)
      (fun _ last => start.Fenced last place)
      (unpackLink (parent.child name) target) disk := by
  have makes
      (disk : Disk)
      (fenced : start.Fenced disk place)
      (leadsInto : disk.LeadsInto workingDirectory place parent) :
      Ensures step _ _ (Plan.ask (.makeLink target (parent.child name)))
        disk :=
    ensures_landing answersBy fenced (leadsInto.lands_child notHere notUp)
  refine .bindLift ((makes disk fenced leadsInto).mono (fun _ => id) ?_)
  rintro (fault | value) made ⟨isFenced, answers⟩
  · obtain rfl : made = disk := by
      cases answers with
      | refused | unchanged => rfl
      | brokenOff _ partly => exact partly.elim
    split
    · rename_i isOk
      simp at isOk
    · refine (upholds_removeFile answersBy notHere notUp fenced leadsInto).bind
        fun _ removed isRemoved => ?_
      obtain ⟨isFenced, leadsInto, -⟩ := isRemoved
      exact ((makes removed isFenced leadsInto).mono (fun _ => id)
        fun _ _ => And.left).upholdsAttempt
    · exact .throw fenced
  · exact .pure isFenced

variable (tellsLinks : Disk.TellsLinks workingDirectory step)

include tellsLinks

/-- A file is written anew: whatever stood at its path is gone before. -/
theorem upholds_unpackFile
    (member : Tar.Member) :
    Upholds step (fun last => start.Fenced last place)
      (fun _ last => start.Fenced last place)
      (unpackFile (parent.child name) member) disk := by
  have writes
      (disk : Disk)
      (fenced : start.Fenced disk place)
      (leadsInto : disk.LeadsInto workingDirectory place parent)
      (isAbsent : disk.IsAbsent workingDirectory (parent.child name)) :
      Upholds step (fun last => start.Fenced last place)
        (fun _ last => start.Fenced last place)
        (do
          orSpoil (Plan.ask (.writeFile (parent.child name) member.content))
          setTime (parent.child name) member
          setMode (parent.child name) member : Unpacking Unit)
        disk := by
    refine (upholds_writeFile answersBy notHere notUp fenced leadsInto isAbsent
      member.content).bind fun _ written isWritten => ?_
    obtain ⟨isFenced, location, file, finds, isInside⟩ := isWritten
    refine (upholds_setTime answersBy isFenced finds isInside member).bind
      fun _ timed isTimed => ?_
    exact upholds_setMode answersBy isTimed.1 isTimed.2 member
  refine .bindLift (.ask fun reply after answered => ?_)
  obtain ⟨-, rfl⟩ := answersBy _ _ _ _ answered
  have isTold := tellsLinks _ _ _ _ answered
  refine ⟨fenced, ?_⟩
  cases reply with
  | ok status =>
      refine (upholds_removeFile answersBy notHere notUp fenced leadsInto).bind
        fun _ removed isRemoved => ?_
      obtain ⟨isFenced, leadsInto, isAbsent⟩ := isRemoved
      exact writes removed isFenced leadsInto isAbsent
  | error fault =>
      refine writes after fenced leadsInto fun found finds => ?_
      rw [Disk.status, finds] at isTold
      cases isTold

/-- A member of any kind is unpacked behind the fence. -/
theorem upholds_unpackAt
    (leadsRoot : disk.LeadsInto workingDirectory place directory)
    (member : Tar.Member) :
    Upholds step (fun last => start.Fenced last place)
      (fun _ last => start.Fenced last place)
      (unpackAt directory (parent.child name) member) disk := by
  have tells :
      Upholds step (fun last => start.Fenced last place)
        (fun _ last => last = disk) (requireTarget member) disk := by
    unfold requireTarget
    split
    · exact .throw fenced
    · exact .pure rfl
    · exact .throw fenced
  unfold unpackAt
  split
  · exact upholds_unpackDirectory answersBy notHere notUp fenced leadsInto
      member
  · split
    · refine tells.bind fun target after isSame => ?_
      subst after
      refine (upholds_requireInside answersBy fenced leadsRoot).bind
        fun _ after isInside => ?_
      obtain ⟨rfl, location, entry, finds, isInside⟩ := isInside
      -- A file that is linked to is found in the place, for it is no link itself.
      have isOwn (other : Location) (file : File) :
          after.entryAt workingDirectory false (directory.join target) =
            .ok (other, .file file) →
          place <+: other := by
        intro finds'
        exact Disk.findsIn_of_entryAt finds isInside _ _
          (Disk.entryAt_followed finds' rfl)
      have links :
          Ensures step _ _
            (Plan.ask
              (.makeHardLink (directory.join target) (parent.child name)))
            after :=
        ensures_landing answersBy fenced
          ⟨leadsInto.lands_child notHere notUp, isOwn⟩
      exact (links.mono (fun _ => id) fun _ _ => And.left).upholdsAttempt
    · split
      · refine tells.bind fun target after isSame => ?_
        subst after
        exact upholds_unpackLink answersBy notHere notUp fenced leadsInto target
      · split
        · exact .pure fenced
        · split
          · exact upholds_unpackDirectory answersBy notHere notUp fenced
              leadsInto member
          · exact upholds_unpackFile answersBy notHere notUp fenced leadsInto
              tellsLinks member

end

variable (tellsLinks : Disk.TellsLinks workingDirectory step)
include tellsLinks

section

variable
  (leadsInto :
    ∀ later,
      start.Fenced later place →
      later.LeadsInto workingDirectory place directory)

include leadsInto

theorem upholds_unpackMember
    (fenced : start.Fenced disk place)
    (member : Tar.Member) :
    Upholds step (fun last => start.Fenced last place)
      (fun _ last => start.Fenced last place)
      (unpackMember directory member) disk := by
  unfold unpackMember
  split
  · exact .pure fenced
  · exact .pure fenced
  · rename_i names notNil isNames
    have areNamed := areNamed_of_namesOf? isNames
    have isLast := List.dropLast_concat_getLast notNil
    obtain ⟨notHere, notUp⟩ :=
      areNamed (names.getLast notNil) (List.getLast_mem notNil)
    have isChild :
        below directory names =
          (below directory names.dropLast).child (names.getLast notNil) := by
      conv_lhs => rw [← isLast, below, List.foldl_append]
      rfl
    refine (upholds_makeWay answersBy leadsInto (fun name isMember =>
      areNamed name (List.dropLast_subset _ isMember))
      fenced).bind fun _ after isFenced => ?_
    refine (upholds_requireInside answersBy isFenced
      (leadsInto _ isFenced)).bind fun _ after' isInside => ?_
    obtain ⟨rfl, location, entry, finds, isInside⟩ := isInside
    rw [isChild]
    exact upholds_unpackAt answersBy notHere notUp isFenced
      (Disk.leadsInto_of_entryAt finds isInside) tellsLinks
      (leadsInto _ isFenced) member

theorem upholds_unpackMembers
    (fenced : start.Fenced disk place)
    (members : List Tar.Member) :
    Upholds step (fun last => start.Fenced last place)
      (fun _ last => start.Fenced last place)
      (unpackMembers directory members) disk := by
  induction members generalizing disk with
  | nil => exact .pure fenced
  | cons member rest inductionHypothesis =>
      refine (upholds_unpackMember answersBy tellsLinks leadsInto fenced
        member).bind fun _ after isFenced => ?_
      exact inductionHypothesis isFenced

end

/-- All members of a tar archive are unpacked behind the fence. -/
theorem upholds_unpackTar
    {target : Path}
    (isDirectory : start.HasDirectory place)
    (leadsOnly :
      ∀ later left there,
        start.Fenced later place →
        later.LeadsTo workingDirectory target left there →
        there = place)
    (fenced : start.Fenced disk place)
    (members : List Tar.Member) :
    Upholds step (fun last => start.Fenced last place)
      (fun _ last => start.Fenced last place)
      (unpackTar target members) disk := by
  have unpacks
      (directory : Path)
      (leadsOnly :
        ∀ later left there,
          start.Fenced later place →
          later.LeadsTo workingDirectory directory left there →
          there = place) :
      Upholds step (fun last => start.Fenced last place)
        (fun _ last => start.Fenced last place)
        (do
          unpackMembers directory
            (members.filter fun member => !isDirectoryMember member)
          unpackMembers directory (deepestFirst members) : Unpacking Unit)
        disk := by
    have leadsInto (later : Disk) (fenced : start.Fenced later place) :
        later.LeadsInto workingDirectory place directory := by
      intro left there leads
      exact leadsOnly later left there fenced leads ▸ List.prefix_rfl
    refine (upholds_unpackMembers answersBy tellsLinks leadsInto fenced
      _).bind fun _ after isFenced => ?_
    exact upholds_unpackMembers answersBy tellsLinks leadsInto isFenced _
  refine .bindLift (.bind (.ask fun reply after answered => ?_))
  obtain ⟨tells, rfl⟩ := answersBy _ _ _ _ answered
  refine ⟨fenced, ?_⟩
  cases reply with
  | error fault => exact unpacks target leadsOnly
  | ok real =>
      have isReal := tells.eq_ok
      rw [Disk.realPath] at isReal
      cases finds : after.entryAt workingDirectory true target with
      | error fault =>
          rw [finds] at isReal
          cases isReal
      | ok found =>
          rw [finds] at isReal
          obtain rfl := Except.ok.inj isReal
          obtain ⟨left, leads⟩ := Disk.leadsTo_of_entryAt finds
          obtain rfl := leadsOnly after left _ fenced leads
          refine unpacks _ fun later left there isFenced leads => ?_
          exact eq_of_leadsTo_pathOf isFenced.isTree
            (isFenced.directories _ isDirectory) leads

end

/-- Members of a zip archive with safe names are unpacked behind the fence. -/
theorem upholds_unpackZip
    {archive target : Path}
    {left : Nat}
    {bytes : Bytes}
    {members : List Zip.Member}
    (answersBy : Disk.AnswersBy workingDirectory children step)
    (tree : disk.IsTree)
    (leads : disk.LeadsTo workingDirectory target left place)
    (isFresh : disk.IsFresh place)
    (areSafe : ∀ member ∈ members, isUnsafe member.name = false) :
    Upholds step (fun last => disk.Fenced last place)
      (fun _ last => disk.Fenced last place)
      (unpackZip archive target bytes members) disk := by
  have enters := Disk.enters_of_leadsTo leads isFresh.1.hasDirectory
  have confines :
      Keeps step (fun later => disk.Confined later place)
        (unpackZip archive target bytes members).run := by
    refine (unpackZip_asksOnly fun member isMember =>
      unpackZipMember_staysIn enters (areSafe member isMember)).keeps ?_
    intro action state reply after stays answered
    exact (answersBy _ _ _ _ answered).confined (staysIn_iff.mp stays)
  have trees :
      Keeps step Disk.IsTree (unpackZip archive target bytes members).run :=
    (unpackZip_adds archive target bytes members).keeps
      fun _ _ _ _ adds answered =>
        (answersBy _ _ _ _ answered).isTree_of_adds adds
  have both :=
    (confines disk (.refl isFresh.encloses)).and (trees disk tree)
  have isFenced (later : Disk) :
      disk.Confined later place ∧ later.IsTree →
      disk.Fenced later place :=
    fun reached => reached.1.fenced reached.2
  exact Ensures.upholds (both.mono (fun _ => id) fun _ _ => id) isFenced
    |>.mono fun _ last => isFenced last

/-- An archive is unpacked behind the fence around a new directory. -/
theorem upholds_unpack
    {target : Path}
    {left : Nat}
    (answersBy : Disk.AnswersBy workingDirectory children step)
    (tellsLinks : Disk.TellsLinks workingDirectory step)
    (tree : disk.IsTree)
    (leads : disk.LeadsTo workingDirectory target left place)
    (isFresh : disk.IsFresh place)
    (leadsOnly :
      ∀ later left there,
        disk.Fenced later place →
        later.LeadsTo workingDirectory target left there →
        there = place)
    (archive : Path)
    (contents : Contents)
    (areSafe : contents.names.filter isUnsafe = []) :
    Upholds step (fun last => disk.Fenced last place)
      (fun _ last => disk.Fenced last place)
      (contents.unpack archive target) disk := by
  cases contents with
  | zip bytes members =>
      refine upholds_unpackZip answersBy tree leads isFresh
        fun member isMember => ?_
      have isNamed : member.name ∈ (Contents.zip bytes members).names :=
        List.mem_eraseDups.mpr (List.mem_map_of_mem isMember)
      simpa using List.filter_eq_nil_iff.mp areSafe member.name isNamed
  | tar members =>
      exact (upholds_unpackTar answersBy tellsLinks isFresh.1.hasDirectory
        leadsOnly (.refl tree isFresh.separates) members).adapt _

section

variable {name : Name}
variable {left : Nat}
variable {there : Location}
variable (answersBy : Disk.AnswersBy workingDirectory children step)
variable (tellsLinks : Disk.TellsLinks workingDirectory step)
variable (tree : disk.IsTree)
variable (notHere : name.isHere = false)
variable (notUp : name.isUp = false)
variable (leads : disk.LeadsTo workingDirectory directory left there)
variable (isDirectory : disk.HasDirectory there)
variable (isMissing : disk.get? (there ++ [name]) = none)

include answersBy tree notHere notUp leads isDirectory isMissing

/-- A new directory is made, and there is a fence around it. -/
theorem upholds_makeTarget :
    Upholds step (fun last => disk.Fenced last (there ++ [name]))
      (fun _ last =>
        disk.Fenced last (there ++ [name]) ∧
          last.IsFresh (there ++ [name]) ∧
            ∃ left,
              last.LeadsTo workingDirectory (directory.child name) left
                (there ++ [name]))
      (Files.reporting (directory.child name)
        (Files.makeDirectories (directory.child name)))
      disk := by
  have same := Disk.fenced_of_missing tree isMissing
  have isMade (later : Disk) :
      disk.makeDirectory workingDirectory (directory.child name) 0o755 =
        .ok later →
      disk.Fenced later (there ++ [name]) ∧
        later.IsFresh (there ++ [name]) ∧
          ∃ left,
            later.LeadsTo workingDirectory (directory.child name) left
              (there ++ [name]) := by
    intro makes
    have lands :
        disk.Lands workingDirectory (there ++ [name]) false
          (directory.child name) := by
      intro found locates
      obtain ⟨_, _, leads', -, rfl⟩ :=
        Disk.exists_of_locate_child notHere notUp locates
      obtain ⟨-, rfl⟩ := leads.unique leads'
      exact List.prefix_rfl
    have isFenced :=
      Disk.fenced_makeDirectory tree same.separates lands makes
    obtain ⟨-, -, left', place, locates, -, leads', isFresh⟩ :=
      Disk.fresh_of_makeDirectory tree rfl makes
    obtain ⟨_, _, leads'', -, isFound⟩ :=
      Disk.exists_of_locate_child notHere notUp locates
    obtain ⟨-, rfl⟩ := leads.unique leads''
    obtain rfl := congrArg Disk.Found.location isFound
    exact ⟨isFenced, isFresh, left', leads'⟩
  have isKept (later : Disk) :
      later = disk ∨
        disk.makeDirectory workingDirectory (directory.child name) 0o755 =
          .ok later →
      disk.Fenced later (there ++ [name]) := by
    rintro (rfl | makes)
    · exact same
    · exact (isMade later makes).1
  obtain ⟨mode, stands⟩ := isDirectory
  have makes :=
    Files.ensures_makeDirectories_child answersBy tree notHere leads stands
  have leadsTo :
      Ensures step _ _ (Files.makeDirectories (directory.child name)) disk :=
    (Files.ensures_makeDirectories tree).of_fewer answersBy
  refine .attempt ((makes.and leadsTo).mono (fun later made => isKept later made.1)
    ?_)
  rintro (fault | value) later ⟨made, -, isFound⟩
  · exact isKept later made
  · rcases made with rfl | makes
    · -- A directory that was not there is not found.
      rcases isFound rfl with isEmpty | ⟨left', place, leads', -⟩
      · exact absurd isEmpty
          (Disk.child_ne_empty directory (Name.ne_empty notHere))
      · obtain ⟨_, stands, -⟩ := leads.entry_of_child notHere notUp leads'
        rw [isMissing] at stands
        simp at stands
    · exact isMade later makes

include tellsLinks

/--
Whatever an archive holds, its extraction to a new directory changes nothing else, and no file in the
directory becomes the same as one outside of it.
-/
theorem upholds_extract
    (archive : Path) :
    Upholds step (fun last => disk.Fenced last (there ++ [name]))
      (fun _ last => disk.Fenced last (there ++ [name]))
      (extract archive (directory.child name)) disk := by
  have same := Disk.fenced_of_missing tree isMissing
  have reads (kind : Kind) :
      Upholds step (fun last => disk.Fenced last (there ++ [name]))
        (fun _ last => last = disk) (readContents kind archive) disk := by
    refine .bindLift (.ask fun reply after answered => ?_)
    obtain ⟨-, rfl⟩ := answersBy _ _ _ _ answered
    refine ⟨same, ?_⟩
    split
    · exact .throw same
    · exact .throw same
    · split
      · exact .pure rfl
      · exact .throw same
  unfold extract
  dsimp only
  split
  · exact .throw same
  · rename_i kind _
    refine (reads kind).bind fun contents after isSame => ?_
    subst after
    split
    · exact .throw same
    · rename_i areSafe
      refine (upholds_makeTarget answersBy tree notHere notUp leads isDirectory
        isMissing).bind fun _ made isMade => ?_
      obtain ⟨isFenced, isFresh, left', leadsTo⟩ := isMade
      have isKept (later : Disk) :
          made.Fenced later (there ++ [name]) →
          disk.Fenced later (there ++ [name]) :=
        isFenced.trans
      have leadsOnly (later : Disk) (left : Nat) (place : Location) :
          made.Fenced later (there ++ [name]) →
          later.LeadsTo workingDirectory (directory.child name) left place →
          place = there ++ [name] := by
        intro fenced leads'
        have within := (isKept later fenced).within tree isMissing
        obtain ⟨entry, stands, isPlace⟩ :=
          Disk.LeadsTo.entry_of_child (leads.mono within) notHere notUp leads'
        obtain ⟨mode, isDirectory⟩ :=
          fenced.directories _ isFresh.1.hasDirectory
        obtain rfl := Option.some.inj (isDirectory.symm.trans stands)
        exact isPlace rfl
      have unpacks :=
        upholds_unpack answersBy tellsLinks isFenced.isTree leadsTo isFresh
          leadsOnly archive contents areSafe
      refine (unpacks.weaken isKept).bind fun _ last isFenced => ?_
      split <;> exact .pure (isKept last isFenced)

end

end Archive

end Provision
