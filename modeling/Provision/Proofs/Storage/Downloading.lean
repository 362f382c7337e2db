import Provision.Proofs.Storage.Overwriting

namespace Provision

/-!
# Paths without a file

A path that leads to no file and to no link leads to none after other files are written or removed, after a
file at the path itself was removed, and after the directories on the way to it were made.
-/

open Plan

namespace Disk

variable {disk later : Disk}
variable {workingDirectory : Location}
variable {path directory : Path}
variable {before : List Name}
variable {name other : Name}

/-! ## What is found by the last name -/

/-- A walk that does not end at a link comes to the same end if links are followed there. -/
theorem Walks.followed
    {links : Nat}
    {here location : Location}
    {names : List Name}
    {entry : Entry}
    (walks : disk.Walks false links here names ⟨location, some entry⟩)
    (noLink : entry.isLink = false) :
    disk.Walks true links here names ⟨location, some entry⟩ := by
  generalize isFound : (⟨location, some entry⟩ : Found) = found at walks ⊢
  induction walks with
  | arrived => exact .arrived _ _
  | missing => simp at isFound
  | link =>
      obtain ⟨-, isLink⟩ := Found.mk.inj isFound
      obtain rfl := Option.some.inj isLink
      simp [Entry.isLink] at noLink
  | step steps _ _ inductionHypothesis =>
      exact .step steps (Or.inr (Or.inr rfl)) (inductionHypothesis isFound)

/-- What is found without following the last link is found following it, unless it is a link. -/
theorem entryAt_followed
    {location : Location}
    {entry : Entry}
    (finds :
      disk.entryAt workingDirectory false path = .ok (location, entry))
    (noLink : entry.isLink = false) :
    disk.entryAt workingDirectory true path = .ok (location, entry) := by
  rw [entryAt_eq_ok_iff, locate_eq_ok_iff] at finds ⊢
  exact ⟨finds.1, finds.2.followed noLink⟩

/-- What is found following links has something in its place that is found without doing so. -/
theorem exists_entryAt_unfollowed
    {location : Location}
    {entry : Entry}
    (finds : disk.entryAt workingDirectory true path = .ok (location, entry)) :
    ∃ place itself,
      disk.entryAt workingDirectory false path = .ok (place, itself) ∧
        (itself.isLink = false → itself = entry) := by
  obtain ⟨isUsable, walks⟩ :=
    locate_eq_ok_iff.mp (entryAt_eq_ok_iff.mp finds)
  obtain ⟨place, itself, unfollowed⟩ := walks.exists_of_follow
  have findsItself :
      disk.entryAt workingDirectory false path = .ok (place, itself) :=
    entryAt_eq_ok_iff.mpr (locate_eq_ok_iff.mpr ⟨isUsable, unfollowed⟩)
  refine ⟨place, itself, findsItself, ?_⟩
  intro noLink
  have again := entryAt_followed findsItself noLink
  rw [finds, Except.ok.injEq, Prod.mk.injEq] at again
  exact again.2.symm

/-- The last name of a path finds what stands under it where the names before it lead. -/
theorem entryAt_named_iff
    {location : Location}
    {entry : Entry}
    (isNames : path.names = before ++ [name])
    (notHere : name.isHere = false)
    (notUp : name.isUp = false) :
    disk.entryAt workingDirectory false path = .ok (location, entry) ↔
      (path.isUsable = true ∧ name.isPlain = true) ∧
        ∃ left there,
          disk.Leads maxLinks (path.start workingDirectory) before left
              there ∧
            disk.IsOpen there ∧
              location = there ++ [name] ∧
                disk.get? location = some entry := by
  have isNamed : name ≠ .text "" := by
    rintro rfl
    simp [Name.isHere] at notHere
  rw [entryAt_eq_ok_iff, locate_eq_ok_iff, isNames]
  constructor
  · rintro ⟨isUsable, walks⟩
    obtain ⟨left, there, leads, ends⟩ :=
      leads_of_walks_append walks (by simp [isNamed])
    obtain ⟨isOpen, isFound⟩ := ends.exists_of_named notHere notUp
    obtain ⟨rfl, stands⟩ := Found.mk.inj isFound
    exact ⟨⟨isUsable, ends.isPlain notHere notUp⟩, left, there, leads,
      isOpen, rfl, stands.symm⟩
  · rintro ⟨⟨isUsable, isPlain⟩, left, there, leads, isOpen, rfl, stands⟩
    refine ⟨isUsable, leads.walks_append (List.cons_ne_nil name []) ?_⟩
    cases isLink : entry.isLink with
    | true =>
        cases entry with
        | link target => exact .link isOpen isPlain stands rfl
        | directory | file => simp [Entry.isLink] at isLink
    | false =>
        have arrives :
            disk.Walks false left (there ++ [name]) []
              ⟨there ++ [name], disk.get? (there ++ [name])⟩ :=
          .arrived left (there ++ [name])
        rw [stands] at arrives
        exact .step (.down isOpen isPlain stands isLink) (Or.inl rfl) arrives

/-! ## Nothing, and no file -/

/-- Nothing stands where a path leads, not even a link. -/
def IsAbsent
    (disk : Disk)
    (workingDirectory : Location)
    (path : Path) :
    Prop :=
  ∀ found, disk.entryAt workingDirectory false path ≠ .ok found

/-- No file and no link stands where a path leads: it leads nowhere, or to a directory. -/
def LacksFile
    (disk : Disk)
    (workingDirectory : Location)
    (path : Path) :
    Prop :=
  ∀ location entry,
    disk.entryAt workingDirectory false path = .ok (location, entry) →
    entry.isDirectory = true

theorem IsAbsent.lacksFile
    (isAbsent : disk.IsAbsent workingDirectory path) :
    disk.LacksFile workingDirectory path :=
  fun _ _ finds => absurd finds (isAbsent _)

/-- A path without a file is told to lead to none. -/
theorem LacksFile.kind_ne
    {status : Status}
    (lacks : disk.LacksFile workingDirectory path)
    (isStatus : disk.status workingDirectory true path = .ok status) :
    status.kind ≠ .file := by
  rw [Disk.status] at isStatus
  cases finds : disk.entryAt workingDirectory true path with
  | error fault =>
      rw [finds] at isStatus
      cases isStatus
  | ok found =>
      obtain ⟨location, entry⟩ := found
      rw [finds] at isStatus
      obtain rfl := Except.ok.inj isStatus
      obtain ⟨place, itself, findsItself, isSame⟩ :=
        exists_entryAt_unfollowed finds
      have isDirectory := lacks place itself findsItself
      cases itself with
      | directory mode =>
          obtain rfl := isSame rfl
          simp [statusOf, kindOf]
      | file | link => simp [Entry.isDirectory] at isDirectory

/-- Nothing stands at a path after what stood there was removed. -/
theorem isAbsent_of_removeFile
    (removes : disk.removeFile workingDirectory path = .ok later) :
    later.IsAbsent workingDirectory path := by
  obtain ⟨location, entry, finds, -, rfl⟩ := removeFile_eq_ok removes
  rintro ⟨place, found⟩ findsLater
  -- What is left stood there before, so the path leads where it led, and that is gone.
  have findsBefore :=
    entryAt_mono findsLater fun _ _ => get?_of_get?_erase
  rw [finds, Except.ok.injEq, Prod.mk.injEq] at findsBefore
  obtain ⟨rfl, rfl⟩ := findsBefore
  have stands := get?_of_entryAt findsLater
  simp [get?_erase_self] at stands

/-- A path without a file still has none when entries are taken away. -/
theorem LacksFile.of_fewer
    (lacks : disk.LacksFile workingDirectory path)
    (isFewer :
      ∀ location entry,
        later.get? location = some entry →
        disk.get? location = some entry) :
    later.LacksFile workingDirectory path :=
  fun location entry finds =>
    lacks location entry (entryAt_mono finds isFewer)

/-- Where a path finds something by a name of its own, it found before what stood there, if only files come. -/
theorem entryAt_of_stays_unfollowed
    {location : Location}
    {entry : Entry}
    (isNames : path.names = before ++ [name])
    (notHere : name.isHere = false)
    (notUp : name.isUp = false)
    (stays : later.Stays disk)
    (finds :
      later.entryAt workingDirectory false path = .ok (location, entry)) :
    (∃ there, location = there ++ [name]) ∧
      ∀ old,
        disk.get? location = some old →
        disk.entryAt workingDirectory false path = .ok (location, old) := by
  obtain ⟨usable, left, there, leads, isOpen, rfl, -⟩ :=
    (entryAt_named_iff isNames notHere notUp).mp finds
  obtain ⟨mode, isThere⟩ := isOpen.hasDirectory
  have leadsBefore :=
    leads.of_stays stays ((stays _ _ isThere rfl).trans isThere.symm)
  refine ⟨⟨there, rfl⟩, ?_⟩
  intro old stood
  exact (entryAt_named_iff isNames notHere notUp).mpr
    ⟨usable, left, there, leadsBefore, isOpen.of_stays stays, rfl, stood⟩

/-- A path without a link has none as long as no directory and no link comes. -/
theorem LacksLink.of_stays
    (lacks : disk.LacksLink workingDirectory path)
    (isNames : path.names = before ++ [name])
    (notHere : name.isHere = false)
    (notUp : name.isUp = false)
    (stays : later.Stays disk) :
    later.LacksLink workingDirectory path := by
  intro location target finds
  obtain ⟨-, found⟩ :=
    entryAt_of_stays_unfollowed isNames notHere notUp stays finds
  exact lacks _ _ (found _ (stays _ _ (get?_of_entryAt finds) rfl))

/-- A path without a file has none as long as no directory, no link and no file of its name comes. -/
theorem LacksFile.of_stays
    (lacks : disk.LacksFile workingDirectory path)
    (isNames : path.names = before ++ [name])
    (notHere : name.isHere = false)
    (notUp : name.isUp = false)
    (stays : later.Stays disk)
    (wasFile :
      ∀ there file,
        later.get? (there ++ [name]) = some (.file file) →
        ∃ old, disk.get? (there ++ [name]) = some (.file old)) :
    later.LacksFile workingDirectory path := by
  intro location entry finds
  obtain ⟨⟨there, rfl⟩, found⟩ :=
    entryAt_of_stays_unfollowed isNames notHere notUp stays finds
  have stands := get?_of_entryAt finds
  cases entry with
  | directory => rfl
  | link target => exact lacks _ _ (found _ (stays _ _ stands rfl))
  | file file =>
      obtain ⟨old, stood⟩ := wasFile there file stands
      have isDirectory := lacks _ _ (found _ stood)
      simp [Entry.isDirectory] at isDirectory

/-! ## Files that are written elsewhere -/

/-- No directory and no link comes to a disk when a file changes. -/
theorem updateFile_stays
    (location : Location)
    (change : File → File) :
    (disk.updateFile location change).Stays disk := by
  intro place entry stands notFile
  rcases get?_updateFile disk location change place with
    isSame | ⟨file, -, isChanged⟩
  · exact isSame.symm.trans stands
  · obtain rfl := Option.some.inj (stands.symm.trans isChanged)
    simp [Entry.isFile] at notFile

/-- No directory and no link comes to a disk when a file is opened. -/
theorem openFile_stays
    {fresh : File}
    {change : File → File}
    (opens : disk.openFile workingDirectory path fresh change = .ok later) :
    later.Stays disk := by
  rcases openFile_eq_ok opens with
    ⟨location, -, rfl⟩ | ⟨location, _, -, rfl⟩
  · intro place entry stands notFile
    by_cases isHere : place = location
    · subst isHere
      rw [get?_set_self] at stands
      obtain rfl := Option.some.inj stands
      simp [Entry.isFile] at notFile
    · rwa [get?_set_of_ne disk _ isHere] at stands
  · exact updateFile_stays location change

/-- A file that is opened under a name of its own brings no file of another name. -/
theorem LacksFile.of_openFile
    {fresh : File}
    {change : File → File}
    (lacks : disk.LacksFile workingDirectory path)
    (isNames : path.names = before ++ [name])
    (notHere : name.isHere = false)
    (notUp : name.isUp = false)
    (isPlain : other.isPlain = true)
    (isOther : other ≠ name)
    (notLink : disk.LacksLink workingDirectory (directory.child other))
    (opens :
      disk.openFile workingDirectory (directory.child other) fresh change =
        .ok later) :
    later.LacksFile workingDirectory path := by
  refine lacks.of_stays isNames notHere notUp (openFile_stays opens) ?_
  intro there file stands
  rcases openFile_eq_ok opens with
    ⟨location, locates, rfl⟩ | ⟨location, _, -, rfl⟩
  · obtain ⟨_, place, -, -, isFound⟩ :=
      exists_of_locate_unlinked isPlain notLink locates
    obtain ⟨rfl, -⟩ := Found.mk.inj isFound
    have isElsewhere : there ++ [name] ≠ place ++ [other] := by
      intro isSame
      exact isOther (List.append_singleton_inj.mp isSame).2.symm
    exact ⟨file, by rwa [get?_set_of_ne disk _ isElsewhere] at stands⟩
  · rcases get?_updateFile disk location change (there ++ [name]) with
      isSame | ⟨old, stood, -⟩
    · exact ⟨file, isSame.symm.trans stands⟩
    · exact ⟨old, stood⟩

/-! ## Directories on the way -/

/-- A walk from a fresh directory that takes a name and never goes up finds nothing. -/
theorem IsFresh.not_walks
    {followLast : Bool}
    {links : Nat}
    {there location : Location}
    {names : List Name}
    {entry : Entry}
    (isFresh : disk.IsFresh there)
    (noUps : ∀ name ∈ names, name.isUp = false)
    (isNamed : ∃ name ∈ names, name.isHere = false) :
    ¬disk.Walks followLast links there names ⟨location, some entry⟩ := by
  intro walks
  induction names with
  | nil => simp at isNamed
  | cons first rest inductionHypothesis =>
      have isMissing : disk.get? (there ++ [first]) = none :=
        isFresh.2 [first] (List.cons_ne_nil first [])
      have goesOn
          (isHere : first.isHere = true)
          (later :
            disk.Walks followLast links there rest ⟨location, some entry⟩) :
          False := by
        refine inductionHypothesis
          (fun name member => noUps name (.tail _ member)) ?_ later
        obtain ⟨name, member, notHere⟩ := isNamed
        rcases List.mem_cons.mp member with rfl | inRest
        · simp [isHere] at notHere
        · exact ⟨name, inRest, notHere⟩
      cases walks with
      | link _ _ stands => simp [isMissing] at stands
      | step steps _ later =>
          cases steps with
          | empty _ isEmpty => exact goesOn (by simp [isEmpty, Name.isHere]) later
          | dot _ isDot => exact goesOn (by simp [isDot, Name.isHere]) later
          | up _ isUp =>
              have notUp := noUps first (.head _)
              simp [isUp, Name.isUp] at notUp
          | down _ _ stands | follow _ _ stands => simp [isMissing] at stands

/-- A path that goes on from a fresh directory finds nothing. -/
theorem IsFresh.isAbsent
    {left : Nat}
    {there : Location}
    {names : List Name}
    (isFresh : disk.IsFresh there)
    (leads : disk.LeadsTo workingDirectory directory left there)
    (isNames : path.names = directory.way ++ names)
    (isStart : path.start workingDirectory = directory.start workingDirectory)
    (noUps : ∀ name ∈ names, name.isUp = false)
    (isNamed : ∃ name ∈ names, name.isHere = false) :
    disk.IsAbsent workingDirectory path := by
  rintro ⟨location, entry⟩ finds
  obtain ⟨-, walks⟩ := locate_eq_ok_iff.mp (entryAt_eq_ok_iff.mp finds)
  have notEmpty : names.all (· = .text "") = false := by
    obtain ⟨name, member, notHere⟩ := isNamed
    rw [List.all_eq_false]
    refine ⟨name, member, ?_⟩
    rintro isEmpty
    simp [of_decide_eq_true isEmpty, Name.isHere] at notHere
  rw [isNames, isStart] at walks
  obtain ⟨_, place, leadsFirst, walksOn⟩ := leads_of_walks_append walks notEmpty
  obtain rfl := (leads.unique leadsFirst).2
  exact isFresh.not_walks noUps isNamed walksOn

/-- A path without a file has none when the directory that it goes on from is there, or is made. -/
theorem LacksFile.of_isNew
    {names : List Name}
    (lacks : disk.LacksFile workingDirectory path)
    (isNames : path.names = directory.way ++ names)
    (isStart : path.start workingDirectory = directory.start workingDirectory)
    (noUps : ∀ name ∈ names, name.isUp = false)
    (isNamed : ∃ name ∈ names, name.isHere = false)
    (isNew :
      later = disk ∨
        ∃ left there,
          later.LeadsTo workingDirectory directory left there ∧
            later.IsFresh there) :
    later.LacksFile workingDirectory path := by
  rcases isNew with rfl | ⟨left, there, leads, isFresh⟩
  · exact lacks
  · exact (isFresh.isAbsent leads isNames isStart noUps isNamed).lacksFile

end Disk

end Provision

namespace Provision

/-!
# Downloads that fail

A download that fails leaves its target as it was, or takes it away.  No file comes to a path of another name on
the way.
-/

open Plan

/-- Whatever a plan is asked, nothing is claimed of it. -/
theorem Plan.ensures_trivial
    {State α : Type}
    {step : Stepping State}
    (plan : Plan α)
    (state : State) :
    Ensures step (fun _ => True) (fun _ _ => True) plan state :=
  (AsksOnly.always plan).keeps (fun _ _ _ _ _ _ _ => trivial) state trivial

namespace Disk

/-- A file that is there can be removed, and a file is opened anew as a whole or not at all. -/
def RemovesFiles (workingDirectory : Location) :
    (action : Action) → Disk → action.Reply → Disk → Prop
  | .removeFile path, disk, reply, _ =>
      ∀ location entry,
        disk.entryAt workingDirectory false path = .ok (location, entry) →
        entry.isDirectory = false →
        reply = (.ok () : Except DiskFault Unit)
  | .writeFile _ [], disk, reply, after =>
      reply = (.ok () : Except DiskFault Unit) ∨ after = disk
  | _, _, _, _ => True

/-- How a disk answers on which files can be removed. -/
def AnswersRemoving
    (workingDirectory : Location)
    (children : Children) :
    Stepping Disk :=
  fun action disk reply after =>
    Answers workingDirectory children action disk reply after ∧
      RemovesFiles workingDirectory action disk reply after

end Disk

section

variable {workingDirectory : Location}
variable {children : Disk.Children}
variable {step : Stepping Disk}
variable {disk : Disk}
variable {path directory : Path}
variable
  (removing :
    ∀ action disk reply after,
      step action disk reply after →
      Disk.AnswersRemoving workingDirectory children action disk reply after)

include removing

/-- No file stays at a path where a file is discarded. -/
theorem Files.ensures_discardFile :
    Ensures step (fun _ => True)
      (fun _ last =>
        last.IsAbsent workingDirectory path ∨
          last = disk ∧ disk.LacksFile workingDirectory path)
      (Files.discardFile path) disk := by
  refine .bind (.ask fun reply after answered => ⟨trivial, ?_⟩)
  obtain ⟨answers, removes⟩ := removing _ _ _ _ answered
  have stays (fault : DiskFault)
      (isFault : reply = .error fault) :
      disk.LacksFile workingDirectory path := by
    intro location entry finds
    by_contra notDirectory
    have isOk := removes location entry finds (Bool.eq_false_iff.mpr notDirectory)
    rw [isFault] at isOk
    cases isOk
  cases answers with
  | done isDone => exact Or.inl (Disk.isAbsent_of_removeFile isDone)
  | refused | unchanged => exact Or.inr ⟨rfl, stays _ rfl⟩
  | brokenOff _ partly => exact partly.elim

namespace Download

/-- A body fills a file that is opened for it. -/
theorem ensures_fill
    (holds : Disk → Prop)
    {target : Path}
    (isHeld : holds disk)
    (keeps :
      ∀ bytes after,
        disk.appendFile workingDirectory target bytes = .ok after →
        holds after)
    (body : ResponseBody) :
    Ensures step (fun _ => True) (fun _ last => holds last)
      (fill target body) disk := by
  have appended (bytes : Bytes) (reply : Except DiskFault Unit) (after : Disk)
      (answered : step (.appendFile target bytes) disk reply after) :
      holds after := by
    cases (removing _ _ _ _ answered).1 with
    | done isDone => exact keeps _ _ isDone
    | refused | unchanged => exact isHeld
    | brokenOff _ partly =>
        obtain ⟨part, -, isPart⟩ := partly
        exact keeps _ _ isPart
  cases body with
  | whole bytes =>
      exact .bind (.ask fun _ _ answered => ⟨trivial, appended _ _ _ answered⟩)
  | broken received =>
      exact .bind (.ask fun _ _ answered => ⟨trivial, appended _ _ _ answered⟩)

/-- A request changes nothing, and a file that is opened for the answer has been opened or not. -/
theorem ensures_opened
    {url : String}
    {target : Path}
    {good : Unit → Disk → Prop}
    {bad : StorageFault → Disk → Prop}
    {next : Response → Storing Unit}
    (fails : ∀ fault, bad fault disk)
    (continues :
      ∀ response after,
        step (.writeFile target []) disk (.ok () : Except DiskFault Unit) after →
        disk.writeFile workingDirectory target [] = .ok after →
        Ensures step (fun _ => True) (ending good bad) (next response).run
          after) :
    Ensures step (fun _ => True) (ending good bad)
      (do
        let response ← request url
        Files.reporting target (Plan.ask (.writeFile target []))
        next response).run
      disk := by
  have requested :
      Ensures step (· = disk) (fun _ last => last = disk) (request url).run
        disk := by
    have asksOnly : (request url).run.AsksOnly (· = .fetch url) :=
      request_asksOnly (decide_eq_true rfl)
    refine asksOnly.keeps ?_ disk rfl
    rintro action state reply after isFetch answered rfl
    obtain rfl := of_decide_eq_true isFetch
    exact (removing _ _ _ _ answered).1
  refine .bindProcedure (requested.mono (fun _ _ => trivial) ?_)
  rintro (fault | response) _ rfl
  · exact fails fault
  refine .bindProcedure (.attempt (.ask fun reply after answered => ?_))
  refine ⟨trivial, ?_⟩
  obtain ⟨answers, isWhole⟩ := removing _ _ _ _ answered
  cases reply with
  | ok =>
      generalize isReply : (Except.ok () : Except DiskFault Unit) = reply at answers
      cases answers with
      | done isDone => exact continues response after answered isDone
      | refused | unchanged | brokenOff => cases isReply
  | error fault =>
      obtain rfl := isWhole.resolve_left (by simp)
      exact fails _

omit removing in
/-- What was opened as a file and is no file later is nothing, as no directory comes in its place. -/
theorem isAbsent_of_opened
    {later after : Disk}
    {target : Path}
    {fresh : File}
    {change : File → File}
    (opens :
      disk.openFile workingDirectory target fresh change = .ok after)
    (stays : later.Stays disk)
    (lacks : later.LacksFile workingDirectory target) :
    later.IsAbsent workingDirectory target := by
  rintro ⟨location, entry⟩ finds
  have isDirectory := lacks location entry finds
  cases entry with
  | file | link => simp [Entry.isDirectory] at isDirectory
  | directory mode =>
      have isSame : disk.get? location = later.get? location :=
        (stays _ _ (Disk.get?_of_entryAt finds) rfl).trans
          (Disk.get?_of_entryAt finds).symm
      have findsBefore :=
        Disk.entryAt_eq_ok_iff.mp
          (Disk.entryAt_of_stays (Disk.entryAt_followed finds rfl) stays isSame)
      rcases Disk.openFile_eq_ok opens with
        ⟨place, locates, -⟩ | ⟨place, file, locates, -⟩
      · rw [locates] at findsBefore
        simp at findsBefore
      · rw [locates] at findsBefore
        simp at findsBefore

/-- A download that fails leaves the disk as it was, or nothing at its target. -/
theorem ensures_toFile_of_error
    (url : String)
    (target : Path) :
    Ensures step (fun _ => True)
      (ending
        (fun _ _ => True)
        (fun _ last => last = disk ∨ last.IsAbsent workingDirectory target))
      (toFile url target).run disk := by
  refine ensures_opened removing (fun _ => Or.inl rfl) ?_
  intro response opened _ opens
  have stays : opened.Stays disk := Disk.openFile_stays opens
  have fills :
      Ensures step (fun _ => True) (fun _ filled => filled.Stays disk)
        (fill target response.body) opened := by
    refine ensures_fill removing (·.Stays disk) stays ?_ response.body
    intro bytes after appends location entry stands notFile
    exact stays location entry
      (Disk.openFile_stays appends location entry stands notFile) notFile
  refine .bindLift (fills.mono (fun _ => id) ?_)
  rintro (reason | value) filled filledStays
  · refine .bindLift ((Files.ensures_discardFile removing).mono
      (fun _ => id) ?_)
    rintro - last (isAbsent | ⟨rfl, lacks⟩)
    · exact Or.inr isAbsent
    · exact Or.inr (isAbsent_of_opened opens filledStays lacks)
  · trivial

/-- A download to a name of its own that is no link brings no file to a path of another name. -/
theorem ensures_toFile_lacks
    {url : String}
    {before : List Name}
    {name other : Name}
    (isNames : path.names = before ++ [name])
    (notHere : name.isHere = false)
    (notUp : name.isUp = false)
    (isPlain : other.isPlain = true)
    (isOther : other ≠ name)
    (isOwn :
      ∀ (disk : Disk) reply after,
        step (.writeFile (directory.child other) []) disk reply after →
        disk.LacksLink workingDirectory (directory.child other))
    (lacks : disk.LacksFile workingDirectory path) :
    Ensures step (fun _ => True)
      (ending
        (fun _ last => last.LacksFile workingDirectory path)
        (fun _ last => last.LacksFile workingDirectory path))
      (toFile url (directory.child other)).run disk := by
  obtain ⟨-, -, -, otherNotHere, otherNotUp, -⟩ :=
    Disk.not_special_of_isPlain isPlain
  refine ensures_opened removing (fun _ => lacks) ?_
  intro response opened answered opens
  have notLink := isOwn _ _ _ answered
  have fills :
      Ensures step (fun _ => True)
        (fun _ filled => filled.LacksFile workingDirectory path)
        (fill (directory.child other) response.body) opened := by
    have lacksOpened :=
      lacks.of_openFile isNames notHere notUp isPlain isOther notLink opens
    refine ensures_fill removing (·.LacksFile workingDirectory path)
      lacksOpened ?_ response.body
    intro bytes after appends
    refine lacksOpened.of_openFile isNames notHere notUp isPlain isOther ?_
      appends
    exact notLink.of_stays (Path.names_child directory other) otherNotHere
      otherNotUp (Disk.openFile_stays opens)
  refine .bindLift (fills.mono (fun _ => id) ?_)
  rintro (reason | value) filled lacksFilled
  · refine .bindLift (.bind (.ask fun reply last removed => ⟨trivial, ?_⟩))
    rcases (removing _ _ _ _ removed).1.removeFile_cases with
      rfl | ⟨-, removes⟩
    · exact lacksFilled
    · exact lacksFilled.of_fewer (Disk.get?_of_removeFile removes)
  · exact lacksFilled

end Download

end

end Provision
