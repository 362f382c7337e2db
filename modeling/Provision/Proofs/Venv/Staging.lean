import Provision.Proofs.Archive.Fencing
import Provision.Proofs.Node.Looking
import Provision.Venv.Uv

namespace Provision

/-!
# A tool that is staged

A release is downloaded and unpacked in a directory of its own, beside the tool that is there.  The old
tool goes only when the new one has been found.  What is left of a run that fails before is nothing, and
what is left of one that succeeds is the tool and the file that names its release.
-/

open Plan

/-- A text without slashes is the name of an entry. -/
theorem Path.div_eq_child
    (directory : Path)
    {text : String}
    (noSlash : '/' ∉ text.toList) :
    directory / text = directory.child (.text text) := by
  have isName : Path.ofString text = ⟨.text text, []⟩ := by
    simpa using Archive.ofString_of_not_mem noSlash
  exact congrArg directory.join isName

namespace Disk

variable {disk other common later after : Disk}
variable {workingDirectory place there : Location}
variable {directory path : Path}
variable {left : Nat}
variable {name : Name}

/-! ## Ways that two disks have in common -/

theorem Steps.isOpen_of_isPlain
    {links fewer : Nat}
    {here next : Location}
    {names : List Name}
    (steps : disk.Steps links here name fewer next names)
    (isPlain : name.isPlain = true) :
    disk.IsOpen here := by
  obtain ⟨notEmpty, -⟩ := not_special_of_isPlain isPlain
  cases steps with
  | empty _ isEmpty => exact absurd isEmpty notEmpty
  | dot isOpen | up isOpen | down isOpen | follow isOpen => exact isOpen

/-- A way to a directory does not start at a file. -/
theorem Leads.isFile_eq_false
    {links : Nat}
    {here : Location}
    {names : List Name}
    {entry : Entry}
    (leads : disk.Leads links here names left there)
    (isDirectory : disk.HasDirectory there)
    (stands : disk.get? here = some entry) :
    entry.isFile = false := by
  cases entry with
  | directory | link => rfl
  | file file =>
      obtain ⟨mode, stands'⟩ := isDirectory
      rw [leads.eq_of_file stands, stands] at stands'
      simp at stands'

/--
A way that leads to a directory on two disks leads to the same one, by the directories and links that both
of them have.
-/
theorem Leads.of_both
    {links left' : Nat}
    {here there' : Location}
    {names : List Name}
    (leads : disk.Leads links here names left there)
    (leads' : other.Leads links here names left' there')
    (isDirectory : disk.HasDirectory there)
    (isDirectory' : other.HasDirectory there')
    (areCommon :
      ∀ location entry entry',
        disk.get? location = some entry →
        other.get? location = some entry' →
        entry.isFile = false →
        entry'.isFile = false →
        entry' = entry ∧ common.get? location = some entry) :
    left' = left ∧ there' = there ∧
      common.Leads links here names left there := by
  induction leads generalizing left' there' with
  | arrived links here =>
      cases leads'
      exact ⟨rfl, rfl, .arrived _ _⟩
  | @step links fewer left here next there name names rest steps later
      inductionHypothesis =>
      cases leads' with
      | @step _ fewer' _ _ next' _ _ names' _ steps' later' =>
          have isCommonHere : common.get? here = disk.get? here := by
            obtain ⟨mode, stands⟩ := steps.hasDirectory
            obtain ⟨mode', stands'⟩ := steps'.hasDirectory
            obtain ⟨-, isCommon⟩ :=
              areCommon here _ _ stands stands' rfl rfl
            rw [isCommon, stands]
          suffices
              fewer' = fewer ∧ next' = next ∧ names' = names ∧
                common.Steps links here name fewer next names by
            obtain ⟨rfl, rfl, rfl, stepsCommon⟩ := this
            obtain ⟨rfl, rfl, leadsOn⟩ :=
              inductionHypothesis later' isDirectory isDirectory'
            exact ⟨rfl, rfl, .step stepsCommon leadsOn⟩
          have isOpen : disk.IsOpen here → common.IsOpen here := by
            rintro ⟨mode, stands, mayPass⟩
            exact ⟨mode, isCommonHere.trans stands, mayPass⟩
          cases isPlain : name.isPlain with
          | false =>
              obtain ⟨rfl, rfl, rfl⟩ := steps.eq_of_not_isPlain isPlain steps'
              refine ⟨rfl, rfl, rfl, ?_⟩
              cases steps with
              | empty isDirectory isEmpty =>
                  obtain ⟨mode, stands⟩ := isDirectory
                  exact .empty ⟨mode, isCommonHere.trans stands⟩ isEmpty
              | dot isOpenHere isDot => exact .dot (isOpen isOpenHere) isDot
              | up isOpenHere isUp => exact .up (isOpen isOpenHere) isUp
              | down _ isPlain' | follow _ isPlain' =>
                  rw [isPlain] at isPlain'
                  simp at isPlain'
          | true =>
              have isOpenHere := isOpen (steps.isOpen_of_isPlain isPlain)
              rcases steps.cases_of_isPlain isPlain with
                ⟨rfl, rfl, rfl, entry, stands, noLink⟩ |
                ⟨target, rfl, isFewer, rfl, stands⟩ <;>
              rcases steps'.cases_of_isPlain isPlain with
                ⟨rfl, rfl, rfl, entry', stands', noLink'⟩ |
                ⟨target', rfl, isFewer', rfl, stands'⟩
              · obtain ⟨-, isCommon⟩ :=
                  areCommon _ _ _ stands stands'
                    (later.isFile_eq_false isDirectory stands)
                    (later'.isFile_eq_false isDirectory' stands')
                exact ⟨rfl, rfl, rfl, .down isOpenHere isPlain isCommon noLink⟩
              · obtain ⟨rfl, -⟩ :=
                  areCommon _ _ _ stands stands'
                    (later.isFile_eq_false isDirectory stands) rfl
                simp [Entry.isLink] at noLink
              · obtain ⟨rfl, -⟩ :=
                  areCommon _ _ _ stands stands' rfl
                    (later'.isFile_eq_false isDirectory' stands')
                simp [Entry.isLink] at noLink'
              · obtain ⟨isSame, isCommon⟩ :=
                  areCommon _ _ _ stands stands' rfl rfl
                obtain rfl := Entry.link.inj isSame
                obtain rfl : fewer' = fewer := by omega
                subst isFewer
                exact ⟨rfl, rfl, rfl, .follow isOpenHere isPlain isCommon⟩

/-- What an entry of a directory leads to is that entry, if it is no link. -/
theorem eq_of_locate_unlinked
    {found : Found}
    (leads : disk.LeadsTo workingDirectory directory left there)
    (notHere : name.isHere = false)
    (notUp : name.isUp = false)
    (notLink : ∀ target, disk.get? (there ++ [name]) ≠ some (.link target))
    (locates :
      disk.locate workingDirectory true (directory.child name) = .ok found) :
    found.location = there ++ [name] := by
  obtain ⟨_, _, -, walks⟩ :=
    leadsTo_of_locate_child (Name.ne_empty notHere) locates
  have lacksLink :
      disk.LacksLink workingDirectory (directory.child name) := by
    intro location target finds
    obtain ⟨-, stands⟩ := get?_of_entryAt_child notHere notUp leads finds
    exact notLink target stands
  obtain ⟨_, _, leads', -, rfl⟩ :=
    exists_of_locate_unlinked (walks.isPlain notHere notUp) lacksLink locates
  rw [(leads.unique leads').2]

end Disk

section

variable {workingDirectory there : Location}
variable {children : Disk.Children}
variable {step : Stepping Disk}
variable {disk : Disk}
variable {directory : Path}
variable {left : Nat}
variable {name : Name}

/-- Whether an action looks, asks a server, or writes to a file or removes it. -/
def Action.IsOnFile (path : Path) : Action → Prop
  | .writeFile other _ | .appendFile other _ | .removeFile other => other = path
  | .fetch _ => True
  | action => action.looks = true

open Classical in
/-- A download to where nothing stands changes nothing else. -/
theorem Download.upholds_toFile
    (answersBy : Disk.AnswersBy workingDirectory children step)
    (tree : disk.IsTree)
    (leads : disk.LeadsTo workingDirectory directory left there)
    (notHere : name.isHere = false)
    (notUp : name.isUp = false)
    (isMissing : disk.get? (there ++ [name]) = none)
    (url : String) :
    Upholds step (fun last => disk.Fenced last (there ++ [name]))
      (fun _ last => disk.Fenced last (there ++ [name]))
      (toFile url (directory.child name)) disk := by
  have asksOnly :
      (toFile url (directory.child name)).run.AsksOnly fun action =>
        decide (action.IsOnFile (directory.child name)) := by
    refine toFile_asksOnly ?_ ?_ (fun bytes => ?_) ?_ <;>
      exact decide_eq_true (by simp [Action.IsOnFile])
  have keeps :
      Keeps step
        (fun later =>
          disk.Fenced later (there ++ [name]) ∧
            ∀ target, later.get? (there ++ [name]) ≠ some (.link target))
        (toFile url (directory.child name)).run := by
    refine asksOnly.keeps ?_
    rintro action later reply after isOnFile answered ⟨fenced, notLink⟩
    replace isOnFile := of_decide_eq_true isOnFile
    have answers := answersBy _ _ _ _ answered
    have leadsNow := leads.mono (fenced.within tree isMissing)
    have lands :
        later.Lands workingDirectory (there ++ [name]) true
          (directory.child name) := by
      intro found locates
      exact Disk.eq_of_locate_unlinked leadsNow notHere notUp notLink
        locates ▸ List.prefix_rfl
    have findsIn :
        later.FindsIn workingDirectory (there ++ [name]) false
          (directory.child name) := by
      intro location entry finds
      exact (Disk.get?_of_entryAt_child notHere notUp leadsNow finds).1 ▸
        List.prefix_rfl
    have reached
        (wears : action.wears = true)
        (lands :
          action.LandsIn later workingDirectory (there ++ [name])) :
        disk.Fenced after (there ++ [name]) ∧
          ∀ target, after.get? (there ++ [name]) ≠ some (.link target) := by
      refine ⟨answers.fenced lands fenced, fun target isLink => ?_⟩
      have isSame := (answers.wears wears (there ++ [name])).ne_link isLink
      exact notLink target (isSame.trans isLink)
    cases action with
    | writeFile other content | appendFile other content =>
        obtain rfl : other = directory.child name := isOnFile
        exact reached rfl lands
    | removeFile other =>
        obtain rfl : other = directory.child name := isOnFile
        exact reached rfl findsIn
    | fetch => exact reached rfl trivial
    | status | linkStatus | readFile | listDirectory | realPath | environment =>
        exact reached rfl rfl
    | _ => simp [Action.IsOnFile, Action.looks] at isOnFile
  have same := Disk.fenced_of_missing tree isMissing
  have ensures :=
    keeps disk ⟨same, fun target isLink => by
      rw [isMissing] at isLink
      simp at isLink⟩
  exact (ensures.upholds fun _ => And.left).mono fun _ _ => And.left

end

namespace UvTool

variable {workingDirectory place : Location}
variable {children : Disk.Children}
variable {step : Stepping Disk}
variable {made : Disk}
variable {staging : Path}
variable {left : Nat}
variable {archiveName : String}

/-- A text that names an entry of a directory. -/
structure Names (text : String) : Prop where
  noSlash : '/' ∉ text.toList
  notHere : (Name.text text).isHere = false
  notUp : (Name.text text).isUp = false

/-- A release is unpacked in its staging directory, which keeps it from the rest. -/
theorem upholds_unpack
    (answersBy : Disk.AnswersBy workingDirectory children step)
    (tellsLinks : Disk.TellsLinks workingDirectory step)
    (tree : made.IsTree)
    (leads : made.LeadsTo workingDirectory staging left place)
    (isFresh : made.IsFresh place)
    (isNamed : Names archiveName)
    (isOther : archiveName ≠ "extracted")
    (release : UvRelease)
    (programName : String) :
    Upholds step (fun last => made.Fenced last place)
      (fun _ last => made.Fenced last place)
      (unpack release archiveName programName staging) made := by
  have same : made.Fenced made place := .refl tree isFresh.separates
  have isInside (name : Name) : place <+: place ++ [name] :=
    List.prefix_append place [name]
  have isFree (name : Name) : made.get? (place ++ [name]) = none :=
    isFresh.2 [name] (List.cons_ne_nil _ _)
  have loads :=
    Download.upholds_toFile answersBy tree leads isNamed.notHere isNamed.notUp
      (isFree (.text archiveName)) (release.url archiveName)
  have isTarget :
      staging / "extracted" = staging.child (.text "extracted") :=
    staging.div_eq_child (by decide)
  unfold unpack
  dsimp only
  rw [staging.div_eq_child isNamed.noSlash, isTarget]
  refine ((loads.weaken fun _ => same.of_inner (isInside _)).adapt
    _).bind fun _ loaded isLoaded => ?_
  have isMissing : loaded.get? (place ++ [.text "extracted"]) = none := by
    rw [isLoaded.elsewhere, isFree]
    intro isPrefix
    have isSame := (List.prefix_append_right_inj _).mp isPrefix
    simp at isSame
    exact isOther isSame
  have fenced := same.of_inner (isInside _) isLoaded
  have extracts (archive : Path) :=
    Archive.upholds_extract answersBy tellsLinks isLoaded.isTree (by decide)
      (by decide) (leads.mono (isLoaded.within tree (isFree _)))
      (isLoaded.directories _ isFresh.1.hasDirectory) isMissing archive
  refine (((extracts _).weaken fun _ => fenced.of_inner (isInside _)).adapt
    _).bind fun root unpacked isUnpacked => ?_
  have isFenced := fenced.of_inner (isInside _) isUnpacked
  refine .bindLift ((Files.ensures_unchanged answersBy
    (Files.firstFile_asksOnly _)).mono ?_ ?_)
  · rintro _ rfl
    exact isFenced
  · rintro program _ rfl
    cases program with
    | some program => exact .pure isFenced
    | none => exact .throw isFenced

end UvTool

namespace Disk

variable {base disk later : Disk}
variable {workingDirectory place there : Location}
variable {directory : Path}
variable {left : Nat}
variable {name other : Name}
variable {files : List Location}

/-! ## A directory that is there for a while -/

/-- A disk is like another one, but for a directory with what it holds and for some files. -/
structure Stages
    (base disk : Disk)
    (place : Location)
    (files : List Location) :
    Prop where
  isThere : disk.HasDirectory place
  areFiles :
    ∀ location ∈ files,
      ¬place <+: location ∧
        ∃ file, disk.get? location = some (.file file)
  elsewhere :
    ∀ location,
      ¬place <+: location →
      location ∉ files →
      disk.get? location = base.get? location

theorem Stages.of_fenced
    (fenced : base.Fenced disk place)
    (isThere : disk.HasDirectory place) :
    base.Stages disk place [] where
  isThere := isThere
  areFiles := by simp
  elsewhere := fun location isOutside _ => fenced.elsewhere location isOutside

/-- Where two disks have a directory or a link, they have the same one. -/
theorem Stages.eq_of_both
    {location : Location}
    {entry entry' : Entry}
    (stages : base.Stages disk place files)
    (tree : base.IsTree)
    (isMissing : base.get? place = none)
    (stands : base.get? location = some entry)
    (stands' : disk.get? location = some entry')
    (noFile : entry'.isFile = false) :
    ¬place <+: location ∧ entry' = entry := by
  have isOutside : ¬place <+: location := by
    rintro ⟨below, rfl⟩
    rw [tree.missing_below isMissing below] at stands
    simp at stands
  have notFile : location ∉ files := by
    intro member
    obtain ⟨-, file, isFile⟩ := stages.areFiles location member
    obtain rfl := Option.some.inj (stands'.symm.trans isFile)
    simp [Entry.isFile] at noFile
  rw [stages.elsewhere location isOutside notFile, stands] at stands'
  exact ⟨isOutside, (Option.some.inj stands').symm⟩

section

variable (stages : base.Stages disk (there ++ [name]) files)
variable (tree : base.IsTree)
variable (leads : base.LeadsTo workingDirectory directory left there)
variable (isDirectory : base.HasDirectory there)
variable (isMissing : base.get? (there ++ [name]) = none)
variable (notHere : name.isHere = false)
variable (notUp : name.isUp = false)

include stages tree leads isDirectory isMissing

/-- What the path of the directory around leads to is the same as before. -/
theorem Stages.eq_of_leadsTo
    {left' : Nat}
    {there' : Location}
    (leads' : disk.LeadsTo workingDirectory directory left' there')
    (isDirectory' : disk.HasDirectory there') :
    left' = left ∧ there' = there := by
  obtain ⟨isLeft, isThere, -⟩ :=
    Leads.of_both leads leads' isDirectory isDirectory'
      fun location entry entry' stands stands' _ noFile' =>
        ⟨(stages.eq_of_both tree isMissing stands stands' noFile').2, stands⟩
  exact ⟨isLeft, isThere⟩

include notHere notUp

/-- A file that is removed from the directory leaves the directory. -/
theorem Stages.of_removeFile
    {children : Children}
    {reply : Except DiskFault Unit}
    (otherNotHere : other.isHere = false)
    (otherNotUp : other.isUp = false)
    (answers :
      Answers workingDirectory children
        (.removeFile ((directory.child name).child other)) disk reply later) :
    base.Stages later (there ++ [name]) files ∧
      ∀ location,
        ¬there ++ [name] <+: location →
        later.get? location = disk.get? location := by
  rcases answers.removeFile_cases with rfl | ⟨-, removes⟩
  · exact ⟨stages, fun _ _ => rfl⟩
  · obtain ⟨location, entry, finds, notDirectory, rfl⟩ :=
      removeFile_eq_ok removes
    obtain ⟨_, inside, leadsInside, -, isFound⟩ :=
      exists_of_locate_child otherNotHere otherNotUp
        (entryAt_eq_ok_iff.mp finds)
    obtain ⟨rfl, -⟩ := Found.mk.inj isFound
    have isInside : inside = there ++ [name] := by
      obtain ⟨middle, between, leadsTo, leadsOn⟩ :=
        (leadsTo_child_iff (Name.ne_empty notHere)).mp leadsInside
      have isBetween : disk.HasDirectory between := by
        cases leadsOn with
        | step steps => exact steps.hasDirectory
      obtain ⟨rfl, rfl⟩ :=
        stages.eq_of_leadsTo tree leads isDirectory isMissing leadsTo isBetween
      obtain ⟨found, stands, isPlace⟩ :=
        leadsTo.entry_of_child notHere notUp leadsInside
      obtain ⟨mode, isThere⟩ := stages.isThere
      obtain rfl := Option.some.inj (isThere.symm.trans stands)
      exact isPlace rfl
    subst isInside
    have isSame (location : Location) :
        location ≠ there ++ [name] ++ [other] →
        (disk.erase (there ++ [name] ++ [other])).get? location =
          disk.get? location :=
      get?_erase_of_ne disk
    have outside (location : Location) :
        ¬there ++ [name] <+: location →
        (disk.erase (there ++ [name] ++ [other])).get? location =
          disk.get? location := by
      intro isOutside
      apply isSame
      rintro rfl
      exact isOutside (List.prefix_append _ _)
    refine ⟨⟨?_, ?_, ?_⟩, outside⟩
    · obtain ⟨mode, isThere⟩ := stages.isThere
      exact ⟨mode, (isSame _ (by simp)).trans isThere⟩
    · intro location isFile
      obtain ⟨isOutside, file, stands⟩ := stages.areFiles location isFile
      exact ⟨isOutside, file, (outside location isOutside).trans stands⟩
    · intro location isOutside notFile
      exact (outside location isOutside).trans
        (stages.elsewhere location isOutside notFile)

/-- When the directory is removed, it goes with all that it held, and nothing else goes. -/
theorem Stages.of_removeTree
    (removes :
      disk.removeTree workingDirectory (directory.child name) = .ok later) :
    (∀ location,
        later.get? location =
          if there ++ [name] <+: location then none
          else disk.get? location) ∧
      later.LeadsTo workingDirectory directory left there ∧
        later.IsOpen there := by
  have isFound
      {location : Location}
      {entry : Entry}
      (finds :
        disk.entryAt workingDirectory false (directory.child name) =
          .ok (location, entry)) :
      location = there ++ [name] ∧ disk.IsOpen there ∧
        ∃ left there', disk.LeadsTo workingDirectory directory left there' ∧
          disk.HasDirectory there' := by
    obtain ⟨left', there', leads', isOpen, isPlace⟩ :=
      exists_of_locate_child notHere notUp (entryAt_eq_ok_iff.mp finds)
    obtain ⟨rfl, rfl⟩ :=
      stages.eq_of_leadsTo tree leads isDirectory isMissing leads'
        isOpen.hasDirectory
    obtain ⟨rfl, -⟩ := Found.mk.inj isPlace
    exact ⟨rfl, isOpen, _, _, leads', isOpen.hasDirectory⟩
  obtain ⟨location, ⟨mode, finds, isCleared⟩ | ⟨target, finds, -⟩⟩ :=
    removeTree_eq_ok removes
  · obtain ⟨rfl, isOpen, left', there', leads', isDirectory'⟩ := isFound finds
    have isCleared (location : Location) :
        later.get? location =
          if there ++ [name] <+: location then none
          else disk.get? location := by
      simpa using isCleared location
    have outside (location : Location) :
        ¬there ++ [name] <+: location →
        later.get? location = disk.get? location := by
      intro isOutside
      rw [isCleared, if_neg isOutside]
    refine ⟨isCleared, ?_, ?_⟩
    · refine (Leads.of_both leads leads' isDirectory isDirectory' ?_).2.2
      intro location entry entry' stands stands' _ noFile'
      obtain ⟨isOutside, rfl⟩ :=
        stages.eq_of_both tree isMissing stands stands' noFile'
      exact ⟨rfl, (outside location isOutside).trans stands'⟩
    · obtain ⟨bits, stands, mayPass⟩ := isOpen
      refine ⟨bits, (outside there ?_).trans stands, mayPass⟩
      intro isPrefix
      have isLonger := isPrefix.length_le
      simp only [List.length_append, List.length_singleton] at isLonger
      omega
  · -- What stands there is a directory, and so no link.
    obtain ⟨rfl, -⟩ := isFound finds
    obtain ⟨mode, isThere⟩ := stages.isThere
    rw [get?_of_entryAt finds] at isThere
    simp at isThere

end

end Disk

namespace Disk

variable {disk later last : Disk}
variable {workingDirectory place there origin : Location}
variable {directory path : Path}
variable {left : Nat}
variable {name : Name}
variable {file : File}

/-! ## A file that is put in place of another one -/

/-- An entry of a directory that is no directory is gone, and nothing else has changed. -/
structure Clears
    (disk later : Disk)
    (workingDirectory : Location)
    (directory : Path)
    (left : Nat)
    (there : Location)
    (name : Name) :
    Prop where
  isTree : later.IsTree
  leads : later.LeadsTo workingDirectory directory left there
  isOpen : later.IsOpen there
  wasNone : ¬disk.HasDirectory (there ++ [name])
  get?_eq :
    ∀ location,
      later.get? location =
        if location = there ++ [name] then none else disk.get? location

/-- An entry that was removed, or was not there, is gone, as long as its directory can be looked up. -/
theorem clears_of_removeFile
    {step : Stepping Disk}
    {children : Children}
    {found : Found}
    (answersBy : AnswersBy workingDirectory children step)
    (tree : disk.IsTree)
    (leads : disk.LeadsTo workingDirectory directory left there)
    (notHere : name.isHere = false)
    (notUp : name.isUp = false)
    (ends :
      Ends step (Files.removeFile (directory.child name)).run disk (.ok ())
        later)
    (locates :
      later.locate workingDirectory false (directory.child name) =
        .ok found) :
    found = ⟨there ++ [name], none⟩ ∧
      disk.Clears later workingDirectory directory left there name := by
  obtain ⟨left', there', leads', isOpen, rfl⟩ :=
    exists_of_locate_child notHere notUp locates
  suffices
      ¬disk.HasDirectory (there ++ [name]) ∧
        ∀ location,
          later.get? location =
            if location = there ++ [name] then none
            else disk.get? location by
    obtain ⟨wasNone, get?_eq⟩ := this
    have within : later.Within disk := by
      intro location entry stands
      rw [get?_eq] at stands
      split at stands
      · simp at stands
      · exact stands
    obtain ⟨rfl, rfl⟩ := leads.unique (leads'.mono within)
    refine ⟨by rw [get?_eq, if_pos rfl], ?_, leads', isOpen, wasNone, get?_eq⟩
    refine tree.of_new ?_ ?_
    · rintro location ⟨mode, stands⟩
      refine ⟨mode, ?_⟩
      rw [get?_eq, if_neg, stands]
      rintro rfl
      exact wasNone ⟨mode, stands⟩
    · intro location entry stands wasMissing
      rw [within location entry stands] at wasMissing
      simp at wasMissing
  obtain ⟨reply, asked, isMissing⟩ :=
    (ends_attempt_iff.mp ends).of_forgiveMissing
  have answers := answersBy _ _ _ _ (ends_ask_iff.mp asked)
  cases answers with
  | done removes =>
      obtain ⟨location, entry, finds, notDirectory, rfl⟩ :=
        removeFile_eq_ok removes
      obtain ⟨rfl, stands⟩ := get?_of_entryAt_child notHere notUp leads finds
      refine ⟨?_, fun location => ?_⟩
      · rintro ⟨mode, isDirectory⟩
        obtain rfl := Option.some.inj (stands.symm.trans isDirectory)
        simp [Entry.isDirectory] at notDirectory
      · split
        · rename_i isSame
          rw [isSame, get?_erase_self]
        · rename_i isOther
          exact get?_erase_of_ne disk isOther
  | refused isRefused =>
      -- Nothing stands there, or it would have been found.
      have notFound :=
        entryAt_of_removeFile_missing isRefused (isMissing _ rfl)
      rw [(leads.unique leads').2] at locates
      have isNone : disk.get? (there ++ [name]) = none := by
        cases stands : disk.get? (there ++ [name]) with
        | none => rfl
        | some entry =>
            rw [stands] at locates
            rw [entryAt_eq_ok_iff.mpr locates] at notFound
            simp at notFound
      refine ⟨?_, fun location => ?_⟩
      · rintro ⟨mode, isDirectory⟩
        rw [isNone] at isDirectory
        simp at isDirectory
      · split
        · rename_i isSame
          rw [isSame, isNone]
        · rfl
  | unchanged notMissing =>
      rw [isMissing _ rfl] at notMissing
      simp at notMissing
  | brokenOff _ partly => exact partly.elim

section

variable {source : Path}
variable (tree : disk.IsTree)
variable
  (finds :
    disk.entryAt workingDirectory false source = .ok (origin, .file file))
variable
  (locates : disk.locate workingDirectory false path = .ok ⟨place, none⟩)
variable (renames : disk.rename workingDirectory source path = .ok later)

include tree finds locates renames

/-- A file that is renamed to where nothing stands is found there, and nothing else has changed. -/
theorem get?_of_rename (location : Location) :
    later.get? location =
      if location = place then some (.file file)
      else if location = origin then none
      else disk.get? location := by
  obtain ⟨origin', entry, goal, existing?, finds', locates', isMoved⟩ :=
    rename_eq_ok renames
  obtain ⟨rfl, rfl⟩ := Prod.mk.inj (Except.ok.inj (finds.symm.trans finds'))
  obtain ⟨rfl, rfl⟩ :=
    Found.mk.inj (Except.ok.inj (locates.symm.trans locates'))
  have stands := get?_of_entryAt finds
  have isMissing := get?_of_locate locates
  have notPlace : origin ≠ place := by
    rintro rfl
    rw [stands] at isMissing
    simp at isMissing
  have notDirectory (location : Location) :
      (location = origin ∨ location = place) →
      ¬disk.HasDirectory location := by
    rintro (rfl | rfl) ⟨mode, isDirectory⟩
    · rw [stands] at isDirectory
      simp at isDirectory
    · rw [isMissing] at isDirectory
      simp at isDirectory
  have nothingBelow (above location : Location) :
      (above = origin ∨ above = place) →
      above <+: location →
      above ≠ location →
      disk.get? location = none :=
    fun isEither => tree.get?_eq_none (notDirectory above isEither)
  rcases isMoved with ⟨-, isSame | isThere⟩ | ⟨notBelow, rfl⟩
  · exact absurd isSame notPlace
  · simp at isThere
  · have notAbove : ¬place <+: origin := by
      intro isPrefix
      rw [nothingBelow place origin (Or.inr rfl) isPrefix notPlace.symm]
        at stands
      simp at stands
    rw [get?_moveTree, get?_eraseTree]
    simp only [List.isPrefixOf_iff_prefix]
    by_cases isPlace : location = place
    · subst isPlace
      simpa [notAbove] using stands
    · rw [if_neg isPlace]
      by_cases isBelow : place <+: location
      · -- Nothing is below a place where nothing is, nor below a file.
        obtain ⟨rest, rfl⟩ := isBelow
        have notNil : rest ≠ [] := by
          rintro rfl
          simp at isPlace
        rw [if_pos (List.prefix_append _ _), List.drop_left,
          nothingBelow origin _ (Or.inl rfl) (List.prefix_append _ _)
            (by simpa using notNil),
          nothingBelow place _ (Or.inr rfl) (List.prefix_append _ _)
            (by simpa using notNil)]
        simp
      · rw [if_neg isBelow]
        by_cases isOrigin : location = origin
        · simp [isOrigin]
        · rw [if_neg isOrigin]
          split
          · rename_i isBelow
            exact (nothingBelow origin _ (Or.inl rfl) isBelow
              (Ne.symm isOrigin)).symm
          · rfl

/-- What is no file stays where a file is renamed to where nothing stands. -/
theorem stays_of_rename : disk.Stays later := by
  intro location entry stood noFile
  rw [get?_of_rename tree finds locates renames, if_neg, if_neg, stood]
  · rintro rfl
    rw [get?_of_entryAt finds] at stood
    obtain rfl := Option.some.inj stood
    simp [Entry.isFile] at noFile
  · rintro rfl
    rw [get?_of_locate locates] at stood
    simp at stood

theorem IsTree.rename_file : later.IsTree := by
  obtain ⟨⟨above, name, isPlace, isOpen, isPlain⟩, -⟩ :=
    leadsTo_of_locate_none tree locates 0
  refine tree.of_new ?_ ?_
  · rintro location ⟨mode, stood⟩
    exact ⟨mode, stays_of_rename tree finds locates renames _ _ stood rfl⟩
  · intro location entry stands wasMissing
    rw [get?_of_rename tree finds locates renames] at stands
    split at stands
    · rename_i isSame
      exact ⟨above, name, isSame.trans isPlace, isOpen.hasDirectory, isPlain⟩
    · split at stands
      · simp at stands
      · rw [wasMissing] at stands
        simp at stands

end

/-- Other permission bits of a file that a path finds are a change of that file. -/
theorem exists_updateFile_of_changeMode
    {mode : Nat}
    (finds :
      disk.entryAt workingDirectory true path = .ok (place, .file file))
    (changes : disk.changeMode workingDirectory path mode = .ok later) :
    ∃ change, later = disk.updateFile place change := by
  rcases changeMode_eq_ok changes with
    ⟨_, _, finds', -⟩ | ⟨_, _, finds', rfl⟩
  · have isFile := Except.ok.inj (finds.symm.trans finds')
    simp at isFile
  · obtain ⟨rfl, -⟩ := Prod.mk.inj (Except.ok.inj (finds.symm.trans finds'))
    exact ⟨_, rfl⟩

/-- Only regular files are renamed, and none of them was there at the start. -/
def RenamesNew
    (start : Disk)
    (workingDirectory : Location)
    (step : Stepping Disk) :
    Prop :=
  ∀ (source target : Path) (disk : Disk) reply after,
    step (.rename source target) disk reply after →
    ∃ origin file,
      disk.entryAt workingDirectory false source =
          .ok (origin, .file file) ∧
        start.get? origin = none

section

variable {start base : Disk}
variable {children : Children}
variable {step : Stepping Disk}

/-- What came to a disk on the way to a directory is no file. -/
theorem GainsWay.ne_file
    (gains : start.GainsWay base workingDirectory path)
    (isNew : start.get? place = none)
    (file : File) :
    base.get? place ≠ some (.file file) := by
  intro isFile
  rcases gains place with isSame | ⟨-, ⟨mode, isDirectory⟩, -⟩
  · rw [← isSame, isFile] at isNew
    simp at isNew
  · rw [isFile] at isDirectory
    simp at isDirectory

/-- A file that has no name in common with another one can change without it. -/
theorem get?_updateFile_of_unshared
    (stands : disk.get? place = some (.file file))
    (isOther : origin ≠ place)
    (isUnshared :
      ∀ other group,
        disk.get? origin = some (.file other) →
        file.group = some group →
        other.group ≠ some group)
    (change : File → File) :
    (disk.updateFile place change).get? origin = disk.get? origin := by
  cases isGroup : file.group with
  | none => exact get?_updateFile_of_ne stands isGroup change isOther
  | some group =>
      rw [get?_updateFile_of_group stands isGroup change]
      cases found : disk.get? origin with
      | none => rfl
      | some entry =>
          cases entry with
          | directory | link => rfl
          | file other =>
              have notSame := isUnshared other group found isGroup
              simp [changedIn, notSame]

/-- A new file has come to an entry of a directory, and what changed besides is staged elsewhere. -/
structure Receives
    (disk later : Disk)
    (workingDirectory : Location)
    (directory : Path)
    (left : Nat)
    (there place : Location)
    (name : Name) :
    Prop where
  isTree : later.IsTree
  leads : later.LeadsTo workingDirectory directory left there
  isOpen : later.IsOpen there
  isUsable : (directory.child name).isUsable = true
  isThere : later.HasDirectory place
  stands : ∃ file, later.get? (there ++ [name]) = some (.file file)
  isSame :
    ∀ location,
      ¬place <+: location →
      location ≠ there ++ [name] →
      later.get? location = disk.get? location

/--
An old file gives way to one that was not there before, which can then be executed.  The new one comes from
the directory where it was staged, and no file elsewhere is the same.
-/
theorem receives_of_exchange
    {cleared moved changed : Disk}
    {source : Path}
    (answersBy : AnswersBy workingDirectory children step)
    (gains : start.GainsWay base workingDirectory path)
    (fenced : base.Fenced disk place)
    (isThere : disk.HasDirectory place)
    (isApart : ¬place <+: there ++ [name])
    (leads : disk.LeadsTo workingDirectory directory left there)
    (notHere : name.isHere = false)
    (notUp : name.isUp = false)
    (removes :
      Ends step (Files.removeFile (directory.child name)).run disk (.ok ())
        cleared)
    (isNew :
      ∃ origin file,
        cleared.entryAt workingDirectory false source =
            .ok (origin, .file file) ∧
          start.get? origin = none)
    (renames :
      cleared.rename workingDirectory source (directory.child name) =
        .ok moved)
    (changes :
      moved.changeMode workingDirectory (directory.child name) 0o744 =
        .ok changed) :
    disk.Receives changed workingDirectory directory left there place name := by
  obtain ⟨_, _, goal, existing?, -, locates, -⟩ := rename_eq_ok renames
  obtain ⟨isGoal, clears⟩ :=
    clears_of_removeFile answersBy fenced.isTree leads notHere notUp removes
      locates
  obtain ⟨rfl, rfl⟩ := Found.mk.inj isGoal
  obtain ⟨origin, file, finds, isNew⟩ := isNew
  have isMoved := get?_of_rename clears.isTree finds locates renames
  have notGoal : origin ≠ there ++ [name] := by
    rintro rfl
    have stands := get?_of_entryAt finds
    rw [clears.get?_eq, if_pos rfl] at stands
    simp at stands
  have wasThere : disk.get? origin = some (.file file) := by
    have stands := get?_of_entryAt finds
    rwa [clears.get?_eq, if_neg notGoal] at stands
  have isInside : place <+: origin := by
    by_contra isOutside
    rw [fenced.elsewhere origin isOutside] at wasThere
    exact gains.ne_file isNew file wasThere
  have isSame (location : Location) :
      location ≠ there ++ [name] →
      location ≠ origin →
      moved.get? location = disk.get? location := by
    intro notGoal notOrigin
    rw [isMoved, if_neg notGoal, if_neg notOrigin, clears.get?_eq,
      if_neg notGoal]
  have stands : moved.get? (there ++ [name]) = some (.file file) := by
    rw [isMoved, if_pos rfl]
  have stays := stays_of_rename clears.isTree finds locates renames
  have movedTree := clears.isTree.rename_file finds locates renames
  have isUsable := (locate_eq_ok_iff.mp locates).1
  obtain ⟨_, _, -, walks⟩ :=
    leadsTo_of_locate_child (Name.ne_empty notHere) locates
  have isPlain := walks.isPlain notHere notUp
  have movedLeads :=
    clears.leads.of_stays clears.isOpen.hasDirectory stays
  have movedOpen := clears.isOpen.of_stays stays
  have findsMoved :=
    entryAt_child_of_file isUsable isPlain movedLeads movedOpen stands
  obtain ⟨change, rfl⟩ := exists_updateFile_of_changeMode findsMoved changes
  have staysChanged := stays_updateFile moved (there ++ [name]) change
  refine ⟨movedTree.updateFile _ _, movedLeads.of_stays movedOpen.hasDirectory
    staysChanged, movedOpen.of_stays staysChanged, isUsable, ?_,
    ⟨_, get?_updateFile_self stands change⟩, ?_⟩
  · obtain ⟨mode, stood⟩ := isThere
    refine ⟨mode, staysChanged _ _ ?_ rfl⟩
    rw [isSame, stood]
    · rintro rfl
      exact isApart List.prefix_rfl
    · rintro rfl
      rw [wasThere] at stood
      simp at stood
  · intro location isOutside notGoal
    have notOrigin : location ≠ origin := by
      rintro rfl
      exact isOutside isInside
    rw [← isSame location notGoal notOrigin]
    refine get?_updateFile_of_unshared stands notGoal ?_ change
    intro other group found isGroup isGroup'
    rw [isSame location notGoal notOrigin] at found
    exact isOutside
      (fenced.separates origin location file other group isInside wasThere
        found isGroup isGroup')

/-- The file beside it that is written next comes to its place, and nothing else has changed. -/
theorem puts_of_writeText
    {changed last : Disk}
    {mark : Name}
    {text : String}
    (answersBy : AnswersBy workingDirectory children step)
    (gains : start.GainsWay base workingDirectory path)
    (fenced : base.Fenced disk place)
    (receives :
      disk.Receives changed workingDirectory directory left there place name)
    (notHere : mark.isHere = false)
    (notUp : mark.isUp = false)
    (renamesNew : Disk.RenamesNew start workingDirectory step)
    (isApart :
      ∀ processId,
        ¬place <+:
              there ++
                [.text
                  (Files.temporaryName (directory.child mark) processId)] ∧
          .text (Files.temporaryName (directory.child mark) processId) ≠ name)
    (ends :
      Ends step (Files.writeText (directory.child mark) text).run changed
        (.ok ()) last) :
    (directory.child mark).isUsable = true ∧
      changed.PutsFile last (there ++ [mark])
        { mode := 0o644, content := Text.Utf8.ofString text } := by
  have isDirectory := receives.isOpen.hasDirectory
  obtain ⟨processId, temporary, parent, _, written, rfl, -, ledTo, isFilled,
    moves⟩ :=
    Files.exists_of_writeAtomically answersBy notHere notUp receives.leads
      isDirectory ends
  obtain ⟨isOther, tempNotHere, tempNotUp⟩ :=
    Files.temporaryName_isOther directory notHere notUp processId
  obtain ⟨isOutside, notName⟩ := isApart processId
  obtain ⟨origin, file, finds, isNew⟩ := renamesNew _ _ _ _ _ moves
  generalize Name.text (Files.temporaryName (directory.child mark) processId) =
    temporary at *
  have staysWritten : changed.Stays written := by
    rw [writeFile] at isFilled
    exact stays_openFile isFilled
  obtain ⟨rfl, stands⟩ :=
    get?_of_entryAt_child tempNotHere tempNotUp
      (ledTo.of_stays isDirectory staysWritten) finds
  have isFree (location : Location) (entry : Entry) :
      changed.entryAt workingDirectory false (parent.child temporary) =
        .ok (location, entry) →
      entry.isDirectory = true := by
    intro found
    obtain ⟨rfl, stood⟩ :=
      get?_of_entryAt_child tempNotHere tempNotUp ledTo found
    cases entry with
    | directory => rfl
    | link target =>
        -- A link would still be there.
        rw [staysWritten _ _ stood rfl] at stands
        simp at stands
    | file old =>
        -- A file would have been there from the start.
        rw [receives.isSame _ isOutside (by simpa using notName),
          fenced.elsewhere _ isOutside] at stood
        exact absurd stood (gains.ne_file isNew old)
  obtain ⟨isPlain, gainsFile⟩ :=
    gainsFile_of_openFile ledTo tempNotHere tempNotUp isFree isFilled
  cases answersBy _ _ _ _ moves with
  | done isMoved =>
      obtain ⟨_, _, _, _, -, locates, -⟩ := rename_eq_ok isMoved
      obtain ⟨puts, -⟩ :=
        gainsFile.putsFile_of_rename rfl receives.isTree receives.leads ledTo
          isPlain isOther notHere notUp isMoved
      exact ⟨(locate_eq_ok_iff.mp locates).1, puts⟩

end

end Disk

namespace UvTool

variable {workingDirectory there : Location}
variable {children : Disk.Children}
variable {step : Stepping Disk}
variable {start base disk last : Disk}
variable {directory path unpacked : Path}
variable {left : Nat}
variable {name program mark : Name}

/-- A tool that has been put in place is there with its mark, and what was staged may be there still. -/
structure Settles
    (base last : Disk)
    (directory : Path)
    (there : Location)
    (name program mark : Name)
    (release : UvRelease) :
    Prop where
  stages :
    base.Stages last (there ++ [name]) [there ++ [program], there ++ [mark]]
  programUsable : (directory.child program).isUsable = true
  markUsable : (directory.child mark).isUsable = true
  marks :
    last.get? (there ++ [mark]) =
      some (.file
        { mode := 0o644, content := Text.Utf8.ofString release.tag })

theorem settles_of_settle
    {release : UvRelease}
    (answersBy : Disk.AnswersBy workingDirectory children step)
    (renamesNew : Disk.RenamesNew start workingDirectory step)
    (gains : start.GainsWay base workingDirectory path)
    (fenced : base.Fenced disk (there ++ [name]))
    (isThere : disk.HasDirectory (there ++ [name]))
    (leads : disk.LeadsTo workingDirectory directory left there)
    (programNamed : program.isHere = false ∧ program.isUp = false)
    (markNamed : mark.isHere = false ∧ mark.isUp = false)
    (areOther : [name, program, mark].Nodup)
    (areApart :
      ∀ processId,
        .text (Files.temporaryName (directory.child mark) processId) ∉
          [name, program])
    (ends :
      Ends step
        (settle release unpacked (directory.child program)
          (directory.child mark)).run
        disk (.ok ()) last) :
    Settles base last directory there name program mark release := by
  have isApart {other : Name} (isOther : other ≠ name) :
      ¬there ++ [name] <+: there ++ [other] := by
    rw [List.prefix_append_right_inj]
    simpa using isOther.symm
  simp only [List.nodup_cons, List.mem_cons, List.not_mem_nil, or_false,
    not_or] at areOther areApart
  obtain ⟨⟨notProgram, notMark⟩, programNotMark, -⟩ := areOther
  unfold settle at ends
  obtain ⟨_, cleared, removes, ends⟩ := ends_bindProcedure_iff.mp ends
  obtain ⟨_, moved, moves, ends⟩ := ends_bindProcedure_iff.mp ends
  obtain ⟨_, changed, changes, writes⟩ := ends_bindProcedure_iff.mp ends
  have moves := ends_ask_iff.mp (ends_attempt_iff.mp moves)
  have changes :=
    answersBy _ _ _ _ (ends_ask_iff.mp (ends_attempt_iff.mp changes))
  cases answersBy _ _ _ _ moves with
  | done isMoved =>
  cases changes with
  | done isChanged =>
  have receives :=
    Disk.receives_of_exchange answersBy gains fenced isThere
      (isApart (Ne.symm notProgram)) leads programNamed.1 programNamed.2 removes
      (renamesNew _ _ _ _ _ moves) isMoved isChanged
  obtain ⟨markUsable, puts⟩ :=
    Disk.puts_of_writeText answersBy gains fenced receives markNamed.1
      markNamed.2 renamesNew
      (fun processId =>
        ⟨isApart (areApart processId).1, (areApart processId).2⟩)
      writes
  refine ⟨⟨?_, ?_, ?_⟩, receives.isUsable, markUsable, puts.stands⟩
  · obtain ⟨mode, stands⟩ := receives.isThere
    refine ⟨mode, (puts.isSame _ ?_).trans stands⟩
    simpa using notMark
  · intro location isFile
    simp only [List.mem_cons, List.not_mem_nil, or_false] at isFile
    rcases isFile with rfl | rfl
    · obtain ⟨file, stands⟩ := receives.stands
      refine ⟨isApart (Ne.symm notProgram), file,
        (puts.isSame _ ?_).trans stands⟩
      simpa using programNotMark
    · exact ⟨isApart (Ne.symm notMark), _, puts.stands⟩
  · intro location isOutside notFile
    simp only [List.mem_cons, List.not_mem_nil, or_false, not_or] at notFile
    rw [puts.isSame _ notFile.2, receives.isSame _ isOutside notFile.1,
      fenced.elsewhere _ isOutside]

end UvTool

end Provision
