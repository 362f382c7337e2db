import Provision.Proofs.Disk.Trees
import Provision.Proofs.Path.Parents
import Provision.Proofs.Plan.Ending
import Provision.Proofs.Storage.Adding
import Provision.Proofs.Text.Utf8

namespace Provision

/-!
# Directories that are made

A directory is made with all that it stands in, unless it is there.  If its path goes up only at its start,
then either the disk stays as it is, or the directory is new and nothing is in it.
-/

open Plan

namespace Path

/-- A path goes up only at its start: before `..` there is no name that leads down. -/
def UpFirst (path : Path) : Prop :=
  path.names.Pairwise fun before name =>
    name.isUp = true → before.isHere = true ∨ before.isUp = true

/-- A path leads to no directory but to those above the one that it starts in. -/
def OnlyUp (path : Path) : Prop :=
  ∀ name ∈ path.names, name.isHere = true ∨ name.isUp = true

instance (path : Path) : Decidable path.UpFirst :=
  inferInstanceAs (Decidable (List.Pairwise _ _))

/-- A path goes up only at its start if its way is the start of a path that does so. -/
theorem UpFirst.of_prefix
    {path parent : Path}
    (upFirst : path.UpFirst)
    (isPrefix : parent.way <+: path.names) :
    parent.UpFirst := by
  have isWay := upFirst.sublist isPrefix.sublist
  rcases parent.names_eq_way with isNames | isNames
  · rwa [UpFirst, isNames]
  · rw [UpFirst, isNames, List.pairwise_append]
    exact ⟨isWay, by simp, by simp [Name.isUp]⟩

/-- The empty path leads nowhere else. -/
theorem onlyUp_empty : empty.OnlyUp := by
  intro name member
  obtain rfl : name = .text "" := by
    simpa [names, isAbsolute, segments, empty] using member
  exact Or.inl rfl

/-- What a path stands in goes up only at its start if the path does. -/
theorem StandsIn.upFirst
    {path parent : Path}
    {heres later : List Name}
    {name : Name}
    (standsIn : path.StandsIn parent heres name later)
    (upFirst : path.UpFirst) :
    parent.UpFirst := by
  refine upFirst.of_prefix ?_
  rw [standsIn.names, List.append_assoc]
  exact List.prefix_append _ _

/-- A path goes up all the way if it does without the slash at its end. -/
theorem onlyUp_of_way
    {path : Path}
    (isWay : ∀ name ∈ path.way, name.isHere = true ∨ name.isUp = true) :
    path.OnlyUp := by
  intro name member
  rcases path.names_eq_way with isNames | isNames
  · exact isWay name (isNames ▸ member)
  · rw [isNames, List.mem_append, List.mem_singleton] at member
    rcases member with inWay | rfl
    · exact isWay name inWay
    · exact Or.inl rfl

/-- If the last name of a path goes up, and the path goes up only at its start, then it does all the way. -/
theorem StandsIn.onlyUp
    {path parent : Path}
    {heres later : List Name}
    {name : Name}
    (standsIn : path.StandsIn parent heres name later)
    (upFirst : path.UpFirst)
    (isUp : name.isUp = true) :
    parent.OnlyUp := by
  rw [UpFirst, standsIn.names, List.append_assoc] at upFirst
  have areBefore := (List.pairwise_append.mp upFirst).2.2
  exact onlyUp_of_way fun other member =>
    areBefore other member name (by simp) isUp

/-- Unless what a path stands in only leads upwards, the last name of the path is its own. -/
theorem StandsIn.notHere_and_notUp
    {path parent : Path}
    {heres later : List Name}
    {name : Name}
    (standsIn : path.StandsIn parent heres name later)
    (upFirst : path.UpFirst)
    (notUp : ¬parent.OnlyUp) :
    name.isHere = false ∧ name.isUp = false :=
  ⟨standsIn.isNamed.resolve_right fun isEmpty =>
      notUp (isEmpty ▸ onlyUp_empty),
    Bool.eq_false_iff.mpr fun isUp => notUp (standsIn.onlyUp upFirst isUp)⟩

end Path

namespace Disk

variable {disk later last : Disk}
variable {workingDirectory : Location}
variable {path : Path}

/-! ## Disks with more directories -/

/--
Directories come to a disk where nothing stood, all of them on the way to one place, and everything else
stays.
-/
def GainsDirectories (disk later : Disk) (place : Location) : Prop :=
  ∀ location,
    later.get? location = disk.get? location ∨
      disk.get? location = none ∧ later.HasDirectory location ∧
        location <+: place

/-- Nothing comes to a disk that stays as it is. -/
theorem GainsDirectories.refl
    (disk : Disk)
    (place : Location) :
    disk.GainsDirectories disk place :=
  fun _ => Or.inl rfl

/-- Directories that come one after the other come together, if they are on one way. -/
theorem GainsDirectories.trans
    {between place : Location}
    (gains : disk.GainsDirectories later between)
    (isAbove : between <+: place)
    (again : later.GainsDirectories last place) :
    disk.GainsDirectories last place := by
  intro location
  rcases again location with isSame | ⟨isNone, isDirectory, isOnWay⟩
  · rcases gains location with wasSame | ⟨wasNone, ⟨mode, stands⟩, wasOnWay⟩
    · exact Or.inl (isSame.trans wasSame)
    · exact Or.inr
        ⟨wasNone, ⟨mode, isSame.trans stands⟩, wasOnWay.trans isAbove⟩
  · rcases gains location with wasSame | ⟨-, ⟨mode, stands⟩, -⟩
    · exact Or.inr ⟨wasSame.symm.trans isNone, isDirectory, isOnWay⟩
    · rw [isNone] at stands
      simp at stands

/-- What stands on a disk stands there when directories come to it. -/
theorem GainsDirectories.get?
    {place location : Location}
    {entry : Entry}
    (gains : disk.GainsDirectories later place)
    (stands : disk.get? location = some entry) :
    later.get? location = some entry := by
  rcases gains location with isSame | ⟨isNone, -⟩
  · exact isSame.trans stands
  · rw [stands] at isNone
    simp at isNone

/-! ## New directories -/

/-- An open directory with nothing in it. -/
def IsFresh (disk : Disk) (place : Location) : Prop :=
  disk.IsOpen place ∧
    ∀ below, below ≠ [] → disk.get? (place ++ below) = none

/-- What only goes up comes to something that is there. -/
theorem Walks.exists_of_onlyUp
    {followLast : Bool}
    {links : Nat}
    {here : Location}
    {names : List Name}
    {found : Found}
    (walks : disk.Walks followLast links here names found)
    (tree : disk.IsTree)
    (areUp : ∀ name ∈ names, name.isHere = true ∨ name.isUp = true)
    (isSomewhere : names ≠ [] ∨ ∃ entry, disk.get? here = some entry) :
    found.entry? ≠ none := by
  have notPlain (name : Name) (rest : List Name) :
      (∀ other ∈ name :: rest, other.isHere = true ∨ other.isUp = true) →
      name.isPlain = true → False := by
    intro areUp isPlain
    rcases areUp name (.head _) with isHere | isUp <;>
      simp [Name.isPlain, *] at isPlain
  induction walks with
  | arrived links here =>
      rcases isSomewhere with notNil | ⟨entry, stands⟩
      · exact absurd rfl notNil
      · simp [stands]
  | missing _ isPlain | link _ isPlain =>
      exact (notPlain _ _ areUp isPlain).elim
  | @step _ _ _ _ _ names rest _ steps _ _ inductionHypothesis =>
      have isThere := steps.exists_of_tree tree
      have isNil : names = [] := by
        cases steps with
        | empty | dot | up => rfl
        | down => rfl
        | follow _ isPlain => exact (notPlain _ _ areUp isPlain).elim
      subst isNil
      refine inductionHypothesis
        (fun other member => areUp other (.tail _ member)) ?_
      exact Or.inr (isThere.resolve_left fun notNil => notNil rfl)

/-- A directory that is made is new and empty, its path leads to it and does not only go up. -/
theorem fresh_of_makeDirectory
    {mode : Nat}
    (tree : disk.IsTree)
    (mayPass : (Entry.directory mode).allows .execute = true)
    (makes : disk.makeDirectory workingDirectory path mode = .ok later) :
    later.IsTree ∧ ¬path.OnlyUp ∧
      ∃ left there,
        disk.locate workingDirectory false path = .ok ⟨there, none⟩ ∧
          disk.GainsDirectories later there ∧
            later.LeadsTo workingDirectory path left there ∧
              later.IsFresh there := by
  obtain ⟨location, locates, rfl⟩ := makeDirectory_eq_ok makes
  have isMissing := get?_of_locate locates
  obtain ⟨⟨above, name, rfl, isOpen, isPlain⟩, left, leads⟩ :=
    leadsTo_of_locate_none tree locates mode
  have notDirectory : ¬disk.HasDirectory (above ++ [name]) := by
    rintro ⟨old, stands⟩
    rw [isMissing] at stands
    simp at stands
  refine ⟨tree.set isOpen.hasDirectory isPlain notDirectory,
    fun onlyUp => ?_, left, _, locates, fun other => ?_, leads,
    ⟨mode, get?_set_self disk _ _, mayPass⟩, fun below notNil => ?_⟩
  · exact (locate_eq_ok_iff.mp locates).2.exists_of_onlyUp tree onlyUp
      (Or.inl path.names_ne_nil) rfl
  · by_cases isHere : other = above ++ [name]
    · subst isHere
      exact Or.inr
        ⟨isMissing, ⟨mode, get?_set_self disk _ _⟩, List.prefix_rfl⟩
    · exact Or.inl (get?_set_of_ne disk _ isHere)
  · have isElsewhere : above ++ [name] ++ below ≠ above ++ [name] := by
      simpa using notNil
    rw [get?_set_of_ne disk _ isElsewhere]
    exact tree.get?_eq_none notDirectory (List.prefix_append _ _)
      isElsewhere.symm

/-- What is told to be a directory is one that the names of the path lead to. -/
theorem leads_of_status
    {mode : Nat}
    (isStatus :
      disk.status workingDirectory true path = .ok ⟨.directory, mode⟩) :
    ∃ left there,
      disk.Leads maxLinks (path.start workingDirectory) path.names left
          there ∧
        disk.HasDirectory there := by
  rw [status] at isStatus
  cases finds : disk.entryAt workingDirectory true path with
  | error fault =>
      rw [finds] at isStatus
      cases isStatus
  | ok found =>
      obtain ⟨there, entry⟩ := found
      rw [finds] at isStatus
      obtain ⟨-, walks⟩ :=
        locate_eq_ok_iff.mp (entryAt_eq_ok_iff.mp finds)
      obtain ⟨⟨left, leads⟩, stands⟩ := walks.leads
      refine ⟨left, there, leads, ?_⟩
      have isKind : kindOf entry = .directory :=
        congrArg Status.kind (Except.ok.inj isStatus)
      cases entry with
      | directory bits => exact ⟨bits, stands⟩
      | file | link => simp [kindOf] at isKind

/-- Names that stand for the directory that they occur in lead nowhere else. -/
theorem Leads.eq_of_heres
    {links left : Nat}
    {here there : Location}
    {heres names : List Name}
    (areHeres : ∀ name ∈ heres, name.isHere = true)
    (leads : disk.Leads links here (heres ++ names) left there) :
    disk.Leads links here names left there := by
  induction heres with
  | nil => exact leads
  | cons name rest inductionHypothesis =>
      have isHere := areHeres name (.head _)
      have areRest : ∀ other ∈ rest, other.isHere = true :=
        fun other member => areHeres other (.tail _ member)
      cases leads with
      | step steps leadsOn =>
          cases steps with
          | empty | dot => exact inductionHypothesis areRest leadsOn
          | up _ isUp => simp [isUp, Name.isHere] at isHere
          | down _ isPlain | follow _ isPlain =>
              simp [Name.isPlain, isHere] at isPlain

/-- Names that stand for the directory that they occur in can be followed in an open directory. -/
theorem IsOpen.leads_heres
    {here : Location}
    {heres : List Name}
    (isOpen : disk.IsOpen here)
    (areHeres : ∀ name ∈ heres, name.isHere = true)
    (links : Nat) :
    disk.Leads links here heres links here := by
  induction heres with
  | nil => exact .arrived links here
  | cons name rest inductionHypothesis =>
      have leadsOn :=
        inductionHypothesis fun other member => areHeres other (.tail _ member)
      have isHere := areHeres name (.head _)
      simp only [Name.isHere, Bool.or_eq_true, decide_eq_true_eq] at isHere
      rcases isHere with isEmpty | isDot
      · exact .step (.empty isOpen.hasDirectory isEmpty) leadsOn
      · exact .step (.dot isOpen isDot) leadsOn

/-- A path that goes on by a name of its own from a fresh directory leads nowhere. -/
theorem IsFresh.not_leads
    {parent : Path}
    {heres rest : List Name}
    {name : Name}
    {middle left : Nat}
    {between there : Location}
    (isFresh : disk.IsFresh between)
    (ledTo : disk.LeadsTo workingDirectory parent middle between)
    (standsIn : path.StandsIn parent heres name rest)
    (notHere : name.isHere = false)
    (notUp : name.isUp = false) :
    ¬disk.Leads maxLinks (path.start workingDirectory) path.names left
        there := by
  intro leads
  rw [standsIn.names, standsIn.start, List.append_assoc] at leads
  obtain ⟨_, place, leadsFirst, leadsOn⟩ := leads_of_leads_append leads
  obtain rfl : place = between := (ledTo.unique leadsFirst).2
  have isMissing : disk.get? (place ++ [name]) = none :=
    isFresh.2 [name] (List.cons_ne_nil name [])
  cases leadsOn.eq_of_heres standsIn.heres with
  | step steps =>
      cases steps with
      | empty _ isSpecial | dot _ isSpecial =>
          simp [isSpecial, Name.isHere] at notHere
      | up _ isUp => simp [isUp, Name.isUp] at notUp
      | down _ _ stands | follow _ _ stands =>
          rw [isMissing] at stands
          simp at stands

/-- What is missing by a name of its own in a fresh directory is missing there. -/
theorem IsFresh.prefix_of_locate
    {parent : Path}
    {heres rest : List Name}
    {name : Name}
    {middle : Nat}
    {between there : Location}
    (isFresh : disk.IsFresh between)
    (ledTo : disk.LeadsTo workingDirectory parent middle between)
    (standsIn : path.StandsIn parent heres name rest)
    (notHere : name.isHere = false)
    (notUp : name.isUp = false)
    (locates :
      disk.locate workingDirectory false path = .ok ⟨there, none⟩) :
    between <+: there := by
  obtain ⟨-, walks⟩ := locate_eq_ok_iff.mp locates
  rw [standsIn.names, standsIn.start, List.append_assoc] at walks
  have isNamed :
      (heres ++ name :: rest).all (· = .text "") = false := by
    have isText : name ≠ .text "" := by
      rintro rfl
      simp [Name.isHere] at notHere
    simp [isText]
  obtain ⟨_, place, leadsFirst, walksOn⟩ :=
    leads_of_walks_append walks isNamed
  obtain rfl : place = between := (ledTo.unique leadsFirst).2
  have isMissing : disk.get? (place ++ [name]) = none :=
    isFresh.2 [name] (List.cons_ne_nil name [])
  have areHeres := standsIn.heres
  clear isNamed walks leadsFirst standsIn ledTo locates
  induction heres with
  | nil =>
      cases walksOn with
      | missing => exact List.prefix_append place [name]
      | step steps =>
          cases steps with
          | empty _ isSpecial | dot _ isSpecial =>
              simp [isSpecial, Name.isHere] at notHere
          | up _ isUp => simp [isUp, Name.isUp] at notUp
          | down _ _ stands | follow _ _ stands =>
              rw [isMissing] at stands
              simp at stands
  | cons here others inductionHypothesis =>
      have isHere := areHeres here (.head _)
      have goesOn :=
        fun walks =>
          inductionHypothesis walks fun other member =>
            areHeres other (.tail _ member)
      rw [List.cons_append] at walksOn
      generalize isNames : others ++ name :: rest = names at walksOn goesOn
      cases walksOn with
      | missing _ isPlain =>
          simp [Name.isPlain, isHere] at isPlain
      | step steps _ later =>
          cases steps with
          | empty | dot => exact goesOn later
          | up _ isUp => simp [isUp, Name.isHere] at isHere
          | down _ isPlain | follow _ isPlain =>
              simp [Name.isPlain, isHere] at isPlain

/--
Directories have been made so that a path leads to a place.  Either it was a directory before and the
disk stays as it is, or it is new and nothing is in it.
-/
structure MakesWay
    (disk later : Disk)
    (workingDirectory : Location)
    (path : Path)
    (there : Location) :
    Prop where
  isTree : later.IsTree
  leads : ∃ left, later.LeadsTo workingDirectory path left there
  gains : disk.GainsDirectories later there
  isNew :
    (later = disk ∧ (path = Path.empty ∨ disk.HasDirectory there)) ∨
      disk.get? there = none ∧ later.IsFresh there ∧ ¬path.OnlyUp

/-- A path leads to a directory that is made by it. -/
theorem makesWay_of_makeDirectory
    {mode : Nat}
    (tree : disk.IsTree)
    (mayPass : (Entry.directory mode).allows .execute = true)
    (makes : disk.makeDirectory workingDirectory path mode = .ok later) :
    ∃ there, disk.MakesWay later workingDirectory path there := by
  obtain ⟨isTree, notUp, left, there, locates, gains, leads, isFresh⟩ :=
    fresh_of_makeDirectory tree mayPass makes
  exact ⟨there, isTree, ⟨left, leads⟩, gains,
    Or.inr ⟨get?_of_locate locates, isFresh, notUp⟩⟩

/-- A directory is made in one that has been made before. -/
theorem MakesWay.makeDirectory
    {parent : Path}
    {heres rest : List Name}
    {name : Name}
    {between : Location}
    {mode : Nat}
    (made : disk.MakesWay later workingDirectory parent between)
    (standsIn : path.StandsIn parent heres name rest)
    (upFirst : path.UpFirst)
    (mayPass : (Entry.directory mode).allows .execute = true)
    (makes : later.makeDirectory workingDirectory path mode = .ok last) :
    ∃ there, disk.MakesWay last workingDirectory path there := by
  obtain ⟨isTree, notUp, left, there, locates, gains, leads, isFresh⟩ :=
    fresh_of_makeDirectory made.isTree mayPass makes
  have isMissing := get?_of_locate locates
  obtain ⟨middle, ledTo⟩ := made.leads
  rcases made.isNew with ⟨rfl, -⟩ | ⟨-, isFreshAbove, notUpAbove⟩
  · exact ⟨there, isTree, ⟨left, leads⟩, gains,
      Or.inr ⟨isMissing, isFresh, notUp⟩⟩
  · obtain ⟨notHere, isNamed⟩ := standsIn.notHere_and_notUp upFirst notUpAbove
    have isAbove :=
      isFreshAbove.prefix_of_locate ledTo standsIn notHere isNamed locates
    refine ⟨there, isTree, ⟨left, leads⟩,
      made.gains.trans isAbove gains, Or.inr ⟨?_, isFresh, notUp⟩⟩
    rcases made.gains there with isSame | ⟨isNone, -⟩
    · exact isSame.symm.trans isMissing
    · exact isNone

/-- What a path leads to once the directory that it stands in has been made was there before. -/
theorem MakesWay.eq_of_leads
    {parent : Path}
    {heres rest : List Name}
    {name : Name}
    {left : Nat}
    {between there : Location}
    (made : disk.MakesWay later workingDirectory parent between)
    (standsIn : path.StandsIn parent heres name rest)
    (upFirst : path.UpFirst)
    (leads :
      later.Leads maxLinks (path.start workingDirectory) path.names left
        there) :
    later = disk := by
  obtain ⟨middle, ledTo⟩ := made.leads
  rcases made.isNew with ⟨isSame, -⟩ | ⟨-, isFresh, notUp⟩
  · exact isSame
  · -- The last name would have to be in the directory that is new.
    obtain ⟨notHere, isNamed⟩ := standsIn.notHere_and_notUp upFirst notUp
    exact absurd leads (isFresh.not_leads ledTo standsIn notHere isNamed)

end Disk

/-! ## Runs -/

namespace Files

variable {workingDirectory : Location}
variable {children : Disk.Children}
variable {step : Stepping Disk}
variable {disk last : Disk}
variable {path : Path}
variable (answersBy : Disk.AnswersBy workingDirectory children step)

include answersBy

/-- A disk stays as it is all along a plan that only looks. -/
theorem ensures_unchanged
    {α : Type}
    {plan : Plan α}
    (looks : plan.AsksOnly Action.looks) :
    Ensures step (· = disk) (fun _ last => last = disk) plan disk := by
  refine looks.keeps (fun action state reply after isLook answered => ?_) disk
    rfl
  rintro rfl
  exact (answersBy _ _ _ _ answered).eq_of_looks isLook

/-- A directory that is told to be there is there. -/
theorem ends_isDirectory
    {isThere : Bool}
    (ends : Ends step (isDirectory path) disk isThere last) :
    last = disk ∧
      (isThere = true →
        ∃ left there,
          disk.Leads Disk.maxLinks (path.start workingDirectory) path.names
              left there ∧
            disk.HasDirectory there) := by
  obtain ⟨reply, middle, asked, ended⟩ := ends_bind_iff.mp ends
  obtain ⟨tells, rfl⟩ := answersBy _ _ _ _ (ends_ask_iff.mp asked)
  cases reply with
  | error fault =>
      obtain ⟨rfl, rfl⟩ := ends_pure_iff.mp ended
      exact ⟨rfl, by simp⟩
  | ok status =>
      obtain ⟨rfl, rfl⟩ := ends_pure_iff.mp ended
      refine ⟨rfl, fun isDirectory => ?_⟩
      obtain ⟨kind, mode⟩ := status
      obtain rfl : kind = .directory := of_decide_eq_true isDirectory
      exact Disk.leads_of_status tells.eq_ok

/-- A text that is read is what a file holds. -/
theorem exists_of_ends_readText?
    {text : String}
    (ends :
      Ends step (readText? path).run disk (.ok (some text)) last) :
    ∃ bytes,
      disk.readFile workingDirectory path = .ok bytes ∧
        Text.Utf8.toString? bytes = some text := by
  obtain ⟨outcome, _, tries, settles⟩ :=
    ends_bind_iff.mp (ends_attempt_iff.mp ends)
  obtain ⟨reply, _, asked, decodes⟩ := ends_bind_iff.mp tries
  obtain ⟨tells, -⟩ := answersBy _ _ _ _ (ends_ask_iff.mp asked)
  have isText : outcome = .ok text := by
    cases outcome with
    | ok found =>
        obtain ⟨isSame, -⟩ := ends_pure_iff.mp settles
        cases isSame
        rfl
    | error fault =>
        dsimp only at settles
        split at settles
        · cases (ends_pure_iff.mp settles).1
        · cases (ends_pure_iff.mp settles).1
  subst isText
  cases reply with
  | error fault => cases (ends_pure_iff.mp decodes).1
  | ok bytes =>
      refine ⟨bytes, tells.eq_ok, ?_⟩
      dsimp only at decodes
      split at decodes
      · rename_i found isFound
        cases (ends_pure_iff.mp decodes).1
        exact isFound
      · cases (ends_pure_iff.mp decodes).1

/-- A file that is told to be there is there. -/
theorem exists_of_ends_isFile
    (ends : Ends step (isFile path) disk true last) :
    ∃ mode, disk.status workingDirectory true path = .ok ⟨.file, mode⟩ := by
  obtain ⟨reply, _, asked, settles⟩ := ends_bind_iff.mp ends
  obtain ⟨tells, -⟩ := answersBy _ _ _ _ (ends_ask_iff.mp asked)
  cases reply with
  | error fault => cases (ends_pure_iff.mp settles).1
  | ok status =>
      obtain ⟨kind, mode⟩ := status
      obtain rfl : kind = .file :=
        of_decide_eq_true (ends_pure_iff.mp settles).1.symm
      exact ⟨mode, tells.eq_ok⟩

/-- Where only a directory is accepted, there is one, and the disk stays as it is. -/
theorem ends_requireDirectory
    {fault : DiskFault}
    (ends :
      Ends step
        (do if ← isDirectory path then return .ok () else return .error fault :
          Plan (Except DiskFault Unit))
        disk (.ok ()) last) :
    last = disk ∧
      ∃ left there,
        disk.Leads Disk.maxLinks (path.start workingDirectory) path.names left
            there ∧
          disk.HasDirectory there := by
  obtain ⟨isThere, checked, told, ended⟩ := ends_bind_iff.mp ends
  obtain ⟨rfl, isDirectory⟩ := ends_isDirectory answersBy told
  cases isThere with
  | false =>
      obtain ⟨isError, -⟩ := ends_pure_iff.mp ended
      simp at isError
  | true =>
      obtain ⟨-, rfl⟩ := ends_pure_iff.mp ended
      exact ⟨rfl, isDirectory rfl⟩

/-- Where only a directory is accepted, no way to it has to be made. -/
theorem makesWay_of_requireDirectory
    {fault : DiskFault}
    (tree : disk.IsTree)
    (ends :
      Ends step
        (do if ← isDirectory path then return .ok () else return .error fault :
          Plan (Except DiskFault Unit))
        disk (.ok ()) last) :
    ∃ there, disk.MakesWay last workingDirectory path there := by
  obtain ⟨rfl, _, there, leads, isDirectory⟩ :=
    ends_requireDirectory answersBy ends
  exact ⟨there, tree, Disk.leadsTo_of_leads leads, .refl _ there,
    Or.inl ⟨rfl, Or.inr isDirectory⟩⟩

/-- A directory is made by its call; otherwise the disk stays as it is. -/
theorem ends_makeDirectory
    {reply : Except DiskFault Unit}
    (ends : Ends step (Plan.ask (.makeDirectory path)) disk reply last) :
    last = disk ∧ reply ≠ .ok () ∨
      reply = .ok () ∧
        disk.makeDirectory workingDirectory path 0o755 = .ok last := by
  have answers := answersBy _ _ _ _ (ends_ask_iff.mp ends)
  cases answers with
  | done makes => exact Or.inr ⟨rfl, makes⟩
  | refused | unchanged => exact Or.inl ⟨rfl, by simp⟩
  | brokenOff _ partly => exact partly.elim

/-- Directories are made on a tree so that a path leads to the last one. -/
theorem ends_makeLineage
    (tree : disk.IsTree)
    (steps : Nat)
    (upFirst : path.UpFirst)
    (ends :
      Ends step (makeLineage (lineage steps path)) disk (.ok ()) last) :
    ∃ there, disk.MakesWay last workingDirectory path there := by
  induction steps generalizing path last with
  | zero =>
      obtain ⟨isError, -⟩ := ends_pure_iff.mp ends
      simp at isError
  | succ steps inductionHypothesis =>
      rw [lineage, makeLineage] at ends
      split at ends
      · rename_i isEmpty
        obtain ⟨-, rfl⟩ := ends_pure_iff.mp ends
        subst isEmpty
        exact ⟨_, tree, ⟨_, .arrived _ _⟩, .refl _ _,
          Or.inl ⟨rfl, Or.inl rfl⟩⟩
      obtain ⟨reply, made, asked, ends⟩ := ends_bind_iff.mp ends
      rcases ends_makeDirectory answersBy asked with
        ⟨rfl, notOk⟩ | ⟨rfl, makes⟩
      · cases reply with
        | ok => exact absurd rfl notOk
        | error fault =>
            dsimp only at ends
            split at ends
            · obtain ⟨madeAbove, middle, above, ends⟩ := ends_bind_iff.mp ends
              cases madeAbove with
              | error fault =>
                  obtain ⟨isError, -⟩ := ends_pure_iff.mp ends
                  simp at isError
              | ok =>
                  cases isParent : path.parent? with
                  | none =>
                      rw [isParent] at above
                      obtain ⟨isError, -⟩ := ends_pure_iff.mp above
                      simp at isError
                  | some parent =>
                      rw [isParent] at above
                      obtain ⟨heres, name, rest, standsIn⟩ :=
                        Path.exists_of_parent? isParent
                      obtain ⟨between, way⟩ :=
                        inductionHypothesis (standsIn.upFirst upFirst) above
                      obtain ⟨again, remade, remakes, settles⟩ :=
                        ends_bind_iff.mp ends
                      rcases ends_makeDirectory answersBy remakes with
                        ⟨rfl, notOk⟩ | ⟨rfl, makes⟩
                      · cases again with
                        | ok => exact absurd rfl notOk
                        | error fault =>
                            obtain ⟨-, _, _, leads, -⟩ :=
                              ends_requireDirectory answersBy settles
                            obtain rfl :=
                              way.eq_of_leads standsIn upFirst leads
                            exact makesWay_of_requireDirectory answersBy tree
                              settles
                      · obtain ⟨-, rfl⟩ := ends_pure_iff.mp settles
                        exact way.makeDirectory standsIn upFirst rfl makes
            · exact makesWay_of_requireDirectory answersBy tree ends
      · obtain ⟨-, rfl⟩ := ends_pure_iff.mp ends
        exact Disk.makesWay_of_makeDirectory tree rfl makes

/-- A directory is made with all that it stands in. -/
theorem ends_makeDirectories
    (tree : disk.IsTree)
    (upFirst : path.UpFirst)
    (ends : Ends step (makeDirectories path) disk (.ok ()) last) :
    ∃ there, disk.MakesWay last workingDirectory path there :=
  ends_makeLineage answersBy tree _ upFirst ends

/--
The directory that an entry stands in is made: it is new and the path of the directory leads to it, or
the disk stays as it is.
-/
theorem ends_makeParents_child
    {directory : Path}
    {name : Name}
    (notHere : name.isHere = false)
    (tree : disk.IsTree)
    (upFirst : directory.UpFirst)
    (ends :
      Ends step (makeParents (directory.child name)).run disk (.ok ())
        last) :
    last.IsTree ∧ (∃ place, disk.GainsDirectories last place) ∧
      (last = disk ∨
        ∃ left there,
          disk.get? there = none ∧
            last.LeadsTo workingDirectory directory left there ∧
              last.IsFresh there) := by
  obtain ⟨parent, heres, isParent, isWay, areHeres, starts⟩ :=
    directory.exists_parent?_child notHere
  have isPrefix : parent.way <+: directory.names := by
    have isFirst : parent.way <+: directory.way :=
      isWay ▸ List.prefix_append _ _
    rcases directory.names_eq_way with isNames | isNames
    · exact isNames ▸ isFirst
    · exact isNames ▸ isFirst.trans (List.prefix_append _ _)
  rw [makeParents, isParent] at ends
  obtain ⟨there, way⟩ :=
    ends_makeDirectories answersBy tree (upFirst.of_prefix isPrefix)
      (ends_attempt_iff.mp ends)
  refine ⟨way.isTree, ⟨there, way.gains⟩,
    way.isNew.imp And.left fun ⟨isMissing, isFresh, _⟩ => ?_⟩
  obtain ⟨left, leads⟩ := way.leads
  refine ⟨left, there, isMissing, ?_, isFresh⟩
  rw [Disk.LeadsTo, starts] at leads
  rw [Disk.LeadsTo, isWay]
  exact leads.append (isFresh.1.leads_heres areHeres left)

end Files

/-- A host reads a text from the bytes that a file holds. -/
theorem Files.ends_readText?_of_bytes
    {host : Host}
    {path : Path}
    {bytes : Bytes}
    {text : String}
    (reads : host.disk.readFile host.workingDirectory path = .ok bytes)
    (isText : Text.Utf8.toString? bytes = some text) :
    Ends (answersOf Host.perform) (Files.readText? path).run host
      (.ok (some text)) host := by
  have isRead :
      Ends (answersOf Host.perform) (Files.tryReadText path) host (.ok text)
        host := by
    refine ends_bind_iff.mpr
      ⟨.ok bytes, host, ends_ask_iff.mpr (Prod.ext reads rfl), ?_⟩
    dsimp only
    rw [isText]
    exact ends_pure_iff.mpr ⟨rfl, rfl⟩
  exact ends_attempt_iff.mpr
    (ends_bind_iff.mpr
      ⟨.ok text, host, isRead, ends_pure_iff.mpr ⟨rfl, rfl⟩⟩)

/-- A host reads a text that a file holds. -/
theorem Files.ends_readText?
    {host : Host}
    {path : Path}
    {text : String}
    (reads :
      host.disk.readFile host.workingDirectory path =
        .ok (Text.Utf8.ofString text)) :
    Ends (answersOf Host.perform) (Files.readText? path).run host
      (.ok (some text)) host :=
  ends_readText?_of_bytes reads (Text.Utf8.toString?_ofString text)

end Provision
