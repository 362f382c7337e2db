import Provision.Archive.Extract
import Provision.Proofs.Disk.Growing
import Provision.Proofs.Disk.Guarding
import Provision.Proofs.Node.Looking

namespace Provision

/-!
# Procedures that only add

Directories are made, members are unpacked and files are downloaded by actions that only add something to
a disk.  So a disk grows all along such a procedure, wherever it stops.
-/

open Plan

/-- Actions that look add nothing. -/
theorem Action.adds_of_looks
    {action : Action}
    (looks : action.looks = true) :
    action.adds = true := by
  cases action <;> first | rfl | simp [Action.looks] at looks

namespace Plan

variable {α ε : Type}

/-- A plan whose failure becomes a fault asks for the same actions. -/
theorem AsksOnly.attempt
    {allowed : Action → Bool}
    {plan : Plan (Except DiskFault α)}
    (asksOnly : AsksOnly allowed plan)
    (wording : DiskFault → ε) :
    AsksOnly allowed (Procedure.attempt plan wording).run :=
  asksOnly.bind fun _ => .done _

/-- A plan that only looks only adds. -/
theorem AsksOnly.adds
    {plan : Plan α}
    (looks : AsksOnly Action.looks plan) :
    AsksOnly Action.adds plan :=
  looks.mono fun _ => Action.adds_of_looks

/-- A disk grows all along a plan that only adds. -/
theorem AsksOnly.ensures_grows
    {workingDirectory : Location}
    {children : Disk.Children}
    {step : Stepping Disk}
    (answers :
      ∀ action disk reply after,
        step action disk reply after →
        Disk.Answers workingDirectory children action disk reply after)
    {plan : Plan α}
    (asksOnly : AsksOnly Action.adds plan)
    {start disk : Disk}
    (grows : start.Grows disk) :
    Ensures step start.Grows (fun _ last => start.Grows last) plan
      disk := by
  have trans (first middle last : Disk) :
      first.Grows middle → middle.Grows last → first.Grows last :=
    .trans
  exact asksOnly.ensures trans
    (fun action state reply after isAllowed answered =>
      (answers action state reply after answered).grows isAllowed)
    grows

end Plan

/-- Whether an action looks at a path or makes a directory. -/
def Action.makesWay : Action → Bool
  | .status _ | .makeDirectory _ => true
  | _ => false

/-- Making a way adds to a disk at most. -/
theorem Action.adds_of_makesWay
    {action : Action}
    (makesWay : action.makesWay = true) :
    action.adds = true := by
  cases action <;> first | rfl | simp [Action.makesWay] at makesWay

namespace Files

section

variable {allowed : Action → Bool}

/-- Directories are made by looking at listed paths and making directories there. -/
theorem makeLineage_asksAlong
    {paths : List Path}
    (asks :
      ∀ path ∈ paths,
        allowed (.status path) = true ∧
          allowed (.makeDirectory path) = true) :
    (makeLineage paths).AsksOnly allowed := by
  induction paths with
  | nil => exact .done _
  | cons path above inductionHypothesis =>
      obtain ⟨looksAtPath, makesPath⟩ := asks path (.head _)
      have makesAbove :=
        inductionHypothesis fun other member => asks other (.tail _ member)
      have looksForDirectory (fault : DiskFault) :
          AsksOnly allowed
            (do if ← isDirectory path then return .ok () else return .error fault :
              Plan (Except DiskFault Unit)) := by
        refine .bind ?_ fun isThere => ?_
        · refine .bind (.ask looksAtPath) fun found => ?_
          cases found <;> exact .done _
        · cases isThere <;> exact .done _
      rw [makeLineage]
      split
      · exact .done _
      · refine .bind (.ask makesPath) fun made => ?_
        cases made with
        | ok => exact .done _
        | error fault =>
            dsimp only
            split
            · refine makesAbove.bind fun madeAbove => ?_
              cases madeAbove with
              | error fault => exact .done _
              | ok =>
                  refine .bind (.ask makesPath) fun madeNow => ?_
                  cases madeNow with
                  | ok => exact .done _
                  | error fault => exact looksForDirectory fault
            · exact looksForDirectory fault

/-- A directory is made by looking at those that it stands in and making them. -/
theorem makeDirectories_asksAlong
    {path : Path}
    (asks :
      ∀ steps above,
        above ∈ lineage steps path →
        allowed (.status above) = true ∧
          allowed (.makeDirectory above) = true) :
    (makeDirectories path).AsksOnly allowed :=
  makeLineage_asksAlong fun above => asks _ above

theorem makeParents_asksAlong
    {path : Path}
    (asks :
      ∀ steps above,
        above ∈ lineage steps path →
        allowed (.status above) = true ∧
          allowed (.makeDirectory above) = true) :
    (makeParents path).run.AsksOnly allowed := by
  unfold makeParents
  split
  · rename_i parent isParent
    refine (makeDirectories_asksAlong fun steps above member => ?_).attempt _
    refine asks (steps + 1) above ?_
    rw [lineage, isParent]
    exact .tail _ member
  · exact .done _

variable (looks : ∀ path, allowed (.status path) = true)

include looks

/-- Directories are made by looking at paths and making those that are listed. -/
theorem makeLineage_asksOnly
    {paths : List Path}
    (makes : ∀ path ∈ paths, allowed (.makeDirectory path) = true) :
    (makeLineage paths).AsksOnly allowed :=
  makeLineage_asksAlong fun path member => ⟨looks path, makes path member⟩

/-- A directory is made by making those that it stands in. -/
theorem makeDirectories_asksOnly
    {path : Path}
    (makes :
      ∀ steps above,
        above ∈ lineage steps path →
        allowed (.makeDirectory above) = true) :
    (makeDirectories path).AsksOnly allowed :=
  makeLineage_asksOnly looks fun above => makes _ above

theorem makeParents_asksOnly
    {path : Path}
    (makes :
      ∀ steps above,
        above ∈ lineage steps path →
        allowed (.makeDirectory above) = true) :
    (makeParents path).run.AsksOnly allowed :=
  makeParents_asksAlong fun steps above member =>
    ⟨looks above, makes steps above member⟩

end

/-- Directories are made by making the way to them. -/
theorem makeLineage_makesWay (paths : List Path) :
    (makeLineage paths).AsksOnly Action.makesWay :=
  makeLineage_asksOnly (fun _ => rfl) fun _ _ => rfl

/-- A directory is made by adding. -/
theorem makeDirectories_adds (path : Path) :
    (makeDirectories path).AsksOnly Action.adds :=
  makeDirectories_asksOnly (fun _ => rfl) fun _ _ _ => rfl

/-- The directory that a path stands in is made by making the way to it. -/
theorem makeParents_makesWay (path : Path) :
    (makeParents path).run.AsksOnly Action.makesWay :=
  makeParents_asksOnly (fun _ => rfl) fun _ _ _ => rfl

end Files

namespace Download

/-- A request asks for its address. -/
theorem request_asksOnly
    {allowed : Action → Bool}
    {url : String}
    (fetches : allowed (.fetch url) = true) :
    (request url).run.AsksOnly allowed := by
  refine .bindProcedure (.liftProcedure (.ask fetches)) fun answer => ?_
  split
  · exact .done _
  · split <;> exact .done _

/-- A body is put into a file by adding to it. -/
theorem fill_asksOnly
    {allowed : Action → Bool}
    {target : Path}
    (isAdded : ∀ bytes, allowed (.appendFile target bytes) = true)
    (body : ResponseBody) :
    (fill target body).AsksOnly allowed := by
  cases body with
  | whole bytes => exact .bind (.ask (isAdded bytes)) fun _ => .done _
  | broken received => exact .bind (.ask (isAdded received)) fun _ => .done _

end Download

namespace Archive

section

variable {allowed : Action → Bool}

/-- Permission bits are set by changing them, if a member asks for any. -/
theorem setMode_asksOnly
    {path : Path}
    (changes : ∀ mode, allowed (.changeMode path mode) = true)
    (member : Tar.Member) :
    (setMode path member).run.AsksOnly allowed := by
  unfold setMode
  split
  · exact (AsksOnly.ask (changes _)).attempt _
  · exact .done _

/-- A time is set by changing it, if a member has one. -/
theorem setTime_asksOnly
    {path : Path}
    (changes : ∀ time, allowed (.setTimes path time) = true)
    (member : Tar.Member) :
    (setTime path member).run.AsksOnly allowed := by
  unfold setTime
  split
  · exact (AsksOnly.ask (changes _)).attempt _
  · exact .done _

/-- A file gets its time and its mode by changing them. -/
theorem setTimeAndMode_asksOnly
    {path : Path}
    (times : ∀ time, allowed (.setTimes path time) = true)
    (modes : ∀ mode, allowed (.changeMode path mode) = true)
    (member : Tar.Member) :
    AsksOnly allowed
      (do
        setTime path member
        setMode path member : Unpacking Unit).run :=
  .bindProcedure (setTime_asksOnly times member) fun _ =>
    setMode_asksOnly modes member

variable (looks : ∀ action, action.looks = true → allowed action = true)

include looks

/-- Whether a path lies in a directory is found out by looking. -/
theorem requireInside_asksOnly (directory path : Path) :
    (requireInside directory path).run.AsksOnly allowed := by
  refine .bindProcedure ((AsksOnly.ask (looks _ rfl)).attempt _) fun place => ?_
  refine .bindProcedure ((AsksOnly.ask (looks _ rfl)).attempt _) fun root => ?_
  dsimp only
  split <;> exact .done _

/-- The way to a place is made by making directories on it. -/
theorem makeWay_asksOnly
    (directory : Path)
    {reached : Path}
    {names : List Name}
    (makes :
      ∀ first steps above,
        first <+: names →
        above ∈ Files.lineage steps (below reached first) →
        allowed (.makeDirectory above) = true) :
    (makeWay directory reached names).run.AsksOnly allowed := by
  induction names generalizing reached with
  | nil => exact .done _
  | cons name rest inductionHypothesis =>
      have goesOn :
          (makeWay directory (reached.child name) rest).run.AsksOnly allowed :=
        inductionHypothesis fun first steps above isPrefix =>
          makes (name :: first) steps above
            ((List.prefix_cons_inj name).mpr isPrefix)
      rw [makeWay]
      refine .bindProcedure (.liftProcedure (.ask (looks _ rfl))) fun found => ?_
      split
      · exact goesOn
      · refine .bindProcedure (requireInside_asksOnly looks _ _) fun _ => ?_
        have makesNext :
            (Files.makeDirectories (reached.child name)).AsksOnly allowed :=
          Files.makeDirectories_asksOnly (fun path => looks _ rfl)
            fun steps above =>
              makes [name] steps above (List.prefix_append [name] rest)
        exact .bindProcedure (makesNext.attempt _) fun _ => goesOn

/-- A directory member is unpacked by making a directory. -/
theorem unpackDirectory_asksOnly
    {path : Path}
    (makes : allowed (.makeDirectory path) = true)
    (changes : ∀ mode, allowed (.changeMode path mode) = true)
    (member : Tar.Member) :
    (unpackDirectory path member).run.AsksOnly allowed := by
  refine .bindProcedure (.liftProcedure (.ask makes)) fun made => ?_
  split
  · exact setMode_asksOnly changes member
  · refine .bindProcedure (.liftProcedure ?_) fun isThere => ?_
    · refine .bind (.ask (looks _ rfl)) fun found => ?_
      split <;> exact .done _
    · split
      · exact setMode_asksOnly changes member
      · exact .done _

/-- A zip member whose name is enclosed is unpacked by making what it is and what it stands in. -/
theorem unpackZipMember_asksOnly
    {archive target : Path}
    {bytes : Bytes}
    {member : Zip.Member}
    (makes :
      isEnclosed member.name = true →
      ∀ steps above,
        above ∈ Files.lineage steps (target / String.ofList member.name) →
        allowed (.makeDirectory above) = true)
    (writes :
      isEnclosed member.name = true →
      ∀ content,
        allowed (.writeFile (target / String.ofList member.name) content) =
          true)
    (changes :
      isEnclosed member.name = true →
      ∀ mode,
        allowed (.changeMode (target / String.ofList member.name) mode) =
          true) :
    (unpackZipMember archive target bytes member).run.AsksOnly
      allowed := by
  have looksAt (path : Path) : allowed (.status path) = true := looks _ rfl
  unfold unpackZipMember
  split
  · exact .done _
  · exact .done _
  · split
    · rename_i enclosed
      dsimp only
      split
      · exact (Files.makeDirectories_asksOnly looksAt
          (makes enclosed)).attempt _
      · refine .bindProcedure
          (Files.makeParents_asksOnly looksAt (makes enclosed)) fun _ => ?_
        refine .bindProcedure ?_ fun _ => ?_
        · refine .bindProcedure
            ((AsksOnly.ask (writes enclosed _)).attempt _) fun _ => ?_
          split <;> exact .done _
        · split
          · exact (AsksOnly.ask (changes enclosed _)).attempt _
          · exact .done _
    · exact .done _

end

/-- Zip members are unpacked one after the other. -/
theorem unpackZip_asksOnly
    {allowed : Action → Bool}
    {archive target : Path}
    {bytes : Bytes}
    {members : List Zip.Member}
    (unpacks :
      ∀ member ∈ members,
        (unpackZipMember archive target bytes member).run.AsksOnly
          allowed) :
    (unpackZip archive target bytes members).run.AsksOnly allowed := by
  induction members with
  | nil => exact .done _
  | cons member rest inductionHypothesis =>
      exact .bindProcedure (unpacks member (.head _)) fun _ =>
        inductionHypothesis fun other isMember =>
          unpacks other (.tail _ isMember)

/-- Zip members are unpacked by adding. -/
theorem unpackZip_adds
    (archive target : Path)
    (bytes : Bytes)
    (members : List Zip.Member) :
    (unpackZip archive target bytes members).run.AsksOnly Action.adds :=
  unpackZip_asksOnly fun _ _ =>
    unpackZipMember_asksOnly (fun _ => Action.adds_of_looks)
      (fun _ _ _ _ => rfl) (fun _ _ => rfl) fun _ _ => rfl

end Archive

end Provision

namespace Provision

/-!
# Procedures that spare a mark

A procedure spares the mark of a directory if the mark is guarded all along, wherever the procedure
stops, and if the disk has only grown where it succeeds.  Sparing a mark is passed on from the steps of a
procedure to the whole.
-/

open Plan

/-- All answers of a disk that a step relation has are answers that it may have. -/
def Disk.AnswersBy
    (workingDirectory : Location)
    (children : Disk.Children)
    (step : Stepping Disk) :
    Prop :=
  ∀ action disk reply after,
    step action disk reply after →
    Disk.Answers workingDirectory children action disk reply after

/--
A procedure spares the mark of a directory: from whatever grew out of a first disk, the mark is guarded
all along, and the disk has only grown where the procedure succeeds.
-/
def SparesMark
    {ε α : Type}
    (step : Stepping Disk)
    (start : Disk)
    (place : Location)
    (first : Disk)
    (procedure : Procedure ε α) :
    Prop :=
  ∀ disk,
    first.Grows disk →
    Ensures step (start.Guarded place)
      (ending
        (fun _ last => first.Grows last)
        (fun _ last => start.Guarded place last))
      procedure.run disk

namespace SparesMark

variable {ε δ α β : Type}
variable {step : Stepping Disk}
variable {start first : Disk}
variable {place : Location}

/-- Two procedures that spare a mark spare it together. -/
theorem bind
    {procedure : Procedure ε α}
    {next : α → Procedure ε β}
    (spares : SparesMark step start place first procedure)
    (sparesOn : ∀ value, SparesMark step start place first (next value)) :
    SparesMark step start place first (procedure >>= next) := by
  intro disk grows
  refine .bindProcedure ((spares disk grows).mono (fun _ => id) ?_)
  intro outcome last
  cases outcome with
  | ok value => exact fun grown => sparesOn value last grown
  | error fault => exact id

/-- Other faults of a procedure change nothing of what it spares. -/
theorem adapt
    {procedure : Procedure ε α}
    (spares : SparesMark step start place first procedure)
    (wording : ε → δ) :
    SparesMark step start place first (procedure.adapt wording) :=
  fun disk grows =>
    .adaptProcedure
      ((spares disk grows).mono (fun _ => id) fun outcome last => by
        cases outcome <;> exact id)

variable {workingDirectory : Location}
variable {children : Disk.Children}
variable {directory : Path}

section

variable (answersBy : Disk.AnswersBy workingDirectory children step)
variable (guarded : ∀ disk, first.Grows disk → start.Guarded place disk)

include answersBy guarded

/-- A mark is guarded all along a plan that only adds. -/
theorem ensures_of_adds
    {plan : Plan α}
    (adds : AsksOnly Action.adds plan)
    {disk : Disk}
    (grows : first.Grows disk) :
    Ensures step (start.Guarded place) (fun _ last => first.Grows last) plan
      disk :=
  (adds.ensures_grows answersBy grows).mono guarded fun _ _ => id

/-- A procedure that only adds spares a mark. -/
theorem of_adds
    {procedure : Procedure ε α}
    (adds : AsksOnly Action.adds procedure.run) :
    SparesMark step start place first procedure := by
  intro disk grows
  refine (ensures_of_adds answersBy guarded adds grows).mono (fun _ => id) ?_
  intro outcome last grown
  cases outcome with
  | ok value => exact grown
  | error fault => exact guarded last grown

/-- A procedure that starts with a plan that only adds. -/
theorem bindLift
    {plan : Plan α}
    {next : α → Procedure ε β}
    (adds : AsksOnly Action.adds plan)
    (spares : ∀ value, SparesMark step start place first (next value)) :
    SparesMark step start place first
      ((liftM plan : Procedure ε α) >>= next) := by
  intro disk grows
  refine .bindLift
    ((ensures_of_adds answersBy guarded adds grows).mono (fun _ => id) ?_)
  exact fun value last grown => spares value last grown

end

end SparesMark

/-- A mark that is guarded stays so all along a plan that spares it. -/
theorem Plan.AsksOnly.ensures_guarded
    {α : Type}
    {step : Stepping Disk}
    {workingDirectory place : Location}
    {children : Disk.Children}
    {start disk : Disk}
    (answersBy : Disk.AnswersBy workingDirectory children step)
    {plan : Plan α}
    (asksOnly : AsksOnly Action.spares plan)
    (guarded : start.Guarded place disk) :
    Ensures step (start.Guarded place) (fun _ last => start.Guarded place last)
      plan disk := by
  induction asksOnly generalizing disk with
  | done value => exact guarded
  | act isAllowed later inductionHypothesis =>
      intro reply after answered
      have stays := guarded.of_spares (answersBy _ _ _ _ answered) isAllowed
      exact ⟨stays, inductionHypothesis reply stays⟩

namespace Download

/-- A download writes to its target and removes it at most. -/
theorem toFile_asksOnly
    {allowed : Action → Bool}
    {url : String}
    {target : Path}
    (fetches : allowed (.fetch url) = true)
    (writes : allowed (.writeFile target []) = true)
    (appends : ∀ bytes, allowed (.appendFile target bytes) = true)
    (removes : allowed (.removeFile target) = true) :
    (toFile url target).run.AsksOnly allowed := by
  refine .bindProcedure (request_asksOnly fetches) fun response => ?_
  refine .bindProcedure ((AsksOnly.ask writes).attempt _) fun _ => ?_
  refine .bindProcedure (.liftProcedure (fill_asksOnly appends _))
    fun outcome => ?_
  split
  · exact .done _
  · refine .bindProcedure (.liftProcedure ?_) fun _ => .done _
    exact .bind (.ask removes) fun _ => .done _

/-- A download spares a mark unless its target is the mark. -/
theorem sparesMark_toFile
    {step : Stepping Disk}
    {workingDirectory place : Location}
    {children : Disk.Children}
    {start first : Disk}
    (answersBy : Disk.AnswersBy workingDirectory children step)
    (guarded : ∀ disk, first.Grows disk → start.Guarded place disk)
    (url : String)
    {target : Path}
    (endsApart : target.endsApart = true) :
    SparesMark step start place first (toFile url target) := by
  refine .bind (.of_adds answersBy guarded (request_asksOnly rfl))
    fun response => ?_
  refine .bind
    (.of_adds answersBy guarded ((AsksOnly.ask rfl).attempt _)) fun _ => ?_
  refine .bindLift answersBy guarded (fill_asksOnly (fun _ => rfl) _)
    fun outcome => ?_
  split
  · exact .of_adds answersBy guarded (.done _)
  · -- Not all of the body is there: the file is removed, and the procedure fails.
    intro disk grows
    have discards : AsksOnly Action.spares (Files.discardFile target) :=
      .bind (.ask endsApart) fun _ => .done _
    refine .bindLift
      ((discards.ensures_guarded answersBy (guarded disk grows)).mono
        (fun _ => id) ?_)
    exact fun _ _ => id

end Download

end Provision
