import Provision.Proofs.Archive.Sparing
import Provision.Proofs.Disk.Replacing
import Provision.Proofs.Plan.Stopping

namespace Provision

/-!
# Marks of installations

The mark of an installation is made before anything is installed, and it is removed after everything is.
A trace tells whether the mark was made and whether it was removed.  In between the directory has its
mark, whatever a single step of the installation does and wherever it stops.
-/

open Plan

namespace Disk

/-! ## What an installation relies on -/

/-- The mark of a directory is made as a file of its own, and the archives that are read spare it. -/
def LeavesMark
    (workingDirectory : Location)
    (directory : Path) :
    (action : Action) → Disk → action.Reply → Disk → Prop
  | .appendFile path _, _, reply, after =>
      path = directory.within .installing →
      reply = (.ok () : Except DiskFault Unit) →
      ∃ mode, after.status workingDirectory false path = .ok ⟨.file, mode⟩
  | .readFile archive, disk, reply, _ =>
      ∀ bytes kind contents left there,
        reply = (.ok bytes : Except DiskFault Bytes) →
        Archive.Kind.ofName? archive.fileNameText = some kind →
        Archive.Contents.read? kind bytes = some contents →
        disk.LeadsTo workingDirectory directory left there →
        contents.Spares disk there
  | _, _, _, _ => True

/-- How a disk answers an installation in a directory. -/
def AnswersInstall
    (workingDirectory : Location)
    (children : Children)
    (directory : Path) :
    Stepping Disk :=
  fun action disk reply after =>
    Answers workingDirectory children action disk reply after ∧
      LeavesMark workingDirectory directory action disk reply after

/--
A process of `unzip` adds to the disk and replaces files and links, but it does not replace the mark of
the directory that it unpacks into.
-/
structure UnzipsBeside
    (workingDirectory : Location)
    (children : Children)
    (directory : Path) :
    Prop where
  overlays :
    ∀ child (disk : Disk) reply (after : Disk),
      children child disk reply after →
      child.program = "unzip" →
      ∃ middle : Disk, disk.Grows middle ∧ middle.Wears after
  spares :
    ∀ (start : Disk) place child (disk : Disk) reply (after : Disk),
      start.Marked workingDirectory directory place →
      start.Grows disk →
      children child disk reply after →
      child.program = "unzip" →
      ∃ file, after.get? (place ++ [markName]) = some (.file file)

variable {workingDirectory : Location}
variable {children : Children}
variable {directory : Path}

/-- The answers to an installation are answers of the disk. -/
theorem answersBy_install :
    AnswersBy workingDirectory children
      (AnswersInstall workingDirectory children directory) :=
  fun _ _ _ _ => And.left

/-- The archives of an installation are read sparing the mark. -/
theorem readsSparing_install (archive : Path) :
    Archive.ReadsSparing
      (AnswersInstall workingDirectory children directory)
      workingDirectory directory archive :=
  fun _ bytes _ answered kind contents left there =>
    answered.2 bytes kind contents left there rfl

end Disk

/-! ## Traces of an installation -/

/-- An action was answered in some way. -/
def Trace.Has
    {State : Type}
    (trace : Trace State)
    (action : Action)
    (reply : action.Reply) :
    Prop :=
  ∃ after, ⟨action, reply, after⟩ ∈ trace.past

namespace Trace

/-- The mark of a directory was made. -/
def MarkMade (trace : Trace Disk) (directory : Path) : Prop :=
  trace.Has (.appendFile (directory.within .installing) [])
    (.ok () : Except DiskFault Unit)

/-- The mark of a directory was removed. -/
def MarkRemoved (trace : Trace Disk) (directory : Path) : Prop :=
  trace.Has (.removeFile (directory.within .installing))
    (.ok () : Except DiskFault Unit)

/-- The mark of a directory was removed, or the directory has it. -/
def Holds
    (trace : Trace Disk)
    (workingDirectory : Location)
    (directory : Path) :
    Prop :=
  trace.MarkRemoved directory ∨
    trace.state.Marks workingDirectory directory

/-- If the mark was made, then a call accepts its path, and the mark is held. -/
def IsCovered
    (trace : Trace Disk)
    (workingDirectory : Location)
    (directory : Path) :
    Prop :=
  trace.MarkMade directory →
  (directory.within .installing).isUsable = true ∧
    trace.Holds workingDirectory directory

/-- What was answered stays answered. -/
theorem Has.later
    {State : Type}
    {step : Stepping State}
    {trace later : Trace State}
    {action asked : Action}
    {reply : action.Reply}
    {answer : asked.Reply}
    (has : trace.Has action reply)
    (answered : tracing step asked trace answer later) :
    later.Has action reply := by
  obtain ⟨after, member⟩ := has
  exact ⟨after, answered.2 ▸ List.mem_append_left _ member⟩

/-- What is answered last was answered. -/
theorem has_of_answered
    {State : Type}
    {step : Stepping State}
    {trace later : Trace State}
    {action : Action}
    {reply : action.Reply}
    (answered : tracing step action trace reply later) :
    later.Has action reply :=
  ⟨later.state, answered.2 ▸ List.mem_append_right _ (List.mem_singleton.mpr rfl)⟩

end Trace

section

variable {workingDirectory place : Location}
variable {children : Disk.Children}
variable {directory : Path}
variable {step : Stepping Disk}
variable {start disk : Disk}

/-! ## Steps that replace what is installed -/

/-- A plan whose failure is forgiven where something is missing. -/
theorem Plan.Ensures.forgiveMissing
    {State : Type}
    {step : Stepping State}
    {always good bad : State → Prop}
    {plan : Plan (Except DiskFault Unit)}
    {state : State}
    (ensures :
      Ensures step always
        (fun reply last =>
          ((∀ fault, reply = .error fault → fault.isMissing = true) →
              good last) ∧
            bad last)
        plan state) :
    Ensures step always (ending (fun _ => good) (fun _ => bad))
      (Files.forgiveMissing plan) state := by
  refine .bind (ensures.mono (fun _ => id) fun reply last => ?_)
  rintro ⟨isGood, isBad⟩
  cases reply with
  | ok => exact isGood (by simp)
  | error fault =>
      dsimp only
      split
      · rename_i isMissing
        refine isGood ?_
        rintro _ ⟨⟩
        exact isMissing
      · exact isBad

section

variable (answersBy : Disk.AnswersBy workingDirectory children step)

include answersBy

/-- A directory beside the mark is removed, and nothing stands in its place then. -/
theorem ensures_clear
    {name : Name}
    (marked : start.Marked workingDirectory directory place)
    (grows : start.Grows disk)
    (notHere : name.isHere = false)
    (notUp : name.isUp = false)
    (notMark : name ≠ markName) :
    Ensures step (start.Guarded place)
      (ending
        (fun _ last =>
          start.Guarded place last ∧
            ∀ goal existing?,
              last.locate workingDirectory false (directory.child name) =
                  .ok ⟨goal, existing?⟩ →
              existing? = none ∧
                last.Standing (directory.start workingDirectory))
        (fun _ last => start.Guarded place last))
      (Files.removeTree (directory.child name)).run disk := by
  have guarded := marked.guarded grows
  refine .attempt (.forgiveMissing (.ask fun reply after answered => ?_))
  have answers := answersBy _ _ _ _ answered
  have stays := guarded.of_removeTree marked notHere notUp notMark answers
  exact ⟨stays, fun isGone => ⟨stays, fun _ _ locates =>
    Disk.cleared_of_removeTree answers isGone (marked.standing.grows grows)
      notHere notUp locates⟩, stays⟩

/-- What was unpacked is moved beside the mark, where nothing stands. -/
theorem ensures_move
    {name top : Name}
    (marked : start.Marked workingDirectory directory place)
    (guarded : start.Guarded place disk)
    (cleared :
      ∀ goal existing?,
        disk.locate workingDirectory false (directory.child name) =
            .ok ⟨goal, existing?⟩ →
        existing? = none ∧
          disk.Standing (directory.start workingDirectory))
    (notHere : name.isHere = false)
    (notUp : name.isUp = false)
    (notMark : name ≠ markName)
    (isNamed : top ≠ .text "")
    (topNotMark : top ≠ markName) :
    Ensures step
      (fun later => later.Marks workingDirectory directory)
      (ending
        (fun _ last => last.Marks workingDirectory directory)
        (fun _ last => last.Marks workingDirectory directory))
      (Files.reporting (directory.child top)
        (Plan.ask
          (.rename (directory.child top) (directory.child name)))).run
      disk := by
  refine .attempt (.ask fun reply after answered => ?_)
  cases answersBy _ _ _ _ answered with
  | refused | unchanged =>
      exact ⟨guarded.marks marked, guarded.marks marked⟩
  | brokenOff _ partly => exact partly.elim
  | done renames =>
      have marks :=
        Disk.marks_of_rename guarded marked notHere notUp notMark isNamed
          topNotMark cleared renames
      exact ⟨marks, marks⟩

/-- The mark is removed last. -/
theorem ensures_unmark
    {trace : Trace Disk}
    (marks : trace.state.Marks workingDirectory directory) :
    Ensures (tracing step) (fun later => later.Holds workingDirectory directory)
      (ending
        (fun _ last =>
          last.Holds workingDirectory directory ∧
            last.state.IsGone workingDirectory
              (directory.within .installing))
        (fun _ last => last.Holds workingDirectory directory))
      (Files.removeMarker (directory.within .installing)).run trace := by
  refine .attempt (.forgiveMissing (.ask fun reply later answered => ?_))
  have answers := answersBy _ _ _ _ answered.1
  have holds : later.Holds workingDirectory directory := by
    rcases answers.removeFile_cases with isSame | ⟨rfl, -⟩
    · exact Or.inr (isSame ▸ marks)
    · exact Or.inl (Trace.has_of_answered answered)
  exact ⟨holds, fun isGone => ⟨holds,
    Disk.isGone_of_removeFile answers isGone (by decide) (by decide)⟩, holds⟩

/-- Another file is removed, and the mark stays as it was. -/
theorem ensures_discard
    {path : Path}
    {trace : Trace Disk}
    (endsApart : path.endsApart = true)
    (holds : trace.Holds workingDirectory directory) :
    Ensures (tracing step) (fun later => later.Holds workingDirectory directory)
      (fun _ last =>
        last.Holds workingDirectory directory ∧
          (trace.state.IsGone workingDirectory
              (directory.within .installing) →
            last.state.IsGone workingDirectory
              (directory.within .installing)))
      (Files.discardFile path) trace := by
  refine .bind (.ask fun reply later answered => ?_)
  have stillRemoved (removed : trace.MarkRemoved directory) :
      later.Holds workingDirectory directory :=
    Or.inl (removed.later answered)
  rcases (answersBy _ _ _ _ answered.1).removeFile_cases with
    isSame | ⟨-, removes⟩
  · have stillHolds :=
      holds.elim stillRemoved fun marks => Or.inr (isSame ▸ marks)
    exact ⟨stillHolds, stillHolds, fun isGone => isSame ▸ isGone⟩
  · have stillHolds :=
      holds.elim stillRemoved fun marks =>
        Or.inr (marks.of_removeFile endsApart removes)
    exact ⟨stillHolds, stillHolds, fun isGone =>
      isGone.of_fewer (Disk.get?_of_removeFile removes)⟩

end

/-! ## Making the mark -/

/-- A mark that was found as a file of its own stands where its directory leads. -/
theorem Disk.marked_of_status
    {mode : Nat}
    (standing : disk.Standing (directory.start workingDirectory))
    (isFile :
      disk.status workingDirectory false (directory.within .installing) =
        .ok ⟨.file, mode⟩) :
    (directory.within .installing).isUsable = true ∧
      ∃ place, disk.Marked workingDirectory directory place := by
  rw [status] at isFile
  cases finds :
      disk.entryAt workingDirectory false (directory.within .installing) with
  | error fault =>
      rw [finds] at isFile
      simp [Except.map] at isFile
  | ok found =>
      obtain ⟨location, entry⟩ := found
      have locates := Disk.entryAt_eq_ok_iff.mp finds
      obtain ⟨left, there, leads, -, isFound⟩ :=
        Disk.exists_of_locate_child (by decide) (by decide) locates
      obtain ⟨rfl, stands⟩ := Found.mk.inj isFound
      rw [finds] at isFile
      cases entry with
      | directory | link => simp [Except.map, statusOf, kindOf] at isFile
      | file file =>
          exact ⟨(Disk.locate_eq_ok_iff.mp locates).1, there, ⟨left, leads⟩,
            standing, file, stands.symm⟩

/-- Only the answer to the making of the mark tells that it was made. -/
theorem not_markMade_of_makesWay
    {trace : Trace Disk}
    (makesWay : ∀ asked ∈ trace.past, asked.action.makesWay = true) :
    ¬trace.MarkMade directory := by
  rintro ⟨after, member⟩
  simpa [Action.makesWay] using makesWay _ member

/-- Once a mark was made, its directory has it. -/
theorem ensures_createMarker
    {trace : Trace Disk}
    (isFirst : trace.past = [])
    (standing : trace.state.Standing (directory.start workingDirectory)) :
    Ensures
      (tracing (Disk.AnswersInstall workingDirectory children directory))
      (fun later => later.IsCovered workingDirectory directory)
      (ending
        (fun _ last =>
          (directory.within .installing).isUsable = true ∧
            ∃ place, last.state.Marked workingDirectory directory place)
        (fun _ _ => True))
      (Files.createMarker (directory.within .installing)).run trace := by
  have makesWay := Files.makeParents_makesWay (directory.within .installing)
  have grows :
      Ensures
        (tracing (Disk.AnswersInstall workingDirectory children directory))
        (fun later => trace.state.Grows later.state)
        (fun _ later => trace.state.Grows later.state)
        (Files.makeParents (directory.within .installing)).run trace :=
    ((makesWay.mono fun _ => Action.adds_of_makesWay).ensures_grows
      Disk.answersBy_install (.refl trace.state)).traced
  have asked :
      Ensures
        (tracing (Disk.AnswersInstall workingDirectory children directory))
        (fun later =>
          ∀ asked ∈ later.past, asked.action.makesWay = true)
        (fun _ later =>
          ∀ asked ∈ later.past, asked.action.makesWay = true)
        (Files.makeParents (directory.within .installing)).run trace :=
    makesWay.traced (by simp [isFirst])
  refine .bindProcedure ((grows.and asked).mono ?_ ?_)
  · exact fun later holds made => absurd made (not_markMade_of_makesWay holds.2)
  · rintro (fault | value) middle ⟨grown, onlyWay⟩
    · trivial
    · refine .attempt (.ask fun reply later answered => ?_)
      cases reply with
      | error fault =>
          have notMade : ¬later.MarkMade directory := by
            rintro ⟨after, member⟩
            rw [answered.2] at member
            rcases List.mem_append.mp member with before | isLast
            · exact not_markMade_of_makesWay onlyWay ⟨after, before⟩
            · obtain ⟨-, sameReply, -⟩ :=
                Asked.mk.inj (List.mem_singleton.mp isLast)
              cases eq_of_heq sameReply
          exact ⟨fun made => absurd made notMade, trivial⟩
      | ok value =>
          obtain ⟨mode, isFile⟩ := answered.1.2 rfl rfl
          obtain ⟨isUsable, marked⟩ :=
            Disk.marked_of_status
              (standing.grows (grown.trans (answered.1.1.grows rfl))) isFile
          have isMade :
              (directory.within .installing).isUsable = true ∧
                ∃ place, later.state.Marked workingDirectory directory place :=
            ⟨isUsable, marked⟩
          obtain ⟨place, isMarked⟩ := marked
          have marks := (isMarked.guarded (.refl _)).marks isMarked
          exact ⟨fun _ => ⟨isUsable, Or.inr marks⟩, isMade⟩

/-- An installation makes the mark first, and what it does then is done under the mark. -/
theorem ensures_installing
    {trace : Trace Disk}
    {rest : Provisioning Unit}
    (isFirst : trace.past = [])
    (standing : trace.state.Standing (directory.start workingDirectory))
    (fills :
      ∀ place (later : Trace Disk),
        later.state.Marked workingDirectory directory place →
        Ensures
          (tracing (Disk.AnswersInstall workingDirectory children directory))
          (fun last => last.Holds workingDirectory directory)
          (ending
            (fun _ last =>
              last.Holds workingDirectory directory ∧
                last.state.IsGone workingDirectory
                  (directory.within .installing))
            (fun _ last => last.Holds workingDirectory directory))
          rest.run later) :
    Ensures
      (tracing (Disk.AnswersInstall workingDirectory children directory))
      (fun later => later.IsCovered workingDirectory directory)
      (ending
        (fun _ last =>
          last.state.IsGone workingDirectory (directory.within .installing))
        (fun _ _ => True))
      (Provisioning.storing
          (Files.createMarker (directory.within .installing)) >>=
        fun _ => rest).run
      trace := by
  refine .bindProcedure
    (.adaptProcedure ((ensures_createMarker isFirst standing).mono
      (fun _ => id) ?_))
  rintro (fault | value) later
  · exact id
  · rintro ⟨isUsable, place, marked⟩
    refine (fills place later marked).mono
      (fun _ holds _ => ⟨isUsable, holds⟩) ?_
    rintro (fault | value) last
    · exact fun _ => trivial
    · exact And.right

end

end Provision
