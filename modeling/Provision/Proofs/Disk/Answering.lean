import Provision.Proofs.Disk.Removal
import Provision.Proofs.Plan.Stopping

namespace Provision

/-!
# How disks answer

A disk answers an action as its call says, or with a fault of the device, and a call that breaks off
may leave a part of its work.  Only that something is missing is never told without need.  What a web
server, the surroundings of a process and a child process answer is not determined.  A host is one of
the ways in which a disk answers.
-/

namespace Disk

/-- What child processes do: the disk before, the answer, and the disk after. -/
abbrev Children :=
  ChildProcess → Disk → Except DiskFault ProcessOutput → Disk → Prop

/-- An answer tells what is so, or that the device failed. -/
inductive Tells {α : Type} (exact : Except DiskFault α) :
    Except DiskFault α → Prop where
  | told : Tells exact exact
  | broken
      {fault : DiskFault}
      (notMissing : fault.isMissing = false) :
      Tells exact (.error fault)

/-- An answer that is no fault is what is so. -/
theorem Tells.eq_ok
    {α : Type}
    {exact : Except DiskFault α}
    {value : α}
    (tells : Tells exact (.ok value)) :
    exact = .ok value := by
  generalize isReply : (Except.ok value : Except DiskFault α) = reply at tells
  cases tells with
  | told => rfl
  | broken => simp at isReply

/--
A call that changes the disk is done, or it is refused and leaves one disk, or it breaks off and leaves
the disk as it was or with a part of the work done.
-/
inductive Does
    (exact : Except DiskFault Disk)
    (refusedLeaves : Disk)
    (isPart : Disk → Prop)
    (disk : Disk) :
    Except DiskFault Unit → Disk → Prop where
  | done
      {after : Disk}
      (isDone : exact = .ok after) :
      Does exact refusedLeaves isPart disk (.ok ()) after
  | refused
      {fault : DiskFault}
      (isRefused : exact = .error fault) :
      Does exact refusedLeaves isPart disk (.error fault) refusedLeaves
  | unchanged
      {fault : DiskFault}
      (notMissing : fault.isMissing = false) :
      Does exact refusedLeaves isPart disk (.error fault) disk
  | brokenOff
      {fault : DiskFault}
      {after : Disk}
      (notMissing : fault.isMissing = false)
      (partly : isPart after) :
      Does exact refusedLeaves isPart disk (.error fault) after

/-- A call that is done as a whole or not at all. -/
abbrev DoesAtOnce (exact : Except DiskFault Disk) (disk : Disk) :
    Except DiskFault Unit → Disk → Prop :=
  Does exact disk (fun _ => False) disk

/-- Some of what is at or below the place of a path is gone. -/
def IsThinned
    (disk : Disk)
    (workingDirectory : Location)
    (path : Path)
    (after : Disk) :
    Prop :=
  ∃ location entry,
    entryAt disk workingDirectory false path = .ok (location, entry) ∧
      ∀ other,
        after.get? other = disk.get? other ∨
          after.get? other = none ∧ location <+: other

/-- The file at a path was opened for a copy and holds something. -/
def IsCopiedInto
    (disk : Disk)
    (workingDirectory : Location)
    (path : Path)
    (after : Disk) :
    Prop :=
  ∃ mode content,
    openFile disk workingDirectory path { mode, content }
        (fun file => { file with mode, content, stamp := none }) =
      .ok after

/-- How an action may be answered from a disk, and the disk that it may leave. -/
def Answers
    (workingDirectory : Location)
    (children : Children) :
    Stepping Disk
  | .status path, disk, reply, after =>
      Tells (disk.status workingDirectory true path) reply ∧ after = disk
  | .linkStatus path, disk, reply, after =>
      Tells (disk.status workingDirectory false path) reply ∧ after = disk
  | .readFile path, disk, reply, after =>
      Tells (disk.readFile workingDirectory path) reply ∧ after = disk
  | .listDirectory path, disk, reply, after =>
      Tells (disk.listDirectory workingDirectory path) reply ∧ after = disk
  | .realPath path, disk, reply, after =>
      Tells (disk.realPath workingDirectory path) reply ∧ after = disk
  | .writeFile path content, disk, reply, after =>
      Does (disk.writeFile workingDirectory path content) disk
        (fun left =>
          ∃ part,
            part <+: content ∧
              disk.writeFile workingDirectory path part = .ok left)
        disk reply after
  | .appendFile path content, disk, reply, after =>
      Does (disk.appendFile workingDirectory path content) disk
        (fun left =>
          ∃ part,
            part <+: content ∧
              disk.appendFile workingDirectory path part = .ok left)
        disk reply after
  | .copyFile source target, disk, reply, after =>
      Does (disk.copyFile workingDirectory source target) disk
        (disk.IsCopiedInto workingDirectory target) disk reply after
  | .makeDirectory path, disk, reply, after =>
      DoesAtOnce (disk.makeDirectory workingDirectory path 0o755) disk reply
        after
  | .makeTemporary parent opening, disk, reply, after =>
      (∃ path,
          disk.makeTemporary workingDirectory parent opening =
              .ok (path, after) ∧
            reply = .ok path) ∨
        ∃ fault : DiskFault, reply = .error fault ∧ after = disk
  | .makeLink target path, disk, reply, after =>
      DoesAtOnce (disk.makeLink workingDirectory target path) disk reply after
  | .makeHardLink existing path, disk, reply, after =>
      DoesAtOnce (disk.makeHardLink workingDirectory existing path) disk reply
        after
  | .changeMode path mode, disk, reply, after =>
      DoesAtOnce (disk.changeMode workingDirectory path mode) disk reply after
  | .setTimes path time, disk, reply, after =>
      DoesAtOnce (disk.setTimes workingDirectory path time) disk reply after
  | .rename source target, disk, reply, after =>
      DoesAtOnce (disk.rename workingDirectory source target) disk reply after
  | .removeFile path, disk, reply, after =>
      DoesAtOnce (disk.removeFile workingDirectory path) disk reply after
  | .removeTree path, disk, reply, after =>
      Does (disk.removeTree workingDirectory path)
        (disk.leftOver workingDirectory path)
        (disk.IsThinned workingDirectory path) disk reply after
  | .environment, disk, _, after => after = disk
  | .fetch _, disk, _, after => after = disk
  | .spawn child, disk, reply, after => children child disk reply after

end Disk

namespace Host

/-- A change of a host is an answer of its disk. -/
theorem does_of_change
    (host : Host)
    (exact : Except DiskFault Disk)
    (isPart : Disk → Prop) :
    Disk.Does exact host.disk isPart host.disk (host.change exact).1
      (host.change exact).2.disk := by
  cases exact with
  | ok disk => exact .done rfl
  | error fault => exact .refused rfl

section

variable (host : Host)

theorem perform_status (path : Path) :
    perform (.status path) host =
      (host.disk.status host.workingDirectory true path, host) :=
  Eq.refl _

theorem perform_makeTemporary
    (parent : Path)
    (opening : String) :
    perform (.makeTemporary parent opening) host =
      match host.disk.makeTemporary host.workingDirectory parent opening with
      | .ok (path, disk) => (.ok path, { host with disk })
      | .error fault => (.error fault, host) :=
  Eq.refl _

theorem perform_removeTree (path : Path) :
    perform (.removeTree path) host =
      match host.disk.removeTree host.workingDirectory path with
      | .ok disk => (.ok (), { host with disk })
      | .error fault =>
          (.error fault,
            { host with
              disk := host.disk.leftOver host.workingDirectory path }) :=
  Eq.refl _

theorem perform_spawn (child : ChildProcess) :
    perform (.spawn child) host = host.spawn child :=
  Eq.refl _

end

/-- A host answers as its disk may, if its child processes do. -/
theorem answers
    {children : Disk.Children}
    (action : Action)
    (host : Host)
    (spawns :
      ∀ child,
        action = .spawn child →
        children child host.disk (host.spawn child).1
          (host.spawn child).2.disk) :
    Disk.Answers host.workingDirectory children action host.disk
      (perform action host).1 (perform action host).2.disk := by
  cases action with
  | status | linkStatus | readFile | listDirectory | realPath =>
      exact ⟨.told, rfl⟩
  | writeFile | appendFile | copyFile | makeDirectory | makeLink | makeHardLink
  | changeMode | setTimes | rename | removeFile =>
      exact host.does_of_change _ _
  | makeTemporary parent opening =>
      rw [perform_makeTemporary]
      cases made :
          host.disk.makeTemporary host.workingDirectory parent opening with
      | ok temporary => exact Or.inl ⟨temporary.1, made, rfl⟩
      | error fault => exact Or.inr ⟨fault, rfl, rfl⟩
  | removeTree path =>
      rw [perform_removeTree]
      cases removed : host.disk.removeTree host.workingDirectory path with
      | ok disk => exact .done removed
      | error fault => exact .refused removed
  | environment => rfl
  | fetch url => rfl
  | spawn child => exact spawns child rfl

/-- A host stays in its working directory, and its process is the same. -/
theorem perform_stays
    (action : Action)
    (host : Host) :
    (perform action host).2.workingDirectory = host.workingDirectory ∧
      (perform action host).2.processId = host.processId := by
  have changed (exact : Except DiskFault Disk) :
      (host.change exact).2.workingDirectory = host.workingDirectory ∧
        (host.change exact).2.processId = host.processId := by
    cases exact <;> exact ⟨rfl, rfl⟩
  cases action with
  | writeFile | appendFile | copyFile | makeDirectory | makeLink | makeHardLink
  | changeMode | setTimes | rename | removeFile =>
      exact changed _
  | makeTemporary parent opening =>
      rw [perform_makeTemporary]
      split <;> exact ⟨rfl, rfl⟩
  | removeTree path =>
      rw [perform_removeTree]
      split <;> exact ⟨rfl, rfl⟩
  | spawn child =>
      rw [perform_spawn, spawn]
      split
      · exact ⟨rfl, rfl⟩
      · split
        · exact ⟨rfl, rfl⟩
        · split <;> exact ⟨rfl, rfl⟩
  | _ => exact ⟨rfl, rfl⟩

/-- A plan that a host runs to its end has a run on its disk. -/
theorem runs_run
    {children : Disk.Children}
    (spawns :
      ∀ child (host : Host),
        children child host.disk (host.spawn child).1
          (host.spawn child).2.disk)
    {α : Type}
    (plan : Plan α)
    (host : Host) :
    Plan.Runs (Disk.Answers host.workingDirectory children) plan host.disk
      (host.run plan).2.disk (some (host.run plan).1) := by
  refine Plan.runs_of_surroundings Host.disk
    (fun now => now.workingDirectory = host.workingDirectory) ?_ plan host
    rfl
  intro action now isHere
  exact ⟨isHere ▸ now.answers action fun child _ => spawns child now,
    (perform_stays action now).1.trans isHere⟩

/-- Surroundings that perform all but child processes as a host does answer as its disk may, if their processes do. -/
theorem answers_of_performs
    {children : Disk.Children}
    {surroundings : Surroundings Host}
    {action : Action}
    {host : Host}
    (performs :
      ∀ action host,
        action.isChild = false →
        surroundings action host = perform action host)
    (spawns :
      ∀ child,
        action = .spawn child →
        children child host.disk (surroundings (.spawn child) host).1
          (surroundings (.spawn child) host).2.disk) :
    Disk.Answers host.workingDirectory children action host.disk
      (surroundings action host).1 (surroundings action host).2.disk := by
  cases isChild : action.isChild with
  | true =>
      cases action with
      | spawn child => exact spawns child rfl
      | _ => simp [Action.isChild] at isChild
  | false =>
      rw [performs action host isChild]
      refine host.answers action fun child isSpawn => ?_
      simp [isSpawn, Action.isChild] at isChild

/-- A host with a disk and little more, for a process that works in the root directory. -/
def ofDisk (disk : Disk) : Host where
  disk := disk
  web := { base := "", isOnline := false }
  environment := []
  workingDirectory := []

/-- A plan that is run on a disk and little more has a run there, if any process may do anything. -/
theorem runs_ofDisk
    {α : Type}
    (plan : Plan α)
    (disk : Disk) :
    Plan.Runs (Disk.Answers [] fun _ _ _ _ => True) plan disk
      ((ofDisk disk).run plan).2.disk (some ((ofDisk disk).run plan).1) :=
  runs_run (fun _ _ => trivial) plan (ofDisk disk)

end Host

end Provision
