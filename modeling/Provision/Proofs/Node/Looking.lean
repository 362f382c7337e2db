import Provision.Node.Resolution
import Provision.Proofs.Node.Checks
import Provision.Proofs.Plan.Asking

namespace Provision

/-!
# Looking for a runtime

Whether a runtime is there is found out by looking alone.  Its version is asked of the runtime, which
is a child process; nothing else is done for it.
-/

open Plan

/-- Actions that look are quiet. -/
theorem Action.isQuiet_of_looks
    {action : Action}
    (looks : action.looks = true) :
    action.isQuiet = true := by
  simp [isQuiet, looks]

/-- Actions that look run nothing, in whatever directory. -/
theorem Action.runsIn_of_looks
    (directory : Option Path)
    (action : Action)
    (looks : action.looks = true) :
    action.runsIn directory = true := by
  cases action <;> first | exact looks | simp [Action.looks] at looks

/-- Actions that run something in a directory are quiet. -/
theorem Action.isQuiet_of_runsIn
    {directory : Option Path}
    {action : Action}
    (runsIn : action.runsIn directory = true) :
    action.isQuiet = true := by
  cases action with
  | spawn child => rfl
  | _ => exact isQuiet_of_looks runsIn

namespace Files

/-- Whether a path leads to a file is found out by looking. -/
theorem isFile_asksOnly (path : Path) :
    (isFile path).AsksOnly Action.looks := by
  refine .bind (.ask rfl) fun found => ?_
  split <;> exact .done _

/-- Whether a path leads to a directory is found out by looking. -/
theorem isDirectory_asksOnly (path : Path) :
    (isDirectory path).AsksOnly Action.looks := by
  refine .bind (.ask rfl) fun found => ?_
  split <;> exact .done _

/-- The first file among paths is found by looking. -/
theorem firstFile_asksOnly (paths : List Path) :
    (firstFile paths).AsksOnly Action.looks := by
  induction paths with
  | nil =>
      exact .done _
  | cons path others inductionHypothesis =>
      refine (isFile_asksOnly path).bind fun found => ?_
      split
      · exact .done _
      · exact inductionHypothesis

end Files

namespace StoredNode

/-- The program of a stored release is found by looking. -/
theorem program?_asksOnly (node : StoredNode) :
    node.program?.AsksOnly Action.looks := by
  refine (Files.isFile_asksOnly _).bind fun marked => ?_
  split
  · exact .done _
  · exact Files.firstFile_asksOnly _

/-- The script of the package manager is found by looking. -/
theorem npmScript?_asksOnly (node : StoredNode) :
    node.npmScript?.AsksOnly Action.looks := by
  refine (Files.isFile_asksOnly _).bind fun marked => ?_
  split
  · exact .done _
  · exact (Files.isDirectory_asksOnly _).bind fun _ =>
      Files.firstFile_asksOnly _

/-- The directories for a search path are found by looking. -/
theorem leadingPaths_asksOnly (node : StoredNode) :
    node.leadingPaths.AsksOnly Action.looks :=
  node.program?_asksOnly.bind fun _ => .done _

end StoredNode

/-- The files of a stored release of Electron are found by looking. -/
theorem StoredElectron.shown?_asksOnly
    (electron : StoredElectron)
    (place : Path) :
    (electron.shown? place).AsksOnly Action.looks := by
  refine (Files.isFile_asksOnly _).bind fun marked => ?_
  split
  · exact .done _
  · exact Files.firstFile_asksOnly _

namespace Search

/-- The first program among paths is found by looking. -/
theorem firstProgram_asksOnly (paths : List Path) :
    (firstProgram paths).AsksOnly Action.looks := by
  induction paths with
  | nil =>
      exact .done _
  | cons path others inductionHypothesis =>
      refine .bind ?_ fun found => ?_
      · refine .bind (.ask rfl) fun status => ?_
        split <;> exact .done _
      · split
        · exact .done _
        · exact inductionHypothesis

/-- A program on a search path is found by looking. -/
theorem find?_asksOnly
    (name : String)
    (searchPath : Option String) :
    (find? name searchPath).AsksOnly Action.looks := by
  refine .bind (.ask rfl) fun environment => ?_
  split
  · exact .done _
  · exact firstProgram_asksOnly _

end Search

/-- A command is run by starting a child process in its directory. -/
theorem Command.run_asksOnly (command : Command) :
    command.run.run.AsksOnly (Action.runsIn command.workingDirectory) := by
  refine .bind ?_ fun result => ?_
  · exact .bind (.ask rfl) fun environment =>
      .ask (decide_eq_true rfl)
  · split <;> exact .done _

namespace NodeRuntime

/-- A runtime on a search path is found by looking. -/
theorem search_asksOnly (searchPath : Option String) :
    (search searchPath).AsksOnly Action.looks :=
  (Search.find?_asksOnly "node" searchPath).bind fun _ =>
    (Search.find?_asksOnly "npm" searchPath).bind fun _ => .done _

/-- The program of a runtime is found by looking. -/
theorem program?_asksOnly (runtime : NodeRuntime) :
    runtime.program?.AsksOnly Action.looks := by
  obtain ⟨place, version?⟩ := runtime
  cases place with
  | found node npm =>
      exact .done _
  | stored node =>
      exact node.program?_asksOnly
  | electron electron =>
      exact electron.shown?_asksOnly _

/-- A program with a script for it asks for what finding them asks for. -/
theorem scripted_asksOnly
    {allowed : Action → Bool}
    {program script : Plan (Option Path)}
    (findsProgram : program.AsksOnly allowed)
    (findsScript : script.AsksOnly allowed) :
    (scripted program script).AsksOnly allowed := by
  refine findsProgram.bind fun found => ?_
  cases found with
  | none =>
      exact .done _
  | some program =>
      exact findsScript.bind fun _ => .done _

/-- The package manager of a runtime is found by looking. -/
theorem packageManager?_asksOnly (runtime : NodeRuntime) :
    runtime.packageManager?.AsksOnly Action.looks := by
  obtain ⟨place, version?⟩ := runtime
  cases place with
  | found node npm =>
      exact .done _
  | stored node =>
      exact scripted_asksOnly node.program?_asksOnly node.npmScript?_asksOnly
  | electron electron =>
      exact scripted_asksOnly (electron.shown?_asksOnly _)
        (electron.shown?_asksOnly _)

/-- The programs of a runtime are checked by looking. -/
theorem checkPrograms_asksOnly (runtime : NodeRuntime) :
    runtime.checkPrograms.run.AsksOnly Action.looks := by
  refine .bindProcedure (.liftProcedure runtime.program?_asksOnly)
    fun program => ?_
  split
  · exact .done _
  · refine .bindProcedure
      (.liftProcedure runtime.packageManager?_asksOnly) fun manager => ?_
    split <;> exact .done _

/-- The directories that the processes of a runtime need are found by looking. -/
theorem leadingPaths_asksOnly (runtime : NodeRuntime) :
    runtime.leadingPaths.AsksOnly Action.looks := by
  obtain ⟨place, version?⟩ := runtime
  cases place with
  | found node npm =>
      exact .done _
  | stored node =>
      exact node.leadingPaths_asksOnly
  | electron electron =>
      exact .done _

/-- A runtime is asked for its version by looking and by starting a child process where the process works. -/
theorem askVersion_asksOnly (runtime : NodeRuntime) :
    runtime.askVersion.run.AsksOnly (Action.runsIn none) := by
  unfold askVersion scriptCommand command
  simp only [bind_assoc, liftM_bind, liftM_pure, pure_bind]
  refine .bindProcedure ?_ fun program => ?_
  · refine .bindProcedure (.liftProcedure ?_) fun found => ?_
    · exact runtime.program?_asksOnly.mono (Action.runsIn_of_looks none)
    · split <;> exact .done _
  · refine .bindProcedure (.liftProcedure ?_) fun leading => ?_
    · exact runtime.leadingPaths_asksOnly.mono (Action.runsIn_of_looks none)
    · have runs :=
        Command.run_asksOnly {
          program := program.display
          arguments := ["--version"]
          bindings := runtime.bindings
          leadingPaths := leading }
      exact .bindProcedure (runs.adaptProcedure _) fun output => .done _

/-- The version of a runtime is found by looking and by starting a child process where the process works. -/
theorem resolveVersion_asksOnly (runtime : NodeRuntime) :
    (resolveVersion.run.run runtime).AsksOnly (Action.runsIn none) := by
  rw [resolveVersion_run]
  split
  · exact .done _
  · refine runtime.askVersion_asksOnly.bind fun outcome => ?_
    split <;> exact .done _

/-- The version of a runtime is checked by looking and by starting a child process. -/
theorem checkVersion_asksOnly
    (runtime : NodeRuntime)
    (requirement : Requirement) :
    ((checkVersion requirement).run.run runtime).AsksOnly
      Action.isQuiet := by
  rw [checkVersion_run]
  refine (runtime.resolveVersion_asksOnly.mono fun _ =>
    Action.isQuiet_of_runsIn).bind fun resolved => ?_
  split <;> exact .done _

/-- A package manager is run by looking and by starting child processes in the directory of the package. -/
theorem runSteps_asksOnly
    (runtime : NodeRuntime)
    (manager : PackageManager)
    (directory : Path)
    (steps : List (List String)) :
    (runtime.runSteps manager directory steps).run.AsksOnly
      (Action.runsIn (some directory)) := by
  induction steps with
  | nil => exact .done _
  | cons arguments others inductionHypothesis =>
      rw [runSteps]
      refine .bindProcedure ?_ fun command =>
        .bindProcedure ?_ fun _ => inductionHypothesis
      · refine .liftProcedure ?_
        refine (runtime.leadingPaths_asksOnly.mono
          (Action.runsIn_of_looks _)).bind fun _ => .done _
      · have runs :=
          Command.run_asksOnly
            { command with workingDirectory := some directory }
        exact runs.adaptProcedure _

/-- Dependencies are installed by looking and by starting child processes in the directory of the package. -/
theorem installDependencies_asksOnly
    (runtime : NodeRuntime)
    (directory : Path) :
    (runtime.installDependencies directory).run.AsksOnly
      (Action.runsIn (some directory)) := by
  refine .bindProcedure (.liftProcedure ?_) fun isThere => ?_
  · exact (Files.isDirectory_asksOnly directory).mono
      (Action.runsIn_of_looks _)
  · split
    · exact .done _
    · refine .bindProcedure (.liftProcedure ?_) fun manager? => ?_
      · exact runtime.packageManager?_asksOnly.mono
          (Action.runsIn_of_looks _)
      · split
        · exact .done _
        · exact runtime.runSteps_asksOnly _ _ _

end NodeRuntime

end Provision
