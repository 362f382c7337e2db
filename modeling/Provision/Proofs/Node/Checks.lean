import Provision.Node.Basic
import Provision.Proofs.Plan.Asking

namespace Provision.NodeRuntime

/-!
# Checks of a runtime

A runtime is checked for its programs and for its version.  The runs of both checks follow from the
runs of the plans that look for the programs and ask for the version.
-/

variable {State : Type}
variable (perform : Surroundings State)

/-- Both the program and the package manager of a runtime are found. -/
inductive Complete
    (runtime : NodeRuntime)
    (state : State) :
    State → Prop where
  | found
      {program : Path}
      {manager : PackageManager}
      {between after : State}
      (findsProgram :
        runtime.program?.run perform state = (some program, between))
      (findsManager :
        runtime.packageManager?.run perform between =
          (some manager, after)) :
      Complete runtime state after

/-- The program of a runtime is missing, or its package manager is. -/
inductive Incomplete
    (runtime : NodeRuntime)
    (state : State) :
    State → Prop where
  | noProgram
      {after : State}
      (noProgram :
        runtime.program?.run perform state = (none, after)) :
      Incomplete runtime state after
  | noManager
      {program : Path}
      {between after : State}
      (findsProgram :
        runtime.program?.run perform state = (some program, between))
      (noManager :
        runtime.packageManager?.run perform between = (none, after)) :
      Incomplete runtime state after

/-- A runtime has a version: it is known already, or the runtime gives it when asked. -/
inductive HasVersion
    (runtime : NodeRuntime)
    (version : Version)
    (state : State) :
    State → Prop where
  | known
      (known : runtime.version? = some version) :
      HasVersion runtime version state state
  | asked
      {after : State}
      (unknown : runtime.version? = none)
      (answers :
        runtime.askVersion.run.run perform state = (.ok version, after)) :
      HasVersion runtime version state after

/-- The check for programs looks for the program first, and then for the package manager. -/
theorem checkPrograms_run (runtime : NodeRuntime) :
    runtime.checkPrograms.run = do
      match ← runtime.program? with
      | none => return .error (.missingProgram programName)
      | some _ =>
          match ← runtime.packageManager? with
          | none => return .error (.missingProgram runtime.packageManagerName)
          | some _ => return .ok () := by
  rw [checkPrograms, Procedure.run_lift_bind]
  refine bind_congr fun program => ?_
  cases program with
  | none =>
      rfl
  | some program =>
      refine (Procedure.run_lift_bind _ _).trans ?_
      refine bind_congr fun manager => ?_
      cases manager <;> rfl

/-- The check for programs succeeds for a runtime that is complete. -/
theorem run_checkPrograms_of_complete
    {runtime : NodeRuntime}
    {state after : State}
    (complete : runtime.Complete perform state after) :
    runtime.checkPrograms.run.run perform state = (.ok (), after) := by
  rcases complete with ⟨findsProgram, findsManager⟩
  rw [checkPrograms_run, Plan.run_bind_of_run perform findsProgram,
    Plan.run_bind_of_run perform findsManager]
  rfl

/-- The check for programs fails for a runtime that is incomplete. -/
theorem run_checkPrograms_of_incomplete
    {runtime : NodeRuntime}
    {state after : State}
    (incomplete : runtime.Incomplete perform state after) :
    ∃ fault,
      runtime.checkPrograms.run.run perform state =
        (.error fault, after) := by
  rw [checkPrograms_run]
  rcases incomplete with noProgram | ⟨findsProgram, noManager⟩
  · rw [Plan.run_bind_of_run perform noProgram]
    exact ⟨_, rfl⟩
  · rw [Plan.run_bind_of_run perform findsProgram,
      Plan.run_bind_of_run perform noManager]
    exact ⟨_, rfl⟩

/-- A runtime is complete or incomplete. -/
theorem complete_or_incomplete
    (runtime : NodeRuntime)
    (state : State) :
    ∃ after,
      runtime.Complete perform state after ∨
        runtime.Incomplete perform state after := by
  rcases findsProgram : runtime.program?.run perform state with
    ⟨program?, between⟩
  cases program? with
  | none =>
      exact ⟨between, Or.inr (.noProgram findsProgram)⟩
  | some program =>
      rcases findsManager :
          runtime.packageManager?.run perform between with
        ⟨manager?, after⟩
      cases manager? with
      | none =>
          exact ⟨after, Or.inr (.noManager findsProgram findsManager)⟩
      | some manager =>
          exact ⟨after, Or.inl (.found findsProgram findsManager)⟩

/-- A known version is taken, and an unknown one is asked for and kept. -/
theorem resolveVersion_run (runtime : NodeRuntime) :
    resolveVersion.run.run runtime =
      match runtime.version? with
      | some version => return (.ok version, runtime)
      | none => do
          match ← runtime.askVersion.run with
          | .ok version =>
              return (.ok version, { runtime with version? := some version })
          | .error fault => return (.error fault, runtime) := by
  obtain ⟨place, version?⟩ := runtime
  cases version? with
  | some version =>
      rfl
  | none =>
      change (do
        let version ← Procedure.within (askVersion { place })
        set { place, version? := some version : NodeRuntime }
        return version :
          Session NodeRuntime RuntimeFault Version).run.run _ = _
      simp only [Procedure.within, ExceptT.run_bind, StateT.run_bind,
        ExceptT.run_mk, StateT.run_lift, bind_assoc, pure_bind]
      refine bind_congr fun outcome => ?_
      cases outcome <;> rfl

/-- The check of the version holds the version against the requirement. -/
theorem checkVersion_run
    (runtime : NodeRuntime)
    (requirement : Requirement) :
    (checkVersion requirement).run.run runtime = do
      match ← resolveVersion.run.run runtime with
      | (.ok version, kept) =>
          return (requireVersion requirement version, kept)
      | (.error fault, kept) => return (.error fault, kept) := by
  simp only [checkVersion, ExceptT.run_bind, StateT.run_bind]
  refine bind_congr fun resolved => ?_
  obtain ⟨outcome, kept⟩ := resolved
  cases outcome <;> rfl

/-- Nothing happens in the check of a runtime with a known version. -/
theorem checkVersion_run_of_known
    {runtime : NodeRuntime}
    {version : Version}
    (known : runtime.version? = some version)
    (requirement : Requirement) :
    (checkVersion requirement).run.run runtime =
      pure (requireVersion requirement version, runtime) := by
  rw [checkVersion_run, resolveVersion_run, known]
  rfl

/-- A version passes exactly if it is accepted. -/
theorem requireVersion_eq_ok_iff
    {requirement : Requirement}
    {version : Version} :
    requireVersion requirement version = .ok () ↔
      requirement.accepts version = true := by
  rw [requireVersion]
  split <;> simp_all

/-- A runtime that has a version keeps it when the version is checked. -/
theorem run_checkVersion_of_hasVersion
    {runtime : NodeRuntime}
    {version : Version}
    {state after : State}
    (hasVersion : runtime.HasVersion perform version state after)
    (requirement : Requirement) :
    ((checkVersion requirement).run.run runtime).run perform state =
      ((requireVersion requirement version,
          { runtime with version? := some version }), after) := by
  rcases hasVersion with known | ⟨unknown, answers⟩
  · rw [checkVersion_run_of_known known]
    obtain ⟨place, version?⟩ := runtime
    subst known
    rfl
  · rw [checkVersion_run, resolveVersion_run, unknown,
      Plan.run_bind_of_run perform
        (Plan.run_bind_of_run perform answers)]
    rfl

/-- The check of the version succeeds exactly if there is one that is accepted. -/
theorem run_checkVersion_eq_ok_iff
    {runtime fit : NodeRuntime}
    {requirement : Requirement}
    {state after : State} :
    ((checkVersion requirement).run.run runtime).run perform state =
        ((.ok (), fit), after) ↔
      ∃ version,
        runtime.HasVersion perform version state after ∧
          requirement.accepts version = true ∧
            fit = { runtime with version? := some version } := by
  constructor
  · intro succeeds
    cases known : runtime.version? with
    | some version =>
        have hasVersion : runtime.HasVersion perform version state state :=
          .known known
        rw [run_checkVersion_of_hasVersion perform hasVersion,
          Prod.mk.injEq, Prod.mk.injEq] at succeeds
        obtain ⟨⟨accepted, rfl⟩, rfl⟩ := succeeds
        exact ⟨version, hasVersion, requireVersion_eq_ok_iff.mp accepted, rfl⟩
    | none =>
        rcases answers : runtime.askVersion.run.run perform state with
          ⟨outcome, later⟩
        cases outcome with
        | ok version =>
            have hasVersion :
                runtime.HasVersion perform version state later :=
              .asked known answers
            rw [run_checkVersion_of_hasVersion perform hasVersion,
              Prod.mk.injEq, Prod.mk.injEq] at succeeds
            obtain ⟨⟨accepted, rfl⟩, rfl⟩ := succeeds
            exact ⟨version, hasVersion,
              requireVersion_eq_ok_iff.mp accepted, rfl⟩
        | error fault =>
            rw [checkVersion_run, resolveVersion_run, known,
              Plan.run_bind_of_run perform
                (Plan.run_bind_of_run perform answers)] at succeeds
            simp [Plan.run, pure] at succeeds
  · rintro ⟨version, hasVersion, accepted, rfl⟩
    rw [run_checkVersion_of_hasVersion perform hasVersion,
      requireVersion_eq_ok_iff.mpr accepted]

end Provision.NodeRuntime
