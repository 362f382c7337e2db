import Provision.Node.Resolution
import Provision.Proofs.Node.Checks

namespace Provision.NodeResolver

/-!
# Trying a source

A source provides a runtime if the one that it is probed for is complete, or else if it may install
one and that one is complete.  It yields the runtime if there is a version and the requirement
accepts it.  A source that is tried succeeds exactly with the runtime that it yields.
-/

open Plan

variable {σ State : Type}
variable (perform : Surroundings State)
variable (resolver : NodeResolver σ)
variable (requirement : Requirement)

/-- A download is allowed: the storage is preferred, or the user agrees. -/
inductive Allows (moment : σ × State) : σ × State → Prop where
  | preferred
      (prefersLocal : resolver.prefersLocal = true) :
      Allows moment moment
  | confirmed
      {after : σ × State}
      (asks : resolver.prefersLocal = false)
      (agrees :
        runFrom perform (resolver.confirm resolver.package) moment =
          (true, after)) :
      Allows moment after

/-- A source provides a complete runtime, which it may have to install. -/
inductive Provides
    (source : NodeSource σ)
    (moment : σ × State) :
    NodeRuntime → σ × State → Prop where
  | present
      {runtime : NodeRuntime}
      {host : σ}
      {state after : State}
      (probes :
        runFrom perform source.probe moment = (runtime, (host, state)))
      (complete : runtime.Complete perform state after) :
      Provides source moment runtime (host, after)
  | installed
      {lacking runtime : NodeRuntime}
      {host installer : σ}
      {state seen built after : State}
      {able allowed : σ × State}
      (probes :
        runFrom perform source.probe moment = (lacking, (host, state)))
      (incomplete : lacking.Incomplete perform state seen)
      (canInstall :
        runFrom perform source.canInstall (host, seen) = (true, able))
      (allows : resolver.Allows perform able allowed)
      (installs :
        runFrom perform source.install.run allowed =
          (.ok runtime, (installer, built)))
      (complete : runtime.Complete perform built after) :
      Provides source moment runtime (installer, after)

/-- A source yields the runtime that it provides, with a version that is accepted. -/
inductive Yields
    (source : NodeSource σ)
    (moment : σ × State)
    (runtime : NodeRuntime) :
    σ × State → Prop where
  | fit
      {provided : NodeRuntime}
      {version : Version}
      {host : σ}
      {state after : State}
      (provides :
        resolver.Provides perform source moment provided (host, state))
      (hasVersion : provided.HasVersion perform version state after)
      (accepted : requirement.accepts version = true)
      (kept : runtime = { provided with version? := some version }) :
      Yields source moment runtime (host, after)

/-- A source is usable from a moment if it yields some runtime. -/
def IsUsable (source : NodeSource σ) (moment : σ × State) : Prop :=
  ∃ runtime after,
    resolver.Yields perform requirement source moment runtime after

section

variable {perform resolver requirement}

/-- A runtime that is yielded is complete and has an accepted version. -/
theorem Yields.complete
    {source : NodeSource σ}
    {moment after : σ × State}
    {runtime : NodeRuntime}
    (yields :
      resolver.Yields perform requirement source moment runtime after) :
    (∃ state found, runtime.Complete perform state found) ∧
      ∃ version,
        runtime.version? = some version ∧
          requirement.accepts version = true := by
  obtain ⟨provides, hasVersion, accepted, rfl⟩ := yields
  refine ⟨?_, _, rfl, accepted⟩
  -- Where the programs are looked for does not depend on the version.
  rcases provides with ⟨-, complete⟩ | ⟨-, -, -, -, -, complete⟩
  · rcases complete with ⟨findsProgram, findsManager⟩
    exact ⟨_, _, .found findsProgram findsManager⟩
  · rcases complete with ⟨findsProgram, findsManager⟩
    exact ⟨_, _, .found findsProgram findsManager⟩

end

/-- A plan that checks a complete runtime first goes on with the success. -/
theorem runFrom_checkPrograms_of_complete
    {α : Type}
    {runtime : NodeRuntime}
    {state after : State}
    (complete : runtime.Complete perform state after)
    (host : σ)
    (next : Except RuntimeFault Unit → StateT σ Plan α) :
    runFrom perform (StateT.lift runtime.checkPrograms.run >>= next)
        (host, state) =
      runFrom perform (next (.ok ())) (host, after) :=
  runFrom_bind_of_runFrom perform
    (runFrom_lift_of_run perform
      (NodeRuntime.run_checkPrograms_of_complete perform complete) host)

/-- A plan that checks an incomplete runtime first goes on with a fault. -/
theorem runFrom_checkPrograms_of_incomplete
    {α : Type}
    {runtime : NodeRuntime}
    {state after : State}
    (incomplete : runtime.Incomplete perform state after)
    (host : σ)
    (next : Except RuntimeFault Unit → StateT σ Plan α) :
    ∃ fault,
      runFrom perform (StateT.lift runtime.checkPrograms.run >>= next)
          (host, state) =
        runFrom perform (next (.error fault)) (host, after) := by
  obtain ⟨fault, fails⟩ :=
    NodeRuntime.run_checkPrograms_of_incomplete perform incomplete
  exact ⟨fault, runFrom_bind_of_runFrom perform
    (runFrom_lift_of_run perform fails host)⟩

/-- A download may start exactly if it is allowed. -/
theorem runFrom_mayDownload_eq_true_iff
    {moment after : σ × State} :
    runFrom perform resolver.mayDownload moment = (true, after) ↔
      resolver.Allows perform moment after := by
  rw [mayDownload]
  constructor
  · intro may
    split at may
    · rename_i prefersLocal
      rw [runFrom_pure, Prod.mk.injEq] at may
      rw [← may.2]
      exact .preferred prefersLocal
    · rename_i notPreferred
      exact .confirmed (Bool.eq_false_iff.mpr notPreferred) may
  · rintro (prefersLocal | ⟨asks, agrees⟩)
    · rw [if_pos prefersLocal, runFrom_pure]
    · rw [if_neg (Bool.eq_false_iff.mp asks), agrees]

/-- A runtime is taken exactly if it has a version that is accepted. -/
theorem runFrom_takeFit_eq_ok_iff
    {runtime fit : NodeRuntime}
    {setbacks : List Setback}
    {host : σ}
    {state : State}
    {after : σ × State} :
    runFrom perform (takeFit requirement runtime setbacks)
          (host, state) =
        (.ok fit, after) ↔
      ∃ version later,
        runtime.HasVersion perform version state later ∧
          requirement.accepts version = true ∧
            fit = { runtime with version? := some version } ∧
              after = (host, later) := by
  rcases checked :
      ((NodeRuntime.checkVersion requirement).run.run runtime).run
        perform state with
    ⟨⟨outcome, kept⟩, later⟩
  rw [takeFit,
    runFrom_bind_of_runFrom perform
      (runFrom_lift_of_run perform checked host)]
  constructor
  · intro taken
    cases outcome with
    | ok =>
        rw [runFrom_pure, Prod.mk.injEq, Except.ok.injEq] at taken
        obtain ⟨version, hasVersion, accepted, isFit⟩ :=
          (NodeRuntime.run_checkVersion_eq_ok_iff perform).mp checked
        exact ⟨version, later, hasVersion, accepted,
          taken.1.symm.trans isFit, taken.2.symm⟩
    | error fault =>
        rw [runFrom_pure] at taken
        simp at taken
  · rintro ⟨version, found, hasVersion, accepted, rfl, rfl⟩
    have passes :=
      (NodeRuntime.run_checkVersion_eq_ok_iff perform).mpr
        ⟨version, hasVersion, accepted, rfl⟩
    rw [passes, Prod.mk.injEq, Prod.mk.injEq] at checked
    obtain ⟨⟨rfl, rfl⟩, rfl⟩ := checked
    rfl

/-- A runtime is installed and taken exactly if nothing stands in its way. -/
theorem runFrom_installFit_eq_ok_iff
    {source : NodeSource σ}
    {fault : RuntimeFault}
    {moment after : σ × State}
    {fit : NodeRuntime} :
    runFrom perform (resolver.installFit requirement source fault)
          moment =
        (.ok fit, after) ↔
      ∃ runtime allowed host built,
        resolver.Allows perform moment allowed ∧
          runFrom perform source.install.run allowed =
              (.ok runtime, (host, built)) ∧
            ∃ found,
              runtime.Complete perform built found ∧
                runFrom perform
                    (takeFit requirement runtime [.incomplete fault])
                    (host, found) =
                  (.ok fit, after) := by
  constructor
  · intro installed
    rcases may : runFrom perform resolver.mayDownload moment with
      ⟨answer, allowed⟩
    rw [installFit, runFrom_bind_of_runFrom perform may] at installed
    cases answer with
    | false =>
        simp [runFrom_pure] at installed
    | true =>
        rcases installs : runFrom perform source.install.run allowed with
          ⟨outcome, host, built⟩
        rw [if_pos rfl, runFrom_bind_of_runFrom perform installs]
          at installed
        cases outcome with
        | error failure =>
            simp [runFrom_pure] at installed
        | ok runtime =>
            obtain ⟨found, complete | incomplete⟩ :=
              runtime.complete_or_incomplete perform built
            · refine ⟨runtime, allowed, host, built,
                (runFrom_mayDownload_eq_true_iff perform resolver).mp may,
                installs, found, complete, ?_⟩
              exact (runFrom_checkPrograms_of_complete perform complete host
                _).symm.trans installed
            · obtain ⟨failure, checks⟩ :=
                runFrom_checkPrograms_of_incomplete perform incomplete host _
              have failed := checks.symm.trans installed
              simp [runFrom_pure] at failed
  · rintro ⟨runtime, allowed, host, built, allows, installs, found,
      complete, taken⟩
    have may :=
      (runFrom_mayDownload_eq_true_iff perform resolver).mpr allows
    rw [installFit, runFrom_bind_of_runFrom perform may, if_pos rfl,
      runFrom_bind_of_runFrom perform installs]
    exact (runFrom_checkPrograms_of_complete perform complete host
      _).trans taken

/-- A source that is tried with success yields the runtime. -/
theorem yields_of_trySource
    {source : NodeSource σ}
    {moment after : σ × State}
    {runtime : NodeRuntime}
    (tried :
      runFrom perform (resolver.trySource requirement source) moment =
        (.ok runtime, after)) :
    resolver.Yields perform requirement source moment runtime after := by
  rcases probes : runFrom perform source.probe moment with
    ⟨probed, host, state⟩
  rw [trySource, runFrom_bind_of_runFrom perform probes] at tried
  obtain ⟨seen, complete | incomplete⟩ :=
    probed.complete_or_incomplete perform state
  · have taken :=
      (runFrom_checkPrograms_of_complete perform complete host
        _).symm.trans tried
    obtain ⟨version, later, hasVersion, accepted, kept, rfl⟩ :=
      (runFrom_takeFit_eq_ok_iff perform requirement).mp taken
    exact .fit (.present probes complete) hasVersion accepted kept
  · obtain ⟨fault, checks⟩ :=
      runFrom_checkPrograms_of_incomplete perform incomplete host _
    have installed := checks.symm.trans tried
    rcases can : runFrom perform source.canInstall (host, seen) with
      ⟨answer, able⟩
    rw [runFrom_bind_of_runFrom perform can] at installed
    cases answer with
    | false =>
        simp [runFrom_pure] at installed
    | true =>
        rw [if_pos rfl] at installed
        obtain ⟨provided, allowed, installer, built, allows, installs,
          found, complete, taken⟩ :=
          (runFrom_installFit_eq_ok_iff perform resolver requirement).mp
            installed
        obtain ⟨version, later, hasVersion, accepted, kept, rfl⟩ :=
          (runFrom_takeFit_eq_ok_iff perform requirement).mp taken
        exact .fit
          (.installed probes incomplete can allows installs complete)
          hasVersion accepted kept

/-- A source that yields a runtime is tried with success. -/
theorem trySource_of_yields
    {source : NodeSource σ}
    {moment after : σ × State}
    {runtime : NodeRuntime}
    (yields :
      resolver.Yields perform requirement source moment runtime after) :
    runFrom perform (resolver.trySource requirement source) moment =
      (.ok runtime, after) := by
  obtain ⟨provides, hasVersion, accepted, kept⟩ := yields
  rcases provides with ⟨probes, complete⟩ |
    ⟨probes, incomplete, can, allows, installs, complete⟩
  · rw [trySource, runFrom_bind_of_runFrom perform probes]
    refine (runFrom_checkPrograms_of_complete perform complete _
      _).trans ?_
    exact (runFrom_takeFit_eq_ok_iff perform requirement).mpr
      ⟨_, _, hasVersion, accepted, kept, rfl⟩
  · rw [trySource, runFrom_bind_of_runFrom perform probes]
    obtain ⟨fault, checks⟩ :=
      runFrom_checkPrograms_of_incomplete perform incomplete _ _
    refine checks.trans ?_
    rw [runFrom_bind_of_runFrom perform can, if_pos rfl]
    refine (runFrom_installFit_eq_ok_iff perform resolver requirement).mpr
      ⟨_, _, _, _, allows, installs, _, complete, ?_⟩
    exact (runFrom_takeFit_eq_ok_iff perform requirement).mpr
      ⟨_, _, hasVersion, accepted, kept, rfl⟩

/-- A source that is tried succeeds exactly with the runtime that it yields. -/
theorem runFrom_trySource_eq_ok_iff
    {source : NodeSource σ}
    {moment after : σ × State}
    {runtime : NodeRuntime} :
    runFrom perform (resolver.trySource requirement source) moment =
        (.ok runtime, after) ↔
      resolver.Yields perform requirement source moment runtime after :=
  ⟨yields_of_trySource perform resolver requirement,
    trySource_of_yields perform resolver requirement⟩

end Provision.NodeResolver
