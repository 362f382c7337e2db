import Provision.Proofs.Node.Resolution

namespace Provision

/-!
# The log of a resolver

A source that is of no use reports why: a line when it has nothing and can install nothing, two
lines when it could install a runtime and that came to nothing, and a line when its runtime is there
and has the wrong version.  A resolver that fails gives the reports of all its sources, in order,
each under the announcement of its source.
-/

open Plan

namespace NodeRuntime

variable {State : Type}
variable (perform : Surroundings State)

/-- What is missing from a runtime: its program, or else its package manager. -/
inductive Lacks
    (runtime : NodeRuntime)
    (state : State) :
    RuntimeFault → State → Prop where
  | program
      {after : State}
      (noProgram :
        runtime.program?.run perform state = (none, after)) :
      Lacks runtime state (.missingProgram programName) after
  | manager
      {program : Path}
      {between after : State}
      (findsProgram :
        runtime.program?.run perform state = (some program, between))
      (noManager :
        runtime.packageManager?.run perform between = (none, after)) :
      Lacks runtime state (.missingProgram runtime.packageManagerName) after

/-- What is wrong with the version of a runtime: none can be had, or it is not accepted. -/
inductive Misfits
    (runtime : NodeRuntime)
    (requirement : Requirement)
    (state : State) :
    RuntimeFault → State → Prop where
  | unanswered
      {fault : RuntimeFault}
      {after : State}
      (unknown : runtime.version? = none)
      (fails :
        runtime.askVersion.run.run perform state = (.error fault, after)) :
      Misfits runtime requirement state fault after
  | refused
      {version : Version}
      {after : State}
      (hasVersion : runtime.HasVersion perform version state after)
      (refused : requirement.accepts version = false) :
      Misfits runtime requirement state
        (.versionMismatch requirement.text version.toText) after

/-- The check for programs fails exactly for what is missing. -/
theorem run_checkPrograms_eq_error_iff
    {runtime : NodeRuntime}
    {fault : RuntimeFault}
    {state after : State} :
    runtime.checkPrograms.run.run perform state = (.error fault, after) ↔
      runtime.Lacks perform state fault after := by
  rw [checkPrograms_run]
  constructor
  · intro fails
    rcases findsProgram : runtime.program?.run perform state with
      ⟨program?, between⟩
    rw [Plan.run_bind_of_run perform findsProgram] at fails
    cases program? with
    | none =>
        obtain ⟨same, rfl⟩ := Prod.mk.inj fails
        obtain rfl := Except.error.inj same
        exact .program findsProgram
    | some program =>
        rcases findsManager :
            runtime.packageManager?.run perform between with
          ⟨manager?, later⟩
        rw [Plan.run_bind_of_run perform findsManager] at fails
        cases manager? with
        | none =>
            obtain ⟨same, rfl⟩ := Prod.mk.inj fails
            obtain rfl := Except.error.inj same
            exact .manager findsProgram findsManager
        | some manager =>
            cases (Prod.mk.inj fails).1
  · rintro (noProgram | ⟨findsProgram, noManager⟩)
    · rw [Plan.run_bind_of_run perform noProgram]
      rfl
    · rw [Plan.run_bind_of_run perform findsProgram,
        Plan.run_bind_of_run perform noManager]
      rfl

/-- A runtime is complete or lacks something. -/
theorem complete_or_lacks
    (runtime : NodeRuntime)
    (state : State) :
    ∃ after,
      runtime.Complete perform state after ∨
        ∃ fault, runtime.Lacks perform state fault after := by
  obtain ⟨after, complete | incomplete⟩ :=
    runtime.complete_or_incomplete perform state
  · exact ⟨after, Or.inl complete⟩
  · obtain ⟨fault, fails⟩ :=
      run_checkPrograms_of_incomplete perform incomplete
    exact ⟨after, Or.inr ⟨fault,
      (run_checkPrograms_eq_error_iff perform).mp fails⟩⟩

/-- A version that is not accepted is refused with both spellings. -/
theorem requireVersion_eq_error_iff
    {requirement : Requirement}
    {version : Version}
    {fault : RuntimeFault} :
    requireVersion requirement version = .error fault ↔
      requirement.accepts version = false ∧
        .versionMismatch requirement.text version.toText = fault := by
  rw [requireVersion]
  split <;> simp_all

/-- The check of the version fails when the runtime does not give one. -/
theorem run_checkVersion_of_unanswered
    {runtime : NodeRuntime}
    {fault : RuntimeFault}
    {state after : State}
    (unknown : runtime.version? = none)
    (fails :
      runtime.askVersion.run.run perform state = (.error fault, after))
    (requirement : Requirement) :
    ((checkVersion requirement).run.run runtime).run perform state =
      ((.error fault, runtime), after) := by
  rw [checkVersion_run, resolveVersion_run, unknown,
    Plan.run_bind_of_run perform (Plan.run_bind_of_run perform fails)]
  rfl

/-- A runtime has a version, or it does not give one when asked. -/
theorem hasVersion_or_unanswered
    (runtime : NodeRuntime)
    (state : State) :
    (∃ version after, runtime.HasVersion perform version state after) ∨
      ∃ fault after,
        runtime.version? = none ∧
          runtime.askVersion.run.run perform state =
            (.error fault, after) := by
  cases known : runtime.version? with
  | some version =>
      exact Or.inl ⟨version, state, .known known⟩
  | none =>
      rcases answers : runtime.askVersion.run.run perform state with
        ⟨outcome, after⟩
      cases outcome with
      | ok version =>
          exact Or.inl ⟨version, after, .asked known answers⟩
      | error fault =>
          exact Or.inr ⟨fault, after, rfl, rfl⟩

/-- The check of the version fails exactly for what is wrong with it. -/
theorem run_checkVersion_eq_error_iff
    {runtime : NodeRuntime}
    {requirement : Requirement}
    {fault : RuntimeFault}
    {state after : State} :
    (∃ kept,
      ((checkVersion requirement).run.run runtime).run perform state =
        ((.error fault, kept), after)) ↔
      runtime.Misfits perform requirement state fault after := by
  constructor
  · rintro ⟨kept, fails⟩
    rcases runtime.hasVersion_or_unanswered perform state with
      ⟨version, later, hasVersion⟩ | ⟨cause, later, unknown, unanswered⟩
    · rw [run_checkVersion_of_hasVersion perform hasVersion,
        Prod.mk.injEq, Prod.mk.injEq] at fails
      obtain ⟨⟨refused, -⟩, rfl⟩ := fails
      obtain ⟨notAccepted, rfl⟩ := requireVersion_eq_error_iff.mp refused
      exact .refused hasVersion notAccepted
    · rw [run_checkVersion_of_unanswered perform unknown unanswered,
        Prod.mk.injEq, Prod.mk.injEq, Except.error.injEq] at fails
      obtain ⟨⟨rfl, -⟩, rfl⟩ := fails
      exact .unanswered unknown unanswered
  · rintro (⟨unknown, fails⟩ | @⟨version, _, hasVersion, refused⟩)
    · exact ⟨_, run_checkVersion_of_unanswered perform unknown fails _⟩
    · refine ⟨{ runtime with version? := some version }, ?_⟩
      rw [run_checkVersion_of_hasVersion perform hasVersion,
        requireVersion_eq_error_iff.mpr ⟨refused, rfl⟩]

end NodeRuntime

namespace NodeResolver

variable {σ State : Type}
variable (perform : Surroundings State)
variable (resolver : NodeResolver σ)
variable (requirement : Requirement)

/-- Why no runtime of a source is taken that would have to be installed, as a line of the log. -/
inductive InstallsInVain
    (source : NodeSource σ)
    (moment : σ × State) :
    String → σ × State → Prop where
  | declined
      {after : σ × State}
      (asks : resolver.prefersLocal = false)
      (declines :
        runFrom perform (resolver.confirm resolver.package) moment =
          (false, after)) :
      InstallsInVain source moment " * Download skipped" after
  | failed
      {fault : RuntimeFault}
      {allowed after : σ × State}
      (allows : resolver.Allows perform moment allowed)
      (fails :
        runFrom perform source.install.run allowed = (.error fault, after)) :
      InstallsInVain source moment
        (" * Failed downloading: " ++ fault.message) after
  | incomplete
      {runtime : NodeRuntime}
      {fault : RuntimeFault}
      {host : σ}
      {built after : State}
      {allowed : σ × State}
      (allows : resolver.Allows perform moment allowed)
      (installs :
        runFrom perform source.install.run allowed =
          (.ok runtime, (host, built)))
      (lacks : runtime.Lacks perform built fault after) :
      InstallsInVain source moment
        (" * Failed: " ++ fault.message) (host, after)
  | unfit
      {runtime : NodeRuntime}
      {fault : RuntimeFault}
      {host : σ}
      {built found after : State}
      {allowed : σ × State}
      (allows : resolver.Allows perform moment allowed)
      (installs :
        runFrom perform source.install.run allowed =
          (.ok runtime, (host, built)))
      (complete : runtime.Complete perform built found)
      (misfits : runtime.Misfits perform requirement found fault after) :
      InstallsInVain source moment (" * " ++ fault.message) (host, after)

/-- The lines that a source which is of no use leaves in the log. -/
inductive Reports
    (source : NodeSource σ)
    (moment : σ × State) :
    List String → σ × State → Prop where
  | missing
      {probed : NodeRuntime}
      {fault : RuntimeFault}
      {host : σ}
      {state seen : State}
      {after : σ × State}
      (probes :
        runFrom perform source.probe moment = (probed, (host, state)))
      (lacks : probed.Lacks perform state fault seen)
      (fixed :
        runFrom perform source.canInstall (host, seen) = (false, after)) :
      Reports source moment [" * Failed: " ++ fault.message] after
  | installing
      {probed : NodeRuntime}
      {fault : RuntimeFault}
      {host : σ}
      {state seen : State}
      {able after : σ × State}
      {line : String}
      (probes :
        runFrom perform source.probe moment = (probed, (host, state)))
      (lacks : probed.Lacks perform state fault seen)
      (canInstall :
        runFrom perform source.canInstall (host, seen) = (true, able))
      (inVain :
        resolver.InstallsInVain perform requirement source able line after) :
      Reports source moment
        [" * Binaries check failed: " ++ fault.message, line] after
  | unfit
      {probed : NodeRuntime}
      {fault : RuntimeFault}
      {host : σ}
      {state seen after : State}
      (probes :
        runFrom perform source.probe moment = (probed, (host, state)))
      (complete : probed.Complete perform state seen)
      (misfits : probed.Misfits perform requirement seen fault after) :
      Reports source moment [" * " ++ fault.message] (host, after)

/-- Sources report one after the other, each from the moment that the one before has left. -/
inductive ReportsInOrder :
    List (NodeSource σ) → σ × State → List (List String) → σ × State →
      Prop where
  | none (moment : σ × State) : ReportsInOrder [] moment [] moment
  | more
      {source : NodeSource σ}
      {others : List (NodeSource σ)}
      {moment middle after : σ × State}
      {lines : List String}
      {reports : List (List String)}
      (first : resolver.Reports perform requirement source moment lines middle)
      (rest : ReportsInOrder others middle reports after) :
      ReportsInOrder (source :: others) moment (lines :: reports) after

/-- The reports of sources, each under the announcement of its source. -/
def announced
    (sources : List (NodeSource σ))
    (reports : List (List String)) :
    List String :=
  (List.zipWith
    (fun source lines => source.announcement resolver.package :: lines)
    sources reports).flatten

section

variable {perform resolver requirement}

/-- A source that is of no use always says why. -/
theorem Reports.ne_nil
    {source : NodeSource σ}
    {moment after : σ × State}
    {lines : List String}
    (reports :
      resolver.Reports perform requirement source moment lines after) :
    lines ≠ [] := by
  cases reports <;> simp

/-- No report in a row of reports is empty. -/
theorem ReportsInOrder.ne_nil
    {sources : List (NodeSource σ)}
    {moment after : σ × State}
    {reports : List (List String)}
    (inOrder :
      resolver.ReportsInOrder perform requirement sources moment reports
        after) :
    ∀ lines ∈ reports, lines ≠ [] := by
  induction inOrder with
  | none =>
      simp
  | more first _ inductionHypothesis =>
      exact List.forall_mem_cons.mpr ⟨first.ne_nil, inductionHypothesis⟩

/-- There is one report for each source. -/
theorem ReportsInOrder.length_eq
    {sources : List (NodeSource σ)}
    {moment after : σ × State}
    {reports : List (List String)}
    (inOrder :
      resolver.ReportsInOrder perform requirement sources moment reports
        after) :
    reports.length = sources.length := by
  induction inOrder with
  | none =>
      rfl
  | more _ _ inductionHypothesis =>
      simp [inductionHypothesis]

end

/-- A plan that checks for programs first goes on with the fault for what is missing. -/
theorem runFrom_checkPrograms_of_lacks
    {α : Type}
    {runtime : NodeRuntime}
    {fault : RuntimeFault}
    {state after : State}
    (lacks : runtime.Lacks perform state fault after)
    (host : σ)
    (next : Except RuntimeFault Unit → StateT σ Plan α) :
    runFrom perform (StateT.lift runtime.checkPrograms.run >>= next)
        (host, state) =
      runFrom perform (next (.error fault)) (host, after) :=
  runFrom_bind_of_runFrom perform
    (runFrom_lift_of_run perform
      ((NodeRuntime.run_checkPrograms_eq_error_iff perform).mpr lacks) host)

/-- A download is declined exactly if the user is asked and declines. -/
theorem runFrom_mayDownload_eq_false_iff
    {moment after : σ × State} :
    runFrom perform resolver.mayDownload moment = (false, after) ↔
      resolver.prefersLocal = false ∧
        runFrom perform (resolver.confirm resolver.package) moment =
          (false, after) := by
  rw [mayDownload]
  split
  · rename_i prefersLocal
    simp [runFrom_pure, prefersLocal]
  · rename_i notPreferred
    simp [Bool.eq_false_iff.mpr notPreferred]

/-- A runtime is not taken exactly if something is wrong with its version. -/
theorem runFrom_takeFit_eq_error_iff
    {runtime : NodeRuntime}
    {earlier setbacks : List Setback}
    {host : σ}
    {state : State}
    {after : σ × State} :
    runFrom perform (takeFit requirement runtime earlier) (host, state) =
        (.error setbacks, after) ↔
      ∃ fault later,
        runtime.Misfits perform requirement state fault later ∧
          setbacks = earlier ++ [.unfit fault] ∧
            after = (host, later) := by
  rcases checked :
      ((NodeRuntime.checkVersion requirement).run.run runtime).run
        perform state with
    ⟨⟨outcome, kept⟩, later⟩
  rw [takeFit,
    runFrom_bind_of_runFrom perform
      (runFrom_lift_of_run perform checked host)]
  constructor
  · intro fails
    cases outcome with
    | ok =>
        cases (Prod.mk.inj fails).1
    | error fault =>
        obtain ⟨same, rfl⟩ := Prod.mk.inj fails
        exact ⟨fault, later,
          (NodeRuntime.run_checkVersion_eq_error_iff perform).mp
            ⟨kept, checked⟩,
          (Except.error.inj same).symm, rfl⟩
  · rintro ⟨fault, found, misfits, rfl, rfl⟩
    obtain ⟨held, fails⟩ :=
      (NodeRuntime.run_checkVersion_eq_error_iff perform).mpr misfits
    rw [fails, Prod.mk.injEq, Prod.mk.injEq] at checked
    obtain ⟨⟨rfl, -⟩, rfl⟩ := checked
    rfl

/-- No runtime is installed and taken exactly if something stands in the way. -/
theorem runFrom_installFit_eq_error_iff
    {source : NodeSource σ}
    {moment after : σ × State}
    {lines : List String}
    (fault : RuntimeFault) :
    (∃ setbacks,
      runFrom perform (resolver.installFit requirement source fault) moment =
          (.error setbacks, after) ∧
        setbacks.map Setback.line = lines) ↔
      ∃ line,
        resolver.InstallsInVain perform requirement source moment line
            after ∧
          lines = [" * Binaries check failed: " ++ fault.message, line] := by
  constructor
  · rintro ⟨setbacks, fails, rfl⟩
    rcases may : runFrom perform resolver.mayDownload moment with
      ⟨answer, allowed⟩
    rw [installFit, runFrom_bind_of_runFrom perform may] at fails
    cases answer with
    | false =>
        obtain ⟨same, rfl⟩ := Prod.mk.inj fails
        obtain rfl := Except.error.inj same
        obtain ⟨asks, declines⟩ :=
          (runFrom_mayDownload_eq_false_iff perform resolver).mp may
        exact ⟨_, .declined asks declines, rfl⟩
    | true =>
        have allows :=
          (runFrom_mayDownload_eq_true_iff perform resolver).mp may
        rcases installs : runFrom perform source.install.run allowed with
          ⟨outcome, host, built⟩
        rw [if_pos rfl, runFrom_bind_of_runFrom perform installs] at fails
        cases outcome with
        | error failure =>
            obtain ⟨same, rfl⟩ := Prod.mk.inj fails
            obtain rfl := Except.error.inj same
            exact ⟨_, .failed allows installs, rfl⟩
        | ok runtime =>
            obtain ⟨found, complete | ⟨failure, lacks⟩⟩ :=
              runtime.complete_or_lacks perform built
            · have notTaken :=
                (runFrom_checkPrograms_of_complete perform complete host
                  _).symm.trans fails
              obtain ⟨failure, later, misfits, rfl, rfl⟩ :=
                (runFrom_takeFit_eq_error_iff perform requirement).mp notTaken
              exact ⟨_, .unfit allows installs complete misfits, rfl⟩
            · have failed :=
                (runFrom_checkPrograms_of_lacks perform lacks host
                  _).symm.trans fails
              obtain ⟨same, rfl⟩ := Prod.mk.inj failed
              obtain rfl := Except.error.inj same
              exact ⟨_, .incomplete allows installs lacks, rfl⟩
  · rintro ⟨line, inVain, rfl⟩
    cases inVain with
    | declined asks declines =>
        have may :=
          (runFrom_mayDownload_eq_false_iff perform resolver).mpr
            ⟨asks, declines⟩
        refine ⟨[.incomplete fault, .declined], ?_, rfl⟩
        rw [installFit, runFrom_bind_of_runFrom perform may]
        rfl
    | @failed failure allowed _ allows fails =>
        have may :=
          (runFrom_mayDownload_eq_true_iff perform resolver).mpr allows
        refine ⟨[.incomplete fault, .installFailed failure], ?_, rfl⟩
        rw [installFit, runFrom_bind_of_runFrom perform may, if_pos rfl,
          runFrom_bind_of_runFrom perform fails]
        rfl
    | @incomplete runtime failure host _ _ _ allows installs lacks =>
        have may :=
          (runFrom_mayDownload_eq_true_iff perform resolver).mpr allows
        refine ⟨[.incomplete fault, .unusable failure], ?_, rfl⟩
        rw [installFit, runFrom_bind_of_runFrom perform may, if_pos rfl,
          runFrom_bind_of_runFrom perform installs]
        exact runFrom_checkPrograms_of_lacks perform lacks host _
    | @unfit runtime failure host _ _ _ _ allows installs complete misfits =>
        have may :=
          (runFrom_mayDownload_eq_true_iff perform resolver).mpr allows
        refine ⟨[.incomplete fault, .unfit failure], ?_, rfl⟩
        rw [installFit, runFrom_bind_of_runFrom perform may, if_pos rfl,
          runFrom_bind_of_runFrom perform installs]
        refine (runFrom_checkPrograms_of_complete perform complete host
          _).trans ?_
        exact (runFrom_takeFit_eq_error_iff perform requirement).mpr
          ⟨failure, _, misfits, rfl, rfl⟩

/-- A source that is tried in vain has reported why. -/
theorem reports_of_trySource
    {source : NodeSource σ}
    {moment after : σ × State}
    {setbacks : List Setback}
    (fails :
      runFrom perform (resolver.trySource requirement source) moment =
        (.error setbacks, after)) :
    resolver.Reports perform requirement source moment
      (setbacks.map Setback.line) after := by
  rcases probes : runFrom perform source.probe moment with
    ⟨probed, host, state⟩
  rw [trySource, runFrom_bind_of_runFrom perform probes] at fails
  obtain ⟨seen, complete | ⟨fault, lacks⟩⟩ :=
    probed.complete_or_lacks perform state
  · have notTaken :=
      (runFrom_checkPrograms_of_complete perform complete host
        _).symm.trans fails
    obtain ⟨fault, later, misfits, rfl, rfl⟩ :=
      (runFrom_takeFit_eq_error_iff perform requirement).mp notTaken
    exact .unfit probes complete misfits
  · have failed :=
      (runFrom_checkPrograms_of_lacks perform lacks host _).symm.trans fails
    rcases can : runFrom perform source.canInstall (host, seen) with
      ⟨answer, able⟩
    rw [runFrom_bind_of_runFrom perform can] at failed
    cases answer with
    | false =>
        obtain ⟨same, rfl⟩ := Prod.mk.inj failed
        obtain rfl := Except.error.inj same
        exact .missing probes lacks can
    | true =>
        rw [if_pos rfl] at failed
        obtain ⟨line, inVain, lines⟩ :=
          (runFrom_installFit_eq_error_iff perform resolver requirement
            fault).mp ⟨setbacks, failed, rfl⟩
        rw [lines]
        exact .installing probes lacks can inVain

/-- A source that has something to report is tried in vain. -/
theorem trySource_of_reports
    {source : NodeSource σ}
    {moment after : σ × State}
    {lines : List String}
    (reports :
      resolver.Reports perform requirement source moment lines after) :
    ∃ setbacks,
      runFrom perform (resolver.trySource requirement source) moment =
          (.error setbacks, after) ∧
        setbacks.map Setback.line = lines := by
  cases reports with
  | @missing probed fault host _ _ _ probes lacks fixed =>
      refine ⟨[.unusable fault], ?_, rfl⟩
      rw [trySource, runFrom_bind_of_runFrom perform probes]
      refine (runFrom_checkPrograms_of_lacks perform lacks host _).trans ?_
      rw [runFrom_bind_of_runFrom perform fixed]
      rfl
  | @installing probed fault host _ _ _ _ _ probes lacks canInstall inVain =>
      obtain ⟨setbacks, fails, lines⟩ :=
        (runFrom_installFit_eq_error_iff perform resolver requirement
          fault).mpr ⟨_, inVain, rfl⟩
      refine ⟨setbacks, ?_, lines⟩
      rw [trySource, runFrom_bind_of_runFrom perform probes]
      refine (runFrom_checkPrograms_of_lacks perform lacks host _).trans ?_
      rw [runFrom_bind_of_runFrom perform canInstall, if_pos rfl]
      exact fails
  | @unfit probed fault host _ _ _ probes complete misfits =>
      refine ⟨[.unfit fault], ?_, rfl⟩
      rw [trySource, runFrom_bind_of_runFrom perform probes]
      refine (runFrom_checkPrograms_of_complete perform complete host
        _).trans ?_
      exact (runFrom_takeFit_eq_error_iff perform requirement).mpr
        ⟨fault, _, misfits, rfl, rfl⟩

/-- Sources are tried in vain exactly if all of them report, and their reports are the outcome. -/
theorem runFrom_trySources_eq_error_iff
    {sources : List (NodeSource σ)}
    {moment after : σ × State}
    {log : List String} :
    runFrom perform (resolver.trySources requirement sources) moment =
        (.error log, after) ↔
      ∃ reports,
        resolver.ReportsInOrder perform requirement sources moment reports
            after ∧
          log = resolver.announced sources reports := by
  induction sources generalizing moment log with
  | nil =>
      constructor
      · intro fails
        obtain ⟨same, rfl⟩ := Prod.mk.inj fails
        exact ⟨[], .none moment, (Except.error.inj same).symm⟩
      · rintro ⟨reports, inOrder, rfl⟩
        cases inOrder
        rfl
  | cons source others inductionHypothesis =>
      constructor
      · intro fails
        rcases tried :
            runFrom perform (resolver.trySource requirement source) moment with
          ⟨outcome, middle⟩
        cases outcome with
        | ok runtime =>
            rw [runFrom_trySources_of_ok tried] at fails
            cases (Prod.mk.inj fails).1
        | error setbacks =>
            have first :=
              reports_of_trySource perform resolver requirement tried
            rcases run :
                runFrom perform (resolver.trySources requirement others)
                  middle with
              ⟨others?, last⟩
            rw [runFrom_trySources_of_error tried run] at fails
            obtain ⟨same, rfl⟩ := Prod.mk.inj fails
            cases others? with
            | ok runtime =>
                cases same
            | error lines =>
                obtain rfl := Except.error.inj same
                obtain ⟨reports, rest, rfl⟩ := inductionHypothesis.mp run
                exact ⟨_ :: reports, .more first rest, rfl⟩
      · rintro ⟨_, inOrder, rfl⟩
        cases inOrder with
        | @more _ _ _ middle _ lines reports first rest =>
            obtain ⟨setbacks, tried, rfl⟩ :=
              trySource_of_reports perform resolver requirement first
            have run := inductionHypothesis.mpr ⟨reports, rest, rfl⟩
            exact runFrom_trySources_of_error tried run

/--
A resolver fails exactly if all its sources have something to report.  The fault names the package
and holds the whole log: the line of the start, for each source in order its announcement and the
lines that it reports, of which there is one at least, and the line of the end.
-/
theorem resolve_fails_with_reports
    {moment after : σ × State}
    {fault : RuntimeFault} :
    runFrom perform (resolver.resolve requirement).run moment =
        (.error fault, after) ↔
      ∃ reports,
        resolver.ReportsInOrder perform requirement resolver.sources moment
            reports after ∧
          (reports.length = resolver.sources.length ∧
            ∀ lines ∈ reports, lines ≠ []) ∧
          fault =
            .unresolved resolver.package
              ("--- lsp_utils Node.js resolving start ---" ::
                (resolver.announced resolver.sources reports ++
                  ["--- lsp_utils Node.js resolving end ---"])) := by
  rcases tried :
      runFrom perform (resolver.trySources requirement resolver.sources)
        moment with
    ⟨outcome, last⟩
  rw [runFrom_resolve_of_trySources tried]
  constructor
  · intro fails
    obtain ⟨same, rfl⟩ := Prod.mk.inj fails
    cases outcome with
    | ok runtime =>
        cases same
    | error lines =>
        obtain rfl := Except.error.inj same
        obtain ⟨reports, inOrder, rfl⟩ :=
          (runFrom_trySources_eq_error_iff perform resolver requirement).mp
            tried
        exact ⟨reports, inOrder, ⟨inOrder.length_eq, inOrder.ne_nil⟩, rfl⟩
  · rintro ⟨reports, inOrder, -, rfl⟩
    have fails :=
      (runFrom_trySources_eq_error_iff perform resolver requirement).mpr
        ⟨reports, inOrder, rfl⟩
    obtain ⟨rfl, rfl⟩ := Prod.mk.inj (tried.symm.trans fails)
    rfl

end NodeResolver

end Provision
